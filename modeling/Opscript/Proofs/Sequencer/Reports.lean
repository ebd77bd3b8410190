import Opscript.Proofs.Sequencer.Found

/-!
# What a run reports

Diagnostics are only ever added at the end, by reports, until they are taken out. `told` are the
diagnostics of a whole run, those that were taken out and those that are left, in the order of the
reports; they are what is collected of the violations that the requests of the run find, one after
the other (`foundAll`). The policy stays the same throughout, and its events are those of the same
violations.
-/

namespace Opscript

/-- The diagnostics that an answer hands out. -/
def Answer.taken : Answer → List Diagnostic
  | .diagnostics ds => ds
  | _ => []

theorem Policy.eq_of_mem_collect {p : Policy} {v : Violation} {d : Diagnostic}
    (h : d ∈ p.collect v) : d = p.diagnostic v := by
  unfold collect at h
  rw [diagnostic_report] at h
  split at h
  · cases h
  · rw [Option.toList_some, List.mem_singleton] at h
    exact h

theorem Policy.severity_of_mem_collect {p : Policy} {v : Violation} {d : Diagnostic}
    (h : d ∈ p.collect v) : d.severity = p.severity := by
  rw [eq_of_mem_collect h, diagnostic_eq]

/-- The configuration without its sequence. -/
def Config.bare (c : Config) : Config := { c with sequence := none }

namespace Sequencer

/-- The diagnostics of a run in the order of their reports, also those that were taken out. -/
def told (run : List Answer × Sequencer) : List Diagnostic :=
  run.1.flatMap Answer.taken ++ run.2.diagnostics

/-- The violations that the requests of a run find. -/
def foundAll (q : Sequencer) : List Request → List Violation
  | [] => []
  | r :: rest => q.found r ++ foundAll (q.perform r).2 rest

section

variable (q : Sequencer)

theorem foundAll_append (rs ss : List Request) :
    q.foundAll (rs ++ ss) = q.foundAll rs ++ (q.performAll rs).2.foundAll ss := by
  induction rs generalizing q with
  | nil => rfl
  | cons r rest ih =>
    rw [List.cons_append, foundAll, ih, foundAll, List.append_assoc]
    rfl

/-- Only a request for the diagnostics hands any out. -/
theorem taken_perform {r : Request} (h : r ≠ .takeDiagnostics) : (q.perform r).1.taken = [] := by
  cases r with
  | takeDiagnostics => exact absurd rfl h
  | _ => rfl

/-- What a request hands out and what it leaves are the diagnostics from before and what is
collected of the violations that it finds. -/
theorem told_perform (r : Request) :
    (q.perform r).1.taken ++ (q.perform r).2.diagnostics =
      q.diagnostics ++ (q.found r).flatMap q.policy.collect := by
  by_cases h : r = .takeDiagnostics
  · subst h
    rfl
  · rw [taken_perform q h, List.nil_append, (reports_perform q h).diagnostics]

theorem policy_perform (r : Request) : (q.perform r).2.policy = q.policy := by
  by_cases h : r = .takeDiagnostics
  · subst h
    rfl
  · exact (reports_perform q h).policy

/-- The policy logs the violations that a request finds. -/
theorem policyLog_perform (r : Request) :
    (q.perform r).2.policyLog =
      q.policyLog ++ (q.found r).map fun v => (q.policy.report v).event := by
  by_cases h : r = .takeDiagnostics
  · subst h
    exact (List.append_nil _).symm
  · exact (reports_perform q h).events

theorem policy_performAll (rs : List Request) : (q.performAll rs).2.policy = q.policy := by
  induction rs generalizing q with
  | nil => rfl
  | cons r rest ih => exact (ih _).trans (policy_perform q r)

theorem told_cons (r : Request) (rs : List Request) :
    told (q.performAll (r :: rs)) =
      (q.perform r).1.taken ++ told ((q.perform r).2.performAll rs) := by
  simp only [told, performAll, List.flatMap_cons, List.append_assoc]

/-- The diagnostics of a run are those from before and behind them what is collected of the
violations that it finds. -/
theorem told_performAll (rs : List Request) :
    told (q.performAll rs) = q.diagnostics ++ (q.foundAll rs).flatMap q.policy.collect := by
  induction rs generalizing q with
  | nil => exact (List.append_nil _).symm
  | cons r rest ih =>
    calc told (q.performAll (r :: rest))
        _ = (q.perform r).1.taken ++ told ((q.perform r).2.performAll rest) := told_cons q r rest
        _ = q.diagnostics ++ (q.found r).flatMap q.policy.collect ++
            ((q.perform r).2.foundAll rest).flatMap q.policy.collect := by
          rw [ih, ← List.append_assoc, told_perform, policy_perform]
        _ = q.diagnostics ++ (q.foundAll (r :: rest)).flatMap q.policy.collect := by
          rw [foundAll, List.append_assoc, List.flatMap_append]

/-- The events of the policy are those from before and behind them one for each violation that the
run finds. -/
theorem policyLog_performAll (rs : List Request) :
    (q.performAll rs).2.policyLog =
      q.policyLog ++ (q.foundAll rs).map fun v => (q.policy.report v).event := by
  induction rs generalizing q with
  | nil => exact (List.append_nil _).symm
  | cons r rest ih =>
    calc ((q.perform r).2.performAll rest).2.policyLog
        _ = (q.perform r).2.policyLog ++
            ((q.perform r).2.foundAll rest).map fun v => (q.policy.report v).event := by
          rw [ih, policy_perform]
        _ = q.policyLog ++ (q.foundAll (r :: rest)).map fun v => (q.policy.report v).event := by
          rw [policyLog_perform, foundAll, List.append_assoc, List.map_append]

/-- Just what its requests find is reported in a run that does not take the diagnostics out. -/
theorem reports_performAll {rs : List Request} (h : .takeDiagnostics ∉ rs) :
    Reports q (q.foundAll rs) (q.performAll rs).2 := by
  induction rs generalizing q with
  | nil => exact reports_nothing ⟨rfl, rfl⟩ rfl
  | cons r rest ih =>
    have hr : r ≠ .takeDiagnostics := (List.ne_of_not_mem_cons h).symm
    exact (reports_perform q hr).trans (ih _ (List.not_mem_of_not_mem_cons h))

variable {q}

theorem mem_told_of_mem {rs : List Request} {d : Diagnostic} (h : d ∈ q.diagnostics) :
    d ∈ told (q.performAll rs) := by
  rw [told_performAll]
  exact List.mem_append_left _ h

/-- What a run reports has the severity of the policy. -/
theorem severity_of_mem_told {rs : List Request}
    (h : ∀ d ∈ q.diagnostics, d.severity = q.policy.severity) {d : Diagnostic}
    (hd : d ∈ told (q.performAll rs)) : d.severity = q.policy.severity := by
  rw [told_performAll] at hd
  rcases List.mem_append.1 hd with hd | hd
  · exact h d hd
  · obtain ⟨v, -, hv⟩ := List.mem_flatMap.1 hd
    exact Policy.severity_of_mem_collect hv

end

/-! ## Construction -/

/-- The requests that build a sequencer from a configuration. -/
def building (c : Config) : List Request :=
  (c.maxLength.map Request.setLimit).toList ++
    [.registerOperations c.operations, .registerValues c.values, .registerLabels c.labels] ++
    (c.sequence.map Request.setSequence).toList

/-- The empty sequencer of a configuration, with the issues of the configuration reported. -/
def opened (c : Config) : Sequencer :=
  c.issues.foldl (fun q v => (q.report v).2) { policy := policyOf c, resolution := c.resolution }

theorem ofConfig_eq (c : Config) : ofConfig c = ((opened c).performAll (building c)).2 := by
  unfold ofConfig building opened
  cases c.maxLength <;> cases c.sequence <;> rfl

/-- The sequence of a configuration is set when all the rest is done. -/
theorem ofConfig_of_some {c : Config} {s : Sequence} (h : c.sequence = some s) :
    ofConfig c = ((ofConfig c.bare).setSequence s).2 := by
  unfold ofConfig
  rw [h]
  rfl

theorem reports_foldl_report (q : Sequencer) (vs : List Violation) :
    Reports q vs (vs.foldl (fun q v => (q.report v).2) q) := by
  induction vs generalizing q with
  | nil => exact reports_nothing ⟨rfl, rfl⟩ rfl
  | cons v rest ih => exact (reports_report q v).trans (ih (q.report v).2)

theorem policy_opened (c : Config) : (opened c).policy = policyOf c :=
  (reports_foldl_report _ _).policy

theorem policy_ofConfig (c : Config) : (ofConfig c).policy = policyOf c := by
  rw [ofConfig_eq, policy_performAll, policy_opened]

/-- Nothing is taken out while a sequencer is built. -/
theorem told_building (c : Config) :
    told ((opened c).performAll (building c)) = (ofConfig c).diagnostics := by
  rw [ofConfig_eq]
  unfold told building
  cases c.maxLength <;> cases c.sequence <;> rfl

/-- All that a sequencer tells from its construction on has the severity of its policy. -/
theorem severity_of_mem_told_ofConfig {c : Config} {rs : List Request} {d : Diagnostic}
    (h : d ∈ told ((ofConfig c).performAll rs)) : d.severity = (policyOf c).severity := by
  have hopened : ∀ d ∈ (opened c).diagnostics, d.severity = (opened c).policy.severity := by
    intro d hd
    rw [opened, (reports_foldl_report _ _).diagnostics, List.nil_append] at hd
    obtain ⟨v, -, hv⟩ := List.mem_flatMap.1 hd
    rw [policy_opened]
    exact Policy.severity_of_mem_collect hv
  have hbuilt : ∀ d ∈ (ofConfig c).diagnostics, d.severity = (ofConfig c).policy.severity := by
    intro d hd
    rw [← told_building] at hd
    rw [policy_ofConfig, ← policy_opened]
    exact severity_of_mem_told hopened hd
  rw [← policy_ofConfig]
  exact severity_of_mem_told hbuilt h

end Sequencer

end Opscript
