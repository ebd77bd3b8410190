import Opscript.Proofs.Sequencer.Refusals

/-!
# What a request finds

`found` are the violations that a request finds, read off its input and the state before it, in the
order in which they go to the policy. `Reports q vs q'` says of two states that between them just
the violations `vs` are reported: the diagnostics grow by what the policy collects of them, and
among the events of the policy there is one more for each. That is so between the states before
and behind a request (`reports_perform`), unless it takes the diagnostics out.
-/

namespace Opscript

/-- What is collected of a violation. -/
def Policy.collect (p : Policy) (v : Violation) : List Diagnostic := (p.report v).diagnostic.toList

theorem Policy.flatMap_collect (p : Policy) (vs : List Violation) :
    vs.flatMap p.collect = if p.suppresses then [] else vs.map p.diagnostic := by
  unfold collect
  simp only [diagnostic_report]
  cases p.suppresses with
  | true => exact List.flatMap_eq_nil_iff.2 fun _ _ => rfl
  | false => exact (List.map_eq_flatMap ..).symm

/-- In strict mode each violation has a diagnostic. -/
theorem Policy.flatMap_collect_of_strict {p : Policy} (h : p.isStrict = true)
    (vs : List Violation) : vs.flatMap p.collect = vs.map p.diagnostic := by
  rw [flatMap_collect, suppresses_eq, h]
  rfl

/-- The event of a report. -/
def Log.Event.ofPolicy (e : Log.Event) : Bool := e.topic == .policy

theorem Policy.ofPolicy_report (p : Policy) (v : Violation) :
    (p.report v).event.ofPolicy = true := by
  unfold report
  split <;> rfl

namespace Sequencer

/-- The events of the policy. -/
def policyLog (q : Sequencer) : List Log.Event := q.log.filter Log.Event.ofPolicy

/-- Between `q` and `q'` the violations `vs` are reported. -/
structure Tells (q : Sequencer) (vs : List Violation) (q' : Sequencer) : Prop where
  policy : q'.policy = q.policy
  diagnostics : q'.diagnostics = q.diagnostics ++ vs.flatMap q.policy.collect

/-- Between `q` and `q'` the violations `vs` are reported, and logged by the policy. -/
structure Reports (q : Sequencer) (vs : List Violation) (q' : Sequencer) : Prop
    extends Tells q vs q' where
  events : q'.policyLog = q.policyLog ++ vs.map fun v => (q.policy.report v).event

theorem tells_quiet {q q' : Sequencer} (h : Quiet q q') : Tells q [] q' :=
  ⟨h.policy, h.diagnostics.trans (List.append_nil _).symm⟩

theorem tells_report (q : Sequencer) (v : Violation) : Tells q [v] (q.report v).2 :=
  ⟨rfl, by rw [List.flatMap_singleton]; rfl⟩

theorem Tells.trans {q q' q'' : Sequencer} {vs ws : List Violation} (h : Tells q vs q')
    (h' : Tells q' ws q'') : Tells q (vs ++ ws) q'' where
  policy := h'.policy.trans h.policy
  diagnostics := by
    rw [h'.diagnostics, h.diagnostics, h.policy, List.append_assoc, List.flatMap_append]

theorem reports_nothing {q q' : Sequencer} (h : Quiet q q') (hlog : q'.policyLog = q.policyLog) :
    Reports q [] q' :=
  ⟨tells_quiet h, hlog.trans (List.append_nil _).symm⟩

theorem reports_report (q : Sequencer) (v : Violation) : Reports q [v] (q.report v).2 where
  toTells := tells_report q v
  events := by
    unfold policyLog report
    rw [List.filter_append, List.filter_singleton, Policy.ofPolicy_report]
    rfl

theorem Reports.trans {q q' q'' : Sequencer} {vs ws : List Violation} (h : Reports q vs q')
    (h' : Reports q' ws q'') : Reports q (vs ++ ws) q'' where
  toTells := h.toTells.trans h'.toTells
  events := by rw [h'.events, h.events, h.policy, List.append_assoc, List.map_append]

/-- An event of another part of the program is none of the policy. -/
theorem policyLog_note (q : Sequencer) {e : Log.Event} (h : e.ofPolicy = false) :
    (q.note e).policyLog = q.policyLog := by
  unfold policyLog note
  rw [List.filter_append, List.filter_singleton, h]
  exact List.append_nil _

/-! ## Checks -/

variable {q : Sequencer}

/-- What a check finds is reported, if the act behind it reports nothing. -/
theorem reports_guarded {α β : Type} {check : Except Violation α} (no : β)
    {act : α → β × Sequencer} (h : ∀ a, check = .ok a → Reports q [] (act a).2) :
    Reports q (Violation.of? check).toList (q.guarded check no act).2 := by
  cases hc : check with
  | ok a => exact h a hc
  | error v => exact reports_report q v

theorem reports_gate (q : Sequencer) (n : Nat) :
    Reports q (Violation.of? (checkLength n q.limit)).toList (q.gate n) := by
  unfold gate
  cases checkLength n q.limit with
  | ok => exact reports_nothing ⟨rfl, rfl⟩ rfl
  | error v => exact reports_report q v

/-- What the check of a length finds is reported, and then what the act behind it reports. -/
theorem reports_admitted {β : Type} {n : Nat} (no : β) {act : Sequencer → β × Sequencer}
    {ws : List Violation} (hgo : Reports (q.gate n) ws (act (q.gate n)).2)
    (hstop : ¬ q.Admits n → ws = []) :
    Reports q ((Violation.of? (checkLength n q.limit)).toList ++ ws) (q.admitted n no act).2 := by
  by_cases h : q.Admits n
  · rw [admitted_of_admits h]
    exact (reports_gate q n).trans hgo
  · obtain ⟨hstrict, hn⟩ := Classical.not_imp.1 h
    rw [hstop h, List.append_nil]
    unfold admitted
    cases hv : checkLength n q.limit with
    | ok => exact absurd hv hn
    | error v =>
      simp only [if_pos hstrict]
      exact reports_report q v

/-- Entries are registered one after the other, whatever is found in those before. -/
theorem reports_registerEach {ε : Type} {register : Sequencer → ε → Bool × Sequencer}
    {find : ε → Option Violation} (h : ∀ q e, Reports q (find e).toList (register q e).2)
    (q : Sequencer) (es : List ε) :
    Reports q (es.filterMap find) (registerEach register q es).2 := by
  induction es generalizing q with
  | nil => exact reports_nothing ⟨rfl, rfl⟩ rfl
  | cons e rest ih =>
    rw [List.filterMap_eq_flatMap_toList, List.flatMap_cons, ← List.filterMap_eq_flatMap_toList]
    exact (h q e).trans (ih (register q e).2)

/-! ## Requests -/

/-- A sequence that is empty is found to be so only if that stops its execution. -/
def foundEmpty (q : Sequencer) (n : Nat) : List Violation :=
  if q.policy.isStrict then (Violation.of? (checkNonempty n)).toList else []

/-- The violations that a request finds, in the order in which they are reported. -/
def found (q : Sequencer) : Request → List Violation
  | .registerOperation s _ | .registerValue s _ | .registerLabel _ s =>
    (Violation.of? s.code).toList
  | .registerOperations es | .setOperations es => es.filterMap fun e => Violation.of? e.1.code
  | .registerValues es | .setValues es => es.filterMap fun e => Violation.of? e.1.code
  | .registerLabels es | .setLabels es => es.filterMap fun e => Violation.of? e.2.code
  | .append s ss | .prepend s ss | .insert _ s ss => (Violation.of? (contentOf s ss)).toList
  | .remove id | .index id => (Violation.of? (q.model.checkIndex id)).toList
  | .setSequence s => (Violation.of? (checkLength s.length q.limit)).toList
  | .setLimit n => (Violation.of? (Limit.check n)).toList
  | .execute s =>
    (Violation.of? (checkLength (q.lengthOf s) q.limit)).toList ++ q.foundEmpty (q.lengthOf s)
  | .clearLimit | .setResolution _ | .takeDiagnostics => []

section

variable (q : Sequencer)

theorem reports_registerOperation (s : Symbol) (f : Callback) :
    Reports q (Violation.of? s.code).toList (q.registerOperation s f).2 := by
  rw [registerOperation_eq]
  exact reports_guarded false fun _ _ => reports_nothing ⟨rfl, rfl⟩ rfl

theorem reports_registerValue (s : Symbol) (value : Value) :
    Reports q (Violation.of? s.code).toList (q.registerValue s value).2 := by
  rw [registerValue_eq]
  exact reports_guarded false fun _ _ => reports_nothing ⟨rfl, rfl⟩ rfl

theorem reports_registerLabel (label : String) (s : Symbol) :
    Reports q (Violation.of? s.code).toList (q.registerLabel label s).2 := by
  rw [registerLabel_eq]
  exact reports_guarded false fun _ _ => reports_nothing ⟨rfl, rfl⟩ rfl

theorem reports_registerOperations (es : List (Symbol × Callback)) :
    Reports q (es.filterMap fun e => Violation.of? e.1.code) (q.registerOperations es).2 :=
  reports_registerEach (fun q e => reports_registerOperation q e.1 e.2) q es

theorem reports_registerValues (es : List (Symbol × Value)) :
    Reports q (es.filterMap fun e => Violation.of? e.1.code) (q.registerValues es).2 :=
  reports_registerEach (fun q e => reports_registerValue q e.1 e.2) q es

theorem reports_registerLabels (es : List (String × Symbol)) :
    Reports q (es.filterMap fun e => Violation.of? e.2.code) (q.registerLabels es).2 :=
  reports_registerEach (fun q e => reports_registerLabel q e.1 e.2) q es

theorem reports_add (place : Model → Code → List Code → RecordId × Model) (operation : Symbol)
    (arguments : List Symbol) :
    Reports q (Violation.of? (contentOf operation arguments)).toList
      (q.add place operation arguments).2 := by
  rw [add_eq]
  exact reports_guarded none fun _ _ => reports_nothing ⟨rfl, rfl⟩ rfl

theorem reports_store (s : Sequence) : Reports q [] (q.store s) :=
  reports_nothing ⟨rfl, rfl⟩ (policyLog_note q rfl)

theorem reports_setSequence (s : Sequence) :
    Reports q (Violation.of? (checkLength s.length q.limit)).toList (q.setSequence s).2 := by
  rw [setSequence_eq, ← List.append_nil (Option.toList _)]
  exact reports_admitted false (reports_store (q.gate s.length) s) fun _ => rfl

theorem reports_setLimit (n : Nat) :
    Reports q (Violation.of? (Limit.check n)).toList (q.setLimit n).2 := by
  rw [setLimit_eq]
  exact reports_guarded false fun _ _ => reports_nothing ⟨rfl, rfl⟩ rfl

theorem reports_conclude (run : Run) : Reports q [] (q.conclude run).2 := by
  unfold conclude
  cases run.failure? with
  | none => exact reports_nothing ⟨rfl, rfl⟩ (policyLog_note q rfl)
  | some text => exact reports_nothing ⟨rfl, rfl⟩ rfl

theorem foundEmpty_of_pos {n : Nat} (h : n ≠ 0) : q.foundEmpty n = [] := by
  unfold foundEmpty checkNonempty
  rw [if_neg h]
  exact ite_self _

theorem reports_launch (s : Option Sequence) :
    Reports q (q.foundEmpty (q.lengthOf s)) (q.launch s).2 := by
  by_cases hn : q.lengthOf s = 0
  · cases hq : q.policy.isStrict with
    | true =>
      rw [launch_of_empty_strict hn hq, foundEmpty, hn, hq]
      exact reports_report q _
    | false =>
      rw [launch_of_empty hn hq, foundEmpty, hn, hq]
      exact reports_nothing ⟨rfl, rfl⟩ rfl
  · rw [launch_of_pos hn, foundEmpty_of_pos q hn]
    exact reports_conclude q _

/-- A sequence that is too long is not empty, so that an execution finds one violation at most. -/
theorem reports_execute (s : Option Sequence) :
    Reports q
      ((Violation.of? (checkLength (q.lengthOf s) q.limit)).toList ++ q.foundEmpty (q.lengthOf s))
      (q.execute s).2 := by
  have hgate := gate_eq q (q.lengthOf s)
  have hlaunch := reports_launch (q.gate (q.lengthOf s)) s
  rw [execute_eq]
  refine reports_admitted _ ?_ fun hstop => ?_
  · rw [hgate] at hlaunch ⊢
    exact hlaunch
  · obtain ⟨-, hn⟩ := Classical.not_imp.1 hstop
    refine foundEmpty_of_pos q fun hzero => hn ?_
    rw [hzero]
    exact checkLength_eq_ok_iff.2 fun l _ => Nat.zero_le _

/-- Just what a request finds is reported. -/
theorem reports_perform {r : Request} (h : r ≠ .takeDiagnostics) :
    Reports q (q.found r) (q.perform r).2 := by
  cases r with
  | registerOperation s f => exact reports_registerOperation q s f
  | registerOperations es => exact reports_registerOperations q es
  | setOperations es =>
    have hset := reports_registerOperations { q with operations := .empty } es
    exact ⟨⟨hset.policy, hset.diagnostics⟩, hset.events⟩
  | registerValue s value => exact reports_registerValue q s value
  | registerValues es => exact reports_registerValues q es
  | setValues es =>
    have hset := reports_registerValues { q with values := .empty } es
    exact ⟨⟨hset.policy, hset.diagnostics⟩, hset.events⟩
  | registerLabel label s => exact reports_registerLabel q label s
  | registerLabels es => exact reports_registerLabels q es
  | setLabels es =>
    have hset := reports_registerLabels { q with labels := .empty } es
    exact ⟨⟨hset.policy, hset.diagnostics⟩, hset.events⟩
  | append operation arguments => exact reports_add q Model.append operation arguments
  | prepend operation arguments => exact reports_add q Model.prepend operation arguments
  | insert index operation arguments =>
    exact reports_add q (fun m => m.insert index) operation arguments
  | remove id =>
    show Reports q _ (q.remove id).2
    rw [remove_eq]
    exact reports_guarded false fun _ _ => reports_nothing ⟨rfl, rfl⟩ rfl
  | index id =>
    show Reports q _ (q.index id).2
    rw [index_eq]
    exact reports_guarded none fun _ _ => reports_nothing ⟨rfl, rfl⟩ rfl
  | setSequence s => exact reports_setSequence q s
  | setLimit n => exact reports_setLimit q n
  | clearLimit => exact reports_nothing ⟨rfl, rfl⟩ rfl
  | setResolution resolution => exact reports_nothing ⟨rfl, rfl⟩ rfl
  | execute s => exact reports_execute q s
  | takeDiagnostics => exact absurd rfl h

end

end Sequencer

end Opscript
