import Opscript.Proofs.Sequencer.Alike

/-!
# Strict and lenient runs

A strict sequencer differs from a lenient one by the severity of what it reports, and by two
refusals: of a sequence that is too long, and of an execution of nothing. `Blur.severity` takes the
severity away. As long as a strict run reports neither of the two, nothing stops its requests
(`acceptsAll_of_told`), and so it stays alike to the lenient run of the same requests.
-/

namespace Opscript

/-- The configuration with strict mode on or off, and with all warnings told. -/
def Config.inMode (c : Config) (strict : Bool) : Config :=
  { c with strictMode := strict, ignoreWarnings := false }

/-- The diagnostic with the severity of a lenient policy. -/
def Diagnostic.asWarning (d : Diagnostic) : Diagnostic := { d with severity := .warning }

/-- The kinds that only a strict policy holds against a request. -/
def Diagnostic.Kind.AboutLength (k : Diagnostic.Kind) : Prop :=
  k = .sequenceTooLong ∨ k = .emptySequence

theorem Diagnostic.map_asWarning {ds : List Diagnostic} (h : ∀ d ∈ ds, d.severity = .warning) :
    ds.map asWarning = ds := by
  refine (List.map_congr_left fun d hd => ?_).trans (List.map_id ds)
  obtain ⟨kind, severity, message, span, hints⟩ := d
  obtain rfl : severity = .warning := h _ hd
  rfl

namespace Blur

/-- Severities are not told apart, nor are the levels at which a policy logs. -/
def severity : Blur where
  limit := id
  diagnostic d := some d.asWarning
  event e := some (if e.topic = .policy then { e with level := .warn } else e)

theorem covers_severity : severity.Covers ⟨.strict, false⟩ ⟨.lenient, false⟩ where
  diagnostic v := by
    show some (Policy.diagnostic _ v).asWarning = some (Policy.diagnostic _ v).asWarning
    rw [Policy.diagnostic_eq, Policy.diagnostic_eq]
    rfl
  event _ := rfl
  limit := .inl fun _ => rfl

theorem filterMap_severity (ds : List Diagnostic) :
    ds.filterMap severity.diagnostic = ds.map Diagnostic.asWarning :=
  congrFun List.filterMap_eq_map ds

/-- An answer that hands out nothing but warnings shows in full. -/
theorem blurred_severity {a : Answer} (h : ∀ d ∈ a.taken, d.severity = .warning) :
    a.blurred severity = a := by
  cases a with
  | diagnostics ds =>
    have hds : ds.map Diagnostic.asWarning = ds := Diagnostic.map_asWarning h
    rw [Answer.blurred, filterMap_severity, hds]
  | _ => rfl

theorem map_blurred_severity {answers : List Answer}
    (h : ∀ d ∈ answers.flatMap Answer.taken, d.severity = .warning) :
    answers.map (Answer.blurred severity) = answers := by
  refine (List.map_congr_left fun a ha => ?_).trans (List.map_id answers)
  exact blurred_severity fun d hd => h d (List.mem_flatMap.2 ⟨a, ha, hd⟩)

end Blur

namespace Sequencer

variable {q p : Sequencer}

/-! ## Refusals of a strict policy -/

/-- If a request is stopped, then for its length or for emptiness, and that is reported. -/
theorem perform_of_not_accepts {r : Request} (h : ¬ q.Accepts r) :
    q.policy.isStrict = true ∧
      ∃ v : Violation, v.kind.AboutLength ∧ (q.perform r).2 = (q.report v).2 := by
  have hstrict : q.policy.isStrict = true := by
    simpa using fun hlenient => h (accepts_of_lenient hlenient r)
  refine ⟨hstrict, ?_⟩
  cases r with
  | setSequence s =>
    obtain ⟨v, hkind, hv⟩ := admitted_of_not_admits h false fun q => (true, q.store s)
    rw [perform, setSequence_eq, hv]
    exact ⟨v, .inl hkind, rfl⟩
  | execute s =>
    obtain ⟨-, v, hkind, hv⟩ := execute_of_not_starts h
    rw [perform, hv]
    exact ⟨v, hkind, rfl⟩
  | _ => exact absurd trivial h

/-- A strict policy collects everything that is reported. -/
theorem mem_diagnostics_report (h : q.policy.isStrict = true) (v : Violation) :
    q.policy.diagnostic v ∈ (q.report v).2.diagnostics := by
  rw [diagnostics_report, if_neg]
  · exact List.mem_append_right _ List.mem_cons_self
  · intro hpolicy
    rw [hpolicy] at h
    cases h

/-- If a run reports none of the two, then nothing stops its requests. -/
theorem acceptsAll_of_told {rs : List Request}
    (h : ∀ d ∈ told (q.performAll rs), ¬ d.kind.AboutLength) : q.AcceptsAll rs := by
  induction rs generalizing q with
  | nil => exact trivial
  | cons r rest ih =>
    rw [told_cons] at h
    have hrest := fun d hd => h d (List.mem_append_right _ hd)
    refine ⟨?_, ih hrest⟩
    by_contra hstop
    obtain ⟨hstrict, v, hkind, hv⟩ := perform_of_not_accepts hstop
    have hmem : q.policy.diagnostic v ∈ (q.perform r).2.diagnostics := by
      rw [hv]
      exact mem_diagnostics_report hstrict v
    refine h _ (List.mem_append_right _ (mem_told_of_mem hmem)) ?_
    rwa [Policy.diagnostic_eq]

/-! ## The two runs -/

/-- If construction in strict mode reports none of the two, then it goes the same way in both
modes. -/
theorem alike_ofConfig_inMode {c : Config}
    (h : ∀ d ∈ (ofConfig (c.inMode true)).diagnostics, ¬ d.kind.AboutLength) :
    Alike .severity (ofConfig (c.inMode true)) (ofConfig (c.inMode false)) := by
  have hopened : Alike .severity (opened (c.inMode true)) (opened (c.inMode false)) :=
    alike_opened rfl rfl Blur.covers_severity
  have hlenient : (opened (c.inMode false)).policy.isStrict = false := by
    rw [policy_opened]
    rfl
  rw [← told_building] at h
  rw [ofConfig_eq, ofConfig_eq]
  exact (alike_performAll hopened (acceptsAll_of_told h) (acceptsAll_of_lenient hlenient _)).2

/-- A strict run that reports no length and no emptiness gives the answers of the lenient run, with
errors for warnings, makes the same calls, and ends with the same registries, records, ids, limit
and resolution. It reports as errors what the lenient run reports as warnings. -/
theorem strict_run_agrees_lenient_run (c : Config) (rs : List Request) :
    let strict := (ofConfig (c.inMode true)).performAll rs
    let lenient := (ofConfig (c.inMode false)).performAll rs
    (∀ d ∈ told strict, d.kind ≠ .sequenceTooLong ∧ d.kind ≠ .emptySequence) →
      lenient.1 = strict.1.map (Answer.blurred .severity) ∧
        lenient.1.flatMap Answer.calls = strict.1.flatMap Answer.calls ∧
        Alike .severity strict.2 lenient.2 ∧
        told lenient = (told strict).map Diagnostic.asWarning ∧
        (∀ d ∈ told strict, d.severity = .error) ∧ ∀ d ∈ told lenient, d.severity = .warning := by
  intro strict lenient h
  have hlength : ∀ d ∈ told strict, ¬ d.kind.AboutLength := fun d hd => not_or.2 (h d hd)
  have hstart := alike_ofConfig_inMode fun d hd => hlength d (mem_told_of_mem hd)
  have hlenient : (ofConfig (c.inMode false)).policy.isStrict = false := by
    rw [policy_ofConfig]
    rfl
  obtain ⟨hanswers, hend⟩ := alike_performAll hstart (acceptsAll_of_told hlength)
    (acceptsAll_of_lenient hlenient rs)
  have hwarnings : ∀ d ∈ told lenient, d.severity = .warning :=
    fun d hd => severity_of_mem_told_ofConfig hd
  have hwhole : lenient.1.map (Answer.blurred .severity) = lenient.1 :=
    Blur.map_blurred_severity fun d hd => hwarnings d (List.mem_append_left _ hd)
  have hsame : lenient.1 = strict.1.map (Answer.blurred .severity) :=
    hwhole.symm.trans hanswers.symm
  have htold := filterMap_told hanswers hend
  rw [Blur.filterMap_severity, Blur.filterMap_severity, Diagnostic.map_asWarning hwarnings] at htold
  refine ⟨hsame, ?_, hend, htold.symm, fun d hd => severity_of_mem_told_ofConfig hd, hwarnings⟩
  rw [hsame, flatMap_calls_blurred]

/-- A limit of zero and a record that is not there are reported in both modes, and the execution
between them makes its call. -/
theorem strict_run_agrees_lenient_run_small :
    let c : Config := { operations := [(.int 65, ⟨"a", none⟩)], maxLength := some 0 }
    let rs : List Request := [.append (.int 65) [.int 97], .execute none,
      .remove ⟨9, by decide, by decide⟩, .takeDiagnostics]
    let strict := (ofConfig (c.inMode true)).performAll rs
    let lenient := (ofConfig (c.inMode false)).performAll rs
    (∀ d ∈ told strict, d.kind ≠ .sequenceTooLong ∧ d.kind ≠ .emptySequence) ∧
      (strict.1.flatMap Answer.calls).length = 1 ∧ (told strict).length = 2 ∧
      lenient.1 = strict.1.map (Answer.blurred .severity) ∧
      told lenient = (told strict).map Diagnostic.asWarning := by
  intro c rs strict lenient
  have h : ∀ d ∈ told strict, d.kind ≠ .sequenceTooLong ∧ d.kind ≠ .emptySequence := by
    decide +kernel
  have hrun : (strict.1.flatMap Answer.calls).length = 1 ∧ (told strict).length = 2 := by
    decide +kernel
  obtain ⟨hanswers, -, -, htold, -, -⟩ := strict_run_agrees_lenient_run c rs h
  exact ⟨h, hrun.1, hrun.2, hanswers, htold⟩

end Sequencer

end Opscript
