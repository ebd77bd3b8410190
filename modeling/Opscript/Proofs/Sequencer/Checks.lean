import Opscript.Sequencer.Request

/-!
# How requests are checked

`guarded` acts on what a check gives and refuses on a violation. `admitted` checks a length, and
there the policy says whether a violation stops the request; if it does not, the request goes on
behind the `gate`. Every operation of a sequencer that can refuse is one of the two with an act of
its own, so that what holds of both holds of every request. The act of an execution, `launch`, has
a check of its own, for emptiness; behind it comes a run, which is brought to its end by
`conclude`.
-/

namespace Opscript

/-- A length that is stopped is over the limit; the span is what is too much. -/
theorem checkLength_eq_error {n : Nat} {limit : Option Limit} {v : Violation}
    (h : checkLength n limit = .error v) :
    v.kind = .sequenceTooLong ∧ ∃ l, limit = some l ∧ l.val < n ∧ v.span = some ⟨l.val, n⟩ := by
  cases limit with
  | none => cases h
  | some l =>
    simp only [checkLength] at h
    split at h
    next hl =>
      injection h with h
      exact ⟨h ▸ rfl, l, rfl, hl, h ▸ rfl⟩
    next => cases h

/-- The length is within the limit, if there is one. -/
def Limit.Fits (limit : Option Limit) (n : Nat) : Prop := ∀ l, limit = some l → n ≤ l.val

namespace Sequencer

/-! ## The two ways -/

/-- Acts on what a check gives, or refuses. -/
def guarded {α β : Type} (q : Sequencer) (check : Except Violation α) (no : β)
    (act : α → β × Sequencer) : β × Sequencer :=
  match check with
  | .ok a => act a
  | .error v => q.refuse no v

/-- Acts if a length is within the limit, or else if the policy says to go on. -/
def admitted {β : Type} (q : Sequencer) (n : Nat) (no : β) (act : Sequencer → β × Sequencer) :
    β × Sequencer :=
  match checkLength n q.limit with
  | .ok () => act q
  | .error v => if q.policy.isStrict then q.refuse no v else act (q.report v).2

theorem map_guarded {α β γ : Type} (f : β → γ) (q : Sequencer) (check : Except Violation α) (no : β)
    (act : α → β × Sequencer) :
    (q.guarded check no act).map f id = q.guarded check (f no) fun a => (act a).map f id := by
  cases check <;> rfl

theorem map_admitted {β γ : Type} (f : β → γ) (q : Sequencer) (n : Nat) (no : β)
    (act : Sequencer → β × Sequencer) :
    (q.admitted n no act).map f id = q.admitted n (f no) fun q => (act q).map f id := by
  unfold admitted
  cases checkLength n q.limit with
  | ok => rfl
  | error v => cases h : q.policy.isStrict <;> rfl

/-- The length does not stop the sequencer. -/
def Admits (q : Sequencer) (n : Nat) : Prop :=
  q.policy.isStrict = true → checkLength n q.limit = .ok ()

/-- The sequencer behind the check of a length. -/
def gate (q : Sequencer) (n : Nat) : Sequencer :=
  match checkLength n q.limit with
  | .ok () => q
  | .error v => (q.report v).2

/-- The check of a length leaves all but the diagnostics and the log as it was. -/
theorem gate_eq (q : Sequencer) (n : Nat) :
    q.gate n = { q with diagnostics := (q.gate n).diagnostics, log := (q.gate n).log } := by
  unfold gate
  cases checkLength n q.limit <;> rfl

theorem admits_of_lenient {q : Sequencer} (h : q.policy.isStrict = false) (n : Nat) :
    q.Admits n := by
  intro hq
  rw [h] at hq
  cases hq

theorem admitted_of_ok {β : Type} {q : Sequencer} {n : Nat} (h : checkLength n q.limit = .ok ())
    (no : β) (act : Sequencer → β × Sequencer) : q.admitted n no act = act q := by
  unfold admitted
  rw [h]

theorem admitted_of_admits {β : Type} {q : Sequencer} {n : Nat} (h : q.Admits n) (no : β)
    (act : Sequencer → β × Sequencer) : q.admitted n no act = act (q.gate n) := by
  unfold admitted gate
  cases hn : checkLength n q.limit with
  | ok => rfl
  | error v =>
    refine if_neg fun hq => ?_
    rw [h hq] at hn
    cases hn

/-- A check that stops the length reports that it is too long. -/
theorem admitted_of_not_admits {β : Type} {q : Sequencer} {n : Nat} (h : ¬ q.Admits n) (no : β)
    (act : Sequencer → β × Sequencer) :
    ∃ v : Violation, v.kind = .sequenceTooLong ∧ q.admitted n no act = q.refuse no v := by
  obtain ⟨hstrict, hn⟩ := Classical.not_imp.1 h
  unfold admitted
  cases hv : checkLength n q.limit with
  | ok => exact absurd hv hn
  | error v => exact ⟨v, (checkLength_eq_error hv).1, if_pos hstrict⟩

/-- What holds behind the gate and after a refusal holds of either. -/
theorem admitted_cases {β : Type} {q : Sequencer} {n : Nat} {no : β}
    {act : Sequencer → β × Sequencer} {P : β × Sequencer → Prop}
    (hgo : q.Admits n → P (act (q.gate n))) (hstop : ∀ v, P (q.refuse no v)) :
    P (q.admitted n no act) := by
  by_cases h : q.Admits n
  · rw [admitted_of_admits h]
    exact hgo h
  · obtain ⟨v, -, hv⟩ := admitted_of_not_admits h no act
    rw [hv]
    exact hstop v

/-! ## The operations -/

section

variable (q : Sequencer)

theorem registerOperation_eq (s : Symbol) (f : Callback) :
    q.registerOperation s f =
      q.guarded s.code false fun c => (true, { q with operations := q.operations.insert c f }) := by
  unfold registerOperation
  cases s.code <;> rfl

theorem registerValue_eq (s : Symbol) (value : Value) :
    q.registerValue s value =
      q.guarded s.code false fun c => (true, { q with values := q.values.insert c value }) := by
  unfold registerValue
  cases s.code <;> rfl

theorem registerLabel_eq (label : String) (s : Symbol) :
    q.registerLabel label s =
      q.guarded s.code false fun c => (true, { q with labels := q.labels.insert label c }) := by
  unfold registerLabel
  cases s.code <;> rfl

theorem add_eq (place : Model → Code → List Code → RecordId × Model) (operation : Symbol)
    (arguments : List Symbol) :
    q.add place operation arguments =
      q.guarded (contentOf operation arguments) none fun c =>
        (some (place q.model c.1 c.2).1, { q with model := (place q.model c.1 c.2).2 }) := by
  unfold add
  cases contentOf operation arguments <;> rfl

theorem remove_eq (id : RecordId) :
    q.remove id =
      q.guarded (q.model.checkIndex id) false fun _ =>
        ((q.model.remove id).1.isSome, { q with model := (q.model.remove id).2 }) := by
  unfold remove
  cases q.model.checkIndex id <;> rfl

theorem index_eq (id : RecordId) :
    q.index id = q.guarded (q.model.checkIndex id) none fun i => (some i, q) := by
  unfold index
  cases q.model.checkIndex id <;> rfl

theorem setLimit_eq (n : Nat) :
    q.setLimit n = q.guarded (Limit.check n) false fun l => (true, { q with limit := some l }) := by
  unfold setLimit
  cases Limit.check n <;> rfl

/-- A policy lets a request go on exactly if it is not strict. -/
theorem report_eq (v : Violation) : q.report v = (!q.policy.isStrict, (q.report v).2) := by
  unfold report
  simp only [Policy.proceed_report]

theorem setSequence_eq (s : Sequence) :
    q.setSequence s = q.admitted s.length false fun q => (true, q.store s) := by
  unfold setSequence admitted
  cases checkLength s.length q.limit with
  | ok => rfl
  | error v =>
    simp only
    rw [report_eq]
    cases q.policy.isStrict <;> rfl

theorem execute_eq (s : Option Sequence) :
    q.execute s = q.admitted (q.lengthOf s) ⟨.blocked, .empty⟩ fun q => q.launch s := by
  unfold execute admitted
  cases checkLength (q.lengthOf s) q.limit with
  | ok => rfl
  | error v =>
    simp only
    rw [report_eq]
    cases q.policy.isStrict <;> rfl

/-- The end of a run that was started. -/
def conclude (run : Run) : Execution × Sequencer :=
  match run.failure? with
  | some text => (⟨.failed text, run.made⟩, q)
  | none => (⟨.finished run.stats, run⟩, q.note (executed run.stats))

variable {q}

theorem launch_of_pos {s : Option Sequence} (h : q.lengthOf s ≠ 0) :
    q.launch s = q.conclude (q.runOf s) := by
  unfold launch checkNonempty
  rw [if_neg h]
  rfl

/-- Nothing to run is a run without steps, as long as the policy is lenient. -/
theorem launch_of_empty {s : Option Sequence} (h : q.lengthOf s = 0)
    (hq : q.policy.isStrict = false) : q.launch s = (⟨.finished ⟨0, 0⟩, .empty⟩, q) := by
  unfold launch checkNonempty
  rw [if_pos h]
  simp only [hq, Bool.false_eq_true, if_false]

theorem launch_of_empty_strict {s : Option Sequence} (h : q.lengthOf s = 0)
    (hq : q.policy.isStrict = true) :
    q.launch s = q.refuse ⟨.blocked, .empty⟩ { kind := .emptySequence } := by
  unfold launch checkNonempty
  rw [if_pos h]
  simp only [hq, if_true]

/-- Only a lenient sequencer starts with nothing to run. -/
theorem lenient_of_empty {s : Option Sequence} (h : q.policy.isStrict = true → q.lengthOf s ≠ 0)
    (hn : q.lengthOf s = 0) : q.policy.isStrict = false := by
  rw [← Bool.not_eq_true]
  exact fun hstrict => h hstrict hn

/-- Neither the check of a length nor that of emptiness stops an execution. -/
def Starts (q : Sequencer) (s : Option Sequence) : Prop :=
  q.Admits (q.lengthOf s) ∧ (q.policy.isStrict = true → q.lengthOf s ≠ 0)

/-- What stops an execution is reported, and nothing comes of it. -/
theorem execute_of_not_starts {s : Option Sequence} (h : ¬ q.Starts s) :
    q.policy.isStrict = true ∧ ∃ v : Violation,
      (v.kind = .sequenceTooLong ∨ v.kind = .emptySequence) ∧
        q.execute s = q.refuse ⟨.blocked, .empty⟩ v := by
  rw [execute_eq]
  by_cases hadmits : q.Admits (q.lengthOf s)
  · obtain ⟨hstrict, hempty⟩ := Classical.not_imp.1 fun hpos => h ⟨hadmits, hpos⟩
    rw [admitted_of_ok (hadmits hstrict),
      launch_of_empty_strict (Classical.not_not.1 hempty) hstrict]
    exact ⟨hstrict, _, .inr rfl, rfl⟩
  · obtain ⟨v, hkind, hv⟩ := admitted_of_not_admits hadmits ⟨.blocked, .empty⟩
      fun q => q.launch s
    exact ⟨(Classical.not_imp.1 hadmits).1, v, .inl hkind, hv⟩

theorem starts_of_lenient (h : q.policy.isStrict = false) (s : Option Sequence) : q.Starts s := by
  refine ⟨admits_of_lenient h _, fun hq => ?_⟩
  rw [h] at hq
  cases hq

end

end Sequencer

end Opscript
