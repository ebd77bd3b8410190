import Opscript.Proofs.Execution.Filled
import Opscript.Proofs.Sequencer.Checks

/-!
# Setting a sequence and executing it

A sequence can be executed as it is, or it can be set first and executed from the model. Setting it
drops its leading codes and registers its unknown arguments as null. The records that it leaves
run with the executor that has these arguments filled in, and so both executions come to the same,
apart from the arguments that were unknown.
-/

namespace Opscript

/-! ## Executions -/

namespace Sequencer

variable {q : Sequencer} {s : Option Sequence}

theorem conclude_outcome (q : Sequencer) (run : Run) :
    (q.conclude run).1.outcome = run.outcome ∧ (q.conclude run).1.run.steps = run.made.steps := by
  unfold conclude Run.outcome
  cases h : run.failure? with
  | some text => exact ⟨rfl, rfl⟩
  | none => exact ⟨rfl, by rw [Run.made_of_no_failure h]⟩

theorem launch_outcome (h : q.policy.isStrict = true → q.lengthOf s ≠ 0)
    (hempty : q.lengthOf s = 0 → (q.runOf s).steps = []) :
    (q.launch s).1.outcome = (q.runOf s).outcome ∧
      (q.launch s).1.run.steps = (q.runOf s).made.steps := by
  by_cases hn : q.lengthOf s = 0
  · rw [launch_of_empty hn (lenient_of_empty h hn)]
    simp [Run.outcome, Run.failure?, Run.made, Run.stats, Run.calls, hempty hn, Run.cut, Run.empty]
  · rw [launch_of_pos hn]
    exact conclude_outcome q _

/-- An execution that is not stopped comes to what its steps come to. -/
theorem execute_of_starts (h : q.Starts s)
    (hempty : q.lengthOf s = 0 → (q.runOf s).steps = []) :
    (q.execute s).1.outcome = (q.runOf s).outcome ∧
      (q.execute s).1.run.steps = (q.runOf s).made.steps := by
  rw [execute_eq, admitted_of_admits h.1, gate_eq]
  exact launch_outcome h.2 hempty

theorem steps_runOf_some_of_empty {u : Sequence} (h : q.lengthOf (some u) = 0) :
    (q.runOf (some u)).steps = [] := by
  obtain rfl : u = [] := List.length_eq_zero_iff.1 h
  show (q.executor.runSequence []).steps = []
  rw [Executor.steps_runSequence, Decoding.contents, drafts_decode]
  rfl

theorem steps_runOf_none_of_empty (hsequence : q.model.sequence = encode q.model.records)
    (h : q.lengthOf none = 0) : (q.runOf none).steps = [] := by
  have hnone : q.model.records = [] := by
    replace h : q.model.sequence.length = 0 := h
    rw [hsequence] at h
    cases hrecords : q.model.records with
    | nil => rfl
    | cons r rest =>
      rw [hrecords, encode_cons] at h
      cases h
  show (Executor.runRecords _ q.model.records).steps = []
  rw [hnone]
  rfl

/-! ## Setting a sequence first -/

theorem leading_lt_length {isOperation : Code → Bool} {u : List Code}
    (h : ∃ c ∈ u, isOperation c = true) : leading isOperation u < u.length := by
  induction u with
  | nil => obtain ⟨c, hc, -⟩ := h; cases hc
  | cons a rest ih =>
    cases ha : isOperation a with
    | true =>
      rw [leading_cons_of_operation ha]
      exact Nat.succ_pos _
    | false =>
      obtain ⟨c, hc, hop⟩ := h
      have hrest : c ∈ rest := by
        refine (List.mem_cons.1 hc).resolve_left ?_
        rintro rfl
        rw [ha] at hop
        cases hop
      rw [leading_cons_of_other ha, List.length_cons]
      exact Nat.succ_lt_succ (ih ⟨c, hrest, hop⟩)

theorem contents_store (q : Sequencer) (u : Sequence) :
    (q.store u).model.records.map Record.content = (decode q.space u).contents :=
  Model.contents_replace _ _

theorem lengthOf_store (q : Sequencer) (u : Sequence) :
    (q.store u).lengthOf none = u.length - leading q.space.isOperation u := by
  show (encode (q.store u).model.records).length = _
  rw [encode_of_contents (contents_store q u), List.length_drop]

theorem steps_runOf_store (q : Sequencer) (u : Sequence) :
    ((q.store u).runOf none).steps =
      (q.executor.filled (decode q.space u).unknown).stepsOf (decode q.space u).contents := by
  rw [← contents_store]
  exact Executor.steps_runRecords _ _

section

variable {u : Sequence} (h : q.policy.isStrict = true →
  (∀ l, q.limit = some l → u.length ≤ l.val) ∧ ∃ c ∈ u, q.operations.contains c = true)

include h

theorem admits_of_fits : q.Admits u.length :=
  fun hstrict => checkLength_eq_ok_iff.2 (h hstrict).1

theorem starts_some_of_fits : q.Starts (some u) := by
  refine ⟨admits_of_fits h, fun hstrict hn => ?_⟩
  obtain ⟨-, c, hc, -⟩ := h hstrict
  exact List.ne_nil_of_mem hc (List.length_eq_zero_iff.1 hn)

theorem starts_none_of_fits : (q.store u).Starts none := by
  have hlength := lengthOf_store q u
  refine ⟨fun hstrict => checkLength_eq_ok_iff.2 fun l hl => ?_, fun hstrict hn => ?_⟩
  · have := (h hstrict).1 l hl
    omega
  · obtain ⟨-, c, hc, hop⟩ := h hstrict
    have hfirst : leading q.space.isOperation u < u.length :=
      leading_lt_length ⟨c, hc, (isOperation_classify q.operations q.values c).trans hop⟩
    rw [hlength] at hn
    omega

theorem execute_some_of_fits :
    (q.execute (some u)).1.outcome = (q.runOf (some u)).outcome ∧
      (q.execute (some u)).1.run.steps = (q.runOf (some u)).made.steps := by
  exact execute_of_starts (starts_some_of_fits h) steps_runOf_some_of_empty

theorem execute_none_of_fits :
    ((q.store u).execute none).1.outcome = ((q.store u).runOf none).outcome ∧
      ((q.store u).execute none).1.run.steps = ((q.store u).runOf none).made.steps := by
  exact execute_of_starts (starts_none_of_fits h) (steps_runOf_none_of_empty rfl)

end

theorem filled_runOf_store (q : Sequencer) (u : Sequence) :
    List.Forall₂ (Step.Filled q.space q.resolution) ((q.store u).runOf none).steps
      (q.runOf (some u)).steps := by
  have hdirect : (q.runOf (some u)).steps =
      q.executor.stepsOf (decode q.space u).contents := Executor.steps_runSequence _ _
  rw [steps_runOf_store, hdirect]
  exact Executor.filled_stepsOf q.executor u

/-- Setting a sequence and executing it from the model comes to the same as executing it at once:
the same operations are called in the same order with the same number of arguments, and the
executions end the same way, with the same statistics. Where truth counts, the arguments are the
same too; where presence counts, they differ at the codes that were neither an operation nor a
value, for which a null arrives if the sequence was set and nothing if it was not. A strict
sequencer does so if the length is within the limit and there is an operation to call. -/
theorem execute_after_setSequence (q : Sequencer) (u : Sequence)
    (h : q.policy.isStrict = true →
      (∀ l, q.limit = some l → u.length ≤ l.val) ∧ ∃ c ∈ u, q.operations.contains c = true) :
    let stored := ((q.setSequence u).2.execute none).1
    let direct := (q.execute (some u)).1
    (q.setSequence u).1 = true ∧ direct.outcome ≠ .blocked ∧ stored.outcome = direct.outcome ∧
      List.Forall₂ (Step.Filled q.space q.resolution) stored.run.steps direct.run.steps := by
  intro stored direct
  -- The report of a length that is too long, if there is one, does not show in what follows.
  have hset : (q.setSequence u).1 = true ∧ (q.setSequence u).2 = (q.gate u.length).store u := by
    rw [setSequence_eq, admitted_of_admits (admits_of_fits h)]
    exact ⟨rfl, rfl⟩
  have hgate : (q.gate u.length).policy.isStrict = true →
      (∀ l, (q.gate u.length).limit = some l → u.length ≤ l.val) ∧
        ∃ c ∈ u, (q.gate u.length).operations.contains c = true := by
    rw [gate_eq]
    exact h
  have hfilled : List.Forall₂ (Step.Filled q.space q.resolution)
      (((q.gate u.length).store u).runOf none).steps (q.runOf (some u)).steps := by
    rw [gate_eq]
    exact filled_runOf_store q u
  have hcut := Run.cut_forall₂ (fun _ _ => Step.Filled.failure?_eq) hfilled
  obtain ⟨hdirect, hdirectSteps⟩ := execute_some_of_fits h
  obtain ⟨hstored, hstoredSteps⟩ := execute_none_of_fits hgate
  rw [← hset.2] at hstored hstoredSteps hcut hfilled
  refine ⟨hset.1, ?_, ?_, ?_⟩
  · rw [hdirect]
    exact Run.outcome_ne_blocked _
  · rw [hstored, hdirect, Run.outcome_of_filled hfilled]
  · rw [hstoredSteps, hdirectSteps]
    exact hcut.1

/-- A strict sequencer at its limit, and a sequence with a leading code, a value and an unknown
code. -/
theorem execute_after_setSequence_strict :
    let q : Sequencer :=
      { operations := Ordered.empty.insert 65 ⟨"a", none⟩
        values := Ordered.empty.insert 97 (.bool true)
        limit := some ⟨4, by decide⟩
        policy := ⟨.strict, false⟩ }
    let u : Sequence := [98, 65, 97, 63]
    q.policy.isStrict = true ∧ (∀ l, q.limit = some l → u.length ≤ l.val) ∧
      (∃ c ∈ u, q.operations.contains c = true) ∧
      ((q.setSequence u).2.execute none).1.outcome = .finished ⟨1, 0⟩ ∧
      List.Forall₂ (Step.Filled q.space q.resolution)
        ((q.setSequence u).2.execute none).1.run.steps (q.execute (some u)).1.run.steps := by
  intro q u
  have hlimit : ∀ l, q.limit = some l → u.length ≤ l.val := by
    rintro l ⟨⟩
    decide
  have hop : ∃ c ∈ u, q.operations.contains c = true := by decide
  have hdirect : (q.execute (some u)).1.outcome = .finished ⟨1, 0⟩ := by decide +kernel
  obtain ⟨-, -, houtcome, hsteps⟩ := execute_after_setSequence q u fun _ => ⟨hlimit, hop⟩
  exact ⟨rfl, hlimit, hop, houtcome.trans hdirect, hsteps⟩

end Sequencer

end Opscript
