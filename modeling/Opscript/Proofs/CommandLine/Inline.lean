import Opscript.CommandLine.Program
import Opscript.Proofs.Sequencer.Stable
import Opscript.Proofs.Sequencer.Stored

/-!
# A sequence from the command line in place of the configured one

A session sets the sequence of its configuration also if another one is to be executed. What that
leaves behind for the other one are the codes that it made known as null (`learned`). So the
configured sequence does not show in which operations are called, and where truth counts it does
not show at all; where presence counts, it shows at the arguments with these codes, for which a
null arrives and not nothing (`exec_inline`).
-/

namespace Opscript

/-- The code space in which these codes are unknown and no others. -/
def CodeSpace.lacking (codes : List Code) : CodeSpace := fun c =>
  if c ∈ codes then .unknown else .value

theorem CodeSpace.lacking_iff {codes : List Code} {c : Code} :
    CodeSpace.lacking codes c = .unknown ↔ c ∈ codes := by
  unfold lacking
  split
  next h => exact iff_of_true rfl h
  next h => exact iff_of_false nofun h

/-- Only the operations of a code space say what is decoded. -/
theorem contents_decode_congr {space space' : CodeSpace}
    (h : space.isOperation = space'.isOperation) (u : Sequence) :
    (decode space u).contents = (decode space' u).contents := by
  rw [Decoding.contents, Decoding.contents, drafts_decode, drafts_decode, h]

/-- A sequence is run as before if unknown codes are filled in, apart from arguments with these
codes. -/
theorem Executor.filled_runSequence {x : Executor} {unknown : List Code}
    (hunknown : ∀ c ∈ unknown, x.space c = .unknown) (u : Sequence) :
    List.Forall₂ (Step.Filled (.lacking unknown) x.resolution)
      ((x.filled unknown).runSequence u).steps (x.runSequence u).steps := by
  have hspace : (x.filled unknown).space.isOperation = x.space.isOperation := by
    refine funext fun c => ?_
    rw [space, space, isOperation_classify, isOperation_classify]
    rfl
  rw [steps_runSequence, steps_runSequence, contents_decode_congr hspace]
  exact filled_stepsOf_decode hunknown u fun _ _ _ _ => CodeSpace.lacking_iff.symm

namespace Sequencer

variable {q : Sequencer}

/-- Setting a sequence fills its unknown codes in. -/
theorem executor_setSequence (h : q.policy.isStrict = false) (t : Sequence) :
    (q.setSequence t).2.executor = q.executor.filled (decode q.space t).unknown := by
  rw [setSequence_of_admits (admits_of_lenient h _), gate_eq]
  rfl

theorem steps_execute_of_lenient (h : q.policy.isStrict = false) (u : Sequence) :
    (q.execute (some u)).1.run.steps = (q.executor.runSequence u).made.steps := by
  refine (execute_some_of_fits fun hstrict => ?_).2
  rw [h] at hstrict
  cases hstrict

/-- Lenient sequencers execute a sequence alike if one of them has further codes filled in, apart
from arguments with these codes. -/
theorem execute_of_filled {q' : Sequencer} (h : q.policy.isStrict = false)
    (h' : q'.policy.isStrict = false) {unknown : List Code}
    (hunknown : ∀ c ∈ unknown, q.space c = .unknown)
    (hexecutor : q'.executor = q.executor.filled unknown) (u : Sequence) :
    List.Forall₂ (Step.Filled (.lacking unknown) q.resolution)
      (q'.execute (some u)).1.run.steps (q.execute (some u)).1.run.steps := by
  rw [steps_execute_of_lenient h, steps_execute_of_lenient h', hexecutor]
  have hfilled := Executor.filled_runSequence (x := q.executor) hunknown u
  exact (Run.cut_forall₂ (fun _ _ => Step.Filled.failure?_eq) hfilled).1

end Sequencer

namespace CommandLine

/-- The codes that the configured sequence makes known as null while a session is built. -/
def learned (c : Config) (o : Options) : List Code :=
  match c.sequence with
  | some t => (decode (Session.build c.bare o).sequencer.space t).unknown
  | none => []

/-- What is learned are the arguments of the configured sequence that were neither operations nor
values. -/
theorem mem_learned_iff {c : Config} {o : Options} {a : Code} :
    let bare := (Session.build c.bare o).sequencer
    a ∈ learned c o ↔ ∃ t, c.sequence = some t ∧ a ∈ argumentCodes bare.space t ∧
      bare.operations.contains a = false ∧ bare.values.contains a = false := by
  intro bare
  unfold learned
  cases c.sequence with
  | none =>
    refine iff_of_false nofun ?_
    rintro ⟨t, ht, -⟩
    cases ht
  | some t =>
    refine mem_unknown_iff.trans ⟨fun h => ⟨t, rfl, h.1, classify_eq_unknown_iff.1 h.2⟩, ?_⟩
    rintro ⟨t, ⟨⟩, harg, hnew⟩
    exact ⟨harg, classify_eq_unknown_iff.2 hnew⟩

section

variable {c : Config} {o : Options}

theorem unknown_of_mem_learned :
    ∀ a ∈ learned c o,
      (Session.build c.bare o).sequencer.space a = .unknown := by
  intro a ha
  obtain ⟨t, -, -, hnew⟩ := mem_learned_iff.1 ha
  exact classify_eq_unknown_iff.2 hnew

theorem isStrict_build (h : (c.strictMode || o.strict) = false) :
    (Session.build c o).sequencer.policy.isStrict = false := by
  have hpolicy : (Session.build c o).sequencer.policy = Sequencer.policyOf (Session.override c o) :=
    Sequencer.policy_ofConfig _
  have hmode : (Session.override c o).strictMode = false := h
  rw [hpolicy, Sequencer.policyOf, hmode]
  rfl

theorem executor_build (h : (c.strictMode || o.strict) = false) :
    (Session.build c o).sequencer.executor =
      (Session.build c.bare o).sequencer.executor.filled (learned c o) := by
  unfold learned
  cases hc : c.sequence with
  | some t =>
    have hbuilt : (Session.build c o).sequencer =
        ((Session.build c.bare o).sequencer.setSequence t).2 :=
      Sequencer.ofConfig_of_some (c := Session.override c o) hc
    rw [hbuilt]
    exact Sequencer.executor_setSequence (isStrict_build (c := c.bare) h) t
  | none =>
    have hbare : c.bare = c := by
      rw [Config.bare, ← hc]
    rw [hbare]
    rfl

end

/-- A lenient `exec` of a sequence from the command line prints the calls of the same operations in
the same order with the same number of arguments, whatever the configured sequence is. Where truth
counts, it prints the same altogether. Where presence counts, the arguments are the same too, apart
from those with a code that is neither an operation nor a value and that the configured sequence has
as an argument: for these a null arrives, and nothing if there is no configured sequence. -/
theorem exec_inline (c : Config) (o : Options) (p : Palette) {t : String}
    (ho : o.sequence = some t) (h : (c.strictMode || o.strict) = false) :
    let given := Session.build c o
    let bare := Session.build c.bare o
    let run := (given.sequencer.execute given.sequence).1.run
    let run' := (bare.sequencer.execute bare.sequence).1.run
    (exec p given).first = String.join (run.calls.map (callLine p)) ∧
      (exec p bare).first = String.join (run'.calls.map (callLine p)) ∧
      run.calls.map Call.shape = run'.calls.map Call.shape ∧
      (c.resolution = .truthiness → (exec p given).first = (exec p bare).first) ∧
      List.Forall₂ (Step.Filled (.lacking (learned c o)) c.resolution) run.steps run'.steps ∧
      ∀ a, a ∈ learned c o ↔ ∃ t, c.sequence = some t ∧ a ∈ argumentCodes bare.sequencer.space t ∧
        bare.sequencer.operations.contains a = false ∧
        bare.sequencer.values.contains a = false := by
  intro given bare run run'
  have hsequence : ∀ c : Config, (Session.build c o).sequence = some (.ofString t) :=
    fun _ => congrArg (Option.map Sequence.ofString) ho
  have hresolution : bare.sequencer.resolution = c.resolution :=
    (Sequencer.ofConfig_of_none rfl).2
  have hfilled : List.Forall₂ (Step.Filled (.lacking (learned c o)) c.resolution)
      run.steps run'.steps := by
    have hexecute := Sequencer.execute_of_filled (isStrict_build (c := c.bare) h) (isStrict_build h)
      unknown_of_mem_learned (executor_build h) (.ofString t)
    rw [← hresolution]
    show List.Forall₂ _ (given.sequencer.execute given.sequence).1.run.steps
      (bare.sequencer.execute bare.sequence).1.run.steps
    rw [hsequence, hsequence]
    exact hexecute
  refine ⟨rfl, rfl, Run.shapes_of_filled hfilled, fun htruth => ?_, hfilled,
    fun a => mem_learned_iff⟩
  rw [htruth] at hfilled
  have hsteps : run.steps = run'.steps := Run.eq_of_filled hfilled
  show String.join ((run.steps.filterMap Step.call?).map (callLine p)) =
    String.join ((run'.steps.filterMap Step.call?).map (callLine p))
  rw [hsteps]

/-- The code `x` is an argument of both sequences. -/
theorem exec_inline_small :
    let c : Config :=
      { operations := [(.text "A", ⟨"a", none⟩)], sequence := some (.ofString "Ax") }
    let o : Options := ⟨"-", some "Ax", false, false, none, .never, 0⟩
    let bare := Session.build c.bare o
    let given := Session.build c o
    o.sequence = some "Ax" ∧ (c.strictMode || o.strict) = false ∧ learned c o = [120] ∧
      (exec (.ofBool false) bare).first = "a(-)\n" ∧
      List.Forall₂ (Step.Filled (.lacking [120]) .presence)
        (given.sequencer.execute given.sequence).1.run.steps
        (bare.sequencer.execute bare.sequence).1.run.steps := by
  intro c o bare given
  have hlearned : learned c o = [120] := by decide +kernel
  have hbare : (exec (.ofBool false) bare).first = "a(-)\n" := by decide +kernel
  obtain ⟨-, -, -, -, hsteps, -⟩ := exec_inline c o (.ofBool false) (t := "Ax") rfl rfl
  rw [hlearned] at hsteps
  exact ⟨rfl, rfl, hlearned, hbare, hsteps⟩

/-- The configured sequence shows in what is printed of another one. -/
theorem exec_inline_differs :
    let c : Config := { operations := [(.text "A", ⟨"a", none⟩)] }
    let o : Options := ⟨"-", some "Ax", false, false, none, .never, 0⟩
    let configured : Config := { c with sequence := some (.ofString "Ax") }
    (exec (.ofBool false) (Session.build configured o)).first = "a(null)\n" ∧
      (exec (.ofBool false) (Session.build c o)).first = "a(-)\n" := by
  decide +kernel

end CommandLine

end Opscript
