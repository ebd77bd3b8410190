import Opscript.Execution
import Opscript.Proofs.Decoding.Tiling

/-!
# Running a sequence as it is

A sequence can be decoded into records that are run, or it can be run on the fly. `Executor.stepsOf`
are the steps of operations with their argument codes; both ways take them, so that all that can be
seen of the two runs is the same, apart from the event for the leading codes
(`runSequence_agrees_runRecords`). A sequence is cut at the operations that have a callback, so
that running it never skips one.
-/

namespace Opscript

theorem mapIdx_map {α β γ : Type} (g : α → β) (f : Nat → β → γ) (l : List α) :
    (l.map g).mapIdx f = l.mapIdx fun i a => f i (g a) := by
  refine List.ext_getElem? fun i => ?_
  simp only [List.getElem?_mapIdx, List.getElem?_map, Option.map_map]
  rfl

theorem map_mapIdx {α β γ : Type} (g : β → γ) (f : Nat → α → β) (l : List α) :
    (l.mapIdx f).map g = l.mapIdx fun i a => g (f i a) := by
  refine List.ext_getElem? fun i => ?_
  simp only [List.getElem?_map, List.getElem?_mapIdx, Option.map_map]
  rfl

/-- Counting from `n` on, the rest counts from the number after it. -/
theorem mapIdx_cons_add {α β : Type} (f : Nat → α → β) (n : Nat) (a : α) (l : List α) :
    (a :: l).mapIdx (fun i b => f (n + i) b) = f n a :: l.mapIdx fun i b => f (n + 1 + i) b := by
  rw [List.mapIdx_cons]
  simp only [Nat.add_zero, Nat.add_assoc, Nat.add_comm 1]

namespace Executor

/-- The steps of operations with their argument codes. -/
def stepsOf (x : Executor) (contents : List (Code × List Code)) : List Step :=
  contents.mapIdx fun i c => x.step i c.1 c.2

theorem steps_runRecords (x : Executor) (records : List Record) :
    (x.runRecords records).steps = x.stepsOf (records.map Record.content) := by
  unfold runRecords stepsOf
  rw [mapIdx_map]
  rfl

theorem steps_runSequence (x : Executor) (u : Sequence) :
    (x.runSequence u).steps = x.stepsOf (decode x.space u).contents := by
  unfold runSequence stepsOf Decoding.contents decode
  rw [List.map_map, mapIdx_map]
  rfl

/-- An operation that has a callback is called. -/
theorem step_of_contains {x : Executor} {operation : Code}
    (h : x.operations.contains operation = true) (index : Nat) (codes : List Code) :
    ∃ f, x.step index operation codes =
      .invoke index codes ⟨operation, f, x.resolve codes⟩ := by
  obtain ⟨f, hf⟩ := Option.isSome_iff_exists.1 h
  refine ⟨f, ?_⟩
  unfold step
  rw [hf]

end Executor

namespace Run

/-- A run in which each step calls. -/
def Calling (r : Run) : Prop := ∀ s ∈ r.steps, s.isSkip = false

theorem stats_of_calling {r : Run} (h : r.Calling) : r.stats = ⟨r.steps.length, 0⟩ := by
  have hcalls : r.calls.length = r.steps.length := by
    unfold calls
    rw [List.length_filterMap_eq_countP, List.countP_eq_length]
    intro s hs
    have hskip := h s hs
    cases s with
    | invoke => rfl
    | skip => cases hskip
  have hskips : r.steps.countP Step.isSkip = 0 := by
    rw [List.countP_eq_zero]
    intro s hs
    rw [h s hs]
    exact Bool.false_ne_true
  unfold stats
  rw [hcalls, hskips]

/-- Runs with the same steps differ by the event for the leading codes only. -/
theorem events_of_steps_eq {r q : Run} (h : r.steps = q.steps) (hq : q.leading = 0) :
    r.events = (if 0 < r.leading then [.unowned ⟨0, r.leading⟩] else []) ++ q.events := by
  unfold events
  rw [h, hq, if_pos rfl, List.nil_append]
  congr 1
  rcases Nat.eq_zero_or_pos r.leading with h0 | hpos
  · rw [if_pos h0, if_neg (by omega)]
  · rw [if_neg (by omega), if_pos hpos]

end Run

namespace Executor

/-- A sequence is cut at operations that have a callback. -/
theorem contains_of_mem_contents {x : Executor} {u : Sequence} :
    ∀ c ∈ (decode x.space u).contents, x.operations.contains c.1 = true := by
  intro c hc
  obtain ⟨d, hd, rfl⟩ := List.mem_map.1 hc
  rw [← isOperation_classify x.operations x.values]
  exact CodeSpace.isOperation_iff.2 (operation_of_mem_drafts hd).1

theorem calling_stepsOf (x : Executor) {contents : List (Code × List Code)}
    (h : ∀ c ∈ contents, x.operations.contains c.1 = true) :
    ∀ s ∈ x.stepsOf contents, s.isSkip = false := by
  intro s hs
  rw [stepsOf, List.mem_mapIdx] at hs
  obtain ⟨i, hi, rfl⟩ := hs
  obtain ⟨f, hf⟩ := step_of_contains (h _ (List.getElem_mem hi)) i contents[i].2
  rw [hf]
  rfl

theorem calling_runSequence (x : Executor) (u : Sequence) : (x.runSequence u).Calling := by
  unfold Run.Calling
  rw [steps_runSequence]
  exact calling_stepsOf x contains_of_mem_contents

theorem length_steps_runSequence (x : Executor) (u : Sequence) :
    (x.runSequence u).steps.length = u.countP x.operations.contains := by
  have hspace : x.space.isOperation = x.operations.contains :=
    funext (isOperation_classify x.operations x.values)
  rw [steps_runSequence, stepsOf, List.length_mapIdx, Decoding.contents, List.length_map,
    drafts_decode, length_draftsFrom, hspace]

/-- Running a sequence makes the calls that running its records makes and counts the same. An
observer is told the same too, after one event for the leading codes if there are any. No operation
is skipped, and one is called for each position that holds one. If a callback breaks one run off,
it breaks the other one off at the same call. -/
theorem runSequence_agrees_runRecords (x : Executor) (u : Sequence) (records : List Record)
    (h : records.map Record.content = (decode x.space u).contents) :
    let direct := x.runSequence u
    let stored := x.runRecords records
    let dropped := (decode x.space u).dropped
    let front : List Event := if 0 < dropped.stop then [.unowned ⟨0, dropped.stop⟩] else []
    direct.calls = stored.calls ∧ direct.stats = stored.stats ∧
      direct.events = front ++ stored.events ∧
      direct.stats = ⟨u.countP x.operations.contains, 0⟩ ∧
      direct.failure? = stored.failure? ∧ direct.made.calls = stored.made.calls ∧
      direct.made.events = front ++ stored.made.events := by
  intro direct stored dropped front
  have hsteps : direct.steps = stored.steps := by
    rw [steps_runSequence, steps_runRecords, h]
  have hmade : direct.made.steps = stored.made.steps := congrArg (fun l => (Run.cut l).1) hsteps
  refine ⟨congrArg (List.filterMap Step.call?) hsteps, ?_, Run.events_of_steps_eq hsteps rfl, ?_,
    congrArg (fun l => (Run.cut l).2) hsteps, congrArg (List.filterMap Step.call?) hmade,
    Run.events_of_steps_eq hmade rfl⟩
  · simp only [Run.stats, Run.calls, hsteps]
  · rw [Run.stats_of_calling (calling_runSequence x u), length_steps_runSequence]

/-- A leading code, an operation with a value and an unknown code, and one without arguments. -/
theorem runSequence_agrees_runRecords_small :
    let x : Executor := ⟨Ordered.empty.insert 65 ⟨"A", none⟩, Ordered.empty.insert 97 .null,
      .presence⟩
    let records : List Record := [⟨.first, 65, [97, 63]⟩, ⟨.first, 65, []⟩]
    records.map Record.content = (decode x.space [98, 65, 97, 63, 65]).contents ∧
      (x.runSequence [98, 65, 97, 63, 65]).calls = (x.runRecords records).calls ∧
      (x.runSequence [98, 65, 97, 63, 65]).stats = ⟨2, 0⟩ := by
  intro x records
  have h : records.map Record.content = (decode x.space [98, 65, 97, 63, 65]).contents := by
    rw [Decoding.contents, drafts_decode]
    rfl
  obtain ⟨hcalls, -, -, hstats, -⟩ := runSequence_agrees_runRecords x _ records h
  exact ⟨h, hcalls, hstats⟩

end Executor

end Opscript
