import Mathlib.Data.List.Forall2
import Opscript.Proofs.Decoding.Unknown
import Opscript.Proofs.Execution.Direct
import Opscript.Sequencer.Basic

/-!
# Running with unknown arguments filled in

An argument code that is unknown can be registered as null before a run. `Executor.filled` is the
executor with null for such codes. It goes through the same steps, apart from the arguments that
were unknown: `Step.Filled` says how these arrive. What a run comes to, its `outcome`, depends on
what its steps call only, up to the first call that breaks off, and so it is the same too.
-/

namespace Opscript

/-! ## Values that are filled in -/

/-- Codes that are filled in are null, all others are as they were. -/
theorem get?_foldl_insert_null (values : Values) (codes : List Code) (a : Code) :
    (codes.foldl (fun m c => m.insert c .null) values).get? a =
      if a ∈ codes then some .null else values.get? a := by
  induction codes generalizing values with
  | nil => rfl
  | cons c rest ih =>
    rw [List.foldl_cons, ih, Ordered.get?_insert]
    by_cases hrest : a ∈ rest
    · rw [if_pos hrest, if_pos (List.mem_cons_of_mem c hrest)]
    · simp only [List.mem_cons, hrest, or_false, if_false]

/-- An unknown code has no value. -/
theorem get?_of_unknown {o : Operations} {values : Values} {c : Code}
    (h : classify o values c = .unknown) : values.get? c = none :=
  (values.contains_eq_false_iff c).1 (classify_eq_unknown_iff.1 h).2

/-! ## Steps -/

theorem forall₂_mapIdx {α β γ : Type} {R : β → γ → Prop} {f : Nat → α → β} {g : Nat → α → γ}
    {l : List α} (h : ∀ i, ∀ a ∈ l, R (f i a) (g i a)) :
    List.Forall₂ R (l.mapIdx f) (l.mapIdx g) := by
  rw [List.forall₂_iff_get]
  refine ⟨by rw [List.length_mapIdx, List.length_mapIdx], fun i h1 h2 => ?_⟩
  simp only [List.get_eq_getElem, List.getElem_mapIdx]
  exact h i _ (List.getElem_mem _)

/-- Calls of the same operation with the argument codes `codes`. The arguments are the same, apart
from codes that are unknown: where presence counts, the first call gets null for them and the
second one nothing. -/
structure Call.Filled (space : CodeSpace) (r : Resolution) (codes : List Code) (x y : Call) :
    Prop where
  operation : x.operation = y.operation
  callback : x.callback = y.callback
  length : x.arguments.length = codes.length ∧ y.arguments.length = codes.length
  truthiness : r = .truthiness → x.arguments = y.arguments
  presence : r = .presence → ∀ (i : Nat) (c : Code), codes[i]? = some c →
    if space c = .unknown then
      x.arguments[i]? = some (some Value.null) ∧ y.arguments[i]? = some none
    else x.arguments[i]? = y.arguments[i]?

/-- A call without its arguments. -/
def Call.shape (c : Call) : Code × Callback × Nat := (c.operation, c.callback, c.arguments.length)

theorem Call.Filled.shape {space : CodeSpace} {r : Resolution} {codes : List Code} {x y : Call}
    (h : x.Filled space r codes y) : x.shape = y.shape := by
  unfold Call.shape
  rw [h.operation, h.callback, h.length.1, h.length.2]

/-- Steps with such calls. -/
inductive Step.Filled (space : CodeSpace) (r : Resolution) : Step → Step → Prop where
  | invoke {index : Nat} {codes : List Code} {x y : Call} (h : x.Filled space r codes y) :
    Filled space r (.invoke index codes x) (.invoke index codes y)

theorem Step.Filled.failure?_eq {space : CodeSpace} {r : Resolution} {s t : Step}
    (h : Step.Filled space r s t) : s.failure? = t.failure? := by
  cases h with
  | invoke h => exact congrArg Callback.failure h.callback

namespace Run

/-- Runs break off at the same place if their steps break off alike. -/
theorem cut_forall₂ {R : Step → Step → Prop} (hR : ∀ s t, R s t → s.failure? = t.failure?)
    {ss ts : List Step} (h : List.Forall₂ R ss ts) :
    List.Forall₂ R (cut ss).1 (cut ts).1 ∧ (cut ss).2 = (cut ts).2 := by
  induction h with
  | nil => exact ⟨.nil, rfl⟩
  | @cons s t ss ts hst _ ih =>
    have hfailure := hR s t hst
    unfold cut
    rw [← hfailure]
    cases s.failure? with
    | none => exact ⟨.cons hst ih.1, ih.2⟩
    | some text => exact ⟨.cons hst .nil, rfl⟩

/-- How the run ends. -/
def outcome (r : Run) : Outcome :=
  match r.failure? with
  | some text => .failed text
  | none => .finished r.stats

theorem outcome_ne_blocked (r : Run) : r.outcome ≠ .blocked := by
  unfold outcome
  cases r.failure? <;> exact fun h => nomatch h

section

variable {space : CodeSpace} {res : Resolution}

theorem shapes_of_filled {ss ts : List Step} (h : List.Forall₂ (Step.Filled space res) ss ts) :
    (ss.filterMap Step.call?).map Call.shape = (ts.filterMap Step.call?).map Call.shape := by
  induction h with
  | nil => rfl
  | cons hst _ ih =>
    cases hst with
    | invoke hxy => exact congrArg₂ List.cons hxy.shape ih

theorem skips_of_filled {ss ts : List Step} (h : List.Forall₂ (Step.Filled space res) ss ts) :
    ss.countP Step.isSkip = ts.countP Step.isSkip := by
  induction h with
  | nil => rfl
  | cons hst _ ih =>
    cases hst with
    | invoke => exact ih

/-- Where truth counts, nothing is different. -/
theorem eq_of_filled {ss ts : List Step}
    (h : List.Forall₂ (Step.Filled space .truthiness) ss ts) : ss = ts := by
  induction h with
  | nil => rfl
  | cons hst _ ih =>
    cases hst with
    | @invoke _ _ x y hxy =>
      obtain ⟨operation, callback, arguments⟩ := x
      obtain ⟨operation', callback', arguments'⟩ := y
      obtain rfl : operation = operation' := hxy.operation
      obtain rfl : callback = callback' := hxy.callback
      obtain rfl : arguments = arguments' := hxy.truthiness rfl
      rw [ih]

variable {x y : Run} (h : List.Forall₂ (Step.Filled space res) x.steps y.steps)

include h

theorem stats_of_filled : x.stats = y.stats := by
  have hcalls := congrArg List.length (shapes_of_filled h)
  rw [List.length_map, List.length_map] at hcalls
  unfold stats calls
  rw [hcalls, skips_of_filled h]

theorem outcome_of_filled : x.outcome = y.outcome := by
  have hfailure : x.failure? = y.failure? := (cut_forall₂ (fun _ _ => Step.Filled.failure?_eq) h).2
  unfold outcome
  rw [hfailure, stats_of_filled h]

end

end Run

/-! ## Resolving with the unknown codes filled in -/

namespace Executor

/-- The executor with null for further codes. -/
def filled (x : Executor) (codes : List Code) : Executor :=
  { x with values := codes.foldl (fun m c => m.insert c .null) x.values }

variable {x : Executor}

/-- Null counts as missing where truth counts. -/
theorem resolve_filled_of_truthiness (h : x.resolution = .truthiness) {unknown : List Code}
    (hunknown : ∀ c ∈ unknown, x.space c = .unknown) (codes : List Code) :
    (x.filled unknown).resolve codes = x.resolve codes := by
  refine List.map_congr_left fun c _ => ?_
  show x.resolution.resolve (x.filled unknown).values c = x.resolution.resolve x.values c
  rw [h]
  show ((x.filled unknown).values.get? c).filter Value.isTruthy =
    (x.values.get? c).filter Value.isTruthy
  rw [filled, get?_foldl_insert_null]
  split
  next hc => rw [get?_of_unknown (hunknown c hc)]; rfl
  next => rfl

/-- Null counts as present where presence counts. -/
theorem resolve_filled_of_presence (h : x.resolution = .presence) {unknown codes : List Code}
    (hunknown : ∀ c ∈ unknown, x.space c = .unknown) {marks : CodeSpace}
    (hmarks : ∀ c ∈ codes, c ∈ unknown ↔ marks c = .unknown) {i : Nat} {c : Code}
    (hc : codes[i]? = some c) :
    if marks c = .unknown then
      ((x.filled unknown).resolve codes)[i]? = some (some Value.null) ∧
        (x.resolve codes)[i]? = some none
    else ((x.filled unknown).resolve codes)[i]? = (x.resolve codes)[i]? := by
  have hmem := hmarks c (List.mem_of_getElem? hc)
  have hdirect : (x.resolve codes)[i]? = some (x.values.get? c) := by
    rw [resolve, List.getElem?_map, hc, h]
    rfl
  have hfilled : ((x.filled unknown).resolve codes)[i]? =
      some (if c ∈ unknown then some .null else x.values.get? c) := by
    rw [← get?_foldl_insert_null, resolve, List.getElem?_map, hc, filled, h]
    rfl
  rw [hdirect, hfilled]
  split
  next hspace =>
    have hc := hmem.2 hspace
    rw [if_pos hc, get?_of_unknown (hunknown c hc)]
    exact ⟨rfl, rfl⟩
  next hspace => rw [if_neg (mt hmem.1 hspace)]

section

variable {unknown : List Code} (hunknown : ∀ c ∈ unknown, x.space c = .unknown) {marks : CodeSpace}

include hunknown

/-- An operation is called the same way, apart from the arguments that are filled in. Among its
argument codes, these are the ones that `marks` has as unknown. -/
theorem filled_step {operation : Code} (hop : x.operations.contains operation = true)
    {codes : List Code} (hmarks : ∀ c ∈ codes, c ∈ unknown ↔ marks c = .unknown) (index : Nat) :
    Step.Filled marks x.resolution ((x.filled unknown).step index operation codes)
      (x.step index operation codes) := by
  obtain ⟨callback, hcallback⟩ := Option.isSome_iff_exists.1 hop
  have hstep : ∀ y : Executor, y.operations = x.operations →
      y.step index operation codes =
        .invoke index codes ⟨operation, callback, y.resolve codes⟩ := by
    intro y hy
    unfold step
    rw [hy, hcallback]
  rw [hstep x rfl, hstep (x.filled _) rfl]
  refine .invoke ⟨rfl, rfl, ⟨List.length_map _, List.length_map _⟩, fun h => ?_, fun h i c hc => ?_⟩
  · exact resolve_filled_of_truthiness h hunknown _
  · exact resolve_filled_of_presence h hunknown hmarks hc

theorem filled_stepsOf_decode (u : Sequence)
    (hmarks : ∀ f ∈ (decode x.space u).drafts, ∀ c ∈ f.arguments,
      c ∈ unknown ↔ marks c = .unknown) :
    List.Forall₂ (Step.Filled marks x.resolution)
      ((x.filled unknown).stepsOf (decode x.space u).contents)
      (x.stepsOf (decode x.space u).contents) := by
  refine forall₂_mapIdx fun i c hc => ?_
  have hop := contains_of_mem_contents c hc
  obtain ⟨f, hf, rfl⟩ := List.mem_map.1 hc
  exact filled_step hunknown hop (hmarks f hf) i

end

theorem filled_stepsOf (x : Executor) (u : Sequence) :
    List.Forall₂ (Step.Filled x.space x.resolution)
      ((x.filled (decode x.space u).unknown).stepsOf (decode x.space u).contents)
      (x.stepsOf (decode x.space u).contents) := by
  refine filled_stepsOf_decode (fun c hc => (mem_unknown_iff.1 hc).2) u fun f hf c hc => ?_
  exact ⟨fun hmem => (mem_unknown_iff.1 hmem).2,
    fun hnew => mem_unknown_iff.2 ⟨mem_argumentCodes_iff.2 ⟨f, hf, hc⟩, hnew⟩⟩

end Executor

end Opscript
