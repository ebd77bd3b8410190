import Mathlib.Data.List.Forall2
import Opscript.Proofs.Sequencer.Refusals
import Opscript.Proofs.Symbol.Grammar

/-!
# Adding records

A record is added if all of its symbols stand for codes, and then it has just these codes. Otherwise
its first fault is reported, be it that of the operation or that of an argument, whose position is
told with it. `Adds` says so of one request, wherever it puts the record.
-/

namespace Opscript

theorem map_eq_ok_iff {ε α β : Type} {x : Except ε α} {f : α → β} {b : β} :
    x.map f = .ok b ↔ ∃ a, x = .ok a ∧ f a = b := by
  cases x with
  | error e => exact iff_of_false nofun nofun
  | ok a => simp [Except.map]

namespace Symbol

variable {i : Nat} {ss : List Symbol} {cs : List Code} {v : Violation}

theorem codesFrom_eq_ok_iff :
    codesFrom i ss = .ok cs ↔ List.Forall₂ (fun s c => s.code = .ok c) ss cs := by
  induction ss generalizing i cs with
  | nil =>
    rw [codesFrom, List.forall₂_nil_left_iff, Except.ok.injEq, eq_comm]
  | cons s rest ih =>
    rw [codesFrom, List.forall₂_cons_left_iff]
    cases hs : s.code with
    | error v => simp
    | ok c =>
      refine map_eq_ok_iff.trans ⟨?_, ?_⟩
      · rintro ⟨ds, hrest, rfl⟩
        exact ⟨c, ds, rfl, ih.1 hrest, rfl⟩
      · rintro ⟨d, ds, hc, hrest, rfl⟩
        obtain rfl := Except.ok.inj hc
        exact ⟨ds, ih.2 hrest, rfl⟩

/-- The first fault among symbols counts, and is told with its position. -/
theorem codesFrom_of_fault {before behind : List Symbol} {a : Symbol}
    (hbefore : ∀ b ∈ before, b.Valid) (ha : a.code = .error v) :
    codesFrom i (before ++ a :: behind) =
      .error (v.withHint ("argument " ++ toString (i + before.length))) := by
  induction before generalizing i with
  | nil =>
    rw [List.nil_append, codesFrom, ha]
    rfl
  | cons b rest ih =>
    obtain ⟨c, hc⟩ := hbefore b List.mem_cons_self
    have hposition : i + (b :: rest).length = i + 1 + rest.length := by
      rw [List.length_cons, Nat.add_assoc, Nat.add_comm 1]
    rw [List.cons_append, codesFrom, hc, hposition]
    dsimp only
    rw [ih fun d hd => hbefore d (List.mem_cons_of_mem b hd)]
    rfl

/-- Symbols have codes if each of them has one. -/
theorem exists_codes_iff :
    (∃ cs, List.Forall₂ (fun s c => s.code = .ok c) ss cs) ↔ ∀ s ∈ ss, s.Valid := by
  induction ss with
  | nil => exact iff_of_true ⟨[], .nil⟩ nofun
  | cons s rest ih =>
    rw [List.forall_mem_cons, ← ih]
    constructor
    · rintro ⟨_, hcs⟩
      cases hcs with
      | cons hc hrest => exact ⟨⟨_, hc⟩, _, hrest⟩
    · rintro ⟨⟨c, hc⟩, cs, hcs⟩
      exact ⟨c :: cs, .cons hc hcs⟩

end Symbol

namespace Sequencer

/-- What it comes to that a record is to be added at `index`. -/
structure Adds (q : Sequencer) (index : Nat) (operation : Symbol) (arguments : List Symbol)
    (result : Option RecordId × Sequencer) : Prop where
  accepted : result.1.isSome = true ↔ operation.Valid ∧ ∀ a ∈ arguments, a.Valid
  /-- Only the model is different, by a record of the codes. -/
  added : ∀ c cs, operation.code = .ok c →
    List.Forall₂ (fun a c => a.code = .ok c) arguments cs →
      result.1 = some q.model.nextId ∧ result.2 = { q with model := result.2.model } ∧
        result.2.model.records = q.model.records.insertIdx index ⟨q.model.nextId, c, cs⟩
  operationFault : ∀ v, operation.code = .error v →
    v.hint = none ∧ result = (none, (q.report v).2)
  argumentFault : ∀ before a behind v, operation.Valid → arguments = before ++ a :: behind →
    (∀ b ∈ before, b.Valid) → a.code = .error v →
      result =
        (none, (q.report { v with hint := some ("argument " ++ toString before.length) }).2)

section

variable {operation : Symbol} {arguments : List Symbol} {c : Code} {cs : List Code}

theorem contentOf_eq_ok_iff : contentOf operation arguments = .ok (c, cs) ↔
    operation.code = .ok c ∧ List.Forall₂ (fun a c => a.code = .ok c) arguments cs := by
  unfold contentOf
  cases operation.code with
  | error v => exact iff_of_false nofun nofun
  | ok d => simp [Symbol.codes, map_eq_ok_iff, Symbol.codesFrom_eq_ok_iff, and_comm]

theorem exists_contentOf_iff : (∃ content, contentOf operation arguments = .ok content) ↔
    operation.Valid ∧ ∀ a ∈ arguments, a.Valid := by
  rw [Prod.exists, ← Symbol.exists_codes_iff]
  simp only [contentOf_eq_ok_iff, exists_and_left, exists_and_right]
  rfl

/-- The operation is checked before the arguments. -/
theorem contentOf_of_fault {v : Violation} (h : operation.code = .error v) :
    contentOf operation arguments = .error v := by
  unfold contentOf
  rw [h]

theorem contentOf_of_argument_fault {before behind : List Symbol} {a : Symbol} {v : Violation}
    (hc : operation.Valid) (hbefore : ∀ b ∈ before, b.Valid) (ha : a.code = .error v) :
    contentOf operation (before ++ a :: behind) =
      .error (v.withHint ("argument " ++ toString before.length)) := by
  obtain ⟨c, hc⟩ := hc
  unfold contentOf
  rw [hc]
  dsimp only
  rw [Symbol.codes, Symbol.codesFrom_of_fault hbefore ha, Nat.zero_add]
  rfl

end

theorem adds_insert (q : Sequencer) (index : Nat) (operation : Symbol) (arguments : List Symbol) :
    Adds q (min index q.model.size) operation arguments (q.insert index operation arguments) := by
  rw [insert, add_eq]
  refine {
    accepted := ?_
    added := fun c cs hc hcs => ?_
    operationFault := fun v hv => ?_
    argumentFault := fun before a behind v hc hcut hbefore ha => ?_ }
  · rw [← exists_contentOf_iff]
    cases contentOf operation arguments <;> simp [guarded, refuse]
  · rw [contentOf_eq_ok_iff.2 ⟨hc, hcs⟩]
    exact ⟨rfl, rfl, rfl⟩
  · rw [contentOf_of_fault hv]
    exact ⟨Symbol.hint_of_code hv, rfl⟩
  · rw [hcut, contentOf_of_argument_fault hc hbefore ha]
    rfl

/-- At the end, at the front and at any place between, a record is added exactly if its operation
and all of its arguments are valid. It has their codes, and nothing else is different. Otherwise
one violation is reported and nothing is done: that of the operation, which has no hint, or else
that of the first argument with a fault, which has its position as its hint. -/
theorem adds_record (q : Sequencer) (operation : Symbol) (arguments : List Symbol) :
    Adds q q.model.size operation arguments (q.append operation arguments) ∧
      Adds q 0 operation arguments (q.prepend operation arguments) ∧
      ∀ index, Adds q (min index q.model.size) operation arguments
        (q.insert index operation arguments) := by
  refine ⟨?_, ?_, fun index => adds_insert q index operation arguments⟩
  · have hend := adds_insert q q.model.size operation arguments
    rwa [Nat.min_self] at hend
  · have hfront := adds_insert q 0 operation arguments
    rwa [Nat.zero_min] at hfront

/-- Of two arguments with a fault the first one is told of. -/
example :
    let result := ({} : Sequencer).append (.text "A") [.int 97, .int 70000, .invalid "true"]
    result.1 = none ∧ result.2.diagnostics.map (fun d => (d.kind, d.hints.getLast?)) =
      [(.codeOutOfRange, some "argument 1")] := by
  decide +kernel

end Sequencer

end Opscript
