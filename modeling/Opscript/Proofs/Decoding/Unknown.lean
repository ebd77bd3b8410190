import Mathlib.Data.List.Basic
import Opscript.Proofs.Decoding.Tiling

/-!
# The unknown arguments of a sequence

`argumentCodes` are the codes of a sequence that stand behind its first operation and are no
operations themselves. A decoding lists those that are unknown: each once, in the order of their
first places among the argument codes (`unknown_sorted`), and no others (`mem_unknown_iff`). The
codes in front of the first operation do not count.
-/

namespace Opscript

/-- The codes behind the first operation that are no operations. -/
def argumentCodes (space : CodeSpace) (u : Sequence) : List Code :=
  (u.drop (leading space.isOperation u)).filter fun c => !space.isOperation c

/-- The operations of the drafts aside, what is not dropped are their arguments. -/
theorem flatMap_arguments_decode (space : CodeSpace) (u : Sequence) :
    (decode space u).drafts.flatMap Draft.arguments = argumentCodes space u := by
  unfold argumentCodes
  rw [drafts_decode, ← flatMap_codes_draftsFrom 0 u, List.filter_flatMap]
  refine List.flatMap_congr fun f hf => ?_
  obtain ⟨hop, hargs⟩ := isOperation_of_mem_draftsFrom hf
  rw [Draft.codes, List.filter_cons_of_neg (by simp [hop]), List.filter_eq_self.2]
  intro a ha
  rw [hargs a ha]
  rfl

theorem mem_argumentCodes_iff {space : CodeSpace} {u : Sequence} {c : Code} :
    c ∈ argumentCodes space u ↔ ∃ f ∈ (decode space u).drafts, c ∈ f.arguments := by
  rw [← flatMap_arguments_decode, List.mem_flatMap]

/-! ## Each element once -/

section

variable {α : Type} [BEq α] [LawfulBEq α]

/-- Elements can be left out before or after their repetitions are. -/
theorem eraseDups_filter (l : List α) (p : α → Bool) :
    (l.filter p).eraseDups = l.eraseDups.filter p := by
  induction l generalizing p with
  | nil => rfl
  | cons a rest ih =>
    rw [List.eraseDups_cons, ih]
    cases ha : p a with
    | true =>
      rw [List.filter_cons_of_pos ha, List.filter_cons_of_pos ha, List.eraseDups_cons,
        List.filter_filter, ih, List.filter_filter]
      simp only [Bool.and_comm]
    | false =>
      have hskip : ¬ p a = true := by simp [ha]
      rw [List.filter_cons_of_neg hskip, List.filter_cons_of_neg hskip, List.filter_filter, ih]
      refine List.filter_congr fun b _ => ?_
      -- What passes `p` is not `a`.
      by_cases hb : b = a
      · simp [hb, ha]
      · simp [hb]

/-- The elements of a list, each once, stand in the order of their first places in it. -/
theorem pairwise_eraseDups (l : List α) :
    l.eraseDups.Pairwise fun a b => l.idxOf a < l.idxOf b := by
  induction l with
  | nil => exact .nil
  | cons c rest ih =>
    have hidx : ∀ a, a ≠ c → (c :: rest).idxOf a = rest.idxOf a + 1 := by
      intro a ha
      rw [List.idxOf_cons, beq_false_of_ne (Ne.symm ha), cond_false]
    have hne : ∀ a ∈ rest.eraseDups.filter (!· == c), a ≠ c := by
      rintro a ha rfl
      simpa using (List.mem_filter.1 ha).2
    rw [List.eraseDups_cons, eraseDups_filter]
    refine List.pairwise_cons.2 ⟨fun b hb => ?_, ?_⟩
    · rw [hidx b (hne b hb), List.idxOf_cons_self]
      exact Nat.succ_pos _
    · refine (ih.filter _).imp_of_mem fun {a b} ha hb hab => ?_
      rw [hidx a (hne a ha), hidx b (hne b hb)]
      exact Nat.succ_lt_succ hab

end

/-! ## The unknown codes -/

section

variable {space : CodeSpace} {u : Sequence}

theorem unknown_decode :
    (decode space u).unknown = ((argumentCodes space u).filter space.isUnknown).eraseDups := by
  rw [← flatMap_arguments_decode]
  rfl

/-- The unknown codes are listed in the order in which they first stand as an argument. -/
theorem unknown_sorted :
    (decode space u).unknown.Pairwise fun a b =>
      (argumentCodes space u).idxOf a < (argumentCodes space u).idxOf b := by
  rw [unknown_decode, eraseDups_filter]
  exact (pairwise_eraseDups _).filter _

/-- None is listed twice. -/
theorem unknown_nodup : (decode space u).unknown.Nodup := by
  refine unknown_sorted.imp fun {a b} hab heq => ?_
  rw [heq] at hab
  exact Nat.lt_irrefl _ hab

theorem mem_unknown_iff {c : Code} :
    c ∈ (decode space u).unknown ↔ c ∈ argumentCodes space u ∧ space c = .unknown := by
  rw [unknown_decode, List.mem_eraseDups, List.mem_filter, CodeSpace.isUnknown, beq_iff_eq]

end

/-- A code that is dropped is not listed, and one that comes twice is listed once. -/
example : (decode (fun c => if c = 65 then .operation else if c = 97 then .value else .unknown)
    [98, 65, 100, 97, 99, 65, 99, 100]).unknown = [100, 99] := by
  decide +kernel

end Opscript
