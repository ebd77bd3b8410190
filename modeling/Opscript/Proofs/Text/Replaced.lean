import Mathlib.Data.List.Basic

/-!
# Replacing a pattern

`String.replace` searches a text from left to right and puts a new text where it finds the pattern.
`fillStep` is what it does at a step of the search. The new text is not searched: where the pattern
occurs once, what stands before and behind it stays, and the new text stands between them as it is,
whatever is in it (`replace_of_single`).
-/

namespace Opscript.Text

open String.Slice.Pattern String.Slice.Pattern.Model

section

variable {s : String.Slice} {pattern new : String}

/-- Adds to a text what a step of a search comes to: the new text for the pattern, or what was
passed over. -/
def fillStep (new text : String) : SearchStep s → String
  | .matched .. => text ++ new
  | .rejected start stop => text ++ (s.slice! start stop).copy

theorem fillStep_rejected {p q : s.Pos} {before passed rest : String}
    (hp : p.Splits before (passed ++ rest)) (hq : q.Splits (before ++ passed) rest)
    (text : String) : fillStep new text (.rejected p q) = text ++ passed := by
  obtain ⟨hle, hcopy⟩ := String.Slice.copy_slice_eq_iff_splits.2 ⟨_, _, hp, hq⟩
  rw [fillStep, ← String.Slice.slice_eq_slice! (h := hle), hcopy]

/-- A search that finds nothing passes over all of the rest. -/
theorem foldl_fillStep_of_none {p : s.Pos} {steps : List (SearchStep s)}
    (h : IsValidSearchFrom pattern p steps) {front rest : String} (hp : p.Splits front rest)
    (hnone : ∀ a b, rest ≠ a ++ (pattern ++ b)) (text : String) :
    steps.foldl (fillStep new) text = text ++ rest := by
  induction h generalizing front rest text with
  | endPos =>
    obtain ⟨-, rfl⟩ := hp.eq s.splits_endPos
    exact String.append_empty.symm
  | matched hmatch hsteps ih =>
    obtain ⟨_, b, hsplit, -⟩ := ForwardStringSearcher.isLongestMatchAt_iff_splits.1 hmatch
    exact absurd ((hp.eq_right hsplit).trans String.empty_append.symm) (hnone "" b)
  | @mismatched _ p q hlt hfree hsteps ih =>
    obtain ⟨passed, -, hfront, rfl⟩ := (hp.lt_iff_exists_eq_append q.splits).1 hlt
    have hq := q.splits.of_eq hfront rfl
    rw [List.foldl_cons, fillStep_rejected hp hq, ih hq fun a b hab => ?_, String.append_assoc]
    refine hnone (passed ++ a) b ?_
    rw [hab, String.append_assoc]

/-- A search with one occurrence before it passes over what stands before and behind. -/
theorem foldl_fillStep_of_single {p : s.Pos} {steps : List (SearchStep s)}
    (h : IsValidSearchFrom pattern p steps) (hpattern : pattern ≠ "") {front before behind : String}
    (hp : p.Splits front (before ++ (pattern ++ behind)))
    (hsingle : ∀ a b, before ++ (pattern ++ behind) = a ++ (pattern ++ b) → a = before)
    (text : String) :
    steps.foldl (fillStep new) text = text ++ before ++ new ++ behind := by
  induction h generalizing front before text with
  | endPos =>
    have hend := hp.eq_right s.splits_endPos
    rw [String.append_eq_empty_iff, String.append_eq_empty_iff] at hend
    exact absurd hend.2.1 hpattern
  | matched hmatch hsteps ih =>
    obtain ⟨_, b, hsplit, hq⟩ := ForwardStringSearcher.isLongestMatchAt_iff_splits.1 hmatch
    have hrest := hp.eq_right hsplit
    obtain rfl : "" = before := hsingle "" b (hrest.trans String.empty_append.symm)
    rw [String.empty_append, String.append_right_inj] at hrest
    subst hrest
    rw [List.foldl_cons, foldl_fillStep_of_none hsteps hq fun c d hcd => ?_]
    · rw [fillStep, String.append_empty]
    · have hagain := hsingle (pattern ++ c) d
        (by rw [hcd, String.empty_append, String.append_assoc])
      exact hpattern (String.append_eq_empty_iff.1 hagain).1
  | @mismatched _ p q hlt hfree hsteps ih =>
    -- The occurrence is not among what is passed over, so it stands behind it.
    have hm := hp.splits_rotateRight
    have hle : q ≤ hp.rotateRight := Std.not_lt.1 fun hbefore =>
      hfree hp.rotateRight ((hp.le_iff_exists_eq_append hm).2 ⟨before, rfl, rfl⟩) hbefore
        (ForwardStringSearcher.matchesAt_iff_splits.2 ⟨_, _, hm⟩)
    obtain ⟨passed, -, hfront, -⟩ := (hp.lt_iff_exists_eq_append q.splits).1 hlt
    obtain ⟨left, hbefore, hrest⟩ := (q.splits.le_iff_exists_eq_append hm).1 hle
    rw [hfront, String.append_assoc, String.append_right_inj] at hbefore
    subst hbefore
    have hq : q.Splits (front ++ passed) (left ++ (pattern ++ behind)) :=
      q.splits.of_eq hfront hrest
    rw [String.append_assoc] at hp
    rw [List.foldl_cons, fillStep_rejected hp hq, ih hq fun a b hab => ?_]
    · simp only [String.append_assoc]
    · have hall := hsingle (passed ++ a) b (by rw [String.append_assoc, hab, String.append_assoc])
      rwa [String.append_right_inj] at hall

end

theorem replace_eq_foldl (s pattern new : String) :
    s.replace pattern new =
      (ToForwardSearcher.toSearcher pattern s.toSlice).toList.foldl (fillStep new) "" := by
  unfold String.replace String.Slice.replace
  rw [← Std.Iter.foldl_toList]
  congr 1
  funext text step
  cases step with
  | matched => exact congrArg (text ++ ·) String.copy_toSlice
  | rejected => rfl

/-- Where a pattern occurs once, the new text takes its place as it is. -/
theorem replace_of_single {pattern before behind : String} (hpattern : pattern ≠ "")
    (hsingle : ∀ a b, before ++ pattern ++ behind = a ++ pattern ++ b → a = before)
    (new : String) :
    (before ++ pattern ++ behind).replace pattern new = before ++ new ++ behind := by
  have hsearch := ForwardStringSearcher.lawfulToForwardSearcherModel hpattern
  have hsteps := hsearch.isValidSearchFrom_toList (before ++ pattern ++ behind).toSlice
  have hstart : (before ++ pattern ++ behind).toSlice.startPos.Splits ""
      (before ++ (pattern ++ behind)) :=
    (String.Slice.splits_startPos _).of_eq rfl (String.copy_toSlice.trans String.append_assoc)
  rw [replace_eq_foldl, foldl_fillStep_of_single hsteps hpattern hstart fun a b hab => ?_,
    String.empty_append]
  rw [← String.append_assoc, ← String.append_assoc] at hab
  exact hsingle a b hab

/-- A pattern occurs once if the character that it starts with does. -/
theorem eq_of_count_le_one {c : Char} {pattern before behind a b : String}
    (hpattern : pattern.toList.head? = some c)
    (hcount : (before ++ pattern ++ behind).toList.count c ≤ 1)
    (h : before ++ pattern ++ behind = a ++ pattern ++ b) : a = before := by
  obtain ⟨cs, hcs⟩ := List.head?_eq_some_iff.1 hpattern
  have hchars :
      before.toList ++ c :: (cs ++ behind.toList) = a.toList ++ c :: (cs ++ b.toList) := by
    simpa [hcs] using congrArg String.toList h
  simp only [String.toList_append, hcs, List.append_assoc, List.cons_append, List.count_append,
    List.count_cons_self] at hcount
  have hbefore : c ∉ before.toList := List.count_eq_zero.1 (by omega)
  have hbehind : c ∉ cs ++ behind.toList := by
    refine List.count_eq_zero.1 ?_
    rw [List.count_append]
    omega
  exact (String.toList_inj.1 ((List.append_cons_inj_of_notMem hbefore hbehind).1 hchars).1).symm

end Opscript.Text
