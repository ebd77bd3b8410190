import Mathlib.Tactic.SplitIfs
import Opscript.Proofs.Listing.Glyph
import Opscript.Trace

/-!
# Texts without controls

A text is tame if no character of it is a control below U+0020, so neither an ESC nor a line break.
Quoted texts are tame since such controls are spelled out in them, numbers and floats since they
have digits and signs, glyphs since every character of a glyph can be seen.
-/

namespace Opscript.Text

/-- The character is no control below U+0020. -/
def IsTame (c : Char) : Prop := 0x20 ≤ c.toNat

instance : DecidablePred IsTame := fun c => inferInstanceAs (Decidable (0x20 ≤ c.toNat))

def Tame (s : String) : Prop := ∀ c ∈ s.toList, IsTame c

instance : DecidablePred Tame := fun s => List.decidableBAll IsTame s.toList

theorem Tame.append {s t : String} (hs : Tame s) (ht : Tame t) : Tame (s ++ t) := by
  intro c hc
  rw [String.toList_append, List.mem_append] at hc
  exact hc.elim (hs c) (ht c)

theorem Tame.join {ts : List String} (h : ∀ t ∈ ts, Tame t) : Tame (String.join ts) := by
  intro c hc
  rw [String.toList_join, List.mem_flatMap] at hc
  obtain ⟨t, ht, hc⟩ := hc
  exact h t ht c hc

theorem tame_ofList {cs : List Char} : Tame (String.ofList cs) ↔ ∀ c ∈ cs, IsTame c := by
  rw [Tame, String.toList_ofList]

theorem isTame_digitChar : ∀ k, k < 16 → IsTame (Nat.digitChar k) := by decide

theorem isTame_of_isDigit {c : Char} (h : c.isDigit = true) : IsTame c := by
  simp only [Char.isDigit, Bool.and_eq_true, decide_eq_true_eq] at h
  have hlow : (48 : UInt32).toNat ≤ c.val.toNat := h.1
  exact Nat.le_trans (by decide) hlow

/-! ## Quoted texts -/

/-- No control stands as it is between quotation marks. -/
theorem isTame_of_mem_escape {c x : Char} (h : x ∈ escape c) : IsTame x := by
  have hshort : ∀ y : Char, IsTame y → x ∈ ['\\', y] → IsTame x := by
    intro y hy hx
    simp only [List.mem_cons, List.not_mem_nil, or_false] at hx
    rcases hx with rfl | rfl
    · decide
    · exact hy
  unfold escape at h
  split_ifs at h with h1 h2 h3 h4 h5 h6 h7 h8
  -- Seven characters have a letter of their own, the other controls have four digits.
  iterate 7 exact hshort _ (by decide) h
  · have hhex : ∀ n, IsTame (hexDigit n) := fun n =>
      isTame_digitChar _ (Nat.mod_lt n (by decide))
    simp only [List.mem_cons, List.not_mem_nil, or_false] at h
    rcases h with rfl | rfl | rfl | rfl | rfl | rfl
    · decide
    · decide
    · decide
    · decide
    · exact hhex _
    · exact hhex _
  · rw [List.mem_singleton.1 h]
    exact Nat.le_of_not_lt h8

theorem tame_quote (s : String) : Tame (quote s) := by
  rw [quote, tame_ofList]
  intro x hx
  simp only [quoteChars, List.cons_append, List.mem_cons, List.mem_append, List.mem_flatMap,
    List.not_mem_nil, or_false] at hx
  rcases hx with rfl | ⟨c, -, hx⟩ | rfl
  · decide
  · exact isTame_of_mem_escape hx
  · decide

/-! ## Numbers -/

theorem isTame_of_mem_toDigits {n : Nat} {c : Char} (h : c ∈ Nat.toDigits 10 n) : IsTame c :=
  isTame_of_isDigit (Nat.isDigit_of_mem_toDigits (by decide) (by decide) h)

theorem tame_nat (n : Nat) : Tame (toString n) := by
  intro c hc
  rw [Nat.toString_eq_repr, Nat.toList_repr] at hc
  exact isTame_of_mem_toDigits hc

theorem tame_int (n : Int) : Tame (toString n) := by
  rw [Int.toString_eq_repr]
  cases n with
  | ofNat n => exact tame_nat n
  | negSucc n => exact Tame.append (s := "-") (by decide) (tame_nat (n + 1))

theorem isTame_of_mem_positional {digits : List Char} {k : Int} (h : ∀ c ∈ digits, IsTame c) :
    ∀ c ∈ Decimal.positional digits k, IsTame c := by
  have hzero : ∀ n, ∀ c ∈ Decimal.zeros n, IsTame c := by
    intro n c hc
    rw [(List.mem_replicate.1 hc).2]
    decide
  intro c hc
  unfold Decimal.positional at hc
  split_ifs at hc with hneg
  · simp only [List.cons_append, List.mem_cons, List.mem_append] at hc
    rcases hc with rfl | rfl | hc | hc
    · decide
    · decide
    · exact hzero _ c hc
    · exact h c hc
  · dsimp only at hc
    split_ifs at hc
    · simp only [List.mem_append, List.mem_cons, List.not_mem_nil, or_false] at hc
      rcases hc with (hc | hc) | rfl | rfl
      · exact h c hc
      · exact hzero _ c hc
      · decide
      · decide
    · simp only [List.mem_append, List.mem_cons] at hc
      rcases hc with hc | rfl | hc
      · exact h c (List.mem_of_mem_take hc)
      · decide
      · exact h c (List.mem_of_mem_drop hc)

theorem isTame_of_mem_scientific {digits : List Char} {plus : Bool} {k : Int}
    (h : ∀ c ∈ digits, IsTame c) :
    ∀ c ∈ Decimal.scientific plus digits k, IsTame c := by
  intro c hc
  simp only [Decimal.scientific, Decimal.exponent, List.mem_append, List.mem_cons] at hc
  rcases hc with (hc | hc) | rfl | hc | hc
  · exact h c (List.mem_of_mem_take hc)
  · split_ifs at hc
    · cases hc
    · rcases List.mem_cons.1 hc with rfl | hc
      · decide
      · exact h c (List.mem_of_mem_drop hc)
  · decide
  · split_ifs at hc <;> simp at hc <;> subst hc <;> decide
  · exact isTame_of_mem_toDigits hc

theorem tame_floatText (x : Float) : Tame (Json.floatText x) := by
  unfold Json.floatText
  split_ifs
  · rw [Decimal.Layout.text, tame_ofList]
    intro c hc
    rcases List.mem_append.1 hc with hc | hc
    · split_ifs at hc
      · rw [List.mem_singleton.1 hc]
        decide
      · cases hc
    · split_ifs at hc
      · simp only [List.mem_cons, List.not_mem_nil, or_false] at hc
        rcases hc with rfl | rfl | rfl <;> decide
      · have hdigits :
            ∀ c ∈ Nat.toDigits 10 (Decimal.shortest Decimal.Layout.data.tie x).coefficient,
              IsTame c := fun _ => isTame_of_mem_toDigits
        unfold Decimal.Layout.magnitude at hc
        dsimp only at hc
        split_ifs at hc
        · exact isTame_of_mem_positional hdigits c hc
        · exact isTame_of_mem_scientific hdigits c hc
  · decide

/-! ## Codes and positions -/

theorem tame_glyph (c : Code) : Tame c.glyph := by
  intro x hx
  have hcontrol := (c.visible_glyph x hx).1
  simp only [isControl, Bool.or_eq_false_iff, decide_eq_false_iff_not] at hcontrol
  exact Nat.le_of_not_lt hcontrol.1

theorem tame_spaces (n : Nat) : Tame (Listing.spaces n) := by
  rw [Listing.spaces, tame_ofList]
  intro c hc
  rw [(List.mem_replicate.1 hc).2]
  decide

theorem tame_padLeft (width : Nat) {s : String} (h : Tame s) : Tame (Listing.padLeft width s) :=
  (tame_spaces _).append h

theorem tame_padRight (width : Nat) {s : String} (h : Tame s) : Tame (Listing.padRight width s) :=
  h.append (tame_spaces _)

theorem tame_span (s : Span) : Tame s.text :=
  ((tame_nat _).append (by decide)).append (tame_nat _)

end Opscript.Text
