import Opscript.Json.Read
import Opscript.Listing
import Opscript.Proofs.Text.Lossy

/-!
# Glyphs

A code in print is one character that can be seen, or it is spelled with six that can be seen
(`visible_glyph`); so it holds no space, no line break and no ESC. Since the digits of a spelled
code give its number back (`number_hex`), codes that are not the same are not printed the same
(`glyph_injective`).
-/

namespace Opscript.Code

open Json.Reading (hexValue?)

/-! ## Hexadecimal digits -/

theorem exists_digit_of_mem_toDigits {n : Nat} {x : Char} (h : x ∈ Nat.toDigits 16 n) :
    ∃ k < 16, x = Nat.digitChar k := by
  induction n using Nat.strongRecOn with
  | ind n ih =>
    rcases Nat.lt_or_ge n 16 with hlt | hge
    · rw [Nat.toDigits_of_lt_base hlt, List.mem_singleton] at h
      exact ⟨n, hlt, h⟩
    · rw [Nat.toDigits_of_base_le (by decide) hge, List.mem_append, List.mem_singleton] at h
      rcases h with h | h
      · exact ih (n / 16) (by omega) h
      · exact ⟨n % 16, Nat.mod_lt n (by decide), h⟩

theorem exists_digit_of_mem_hex {c : Code} {x : Char} (h : x ∈ c.hex) :
    ∃ k < 16, x = (Nat.digitChar k).toUpper := by
  rcases List.mem_append.1 h with h | h
  · exact ⟨0, by decide, (List.mem_replicate.1 h).2⟩
  · obtain ⟨y, hy, rfl⟩ := List.mem_map.1 h
    obtain ⟨k, hk, rfl⟩ := exists_digit_of_mem_toDigits hy
    exact ⟨k, hk, rfl⟩

/-- The number with these hexadecimal digits behind those of `n`. -/
def ofHex (n : Nat) (digits : List Char) : Nat :=
  digits.foldl (fun n x => 16 * n + (hexValue? x).getD 0) n

theorem ofHex_zeros (k : Nat) (digits : List Char) :
    ofHex 0 (List.replicate k '0' ++ digits) = ofHex 0 digits := by
  induction k with
  | zero => rfl
  | succ k ih => exact ih

theorem ofHex_toDigits (n : Nat) : ofHex 0 ((Nat.toDigits 16 n).map Char.toUpper) = n := by
  have hdigit : ∀ k, k < 16 → (hexValue? (Nat.digitChar k).toUpper).getD 0 = k := by decide
  induction n using Nat.strongRecOn with
  | ind n ih =>
    rcases Nat.lt_or_ge n 16 with hlt | hge
    · rw [Nat.toDigits_of_lt_base hlt]
      simp [ofHex, hdigit n hlt]
    · have hlast := hdigit (n % 16) (Nat.mod_lt n (by decide))
      have hfirst := ih (n / 16) (by omega)
      rw [Nat.toDigits_of_base_le (by decide) hge, List.map_append, ofHex, List.foldl_append]
      simp only [ofHex] at hfirst
      rw [hfirst]
      simp only [List.map_cons, List.map_nil, List.foldl_cons, List.foldl_nil, hlast]
      omega

theorem number_hex (c : Code) : ofHex 0 c.hex = c.toNat := by
  rw [hex, ofHex_zeros, ofHex_toDigits]

/-! ## Glyphs -/

/-- The two forms of a glyph. -/
theorem glyph_cases (c : Code) :
    (∃ x, c.toChar? = some x ∧ Text.isControl x = false ∧ Text.isBlank x = false ∧
      c.glyph = String.singleton x) ∨
    c.glyph = String.ofList ('U' :: '+' :: c.hex) := by
  unfold glyph
  split
  next x hx =>
    split
    · exact .inr rfl
    · rename_i hvisible
      simp only [Bool.or_eq_true, not_or, Bool.not_eq_true] at hvisible
      exact .inl ⟨x, hx, hvisible.1, hvisible.2, rfl⟩
  next => exact .inr rfl

/-- Each character of a glyph can be seen. -/
theorem visible_glyph (c : Code) :
    ∀ x ∈ c.glyph.toList, Text.isControl x = false ∧ Text.isBlank x = false := by
  intro x hx
  rcases glyph_cases c with ⟨y, -, hcontrol, hblank, hglyph⟩ | hglyph
  · rw [hglyph, String.toList_singleton, List.mem_singleton] at hx
    exact hx ▸ ⟨hcontrol, hblank⟩
  · have hdigit : ∀ k, k < 16 → Text.isControl (Nat.digitChar k).toUpper = false ∧
        Text.isBlank (Nat.digitChar k).toUpper = false := by decide
    rw [hglyph, String.toList_ofList, List.mem_cons, List.mem_cons] at hx
    rcases hx with rfl | rfl | hx
    · decide
    · decide
    · obtain ⟨k, hk, rfl⟩ := exists_digit_of_mem_hex hx
      exact hdigit k hk

theorem glyph_ne_empty (c : Code) : c.glyph ≠ "" := by
  rcases glyph_cases c with ⟨x, -, -, -, hglyph⟩ | hglyph <;>
    simp [hglyph, ← String.toList_inj]

theorem toChar?_injective {c d : Code} {x : Char} (hc : c.toChar? = some x)
    (hd : d.toChar? = some x) : c = d := by
  have hnumber : ∀ e : Code, e.toChar? = some x → e.toNat = x.toNat := by
    intro e he
    unfold toChar? at he
    split at he
    · cases he
    · rename_i hs
      rw [isSurrogate_iff] at hs
      have hlt : e.toNat < 65536 := UInt16.toNat_lt e
      rw [← Option.some.inj he, Utf16.toNat_ofNat (by unfold Nat.isValidChar; omega)]
  exact UInt16.toNat_inj.1 ((hnumber c hc).trans (hnumber d hd).symm)

theorem glyph_injective {c d : Code} (h : c.glyph = d.glyph) : c = d := by
  have hspelled : ∀ (e : Code) (x : Char),
      String.ofList ('U' :: '+' :: e.hex) ≠ String.singleton x := by
    intro e x he
    have hchars := congrArg String.toList he
    rw [String.toList_ofList, String.toList_singleton] at hchars
    cases hchars
  rcases glyph_cases c with ⟨x, hx, -, -, hc⟩ | hc <;>
    rcases glyph_cases d with ⟨y, hy, -, -, hd⟩ | hd <;> rw [hc, hd] at h
  · have hxy : x = y := by simpa [← String.toList_inj] using h
    exact toChar?_injective hx (hxy ▸ hy)
  · exact absurd h.symm (hspelled d x)
  · exact absurd h (hspelled c y)
  · have hhex : c.hex = d.hex := by simpa [← String.toList_inj] using h
    rw [← UInt16.toNat_inj, ← number_hex c, ← number_hex d, hhex]

end Opscript.Code
