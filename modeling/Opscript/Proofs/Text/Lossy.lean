import Opscript.Text.Utf16

/-!
# The units of a lossy text

`scrub` puts the unit 0xFFFD in the place of every lone surrogate; these are the units of the lossy
text (`encode_lossy`), so that positions in a list of units are positions in its lossy text. What
becomes of a unit depends on it and on the units next to it only. So behind the first unit a rest
of the list has the same lossy units as it has in the list (`drop_scrub`); the first one of them
may be a low surrogate that has lost its partner.
-/

namespace Opscript.Utf16

/-- U+FFFD as a unit. -/
def replacement : Code := 0xFFFD

/-- A unit that is no half of a pair, with U+FFFD in the place of a surrogate. -/
def shownUnit (c : Code) : Code := if c.isSurrogate then replacement else c

/-- The units with U+FFFD at every lone surrogate. -/
def scrub : List Code → List Code
  | [] => []
  | [c] => [shownUnit c]
  | c :: d :: rest =>
    if c.isHigh && d.isLow then c :: d :: scrub rest else shownUnit c :: scrub (d :: rest)

/-! ## The units of a character -/

theorem toNat_ofNat {n : Nat} (h : n.isValidChar) : (Char.ofNat n).toNat = n := by
  rw [Char.ofNat, dif_pos h]
  rfl

/-- The number of the character of a surrogate pair. -/
theorem toNat_pair {c d : Code} (hc : c.isHigh = true) (hd : d.isLow = true) :
    (pair c d).toNat = 0x10000 + (c.toNat - 0xD800) * 0x400 + (d.toNat - 0xDC00) := by
  rw [Code.isHigh_iff] at hc
  rw [Code.isLow_iff] at hd
  refine toNat_ofNat (Or.inr ⟨?_, ?_⟩) <;> omega

theorem ofChar_pair {c d : Code} (hc : c.isHigh = true) (hd : d.isLow = true) :
    ofChar (pair c d) = [c, d] := by
  have hn := toNat_pair hc hd
  rw [Code.isHigh_iff] at hc
  rw [Code.isLow_iff] at hd
  have hhigh : 0xD800 + ((pair c d).toNat - 0x10000) / 0x400 = c.toNat := by omega
  have hlow : 0xDC00 + ((pair c d).toNat - 0x10000) % 0x400 = d.toNat := by omega
  simp only [ofChar]
  rw [if_neg (by omega), hhigh, hlow, UInt16.ofNat_toNat, UInt16.ofNat_toNat]

theorem ofChar_shown_single (c : Code) : ofChar (single c).shown = [shownUnit c] := by
  unfold single shownUnit
  cases hc : c.isSurrogate with
  | true => rfl
  | false =>
    have hlt := UInt16.toNat_lt c
    have hrange : ¬ (0xD800 ≤ c.toNat ∧ c.toNat ≤ 0xDFFF) := by
      rw [← Code.isSurrogate_iff, hc]
      exact Bool.false_ne_true
    have hvalid : c.toNat < 0xD800 ∨ 0xDFFF < c.toNat ∧ c.toNat < 0x110000 := by omega
    simp only [Bool.false_eq_true, if_false, Item.shown, ofChar]
    rw [toNat_ofNat hvalid, if_pos (by omega), UInt16.ofNat_toNat]

/-! ## The units of a text -/

/-- A unit that is no high surrogate stands for itself. -/
theorem scrub_cons_of_not_high {c : Code} (h : c.isHigh = false) (rest : List Code) :
    scrub (c :: rest) = shownUnit c :: scrub rest := by
  cases rest with
  | nil => rfl
  | cons d rest => rw [scrub, h, Bool.false_and, if_neg Bool.false_ne_true]

theorem encode_lossy (u : List Code) : encode (lossy u) = scrub u := by
  show (String.ofList ((read u).map Item.shown)).toList.flatMap ofChar = scrub u
  rw [String.toList_ofList]
  fun_induction scrub u with
  | case1 => rfl
  | case2 c => simp only [read, List.map_cons, List.map_nil, List.flatMap_singleton,
      ofChar_shown_single]
  | case3 c d rest h ih =>
    obtain ⟨hc, hd⟩ := Bool.and_eq_true_iff.1 h
    rw [read, if_pos h, List.map_cons, List.flatMap_cons, ih]
    exact congrArg (· ++ scrub rest) (ofChar_pair hc hd)
  | case4 c d rest h ih =>
    rw [read, if_neg h, List.map_cons, List.flatMap_cons, ih, ofChar_shown_single]
    rfl

/-- Every position is kept. -/
theorem length_scrub (u : List Code) : (scrub u).length = u.length := by
  fun_induction scrub u with
  | case1 => rfl
  | case2 => rfl
  | case3 c d rest h ih => rw [List.length_cons, List.length_cons, ih]; rfl
  | case4 c d rest h ih => rw [List.length_cons, ih]; rfl

theorem length_encode_lossy (u : List Code) : (encode (lossy u)).length = u.length := by
  rw [encode_lossy, length_scrub]

/-! ## The units of a rest -/

/-- A unit in front has no influence beyond the unit behind it. -/
theorem drop_scrub_cons (c : Code) (u : List Code) :
    (scrub (c :: u)).drop 2 = (scrub u).drop 1 := by
  cases u with
  | nil => rfl
  | cons d rest =>
    rw [scrub]
    split
    next h =>
      have hd : d.isHigh = false := Code.not_isHigh_of_isLow (Bool.and_eq_true_iff.1 h).2
      rw [scrub_cons_of_not_high hd]
      rfl
    next => rfl

/-- Behind its first unit, the rest from position `k` on has the lossy units that it has in the
whole list. -/
theorem drop_scrub (k : Nat) (u : List Code) :
    (scrub u).drop (k + 1) = (scrub (u.drop k)).drop 1 := by
  induction k generalizing u with
  | zero => rfl
  | succ k ih =>
    cases u with
    | nil => rfl
    | cons c rest =>
      have hstep : (scrub (c :: rest)).drop (k + 1 + 1) = (scrub rest).drop (k + 1) := by
        rw [Nat.add_assoc, Nat.add_comm k, ← List.drop_drop, drop_scrub_cons, List.drop_drop,
          Nat.add_comm]
      rw [hstep, ih, List.drop_succ_cons]

theorem drop_scrub_of_pos {j : Nat} (hj : 0 < j) (k : Nat) (u : List Code) :
    (scrub u).drop (k + j) = (scrub (u.drop k)).drop j := by
  obtain ⟨i, rfl⟩ := Nat.exists_eq_add_of_lt hj
  have h := congrArg (List.drop i) (drop_scrub k u)
  rw [List.drop_drop, List.drop_drop] at h
  rw [Nat.zero_add, Nat.add_comm i, ← Nat.add_assoc]
  exact h

/-- A low surrogate loses its partner at the front of a rest. -/
example : scrub [0x61, 0xD83D, 0xDE00, 0x62] = [0x61, 0xD83D, 0xDE00, 0x62] ∧
    scrub [0xDE00, 0x62] = [0xFFFD, 0x62] := by
  decide

end Opscript.Utf16
