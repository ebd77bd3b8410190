import Mathlib.Tactic.SplitIfs
import Opscript.Json.Read

/-!
# Words, strings and whole numbers are read back

What is written of a string or of a whole number is read back, with the characters behind it left
over. In a quoted text every character stands for itself, be it as it is or behind a backslash
(`stringRest_escape`). The digits of a number have no zero in front, and they end where no digit,
point or exponent follows (`goesOn`); as long as the number fits into the significand, no digit of
it is dropped (`number_toDigits`). `Reads` says of a text that it is read as one value.
-/

namespace Opscript.Json.Reading

/-! ## Strings -/

theorem hexValue?_hexDigit (n : Nat) : hexValue? (Text.hexDigit n) = some (n % 16) := by
  have hdigit : ∀ k, k < 16 → hexValue? (Nat.digitChar k) = some k := by decide
  exact hdigit (n % 16) (Nat.mod_lt n (by decide))

/-- The four digits of a control character. -/
theorem hexUnit_control {c : Char} (hc : c.toNat < 0x20) (rest : List Char) :
    hexUnit ('0' :: '0' :: Text.hexDigit (c.toNat / 16) :: Text.hexDigit c.toNat :: rest) =
      .ok (UInt16.ofNat c.toNat, rest) := by
  have hzero : hexValue? '0' = some 0 := rfl
  have hdigits : hexUnit? '0' '0' (Text.hexDigit (c.toNat / 16)) (Text.hexDigit c.toNat) =
      some (UInt16.ofNat c.toNat) := by
    simp only [hexUnit?, hzero, hexValue?_hexDigit, Option.bind_eq_bind, Option.bind_some,
      Option.pure_def, Option.some.injEq]
    congr 1
    omega
  have hbytes : ¬ bytes ('0' :: '0' :: Text.hexDigit (c.toNat / 16) :: Text.hexDigit c.toNat ::
      rest) < 4 := by
    have h1 := (Text.hexDigit (c.toNat / 16)).utf8Size_pos
    have h2 := (Text.hexDigit c.toNat).utf8Size_pos
    have h3 := '0'.utf8Size_pos
    simp only [bytes, total_cons]
    omega
  simp only [hexUnit, if_neg hbytes, hdigits]

theorem hexEscape_control {c : Char} (hc : c.toNat < 0x20) (rest : List Char) :
    hexEscape ('0' :: '0' :: Text.hexDigit (c.toNat / 16) :: Text.hexDigit c.toNat :: rest) =
      .ok (c, rest) := by
  have htoNat : (UInt16.ofNat c.toNat).toNat = c.toNat := by
    rw [UInt16.toNat_ofNat']
    omega
  have hlow : Code.isLow (UInt16.ofNat c.toNat) = false := by
    rw [Bool.eq_false_iff, ne_eq, Code.isLow_iff, htoNat]
    omega
  have hhigh : Code.isHigh (UInt16.ofNat c.toNat) = false := by
    rw [Bool.eq_false_iff, ne_eq, Code.isHigh_iff, htoNat]
    omega
  simp [hexEscape, hexUnit_control hc, Step.andThen, hlow, hhigh, htoNat]

/-- What a character is written as stands for it. -/
theorem stringRest_escape (c : Char) (n : Nat) (rest : List Char) :
    stringRest (n + 1) (Text.escape c ++ rest) = (stringRest n rest).map (c :: ·) := by
  unfold Text.escape
  -- Seven characters have a letter of their own, the other controls have four digits.
  split_ifs with h1 h2 h3 h4 h5 h6 h7 h8
  · subst h1; rfl
  · subst h2; rfl
  · subst h3; rfl
  · subst h4; rfl
  · subst h5; rfl
  · subst h6; rfl
  · subst h7; rfl
  · show (hexEscape ('0' :: '0' :: Text.hexDigit (c.toNat / 16) :: Text.hexDigit c.toNat ::
      rest)).andThen _ = _
    rw [hexEscape_control h8]
    rfl
  · simp only [List.cons_append, List.nil_append, stringRest, if_neg h1, if_neg h2, if_neg h8]

theorem stringRest_flatMap_escape (cs rest : List Char) {n : Nat} (h : cs.length < n) :
    stringRest n (cs.flatMap Text.escape ++ '"' :: rest) = .ok (cs, rest) := by
  induction cs generalizing n with
  | nil =>
    obtain ⟨n, rfl⟩ := Nat.exists_eq_add_of_lt h
    rfl
  | cons c cs ih =>
    obtain ⟨n, rfl⟩ := Nat.exists_eq_add_of_lt h
    rw [List.flatMap_cons, List.append_assoc, stringRest_escape, ih (by simp; omega)]
    rfl

theorem length_le_flatMap {α β : Type} {f : α → List β} (h : ∀ a, f a ≠ []) (l : List α) :
    l.length ≤ (l.flatMap f).length := by
  induction l with
  | nil => exact Nat.le_refl 0
  | cons a rest ih =>
    have hpos := List.length_pos_iff.2 (h a)
    simp only [List.flatMap_cons, List.length_append, List.length_cons]
    omega

theorem escape_ne_nil (c : Char) : Text.escape c ≠ [] := by
  unfold Text.escape
  split_ifs <;> simp

/-- A quoted text is read back, behind its first quotation mark. -/
theorem string_quote (s : String) (rest : List Char) :
    string (s.toList.flatMap Text.escape ++ '"' :: rest) = .ok (s, rest) := by
  have hroom := length_le_flatMap escape_ne_nil s.toList
  rw [string, stringRest_flatMap_escape _ _ (by simp only [List.length_append]; omega)]
  simp [Step.map, Step.andThen]

/-! ## Whole numbers -/

/-- The characters go on a number that stands in front of them. -/
def goesOn : List Char → Bool
  | [] => false
  | c :: _ => c.isDigit || c == '.' || c == 'e' || c == 'E'

theorem startsWithDigit_of_goesOn {rest : List Char} (h : goesOn rest = false) :
    startsWithDigit rest = false := by
  cases rest with
  | nil => rfl
  | cons c cs =>
    simp only [goesOn, Bool.or_eq_false_iff] at h
    exact h.1.1.1

theorem dropWhile_isDigit {rest : List Char} (h : startsWithDigit rest = false) :
    rest.dropWhile Char.isDigit = rest := by
  cases rest with
  | nil => rfl
  | cons c cs => exact List.dropWhile_cons_of_neg (by simpa [startsWithDigit] using h)

theorem le_ofDigitChars (ds : List Char) (n : Nat) : n ≤ Nat.ofDigitChars 10 ds n := by
  induction ds generalizing n with
  | nil => exact Nat.le_refl n
  | cons d ds ih =>
    rw [Nat.ofDigitChars_cons]
    have := ih (10 * n + (d.toNat - '0'.toNat))
    omega

-- Stated by hand: the equation that Lean would derive takes it too long, since for that it
-- evaluates the comparison with the greatest significand.
theorem gather_cons (n : Nat) (c : Char) (rest : List Char) :
    gather n (c :: rest) =
      if c.isDigit then
        match Decimal.push? n (digit c) with
        | some m => gather m rest
        | none => (n, c :: rest)
      else (n, c :: rest) := (rfl)

/-- Digits that fit are all gathered. -/
theorem gather_digits {ds rest : List Char} {n : Nat} (hds : ∀ d ∈ ds, d.isDigit = true)
    (hfit : Nat.ofDigitChars 10 ds n ≤ Decimal.maxSignificand)
    (hrest : startsWithDigit rest = false) :
    gather n (ds ++ rest) = (Nat.ofDigitChars 10 ds n, rest) := by
  induction ds generalizing n with
  | nil =>
    cases rest with
    | nil => rfl
    | cons c cs =>
      have hc : ¬ c.isDigit = true := by simpa [startsWithDigit] using hrest
      rw [List.nil_append, gather_cons, if_neg hc, Nat.ofDigitChars_nil]
  | cons d ds ih =>
    have hpushed : n * 10 + digit d = 10 * n + (d.toNat - '0'.toNat) := by
      rw [Nat.mul_comm]
      rfl
    rw [Nat.ofDigitChars_cons, ← hpushed] at hfit ⊢
    have hle : n * 10 + digit d ≤ Decimal.maxSignificand :=
      Nat.le_trans (le_ofDigitChars ds _) hfit
    have hpush : Decimal.push? n (digit d) = some (n * 10 + digit d) := if_pos hle
    rw [List.cons_append, gather_cons, if_pos (hds d List.mem_cons_self), hpush]
    exact ih (fun c hc => hds c (List.mem_cons_of_mem d hc)) hfit

/-- A positive number has no zero in front. -/
theorem exists_toDigits {n : Nat} (h : n ≠ 0) :
    ∃ d ds, Nat.toDigits 10 n = d :: ds ∧ d ≠ '0' := by
  induction n using Nat.strongRecOn with
  | ind n ih =>
    by_cases hlt : n < 10
    · refine ⟨Nat.digitChar n, [], Nat.toDigits_of_lt_base hlt, ?_⟩
      have hdigit : ∀ k, k < 10 → k ≠ 0 → Nat.digitChar k ≠ '0' := by decide
      exact hdigit n hlt h
    · obtain ⟨d, ds, hdigits, hd⟩ := ih (n / 10) (by omega) (by omega)
      refine ⟨d, ds ++ [Nat.digitChar (n % 10)], ?_, hd⟩
      rw [Nat.toDigits_of_base_le (by decide) (by omega), hdigits, List.cons_append]

theorem afterWhole_of_goesOn {rest : List Char} (h : goesOn rest = false) (negative : Bool)
    (n : Nat) : afterWhole negative n 0 rest = .ok (integer negative n, rest) := by
  unfold afterWhole
  split
  · simp [goesOn] at h
  · rename_i c cs _
    simp only [goesOn, Bool.or_eq_false_iff, beq_eq_false_iff_ne] at h
    simp [h.1.2, h.2]
  · rfl

/-- The digits of a number are read back, behind its sign. -/
theorem number_toDigits {n : Nat} (hfit : n ≤ Decimal.maxSignificand) {rest : List Char}
    (hrest : goesOn rest = false) (negative : Bool) :
    number negative (Nat.toDigits 10 n ++ rest) = .ok (integer negative n, rest) := by
  have hstart := startsWithDigit_of_goesOn hrest
  rcases Nat.eq_zero_or_pos n with rfl | hpos
  · rw [Nat.toDigits_zero]
    show (if startsWithDigit rest then _ else afterWhole negative 0 0 rest) = _
    rw [hstart, if_neg Bool.false_ne_true]
    exact afterWhole_of_goesOn hrest negative 0
  · obtain ⟨d, ds, hdigits, hd⟩ := exists_toDigits (Nat.ne_of_gt hpos)
    have hall : ∀ c ∈ d :: ds, c.isDigit = true := fun c hc =>
      Nat.isDigit_of_mem_toDigits (by decide) (by decide) (hdigits ▸ hc)
    have hn : Nat.ofDigitChars 10 ds (digit d) = n := by
      have hback := Nat.ofDigitChars_ten_toDigits (n := n)
      rw [hdigits, Nat.ofDigitChars_cons, Nat.mul_zero, Nat.zero_add] at hback
      exact hback
    have hgather := gather_digits (n := digit d)
      (fun c hc => hall c (List.mem_cons_of_mem d hc)) (hn.symm ▸ hfit) hstart
    rw [hdigits, List.cons_append, number, if_pos (hall d List.mem_cons_self), hgather, hn]
    · simp only [dropWhile_isDigit hstart, Nat.sub_self]
      exact afterWhole_of_goesOn hrest negative n
    · exact hd

/-! ## Texts that are read as one value -/

/-- The characters `t` are all that the reader takes, and it makes `v` of them, whatever stands
behind them, as long as it does not go on a number. -/
structure Reads (item : List Char → Step Json) (t : List Char) (v : Json) : Prop where
  /-- It starts neither with a blank nor as the end of a list. -/
  starts : ∃ c cs, t = c :: cs ∧ isBlank c = false ∧ c ≠ ']'
  takes : ∀ rest, goesOn rest = false → item (t ++ rest) = .ok (v, rest)

theorem skipBlanks_cons {c : Char} (h : isBlank c = false) (rest : List Char) :
    skipBlanks (c :: rest) = c :: rest :=
  List.dropWhile_cons_of_neg (by simp [h])

theorem isBlank_of_isDigit {c : Char} (h : c.isDigit = true) : isBlank c = false := by
  rw [Bool.eq_false_iff]
  intro hblank
  simp only [isBlank, Bool.or_eq_true, beq_iff_eq] at hblank
  rcases hblank with ((rfl | rfl) | rfl) | rfl <;> exact absurd h (by decide)

theorem value_digit {c : Char} (h : c.isDigit = true) (levels : Nat) (rest : List Char) :
    value levels (c :: rest) = (number false (c :: rest)).map .number := by
  unfold value
  rw [skipBlanks_cons (isBlank_of_isDigit h)]
  -- A digit is none of the characters that words, strings and brackets start with.
  split
  case h_1 heq => cases heq
  case h_9 heq =>
    cases heq
    exact if_pos h
  all_goals
    rename_i heq
    cases heq
    exact absurd h (by decide)

/-- A blank in front of a value does not count. -/
theorem value_blank (levels : Nat) (rest : List Char) :
    value levels (' ' :: rest) = value levels rest := by
  unfold value
  rfl

/-- A text of one value is a document. -/
theorem read_of_reads {text : String} {v : Json} (h : Reads (value maxLevels) text.toList v) :
    read text = .ok v := by
  have htakes := h.takes [] rfl
  rw [List.append_nil] at htakes
  have hdocument : document text.toList = .ok (v, []) := by
    rw [document, htakes]
    rfl
  rw [read, hdocument]

variable (levels : Nat)

theorem reads_null : Reads (value levels) ['n', 'u', 'l', 'l'] .null where
  starts := ⟨_, _, rfl, rfl, by decide⟩
  takes rest _ := by
    unfold value
    rfl

theorem reads_bool (b : Bool) : Reads (value levels) (toString b).toList (.bool b) where
  starts := by cases b <;> exact ⟨_, _, rfl, rfl, by decide⟩
  takes rest _ := by cases b <;> unfold value <;> rfl

theorem reads_string (s : String) :
    Reads (value levels) (Text.quoteChars s.toList) (.string s) where
  starts := ⟨_, _, rfl, rfl, by decide⟩
  takes rest _ := by
    have hvalue : value levels (Text.quoteChars s.toList ++ rest) =
        (string ((s.toList.flatMap Text.escape ++ ['"']) ++ rest)).map .string := by
      unfold value
      rfl
    rw [hvalue, List.append_assoc, List.singleton_append, string_quote]
    rfl

theorem reads_digits {n : Nat} (hfit : n ≤ Decimal.maxSignificand) :
    Reads (value levels) (Nat.toDigits 10 n) (.number (.int n)) := by
  obtain ⟨d, ds, hdigits⟩ := List.exists_cons_of_ne_nil (Nat.toDigits_ne_nil (n := n) (b := 10))
  have hd : d.isDigit = true :=
    Nat.isDigit_of_mem_toDigits (by decide) (by decide) (hdigits ▸ List.mem_cons_self)
  refine ⟨⟨d, ds, hdigits, isBlank_of_isDigit hd, ?_⟩, ?_⟩
  · rintro rfl
    exact absurd hd (by decide)
  · intro rest hrest
    have hnumber := number_toDigits hfit hrest false
    rw [hdigits, List.cons_append] at hnumber ⊢
    rw [value_digit hd, hnumber]
    rfl

theorem reads_minus {n : Nat} (hpos : n ≠ 0) (hfit : n ≤ UInt64.size / 2) :
    Reads (value levels) ('-' :: Nat.toDigits 10 n) (.number (.int (-n))) where
  starts := ⟨_, _, rfl, rfl, by decide⟩
  takes rest hrest := by
    have hmax : Decimal.maxSignificand = UInt64.size - 1 := rfl
    have hinteger : integer true n = .int (-n) := by
      rw [integer, if_neg (by simp), if_neg (by omega)]
    have hvalue : value levels ('-' :: Nat.toDigits 10 n ++ rest) =
        (number true (Nat.toDigits 10 n ++ rest)).map .number := by
      unfold value
      rfl
    rw [hvalue, number_toDigits (by omega) hrest, hinteger]
    rfl

/-- A signed 64-bit integer is read back. -/
theorem reads_int (n : Int64) :
    Reads (value levels) (toString n.toInt).toList (.number (.int n.toInt)) := by
  have hlow := n.le_toInt
  have hhigh := n.toInt_lt
  have hmax : Decimal.maxSignificand = 2 ^ 64 - 1 := rfl
  have hhalf : UInt64.size / 2 = 2 ^ 63 := rfl
  rw [Int.toString_eq_repr]
  cases hn : n.toInt with
  | ofNat m =>
    rw [hn, Int.ofNat_eq_natCast] at hhigh
    rw [Int.repr, Nat.toList_repr]
    exact reads_digits levels (by omega)
  | negSucc m =>
    rw [hn] at hlow
    rw [Int.repr, String.toList_append, Nat.toList_repr]
    exact reads_minus levels (Nat.succ_ne_zero m) (by omega)

end Opscript.Json.Reading
