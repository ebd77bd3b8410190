import Mathlib.Data.List.Induction
import Mathlib.Data.Nat.Digits.Defs
import Opscript.Violation

/-!
# The grammar of symbols

`Names` says which symbols stand for a code: its number, also in decimal digits, and the text whose
only unit it is. `Faulty` says what is wrong with all others. The check of a symbol accepts just the
former, and finds with the latter just the fault that they have (`code_grammar`); the number that
digits are is taken as it is, however many they are.
-/

namespace Opscript

namespace Symbol

/-- A text of ASCII digits, at least one. -/
def Digits (t : String) : Prop := t.toList ≠ [] ∧ ∀ d ∈ t.toList, '0' ≤ d ∧ d ≤ '9'

/-- The number that digits are in base ten; the last one counts units. -/
def decimal (t : String) : Nat :=
  Nat.ofDigits 10 (t.toList.reverse.map fun d => d.toNat - '0'.toNat)

/-- The symbols that stand for a code. -/
inductive Names : Symbol → Code → Prop
  | int {n : Int64} {c : Code} (value : n.toInt = c.toInt) : Names (.int n) c
  | digits {t : String} {c : Code} (digits : Digits t) (value : decimal t = c.toNat) :
    Names (.text t) c
  | character {t : String} {c : Code} (other : ¬ Digits t) (unit : Utf16.encode t = [c]) :
    Names (.text t) c

/-- The symbols that stand for no code, each with its fault. -/
inductive Faulty : Symbol → Violation → Prop
  | invalid (raw : String) :
    Faulty (.invalid raw) { kind := .invalidSymbolType, detail := some ("got " ++ raw) }
  | int {n : Int64} (range : n.toInt < 0 ∨ 65535 < n.toInt) :
    Faulty (.int n) { kind := .codeOutOfRange, detail := some (toString n.toInt) }
  | digits {t : String} (digits : Digits t) (range : 65535 < decimal t) :
    Faulty (.text t)
      { kind := .codeOutOfRange, detail := some (toString (min (decimal t) maxNumber)) }
  | text {t : String} (other : ¬ Digits t) (units : (Utf16.encode t).length ≠ 1) :
    Faulty (.text t) { kind := .symbolNotSingleChar, detail := some (Text.spell t) }

/-- A symbol stands for a code. -/
def Valid (s : Symbol) : Prop := ∃ c, s.code = .ok c

/-! ## Digits -/

theorem isDigits_iff {t : String} : isDigits t.toList = true ↔ Digits t := by
  have hdigit (d : Char) : d.isDigit = true ↔ '0' ≤ d ∧ d ≤ '9' := by
    unfold Char.isDigit
    rw [Bool.and_eq_true, decide_eq_true_eq, decide_eq_true_eq]
    rfl
  unfold isDigits Digits
  rw [Bool.and_eq_true, Bool.not_eq_true', List.isEmpty_eq_false_iff, List.all_eq_true]
  simp only [hdigit]

/-- Reading digits from the left gives the number in which the last one counts units. -/
theorem ofDigitChars_eq_ofDigits (s : List Char) :
    Nat.ofDigitChars 10 s 0 = Nat.ofDigits 10 (s.reverse.map fun d => d.toNat - '0'.toNat) := by
  induction s using List.reverseRecOn with
  | nil => rfl
  | append_singleton s d ih =>
    rw [Nat.ofDigitChars_append, ih, List.reverse_append, List.reverse_singleton,
      List.singleton_append, List.map_cons, Nat.ofDigits_cons, Nat.add_comm]
    rfl

theorem ofDigits_toList (t : String) : ofDigits t.toList = min (decimal t) maxNumber := by
  rw [ofDigits, ofDigitChars_eq_ofDigits]
  rfl

/-! ## The two kinds of symbols -/

/-- A number is the code that it is, unless it is out of range. -/
theorem code_of_number {s : Symbol} {n : Int} (hshape : s.shape = .number)
    (hn : s.number? = some n) :
    (∀ c, s.code = .ok c ↔ n = c.toInt) ∧
      ∀ v, s.code = .error v ↔ (n < 0 ∨ 65535 < n) ∧
        v = { kind := .codeOutOfRange, detail := some (toString n) } := by
  have hrange : Code.ofInt? n = none ↔ n < 0 ∨ 65535 < n := Code.ofInt?_eq_none_iff
  simp only [← Code.ofInt?_eq_some_iff, ← hrange]
  unfold code
  rw [hshape, hn]
  dsimp only
  cases Code.ofInt? n with
  | some d => simp
  | none => simp [eq_comm]

/-- That the number of digits saturates makes no difference to the codes, as it does so far beyond
them. -/
theorem code_of_digits {t : String} (h : Digits t) :
    (∀ c, (text t).code = .ok c ↔ decimal t = c.toNat) ∧
      ∀ v, (text t).code = .error v ↔ 65535 < decimal t ∧
        v = { kind := .codeOutOfRange, detail := some (toString (min (decimal t) maxNumber)) } := by
  have hdigits : isDigits t.toList = true := isDigits_iff.2 h
  have hshape : (text t).shape = .number := if_pos hdigits
  have hnumber : (text t).number? = some ((min (decimal t) maxNumber : Nat) : Int) := by
    rw [← ofDigits_toList]
    exact if_pos hdigits
  have hmax : 65535 < maxNumber := by decide
  obtain ⟨hok, herror⟩ := code_of_number hshape hnumber
  refine ⟨fun c => (hok c).trans ?_, fun v => (herror v).trans (and_congr ?_ Iff.rfl)⟩
  · have hlt := UInt16.toNat_lt c
    rw [Code.toInt]
    omega
  · omega

/-- A text that is no number is the code that is its only unit. -/
theorem code_of_character {t : String} (h : ¬ Digits t) :
    (∀ c, (text t).code = .ok c ↔ Utf16.encode t = [c]) ∧
      ∀ v, (text t).code = .error v ↔ (Utf16.encode t).length ≠ 1 ∧
        v = { kind := .symbolNotSingleChar, detail := some (Text.spell t) } := by
  have hdigits : ¬ isDigits t.toList = true := fun hd => h (isDigits_iff.1 hd)
  have hshape : (text t).shape = .character := if_neg hdigits
  have hnumber : (text t).number? = (Utf16.encode t).head?.map Code.toInt := if_neg hdigits
  have hlength : (text t).length? = some (Utf16.encode t).length := by
    rw [Utf16.length_encode]
    rfl
  unfold code
  rw [hshape, hnumber, hlength]
  simp only [Option.some.injEq]
  by_cases hone : (Utf16.encode t).length = 1
  · obtain ⟨d, hd⟩ := List.length_eq_one_iff.1 hone
    rw [if_pos hone, hd, List.head?_cons, Option.map_some, Option.bind_some, Code.ofInt?_toInt]
    simp
  · have hunits (c : Code) : Utf16.encode t ≠ [c] := fun hc => hone (congrArg List.length hc)
    rw [if_neg hone]
    simp [hunits, hone, display, eq_comm]

/-! ## All symbols -/

section

variable {s : Symbol} {c : Code} {v : Violation}

theorem code_eq_ok_iff : s.code = .ok c ↔ s.Names c := by
  cases s with
  | invalid raw => exact iff_of_false nofun nofun
  | int n =>
    refine ((code_of_number (s := int n) rfl rfl).1 c).trans ⟨.int, fun hnames => ?_⟩
    cases hnames with
    | int value => exact value
  | text t =>
    by_cases h : Digits t
    · refine ((code_of_digits h).1 c).trans ⟨.digits h, fun hnames => ?_⟩
      cases hnames with
      | digits digits value => exact value
      | character other unit => exact absurd h other
    · refine ((code_of_character h).1 c).trans ⟨.character h, fun hnames => ?_⟩
      cases hnames with
      | digits digits value => exact absurd digits h
      | character other unit => exact unit

theorem code_eq_error_iff : s.code = .error v ↔ s.Faulty v := by
  cases s with
  | invalid raw =>
    refine ⟨fun h => ?_, fun hfaulty => ?_⟩
    · obtain rfl := Except.error.inj h
      exact .invalid raw
    · cases hfaulty
      rfl
  | int n =>
    refine ((code_of_number (s := int n) rfl rfl).2 v).trans ⟨?_, fun hfaulty => ?_⟩
    · rintro ⟨range, rfl⟩
      exact .int range
    · cases hfaulty with
      | int range => exact ⟨range, rfl⟩
  | text t =>
    by_cases h : Digits t
    · refine ((code_of_digits h).2 v).trans ⟨?_, fun hfaulty => ?_⟩
      · rintro ⟨range, rfl⟩
        exact .digits h range
      · cases hfaulty with
        | digits digits range => exact ⟨range, rfl⟩
        | text other units => exact absurd h other
    · refine ((code_of_character h).2 v).trans ⟨?_, fun hfaulty => ?_⟩
      · rintro ⟨units, rfl⟩
        exact .text h units
      · cases hfaulty with
        | digits digits range => exact absurd digits h
        | text other units => exact ⟨units, rfl⟩

/-- What is wrong with a symbol says nothing of where it stands. -/
theorem hint_of_code (h : s.code = .error v) : v.hint = none := by
  cases code_eq_error_iff.1 h <;> rfl

theorem span_of_code (h : s.code = .error v) : v.span = none := by
  cases code_eq_error_iff.1 h <;> rfl

end

/-- A symbol is accepted with just the codes that it names, and refused with just the fault that
it has. -/
theorem code_grammar (s : Symbol) :
    (∀ c, s.code = .ok c ↔ s.Names c) ∧ ∀ v, s.code = .error v ↔ s.Faulty v :=
  ⟨fun _ => code_eq_ok_iff, fun _ => code_eq_error_iff⟩

/-- Digits are never the character, and zeros in front of them make no difference. -/
example : (text "00065").code = .ok 65 ∧ (text "5").code = .ok 5 ∧ (text "A").code = .ok 65 ∧
    (text "99999999999999999999").code =
      .error { kind := .codeOutOfRange, detail := some "9223372036854775807" } := by
  decide +kernel

end Symbol

end Opscript
