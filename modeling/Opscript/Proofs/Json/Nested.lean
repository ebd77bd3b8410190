import Mathlib.Data.List.Forall2
import Opscript.Proofs.Json.Scalars

/-!
# Lists and objects are read back

Texts that are each read as one value (`Reads`), with commas between them and a bracket behind
them, are read as the list of these values (`items_joined`), and likewise the fields of an object
(`fields_joined`). A list or an object may nest one level deeper than what is in it.
-/

namespace Opscript.Json.Reading

/-- The text of one field of an object, from the quotation mark in front of its key. -/
def ReadsField (item : List Char → Step Json) (t : List Char) (f : String × Json) : Prop :=
  ∃ cs, t = '"' :: cs ∧ ∀ rest, goesOn rest = false → field item (cs ++ rest) = .ok (f, rest)

/-! ## Texts with commas between them -/

/-- Texts with a comma in front of each. -/
def commaEach (ts : List (List Char)) : List Char := ts.flatMap (',' :: ·)

theorem commaEach_cons (t : List Char) (ts : List (List Char)) :
    commaEach (t :: ts) = ',' :: (t ++ commaEach ts) := rfl

theorem intercalate_comma (t : List Char) (ts : List (List Char)) :
    [','].intercalate (t :: ts) = t ++ commaEach ts := by
  induction ts generalizing t with
  | nil => simp [commaEach]
  | cons r ts ih =>
    rw [List.intercalate_cons_cons, ih, commaEach_cons, List.append_assoc]
    rfl

/-- What follows an item does not go on a number. -/
theorem goesOn_commaEach (ts : List (List Char)) {rest : List Char} (h : goesOn rest = false) :
    goesOn (commaEach ts ++ rest) = false := by
  cases ts with
  | nil => exact h
  | cons t ts => rfl

/-- How `more` reads on: it ends at the closing bracket, and behind a comma it takes one more text.
`R t a` says that the text `t` stands for `a`. -/
structure ReadsOn {α : Type} (more : Nat → List Char → Step (List α)) (close : Char)
    (R : List Char → α → Prop) : Prop where
  closes : ∀ n rest, more (n + 1) (close :: rest) = .ok ([], rest)
  comma : ∀ n {t a rest}, R t a → goesOn rest = false →
    more (n + 1) (',' :: (t ++ rest)) = (more n rest).map (a :: ·)
  ends : ∀ rest, goesOn (close :: rest) = false

/-- All texts are taken, if there is room for as many. -/
theorem ReadsOn.joined {α : Type} {more : Nat → List Char → Step (List α)} {close : Char}
    {R : List Char → α → Prop} (hmore : ReadsOn more close R) {ts : List (List Char)} {as : List α}
    (h : List.Forall₂ R ts as) {n : Nat} (hn : ts.length < n) (rest : List Char) :
    more n (commaEach ts ++ close :: rest) = .ok (as, rest) := by
  induction h generalizing n with
  | nil =>
    obtain ⟨n, rfl⟩ := Nat.exists_eq_add_of_lt hn
    exact hmore.closes _ rest
  | @cons t a ts as ha has ih =>
    obtain ⟨n, rfl⟩ := Nat.exists_eq_add_of_lt hn
    have hrest := goesOn_commaEach ts (hmore.ends rest)
    have hothers := ih (n := (t :: ts).length + n) (by simp only [List.length_cons]; omega)
    rw [commaEach_cons, List.cons_append, List.append_assoc, hmore.comma _ ha hrest, hothers]
    rfl

/-- The characters that are left are room enough. -/
theorem ReadsOn.joined_left {α : Type} {more : Nat → List Char → Step (List α)} {close : Char}
    {R : List Char → α → Prop} (hmore : ReadsOn more close R) {ts : List (List Char)} {as : List α}
    (h : List.Forall₂ R ts as) (rest : List Char) :
    more ((commaEach ts ++ close :: rest).length + 1) (commaEach ts ++ close :: rest) =
      .ok (as, rest) := by
  have hroom : ts.length ≤ (commaEach ts).length :=
    length_le_flatMap (fun _ => List.cons_ne_nil _ _) ts
  apply hmore.joined h
  rw [List.length_append]
  omega

variable {item : List Char → Step Json}

/-! ## Lists -/

theorem readsOn_moreItems : ReadsOn (moreItems item) ']' (Reads item) where
  closes _ _ := rfl
  ends _ := rfl
  comma n t v rest h hrest := by
    obtain ⟨c, cs, rfl, hblank, hend⟩ := h.starts
    have htakes := h.takes rest hrest
    rw [List.cons_append] at htakes ⊢
    rw [moreItems, skipBlanks_cons rfl]
    simp only [skipBlanks_cons hblank]
    split
    case h_1 heq => cases heq
    case h_2 heq =>
      cases heq
      exact absurd rfl hend
    case h_3 =>
      rw [htakes]
      rfl

/-- Texts of values with commas between them are read as the list of these. -/
theorem items_joined {ts : List (List Char)} {vs : List Json}
    (h : List.Forall₂ (Reads item) ts vs) (rest : List Char) :
    items item ([','].intercalate ts ++ ']' :: rest) = .ok (vs, rest) := by
  cases h with
  | nil => rfl
  | @cons t v ts vs hv hvs =>
    obtain ⟨c, cs, rfl, hblank, hend⟩ := hv.starts
    have htakes := hv.takes (commaEach ts ++ ']' :: rest) (goesOn_commaEach ts rfl)
    rw [List.cons_append] at htakes
    rw [intercalate_comma, List.append_assoc, List.cons_append, items, skipBlanks_cons hblank]
    split
    case h_1 heq => cases heq
    case h_2 heq =>
      cases heq
      exact absurd rfl hend
    case h_3 =>
      rw [htakes, Step.andThen, readsOn_moreItems.joined_left hvs]
      rfl

/-! ## Objects -/

/-- A key, a colon and a value are read back, also with blanks in front of the value. -/
theorem readsField {t : List Char} {v : Json}
    (h : ∀ rest, goesOn rest = false → item (t ++ rest) = .ok (v, rest)) (k : String) :
    ReadsField item (Text.quoteChars k.toList ++ ':' :: t) (k, v) := by
  refine ⟨k.toList.flatMap Text.escape ++ '"' :: ':' :: t, by simp [Text.quoteChars], ?_⟩
  intro rest hrest
  rw [List.append_assoc, List.cons_append, List.cons_append, field, string_quote]
  show ((item (t ++ rest)).map (k, ·)) = _
  rw [h rest hrest]
  rfl

theorem readsOn_moreFields : ReadsOn (moreFields item) '}' (ReadsField item) where
  closes _ _ := rfl
  ends _ := rfl
  comma n t f rest h hrest := by
    obtain ⟨cs, rfl, htakes⟩ := h
    show ((field item (cs ++ rest)).andThen fun f rest => (moreFields item n rest).map (f :: ·)) = _
    rw [htakes rest hrest]
    rfl

/-- Texts of fields with commas between them are read as the list of these. -/
theorem fields_joined {ts : List (List Char)} {fs : List (String × Json)}
    (h : List.Forall₂ (ReadsField item) ts fs) (rest : List Char) :
    fields item ([','].intercalate ts ++ '}' :: rest) = .ok (fs, rest) := by
  cases h with
  | nil => rfl
  | @cons t f ts fs hf hfs =>
    obtain ⟨cs, rfl, htakes⟩ := hf
    rw [intercalate_comma, List.append_assoc]
    show ((field item (cs ++ (commaEach ts ++ '}' :: rest))).andThen _) = _
    rw [htakes _ (goesOn_commaEach ts rfl), Step.andThen, readsOn_moreFields.joined_left hfs]
    rfl

/-! ## One level deeper -/

theorem reads_array {levels : Nat} {ts : List (List Char)} {vs : List Json}
    (h : List.Forall₂ (Reads (value levels)) ts vs) :
    Reads (value (levels + 1)) ('[' :: ([','].intercalate ts ++ [']'])) (.array vs) where
  starts := ⟨_, _, rfl, rfl, by decide⟩
  takes rest _ := by
    have hvalue : value (levels + 1) ('[' :: ([','].intercalate ts ++ [']']) ++ rest) =
        (items (value levels) ([','].intercalate ts ++ [']'] ++ rest)).map .array := rfl
    rw [hvalue, List.append_assoc, List.singleton_append, items_joined h]
    rfl

/-- Of fields with distinct keys none takes the place of another. -/
theorem reads_object {levels : Nat} {ts : List (List Char)} {fs : List (String × Json)}
    (h : List.Forall₂ (ReadsField (value levels)) ts fs) (hkeys : (fs.map Prod.fst).Nodup) :
    Reads (value (levels + 1)) ('{' :: ([','].intercalate ts ++ ['}'])) (.object fs) where
  starts := ⟨_, _, rfl, rfl, by decide⟩
  takes rest _ := by
    have hvalue : value (levels + 1) ('{' :: ([','].intercalate ts ++ ['}']) ++ rest) =
        (fields (value levels) ([','].intercalate ts ++ ['}'] ++ rest)).map
          fun fs => .object (Ordered.collapse fs) := rfl
    rw [hvalue, List.append_assoc, List.singleton_append, fields_joined h]
    show Except.ok (Json.object (Ordered.collapse fs), rest) = _
    rw [Ordered.collapse_of_nodup hkeys]

end Opscript.Json.Reading
