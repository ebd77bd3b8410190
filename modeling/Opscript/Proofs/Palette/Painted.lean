import Mathlib.Data.List.Forall2
import Opscript.Palette

/-!
# Coloured texts

A colour sequence goes from an ESC to the next `m`, and `uncolored` deletes each of them. `Painted
ok s t` says that `s` is the text `t` with colours around pieces of it, and that every character of
`t` passes the test `ok`. If the test lets no ESC pass, colours and text can be told apart, and
without the colours `s` is `t` (`Painted.uncolored`).
-/

namespace Opscript

/-- The characters that belong to no colour sequence. The flag says whether one has begun. -/
def uncoloredChars : Bool → List Char → List Char
  | _, [] => []
  | true, c :: rest => uncoloredChars (c != 'm') rest
  | false, c :: rest =>
    if c = '\x1b' then uncoloredChars true rest else c :: uncoloredChars false rest

/-- The text without its colour sequences. -/
def uncolored (s : String) : String := String.ofList (uncoloredChars false s.toList)

theorem uncoloredChars_append {cs : List Char} (h : '\x1b' ∉ cs) (rest : List Char) :
    uncoloredChars false (cs ++ rest) = cs ++ uncoloredChars false rest := by
  induction cs with
  | nil => rfl
  | cons c cs ih =>
    obtain ⟨hc, hcs⟩ := not_or.1 (mt List.mem_cons.2 h)
    rw [List.cons_append, uncoloredChars, if_neg (Ne.symm hc), ih hcs, List.cons_append]

theorem uncoloredChars_start (style : Style) (rest : List Char) :
    uncoloredChars false (style.start.toList ++ rest) = uncoloredChars false rest := by
  cases style <;> rfl

theorem uncoloredChars_stop (rest : List Char) :
    uncoloredChars false (Style.stop.toList ++ rest) = uncoloredChars false rest := rfl

/-- The first text is the second one with colours around pieces of it. All characters of the
second one pass the test. -/
inductive Painted (ok : Char → Prop) : String → String → Prop where
  | text {s : String} (h : ∀ c ∈ s.toList, ok c) : Painted ok s s
  | paint (style : Style) {s t : String} (h : Painted ok s t) :
    Painted ok (Palette.colored.paint style s) (Palette.plain.paint style t)
  | append {s t s' t' : String} (h : Painted ok s t) (h' : Painted ok s' t') :
    Painted ok (s ++ s') (t ++ t')

/-- The character is no ESC. -/
abbrev NotEsc (c : Char) : Prop := c ≠ '\x1b'

namespace Painted

variable {ok ok' : Char → Prop} {s t : String}

theorem mono (hok : ∀ c, ok c → ok' c) (h : Painted ok s t) : Painted ok' s t := by
  induction h with
  | text h => exact .text fun c hc => hok c (h c hc)
  | paint style _ ih => exact .paint style ih
  | append _ _ ih ih' => exact .append ih ih'

theorem blue (h : Painted ok s t) : Painted ok (Palette.colored.blue s) (Palette.plain.blue t) :=
  .paint .blue h

theorem green (h : Painted ok s t) : Painted ok (Palette.colored.green s) (Palette.plain.green t) :=
  .paint .green h

theorem dim (h : Painted ok s t) : Painted ok (Palette.colored.dim s) (Palette.plain.dim t) :=
  .paint .dim h

theorem empty : Painted ok "" "" := .text fun _ hc => nomatch hc

theorem of_free (h : '\x1b' ∉ s.toList) : Painted NotEsc s s :=
  .text fun _ hc hesc => h (hesc ▸ hc)

theorem map {α : Type} {f g : α → String} {as : List α} (h : ∀ a ∈ as, Painted ok (f a) (g a)) :
    List.Forall₂ (Painted ok) (as.map f) (as.map g) := by
  rw [List.forall₂_map_left_iff, List.forall₂_map_right_iff]
  exact List.forall₂_same.2 h

theorem join {ss ts : List String} (h : List.Forall₂ (Painted ok) ss ts) :
    Painted ok (String.join ss) (String.join ts) := by
  induction h with
  | nil => exact empty
  | cons h _ ih =>
    rw [String.join_cons, String.join_cons]
    exact .append h ih

theorem intercalate {sep sep' : String} (hsep : Painted ok sep sep') {ss ts : List String}
    (h : List.Forall₂ (Painted ok) ss ts) :
    Painted ok (String.intercalate sep ss) (String.intercalate sep' ts) := by
  induction h with
  | nil =>
    rw [String.intercalate_nil, String.intercalate_nil]
    exact empty
  | cons h hs ih =>
    cases hs with
    | nil => simpa using h
    | cons =>
      rw [String.intercalate_cons_cons, String.intercalate_cons_cons]
      exact .append (.append h hsep) ih

/-- Each character of the plain text passes the test. -/
theorem plain (h : Painted ok s t) : ∀ c ∈ t.toList, ok c := by
  induction h with
  | text h => exact h
  | paint _ _ ih => exact ih
  | append _ _ ih ih' =>
    intro c hc
    rw [String.toList_append, List.mem_append] at hc
    exact hc.elim (ih c) (ih' c)

/-- In the coloured text stand the ESC besides and visible characters of ASCII. -/
theorem colored (h : Painted ok s t) : ∀ c ∈ s.toList, ok c ∨ c = '\x1b' ∨ 0x20 ≤ c.toNat := by
  induction h with
  | text h => exact fun c hc => .inl (h c hc)
  | @paint style s t _ ih =>
    have hstart : style.start.toList.all (fun c => c = '\x1b' ∨ 0x20 ≤ c.toNat) = true := by
      cases style <;> decide
    have hstop : Style.stop.toList.all (fun c => c = '\x1b' ∨ 0x20 ≤ c.toNat) = true := by decide
    intro c hc
    simp only [Palette.paint, String.toList_append, List.mem_append] at hc
    rcases hc with (hc | hc) | hc
    · exact .inr (of_decide_eq_true (List.all_eq_true.1 hstart c hc))
    · exact ih c hc
    · exact .inr (of_decide_eq_true (List.all_eq_true.1 hstop c hc))
  | append _ _ ih ih' =>
    intro c hc
    rw [String.toList_append, List.mem_append] at hc
    exact hc.elim (ih c) (ih' c)

theorem uncoloredChars_append (h : Painted NotEsc s t) (rest : List Char) :
    uncoloredChars false (s.toList ++ rest) = t.toList ++ uncoloredChars false rest := by
  induction h generalizing rest with
  | text h => exact Opscript.uncoloredChars_append (fun hesc => h _ hesc rfl) rest
  | paint style _ ih =>
    simp only [Palette.paint, String.toList_append, List.append_assoc]
    rw [uncoloredChars_start, ih, uncoloredChars_stop]
  | append _ _ ih ih' =>
    simp only [String.toList_append, List.append_assoc]
    rw [ih, ih']

/-- Without the colours the coloured text is the plain one. -/
theorem uncolored (h : Painted NotEsc s t) : Opscript.uncolored s = t := by
  have hchars := h.uncoloredChars_append []
  rw [List.append_nil, uncoloredChars, List.append_nil] at hchars
  rw [Opscript.uncolored, hchars, String.ofList_toList]

end Painted

end Opscript
