import Opscript.Diagnostic.Picture
import Opscript.Listing

/-!
# Windows

A line that is wider than the room for it is seen through a window, which is placed so that the
mark is seen and, if possible, the beginning of the text and the whole label. Three dots stand for
what is cut off on either side; a wide blank part before the text is cut off even if there is room.
-/

namespace Opscript.Diagnostic

/-- How many of the first characters it takes to fill `n` columns. -/
def filling : Nat → List Char → Nat
  | 0, _ => 0
  | _, [] => 0
  | n, c :: rest => filling (n - columns c) rest + 1

/-- The first characters that fit into `n` columns. -/
def takeColumns : Nat → List Char → List Char
  | _, [] => []
  | n, c :: rest => if columns c ≤ n then c :: takeColumns (n - columns c) rest else []

theorem width_takeColumns_le (n : Nat) (s : List Char) : width (takeColumns n s) ≤ n := by
  induction s generalizing n with
  | nil => simp [takeColumns, width]
  | cons c rest ih =>
    unfold takeColumns
    split
    · have h := ih (n - columns c)
      simp only [width, total_cons] at h ⊢
      omega
    · simp [width]

theorem takeColumns_width (s : List Char) : takeColumns (width s) s = s := by
  induction s with
  | nil => rfl
  | cons c rest ih =>
    have h : width (c :: rest) = columns c + width rest := rfl
    simp [takeColumns, h, ih]

/-- Where things stand in a line, in columns. -/
structure Place where
  /-- The width of the line. -/
  line : Nat
  /-- The blank part before the text. -/
  indent : Nat
  /-- Where the mark begins. -/
  start : Nat
  /-- Where the mark ends. -/
  stop : Nat
  /-- Where the label behind the mark ends. -/
  reach : Nat
  deriving DecidableEq, Repr

/-- The columns of a line that are seen: from `left` on and before `right`. -/
structure Window where
  left : Nat
  right : Nat
  deriving DecidableEq, Repr

namespace Window

/-- The columns that there are for a line. -/
def room : Nat := 136

/-- The columns that are kept clear around a mark and a label. -/
def margin : Nat := 6

/-- The most blank columns before the text, beyond the margin, of which none is cut off. -/
def deepest : Nat := 20

/-- The blank columns beyond the margin that are kept where some are cut off. -/
def kept : Nat := 16

/-- A window as wide as the room. -/
def ofLeft (left : Nat) : Window := ⟨left, left + room⟩

/-- The window for a line that does not fit: from the text on, if the label is seen as well; else
around mark and label; else around the mark, with more of the spare columns behind it; else the mark
alone. -/
def narrow (p : Place) : Window :=
  let text := p.indent - margin
  let start := p.start - margin
  let stop := p.stop + margin
  let reach := p.reach + margin
  if reach - text ≤ room then ofLeft text
  else if reach - start ≤ room then ofLeft (start - (room - (reach - start)) / 2)
  else if stop - start ≤ room then ofLeft (start - (room - (stop - start)) / 5 * 2)
  else ⟨start, stop⟩

/-- The window in which a line is shown. -/
def fit (p : Place) : Window :=
  let text := p.indent - margin
  let left := if text > deepest then text - kept else 0
  let w := if p.line - left ≤ room then ⟨left, p.line⟩ else narrow p
  if p.line - w.left ≤ room then ⟨w.left, p.line⟩ else ⟨w.left, min p.line w.right⟩

/-- What stands for the part of a line that is cut off. -/
def dots : String := "..."

/-- The characters before the window. -/
def hidden (w : Window) (s : List Char) : List Char := s.take (filling w.left s)

/-- The characters in the window. -/
def seen (w : Window) (s : List Char) : List Char :=
  takeColumns (w.right - w.left) (s.drop (filling w.left s))

theorem width_seen_le (w : Window) (s : List Char) : width (w.seen s) ≤ w.right - w.left :=
  width_takeColumns_le _ _

/-- Characters with the dots on the place of the last ones. -/
def dotEnd (ink : String → String) (s : List Char) : String :=
  let n := s.length - filling dots.length s.reverse
  String.ofList (s.take n) ++ ink dots ++ String.ofList (s.drop (n + dots.length))

/-- A line in its window. The dots on the left take the place of as many characters as fill their
columns. -/
def draw (w : Window) (ink : String → String) (s : List Char) : String :=
  let seen := w.seen s
  let covered := if w.left = 0 then 0 else filling dots.length seen
  let rest := seen.drop covered
  (if w.left = 0 then ""
    else ink dots ++ Listing.spaces (width (seen.take covered) - dots.length)) ++
  if w.right < width s then dotEnd ink rest else String.ofList rest

/-- A line that fits is shown as it is. -/
theorem fit_of_le {p : Place} (h : p.line ≤ room) (hi : p.indent ≤ deepest + margin) :
    fit p = ⟨0, p.line⟩ := by
  have : ¬ p.indent - margin > deepest := by omega
  simp [fit, this, h]

theorem draw_whole (ink : String → String) (s : List Char) :
    draw ⟨0, width s⟩ ink s = String.ofList s := by
  simp [draw, seen, filling, takeColumns_width]

end Window

end Opscript.Diagnostic
