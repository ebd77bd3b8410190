import Opscript.Proofs.Listing.Faithful
import Opscript.Sequencer.Request

/-!
# Line breaks in a listing

Labels stand in a listing as they are, and all else in it is tame. So the line breaks of a listing
are those behind its lines and those of the labels that it shows, each as often as it is shown
(`breaks_render`). There is one line for each record just if the labels that are shown have no line
break (`Unbroken`); none is taken out when a label is registered.
-/

namespace Opscript

/-! ## Counting line breaks -/

namespace Text

/-- The number of line breaks. -/
def breaks (s : String) : Nat := s.toList.count '\n'

@[simp] theorem breaks_append (s t : String) : breaks (s ++ t) = breaks s + breaks t := by
  rw [breaks, String.toList_append, List.count_append]
  rfl

theorem breaks_join (ts : List String) : breaks (String.join ts) = total breaks ts := by
  induction ts with
  | nil => rfl
  | cons t ts ih => rw [String.join_cons, breaks_append, ih, total_cons]

theorem breaks_eq_zero_iff {s : String} : breaks s = 0 ↔ '\n' ∉ s.toList := List.count_eq_zero

theorem Tame.breaks {s : String} (h : Tame s) : breaks s = 0 :=
  breaks_eq_zero_iff.2 fun hbreak => absurd (h _ hbreak) (by decide)

/-- Colours bring no line break. -/
@[simp] theorem breaks_paint (p : Palette) (style : Style) (s : String) :
    breaks (p.paint style s) = breaks s := by
  cases p with
  | plain => rfl
  | colored =>
    have hstart : breaks style.start = 0 := by cases style <;> decide
    have hstop : breaks Style.stop = 0 := by decide
    simp [Palette.paint, hstart, hstop]

/-- Lines with a line break behind each have these line breaks and their own. -/
theorem breaks_lines (ls : List String) :
    breaks (String.join (ls.map (· ++ "\n"))) = ls.length + total breaks ls := by
  have hbreak : breaks "\n" = 1 := by decide
  rw [breaks_join]
  induction ls with
  | nil => rfl
  | cons l ls ih =>
    rw [List.map_cons, total_cons, ih, total_cons, List.length_cons, breaks_append, hbreak]
    omega

end Text

namespace Listing

open Text (breaks breaks_join breaks_eq_zero_iff)

/-! ## Line breaks of labels -/

/-- The line breaks of the label that is shown with a code. -/
def labelBreaks (labels : Labels) (c : Code) : Nat := ((labels.labelOf? c).map breaks).getD 0

/-- The line breaks of the labels that are shown with a record. -/
def recordBreaks (labels : Labels) (r : Record) : Nat := total (labelBreaks labels) r.codes

/-- No label that is shown with the records has a line break. -/
def Unbroken (labels : Labels) (records : List Record) : Prop :=
  ∀ r ∈ records, ∀ c ∈ r.codes, ∀ label, labels.labelOf? c = some label → '\n' ∉ label.toList

theorem labelBreaks_eq_zero_iff {labels : Labels} {c : Code} :
    labelBreaks labels c = 0 ↔ ∀ label, labels.labelOf? c = some label → '\n' ∉ label.toList := by
  unfold labelBreaks
  cases labels.labelOf? c with
  | none => exact iff_of_true rfl nofun
  | some label => simp [breaks_eq_zero_iff]

theorem unbroken_iff {labels : Labels} {records : List Record} :
    Unbroken labels records ↔ total (recordBreaks labels) records = 0 := by
  simp only [Unbroken, recordBreaks, total_eq_zero_iff, labelBreaks_eq_zero_iff]

/-! ## Lines -/

variable (labels : Labels) (p : Palette)

/-- The glyph of a code has no line break, so there are those of its label. -/
theorem breaks_named (c : Code) : breaks (named labels c) = labelBreaks labels c := by
  have hglyph : breaks c.glyph = 0 := (Text.tame_glyph c).breaks
  have hopen : breaks "(" = 0 := by decide
  have hclose : breaks ")" = 0 := by decide
  unfold named labelBreaks
  cases labels.labelOf? c with
  | none => exact hglyph
  | some label => simp [hglyph, hopen, hclose]

theorem breaks_argument (c : Code) : breaks (argument labels p c) = labelBreaks labels c := by
  have hblank : breaks " " = 0 := by decide
  simp [argument, Palette.green, hblank, breaks_named]

/-- Only labels bring line breaks into a line. -/
theorem breaks_row (width : Nat) (r : Record) :
    breaks (row labels p width r) = recordBreaks labels r := by
  have hid : breaks ("#" ++ padRight width r.id.text) = 0 :=
    (Text.Tame.append (by decide) (Text.tame_padRight width (Text.tame_nat r.id.val))).breaks
  have hblank : breaks " " = 0 := by decide
  have harguments : breaks (String.join (r.arguments.map (argument labels p))) =
      total (labelBreaks labels) r.arguments := by
    rw [breaks_join, total_map]
    simp only [breaks_argument]
  simp [row, Palette.dim, Palette.blue, hid, hblank, breaks_named, harguments, recordBreaks,
    Record.codes]

theorem total_breaks_heading (records : List Record) : total breaks (heading records) = 0 :=
  total_eq_zero_iff.2 fun _ hl => (tame_heading hl).breaks

theorem total_breaks_rows (width : Nat) (records : List Record) :
    total breaks (records.map (row labels p width)) = total (recordBreaks labels) records := by
  rw [total_map]
  simp only [breaks_row]

/-! ## Listings -/

/-- A listing has its four lines of heading and one line for each record, with a line break behind
each. To these come the line breaks of the labels, each as often as the label is shown. So there
are as many line breaks as lines, and the listing is cut into these lines at them, just if no label
that is shown has a line break. -/
theorem breaks_render (records : List Record) :
    let lines := heading records ++ records.map (row labels p (idWidth records))
    render records labels p = String.join (lines.map (· ++ "\n")) ∧
      breaks (render records labels p) =
        4 + records.length + total (recordBreaks labels) records ∧
      (breaks (render records labels p) = 4 + records.length ↔ Unbroken labels records) ∧
      (Text.pieces '\n' (render records labels p) = lines ++ [""] ↔ Unbroken labels records) := by
  intro lines
  have hrender : render records labels p = String.join (lines.map (· ++ "\n")) :=
    render_eq records labels p
  have htotal : total breaks lines = total (recordBreaks labels) records := by
    rw [total_append, total_breaks_heading, Nat.zero_add, total_breaks_rows]
  have hlength : lines.length = 4 + records.length := by
    rw [List.length_append, List.length_map]
    rfl
  have hbreaks : breaks (render records labels p) =
      4 + records.length + total (recordBreaks labels) records := by
    rw [hrender, Text.breaks_lines, htotal, hlength]
  have hone : breaks (render records labels p) = 4 + records.length ↔ Unbroken labels records := by
    rw [hbreaks, unbroken_iff]
    omega
  refine ⟨hrender, hbreaks, hone, fun hpieces => ?_, fun hunbroken => ?_⟩
  · have hcount := congrArg List.length hpieces
    rw [Text.length_pieces, List.length_append, hlength, List.length_singleton] at hcount
    exact hone.1 (Nat.succ.inj hcount)
  · rw [unbroken_iff, ← htotal, total_eq_zero_iff] at hunbroken
    rw [hrender]
    exact Text.pieces_join fun l hl => breaks_eq_zero_iff.1 (hunbroken l hl)

/-- A label with a line break is registered as it is, and one record takes two lines. -/
theorem breaks_render_label :
    let requests : List Request := [.registerLabel "x\ny" (.text "A"), .append (.text "A") []]
    let q := (Sequencer.performAll default requests).2
    q.listing .plain = "[sequence]\nlength = 1\n\n[records]\n#1 A(x\ny)\n" ∧
      q.model.records.length = 1 ∧
      breaks (q.listing .plain) ≠ 4 + q.model.records.length := by
  decide +kernel

end Listing

end Opscript
