import Opscript.Proofs.Text.Separated
import Opscript.Proofs.Text.Tame

/-!
# Plain listings are faithful

Without labels and colours, the text of a listing tells everything about its records. Cut at its
line breaks it has one line for each record, behind four lines of heading (`pieces_render`). The
words of such a line, whatever the width of the column of ids, are the id and the glyphs of the
codes (`words_entry`): no glyph holds a blank, and none is empty. The second line shows the length
of the sequence in every listing, also in one with labels and colours.
-/

namespace Opscript

theorem RecordId.text_injective {i j : RecordId} (h : i.text = j.text) : i = j := by
  have hdigits : Nat.toDigits 10 i.val = Nat.toDigits 10 j.val := by
    have hchars := congrArg String.toList h
    simpa only [text, Nat.toString_eq_repr, Nat.toList_repr] using hchars
  have hval : i.val = j.val := by
    calc
      i.val = Nat.ofDigitChars 10 (Nat.toDigits 10 i.val) 0 := Nat.ofDigitChars_ten_toDigits.symm
      _ = Nat.ofDigitChars 10 (Nat.toDigits 10 j.val) 0 := by rw [hdigits]
      _ = j.val := Nat.ofDigitChars_ten_toDigits
  cases i
  cases j
  simpa using hval

/-- The id and the codes of a record in print. -/
def Record.words (r : Record) : List String := ("#" ++ r.id.text) :: r.codes.map Code.glyph

theorem Record.words_injective {r s : Record} (h : r.words = s.words) : r = s := by
  obtain ⟨hid, hcodes⟩ := List.cons.inj h
  have hid := RecordId.text_injective ((String.append_right_inj "#").1 hid)
  have hcodes := (List.map_inj_right fun _ _ => Code.glyph_injective).1 hcodes
  obtain ⟨hoperation, harguments⟩ := List.cons.inj hcodes
  cases r
  cases s
  simp_all

theorem Record.word_ne_empty (r : Record) : ∀ w ∈ r.words, w ≠ "" := by
  intro w hw
  rcases List.mem_cons.1 hw with rfl | hw
  · exact fun h => absurd (String.append_eq_empty_iff.1 h).1 (by decide)
  · obtain ⟨c, -, rfl⟩ := List.mem_map.1 hw
    exact c.glyph_ne_empty

/-- No word holds a blank. -/
theorem Record.blank_not_mem_word (r : Record) : ∀ w ∈ r.words, ' ' ∉ w.toList := by
  intro w hw hblank
  rcases List.mem_cons.1 hw with rfl | hw
  · simp only [RecordId.text, Nat.toString_eq_repr, String.toList_append, Nat.toList_repr,
      List.mem_append] at hblank
    rcases hblank with hblank | hblank
    · exact absurd hblank (by decide)
    · exact absurd (Nat.isDigit_of_mem_toDigits (by decide) (by decide) hblank) (by decide)
  · obtain ⟨c, -, rfl⟩ := List.mem_map.1 hw
    exact absurd (c.visible_glyph _ hblank).2 (by decide)

namespace Listing

/-! ## One line -/

/-- The line of a record, up to its line break. -/
def row (labels : Labels) (p : Palette) (width : Nat) (r : Record) : String :=
  p.dim ("#" ++ padRight width r.id.text) ++ " " ++ p.blue (named labels r.operation) ++
    String.join (r.arguments.map (argument labels p))

theorem line_eq (labels : Labels) (p : Palette) (width : Nat) (r : Record) :
    line labels p width r = row labels p width r ++ "\n" := rfl

/-- The line of a record in a plain listing without labels, up to its line break. -/
def entry (width : Nat) (r : Record) : String :=
  "#" ++ padRight width r.id.text ++ " " ++ r.operation.glyph ++
    String.join (r.arguments.map fun c => " " ++ c.glyph)

theorem row_plain : row Ordered.empty .plain = entry := rfl

theorem spaces_eq (n : Nat) : spaces n = String.join (List.replicate n " ") := by
  rw [← String.toList_inj, spaces, String.toList_ofList, String.toList_join]
  induction n with
  | zero => rfl
  | succ n ih =>
    rw [List.replicate_succ, ih]
    rfl

/-- A line is its words with blanks between them, as if empty words filled up the column of ids. -/
theorem entry_eq (width : Nat) (r : Record) :
    entry width r = String.intercalate " " (("#" ++ r.id.text) ::
      (List.replicate (width - r.id.text.length) "" ++ r.codes.map Code.glyph)) := by
  rw [Text.intercalate_cons, List.map_append, String.join_append, List.map_replicate,
    String.append_empty, ← spaces_eq, Record.codes, List.map_cons, List.map_cons, String.join_cons,
    List.map_map]
  simp only [entry, padRight, String.append_assoc]
  rfl

/-- The words of a line: what stands between blanks and is not empty. -/
def words (s : String) : List String := (Text.pieces ' ' s).filter (· ≠ "")

/-- The words of a line are those of its record, however wide the column of ids is. -/
theorem words_entry (width : Nat) (r : Record) : words (entry width r) = r.words := by
  have hpieces : Text.pieces ' ' (entry width r) = ("#" ++ r.id.text) ::
      (List.replicate (width - r.id.text.length) "" ++ r.codes.map Code.glyph) := by
    rw [entry_eq]
    apply Text.pieces_intercalate (List.cons_ne_nil _ _)
    intro w hw
    rcases List.mem_cons.1 hw with rfl | hw
    · exact r.blank_not_mem_word _ List.mem_cons_self
    · rcases List.mem_append.1 hw with hw | hw
      · simp [(List.mem_replicate.1 hw).2]
      · exact r.blank_not_mem_word w (List.mem_cons_of_mem _ hw)
  have hid : "#" ++ r.id.text ≠ "" := r.word_ne_empty _ List.mem_cons_self
  have hglyphs : (r.codes.map Code.glyph).filter (· ≠ "") = r.codes.map Code.glyph :=
    List.filter_eq_self.2 fun w hw =>
      decide_eq_true (r.word_ne_empty w (List.mem_cons_of_mem _ hw))
  rw [words, hpieces, List.filter_cons, if_pos (decide_eq_true hid), List.filter_append, hglyphs]
  simp [Record.words]

theorem tame_entry (width : Nat) (r : Record) : Text.Tame (entry width r) := by
  have hhash : Text.Tame "#" := by decide
  have hblank : Text.Tame " " := by decide
  have hid := Text.tame_padRight width (Text.tame_nat r.id.val)
  have harguments : Text.Tame (String.join (r.arguments.map fun c => " " ++ c.glyph)) := by
    apply Text.Tame.join
    intro t ht
    obtain ⟨c, -, rfl⟩ := List.mem_map.1 ht
    exact hblank.append (Text.tame_glyph c)
  exact (((hhash.append hid).append hblank).append (Text.tame_glyph r.operation)).append harguments

/-! ## All lines -/

theorem tame_length (n : Nat) : Text.Tame ("length = " ++ toString n) := by
  have hlength : Text.Tame "length = " := by decide
  exact hlength.append (Text.tame_nat n)

/-- The lines in front of the first record. -/
def heading (records : List Record) : List String :=
  ["[sequence]", "length = " ++ toString (total Record.size records), "", "[records]"]

theorem tame_heading {records : List Record} {l : String} (h : l ∈ heading records) :
    Text.Tame l := by
  simp only [heading, List.mem_cons, List.not_mem_nil, or_false] at h
  rcases h with rfl | rfl | rfl | rfl
  · decide
  · exact tame_length _
  · decide
  · decide

theorem header_eq (n : Nat) :
    header n = "[sequence]" ++ "\n" ++ ("length = " ++ toString n ++ "\n" ++ "\n[records]\n") := by
  have hfront : "[sequence]\nlength = " = "[sequence]" ++ "\n" ++ "length = " := by decide
  have hback : "\n\n[records]\n" = "\n" ++ "\n[records]\n" := by decide
  unfold header
  rw [hfront, hback]
  simp only [String.append_assoc]

/-- A listing is its lines with a line break behind each. -/
theorem render_eq (records : List Record) (labels : Labels) (p : Palette) :
    render records labels p =
      String.join ((heading records ++ records.map (row labels p (idWidth records))).map
        (· ++ "\n")) := by
  have hlines : records.map (line labels p (idWidth records)) =
      (records.map (row labels p (idWidth records))).map (· ++ "\n") := by
    rw [List.map_map]
    exact List.map_congr_left fun r _ => line_eq _ _ _ r
  have hback : "\n[records]\n" = "" ++ "\n" ++ ("[records]" ++ "\n") := by decide
  rw [render, header_eq, hlines, List.map_append, String.join_append, hback]
  simp only [heading, List.map_cons, List.map_nil, String.join_cons, String.join_nil,
    String.append_assoc, String.append_empty]

theorem render_plain (records : List Record) :
    render records Ordered.empty .plain =
      String.join ((heading records ++ records.map (entry (idWidth records))).map (· ++ "\n")) := by
  rw [render_eq, row_plain]

/-- Cut at its line breaks, a plain listing gives its lines. -/
theorem pieces_render (records : List Record) :
    Text.pieces '\n' (render records Ordered.empty .plain) =
      heading records ++ records.map (entry (idWidth records)) ++ [""] := by
  rw [render_plain]
  apply Text.pieces_join
  have htame : ∀ l ∈ heading records ++ records.map (entry (idWidth records)), Text.Tame l := by
    intro l hl
    rcases List.mem_append.1 hl with hl | hl
    · exact tame_heading hl
    · obtain ⟨r, -, rfl⟩ := List.mem_map.1 hl
      exact tame_entry _ r
  exact fun l hl hbreak => absurd (htame l hl _ hbreak) (by decide)

/-- The second line of a listing shows the length. -/
theorem pieces_length (records : List Record) (labels : Labels) (p : Palette) :
    (Text.pieces '\n' (render records labels p))[1]? =
      some ("length = " ++ toString (total Record.size records)) := by
  have hlength : '\n' ∉ ("length = " ++ toString (total Record.size records)).toList :=
    fun hbreak => absurd (tame_length _ _ hbreak) (by decide)
  have hrender : render records labels p = "[sequence]" ++ String.singleton '\n' ++
      ("length = " ++ toString (total Record.size records) ++ String.singleton '\n' ++
        ("\n[records]\n" ++ String.join (records.map (line labels p (idWidth records))))) := by
    have hbreak : String.singleton '\n' = "\n" := rfl
    rw [render, header_eq, hbreak]
    simp only [String.append_assoc]
  rw [hrender, Text.pieces_append (by decide), Text.pieces_append hlength]
  rfl

/-- Without labels and colours, two lists of records have the same listing only if they are the
same: ids, operations, arguments and order can all be told from it. And the second line of every
listing shows the length of the sequence of its records. -/
theorem render_faithful :
    (∀ rs ss : List Record,
      render rs Ordered.empty .plain = render ss Ordered.empty .plain ↔ rs = ss) ∧
    ∀ (records : List Record) (labels : Labels) (p : Palette),
      (Text.pieces '\n' (render records labels p))[1]? =
        some ("length = " ++ toString (encode records).length) := by
  constructor
  · intro rs ss
    refine ⟨fun h => ?_, fun h => h ▸ rfl⟩
    have hpieces := congrArg (Text.pieces '\n') h
    rw [pieces_render, pieces_render, List.append_assoc, List.append_assoc] at hpieces
    have hlines := (List.append_inj hpieces rfl).2
    have hentries := congrArg (List.map words) (List.append_inj_left' hlines rfl)
    simp only [List.map_map, Function.comp_def, words_entry] at hentries
    exact (List.map_inj_right fun _ _ => Record.words_injective).1 hentries
  · intro records labels p
    rw [length_encode]
    exact pieces_length records labels p

end Listing

end Opscript
