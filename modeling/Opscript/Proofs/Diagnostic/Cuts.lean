import Mathlib.Data.String.Basic
import Opscript.Proofs.Diagnostic.Bytes

/-!
# Byte ranges as parts of a text

A byte range is what a part of the text takes up, whatever its span is: `byteRange_part` cuts the
text in front of the part and behind it. So a text can be sliced at both ends of the range, which
are never inside a character. If the ends of the span are not inside a character either, the part
has just the units of the span.
-/

namespace Opscript.Diagnostic

/-- The text can be cut in two where its front has this size. -/
def CutAt (size : Char → Nat) (source : List Char) (n : Nat) : Prop :=
  ∃ before behind, source = before ++ behind ∧ total size before = n

/-- The range of a part that has `before` in front of it. -/
def ByteRange.ofPart (before part : List Char) : ByteRange :=
  ⟨byteCount before, byteCount before + byteCount part⟩

/-- The text in a range. -/
def ByteRange.text (r : ByteRange) (source : String) : String :=
  String.Pos.Raw.extract source ⟨r.start⟩ ⟨r.stop⟩

/-- A text can be sliced at both ends of the range. -/
structure ByteRange.Slices (r : ByteRange) (source : String) : Prop where
  start_le_stop : r.start ≤ r.stop
  stop_le_size : r.stop ≤ source.utf8ByteSize
  start : String.Pos.Raw.IsValid source ⟨r.start⟩
  stop : String.Pos.Raw.IsValid source ⟨r.stop⟩

variable {source before part behind : List Char} {c : Char} {span : Span}

/-! ## Parts -/

/-- Two cuts leave a part between them. -/
theorem exists_part {size : Char → Nat} (hsize : ∀ c, 0 < size c) {n m : Nat}
    (hn : CutAt size source n) (hm : CutAt size source m) (h : n ≤ m) :
    ∃ before part behind, source = before ++ part ++ behind ∧ total size before = n ∧
      n + total size part = m := by
  obtain ⟨front, rest, rfl, rfl⟩ := hn
  obtain ⟨front', rest', hcut, rfl⟩ := hm
  rcases List.append_eq_append_iff.1 hcut with ⟨part, rfl, rfl⟩ | ⟨part, rfl, rfl⟩
  · exact ⟨front, part, rest', (List.append_assoc ..).symm, rfl, (total_append ..).symm⟩
  · -- The second cut is not behind the first one, so nothing is between them.
    cases part with
    | nil => exact ⟨front', [], rest, by simp, by simp, by simp⟩
    | cons c part =>
      have hc := hsize c
      rw [total_append, total_cons] at h
      omega

theorem cutAt_end (size : Char → Nat) (source : List Char) :
    CutAt size source (total size source) :=
  ⟨source, [], (List.append_nil _).symm, rfl⟩

/-- The search finds the ends of a span between characters only. -/
theorem cutAt_locate (span : Span) (before rest : List Char) (unit : Nat) (start : Option Nat)
    (hstart : ∀ b, start = some b → CutAt Char.utf8Size (before ++ rest) b) :
    let found := locate span (byteCount before) unit start rest
    (∀ b, found.1 = some b → CutAt Char.utf8Size (before ++ rest) b) ∧
      ∀ b, found.2 = some b → CutAt Char.utf8Size (before ++ rest) b := by
  induction rest generalizing before unit start with
  | nil => exact ⟨hstart, nofun⟩
  | cons c rest ih =>
    have hhere : ∀ b, some (byteCount before) = some b →
        CutAt Char.utf8Size (before ++ c :: rest) b :=
      fun b hb => ⟨before, c :: rest, rfl, Option.some.inj hb⟩
    have hstart' : ∀ b, (if unit = span.start then some (byteCount before) else start) = some b →
        CutAt Char.utf8Size (before ++ c :: rest) b := by
      intro b hb
      split at hb
      · exact hhere b hb
      · exact hstart b hb
    intro found
    rw [show found = locate span (byteCount before) unit start (c :: rest) from rfl, locate]
    split
    · exact ⟨hstart', hhere⟩
    · -- The search goes on behind `c`, in the same text.
      have hnext : byteCount (before ++ [c]) = byteCount before + c.utf8Size :=
        byteCount_append before [c]
      have hcut : before ++ c :: rest = before ++ [c] ++ rest := by simp
      rw [← hnext, hcut]
      rw [hcut] at hstart'
      exact ih (before ++ [c]) _ _ hstart'

theorem cutAt_getD {b : Option Nat} (h : ∀ n, b = some n → CutAt Char.utf8Size source n) :
    CutAt Char.utf8Size source (b.getD (byteCount source)) := by
  cases b with
  | none => exact cutAt_end Char.utf8Size source
  | some n => exact h n rfl

/-- A byte range lies between two cuts, and is widened if it is empty. -/
theorem byteRange_cuts (source : List Char) (span : Span) :
    ∃ start stop, CutAt Char.utf8Size source start ∧ CutAt Char.utf8Size source stop ∧
      byteRange source span = if start < stop then ⟨start, stop⟩
        else ⟨start, start + byteCount ((dropBytes start source).take 1)⟩ := by
  have hfound := cutAt_locate span [] source 0 none nofun
  exact ⟨_, _, cutAt_getD hfound.1, cutAt_getD hfound.2, rfl⟩

/-- A byte range is that of a part of the text. -/
theorem byteRange_part (source : List Char) (span : Span) :
    ∃ before part behind, source = before ++ part ++ behind ∧
      byteRange source span = .ofPart before part := by
  obtain ⟨start, stop, hstart, hstop, hrange⟩ := byteRange_cuts source span
  rw [hrange]
  by_cases h : start < stop
  · obtain ⟨before, part, behind, hcut, rfl, rfl⟩ :=
      exists_part Char.utf8Size_pos hstart hstop (Nat.le_of_lt h)
    exact ⟨before, part, behind, hcut, if_pos h⟩
  · obtain ⟨before, behind, rfl, rfl⟩ := hstart
    refine ⟨before, behind.take 1, behind.drop 1, ?_, ?_⟩
    · rw [List.append_assoc, List.take_append_drop]
    · rw [if_neg h]
      exact congrArg (fun rest => (⟨_, _ + byteCount (rest.take 1)⟩ : ByteRange))
        (dropBytes_append before behind)

/-! ## The part of a span -/

theorem endAt_append (before behind : List Char) :
    endAt (before ++ behind) (total Utf16.width before) = byteCount before := by
  rw [endAt, offset?_eq_some_iff.2 ⟨before, behind, rfl, rfl, rfl⟩]
  rfl

theorem byteCount_pos {part : List Char} (h : 0 < total Utf16.width part) : 0 < byteCount part := by
  cases part with
  | nil => exact absurd h (Nat.lt_irrefl 0)
  | cons c rest => exact Nat.add_pos_left c.utf8Size_pos _

/-- The span of the units of a part has the bytes of the part. -/
theorem byteRange_of_part (hcut : source = before ++ part ++ behind)
    (hstart : span.start = total Utf16.width before)
    (hstop : span.stop = total Utf16.width before + total Utf16.width part)
    (h : span.start < span.stop) : byteRange source span = .ofPart before part := by
  have hfirst : endAt source span.start = byteCount before := by
    rw [hcut, hstart, List.append_assoc]
    exact endAt_append before _
  have hlast : endAt source span.stop = byteCount before + byteCount part := by
    rw [hcut, hstop, ← total_append, endAt_append, byteCount_append]
  have hpart : 0 < byteCount part := byteCount_pos (by omega)
  rw [byteRange_eq source (Nat.le_of_lt h), hfirst, hlast, if_pos (Nat.lt_add_of_pos_right hpart)]
  rfl

/-- An empty span in front of a character has the bytes of the character. -/
theorem byteRange_of_empty (hcut : source = before ++ c :: behind)
    (hstart : span.start = total Utf16.width before) (h : span.start = span.stop) :
    byteRange source span = .ofPart before [c] := by
  have hfirst : endAt source span.start = byteCount before := by
    rw [hcut, hstart]
    exact endAt_append before _
  rw [byteRange_eq source (Nat.le_of_eq h), ← h, if_neg (Nat.lt_irrefl _), hfirst, hcut,
    dropBytes_append]
  rfl

/-! ## Texts -/

theorem byteCount_eq_utf8Len (s : List Char) : byteCount s = String.utf8Len s := by
  induction s with
  | nil => rfl
  | cons c rest ih =>
    rw [String.utf8Len_cons, ← ih, byteCount_cons, Nat.add_comm]

theorem byteCount_toList (s : String) : byteCount s.toList = s.utf8ByteSize := by
  rw [byteCount_eq_utf8Len, ← String.utf8ByteSize_ofList, String.ofList_toList]

theorem text_ofPart {source : String} (hcut : source.toList = before ++ part ++ behind) :
    (ByteRange.ofPart before part).text source = String.ofList part := by
  unfold ByteRange.text ByteRange.ofPart
  rw [← String.ofList_toList (s := source), hcut, byteCount_eq_utf8Len, byteCount_eq_utf8Len]
  exact String.extract_of_valid before part behind

/-- What is in front of a part. -/
theorem text_front {source : String} (hcut : source.toList = before ++ part ++ behind) :
    (⟨0, (ByteRange.ofPart before part).start⟩ : ByteRange).text source = String.ofList before := by
  have hfront : source.toList = [] ++ before ++ (part ++ behind) := by
    rw [hcut, List.append_assoc, List.nil_append]
  have htext := text_ofPart hfront
  rw [ByteRange.ofPart, byteCount, total_nil, Nat.zero_add] at htext
  exact htext

/-- Between two characters a text can be sliced. -/
theorem isValid_byteCount {source : String} (hcut : source.toList = before ++ behind) :
    String.Pos.Raw.IsValid source ⟨byteCount before⟩ := by
  refine String.Pos.Raw.isValid_iff_exists_append.2
    ⟨String.ofList before, String.ofList behind, ?_, ?_⟩
  · rw [← String.ofList_append, ← hcut, String.ofList_toList]
  · rw [byteCount_eq_utf8Len, String.rawEndPos_ofList]

theorem slices_ofPart {source : String} (hcut : source.toList = before ++ part ++ behind) :
    (ByteRange.ofPart before part).Slices source := by
  refine ⟨Nat.le_add_right _ _, ?_, ?_, ?_⟩
  · rw [ByteRange.ofPart, ← byteCount_append, ← byteCount_toList, hcut,
      byteCount_append (before ++ part)]
    exact Nat.le_add_right _ _
  · rw [List.append_assoc] at hcut
    exact isValid_byteCount hcut
  · rw [ByteRange.ofPart, ← byteCount_append]
    exact isValid_byteCount hcut

/-- A part has the units of the text from the first of its own to the last. -/
theorem encode_part {source : String} (hcut : source.toList = before ++ part ++ behind) :
    Utf16.encode (String.ofList before) =
        (Utf16.encode source).take (total Utf16.width before) ∧
      Utf16.encode (String.ofList part) =
        ((Utf16.encode source).take (total Utf16.width before + total Utf16.width part)).drop
          (total Utf16.width before) := by
  have hlength (s : List Char) : (s.flatMap Utf16.ofChar).length = total Utf16.width s := by
    simp only [length_flatMap_eq_total, Utf16.length_ofChar]
  simp only [Utf16.encode, hcut, String.toList_ofList, List.flatMap_append]
  constructor
  · rw [List.append_assoc, List.take_left' (hlength before)]
  · rw [List.take_left' (by rw [List.length_append, hlength, hlength]),
      List.drop_left' (hlength before)]

/-- The byte range of any span goes from one place between two characters to another that is not in
front of it, so that it can be sliced out of the text. If neither end of a span that is not empty
is inside a character, the range holds just the units of the span. If an empty span lies in front
of a character, the range holds just this character. -/
theorem byteRange_slices (source : String) (span : Span) :
    let range := byteRange source.toList span
    range.Slices source ∧
      (span.start < span.stop → Boundary source.toList span.start →
        Boundary source.toList span.stop →
          Utf16.encode ((⟨0, range.start⟩ : ByteRange).text source) =
              (Utf16.encode source).take span.start ∧
            Utf16.encode (range.text source) =
              ((Utf16.encode source).take span.stop).drop span.start) ∧
      (span.start = span.stop → ∀ before c behind, source = before ++ String.singleton c ++ behind →
        Utf16.length before = span.start →
          (⟨0, range.start⟩ : ByteRange).text source = before ∧
            range.text source = String.singleton c) := by
  intro range
  refine ⟨?_, fun h hstart hstop => ?_, fun h before c behind hsource hstart => ?_⟩
  · obtain ⟨before, part, behind, hcut, hrange⟩ := byteRange_part source.toList span
    rw [show range = _ from hrange]
    exact slices_ofPart hcut
  · obtain ⟨before, part, behind, hcut, hbefore, hpart⟩ :=
      exists_part width_pos hstart hstop (Nat.le_of_lt h)
    rw [← hbefore] at hpart
    have hrange : range = .ofPart before part :=
      byteRange_of_part hcut hbefore.symm hpart.symm h
    rw [hrange, text_front hcut, text_ofPart hcut, ← hbefore, ← hpart]
    exact encode_part hcut
  · have hchar : source.toList = before.toList ++ [c] ++ behind.toList := by
      rw [hsource, String.toList_append, String.toList_append, String.toList_singleton]
    have hcut : source.toList = before.toList ++ c :: behind.toList := by
      rw [hchar, List.append_assoc]
      rfl
    have hrange : range = .ofPart before.toList [c] := byteRange_of_empty hcut hstart.symm h
    rw [hrange, text_front hchar, text_ofPart hchar, String.ofList_toList]
    exact ⟨rfl, rfl⟩

/-- A pair between two characters: the span of its two units, the empty span in front of it, and a
reversed span, which has nothing of the text. -/
theorem byteRange_slices_pair :
    let source := "a😀b"
    let range := fun start stop => byteRange source.toList ⟨start, stop⟩
    range 1 3 = ⟨1, 5⟩ ∧ range 1 1 = ⟨1, 5⟩ ∧ range 3 1 = ⟨6, 6⟩ ∧ (range 3 1).Slices source ∧
      Utf16.encode ((range 1 3).text source) = ((Utf16.encode source).take 3).drop 1 ∧
      (range 1 1).text source = String.singleton '😀' := by
  intro source range
  have hstart : Boundary source.toList 1 := ⟨['a'], ['😀', 'b'], by decide, by decide⟩
  have hstop : Boundary source.toList 3 := ⟨['a', '😀'], ['b'], by decide, by decide⟩
  have hunits := (byteRange_slices source ⟨1, 3⟩).2.1 (by decide) hstart hstop
  have hchar := (byteRange_slices source ⟨1, 1⟩).2.2 rfl "a" '😀' "b" (by decide) (by decide)
  exact ⟨by decide, by decide, by decide, (byteRange_slices source ⟨3, 1⟩).1, hunits.2, hchar.2⟩

end Opscript.Diagnostic
