import Opscript.Diagnostic.ByteRange

/-!
# The characters under a span

A span counts units, and its byte range is to stand for the characters with a unit in it.
`characterAt?` are the bytes of the character that holds a unit. `offset?` is the byte at which a
unit offset lies; there is none between the two units of one character. The search for the ends of a
span finds the offsets that there are and takes the end of the text for the others (`byteRange_eq`).
So a byte range stands for the right characters if no character lies across an end of the span, and
else it does so only by chance (`byteRange_of_units`).
-/

namespace Opscript.Diagnostic

/-- The byte offset of a unit offset, if no character lies across it. -/
def offset? : Nat → List Char → Option Nat
  | 0, _ => some 0
  | _ + 1, [] => none
  | u + 1, c :: rest =>
    if Utf16.width c ≤ u + 1 then (offset? (u + 1 - Utf16.width c) rest).map (c.utf8Size + ·)
    else none

/-- The range `n` bytes further on. -/
def ByteRange.shift (n : Nat) (r : ByteRange) : ByteRange := ⟨n + r.start, n + r.stop⟩

/-- The bytes of the character that holds a unit. -/
def characterAt? : Nat → List Char → Option ByteRange
  | _, [] => none
  | u, c :: rest =>
    if u < Utf16.width c then some ⟨0, c.utf8Size⟩
    else (characterAt? (u - Utf16.width c) rest).map (ByteRange.shift c.utf8Size)

theorem width_pos (c : Char) : 0 < Utf16.width c := by
  unfold Utf16.width
  split <;> exact Nat.succ_pos _

variable {source rest : List Char} {c : Char} {u byte unit : Nat} {span : Span}

/-! ## Offsets -/

theorem offset?_zero (source : List Char) : offset? 0 source = some 0 := by
  cases source <;> rfl

theorem offset?_nil (h : 0 < u) : offset? u [] = none := by
  cases u with
  | zero => exact absurd h (Nat.lt_irrefl 0)
  | succ u => rfl

theorem offset?_cons (h : Utf16.width c ≤ u) :
    offset? u (c :: rest) = (offset? (u - Utf16.width c) rest).map (c.utf8Size + ·) := by
  cases u with
  | zero => exact absurd (width_pos c) (Nat.not_lt.2 h)
  | succ u => exact if_pos h

theorem offset?_cons_of_lt (hpos : 0 < u) (h : u < Utf16.width c) :
    offset? u (c :: rest) = none := by
  cases u with
  | zero => exact absurd hpos (Nat.lt_irrefl 0)
  | succ u => exact if_neg (Nat.not_le.2 h)

/-- Offsets are where a text can be cut in two. -/
theorem offset?_eq_some_iff {b : Nat} :
    offset? u source = some b ↔ ∃ before behind, source = before ++ behind ∧
      total Utf16.width before = u ∧ byteCount before = b := by
  induction source generalizing u b with
  | nil =>
    constructor
    · intro h
      cases u with
      | zero => exact ⟨[], [], rfl, rfl, Option.some.inj h⟩
      | succ u => cases h
    · rintro ⟨before, behind, hcut, rfl, rfl⟩
      obtain ⟨rfl, -⟩ := List.append_eq_nil_iff.1 hcut.symm
      rfl
  | cons c rest ih =>
    constructor
    · intro h
      cases Nat.eq_zero_or_pos u with
      | inl hzero =>
        subst hzero
        exact ⟨[], c :: rest, rfl, rfl, Option.some.inj h⟩
      | inr hpos =>
        by_cases hc : Utf16.width c ≤ u
        · rw [offset?_cons hc] at h
          obtain ⟨b', hb', rfl⟩ := Option.map_eq_some_iff.1 h
          obtain ⟨before, behind, rfl, hunits, rfl⟩ := ih.1 hb'
          refine ⟨c :: before, behind, rfl, ?_, rfl⟩
          rw [total_cons, hunits, Nat.add_sub_cancel' hc]
        · rw [offset?_cons_of_lt hpos (Nat.lt_of_not_le hc)] at h
          cases h
    · rintro ⟨before, behind, hcut, rfl, rfl⟩
      cases before with
      | nil => exact offset?_zero _
      | cons c' before =>
        obtain ⟨rfl, hrest⟩ := List.cons.inj hcut
        have hoffset : offset? (total Utf16.width before) rest = some (byteCount before) :=
          ih.2 ⟨before, behind, hrest, rfl, rfl⟩
        rw [total_cons, offset?_cons (Nat.le_add_right _ _), Nat.add_sub_cancel_left, hoffset]
        rfl

/-! ## The search for the ends -/

/-- Behind the end of a span its end is not found any more. -/
theorem locate_stop_of_lt {start : Option Nat} (h : span.stop < unit) :
    (locate span byte unit start source).2 = none := by
  induction source generalizing byte unit start with
  | nil => rfl
  | cons c rest ih =>
    rw [locate, if_neg (Nat.ne_of_gt h)]
    exact ih (Nat.lt_add_right _ h)

/-- Behind the start of a span its start stays what was found. -/
theorem locate_start_of_lt {start : Option Nat} (h : span.start < unit) :
    (locate span byte unit start source).1 = start := by
  induction source generalizing byte unit with
  | nil => rfl
  | cons c rest ih =>
    rw [locate, if_neg (Nat.ne_of_gt h)]
    split
    · rfl
    · exact ih (Nat.lt_add_right _ h)

/-- Where the end of a span lies, and the end of the text if it lies nowhere. -/
theorem locate_stop (source : List Char) (byte : Nat) (start : Option Nat)
    (h : unit ≤ span.stop) :
    (locate span byte unit start source).2.getD (byte + byteCount source) =
      ((offset? (span.stop - unit) source).map (byte + ·)).getD (byte + byteCount source) := by
  induction source generalizing byte unit start with
  | nil =>
    cases Nat.eq_zero_or_pos (span.stop - unit) with
    | inl hzero => rw [hzero]; rfl
    | inr hpos => rw [offset?_nil hpos]; rfl
  | cons c rest ih =>
    rw [byteCount_cons, ← Nat.add_assoc, locate]
    by_cases hat : unit = span.stop
    · rw [if_pos hat, hat, Nat.sub_self]
      rfl
    · have hpos : 0 < span.stop - unit := by omega
      rw [if_neg hat]
      by_cases hc : Utf16.width c ≤ span.stop - unit
      · rw [ih _ _ (by omega), offset?_cons hc, Option.map_map, Nat.sub_add_eq]
        simp only [Function.comp_def, Nat.add_assoc]
      · rw [locate_stop_of_lt (by omega), offset?_cons_of_lt hpos (by omega)]
        rfl

/-- Where the start of a span lies that is not reversed, and the end of the text if it lies
nowhere. -/
theorem locate_start (source : List Char) (byte : Nat) (hspan : span.start ≤ span.stop)
    (h : unit ≤ span.start) :
    (locate span byte unit none source).1.getD (byte + byteCount source) =
      ((offset? (span.start - unit) source).map (byte + ·)).getD (byte + byteCount source) := by
  induction source generalizing byte unit with
  | nil =>
    cases Nat.eq_zero_or_pos (span.start - unit) with
    | inl hzero => rw [hzero]; rfl
    | inr hpos => rw [offset?_nil hpos]; rfl
  | cons c rest ih =>
    rw [byteCount_cons, ← Nat.add_assoc, locate]
    by_cases hat : unit = span.start
    · rw [if_pos hat, hat, Nat.sub_self, offset?_zero]
      split
      · rfl
      · rw [locate_start_of_lt (Nat.lt_add_of_pos_right (width_pos c))]
        rfl
    · have hpos : 0 < span.start - unit := by omega
      rw [if_neg hat, if_neg (show unit ≠ span.stop by omega)]
      by_cases hc : Utf16.width c ≤ span.start - unit
      · rw [ih _ (by omega), offset?_cons hc, Option.map_map, Nat.sub_add_eq]
        simp only [Function.comp_def, Nat.add_assoc]
      · rw [locate_start_of_lt (by omega), offset?_cons_of_lt hpos (by omega)]
        rfl

/-- The byte at which an end of a span is taken to lie. -/
def endAt (source : List Char) (u : Nat) : Nat := (offset? u source).getD (byteCount source)

/-- A byte range lies between the ends of its span, and is widened if it is empty. -/
theorem byteRange_eq (source : List Char) (h : span.start ≤ span.stop) :
    byteRange source span =
      if endAt source span.start < endAt source span.stop then
        ⟨endAt source span.start, endAt source span.stop⟩
      else ⟨endAt source span.start, endAt source span.start +
        byteCount ((dropBytes (endAt source span.start) source).take 1)⟩ := by
  have hstart : (locate span 0 0 none source).1.getD (byteCount source) =
      endAt source span.start := by
    have hfound := locate_start source 0 h (Nat.zero_le _)
    simpa [endAt] using hfound
  have hstop : (locate span 0 0 none source).2.getD (byteCount source) =
      endAt source span.stop := by
    have hfound := locate_stop source 0 none (Nat.zero_le span.stop)
    simpa [endAt] using hfound
  unfold byteRange
  rw [← hstart, ← hstop]

/-! ## Characters -/

/-- The character that holds a unit begins at or before it and ends behind it. -/
theorem characterAt?_eq_some_iff {r : ByteRange} :
    characterAt? u source = some r ↔ ∃ before c behind, source = before ++ c :: behind ∧
      total Utf16.width before ≤ u ∧ u < total Utf16.width before + Utf16.width c ∧
      r = ⟨byteCount before, byteCount before + c.utf8Size⟩ := by
  induction source generalizing u r with
  | nil =>
    refine iff_of_false nofun ?_
    rintro ⟨before, c, behind, hcut, -⟩
    cases before <;> cases hcut
  | cons d rest ih =>
    rw [characterAt?]
    split
    next hd =>
      constructor
      · intro h
        obtain rfl := Option.some.inj h
        refine ⟨[], d, rest, rfl, Nat.zero_le u, ?_, ?_⟩
        · rwa [total_nil, Nat.zero_add]
        · rw [byteCount, total_nil, Nat.zero_add]
      · rintro ⟨before, c, behind, hcut, hle, -, rfl⟩
        cases before with
        | nil =>
          obtain ⟨rfl, -⟩ := List.cons.inj hcut
          rw [byteCount, total_nil, Nat.zero_add]
        | cons d' before =>
          obtain ⟨rfl, -⟩ := List.cons.inj hcut
          rw [total_cons] at hle
          omega
    next hd =>
      constructor
      · intro h
        obtain ⟨r', hr', rfl⟩ := Option.map_eq_some_iff.1 h
        obtain ⟨before, c, behind, rfl, hle, hlt, rfl⟩ := ih.1 hr'
        refine ⟨d :: before, c, behind, rfl, ?_, ?_, ?_⟩
        · rw [total_cons]
          omega
        · rw [total_cons]
          omega
        · simp only [ByteRange.shift, byteCount, total_cons, Nat.add_assoc]
      · rintro ⟨before, c, behind, hcut, hle, hlt, rfl⟩
        cases before with
        | nil =>
          obtain ⟨rfl, -⟩ := List.cons.inj hcut
          rw [total_nil] at hlt
          omega
        | cons d' before =>
          obtain ⟨rfl, hrest⟩ := List.cons.inj hcut
          rw [total_cons] at hle hlt
          refine Option.map_eq_some_iff.2 ⟨_, ih.2 ⟨before, c, behind, hrest, ?_, ?_, rfl⟩, ?_⟩
          · omega
          · omega
          · simp only [ByteRange.shift, byteCount, total_cons, Nat.add_assoc]

/-- Each unit of a text is held by a character, which has bytes of the text. -/
theorem exists_characterAt? (h : u < total Utf16.width source) :
    ∃ r, characterAt? u source = some r := by
  induction source generalizing u with
  | nil => exact absurd h (Nat.not_lt_zero u)
  | cons c rest ih =>
    rw [characterAt?]
    split
    · exact ⟨_, rfl⟩
    · rw [total_cons] at h
      obtain ⟨r, hr⟩ := ih (u := u - Utf16.width c) (by omega)
      rw [hr]
      exact ⟨_, rfl⟩

/-- The units of a text are those that lie in a character. -/
theorem exists_characterAt?_iff :
    (∃ r, characterAt? u source = some r) ↔ u < total Utf16.width source := by
  refine ⟨?_, exists_characterAt?⟩
  rintro ⟨r, h⟩
  obtain ⟨before, c, behind, rfl, -, hlt, -⟩ := characterAt?_eq_some_iff.1 h
  simp only [total_append, total_cons]
  omega

section

variable {r r' : ByteRange} (h : characterAt? u source = some r)

include h

theorem bounds_of_characterAt? : r.start < r.stop ∧ r.stop ≤ byteCount source := by
  obtain ⟨before, c, behind, rfl, -, -, rfl⟩ := characterAt?_eq_some_iff.1 h
  have hpos := c.utf8Size_pos
  simp only [byteCount, total_append, total_cons]
  omega

/-- If no character lies across a unit offset, the character that holds the unit begins there. -/
theorem start_of_characterAt? {b : Nat} (hb : offset? u source = some b) : r.start = b := by
  induction source generalizing u r b with
  | nil => cases h
  | cons c rest ih =>
    rw [characterAt?] at h
    split at h
    next hc =>
      obtain rfl := Option.some.inj h
      cases Nat.eq_zero_or_pos u with
      | inl hzero =>
        subst hzero
        exact Option.some.inj hb
      | inr hpos =>
        rw [offset?_cons_of_lt hpos hc] at hb
        cases hb
    next hc =>
      rw [offset?_cons (Nat.le_of_not_lt hc)] at hb
      obtain ⟨r', hr', rfl⟩ := Option.map_eq_some_iff.1 h
      obtain ⟨b', hb', rfl⟩ := Option.map_eq_some_iff.1 hb
      exact congrArg (c.utf8Size + ·) (ih hr' hb')

/-- If no character lies across the offset behind a unit, the character that holds the unit ends
there. -/
theorem stop_of_characterAt? {b : Nat} (hb : offset? (u + 1) source = some b) : r.stop = b := by
  induction source generalizing u r b with
  | nil => cases h
  | cons c rest ih =>
    rw [characterAt?] at h
    split at h
    next hc =>
      obtain rfl := Option.some.inj h
      by_cases hend : Utf16.width c ≤ u + 1
      · rw [offset?_cons hend, show u + 1 - Utf16.width c = 0 by omega, offset?_zero] at hb
        exact Option.some.inj hb
      · rw [offset?_cons_of_lt (Nat.succ_pos u) (Nat.lt_of_not_le hend)] at hb
        cases hb
    next hc =>
      have hle := Nat.le_of_not_lt hc
      rw [offset?_cons (Nat.le_succ_of_le hle), Nat.succ_sub hle] at hb
      obtain ⟨r', hr', rfl⟩ := Option.map_eq_some_iff.1 h
      obtain ⟨b', hb', rfl⟩ := Option.map_eq_some_iff.1 hb
      exact congrArg (c.utf8Size + ·) (ih hr' hb')

/-- Characters are in the order of their units. -/
theorem characterAt?_mono {v : Nat} (huv : u ≤ v) (h' : characterAt? v source = some r') :
    r.start ≤ r'.start ∧ r.stop ≤ r'.stop := by
  induction source generalizing u v r r' with
  | nil => cases h
  | cons c rest ih =>
    rw [characterAt?] at h h'
    by_cases hv : v < Utf16.width c
    · rw [if_pos hv] at h'
      rw [if_pos (Nat.lt_of_le_of_lt huv hv)] at h
      obtain rfl := Option.some.inj (h.symm.trans h')
      exact ⟨Nat.le_refl _, Nat.le_refl _⟩
    · rw [if_neg hv] at h'
      obtain ⟨s', hs', rfl⟩ := Option.map_eq_some_iff.1 h'
      split at h
      next hu =>
        obtain rfl := Option.some.inj h
        exact ⟨Nat.zero_le _, Nat.le_add_right _ _⟩
      next hu =>
        obtain ⟨s, hs, rfl⟩ := Option.map_eq_some_iff.1 h
        obtain ⟨hstart, hstop⟩ := ih hs (Nat.sub_le_sub_right huv _) hs'
        exact ⟨Nat.add_le_add_left hstart _, Nat.add_le_add_left hstop _⟩

end

/-! ## Byte ranges -/

/-- A text can be cut in two at a unit offset. -/
def Boundary (source : List Char) (u : Nat) : Prop :=
  ∃ before behind, source = before ++ behind ∧ total Utf16.width before = u

theorem boundary_iff : Boundary source u ↔ ∃ b, offset? u source = some b := by
  constructor
  · rintro ⟨before, behind, hcut, hunits⟩
    exact ⟨_, offset?_eq_some_iff.2 ⟨before, behind, hcut, hunits, rfl⟩⟩
  · rintro ⟨b, hb⟩
    obtain ⟨before, behind, hcut, hunits, -⟩ := offset?_eq_some_iff.1 hb
    exact ⟨before, behind, hcut, hunits⟩

theorem endAt_of_not_boundary (h : ¬ Boundary source u) : endAt source u = byteCount source := by
  have hnone : offset? u source = none :=
    Option.eq_none_iff_forall_ne_some.2 fun b hb => h (boundary_iff.2 ⟨b, hb⟩)
  rw [endAt, hnone]
  rfl

theorem endAt_le (source : List Char) (u : Nat) : endAt source u ≤ byteCount source := by
  unfold endAt
  cases h : offset? u source with
  | none => exact Nat.le_refl _
  | some b =>
    obtain ⟨before, behind, rfl, -, rfl⟩ := offset?_eq_some_iff.1 h
    rw [Option.getD_some, byteCount_append]
    exact Nat.le_add_right _ _

theorem endAt_start {r : ByteRange} (h : characterAt? u source = some r)
    (hu : Boundary source u) : endAt source u = r.start := by
  obtain ⟨b, hb⟩ := boundary_iff.1 hu
  rw [endAt, hb, start_of_characterAt? h hb]
  rfl

theorem endAt_stop {r : ByteRange} (h : characterAt? u source = some r)
    (hu : Boundary source (u + 1)) : endAt source (u + 1) = r.stop := by
  obtain ⟨b, hb⟩ := boundary_iff.1 hu
  rw [endAt, hb, stop_of_characterAt? h hb]
  rfl

theorem dropBytes_append (before behind : List Char) :
    dropBytes (byteCount before) (before ++ behind) = behind := by
  induction before with
  | nil =>
    cases behind with
    | nil => rfl
    | cons c rest => exact if_neg (Nat.not_le.2 c.utf8Size_pos)
  | cons c rest ih =>
    rw [List.cons_append, dropBytes, byteCount_cons, if_pos (Nat.le_add_right _ _),
      Nat.add_sub_cancel_left, ih]

theorem dropBytes_byteCount (source : List Char) : dropBytes (byteCount source) source = [] := by
  have hdrop := dropBytes_append source []
  rwa [List.append_nil] at hdrop

section

variable {first last : ByteRange} (h : span.start < span.stop)

include h

/-- A character across the start of a span makes its byte range the empty one at the end of the
text. -/
theorem byteRange_of_split_start (hstart : ¬ Boundary source span.start) :
    byteRange source span = ⟨byteCount source, byteCount source⟩ := by
  rw [byteRange_eq source (Nat.le_of_lt h), endAt_of_not_boundary hstart,
    if_neg (Nat.not_lt.2 (endAt_le source _)), dropBytes_byteCount]
  rfl

variable (hfirst : characterAt? span.start source = some first)

include hfirst

/-- A character across the end of a span makes its byte range go on to the end of the text. -/
theorem byteRange_of_split_stop (hstart : Boundary source span.start)
    (hstop : ¬ Boundary source span.stop) :
    byteRange source span = ⟨first.start, byteCount source⟩ := by
  obtain ⟨hlt, hle⟩ := bounds_of_characterAt? hfirst
  rw [byteRange_eq source (Nat.le_of_lt h), endAt_start hfirst hstart,
    endAt_of_not_boundary hstop, if_pos (Nat.lt_of_lt_of_le hlt hle)]

variable (hlast : characterAt? (span.stop - 1) source = some last)

include hlast

theorem start_lt_stop : first.start < last.stop :=
  Nat.lt_of_lt_of_le (bounds_of_characterAt? hfirst).1
    (characterAt?_mono hfirst (Nat.le_sub_one_of_lt h) hlast).2

/-- With no character across its ends, a span has the bytes from the character that holds its first
unit to the one that holds its last unit. -/
theorem byteRange_of_boundaries (hstart : Boundary source span.start)
    (hstop : Boundary source span.stop) : byteRange source span = ⟨first.start, last.stop⟩ := by
  have hsucc : span.stop - 1 + 1 = span.stop := Nat.sub_add_cancel (Nat.zero_lt_of_lt h)
  have hend : endAt source span.stop = last.stop := by
    have hlastEnd := endAt_stop hlast
    rw [hsucc] at hlastEnd
    exact hlastEnd hstop
  rw [byteRange_eq source (Nat.le_of_lt h), endAt_start hfirst hstart, hend,
    if_pos (start_lt_stop h hfirst hlast)]

end

/-- Of a span that is neither empty nor reversed nor past the end of the text, the byte range should
go from the character that holds its first unit to the one that holds its last unit, and it does so
exactly if no character lies across its start, and none across its end either, unless that is the
last one of the text. Otherwise a character across the end makes it go on to the end of the text,
and a character across the start makes it the empty range there. -/
theorem byteRange_of_units (source : List Char) {span : Span} (h : span.start < span.stop)
    (hunits : span.stop ≤ total Utf16.width source) :
    let range := byteRange source span
    ∃ first last, characterAt? span.start source = some first ∧
      characterAt? (span.stop - 1) source = some last ∧ first.start < last.stop ∧
      (range = ⟨first.start, last.stop⟩ ↔ Boundary source span.start ∧
        (Boundary source span.stop ∨ last.stop = byteCount source)) ∧
      (Boundary source span.start → ¬ Boundary source span.stop →
        range = ⟨first.start, byteCount source⟩) ∧
      (¬ Boundary source span.start → range = ⟨byteCount source, byteCount source⟩) ∧
      (Boundary source span.start → ∀ u r, span.start ≤ u → u < span.stop →
        characterAt? u source = some r → range.start ≤ r.start ∧ r.stop ≤ range.stop) := by
  intro range
  obtain ⟨first, hfirst⟩ := exists_characterAt? (Nat.lt_of_lt_of_le h hunits)
  have hunit : span.stop - 1 < total Utf16.width source := by omega
  obtain ⟨last, hlast⟩ := exists_characterAt? hunit
  have hlt : first.start < last.stop := start_lt_stop h hfirst hlast
  have hle : last.stop ≤ byteCount source := (bounds_of_characterAt? hlast).2
  have hover : Boundary source span.start → ¬ Boundary source span.stop →
      range = ⟨first.start, byteCount source⟩ := byteRange_of_split_stop h hfirst
  have hempty : ¬ Boundary source span.start → range = ⟨byteCount source, byteCount source⟩ :=
    byteRange_of_split_start h
  refine ⟨first, last, hfirst, hlast, hlt, ⟨fun heq => ?_, ?_⟩, hover, hempty, ?_⟩
  · have hstart : Boundary source span.start := by
      refine Classical.byContradiction fun hsplit => ?_
      have hbyte : byteCount source = first.start :=
        congrArg ByteRange.start ((hempty hsplit).symm.trans heq)
      omega
    by_cases hstop : Boundary source span.stop
    · exact ⟨hstart, .inl hstop⟩
    · exact ⟨hstart, .inr (congrArg ByteRange.stop (heq.symm.trans (hover hstart hstop)))⟩
  · rintro ⟨hstart, hend⟩
    by_cases hstop : Boundary source span.stop
    · exact byteRange_of_boundaries h hfirst hlast hstart hstop
    · rw [hend.resolve_left hstop]
      exact hover hstart hstop
  · intro hstart u r hu hlt hr
    have hbefore := (characterAt?_mono hfirst hu hr).1
    have hbehind := (characterAt?_mono hr (Nat.le_sub_one_of_lt hlt) hlast).2
    by_cases hstop : Boundary source span.stop
    · have hrange : range = ⟨first.start, last.stop⟩ :=
        byteRange_of_boundaries h hfirst hlast hstart hstop
      rw [hrange]
      exact ⟨hbefore, hbehind⟩
    · rw [hover hstart hstop]
      exact ⟨hbefore, Nat.le_trans hbehind hle⟩

/-- The span of the last two units of a character and the one before it. -/
theorem byteRange_of_units_pair :
    let source := "a😀b".toList
    let span : Span := ⟨0, 3⟩
    span.start < span.stop ∧ span.stop ≤ total Utf16.width source ∧
      byteRange source span = ⟨0, 5⟩ ∧ (byteRange source ⟨0, 3⟩ = ⟨0, 5⟩ ↔
        Boundary source 0 ∧ (Boundary source 3 ∨ 5 = byteCount source)) := by
  intro source span
  have hunits : span.stop ≤ total Utf16.width source := by decide
  have hspan : span.start < span.stop := by decide
  obtain ⟨first, last, hfirst, hlast, -, hiff, -⟩ := byteRange_of_units source hspan hunits
  obtain rfl : ⟨0, 1⟩ = first := Option.some.inj hfirst
  obtain rfl : ⟨1, 5⟩ = last := Option.some.inj hlast
  exact ⟨hspan, hunits, by decide, hiff⟩

/-- A character across an end: the first span covers nothing, and the second one covers too much. -/
theorem byteRange_beside_pair :
    let source := "a😀b".toList
    characterAt? 0 source = some ⟨0, 1⟩ ∧ characterAt? 1 source = some ⟨1, 5⟩ ∧
      characterAt? 2 source = some ⟨1, 5⟩ ∧ characterAt? 3 source = some ⟨5, 6⟩ ∧
      byteRange source ⟨2, 4⟩ = ⟨6, 6⟩ ∧ byteRange source ⟨0, 2⟩ = ⟨0, 6⟩ := by
  decide

end Opscript.Diagnostic
