import Opscript.Proofs.Diagnostic.Bytes
import Opscript.Proofs.Text.Lossy

/-!
# Surrogates and their partners

A high surrogate and a low one right behind it are a pair (`startsPair`); a surrogate at neither
place of a pair has no partner (`isUnpaired`). No unit is both high and low, so pairs never overlap,
and a position can be judged by its neighbours alone. Reading goes from left to right and takes two
units or one. `Decodes` says of what it comes to that it is right about each position; decoding
fails at the first unit without its partner and at nothing else, and a lossy text differs from its
sequence at just these units.
-/

namespace Opscript.Utf16

/-- There is a high surrogate at `i`, and a low one right behind it. -/
def startsPair (u : List Code) (i : Nat) : Bool := u[i]?.any Code.isHigh && u[i + 1]?.any Code.isLow

/-- The unit at `i` is the second one of a pair. -/
def endsPair (u : List Code) : Nat → Bool
  | 0 => false
  | i + 1 => startsPair u i

/-- There is a surrogate at `i`, and its partner is not next to it. -/
def isUnpaired (u : List Code) (i : Nat) : Bool :=
  u[i]?.any Code.isSurrogate && !startsPair u i && !endsPair u i

/-- The first surrogate without its partner is `c`, at `i`. -/
structure FirstUnpaired (u : List Code) (i : Nat) (c : Code) : Prop where
  unpaired : isUnpaired u i = true
  first : ∀ j, j < i → isUnpaired u j = false
  unit : u[i]? = some c

variable {u rest : List Code} {c d : Code} {i k : Nat}

/-! ## Positions behind the first unit -/

theorem startsPair_cons_succ : startsPair (c :: u) (i + 1) = startsPair u i := rfl

theorem startsPair_zero : startsPair (c :: d :: rest) 0 = (c.isHigh && d.isLow) := rfl

theorem startsPair_single (c : Code) : startsPair [c] 0 = false := by
  simp [startsPair]

theorem isUnpaired_zero (h : startsPair (c :: u) 0 = false) :
    isUnpaired (c :: u) 0 = c.isSurrogate := by
  simp [isUnpaired, endsPair, h]

/-- A unit that starts no pair has no influence on those behind it. -/
theorem isUnpaired_succ (h : startsPair (c :: u) 0 = false) :
    isUnpaired (c :: u) (i + 1) = isUnpaired u i := by
  cases i with
  | zero => simp [isUnpaired, endsPair, startsPair_cons_succ, h]
  | succ i => simp [isUnpaired, endsPair, startsPair_cons_succ]

theorem startsPair_of_isLow (h : d.isLow = true) : startsPair (d :: rest) 0 = false := by
  simp [startsPair, Code.not_isHigh_of_isLow h]

theorem isUnpaired_pair_zero (h : (c.isHigh && d.isLow) = true) :
    isUnpaired (c :: d :: rest) 0 = false := by
  simp [isUnpaired, startsPair_zero, h]

theorem isUnpaired_pair_one (h : (c.isHigh && d.isLow) = true) :
    isUnpaired (c :: d :: rest) 1 = false := by
  simp [isUnpaired, endsPair, startsPair_zero, h]

theorem isUnpaired_pair (h : (c.isHigh && d.isLow) = true) :
    isUnpaired (c :: d :: rest) (i + 2) = isUnpaired rest i := by
  have hd : startsPair (d :: rest) 0 = false :=
    startsPair_of_isLow (Bool.and_eq_true_iff.1 h).2
  rw [← isUnpaired_succ hd]
  simp [isUnpaired, endsPair, startsPair_cons_succ]

/-! ## Decoding -/

/-- What becomes of the units `u`, the first of which has position `k`: the characters that they
are the units of, or the first unit without its partner. -/
def Decodes (u : List Code) (k : Nat) : Except LoneSurrogate (List Char) → Prop
  | .ok cs => cs.flatMap ofChar = u ∧ ∀ i, isUnpaired u i = false
  | .error e => ∃ i, e.index = k + i ∧ FirstUnpaired u i e.unit

/-- One more character in front, whose units have no influence on those behind them. -/
theorem Decodes.behind {x : Char} {r : Except LoneSurrogate (List Char)}
    (hfront : ∀ i, i < width x → isUnpaired (ofChar x ++ u) i = false)
    (hbehind : ∀ i, isUnpaired (ofChar x ++ u) (width x + i) = isUnpaired u i)
    (h : Decodes u (k + width x) r) : Decodes (ofChar x ++ u) k (r.map (x :: ·)) := by
  cases r with
  | ok cs =>
    obtain ⟨hunits, hnone⟩ := h
    refine ⟨by simp [hunits], fun i => ?_⟩
    rcases Nat.lt_or_ge i (width x) with hi | hi
    · exact hfront i hi
    · obtain ⟨j, rfl⟩ := Nat.exists_eq_add_of_le hi
      rw [hbehind, hnone]
  | error e =>
    obtain ⟨i, hindex, hunpaired, hfirst, hunit⟩ := h
    refine ⟨width x + i, by omega, ⟨by rw [hbehind, hunpaired], fun j hj => ?_, ?_⟩⟩
    · rcases Nat.lt_or_ge j (width x) with hlt | hge
      · exact hfront j hlt
      · obtain ⟨l, rfl⟩ := Nat.exists_eq_add_of_le hge
        rw [hbehind, hfirst l (by omega)]
    · rw [← length_ofChar, List.getElem?_append_right (by omega), Nat.add_sub_cancel_left]
      exact hunit

/-- A unit that starts no pair is a character, or a surrogate without its partner. -/
theorem decodes_single (hc : startsPair (c :: u) 0 = false)
    (h : ∀ k, Decodes u k (strict k (read u))) :
    Decodes (c :: u) k (strict k (single c :: read u)) := by
  cases hs : c.isSurrogate with
  | true =>
    have hlone : isUnpaired (c :: u) 0 = true := (isUnpaired_zero hc).trans hs
    simp only [single, hs, if_true, strict]
    exact ⟨0, rfl, hlone, fun j hj => absurd hj (Nat.not_lt_zero j), rfl⟩
  | false =>
    have hunits : ofChar (Char.ofNat c.toNat) = [c] := by
      have hshown := ofChar_shown_single c
      simpa [single, shownUnit, hs, Item.shown] using hshown
    have hwidth : width (Char.ofNat c.toNat) = 1 := by rw [← length_ofChar, hunits]; rfl
    simp only [single, hs, Bool.false_eq_true, if_false, strict]
    have hbehind := Decodes.behind (x := Char.ofNat c.toNat) (u := u) (k := k) ?_ ?_ (h _)
    · rwa [hunits] at hbehind
    · intro i hi
      obtain rfl : i = 0 := by omega
      rw [hunits]
      exact (isUnpaired_zero hc).trans hs
    · intro i
      rw [hunits, hwidth, Nat.add_comm]
      exact isUnpaired_succ hc

theorem decodes_pair (hcd : (c.isHigh && d.isLow) = true)
    (h : ∀ k, Decodes rest k (strict k (read rest))) :
    Decodes (c :: d :: rest) k (strict k (.char (pair c d) :: read rest)) := by
  obtain ⟨hc, hd⟩ := Bool.and_eq_true_iff.1 hcd
  have hunits : ofChar (pair c d) = [c, d] := ofChar_pair hc hd
  have hwidth : width (pair c d) = 2 := by rw [← length_ofChar, hunits]; rfl
  have hbehind := Decodes.behind (x := pair c d) (u := rest) (k := k) ?_ ?_ (h _)
  · rwa [hunits] at hbehind
  · intro i hi
    rw [hunits]
    rcases (by omega : i = 0 ∨ i = 1) with rfl | rfl
    · exact isUnpaired_pair_zero hcd
    · exact isUnpaired_pair_one hcd
  · intro i
    rw [hunits, hwidth, Nat.add_comm]
    exact isUnpaired_pair hcd

theorem decodes_read (u : List Code) (k : Nat) : Decodes u k (strict k (read u)) := by
  fun_induction read u generalizing k with
  | case1 => exact ⟨rfl, fun i => by simp [isUnpaired]⟩
  | case2 c =>
    refine decodes_single (startsPair_single c) fun k => ?_
    exact ⟨rfl, fun i => by simp [isUnpaired]⟩
  | case3 c d rest h ih => exact decodes_pair h ih
  | case4 c d rest h ih => exact decodes_single (Bool.eq_false_iff.2 h) ih

/-- There is one first surrogate without its partner at most. -/
theorem FirstUnpaired.unique {j : Nat} (h : FirstUnpaired u i c) (h' : FirstUnpaired u j d) :
    i = j ∧ c = d := by
  obtain rfl : i = j := by
    rcases Nat.lt_trichotomy i j with hij | hij | hij
    · exact absurd (h'.first i hij) (by simp [h.unpaired])
    · exact hij
    · exact absurd (h.first j hij) (by simp [h'.unpaired])
  exact ⟨rfl, Option.some.inj (h.unit.symm.trans h'.unit)⟩

/-- Decoding comes to a text or to the first surrogate without its partner. -/
theorem decode_cases (u : List Code) :
    (∃ s, decode u = .ok s ∧ encode s = u ∧ ∀ i, isUnpaired u i = false) ∨
      ∃ e, decode u = .error e ∧ FirstUnpaired u e.index e.unit := by
  have h := decodes_read u 0
  unfold decode
  cases hr : strict 0 (read u) with
  | ok cs =>
    rw [hr] at h
    refine .inl ⟨String.ofList cs, rfl, ?_, h.2⟩
    rw [encode, String.toList_ofList, h.1]
  | error e =>
    rw [hr] at h
    obtain ⟨i, hindex, hfirst⟩ := h
    refine .inr ⟨e, rfl, ?_⟩
    rwa [hindex, Nat.zero_add]

theorem decode_eq_ok_iff {s : String} : decode u = .ok s ↔ encode s = u := by
  constructor
  · intro h
    rcases decode_cases u with ⟨t, ht, hunits, -⟩ | ⟨e, he, -⟩
    · rw [h] at ht
      cases ht
      exact hunits
    · simp [h] at he
  · rintro rfl
    exact decode_encode s

theorem exists_decode_iff : (∃ s, decode u = .ok s) ↔ ∀ i, isUnpaired u i = false := by
  rcases decode_cases u with ⟨s, hs, -, hnone⟩ | ⟨e, he, hfirst⟩
  · exact iff_of_true ⟨s, hs⟩ hnone
  · refine iff_of_false (by simp [he]) fun hnone => ?_
    have hunpaired := hfirst.unpaired
    rw [hnone] at hunpaired
    cases hunpaired

theorem decode_eq_error_iff {e : LoneSurrogate} :
    decode u = .error e ↔ FirstUnpaired u e.index e.unit := by
  rcases decode_cases u with ⟨s, hs, -, hnone⟩ | ⟨e', he', hfirst⟩
  · refine iff_of_false (by simp [hs]) fun h => ?_
    have hunpaired := h.unpaired
    rw [hnone] at hunpaired
    cases hunpaired
  · rw [he', Except.error.injEq]
    constructor
    · rintro rfl
      exact hfirst
    · intro h
      obtain ⟨hindex, hunit⟩ := hfirst.unique h
      cases e
      cases e'
      simp_all

/-! ## The lossy text -/

/-- The units of the lossy text are those of `u`, with U+FFFD for those without their partner. -/
def Scrubbed (u v : List Code) : Prop :=
  ∀ i, v[i]? = u[i]?.map fun c => if isUnpaired u i then replacement else c

theorem Scrubbed.cons {v : List Code} (hc : startsPair (c :: u) 0 = false) (h : Scrubbed u v) :
    Scrubbed (c :: u) (shownUnit c :: v) := by
  intro i
  cases i with
  | zero => simp [isUnpaired_zero hc, shownUnit]
  | succ i => simp [isUnpaired_succ hc, h i]

theorem Scrubbed.pair {v : List Code} (hcd : (c.isHigh && d.isLow) = true) (h : Scrubbed rest v) :
    Scrubbed (c :: d :: rest) (c :: d :: v) := by
  intro i
  match i with
  | 0 => simp [isUnpaired_pair_zero hcd]
  | 1 => simp [isUnpaired_pair_one hcd]
  | i + 2 => simp [isUnpaired_pair hcd, h i]

theorem scrubbed_scrub (u : List Code) : Scrubbed u (scrub u) := by
  fun_induction scrub u with
  | case1 => exact fun i => rfl
  | case2 c => exact .cons (startsPair_single c) fun i => rfl
  | case3 c d rest h ih => exact ih.pair h
  | case4 c d rest h ih => exact ih.cons (Bool.eq_false_iff.2 h)

/-- A unit that is shown as it is has its partner or needs none. -/
theorem scrub_eq_self_iff : scrub u = u ↔ ∀ i, isUnpaired u i = false := by
  constructor
  · intro h i
    cases hi : isUnpaired u i with
    | false => rfl
    | true =>
      have hunit := scrubbed_scrub u i
      rw [h, hi] at hunit
      simp only [isUnpaired, Bool.and_eq_true] at hi
      cases hc : u[i]? with
      | none => simp [hc] at hi
      | some c =>
        simp only [hc, Option.map_some, if_true, Option.some.injEq] at hunit
        simp only [hc, hunit, Option.any_some] at hi
        exact absurd hi.1.1 (by decide)
  · intro h
    refine List.ext_getElem? fun i => ?_
    rw [scrubbed_scrub u i, h]
    simp

end Opscript.Utf16

namespace Opscript.Sequence

open Utf16

/-- A text comes back from its units. Units have a text exactly if every surrogate among them has
its partner, and then they are the units of that text; otherwise they fail at the first surrogate
that has none, and the fault tells its position, counted in units, and the surrogate. -/
theorem text?_exact :
    (∀ s, (ofString s).text? = .ok s) ∧
      ∀ u : Sequence,
        ((∃ s, u.text? = .ok s) ↔ ∀ i, isUnpaired u i = false) ∧
        (∀ s, u.text? = .ok s ↔ ofString s = u) ∧
        ∀ e, u.text? = .error e ↔ FirstUnpaired u e.index e.unit :=
  ⟨decode_encode, fun _ => ⟨exists_decode_iff, fun _ => decode_eq_ok_iff,
    fun _ => decode_eq_error_iff⟩⟩

/-- Of two high surrogates in a row the first one has no partner; positions behind a pair count
both of its units. -/
example : text? [0xD83D, 0xDE00, 0x61, 0xD83D, 0xD83D, 0xDE00] = .error ⟨3, 0xD83D⟩ ∧
    text? [0xDE00, 0xD83D] = .error ⟨0, 0xDE00⟩ :=
  ⟨rfl, rfl⟩

/-- A lossy text has the units of its sequence, each in its position, apart from U+FFFD for every
surrogate without its partner. So a span lies within the sequence if it lies within the text, and
just the units of the sequence lie in a character of the text. All units are the same exactly if
the sequence has a text that is not lossy. -/
theorem text_keeps_positions (u : Sequence) :
    let units := ofString u.text
    units.length = u.length ∧
      (∀ i, units[i]? = u[i]?.map fun c => if isUnpaired u i then 0xFFFD else c) ∧
      (∀ span : Span, span.stop ≤ Utf16.length u.text ↔ span.stop ≤ u.length) ∧
      (∀ i, (∃ r, Diagnostic.characterAt? i u.text.toList = some r) ↔ i < u.length) ∧
      (units = u ↔ ∃ s, u.text? = .ok s) := by
  have hscrub : ofString u.text = scrub u := encode_lossy u
  have hlength : Utf16.length u.text = u.length := by
    rw [← Utf16.length_encode]
    exact length_encode_lossy u
  refine ⟨length_encode_lossy u, fun i => ?_, fun span => by rw [hlength], fun i => ?_, ?_⟩
  · rw [hscrub]
    exact scrubbed_scrub u i
  · rw [Diagnostic.exists_characterAt?_iff, ← hlength]
    rfl
  · show ofString u.text = u ↔ ∃ s, decode u = .ok s
    rw [hscrub, scrub_eq_self_iff, exists_decode_iff]

/-- A unit 0xFFFD of the sequence is not one that was replaced. -/
example : ofString (text [0xFFFD, 0xD83D, 0xDE00, 0xD83D]) = [0xFFFD, 0xD83D, 0xDE00, 0xFFFD] ∧
    isUnpaired [0xFFFD, 0xD83D, 0xDE00, 0xD83D] 0 = false := by
  decide

end Opscript.Sequence
