import Opscript.CommandLine.Program
import Opscript.Proofs.Trace.Lines

/-!
# Colours never change a text

Values, traces, listings and calls are printed with colours or without, and once the colour
sequences are deleted the two are the same (`uncolored_prints`). Nothing that is printed brings an
ESC of its own: in values, glyphs and numbers it is spelled out, and labels and names are free of it
by assumption.
-/

namespace Opscript

open Text (IsTame)

theorem Painted.notEsc {s t : String} (h : Painted IsTame s t) : Painted NotEsc s t := by
  refine h.mono fun c hc hesc => ?_
  subst hesc
  exact absurd hc (by decide)

theorem painted_of_tame {s : String} (h : Text.Tame s) : Painted NotEsc s s :=
  (Painted.text h).notEsc

/-! ## Traces -/

theorem Trace.painted_lines (v : Verbosity) (events : List Event) :
    List.Forall₂ (Painted IsTame) (lines .colored v events) (lines .plain v events) := by
  induction events with
  | nil => exact .nil
  | cons e rest ih =>
    have hline := painted_line? v e
    unfold lines
    rw [List.filterMap_cons, List.filterMap_cons]
    generalize line? .colored v e = colored, line? .plain v e = plain at hline ⊢
    cases hline with
    | none => exact ih
    | some hpainted => exact .cons hpainted ih

theorem Trace.painted_render (v : Verbosity) (events : List Event) :
    Painted NotEsc (render .colored v events) (render .plain v events) := by
  have hrender : ∀ p, render p v events =
      String.join ((lines p v events).map fun l => l ++ "\n") := fun p =>
    join_eq (forall_mem_lines fun _ _ => line_ne_empty)
  rw [hrender, hrender]
  apply Painted.join
  rw [List.forall₂_map_left_iff, List.forall₂_map_right_iff]
  exact (painted_lines v events).imp fun s t hline => hline.notEsc.append (.of_free (by decide))

/-! ## Listings -/

namespace Listing

variable {labels : Labels}

theorem mem_keys_of_labelOf? {label : String} {c : Code} (h : labels.labelOf? c = some label) :
    label ∈ labels.keys := by
  obtain ⟨e, he, rfl⟩ := Option.map_eq_some_iff.1 h
  exact List.mem_map_of_mem (List.mem_of_find?_eq_some he)

theorem painted_named (h : ∀ label ∈ labels.keys, '\x1b' ∉ label.toList) (c : Code) :
    Painted NotEsc (named labels c) (named labels c) := by
  have hglyph := painted_of_tame (Text.tame_glyph c)
  unfold named
  cases hlabel : labels.labelOf? c with
  | none => exact hglyph
  | some label =>
    have hfree := Painted.of_free (h label (mem_keys_of_labelOf? hlabel))
    exact ((hglyph.append (painted_of_tame (by decide))).append hfree).append
      (painted_of_tame (by decide))

theorem painted_line (h : ∀ label ∈ labels.keys, '\x1b' ∉ label.toList) (width : Nat)
    (r : Record) : Painted NotEsc (line labels .colored width r) (line labels .plain width r) := by
  have hid : Text.Tame ("#" ++ padRight width r.id.text) :=
    Text.Tame.append (by decide) (Text.tame_padRight width (Text.tame_nat r.id.val))
  have hargument : ∀ c, Painted NotEsc (argument labels .colored c) (argument labels .plain c) :=
    fun c => (painted_of_tame (by decide)).append (painted_named h c).green
  have harguments : Painted NotEsc (String.join (r.arguments.map (argument labels .colored)))
      (String.join (r.arguments.map (argument labels .plain))) :=
    .join (Painted.map fun c _ => hargument c)
  have hblank : Painted NotEsc " " " " := painted_of_tame (by decide)
  have hbreak : Painted NotEsc "\n" "\n" := .of_free (by decide)
  exact ((((painted_of_tame hid).dim.append hblank).append (painted_named h _).blue).append
    harguments).append hbreak

theorem painted_render (h : ∀ label ∈ labels.keys, '\x1b' ∉ label.toList)
    (records : List Record) :
    Painted NotEsc (render records labels .colored) (render records labels .plain) := by
  have hlines : Painted NotEsc
      (String.join (records.map (line labels .colored (idWidth records))))
      (String.join (records.map (line labels .plain (idWidth records)))) :=
    .join (Painted.map fun r _ => painted_line h _ r)
  have hlength := painted_of_tame (Text.tame_nat (total Record.size records))
  exact (((Painted.of_free (by decide)).append hlength).append (.of_free (by decide))).append hlines

end Listing

/-! ## Calls -/

theorem CommandLine.painted_callText {name : String} (h : '\x1b' ∉ name.toList)
    (xs : List (Option Value)) :
    Painted NotEsc (callText .colored name xs) (callText .plain name xs) := by
  have hvalues : Painted NotEsc
      (String.intercalate ", " (xs.map (Value.formatArgument .colored)))
      (String.intercalate ", " (xs.map (Value.formatArgument .plain))) :=
    .intercalate (painted_of_tame (by decide))
      (Painted.map fun x _ => (Value.painted_formatArgument x).notEsc)
  exact (((Painted.of_free h).blue.append (painted_of_tame (by decide))).append hvalues).append
    (painted_of_tame (by decide))

/-- Without its colour sequences, what is printed in colours is what is printed without: every
value, the trace of every list of events, every listing whose labels hold no ESC, and every call of
an operation whose name holds none. -/
theorem uncolored_prints :
    (∀ v : Value, uncolored (v.format .colored) = v.format .plain) ∧
    (∀ (v : Verbosity) (events : List Event),
      uncolored (Trace.render .colored v events) = Trace.render .plain v events) ∧
    (∀ (records : List Record) (labels : Labels),
      (∀ label ∈ labels.keys, '\x1b' ∉ label.toList) →
      uncolored (Listing.render records labels .colored) =
        Listing.render records labels .plain) ∧
    ∀ (name : String) (xs : List (Option Value)), '\x1b' ∉ name.toList →
      uncolored (CommandLine.callText .colored name xs) = CommandLine.callText .plain name xs :=
  ⟨fun v => (Value.painted_format v).notEsc.uncolored,
    fun v events => (Trace.painted_render v events).uncolored,
    fun records _ h => (Listing.painted_render h records).uncolored,
    fun _ xs h => (CommandLine.painted_callText h xs).uncolored⟩

/-- An ESC is an operation, an argument code, a key and a part of a string; the label and the name
look like the rest of a colour sequence. -/
theorem uncolored_prints_escapes :
    let v : Value := .object [("\x1b[0m", .array [.string "\x1b", .null])]
    let labels : Labels := Ordered.empty.insert "[2m" 27
    let records : List Record := [⟨.first, 27, [27, 109]⟩]
    (∀ label ∈ labels.keys, '\x1b' ∉ label.toList) ∧ '\x1b' ∉ "[34m".toList ∧
      uncolored (v.format .colored) = "\x7b\"\\u001b[0m\":[\"\\u001b\",null]\x7d" ∧
      uncolored (Trace.render .colored .verbose [.invoke 0 27 [27] [some v]]) =
        "  0 U+001B(U+001B=\x7b\"\\u001b[0m\":[\"\\u001b\",null]\x7d)\n" ∧
      uncolored (Listing.render records labels .colored) =
        "[sequence]\nlength = 3\n\n[records]\n#1 U+001B([2m) U+001B([2m) m\n" ∧
      uncolored (CommandLine.callText .colored "[34m" [none]) = "[34m(-)" := by
  intro v labels records
  have hlabels : ∀ label ∈ labels.keys, '\x1b' ∉ label.toList := by decide
  have hname : '\x1b' ∉ "[34m".toList := by decide
  obtain ⟨hvalue, htrace, hlisting, hcall⟩ := uncolored_prints
  refine ⟨hlabels, hname, ?_, ?_, ?_, ?_⟩
  · rw [hvalue]
    decide +kernel
  · rw [htrace]
    decide +kernel
  · rw [hlisting records labels hlabels]
    decide +kernel
  · rw [hcall _ _ hname]
    decide +kernel

end Opscript
