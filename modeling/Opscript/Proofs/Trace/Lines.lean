import Opscript.Proofs.Execution.Observed
import Opscript.Proofs.Text.Separated
import Opscript.Proofs.Value.Painted

/-!
# Lines of a trace

An event has at most one line, and only the leading codes of a sequence have none in a brief trace
(`line?_eq_none_iff`). No line is empty and none holds a line break, whatever codes and values the
event brings, since the line is made of tame texts and colours (`painted_line?`). So a printed trace
is cut at its line breaks into just the lines that the printing observer kept (`printed_lines`).
-/

namespace Opscript

/-- The event is about an operation and not about leading codes. -/
def Event.isStep : Event → Bool
  | .unowned _ => false
  | _ => true

namespace Trace

open Text (IsTame)

/-! ## One line -/

theorem painted_arguments (v : Verbosity) (codes : List Code) (xs : List (Option Value)) :
    Painted IsTame (arguments .colored v codes xs) (arguments .plain v codes xs) := by
  have hargument : ∀ c x, Painted IsTame (argument .colored v c x) (argument .plain v c x) := by
    intro c x
    have hvalue := Value.painted_formatArgument x
    cases v with
    | brief => exact hvalue
    | verbose => exact .append (.dim (.text ((Text.tame_glyph c).append (by decide)))) hvalue
  apply Painted.intercalate (.text (by decide : Text.Tame ", "))
  induction codes generalizing xs with
  | nil => exact .nil
  | cons c codes ih =>
    cases xs with
    | nil => exact .nil
    | cons x xs => exact .cons (hargument c x) (ih xs)

/-- The coloured line of an event is its plain line with colours. -/
theorem painted_line? (v : Verbosity) (e : Event) :
    Option.Rel (Painted IsTame) (line? .colored v e) (line? .plain v e) := by
  have hindex : ∀ n : Nat, Text.Tame (Listing.padLeft 3 (toString n)) := fun n =>
    Text.tame_padLeft 3 (Text.tame_nat n)
  cases e with
  | invoke index operation codes xs =>
    have hnumber : Painted IsTame _ _ := .dim (.text (hindex index))
    have hglyph : Painted IsTame _ _ := .blue (.text (Text.tame_glyph operation))
    have hblank : Painted IsTame " " " " := .text (by decide : Text.Tame " ")
    have hopen : Painted IsTame "(" "(" := .text (by decide : Text.Tame "(")
    have hclose : Painted IsTame ")" ")" := .text (by decide : Text.Tame ")")
    have harguments := painted_arguments v codes xs
    exact .some (((((hnumber.append hblank).append hglyph).append hopen).append
      harguments).append hclose)
  | skip index operation =>
    have htext := (((hindex index).append (by decide : Text.Tame " ")).append
      (Text.tame_glyph operation)).append (by decide : Text.Tame " skipped: no callback")
    exact .some (.dim (.text htext))
  | unowned positions =>
    cases v with
    | brief => exact .none
    | verbose =>
      have htext :=
        ((by decide : Text.Tame "  - dropped ").append (Text.tame_span positions)).append
          (by decide : Text.Tame " before first operation")
      exact .some (.dim (.text htext))

/-- No line holds a line break, in colours or without. -/
theorem break_not_mem_line {p : Palette} {v : Verbosity} {e : Event} {l : String}
    (h : line? p v e = some l) : '\n' ∉ l.toList := by
  have hpainted := painted_line? v e
  intro hbreak
  cases p with
  | plain =>
    rw [h] at hpainted
    generalize line? .colored v e = other at hpainted
    cases hpainted with
    | some hpainted => exact absurd (hpainted.plain _ hbreak) (by decide)
  | colored =>
    rw [h] at hpainted
    generalize line? .plain v e = other at hpainted
    cases hpainted with
    | some hpainted => exact absurd (hpainted.colored _ hbreak) (by decide)

theorem dim_ne_empty {p : Palette} {s : String} (h : s ≠ "") : p.dim s ≠ "" := by
  cases p with
  | plain => exact h
  | colored => simp [Palette.dim, Palette.paint, String.append_eq_empty_iff, h]

theorem line_ne_empty {p : Palette} {v : Verbosity} {e : Event} {l : String}
    (h : line? p v e = some l) : l ≠ "" := by
  have hbehind : ∀ {s t : String}, t ≠ "" → s ++ t ≠ "" := fun ht hs =>
    ht (String.append_eq_empty_iff.1 hs).2
  cases e with
  | invoke =>
    obtain rfl := Option.some.inj h
    exact hbehind (by decide)
  | skip =>
    obtain rfl := Option.some.inj h
    exact dim_ne_empty (hbehind (by decide))
  | unowned =>
    cases v with
    | brief => cases h
    | verbose =>
      obtain rfl := Option.some.inj h
      exact dim_ne_empty (hbehind (by decide))

/-! ## All lines -/

theorem forall_mem_lines {p : Palette} {v : Verbosity} {events : List Event} {P : String → Prop}
    (h : ∀ e l, line? p v e = some l → P l) : ∀ l ∈ lines p v events, P l := by
  intro l hl
  obtain ⟨e, -, he⟩ := List.mem_filterMap.1 hl
  exact h e l he

/-- Each event that has a line has its line, in order. -/
theorem forall₂_lines {p : Palette} {v : Verbosity} (shown : Event → Bool)
    (h : ∀ e, (line? p v e).isSome = shown e) (events : List Event) :
    List.Forall₂ (fun e l => line? p v e = some l) (events.filter shown) (lines p v events) := by
  induction events with
  | nil => exact .nil
  | cons e rest ih =>
    unfold lines
    rw [List.filter_cons, List.filterMap_cons, ← h e]
    cases hline : line? p v e with
    | none => exact ih
    | some l => exact .cons hline ih

/-- Lines that are not empty have a line break behind each. -/
theorem join_eq {lines : List String} (h : ∀ l ∈ lines, l ≠ "") :
    join lines = String.join (lines.map fun l => l ++ "\n") := by
  cases lines with
  | nil => rfl
  | cons l rest =>
    have hne : String.intercalate "\n" (l :: rest) ≠ "" := by
      rw [Text.intercalate_cons]
      exact fun hempty => h l List.mem_cons_self (String.append_eq_empty_iff.1 hempty).1
    unfold join
    dsimp only
    rw [if_neg (mt String.isEmpty_iff.1 hne), Text.join_terminated,
      String.intercalate_append_of_ne_nil (List.cons_ne_nil l rest) (List.cons_ne_nil "" []),
      String.intercalate_singleton, String.append_empty]

/-- Told of events, the printing observer keeps their lines. A verbose trace has one line for each
event, in order, and a brief one has one for each event about an operation and none for leading
codes. No line holds a line break, and a printed trace, cut at its line breaks, gives just these
lines and then, behind the last break, the empty text. -/
theorem printed_lines (p : Palette) (events : List Event) :
    (∀ v, events.foldl (Observer.printing p v).tell [] = lines p v events) ∧
    List.Forall₂ (fun e l => line? p .verbose e = some l) events (lines p .verbose events) ∧
    List.Forall₂ (fun e l => line? p .brief e = some l) (events.filter Event.isStep)
      (lines p .brief events) ∧
    (∀ v, ∀ l ∈ lines p v events, '\n' ∉ l.toList) ∧
    ∀ v, Text.pieces '\n' (render p v events) = lines p v events ++ [""] := by
  have hbreaks : ∀ v, ∀ l ∈ lines p v events, '\n' ∉ l.toList := fun v =>
    forall_mem_lines fun _ _ => break_not_mem_line
  refine ⟨fun v => Observer.foldl_printing p v [] events, ?_, ?_, hbreaks, fun v => ?_⟩
  · have hall := forall₂_lines (p := p) (v := .verbose) (fun _ => true)
      (fun e => by cases e <;> rfl) events
    rwa [List.filter_eq_self.2 fun _ _ => rfl] at hall
  · exact forall₂_lines Event.isStep (fun e => by cases e <;> rfl) events
  · rw [render, join_eq (forall_mem_lines fun _ _ => line_ne_empty)]
    exact Text.pieces_join (hbreaks v)

/-- A line break is an operation, an argument code, a key and a part of a string. -/
theorem printed_lines_breaks :
    let events : List Event := [.unowned ⟨0, 2⟩,
      .invoke 0 65 [10, 97] [some (.array [.object [("\n", .string "\r\n")]]), none], .skip 1 10]
    let kept := ["  0 A([\x7b\"\\n\":\"\\r\\n\"\x7d], -)", "  1 U+000A skipped: no callback"]
    lines .plain .brief events = kept ∧ (∀ l ∈ kept, '\n' ∉ l.toList) ∧
      Text.pieces '\n' (render .plain .brief events) = kept ++ [""] := by
  intro events kept
  obtain ⟨-, -, -, hbreaks, hpieces⟩ := printed_lines .plain events
  have hlines : lines .plain .brief events = kept := by decide +kernel
  exact ⟨hlines, hlines ▸ hbreaks .brief, hlines ▸ hpieces .brief⟩

end Trace

end Opscript
