import Opscript.Proofs.Text.Separated
import Opscript.Value.Text

/-!
# The two ways to write a value agree

`format` puts the text of a value together from the texts of what is in it; a writer is handed the
value piece by piece and only keeps what it has written and what is open. In the plain palette both
come to the same text. One lemma is about the writer alone: whatever is announced and written
between the two ends of a list or an object comes to stand between brackets with commas, and what
was open before is open again (`leave_enterAll`). With it, recursion on the value shows that handing
a value over writes just its text, wherever the writer stands (`pour_compact`).
-/

namespace Opscript.Json.Writer

@[simp] theorem put_put (s t : String) (w : Writer) : (w.put s).put t = w.put (s ++ t) := by
  simp [put, String.append_assoc]

/-- Writes a text as the next thing in the list or object that is open. -/
def add (w : Writer) (t : String) : Writer := w.separate.put t

/-- Behind something, each text has a comma in front of it. -/
theorem foldl_add_of_something {w : Writer} {outer : List Filling} (ts : List String)
    (h : w.opened = .something :: outer) :
    ts.foldl add w = w.put (String.join (ts.map ("," ++ ·))) := by
  induction ts generalizing w with
  | nil => simp [put]
  | cons t ts ih =>
    have hadd : add w t = w.put ("," ++ t) := by
      simp [add, separate, h, put, String.append_assoc]
    rw [List.foldl_cons, hadd, ih (by simpa [put] using h), put_put]
    simp

/-- What is written between a beginning and an end stands between brackets, with commas. -/
theorem leave_enterAll (front back : String) (ts : List String) (w : Writer) :
    (ts.foldl add (w.enter front back ts.length)).leave back =
      w.put (front ++ String.intercalate "," ts ++ back) := by
  cases ts with
  | nil => simp [enter, leave, put]
  | cons t ts =>
    have hadd : add (w.enter front back (t :: ts).length) t =
        { w.put (front ++ t) with opened := .something :: w.opened } := by
      simp [add, enter, separate, put, String.append_assoc]
    rw [List.foldl_cons, hadd, foldl_add_of_something ts rfl, Text.intercalate_cons]
    simp [leave, put, String.append_assoc]

end Opscript.Json.Writer

namespace Opscript.Value

open Json.Writer

variable {number : Float → String}

theorem length_formatItems (p : Palette) (items : List Value) :
    (formatItems p items).length = items.length := by
  induction items with
  | nil => rfl
  | cons v vs ih => simp [formatItems, ih]

theorem length_formatFields (p : Palette) (fields : List (String × Value)) :
    (formatFields p fields).length = fields.length := by
  induction fields with
  | nil => rfl
  | cons f fs ih => simp [formatFields, ih]

mutual

/-- A value that is handed over is written, and nothing else changes. -/
theorem pour_compact (hfloat : ∀ x, number x = Json.floatText x) : ∀ (v : Value) (w : Json.Writer),
    v.pour (compact number) w = w.put (v.format .plain)
  | null, _ => rfl
  | bool true, _ => rfl
  | bool false, _ => rfl
  | int _, _ => rfl
  | float x, w => congrArg (fun s => w.put s) (hfloat x)
  | string _, _ => rfl
  | array items, w => by
    have hitems := pourItems_compact hfloat items (w.enter "[" "]" items.length)
    rw [← length_formatItems .plain items] at hitems
    show (pourItems _ items (w.enter "[" "]" _)).leave "]" = _
    rw [← length_formatItems .plain items, hitems, leave_enterAll]
    rfl
  | object fields, w => by
    have hfields := pourFields_compact hfloat fields (w.enter "\x7b" "\x7d" fields.length)
    rw [← length_formatFields .plain fields] at hfields
    show (pourFields _ fields (w.enter "\x7b" "\x7d" _)).leave "\x7d" = _
    rw [← length_formatFields .plain fields, hfields, leave_enterAll]
    rfl

theorem pourItems_compact (hfloat : ∀ x, number x = Json.floatText x) :
    ∀ (items : List Value) (w : Json.Writer),
      pourItems (compact number) items w = (formatItems .plain items).foldl add w
  | [], _ => rfl
  | v :: vs, w => by
    rw [pourItems, pour_compact hfloat v, pourItems_compact hfloat vs]
    rfl

theorem pourFields_compact (hfloat : ∀ x, number x = Json.floatText x) :
    ∀ (fields : List (String × Value)) (w : Json.Writer),
      pourFields (compact number) fields w = (formatFields .plain fields).foldl add w
  | [], _ => rfl
  | (k, v) :: vs, w => by
    have hkey : ((compact number).key k w).put (v.format .plain) =
        add w (Text.quote k ++ ":" ++ v.format .plain) := put_put _ _ _
    rw [pourFields, pour_compact hfloat v, pourFields_compact hfloat vs, hkey]
    rfl

end

mutual

/-- The text of a value is that of its document. -/
theorem compact_toJson : ∀ v : Value, v.toJson.compact = v.format .plain
  | null => rfl
  | bool true => rfl
  | bool false => rfl
  | int _ => rfl
  | float _ => rfl
  | string _ => rfl
  | array items => by
    rw [toJson, Json.compact, compactItems_toJsonItems items]
    rfl
  | object fields => by
    rw [toJson, Json.compact, compactFields_toJsonFields fields]
    rfl

theorem compactItems_toJsonItems : ∀ items : List Value,
    Json.compactItems (toJsonItems items) = formatItems .plain items
  | [] => rfl
  | v :: vs => by
    rw [toJsonItems, Json.compactItems, compact_toJson v, compactItems_toJsonItems vs, formatItems]

theorem compactFields_toJsonFields : ∀ fields : List (String × Value),
    Json.compactFields (toJsonFields fields) = formatFields .plain fields
  | [] => rfl
  | (k, v) :: vs => by
    rw [toJsonFields, Json.compactFields, compact_toJson v, compactFields_toJsonFields vs]
    rfl

end

/-- The text of a value in the plain palette is what a writer makes of its pieces, as long as the
writer writes a finite float as it is written elsewhere, and any other as `null`. Keys may stand
twice, and lists and objects may be empty. It is the text of the value's document as well. -/
theorem pour_text {number : Float → String}
    (hfinite : ∀ x : Float, x.isFinite = true → number x = Decimal.Layout.data.text x)
    (hother : ∀ x : Float, x.isFinite = false → number x = "null") (v : Value) :
    (v.pour (compact number) {}).text = v.format .plain ∧ v.toJson.compact = v.format .plain := by
  have hfloat : ∀ x, number x = Json.floatText x := by
    intro x
    unfold Json.floatText
    by_cases hx : x.isFinite = true
    · rw [if_pos hx, hfinite x hx]
    · rw [if_neg hx, hother x (Bool.eq_false_iff.2 hx)]
  refine ⟨?_, compact_toJson v⟩
  rw [pour_compact hfloat v]
  exact String.empty_append

/-- A key that stands twice, empty brackets, and a list with a float that is no number. -/
theorem pour_text_nested :
    let v := object [("a", array []), ("a", array [float (0 / 0), object [], int Int64.minValue]),
      ("\"", object [("", null), ("\n", string "𝄞")])]
    (∀ x : Float, x.isFinite = true → Json.floatText x = Decimal.Layout.data.text x) ∧
      (∀ x : Float, x.isFinite = false → Json.floatText x = "null") ∧
      v.written = v.format .plain ∧ v.toJson.compact = v.format .plain := by
  intro v
  have hfinite : ∀ x : Float, x.isFinite = true →
      Json.floatText x = Decimal.Layout.data.text x := fun _ hx => if_pos hx
  have hother : ∀ x : Float, x.isFinite = false → Json.floatText x = "null" :=
    fun _ hx => if_neg (Bool.eq_false_iff.1 hx)
  exact ⟨hfinite, hother, pour_text hfinite hother v⟩

end Opscript.Value
