import Opscript.Proofs.Json.Nested
import Opscript.Value.Text

/-!
# The text of a value is read back

Reading the text of a value gives its document, and the document gives the value. Three things
stand in the way: a float may be written as `null` or read as another one, an object keeps one
value for a key that it has twice, and brackets may nest at most 127 levels.
-/

namespace Opscript.Value

mutual

/-- The test holds of the value and of every value inside it. -/
def all (test : Value → Bool) : Value → Bool
  | array items => test (array items) && allItems test items
  | object fields => test (object fields) && allFields test fields
  | v => test v

def allItems (test : Value → Bool) : List Value → Bool
  | [] => true
  | v :: vs => all test v && allItems test vs

def allFields (test : Value → Bool) : List (String × Value) → Bool
  | [] => true
  | (_, v) :: vs => all test v && allFields test vs

end

theorem all_array_iff {test : Value → Bool} {items : List Value} :
    (array items).all test = true ↔ test (array items) = true ∧ allItems test items = true :=
  Bool.and_eq_true_iff (x := test (array items))

theorem all_object_iff {test : Value → Bool} {fields : List (String × Value)} :
    (object fields).all test = true ↔ test (object fields) = true ∧ allFields test fields = true :=
  Bool.and_eq_true_iff (x := test (object fields))

def isFloat : Value → Bool
  | float _ => true
  | _ => false

/-- No key stands twice among the fields of the object. -/
def keysDistinct : Value → Bool
  | object fields => decide (fields.map Prod.fst).Nodup
  | _ => true

mutual

/-- How deep arrays and objects nest. -/
def depth : Value → Nat
  | array items => depthItems items + 1
  | object fields => depthFields fields + 1
  | _ => 0

def depthItems : List Value → Nat
  | [] => 0
  | v :: vs => max (depth v) (depthItems vs)

def depthFields : List (String × Value) → Nat
  | [] => 0
  | (_, v) :: vs => max (depth v) (depthFields vs)

end

/-! ## The document -/

theorem map_fst_toJsonFields (fields : List (String × Value)) :
    (toJsonFields fields).map Prod.fst = fields.map Prod.fst := by
  induction fields with
  | nil => rfl
  | cons f rest ih => rw [toJsonFields, List.map_cons, ih, List.map_cons]

theorem int64?_toInt (n : Int64) : (Json.Number.int n.toInt).int64? = some n := by
  rw [Json.Number.int64?, if_pos ⟨n.minValue_le_toInt, n.toInt_le⟩, Int64.ofInt_toInt]

mutual

/-- The document of a value without floats gives the value. -/
theorem ofJson_toJson : ∀ v : Value, v.all (!·.isFloat) = true → ofJson v.toJson = v
  | null, _ => rfl
  | bool _, _ => rfl
  | int n, _ => by rw [toJson, ofJson, int64?_toInt]
  | float _, h => nomatch h
  | string _, _ => rfl
  | array items, h => by
    rw [toJson, ofJson, ofJsonItems_toJsonItems items (all_array_iff.1 h).2]
  | object fields, h => by
    rw [toJson, ofJson, ofJsonFields_toJsonFields fields (all_object_iff.1 h).2]

theorem ofJsonItems_toJsonItems : ∀ items : List Value,
    allItems (!·.isFloat) items = true → ofJsonItems (toJsonItems items) = items
  | [], _ => rfl
  | v :: vs, h => by
    obtain ⟨hv, hvs⟩ := Bool.and_eq_true_iff.1 h
    rw [toJsonItems, ofJsonItems, ofJson_toJson v hv, ofJsonItems_toJsonItems vs hvs]

theorem ofJsonFields_toJsonFields : ∀ fields : List (String × Value),
    allFields (!·.isFloat) fields = true → ofJsonFields (toJsonFields fields) = fields
  | [], _ => rfl
  | (k, v) :: vs, h => by
    obtain ⟨hv, hvs⟩ := Bool.and_eq_true_iff.1 h
    rw [toJsonFields, ofJsonFields, ofJson_toJson v hv, ofJsonFields_toJsonFields vs hvs]

end

/-! ## The text -/

open Json.Reading

/-- What the texts of items or fields make between brackets. -/
theorem toList_brackets (opening closing : String) (ts : List String) :
    (opening ++ String.intercalate "," ts ++ closing).toList =
      opening.toList ++ ([','].intercalate (ts.map String.toList) ++ closing.toList) := by
  rw [String.toList_append, String.toList_append, String.toList_intercalate, List.append_assoc]
  rfl

-- By recursion on the value, with the levels that are left: each bracket takes one of them, and
-- what is inside nests one level less.
mutual

theorem reads_format : ∀ (v : Value) {n : Nat}, v.all (!·.isFloat) = true →
    v.all keysDistinct = true → v.depth ≤ n →
    Reads (value n) (v.format .plain).toList v.toJson
  | null, n, _, _, _ => reads_null n
  | bool true, n, _, _, _ => reads_bool n true
  | bool false, n, _, _, _ => reads_bool n false
  | int i, n, _, _, _ => reads_int n i
  | float _, _, hfloat, _, _ => nomatch hfloat
  | string s, n, _, _, _ => by
    have htext : ((string s).format .plain).toList = Text.quoteChars s.toList :=
      String.toList_ofList
    rw [htext]
    exact reads_string n s
  | array items, n + 1, hfloat, hkeys, hdepth => by
    have hitems := forall₂_formatItems items (all_array_iff.1 hfloat).2 (all_array_iff.1 hkeys).2
      (Nat.le_of_succ_le_succ hdepth)
    have htext : ((array items).format .plain).toList =
        '[' :: ([','].intercalate ((formatItems .plain items).map String.toList) ++ [']']) :=
      toList_brackets "[" "]" _
    rw [htext]
    exact reads_array hitems
  | object fields, n + 1, hfloat, hkeys, hdepth => by
    obtain ⟨hnodup, hinside⟩ := all_object_iff.1 hkeys
    have hfields := forall₂_formatFields fields (all_object_iff.1 hfloat).2 hinside
      (Nat.le_of_succ_le_succ hdepth)
    have htext : ((object fields).format .plain).toList =
        '{' :: ([','].intercalate ((formatFields .plain fields).map String.toList) ++ ['}']) :=
      toList_brackets "\x7b" "\x7d" _
    rw [htext]
    refine reads_object hfields ?_
    rw [map_fst_toJsonFields]
    exact of_decide_eq_true hnodup

theorem forall₂_formatItems : ∀ (items : List Value) {n : Nat},
    allItems (!·.isFloat) items = true → allItems keysDistinct items = true →
    depthItems items ≤ n →
    List.Forall₂ (Reads (value n)) ((formatItems .plain items).map String.toList)
      (toJsonItems items)
  | [], _, _, _, _ => .nil
  | v :: vs, _, hfloat, hkeys, hdepth => by
    obtain ⟨hv, hvs⟩ := Bool.and_eq_true_iff.1 hfloat
    obtain ⟨hkv, hkvs⟩ := Bool.and_eq_true_iff.1 hkeys
    obtain ⟨hdv, hdvs⟩ := Nat.max_le.1 hdepth
    exact .cons (reads_format v hv hkv hdv) (forall₂_formatItems vs hvs hkvs hdvs)

theorem forall₂_formatFields : ∀ (fields : List (String × Value)) {n : Nat},
    allFields (!·.isFloat) fields = true → allFields keysDistinct fields = true →
    depthFields fields ≤ n →
    List.Forall₂ (ReadsField (value n)) ((formatFields .plain fields).map String.toList)
      (toJsonFields fields)
  | [], _, _, _, _ => .nil
  | (k, v) :: vs, _, hfloat, hkeys, hdepth => by
    obtain ⟨hv, hvs⟩ := Bool.and_eq_true_iff.1 hfloat
    obtain ⟨hkv, hkvs⟩ := Bool.and_eq_true_iff.1 hkeys
    obtain ⟨hdv, hdvs⟩ := Nat.max_le.1 hdepth
    have htext : (Text.quote k ++ ":" ++ v.format .plain).toList =
        Text.quoteChars k.toList ++ ':' :: (v.format .plain).toList := by
      rw [String.toList_append, String.toList_append, Text.quote, String.toList_ofList,
        List.append_assoc]
      rfl
    refine .cons ?_ (forall₂_formatFields vs hvs hkvs hdvs)
    show ReadsField _ (Text.quote k ++ ":" ++ v.format .plain).toList _
    rw [htext]
    exact readsField (reads_format v hv hkv hdv).takes k

end

/-- The text is that of the value's document. -/
theorem read_eq_toJson {v : Value} (hfloat : v.all (!·.isFloat) = true)
    (hkeys : v.all keysDistinct = true) (hdepth : v.depth ≤ maxLevels) :
    Json.read (v.format .plain) = .ok v.toJson :=
  read_of_reads (reads_format v hfloat hkeys hdepth)

/-- The text of a value in which no float stands, no object has a key twice and nothing nests deeper
than the reader goes is a document, and the document gives the value. -/
theorem read_format {v : Value} (hfloat : v.all (!·.isFloat) = true)
    (hkeys : v.all keysDistinct = true) (hdepth : v.depth ≤ 127) :
    (Json.read (v.format .plain)).map ofJson = .ok v := by
  rw [read_eq_toJson hfloat hkeys hdepth]
  show Except.ok (ofJson v.toJson) = .ok v
  rw [ofJson_toJson v hfloat]

theorem read_format_nested :
    let v := object [("a\"\\\n\x01𝄞", array [int Int64.minValue, bool true, null, object []]),
      ("", array []), ("/", string "\x7f")]
    (v.all (!·.isFloat) = true ∧ v.all keysDistinct = true ∧ v.depth ≤ 127) ∧
      (Json.read (v.format .plain)).map ofJson = .ok v := by
  refine ⟨⟨rfl, rfl, by decide⟩, read_format rfl rfl (by decide)⟩

end Opscript.Value
