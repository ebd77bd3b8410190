import Mathlib.Data.List.Induction
import Mathlib.Data.List.Nodup
import Mathlib.Logic.Function.Basic
import Opscript.Config.Document

/-!
# What the fields of a document give

A document with distinct keys is a `Table`: a value, or none, under each known key. The
configuration is read off it field by field (`ofTable`), where a value that is not well-formed
gives the default. Each field of the document tells of its own faults (`faultsIn`), and those of
the whole are in document order. The entries of the operations have one `outcome` each: a callback
or a fault.
-/

namespace Opscript

namespace Json

def string? : Json → Option String
  | .string s => some s
  | _ => none

def bool? : Json → Option Bool
  | .bool b => some b
  | _ => none

def fields? : Json → Option (List (String × Json))
  | .object fields => some fields
  | _ => none

/-- A positive number among the signed 64-bit integers. -/
def positive? : Json → Option Nat
  | .number (.int n) => if 1 ≤ n ∧ n ≤ Int64.maxValue.toInt then some n.toNat else none
  | _ => none

/-! ## Distinct keys -/

namespace Reading

theorem Step.andThen_eq_ok {α β : Type} {r : Step α} {next : α → List Char → Step β}
    {y : β × List Char} (h : r.andThen next = .ok y) :
    ∃ x rest, r = .ok (x, rest) ∧ next x rest = .ok y := by
  cases r with
  | error f => cases h
  | ok p => exact ⟨p.1, p.2, rfl, h⟩

theorem Step.map_eq_ok {α β : Type} {f : α → β} {r : Step α} {y : β × List Char}
    (h : r.map f = .ok y) : ∃ x, y.1 = f x := by
  obtain ⟨x, rest, -, hx⟩ := andThen_eq_ok h
  cases hx
  exact ⟨x, rfl⟩

/-- Only the reader of an object gives one. -/
theorem collapse_of_value {levels : Nat} {s rest : List Char} {fields : List (String × Json)}
    (h : value levels s = .ok (.object fields, rest)) : ∃ fs, fields = Ordered.collapse fs := by
  unfold value at h
  split at h <;> try split at h
  all_goals first
    | cases h
    | obtain ⟨x, hx⟩ := Step.map_eq_ok h
      cases hx <;> exact ⟨x, rfl⟩

end Reading

/-- The fields of an object that was read have distinct keys. -/
theorem nodup_of_read {text : String} {fields : List (String × Json)}
    (h : read text = .ok (.object fields)) : (fields.map Prod.fst).Nodup := by
  unfold read at h
  split at h
  case h_2 => cases h
  case h_1 v rest hread =>
    cases h
    obtain ⟨v, rest, hvalue, hend⟩ := Reading.Step.andThen_eq_ok hread
    split at hend
    case h_2 => cases hend
    case h_1 =>
      cases hend
      obtain ⟨fs, rfl⟩ := Reading.collapse_of_value hvalue
      exact Ordered.nodup_collapse fs

end Json

namespace Resolution

def name : Resolution → String
  | presence => "presence"
  | truthiness => "truthiness"

theorem ofName?_eq_some_iff {s : String} {r : Resolution} : ofName? s = some r ↔ s = r.name := by
  unfold ofName?
  by_cases hp : s = "presence"
  · cases r <;> simp [hp, name]
  · by_cases ht : s = "truthiness"
    · cases r <;> simp [ht, name]
    · cases r <;> simp [hp, ht, name]

end Resolution

namespace Config

namespace Key

theorem ofName?_name (k : Key) : ofName? k.name = some k := by
  cases k <;> rfl

theorem name_of_ofName? {s : String} {k : Key} (h : ofName? s = some k) : k.name = s :=
  eq_of_beq (List.find?_some (p := fun k : Key => k.name == s) h)

theorem name_injective {j k : Key} (h : j.name = k.name) : j = k :=
  Option.some.inj (by rw [← ofName?_name j, h, ofName?_name])

/-- Whether a value is well-formed. -/
def accepts : Key → Json → Bool
  | sequence, v => v.string?.isSome
  | operations, v | values, v | labels, v => v.fields?.isSome
  | maxSequenceLength, v => v.positive?.isSome
  | ignoreWarnings, v | strictMode, v => v.bool?.isSome
  | argumentResolution, v => (Loading.resolution? v).isSome

end Key

/-- The value under each key. -/
abbrev Table := Key → Option Json

/-- The table of fields whose keys are distinct. -/
def tableOf (fields : List (String × Json)) : Table := fun k => fields.lookup k.name

/-- The entries of the object under a key. -/
def Table.entries (t : Table) (k : Key) : List (String × Json) :=
  ((t k).bind Json.fields?).getD []

namespace Loading

/-- A resolution is given by its name, or by an object that holds the name only. -/
theorem resolution?_eq_some_iff {v : Json} {r : Resolution} :
    resolution? v = some r ↔ v = .string r.name ∨ v = .object [(r.name, .null)] := by
  constructor
  · intro h
    unfold resolution? at h
    split at h
    · exact .inl (congrArg Json.string (Resolution.ofName?_eq_some_iff.1 h))
    · rw [Resolution.ofName?_eq_some_iff.1 h]
      exact .inr rfl
    · cases h
  · rintro (rfl | rfl) <;> exact Resolution.ofName?_eq_some_iff.2 rfl

/-! ## Operations -/

/-- What an entry of the operations comes to, if `asked` are the names before it. -/
def outcome (bind : Binding) (asked : List String) (entry : String × Json) :
    Except Violation (Symbol × Callback) :=
  match entry.2 with
  | .string name =>
    match bind asked name with
    | some callback => .ok (.text entry.1, callback)
    | none => .error (missingCallback entry.1 ("no callback named `" ++ name ++ "`"))
  | v => .error (missingCallback entry.1 ("expected an operation name, got " ++ v.describe))

/-- The outcome of each entry. Each name is asked for once, after the names before it. -/
def outcomes (bind : Binding) (asked : List String) :
    List (String × Json) → List (Except Violation (Symbol × Callback))
  | [] => []
  | e :: rest => outcome bind asked e :: outcomes bind (asked ++ e.2.string?.toList) rest

/-- The names that entries give. -/
def names (entries : List (String × Json)) : List String := entries.filterMap fun e => e.2.string?

theorem length_outcomes (bind : Binding) (asked : List String) (entries : List (String × Json)) :
    (outcomes bind asked entries).length = entries.length := by
  induction entries generalizing asked with
  | nil => rfl
  | cons e rest ih => rw [outcomes, List.length_cons, ih, List.length_cons]

theorem operation_eq (bind : Binding) (l : Loading) (e : String × Json) :
    operation bind l e = {
      config := { l.config with
        operations := l.config.operations ++ (outcome bind l.asked e).toOption.toList
        issues := l.config.issues ++ (Violation.of? (outcome bind l.asked e)).toList }
      asked := l.asked ++ e.2.string?.toList } := by
  obtain ⟨symbol, v⟩ := e
  cases v with
  | string name =>
    unfold operation outcome
    cases h : bind l.asked name <;>
      simp [h, Json.string?, Except.toOption, Violation.of?, addIssue]
  | _ => simp [operation, outcome, Json.string?, Except.toOption, Violation.of?, addIssue]

/-- What the entries of the operations add. -/
theorem foldl_operation (bind : Binding) (l : Loading) (entries : List (String × Json)) :
    entries.foldl (operation bind) l = {
      config := { l.config with
        operations := l.config.operations ++
          (outcomes bind l.asked entries).filterMap Except.toOption
        issues := l.config.issues ++ (outcomes bind l.asked entries).filterMap Violation.of? }
      asked := l.asked ++ names entries } := by
  induction entries generalizing l with
  | nil => simp [outcomes, names]
  | cons e rest ih =>
    have hnames : names (e :: rest) = e.2.string?.toList ++ names rest := by
      unfold names
      rw [List.filterMap_cons]
      cases e.2.string? <;> rfl
    have houtcomes {β : Type} (f : Except Violation (Symbol × Callback) → Option β) :
        (outcomes bind l.asked (e :: rest)).filterMap f =
          (f (outcome bind l.asked e)).toList ++
            (outcomes bind (l.asked ++ e.2.string?.toList) rest).filterMap f := by
      rw [outcomes, List.filterMap_cons]
      cases f (outcome bind l.asked e) <;> rfl
    rw [List.foldl_cons, ih, operation_eq, hnames, houtcomes, houtcomes]
    simp only [List.append_assoc]

/-! ## Faults -/

/-- The fault of a value that is not well-formed. -/
def fault (key : Key) (v : Json) : Violation :=
  match key, v with
  | .maxSequenceLength, .number (.int n) =>
    if Int64.minValue.toInt ≤ n ∧ n ≤ 0 then
      { kind := .invalidMaxLength, detail := some ("got " ++ toString n) }
    else malformed .maxSequenceLength v
  | key, v => malformed key v

/-- The faults of a value under a key. -/
def faultsUnder (bind : Binding) (key : Key) (v : Json) : List Violation :=
  if key.accepts v then
    match key with
    | .operations => (outcomes bind [] (v.fields?.getD [])).filterMap Violation.of?
    | _ => []
  else [fault key v]

/-- The faults of a field. -/
def faultsIn (bind : Binding) (f : String × Json) : List Violation :=
  match Key.ofName? f.1 with
  | some key => faultsUnder bind key f.2
  | none => [unknownKey f.1]

/-! ## Tables -/

/-- What is read off a table. -/
def ofTable (bind : Binding) (t : Table) (issues : List Violation) : Loading where
  config := {
    sequence := ((t .sequence).bind Json.string?).map Sequence.ofString
    operations := (outcomes bind [] (t.entries .operations)).filterMap Except.toOption
    values := (t.entries .values).map fun e => (.text e.1, Value.ofJson e.2)
    labels := (t.entries .labels).map fun e => (e.1, Symbol.ofJson e.2)
    maxLength := (t .maxSequenceLength).bind Json.positive?
    ignoreWarnings := ((t .ignoreWarnings).bind Json.bool?).getD false
    strictMode := ((t .strictMode).bind Json.bool?).getD false
    resolution := ((t .argumentResolution).bind resolution?).getD .presence
    issues }
  asked := names (t.entries .operations)

theorem maxLength_eq (l : Loading) (n : Json.Number) :
    l.maxLength (.number n) n =
      (Json.number n).positive?.elim (l.addIssue (fault .maxSequenceLength (.number n)))
        fun k => { l with config.maxLength := some k } := by
  cases n with
  | float x => rfl
  | int n =>
    unfold maxLength Json.positive? fault
    by_cases hrange : Int64.minValue.toInt ≤ n ∧ n ≤ Int64.maxValue.toInt
    · have hint : (Json.Number.int n).int64? = some (Int64.ofInt n) := if_pos hrange
      have hn : (Int64.ofInt n).toInt = n :=
        Int64.toInt_ofInt_of_le hrange.1 (Int.lt_add_one_of_le hrange.2)
      simp only [hint, hn]
      by_cases hpos : 0 < n
      · have hpositive : 1 ≤ n ∧ n ≤ Int64.maxValue.toInt := ⟨hpos, hrange.2⟩
        simp only [Limit.check, dif_pos hpos, if_pos hpositive, Option.elim_some]
      · have hpositive : ¬ (1 ≤ n ∧ n ≤ Int64.maxValue.toInt) := fun h => hpos h.1
        have hfault : Int64.minValue.toInt ≤ n ∧ n ≤ 0 := ⟨hrange.1, Int.not_lt.1 hpos⟩
        simp only [Limit.check, dif_neg hpos, if_neg hpositive, if_pos hfault, Option.elim_none]
    · have hint : (Json.Number.int n).int64? = none := if_neg hrange
      have hmin : Int64.minValue.toInt ≤ 1 := by decide
      have hmax : 0 ≤ Int64.maxValue.toInt := by decide
      have hpositive : ¬ (1 ≤ n ∧ n ≤ Int64.maxValue.toInt) := fun h =>
        hrange ⟨Int.le_trans hmin h.1, h.2⟩
      have hfault : ¬ (Int64.minValue.toInt ≤ n ∧ n ≤ 0) := fun h =>
        hrange ⟨h.1, Int.le_trans h.2 hmax⟩
      simp only [hint, if_neg hpositive, if_neg hfault, Option.elim_none]

/-- A value that is not well-formed is told of, and nothing else. -/
theorem known_of_not_accepts (bind : Binding) (l : Loading) {key : Key} {v : Json}
    (h : ¬ key.accepts v = true) : l.known bind key v = l.addIssue (fault key v) := by
  cases key with
  | sequence | operations | values | labels | ignoreWarnings | strictMode =>
    cases v <;> first | rfl | exact absurd rfl h
  | maxSequenceLength =>
    cases v with
    | number n =>
      have hn : (Json.number n).positive? = none := Option.not_isSome_iff_eq_none.1 h
      rw [known, maxLength_eq, hn, Option.elim_none]
    | _ => rfl
  | argumentResolution =>
    have hv : resolution? v = none := Option.not_isSome_iff_eq_none.1 h
    simp only [known, hv]
    rfl

/-- In a table, a value that is not well-formed counts as none. -/
theorem ofTable_of_not_accepts (bind : Binding) {t : Table} {key : Key} {v : Json}
    (issues : List Violation) (ht : t key = none) (h : ¬ key.accepts v = true) :
    ofTable bind (Function.update t key (some v)) issues = ofTable bind t issues := by
  cases key <;>
    simp [ofTable, Table.entries, Function.update, ht, Option.not_isSome_iff_eq_none.1 h]

/-- A well-formed value is what its field is read off. -/
theorem known_ofTable_of_accepts (bind : Binding) {t : Table} {key : Key} {v : Json}
    (issues : List Violation) (ht : t key = none) (h : key.accepts v = true) :
    (ofTable bind t issues).known bind key v =
      ofTable bind (Function.update t key (some v)) (issues ++ faultsUnder bind key v) := by
  cases key with
  | operations =>
    cases v with
    | object es =>
      simp only [known, foldl_operation]
      simp [ofTable, faultsUnder, Table.entries, Function.update, ht, h, Json.fields?, outcomes,
        names]
    | _ => cases h
  | maxSequenceLength =>
    cases v with
    | number n =>
      obtain ⟨k, hk⟩ := Option.isSome_iff_exists.1 h
      rw [known, maxLength_eq, hk, Option.elim_some]
      simp [ofTable, faultsUnder, Table.entries, Function.update, h, hk]
    | _ => cases h
  | argumentResolution =>
    obtain ⟨r, hr⟩ := Option.isSome_iff_exists.1 h
    simp [known, ofTable, faultsUnder, Table.entries, Function.update, h, hr]
  | sequence | values | labels | ignoreWarnings | strictMode =>
    cases v <;> first
      | exact absurd h Bool.false_ne_true
      | simp [known, ofTable, faultsUnder, Table.entries, Function.update, ht, h, Json.string?,
          Json.fields?, Json.bool?]

/-- A field goes to its place in the table, and its faults behind the others. -/
theorem known_ofTable (bind : Binding) {t : Table} {key : Key} (v : Json)
    (issues : List Violation) (ht : t key = none) :
    (ofTable bind t issues).known bind key v =
      ofTable bind (Function.update t key (some v)) (issues ++ faultsUnder bind key v) := by
  by_cases h : key.accepts v = true
  · exact known_ofTable_of_accepts bind issues ht h
  · have hfaults : faultsUnder bind key v = [fault key v] := if_neg h
    rw [known_of_not_accepts bind _ h, ofTable_of_not_accepts bind _ ht h, hfaults]
    rfl

/-! ## Documents -/

theorem tableOf_eq_none {fields : List (String × Json)} {key : Key}
    (h : key.name ∉ fields.map Prod.fst) : tableOf fields key = none := by
  refine List.lookup_eq_none_iff.2 fun f hf => bne_iff_ne.2 fun hname => h ?_
  rw [hname]
  exact List.mem_map_of_mem hf

theorem lookup_concat {fields : List (String × Json)} {name : String}
    (h : name ∉ fields.map Prod.fst) (v : Json) (k : String) :
    (fields ++ [(name, v)]).lookup k = if k = name then some v else fields.lookup k := by
  rw [← Ordered.put_of_not_mem h, Ordered.lookup_put]

theorem tableOf_concat_known {fields : List (String × Json)} {key : Key}
    (h : key.name ∉ fields.map Prod.fst) (v : Json) :
    tableOf (fields ++ [(key.name, v)]) = Function.update (tableOf fields) key (some v) := by
  funext k
  unfold tableOf
  rw [lookup_concat h]
  by_cases hk : k = key
  · rw [hk, Function.update_self, if_pos rfl]
  · rw [Function.update_of_ne hk, if_neg fun hname => hk (Key.name_injective hname)]

theorem tableOf_concat_unknown {fields : List (String × Json)} {name : String}
    (hname : Key.ofName? name = none) (h : name ∉ fields.map Prod.fst) (v : Json) :
    tableOf (fields ++ [(name, v)]) = tableOf fields := by
  funext k
  unfold tableOf
  rw [lookup_concat h, if_neg]
  rintro rfl
  rw [Key.ofName?_name] at hname
  cases hname

/-- A document is its table and the faults of its fields. -/
theorem foldl_field (bind : Binding) {fields : List (String × Json)}
    (h : (fields.map Prod.fst).Nodup) :
    fields.foldl (field bind) {} =
      ofTable bind (tableOf fields) (fields.flatMap (faultsIn bind)) := by
  induction fields using List.reverseRecOn with
  | nil => rfl
  | append_singleton fields f ih =>
    obtain ⟨name, v⟩ := f
    rw [List.map_append, List.map_singleton, ← List.concat_eq_append, List.nodup_concat] at h
    rw [List.foldl_append, ih h.2, List.foldl_cons, List.foldl_nil, List.flatMap_append,
      List.flatMap_singleton, field, faultsIn]
    cases hname : Key.ofName? name with
    | none => rw [tableOf_concat_unknown hname h.1]; rfl
    | some key =>
      obtain rfl := Key.name_of_ofName? hname
      rw [tableOf_concat_known h.1, ← known_ofTable bind v _ (tableOf_eq_none h.1)]

/-- Reading a text that is an object. -/
theorem read_of_object (bind : String → Option Callback) {text : String}
    {fields : List (String × Json)} (h : Json.read text = .ok (.object fields)) :
    read bind text =
      .ok (ofTable (fun _ => bind) (tableOf fields) (fields.flatMap (faultsIn fun _ => bind))) := by
  rw [read, h]
  exact congrArg Except.ok (foldl_field _ (Json.nodup_of_read h))

/-- A configuration is read off these fields. Each of its fields depends on one key, and is at its
default if there is no well-formed value under it. -/
structure Reads (bind : Binding) (fields : List (String × Json)) (l : Loading) : Prop where
  sequence : l.config.sequence =
    ((tableOf fields .sequence).bind Json.string?).map Sequence.ofString
  operations : l.config.operations =
    (outcomes bind [] ((tableOf fields).entries .operations)).filterMap Except.toOption
  /-- Each entry has one outcome. -/
  complete : (outcomes bind [] ((tableOf fields).entries .operations)).length =
    ((tableOf fields).entries .operations).length
  /-- Each name that is given for an operation is asked for once. -/
  asked : l.asked = names ((tableOf fields).entries .operations)
  values : l.config.values =
    ((tableOf fields).entries .values).map fun e => (.text e.1, Value.ofJson e.2)
  labels : l.config.labels =
    ((tableOf fields).entries .labels).map fun e => (e.1, Symbol.ofJson e.2)
  maxLength : l.config.maxLength = (tableOf fields .maxSequenceLength).bind Json.positive?
  ignoreWarnings : l.config.ignoreWarnings =
    ((tableOf fields .ignoreWarnings).bind Json.bool?).getD false
  strictMode : l.config.strictMode = ((tableOf fields .strictMode).bind Json.bool?).getD false
  resolution : l.config.resolution =
    ((tableOf fields .argumentResolution).bind resolution?).getD .presence
  issues : l.config.issues = fields.flatMap (faultsIn bind)

/-- A document is accounted for piece by piece. A well-formed value under a known key sets its own
field. Any other value under it leaves the field at its default and adds one issue, and so does an
unknown key. Each entry of the operations is a callback or an issue, in order, and the values and
labels are kept one for one. The issues are in document order. -/
theorem ofJson_object_reads (bind : Binding) {fields : List (String × Json)}
    (h : (fields.map Prod.fst).Nodup) : Reads bind fields (ofJson bind (.object fields)) := by
  rw [ofJson, foldl_field bind h]
  exact ⟨rfl, rfl, length_outcomes _ _ _, rfl, rfl, rfl, rfl, rfl, rfl, rfl, rfl⟩

theorem ofJson_object_reads_mixed :
    let bind : Binding := fun asked name =>
      if name = "f" then some ⟨"f", none⟩ else if "f" ∈ asked then some ⟨"g", none⟩ else none
    let operations : List (String × Json) :=
      [("A", .string "g"), ("B", .string "f"), ("C", .null), ("D", .string "g")]
    let fields : List (String × Json) :=
      [("values", .null), ("operations", .object operations), ("other", .null),
        ("strictMode", .bool true), ("maxSequenceLength", .number (.int 0))]
    (fields.map Prod.fst).Nodup ∧ Reads bind fields (ofJson bind (.object fields)) ∧
      (ofJson bind (.object fields)).config.operations =
        [(.text "B", ⟨"f", none⟩), (.text "D", ⟨"g", none⟩)] ∧
      (ofJson bind (.object fields)).config.issues.map Violation.kind =
        [.invalidConfigField, .missingCallback, .missingCallback, .unknownConfigKey,
          .invalidMaxLength] := by
  intro bind operations fields
  have hkeys : (fields.map Prod.fst).Nodup := by decide
  have h := ofJson_object_reads bind hkeys
  exact ⟨hkeys, h, h.operations.trans (by decide), (congrArg _ h.issues).trans (by decide)⟩

/-! ## Callbacks -/

/-- Every callback so far is what the binding gives some name. -/
def Bound (bind : Binding) (l : Loading) : Prop :=
  ∀ e ∈ l.config.operations, ∃ asked name, bind asked name = some e.2

variable {bind : Binding} {l : Loading}

theorem bound_of_outcome {asked : List String} {entry : String × Json} {e : Symbol × Callback}
    (h : outcome bind asked entry = .ok e) : ∃ asked name, bind asked name = some e.2 := by
  unfold outcome at h
  split at h
  next name _ =>
    split at h
    next f hf =>
      cases h
      exact ⟨asked, name, hf⟩
    next => cases h
  next => cases h

theorem bound_operation (h : l.Bound bind) (entry : String × Json) :
    (operation bind l entry).Bound bind := by
  rw [operation_eq]
  intro e he
  rcases List.mem_append.1 he with he | he
  · exact h e he
  · cases houtcome : outcome bind l.asked entry with
    | error v =>
      rw [houtcome] at he
      cases he
    | ok e' =>
      rw [houtcome] at he
      obtain rfl := List.mem_singleton.1 he
      exact bound_of_outcome houtcome

theorem operations_maxLength (l : Loading) (v : Json) (n : Json.Number) :
    (l.maxLength v n).config.operations = l.config.operations := by
  unfold maxLength
  split
  · rfl
  · split <;> rfl

/-- Only the entries of the operations add any. -/
theorem bound_field (h : l.Bound bind) (f : String × Json) : (l.field bind f).Bound bind := by
  unfold field
  split
  next key _ =>
    unfold known
    split
    next => exact h
    next => exact List.foldlRecOn _ _ h fun _ h entry _ => bound_operation h entry
    next => exact h
    next => exact h
    next v n =>
      intro e he
      rw [operations_maxLength] at he
      exact h e he
    next => exact h
    next => exact h
    next => split <;> exact h
    next => exact h
  next => exact h

/-- Every callback of a configuration comes from the binding. -/
theorem bound_ofJson (bind : Binding) (v : Json) : (ofJson bind v).Bound bind := by
  unfold ofJson
  have hempty : ({} : Loading).Bound bind := fun _ he => nomatch he
  split
  next fields => exact List.foldlRecOn fields _ hempty fun _ h f _ => bound_field h f
  next => exact hempty

end Loading

end Config

end Opscript
