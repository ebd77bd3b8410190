import Opscript.Record

/-!
# Models

A model owns records in order, hands out their ids and keeps their sequence. Every new record takes
the next id; no operation sets the ids back. Each operation that changes the records encodes them
anew with `recompute`.
-/

namespace Opscript

structure Model where
  records : List Record
  /-- The id that the next record will get. -/
  nextId : RecordId
  /-- The encoding of the records. -/
  sequence : Sequence
  deriving DecidableEq

namespace Model

def empty : Model := ⟨[], .first, []⟩

instance : Inhabited Model := ⟨empty⟩

def size (m : Model) : Nat := m.records.length

def isEmpty (m : Model) : Bool := m.records.isEmpty

/-- Operations and arguments in order. -/
def contents (m : Model) : List (Code × List Code) := m.records.map Record.content

/-- The position of a record. -/
def index? (m : Model) (id : RecordId) : Option Nat := m.records.findIdx? (·.id = id)

def get? (m : Model) (id : RecordId) : Option Record := m.records.find? (·.id = id)

def recompute (m : Model) : Model := { m with sequence := encode m.records }

/-- A new record. It is not in the model yet. -/
def create (m : Model) (operation : Code) (arguments : List Code) : Record × Model :=
  (⟨m.nextId, operation, arguments⟩, { m with nextId := m.nextId.next })

/-- Adds a record at `index`, or at the end if the index is larger. -/
def insert (m : Model) (index : Nat) (operation : Code) (arguments : List Code) :
    RecordId × Model :=
  let (record, m) := m.create operation arguments
  (record.id, recompute { m with records := m.records.insertIdx (min index m.size) record })

def append (m : Model) (operation : Code) (arguments : List Code) : RecordId × Model :=
  m.insert m.size operation arguments

def prepend (m : Model) (operation : Code) (arguments : List Code) : RecordId × Model :=
  m.insert 0 operation arguments

/-- Takes a record out. -/
def remove (m : Model) (id : RecordId) : Option Record × Model :=
  match m.index? id with
  | none => (none, m)
  | some i => (m.records[i]?, recompute { m with records := m.records.eraseIdx i })

/-- Adds a record at the end and leaves the sequence as it is. -/
def push (m : Model) (content : Code × List Code) : Model :=
  let (record, m) := m.create content.1 content.2
  { m with records := m.records ++ [record] }

/-- New records in place of all others. -/
def replace (m : Model) (contents : List (Code × List Code)) : Model :=
  recompute (contents.foldl push { m with records := [] })

def clear (m : Model) : Model := recompute { m with records := [] }

theorem records_insert (m : Model) (index : Nat) (operation : Code) (arguments : List Code) :
    (m.insert index operation arguments).2.records =
      m.records.insertIdx (min index m.size) ⟨m.nextId, operation, arguments⟩ := rfl

theorem records_append (m : Model) (operation : Code) (arguments : List Code) :
    (m.append operation arguments).2.records = m.records ++ [⟨m.nextId, operation, arguments⟩] := by
  simp [append, records_insert, size]

theorem records_prepend (m : Model) (operation : Code) (arguments : List Code) :
    (m.prepend operation arguments).2.records = ⟨m.nextId, operation, arguments⟩ :: m.records := by
  simp [prepend, records_insert]

/-- A record that is not there is not taken out. -/
theorem remove_of_none {m : Model} {id : RecordId} (h : m.index? id = none) :
    m.remove id = (none, m) := by
  rw [remove, h]

theorem remove_of_some {m : Model} {id : RecordId} {i : Nat} (h : m.index? id = some i) :
    m.remove id = (m.records[i]?, recompute { m with records := m.records.eraseIdx i }) := by
  rw [remove, h]

theorem contents_push (m : Model) (content : Code × List Code) :
    (m.push content).contents = m.contents ++ [content] := List.map_append

theorem contents_foldl_push (m : Model) (contents : List (Code × List Code)) :
    (contents.foldl push m).contents = m.contents ++ contents := by
  induction contents generalizing m with
  | nil => exact (List.append_nil _).symm
  | cons c rest ih => rw [List.foldl_cons, ih, contents_push, List.append_assoc]; rfl

theorem contents_replace (m : Model) (contents : List (Code × List Code)) :
    (m.replace contents).contents = contents :=
  contents_foldl_push _ contents

end Model

end Opscript
