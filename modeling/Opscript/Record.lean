import Opscript.Sequence

/-!
# Records

A record is an operation with its argument codes under an id. Ids are positive 64-bit numbers;
`next` stays at the greatest one. `encode` writes records one behind the other, with nothing
between them.
-/

namespace Opscript

/-- The greatest number of an id. -/
def RecordId.max : Nat := UInt64.size - 1

/-- A stable handle for a record. -/
structure RecordId where
  val : Nat
  pos : 0 < val
  le : val ≤ RecordId.max
  deriving DecidableEq

namespace RecordId

def first : RecordId := ⟨1, by decide, by decide⟩

def ofNat? (n : Nat) : Option RecordId :=
  if h : 0 < n ∧ n ≤ max then some ⟨n, h.1, h.2⟩ else none

def next (i : RecordId) : RecordId :=
  if h : i.val + 1 ≤ max then ⟨i.val + 1, Nat.succ_pos _, h⟩ else i

theorem val_next (i : RecordId) : i.next.val = min (i.val + 1) max := by
  by_cases h : i.val + 1 ≤ max
  · rw [next, dif_pos h, Nat.min_eq_left h]
  · have := i.le
    rw [next, dif_neg h]
    omega

def text (i : RecordId) : String := toString i.val

end RecordId

structure Record where
  id : RecordId
  operation : Code
  arguments : List Code
  deriving DecidableEq

namespace Record

/-- The operation and the arguments. -/
def content (r : Record) : Code × List Code := (r.operation, r.arguments)

def codes (r : Record) : List Code := r.operation :: r.arguments

/-- The number of codes. -/
def size (r : Record) : Nat := 1 + r.arguments.length

theorem length_codes (r : Record) : r.codes.length = r.size := by
  simp [codes, size, Nat.add_comm]

end Record

/-- The sequence of records. -/
def encode (records : List Record) : Sequence := records.flatMap Record.codes

theorem encode_cons (r : Record) (records : List Record) :
    encode (r :: records) = r.codes ++ encode records := rfl

/-- Ids do not show in the sequence. -/
theorem encode_eq_flatMap_content (records : List Record) :
    encode records = (records.map Record.content).flatMap fun c => c.1 :: c.2 := by
  rw [encode, List.flatMap_map]
  rfl

theorem length_encode (records : List Record) :
    (encode records).length = total Record.size records := by
  simp only [encode, length_flatMap_eq_total, Record.length_codes]

end Opscript
