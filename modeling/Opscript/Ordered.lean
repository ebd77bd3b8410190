/-!
# Ordered maps

Entries stand in the order in which their keys were first inserted. Inserting under a key that is
present keeps its slot; erasing keeps the order of the others. `keyOf?` is the reverse look-up:
the first key in that order whose payload passes a test.
-/

namespace Opscript

/-- Entries with unique keys, in order of first insertion. -/
structure Ordered (κ : Type) (ν : Type) where
  entries : List (κ × ν)
  nodup : (entries.map Prod.fst).Nodup

namespace Ordered

variable {κ ν : Type}

def empty : Ordered κ ν := ⟨[], .nil⟩

instance : Inhabited (Ordered κ ν) := ⟨empty⟩

@[simp] theorem entries_empty : (empty : Ordered κ ν).entries = [] := rfl

def size (m : Ordered κ ν) : Nat := m.entries.length

def isEmpty (m : Ordered κ ν) : Bool := m.entries.isEmpty

def keys (m : Ordered κ ν) : List κ := m.entries.map Prod.fst

/-- The first key, in entry order, whose payload passes `p`. -/
def keyOf? (m : Ordered κ ν) (p : ν → Bool) : Option κ :=
  (m.entries.find? fun e => p e.2).map Prod.fst

variable [DecidableEq κ]

/-- Overwrites the entry of a key in its slot, or adds one at the end. -/
def put (k : κ) (v : ν) : List (κ × ν) → List (κ × ν)
  | [] => [(k, v)]
  | e :: rest => if e.1 = k then (k, v) :: rest else e :: put k v rest

theorem mem_keys_put {k a : κ} {v : ν} {es : List (κ × ν)} :
    a ∈ (put k v es).map Prod.fst ↔ a = k ∨ a ∈ es.map Prod.fst := by
  induction es with
  | nil => simp [put]
  | cons e rest ih =>
    by_cases h : e.1 = k
    · simp [put, h]
    · simp only [put, if_neg h, List.map_cons, List.mem_cons, ih]
      exact or_left_comm

theorem nodup_put {k : κ} {v : ν} {es : List (κ × ν)} (h : (es.map Prod.fst).Nodup) :
    ((put k v es).map Prod.fst).Nodup := by
  induction es with
  | nil => simp [put]
  | cons e rest ih =>
    simp only [List.map_cons, List.nodup_cons] at h
    by_cases he : e.1 = k
    · simpa [put, he] using ⟨he ▸ by simpa using h.1, h.2⟩
    · simp only [put, if_neg he, List.map_cons, List.nodup_cons]
      exact ⟨fun hm => (mem_keys_put.1 hm).elim he h.1, ih h.2⟩

/-- Entries with the last payload of each key at its first place. -/
def collapse (es : List (κ × ν)) : List (κ × ν) :=
  es.foldl (fun acc e => put e.1 e.2 acc) []

theorem nodup_foldl_put {acc : List (κ × ν)} (es : List (κ × ν)) (h : (acc.map Prod.fst).Nodup) :
    ((es.foldl (fun acc e => put e.1 e.2 acc) acc).map Prod.fst).Nodup := by
  induction es generalizing acc with
  | nil => exact h
  | cons e rest ih => exact ih (nodup_put h)

theorem nodup_collapse (es : List (κ × ν)) : ((collapse es).map Prod.fst).Nodup :=
  nodup_foldl_put es .nil

def insert (m : Ordered κ ν) (k : κ) (v : ν) : Ordered κ ν := ⟨put k v m.entries, nodup_put m.nodup⟩

def erase (m : Ordered κ ν) (k : κ) : Ordered κ ν where
  entries := m.entries.filter fun e => e.1 != k
  nodup := List.Nodup.sublist ((List.filter_sublist).map _) m.nodup

def get? (m : Ordered κ ν) (k : κ) : Option ν := m.entries.lookup k

def contains (m : Ordered κ ν) (k : κ) : Bool := (m.get? k).isSome

/-- Inserts, and hands out what was under the key. -/
def exchange (m : Ordered κ ν) (k : κ) (v : ν) : Option ν × Ordered κ ν := (m.get? k, m.insert k v)

/-- Erases, and hands out what was under the key. -/
def extract (m : Ordered κ ν) (k : κ) : Option ν × Ordered κ ν := (m.get? k, m.erase k)

@[simp] theorem entries_insert (m : Ordered κ ν) (k : κ) (v : ν) :
    (m.insert k v).entries = put k v m.entries := rfl

@[simp] theorem entries_erase (m : Ordered κ ν) (k : κ) :
    (m.erase k).entries = m.entries.filter fun e => e.1 != k := rfl

theorem lookup_cons_eq (a : κ) (e : κ × ν) (es : List (κ × ν)) :
    (e :: es).lookup a = if a = e.1 then some e.2 else es.lookup a := by
  obtain ⟨k, v⟩ := e
  rw [List.lookup_cons]
  by_cases h : a = k
  · subst h; simp
  · simp [h, beq_false_of_ne h]

theorem lookup_put (k a : κ) (v : ν) (es : List (κ × ν)) :
    (put k v es).lookup a = if a = k then some v else es.lookup a := by
  induction es with
  | nil => rw [put, lookup_cons_eq]
  | cons e rest ih =>
    by_cases hb : e.1 = k
    · by_cases ha : a = k <;> simp [put, lookup_cons_eq, hb, ha]
    · by_cases ha : a = e.1 <;> simp [put, lookup_cons_eq, hb, ha, ih]

theorem get?_insert (m : Ordered κ ν) (k a : κ) (v : ν) :
    (m.insert k v).get? a = if a = k then some v else m.get? a :=
  lookup_put k a v m.entries

theorem lookup_filter_ne (k a : κ) (es : List (κ × ν)) :
    (es.filter fun e => e.1 != k).lookup a = if a = k then none else es.lookup a := by
  induction es with
  | nil => simp
  | cons e rest ih =>
    by_cases hb : e.1 = k
    · rw [List.filter_cons_of_neg (by simp [hb]), ih, lookup_cons_eq, hb]
      split <;> rfl
    · by_cases ha : a = e.1 <;> simp [lookup_cons_eq, hb, ha, ih]

theorem get?_erase (m : Ordered κ ν) (k a : κ) :
    (m.erase k).get? a = if a = k then none else m.get? a :=
  lookup_filter_ne k a m.entries

theorem mem_entries_iff (m : Ordered κ ν) (k : κ) (v : ν) :
    (k, v) ∈ m.entries ↔ m.get? k = some v := by
  constructor
  · intro h
    obtain ⟨before, behind, hsplit⟩ := List.append_of_mem h
    have hnodup := m.nodup
    rw [hsplit, List.map_append, List.nodup_append] at hnodup
    refine List.lookup_eq_some_iff.2 ⟨before, behind, hsplit, fun e he => ?_⟩
    exact bne_iff_ne.2 (hnodup.2.2 e.1 (List.mem_map_of_mem he) k List.mem_cons_self).symm
  · intro h
    obtain ⟨before, behind, hsplit, -⟩ := List.lookup_eq_some_iff.1 h
    rw [hsplit]
    exact List.mem_append_right _ List.mem_cons_self

theorem contains_iff (m : Ordered κ ν) (k : κ) : m.contains k = true ↔ k ∈ m.keys := by
  rw [contains, get?, Option.isSome_iff_ne_none, ne_eq, List.lookup_eq_none_iff]
  simp [keys]

theorem contains_eq_false_iff (m : Ordered κ ν) (k : κ) :
    m.contains k = false ↔ m.get? k = none :=
  Option.isSome_eq_false_iff.trans Option.isNone_iff_eq_none

theorem map_fst_put (k : κ) (v : ν) (es : List (κ × ν)) :
    (put k v es).map Prod.fst =
      if k ∈ es.map Prod.fst then es.map Prod.fst else es.map Prod.fst ++ [k] := by
  induction es with
  | nil => simp [put]
  | cons e rest ih =>
    by_cases h : e.1 = k
    · simp [put, h]
    · have hk : k ≠ e.1 := fun hk => h hk.symm
      simp only [put, if_neg h, List.map_cons, ih, List.mem_cons, hk, false_or]
      split <;> simp

/-- A new entry goes to the end. -/
theorem put_of_not_mem {k : κ} {es : List (κ × ν)} (h : k ∉ es.map Prod.fst) (v : ν) :
    put k v es = es ++ [(k, v)] := by
  induction es with
  | nil => rfl
  | cons e rest ih =>
    rw [List.map_cons, List.mem_cons, not_or] at h
    rw [put, if_neg (Ne.symm h.1), ih h.2, List.cons_append]

theorem foldl_put_of_nodup {acc es : List (κ × ν)} (h : ((acc ++ es).map Prod.fst).Nodup) :
    es.foldl (fun acc e => put e.1 e.2 acc) acc = acc ++ es := by
  induction es generalizing acc with
  | nil => exact (List.append_nil acc).symm
  | cons e rest ih =>
    have hnew : e.1 ∉ acc.map Prod.fst := by
      rw [List.map_append, List.nodup_append] at h
      intro hmem
      exact h.2.2 e.1 hmem e.1 List.mem_cons_self rfl
    have happend : acc ++ e :: rest = acc ++ [(e.1, e.2)] ++ rest := by simp
    rw [happend] at h ⊢
    rw [List.foldl_cons, put_of_not_mem hnew, ih h]

/-- Entries with distinct keys stay as they are. -/
theorem collapse_of_nodup {es : List (κ × ν)} (h : (es.map Prod.fst).Nodup) : collapse es = es :=
  foldl_put_of_nodup h

/-- A new key goes to the end, a known one keeps its place. -/
theorem keys_insert (m : Ordered κ ν) (k : κ) (v : ν) :
    (m.insert k v).keys = if k ∈ m.keys then m.keys else m.keys ++ [k] :=
  map_fst_put k v m.entries

theorem keys_erase (m : Ordered κ ν) (k : κ) :
    (m.erase k).keys = m.keys.filter (· != k) := by
  simp [keys, List.filter_map, Function.comp_def]

end Ordered

end Opscript
