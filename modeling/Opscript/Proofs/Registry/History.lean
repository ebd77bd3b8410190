import Mathlib.Data.List.DropRight
import Opscript.Proofs.Value.Equality
import Opscript.Registry

/-!
# Registries by their history

What a registry holds after any inserts, removals and clearings can be read off these changes
alone. Only what comes after the latest removal of a key counts (`since`): the key holds the payload
of the last insert there (`held?`) and stands where the first one there puts it (`entered?`).
`Recalls` says that an ordered map is what its changes make it; each change preserves it
(`Recalls.change`), and so does any run of them (`recalls_changes`). The reverse look-up then finds
the key that came first (`First`) of those whose payload passes.
-/

namespace Opscript.Ordered

variable {κ ν : Type}

/-- A call that changes a registry. -/
inductive Change (κ ν : Type) where
  | insert (key : κ) (payload : ν)
  | remove (key : κ)
  | clear

variable [DecidableEq κ]

namespace Change

/-- What the change puts under the key. -/
def payload? (k : κ) : Change κ ν → Option ν
  | insert a v => if k = a then some v else none
  | remove _ => none
  | clear => none

/-- Nothing is under the key after the change. -/
def removes (k : κ) : Change κ ν → Bool
  | insert _ _ => false
  | remove a => k = a
  | clear => true

end Change

/-- The map after the change, behind what the call returns. -/
def change (m : Ordered κ ν) : Change κ ν → Option ν × Ordered κ ν
  | .insert k v => m.exchange k v
  | .remove k => m.extract k
  | .clear => (none, empty)

/-- Makes the changes one after the other. -/
def changes (m : Ordered κ ν) (cs : List (Change κ ν)) : Ordered κ ν :=
  cs.foldl (fun m c => (m.change c).2) m

theorem changes_concat (m : Ordered κ ν) (cs : List (Change κ ν)) (c : Change κ ν) :
    m.changes (cs ++ [c]) = ((m.changes cs).change c).2 :=
  List.foldl_concat ..

/-! ## What the changes say of a key -/

/-- The changes after the latest one that removes the key. -/
def since (k : κ) (cs : List (Change κ ν)) : List (Change κ ν) := cs.rtakeWhile (!·.removes k)

/-- The payload of the latest insert under the key, unless it was removed after that. -/
def held? (k : κ) (cs : List (Change κ ν)) : Option ν :=
  ((since k cs).filterMap (·.payload? k)).getLast?

/-- The place among all changes of the first insert under the key since it was removed. -/
def entered? (k : κ) (cs : List (Change κ ν)) : Option Nat :=
  ((since k cs).findIdx? fun c => (c.payload? k).isSome).map
    (cs.length - (since k cs).length + ·)

/-- Both keys are live, and the first one has been so for longer. -/
def Before (cs : List (Change κ ν)) (a b : κ) : Prop :=
  ∃ i j, entered? a cs = some i ∧ entered? b cs = some j ∧ i < j

/-- The key is live and its payload passes, and of no key before it this is true. -/
def First (cs : List (Change κ ν)) (p : ν → Bool) (k : κ) : Prop :=
  (∃ v, held? k cs = some v ∧ p v = true) ∧
    ∀ a v, held? a cs = some v → p v = true → a = k ∨ Before cs k a

theorem since_concat (k : κ) (cs : List (Change κ ν)) (c : Change κ ν) :
    since k (cs ++ [c]) = if c.removes k then [] else since k cs ++ [c] := by
  rw [since, List.rtakeWhile_concat]
  cases c.removes k <;> rfl

theorem held?_concat (k : κ) (cs : List (Change κ ν)) (c : Change κ ν) :
    held? k (cs ++ [c]) = if c.removes k then none else (c.payload? k).or (held? k cs) := by
  rw [held?, since_concat]
  cases c.removes k with
  | true => rfl
  | false =>
    rw [if_neg Bool.false_ne_true, if_neg Bool.false_ne_true, List.filterMap_append,
      List.getLast?_append, held?]
    cases hc : c.payload? k <;> simp [hc]

theorem entered?_concat (k : κ) (cs : List (Change κ ν)) (c : Change κ ν) :
    entered? k (cs ++ [c]) =
      if c.removes k then none
      else (entered? k cs).or (if (c.payload? k).isSome then some cs.length else none) := by
  rw [entered?, since_concat]
  cases c.removes k with
  | true => rfl
  | false =>
    have hlen : (since k cs).length ≤ cs.length := (List.rtakeWhile_suffix ..).length_le
    rw [if_neg Bool.false_ne_true, if_neg Bool.false_ne_true, List.findIdx?_append, entered?,
      List.length_append, List.length_append, Nat.add_sub_add_right]
    cases (since k cs).findIdx? fun c => (c.payload? k).isSome with
    | some i => rfl
    | none =>
      -- If the change is the first insert, its place is all that was skipped and all that was not.
      cases hc : (c.payload? k).isSome <;> simp [List.findIdx?_cons, hc, Nat.sub_add_cancel hlen]

theorem held?_insert (k a : κ) (v : ν) (cs : List (Change κ ν)) :
    held? k (cs ++ [.insert a v]) = if k = a then some v else held? k cs := by
  rw [held?_concat, Change.removes, if_neg Bool.false_ne_true, Change.payload?]
  split
  · exact Option.some_or
  · exact Option.none_or

theorem held?_remove (k a : κ) (cs : List (Change κ ν)) :
    held? k (cs ++ [.remove a]) = if k = a then none else held? k cs := by
  rw [held?_concat, Change.removes, Change.payload?, Option.none_or]
  simp only [decide_eq_true_eq]

theorem entered?_remove (k a : κ) (cs : List (Change κ ν)) :
    entered? k (cs ++ [.remove a]) = if k = a then none else entered? k cs := by
  rw [entered?_concat, Change.removes, Change.payload?, Option.isSome_none,
    if_neg Bool.false_ne_true, Option.or_none]
  simp only [decide_eq_true_eq]

/-- A key that has a place keeps it when there is an insert. -/
theorem entered?_insert_of_some {k a : κ} {v : ν} {cs : List (Change κ ν)} {i : Nat}
    (h : entered? k cs = some i) : entered? k (cs ++ [.insert a v]) = some i := by
  rw [entered?_concat, Change.removes, if_neg Bool.false_ne_true, h, Option.some_or]

/-- A key that has no place gets the last one when it is inserted. -/
theorem entered?_insert_of_none {k : κ} {v : ν} {cs : List (Change κ ν)}
    (h : entered? k cs = none) : entered? k (cs ++ [.insert k v]) = some cs.length := by
  rw [entered?_concat, Change.removes, if_neg Bool.false_ne_true, h, Option.none_or,
    Change.payload?, if_pos rfl, Option.isSome_some, if_pos rfl]

/-- What came, came at a change that was made. -/
theorem lt_of_entered? {k : κ} {cs : List (Change κ ν)} {i : Nat} (h : entered? k cs = some i) :
    i < cs.length := by
  induction cs using List.reverseRecOn with
  | nil => nomatch h
  | append_singleton cs c ih =>
    rw [entered?_concat] at h
    rw [List.length_append, List.length_singleton]
    split at h
    · nomatch h
    · rcases Option.or_eq_some_iff.1 h with hk | ⟨-, hc⟩
      · exact Nat.lt_succ_of_lt (ih hk)
      · split at hc
        · exact Option.some.inj hc ▸ Nat.lt_succ_self _
        · nomatch hc

/-- A key has a place exactly if it holds a payload. -/
theorem isSome_entered? (k : κ) (cs : List (Change κ ν)) :
    (entered? k cs).isSome = (held? k cs).isSome := by
  induction cs using List.reverseRecOn with
  | nil => rfl
  | append_singleton cs c ih =>
    rw [entered?_concat, held?_concat]
    split
    · rfl
    · rw [Option.isSome_or, Option.isSome_or, ih, Bool.or_comm]
      cases (c.payload? k).isSome <;> rfl

theorem held?_eq_none_iff {k : κ} {cs : List (Change κ ν)} :
    held? k cs = none ↔ entered? k cs = none := by
  rw [← Option.isNone_iff_eq_none, ← Option.isNone_iff_eq_none, ← Option.not_isSome,
    ← Option.not_isSome, isSome_entered?]

theorem Before.asymm {cs : List (Change κ ν)} {a b : κ} (h : Before cs a b) : ¬Before cs b a := by
  obtain ⟨i, j, hi, hj, hij⟩ := h
  rintro ⟨j', i', hj', hi', hji⟩
  rw [hj, Option.some.injEq] at hj'
  rw [hi, Option.some.injEq] at hi'
  omega

/-! ## The map and its changes -/

/-- The map is what the changes make of an empty one. -/
structure Recalls (m : Ordered κ ν) (cs : List (Change κ ν)) : Prop where
  nodup : m.keys.Nodup
  /-- A key is live if it was inserted and not removed since. -/
  live (k : κ) : k ∈ m.keys ↔ (held? k cs).isSome = true
  /-- A live key holds the payload of its latest insert. -/
  payload (k : κ) : m.get? k = held? k cs
  /-- The entries are what the keys hold. -/
  entry (k : κ) (v : ν) : (k, v) ∈ m.entries ↔ held? k cs = some v
  /-- The keys stand in the order in which they came in. -/
  order : m.keys.Pairwise (Before cs)
  /-- An insert returns what the key held. -/
  inserted (k : κ) (v : ν) : (m.change (.insert k v)).1 = held? k cs
  /-- So does a removal. -/
  removed (k : κ) : (m.change (.remove k)).1 = held? k cs
  /-- Overwriting keeps the slot. -/
  overwritten (k : κ) (v : ν) (h : k ∈ m.keys) : (m.change (.insert k v)).2.keys = m.keys
  /-- Removing keeps the others in their order. -/
  others (k : κ) : (m.change (.remove k)).2.keys = m.keys.filter (· != k)

/-- Payloads and order say the rest. -/
theorem Recalls.of_payload_of_order {m : Ordered κ ν} {cs : List (Change κ ν)}
    (payload : ∀ k, m.get? k = held? k cs) (order : m.keys.Pairwise (Before cs)) :
    Recalls m cs where
  nodup := m.nodup
  live k := by rw [← contains_iff, contains, payload]
  payload := payload
  entry k v := by rw [mem_entries_iff, payload]
  order := order
  inserted k _ := payload k
  removed k := payload k
  overwritten k v h := (keys_insert m k v).trans (if_pos h)
  others k := keys_erase m k

theorem recalls_empty : Recalls (empty : Ordered κ ν) [] :=
  .of_payload_of_order (fun _ => rfl) .nil

section

variable {m : Ordered κ ν} {cs : List (Change κ ν)}

theorem get?_change (h : Recalls m cs) (c : Change κ ν) (k : κ) :
    (m.change c).2.get? k = held? k (cs ++ [c]) := by
  cases c with
  | insert a v =>
    rw [held?_insert, ← h.payload]
    exact get?_insert m a k v
  | remove a =>
    rw [held?_remove, ← h.payload]
    exact get?_erase m a k
  | clear =>
    rw [held?_concat]
    rfl

/-- Inserting leaves the keys that were there in their order. -/
theorem Before.insert {a b k : κ} {v : ν} (h : Before cs a b) :
    Before (cs ++ [.insert k v]) a b := by
  obtain ⟨i, j, hi, hj, hij⟩ := h
  exact ⟨i, j, entered?_insert_of_some hi, entered?_insert_of_some hj, hij⟩

/-- A key that comes in comes behind those that are there. -/
theorem before_insert {a k : κ} {v : ν} (ha : (held? a cs).isSome = true)
    (hk : held? k cs = none) : Before (cs ++ [.insert k v]) a k := by
  rw [← isSome_entered?] at ha
  obtain ⟨i, hi⟩ := Option.isSome_iff_exists.1 ha
  exact ⟨i, cs.length, entered?_insert_of_some hi,
    entered?_insert_of_none (held?_eq_none_iff.1 hk), lt_of_entered? hi⟩

/-- Removing a key leaves the others in their order. -/
theorem Before.remove {a b k : κ} (h : Before cs a b) (ha : a ≠ k) (hb : b ≠ k) :
    Before (cs ++ [.remove k]) a b := by
  obtain ⟨i, j, hi, hj, hij⟩ := h
  refine ⟨i, j, ?_, ?_, hij⟩
  · rw [entered?_remove, if_neg ha, hi]
  · rw [entered?_remove, if_neg hb, hj]

theorem pairwise_change (h : Recalls m cs) (c : Change κ ν) :
    (m.change c).2.keys.Pairwise (Before (cs ++ [c])) := by
  cases c with
  | insert k v =>
    change (m.insert k v).keys.Pairwise _
    have hkept : m.keys.Pairwise (Before (cs ++ [.insert k v])) := h.order.imp Before.insert
    rw [keys_insert]
    split
    · exact hkept
    · rename_i hk
      have hnew : held? k cs = none := by
        rw [h.live] at hk
        simpa using hk
      refine List.pairwise_append.2 ⟨hkept, List.pairwise_singleton .., ?_⟩
      intro a ha b hb
      rw [List.mem_singleton.1 hb]
      exact before_insert ((h.live a).1 ha) hnew
  | remove k =>
    change (m.erase k).keys.Pairwise _
    rw [keys_erase]
    refine (h.order.filter (· != k)).imp_of_mem ?_
    intro a b ha hb hab
    have hne : ∀ {x}, x ∈ m.keys.filter (· != k) → x ≠ k :=
      fun hx => bne_iff_ne.1 (List.mem_filter.1 hx).2
    exact hab.remove (hne ha) (hne hb)
  | clear => exact .nil

/-- One more change keeps the map what its changes make it. -/
theorem Recalls.change (h : Recalls m cs) (c : Change κ ν) :
    Recalls (m.change c).2 (cs ++ [c]) :=
  .of_payload_of_order (get?_change h c) (pairwise_change h c)

end

/-- A map that was empty is what all its changes make it. -/
theorem recalls_changes (cs : List (Change κ ν)) : Recalls (empty.changes cs) cs := by
  induction cs using List.reverseRecOn with
  | nil => exact recalls_empty
  | append_singleton cs c ih =>
    rw [changes_concat]
    exact ih.change c

-- A key that is overwritten stays where it is, and one that was removed comes back at the end.
example :
    let cs : List (Change Nat Char) :=
      [.insert 1 'a', .insert 2 'b', .insert 3 'c', .insert 2 'd', .remove 1, .insert 1 'e']
    (empty.changes cs).entries = [(2, 'd'), (3, 'c'), (1, 'e')] := rfl

/-! ## The reverse look-up -/

/-- A reverse look-up with the test `p` answers by the changes. -/
structure Finds (answer : Option κ) (cs : List (Change κ ν)) (p : ν → Bool) : Prop where
  /-- It finds the first key whose payload passes. -/
  found (k : κ) : answer = some k ↔ First cs p k
  /-- It finds none exactly if no payload passes. -/
  missed : answer = none ↔ ∀ k v, held? k cs = some v → p v = false

section

variable {m : Ordered κ ν} {cs : List (Change κ ν)} {p : ν → Bool}

theorem First.unique {a b : κ} (ha : First cs p a) (hb : First cs p b) : a = b := by
  obtain ⟨⟨v, hv, hpv⟩, hfirst⟩ := ha
  obtain ⟨⟨w, hw, hpw⟩, hfirst'⟩ := hb
  rcases hfirst b w hw hpw with h | h
  · exact h.symm
  · rcases hfirst' a v hv hpv with h' | h'
    · exact h'
    · exact absurd h' h.asymm

theorem first_of_keyOf? (h : Recalls m cs) {k : κ} (hk : m.keyOf? p = some k) : First cs p k := by
  obtain ⟨⟨k, v⟩, hfind, rfl⟩ := Option.map_eq_some_iff.1 hk
  obtain ⟨hpv, before, behind, hsplit, hfail⟩ := List.find?_eq_some_iff_append.1 hfind
  have hmem : (k, v) ∈ m.entries := List.mem_of_find?_eq_some hfind
  refine ⟨⟨v, (h.entry k v).1 hmem, hpv⟩, fun a w ha hpw => ?_⟩
  have horder := h.order
  rw [keys, hsplit, List.map_append, List.map_cons, List.pairwise_append, List.pairwise_cons]
    at horder
  rw [← h.entry, hsplit, List.mem_append, List.mem_cons] at ha
  rcases ha with hbefore | heq | hbehind
  · have hfailed : p w = false := by simpa using hfail _ hbefore
    exact absurd hpw (Bool.eq_false_iff.1 hfailed)
  · exact .inl (congrArg Prod.fst heq)
  · exact .inr (horder.2.1.1 a (List.mem_map_of_mem hbehind))

theorem keyOf?_eq_none_iff (h : Recalls m cs) :
    m.keyOf? p = none ↔ ∀ k v, held? k cs = some v → p v = false := by
  rw [keyOf?, Option.map_eq_none_iff, List.find?_eq_none]
  constructor
  · intro hnone k v hv
    exact Bool.eq_false_iff.2 (hnone (k, v) ((h.entry k v).2 hv))
  · intro hfail e he
    exact Bool.eq_false_iff.1 (hfail e.1 e.2 ((h.entry e.1 e.2).1 he))

theorem finds_keyOf? (h : Recalls m cs) : Finds (m.keyOf? p) cs p where
  found k := by
    refine ⟨first_of_keyOf? h, fun hk => ?_⟩
    -- There is an answer, since the key passes; and only one key is first.
    cases hanswer : m.keyOf? p with
    | some a => rw [(first_of_keyOf? h hanswer).unique hk]
    | none =>
      obtain ⟨v, hv, hpv⟩ := hk.1
      rw [(keyOf?_eq_none_iff h).1 hanswer k v hv] at hpv
      nomatch hpv
  missed := keyOf?_eq_none_iff h

end

end Opscript.Ordered

namespace Opscript

open Ordered

/-- No code is found for a value that does not equal itself. -/
theorem codeOf?_of_ne_self (m : Values) {v : Value} (h : (v == v) = false) :
    m.codeOf? v = none := by
  rw [Values.codeOf?, keyOf?, Option.map_eq_none_iff, List.find?_eq_none]
  intro e _
  rw [Value.beq_self_eq_nanFree] at h
  exact Bool.eq_false_iff.1 (Value.beq_eq_false_of_not_nanFree h e.2)

/-- Each registry is what its inserts, removals and clearings make it, and the reverse look-ups of
values and labels find the first key that holds the payload. A value with a NaN in it is never
found. -/
theorem registries_recall :
    (∀ cs : List (Change Code Callback), Recalls (empty.changes cs : Operations) cs) ∧
    (∀ cs : List (Change Code Value), Recalls (empty.changes cs : Values) cs ∧
      ∀ v, Finds (Values.codeOf? (empty.changes cs) v) cs (· == v) ∧ (v == v) = v.nanFree ∧
        ((v == v) = false → Values.codeOf? (empty.changes cs) v = none)) ∧
    (∀ cs : List (Change String Code), Recalls (empty.changes cs : Labels) cs ∧
      ∀ c, Finds (Labels.labelOf? (empty.changes cs) c) cs (· == c)) := by
  refine ⟨recalls_changes, fun cs => ?_, fun cs => ?_⟩
  · have hm : Recalls (empty.changes cs : Values) cs := recalls_changes cs
    exact ⟨hm, fun v => ⟨finds_keyOf? hm, v.beq_self_eq_nanFree, codeOf?_of_ne_self _⟩⟩
  · have hm : Recalls (empty.changes cs : Labels) cs := recalls_changes cs
    exact ⟨hm, fun c => finds_keyOf? hm⟩

/-- The code holds an array with a NaN in it, and no code is found for this array. -/
theorem registries_recall_nan :
    let v : Value := .array [.float (Float.ofBits 0x7FF8000000000000)]
    (v == v) = false ∧ held? 65 [.insert 66 .null, .insert (65 : Code) v, .remove 66] = some v ∧
      Values.codeOf? (empty.changes [.insert 66 .null, .insert 65 v, .remove 66]) v = none := by
  refine ⟨by decide +kernel, rfl, ?_⟩
  exact ((registries_recall.2.1 _).2 _).2.2 (by decide +kernel)

end Opscript
