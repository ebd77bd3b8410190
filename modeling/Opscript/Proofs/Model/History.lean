import Mathlib.Data.List.InsertIdx
import Mathlib.Data.List.Perm.Subperm
import Opscript.Model

/-!
# Histories of a model

An `Edit` is a call that changes a model. `Model.history` lists the records that a run of calls
creates, also those that are gone again. `Tracks m made` relates a model to the records created so
far: its sequence is up to date, the created records are numbered from one up to the greatest id,
and the records of the model are among them, each at most once. Every call keeps this up
(`tracks_edit`), so it holds after every run (`tracks_edits`). Look-ups by id are right because of
it, as long as the ids do not run out.
-/

namespace Opscript

open scoped List

/-- A call that changes a model. -/
inductive Edit where
  | append (operation : Code) (arguments : List Code)
  | prepend (operation : Code) (arguments : List Code)
  | insert (index : Nat) (operation : Code) (arguments : List Code)
  | remove (id : RecordId)
  | replace (contents : List (Code × List Code))
  | clear

namespace Edit

/-- The operations and arguments that a call brings. -/
def contents : Edit → List (Code × List Code)
  | append operation arguments => [(operation, arguments)]
  | prepend operation arguments => [(operation, arguments)]
  | insert _ operation arguments => [(operation, arguments)]
  | remove _ => []
  | replace contents => contents
  | clear => []

/-- The plain list edit of a call: `new` is what it brings, and `gone` the position of what it
takes out. -/
def apply {α : Type} (e : Edit) (gone : Option Nat) (new l : List α) : List α :=
  match e with
  | append _ _ => l ++ new
  | prepend _ _ => new ++ l
  | insert index _ _ => l.take (min index l.length) ++ new ++ l.drop (min index l.length)
  | remove _ =>
    match gone with
    | some i => l.eraseIdx i
    | none => l
  | replace _ => new
  | clear => []

theorem insertIdx_eq_append {α : Type} (x : α) {l : List α} {i : Nat} (h : i ≤ l.length) :
    l.insertIdx i x = l.take i ++ [x] ++ l.drop i := by
  induction l generalizing i with
  | nil => rw [List.length_nil, Nat.le_zero] at h; subst h; rfl
  | cons a rest ih =>
    cases i with
    | zero => rfl
    | succ i =>
      rw [List.insertIdx_succ_cons, ih (Nat.le_of_succ_le_succ h)]
      rfl

theorem map_apply {α β : Type} (f : α → β) (e : Edit) (gone : Option Nat) (new l : List α) :
    (e.apply gone new l).map f = e.apply gone (new.map f) (l.map f) := by
  cases e with
  | append => exact List.map_append
  | prepend => exact List.map_append
  | insert => simp [apply, List.map_take, List.map_drop]
  | remove =>
    cases gone with
    | none => rfl
    | some i => exact (List.eraseIdx_map f l i).symm
  | replace => rfl
  | clear => rfl

/-- What stays and what is new are all that a list edit leaves. -/
theorem apply_subperm {α : Type} {new l all : List α} (h : l <+~ all) (e : Edit)
    (gone : Option Nat) : e.apply gone new l <+~ all ++ new := by
  have hnew : l ++ new <+~ all ++ new := (List.subperm_append_right new).2 h
  have hnone : new <+~ all ++ new := (List.sublist_append_right all new).subperm
  have hold : l <+~ all ++ new := h.trans (List.sublist_append_left all new).subperm
  cases e with
  | append => exact hnew
  | prepend => exact List.perm_append_comm.subperm.trans hnew
  | insert index =>
    refine List.Subperm.trans (List.Perm.subperm ?_) hnew
    have hsplit := List.take_append_drop (min index l.length) l
    calc l.take (min index l.length) ++ new ++ l.drop (min index l.length)
        _ ~ l.take (min index l.length) ++ (l.drop (min index l.length) ++ new) := by
          rw [List.append_assoc]
          exact List.perm_append_comm.append_left _
        _ = l ++ new := by rw [← List.append_assoc, hsplit]
  | remove =>
    cases gone with
    | none => exact hold
    | some i => exact (List.eraseIdx_sublist l i).subperm.trans hold
  | replace => exact hnone
  | clear => exact List.nil_subperm

end Edit

/-! ## Runs -/

namespace Model

/-- The model after a call. -/
def edit (m : Model) : Edit → Model
  | .append operation arguments => (m.append operation arguments).2
  | .prepend operation arguments => (m.prepend operation arguments).2
  | .insert index operation arguments => (m.insert index operation arguments).2
  | .remove id => (m.remove id).2
  | .replace contents => m.replace contents
  | .clear => m.clear

/-- The model after calls, one after the other. -/
def edits (m : Model) (es : List Edit) : Model := es.foldl edit m

/-- The records that a call creates, with the ids that it gives back. -/
def created (m : Model) : Edit → List Record
  | .append operation arguments => [⟨(m.append operation arguments).1, operation, arguments⟩]
  | .prepend operation arguments => [⟨(m.prepend operation arguments).1, operation, arguments⟩]
  | .insert index operation arguments =>
    [⟨(m.insert index operation arguments).1, operation, arguments⟩]
  | .remove _ => []
  | .replace contents => (m.replace contents).records
  | .clear => []

/-- The position of the record that a call takes out. -/
def gone (m : Model) : Edit → Option Nat
  | .remove id => m.index? id
  | _ => none

/-- All records that calls create, the oldest first. -/
def history (m : Model) : List Edit → List Record
  | [] => []
  | e :: rest => m.created e ++ history (m.edit e) rest

theorem contents_created (m : Model) (e : Edit) :
    (m.created e).map Record.content = e.contents := by
  cases e with
  | replace contents => exact contents_replace m contents
  | _ => rfl

/-- A call edits the list of records and touches no record. -/
theorem records_edit (m : Model) (e : Edit) :
    (m.edit e).records = e.apply (m.gone e) (m.created e) m.records := by
  cases e with
  | append operation arguments => exact records_append m operation arguments
  | prepend operation arguments => exact records_prepend m operation arguments
  | insert index operation arguments => exact Edit.insertIdx_eq_append _ (Nat.min_le_right _ _)
  | remove id =>
    cases h : m.index? id with
    | none => simp only [edit, remove_of_none h, Edit.apply, gone, h]
    | some i => simp only [edit, remove_of_some h, recompute, Edit.apply, gone, h]
  | replace => rfl
  | clear => rfl

theorem contents_edit (m : Model) (e : Edit) :
    (m.edit e).contents = e.apply (m.gone e) e.contents m.contents := by
  unfold contents
  rw [records_edit, Edit.map_apply, contents_created]

theorem sequence_edit {m : Model} (h : m.sequence = encode m.records) (e : Edit) :
    (m.edit e).sequence = encode (m.edit e).records := by
  cases e with
  | remove id =>
    cases hid : m.index? id with
    | none => simpa only [edit, remove_of_none hid] using h
    | some i => simp only [edit, remove_of_some hid, recompute]
  | _ => rfl

/-! ## Ids -/

/-- The records `made` were created one after the other, and `next` is the id of the one that
follows. -/
def Numbered (next : RecordId) (made : List Record) : Prop :=
  next.val = min (made.length + 1) RecordId.max ∧
    ∀ k r, made[k]? = some r → r.id.val = min (k + 1) RecordId.max

theorem Numbered.create {next : RecordId} {made : List Record} (h : Numbered next made)
    (operation : Code) (arguments : List Code) :
    Numbered next.next (made ++ [⟨next, operation, arguments⟩]) := by
  constructor
  · rw [RecordId.val_next, h.1, List.length_append, List.length_singleton]
    omega
  · intro k r hk
    rcases Nat.lt_or_ge k made.length with hlt | hge
    · rw [List.getElem?_append_left hlt] at hk
      exact h.2 k r hk
    · obtain ⟨hk0, rfl⟩ := List.getElem?_eq_some_iff.1 hk
      rw [List.length_append, List.length_singleton] at hk0
      obtain rfl : k = made.length := by omega
      simpa using h.1

theorem numbered_foldl_push {m : Model} {made : List Record}
    (h : Numbered m.nextId (made ++ m.records)) (contents : List (Code × List Code)) :
    Numbered (contents.foldl push m).nextId (made ++ (contents.foldl push m).records) := by
  induction contents generalizing m with
  | nil => exact h
  | cons c rest ih =>
    refine ih (m := m.push c) ?_
    have := h.create c.1 c.2
    rwa [List.append_assoc] at this

theorem numbered_edit {m : Model} {made : List Record} (h : Numbered m.nextId made) (e : Edit) :
    Numbered (m.edit e).nextId (made ++ m.created e) := by
  cases e with
  | append operation arguments => exact h.create operation arguments
  | prepend operation arguments => exact h.create operation arguments
  | insert _ operation arguments => exact h.create operation arguments
  | remove id =>
    rw [created, List.append_nil]
    cases hid : m.index? id with
    | none => simpa only [edit, remove_of_none hid] using h
    | some i => simpa only [edit, remove_of_some hid, recompute] using h
  | replace contents =>
    refine numbered_foldl_push (m := { m with records := [] }) ?_ contents
    rwa [List.append_nil]
  | clear => rwa [created, List.append_nil]

/-- Ids are given once, as long as they do not run out. -/
theorem Numbered.nodup {next : RecordId} {made : List Record} (h : Numbered next made)
    (hmax : made.length ≤ RecordId.max) : (made.map Record.id).Nodup := by
  refine List.pairwise_map.2 (List.pairwise_iff_getElem.2 fun i j hi hj hij heq => ?_)
  have h1 := h.2 i made[i] (List.getElem?_eq_getElem hi)
  have h2 := h.2 j made[j] (List.getElem?_eq_getElem hj)
  rw [heq] at h1
  omega

/-! ## The invariant -/

/-- A model that came about by creating `made`. -/
structure Tracks (m : Model) (made : List Record) : Prop where
  sequence : m.sequence = encode m.records
  numbered : Numbered m.nextId made
  /-- The records of the model are among the created ones, each once. -/
  live : m.records <+~ made

theorem tracks_empty : Tracks empty [] :=
  ⟨rfl, ⟨rfl, fun k r hk => by cases hk⟩, List.nil_subperm⟩

theorem tracks_edit {m : Model} {made : List Record} (h : Tracks m made) (e : Edit) :
    Tracks (m.edit e) (made ++ m.created e) where
  sequence := sequence_edit h.sequence e
  numbered := numbered_edit h.numbered e
  live := by
    rw [records_edit]
    exact Edit.apply_subperm h.live e _

theorem tracks_edits {m : Model} {made : List Record} (h : Tracks m made) (es : List Edit) :
    Tracks (m.edits es) (made ++ m.history es) := by
  induction es generalizing m made with
  | nil => rwa [history, List.append_nil]
  | cons e rest ih =>
    rw [history, ← List.append_assoc]
    exact ih (tracks_edit h e)

/-- No two records of the model have the same id. -/
theorem Tracks.nodup {m : Model} {made : List Record} (h : Tracks m made)
    (hmax : made.length ≤ RecordId.max) : (m.records.map Record.id).Nodup := by
  obtain ⟨l, hperm, hsub⟩ := h.live
  exact (hperm.map Record.id).nodup_iff.1 ((h.numbered.nodup hmax).sublist (hsub.map Record.id))

/-! ## Look-ups -/

/-- A record is found at its position, if ids are unique. -/
theorem index?_eq_some_iff {m : Model} (h : (m.records.map Record.id).Nodup) {id : RecordId}
    {i : Nat} : m.index? id = some i ↔ ∃ r, m.records[i]? = some r ∧ r.id = id := by
  unfold index?
  rw [List.findIdx?_eq_some_iff_getElem]
  constructor
  · rintro ⟨hi, hid, -⟩
    exact ⟨m.records[i], List.getElem?_eq_getElem hi, of_decide_eq_true hid⟩
  · rintro ⟨r, hr, rfl⟩
    obtain ⟨hi, rfl⟩ := List.getElem?_eq_some_iff.1 hr
    refine ⟨hi, decide_eq_true rfl, fun j hji hj => ?_⟩
    have hne := List.pairwise_iff_getElem.1 (List.pairwise_map.1 h) j i
      (Nat.lt_trans hji hi) hi hji
    exact hne (of_decide_eq_true hj)

theorem get?_eq_bind (m : Model) (id : RecordId) :
    m.get? id = (m.index? id).bind fun i => m.records[i]? :=
  List.find?_eq_bind_findIdx?_getElem?

/-- The record that is taken out is the one that is found. -/
theorem fst_remove (m : Model) (id : RecordId) : (m.remove id).1 = m.get? id := by
  rw [get?_eq_bind]
  cases h : m.index? id with
  | none => rw [remove_of_none h]; rfl
  | some i => rw [remove_of_some h]; rfl

theorem isSome_get? (m : Model) (id : RecordId) : (m.get? id).isSome = (m.index? id).isSome := by
  unfold get? index?
  rw [Bool.eq_iff_iff, List.find?_isSome, List.findIdx?_isSome, List.any_eq_true]

/-- A model after a run of calls from the empty one. Its sequence is up to date. A further call
makes the plain list edit, on the records and on their contents. The records were created with the
ids from one on, up to the greatest one, which is given to all that follow; as long as they are no
more than that, no id is given twice, not even after its record is gone, and look-ups by id are
right. -/
theorem edits_from_empty (es : List Edit) :
    let m := empty.edits es
    let made := empty.history es
    m.sequence = encode m.records ∧
      (∀ e, (m.edit e).records = e.apply (m.gone e) (m.created e) m.records ∧
        (m.edit e).contents = e.apply (m.gone e) e.contents m.contents) ∧
      (∀ k r, made[k]? = some r → r.id.val = min (k + 1) RecordId.max) ∧
      (∀ r ∈ m.records, r ∈ made) ∧
      (made.length ≤ RecordId.max →
        (made.map Record.id).Nodup ∧ (∀ r ∈ made, 0 < r.id.val) ∧
          (∀ id i, m.index? id = some i ↔ ∃ r, m.records[i]? = some r ∧ r.id = id) ∧
          (∀ id i, m.index? id = some i → m.get? id = m.records[i]?) ∧
          ∀ id, (m.remove id).1.isSome = (m.index? id).isSome) := by
  intro m made
  have h : Tracks m made := tracks_edits tracks_empty es
  refine ⟨h.sequence, fun e => ⟨records_edit m e, contents_edit m e⟩, h.numbered.2,
    fun r hr => h.live.subset hr, fun hmax => ⟨h.numbered.nodup hmax, fun r _ => r.id.pos,
      fun id i => index?_eq_some_iff (h.nodup hmax), fun id i hi => ?_, fun id => ?_⟩⟩
  · rw [get?_eq_bind, hi]
    rfl
  · rw [fst_remove, isSome_get?]

/-- Ids go on after a record is taken out and after all are replaced. -/
theorem edits_from_empty_replace :
    let es : List Edit := [.append 65 [97], .prepend 66 [], .remove .first,
      .replace [(65, []), (66, [98])], .insert 1 67 []]
    (empty.history es).length ≤ RecordId.max ∧ ((empty.history es).map Record.id).Nodup ∧
      (empty.edits es).records.map (fun r => r.id.val) = [3, 5, 4] := by
  intro es
  have hmax : (empty.history es).length ≤ RecordId.max := by decide
  exact ⟨hmax, ((edits_from_empty es).2.2.2.2 hmax).1, rfl⟩

end Model

end Opscript
