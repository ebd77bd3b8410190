import Opscript.Proofs.Model.History

/-!
# Records that are taken out

The id of a new record is one that no record of the model has, as long as the ids do not run out.
So the new record is what is found under its id, and taking it out leaves the model as it was, but
for the next id (`remove_insert`). An id is `Gone` if its record was created and is not in the model
any more. No call brings it back, since every record that is created later has another one
(`gone_edit`), so it is gone for the rest of every run (`gone_edits`).
-/

namespace Opscript.Model

variable {m : Model} {made : List Record} {id : RecordId}

theorem index?_eq_none_iff : m.index? id = none ↔ id ∉ m.records.map Record.id := by
  simp [index?, List.findIdx?_eq_none_iff]

/-- No record of the model has the id that is handed out next. -/
theorem Tracks.nextId_not_mem (h : Tracks m made) (hroom : made.length < RecordId.max) :
    m.nextId ∉ m.records.map Record.id := by
  have hnodup := (h.numbered.create 0 []).nodup (by simp; omega)
  rw [List.map_append, List.nodup_append] at hnodup
  intro hmem
  obtain ⟨r, hr, hid⟩ := List.mem_map.1 hmem
  exact hnodup.2.2 _ (List.mem_map_of_mem (h.live.subset hr)) _ (by simp) hid

/-- Taking out what was just put in. -/
theorem remove_insert (h : Tracks m made) (hroom : made.length < RecordId.max) (index : Nat)
    (operation : Code) (arguments : List Code) :
    (m.insert index operation arguments).2.remove m.nextId =
      (some ⟨m.nextId, operation, arguments⟩, { m with nextId := m.nextId.next }) := by
  have hnodup : ((m.insert index operation arguments).2.records.map Record.id).Nodup := by
    refine (tracks_edit h (.insert index operation arguments)).nodup ?_
    simp [created]
    omega
  have hat : (m.insert index operation arguments).2.records[min index m.size]? =
      some ⟨m.nextId, operation, arguments⟩ := by
    rw [records_insert, List.getElem?_insertIdx_self]
    exact if_pos (Nat.min_le_right index m.size)
  rw [remove_of_some ((index?_eq_some_iff hnodup).2 ⟨_, hat, rfl⟩), hat, records_insert,
    List.eraseIdx_insertIdx_self]
  simp [recompute, insert, create, h.sequence]

/-- The record of this id was created, and is not in the model any more. -/
structure Gone (m : Model) (made : List Record) (id : RecordId) : Prop where
  made : id ∈ made.map Record.id
  absent : id ∉ m.records.map Record.id

theorem gone_edit (h : Tracks m made) (hgone : Gone m made id) (e : Edit)
    (hmax : (made ++ m.created e).length ≤ RecordId.max) :
    Gone (m.edit e) (made ++ m.created e) id where
  made := by
    rw [List.map_append]
    exact List.mem_append_left _ hgone.made
  absent := by
    have hnodup := (numbered_edit h.numbered e).nodup hmax
    rw [List.map_append, List.nodup_append] at hnodup
    intro hmem
    obtain ⟨r, hr, rfl⟩ := List.mem_map.1 hmem
    rw [records_edit] at hr
    rcases List.mem_append.1 ((Edit.apply_subperm (List.Subperm.refl _) e _).subset hr) with
      hold | hnew
    · exact hgone.absent (List.mem_map_of_mem hold)
    · exact hnodup.2.2 _ hgone.made _ (List.mem_map_of_mem hnew) rfl

theorem gone_edits (h : Tracks m made) (hgone : Gone m made id) (es : List Edit)
    (hmax : (made ++ m.history es).length ≤ RecordId.max) :
    Gone (m.edits es) (made ++ m.history es) id := by
  induction es generalizing m made with
  | nil => rwa [history, List.append_nil]
  | cons e rest ih =>
    rw [history, ← List.append_assoc] at hmax ⊢
    refine ih (tracks_edit h e) (gone_edit h hgone e ?_) hmax
    rw [List.length_append] at hmax
    omega

end Opscript.Model
