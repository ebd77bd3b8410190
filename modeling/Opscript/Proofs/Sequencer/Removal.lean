import Opscript.Proofs.Model.Removal
import Opscript.Proofs.Sequencer.Course

/-!
# Adding and removing records

`edits` are the calls to the model that a request comes to, and `made` the records that a run of
requests creates by them. The model tracks just these records. So, as long as the ids do not run
out, removing a record right after it was added leaves everything as it was but for the next id, and
from then on no request finds its id, whatever was done since.
-/

namespace Opscript.Sequencer

/-- The call that adds a record, if it is valid. -/
def additions (edit : Code → List Code → Edit) (operation : Symbol) (arguments : List Symbol) :
    List Edit :=
  match contentOf operation arguments with
  | .ok (c, cs) => [edit c cs]
  | .error _ => []

/-- The calls to the model that a request comes to. -/
def edits (q : Sequencer) : Request → List Edit
  | .append operation arguments => additions .append operation arguments
  | .prepend operation arguments => additions .prepend operation arguments
  | .insert index operation arguments => additions (.insert index) operation arguments
  | .remove id => [.remove id]
  | .setSequence s => if (q.setSequence s).1 then [.replace (decode q.space s).contents] else []
  | _ => []

/-- The records that requests create, one after the other. -/
def made (q : Sequencer) : List Request → List Record
  | [] => []
  | r :: rest => q.model.history (q.edits r) ++ made (q.perform r).2 rest

section

variable (q : Sequencer)

theorem model_add (edit : Code → List Code → Edit)
    (place : Model → Code → List Code → RecordId × Model)
    (h : ∀ c cs, (place q.model c cs).2 = q.model.edit (edit c cs)) (operation : Symbol)
    (arguments : List Symbol) :
    (q.add place operation arguments).2.model =
      q.model.edits (additions edit operation arguments) := by
  unfold add additions
  cases contentOf operation arguments with
  | ok c => exact h c.1 c.2
  | error v => rfl

theorem model_setSequence (s : Sequence) :
    (q.setSequence s).2.model = q.model.edits (q.edits (.setSequence s)) := by
  show _ = q.model.edits (if (q.setSequence s).1 then _ else _)
  rw [setSequence_eq]
  refine admitted_cases (P := fun x => x.2.model = q.model.edits
    (if x.1 = true then [.replace (decode q.space s).contents] else [])) (fun _ => ?_) fun v => rfl
  rw [gate_eq]
  rfl

/-- The calls to the model are all that a request does to it. -/
theorem model_perform (r : Request) : (q.perform r).2.model = q.model.edits (q.edits r) := by
  cases r with
  | registerOperation s f => exact (still_registerOperation q s f).model
  | registerOperations es => exact (still_registerOperations q es).model
  | setOperations es => exact (still_registerOperations { q with operations := .empty } es).model
  | registerValue s value => exact (still_registerValue q s value).model
  | registerValues es => exact (still_registerValues q es).model
  | setValues es => exact (still_registerValues { q with values := .empty } es).model
  | registerLabel label s => exact (still_registerLabel q label s).model
  | registerLabels es => exact (still_registerLabels q es).model
  | setLabels es => exact (still_registerLabels { q with labels := .empty } es).model
  | append operation arguments => exact model_add q .append _ (fun _ _ => rfl) operation arguments
  | prepend operation arguments => exact model_add q .prepend _ (fun _ _ => rfl) operation arguments
  | insert index operation arguments =>
    exact model_add q (.insert index) (fun m => m.insert index) (fun _ _ => rfl) operation arguments
  | remove id =>
    show (q.remove id).2.model = (q.model.remove id).2
    rw [remove_eq]
    unfold Model.checkIndex
    cases h : q.model.index? id with
    | none => simp [guarded, refuse, report, Model.remove_of_none h]
    | some i => rfl
  | index id =>
    show (q.index id).2.model = q.model
    rw [index_eq]
    cases q.model.checkIndex id <;> rfl
  | setSequence s => exact model_setSequence q s
  | setLimit n =>
    show (q.setLimit n).2.model = q.model
    rw [untouched_setLimit]
  | execute s => exact (untouched_execute q s).still.model
  | clearLimit => rfl
  | setResolution resolution => rfl
  | takeDiagnostics => rfl

theorem made_append (rs ss : List Request) :
    q.made (rs ++ ss) = q.made rs ++ (q.performAll rs).2.made ss := by
  induction rs generalizing q with
  | nil => rfl
  | cons r rest ih => simp only [List.cons_append, made, ih, List.append_assoc, performAll]

end

variable {q : Sequencer} {records : List Record} {id : RecordId}

/-- The model tracks the records that requests create. -/
theorem tracks_made (h : Model.Tracks q.model records) (rs : List Request) :
    Model.Tracks (q.performAll rs).2.model (records ++ q.made rs) := by
  induction rs generalizing q records with
  | nil => rwa [made, List.append_nil]
  | cons r rest ih =>
    have hstep := Model.tracks_edits h (q.edits r)
    rw [← model_perform] at hstep
    rw [made, ← List.append_assoc]
    exact ih hstep

/-- A record that is gone does not come back. -/
theorem gone_performAll (h : Model.Tracks q.model records) (hgone : q.model.Gone records id)
    (rs : List Request) (hmax : (records ++ q.made rs).length ≤ RecordId.max) :
    (q.performAll rs).2.model.Gone (records ++ q.made rs) id := by
  induction rs generalizing q records with
  | nil => rwa [made, List.append_nil]
  | cons r rest ih =>
    rw [made, ← List.append_assoc] at hmax ⊢
    have hroom : (records ++ q.model.history (q.edits r)).length ≤ RecordId.max := by
      rw [List.length_append] at hmax
      omega
    have hstep := Model.tracks_edits h (q.edits r)
    have hnext := Model.gone_edits h hgone (q.edits r) hroom
    rw [← model_perform] at hstep hnext
    exact ih hstep hnext hmax

/-! ## Single requests -/

/-- What a request does that is answered with the id of a new record: the record is put in
somewhere under the next id, and nothing else is done. -/
def Creates (q : Sequencer) (id : RecordId) (es : List Edit) (q' : Sequencer) : Prop :=
  id = q.model.nextId ∧ ∃ index operation arguments,
    q' = { q with model := (q.model.insert index operation arguments).2 } ∧
      q.model.history es = [⟨id, operation, arguments⟩]

theorem creates_add (index : Model → Nat) {edit : Code → List Code → Edit} {operation : Symbol}
    {arguments : List Symbol}
    (hcreated : ∀ c cs, q.model.created (edit c cs) = [⟨q.model.nextId, c, cs⟩])
    (h : (q.add (fun m => m.insert (index m)) operation arguments).1 = some id) :
    Creates q id (additions edit operation arguments)
      (q.add (fun m => m.insert (index m)) operation arguments).2 := by
  unfold add additions at *
  cases hc : contentOf operation arguments with
  | ok c =>
    rw [hc] at h
    obtain rfl : q.model.nextId = id := Option.some.inj h
    refine ⟨rfl, index q.model, c.1, c.2, rfl, ?_⟩
    rw [Model.history, Model.history, List.append_nil]
    exact hcreated c.1 c.2
  | error v =>
    rw [hc] at h
    cases h

theorem creates_perform {add : Request} (h : (q.perform add).1 = .created (some id)) :
    Creates q id (q.edits add) (q.perform add).2 := by
  cases add with
  | append operation arguments =>
    exact creates_add Model.size (fun _ _ => rfl) (Answer.created.inj h)
  | prepend operation arguments =>
    exact creates_add (fun _ => 0) (fun _ _ => rfl) (Answer.created.inj h)
  | insert index operation arguments =>
    exact creates_add (fun _ => index) (fun _ _ => rfl) (Answer.created.inj h)
  | _ => cases h

/-- What is reported when no record has the id. -/
def notFound (id : RecordId) : Violation := { kind := .recordNotFound, detail := some id.text }

theorem remove_of_gone (h : q.model.Gone records id) :
    q.perform (.remove id) = q.refuse (.accepted false) (notFound id) := by
  have hindex := Model.index?_eq_none_iff.2 h.absent
  simp [perform, remove, Model.checkIndex, hindex, refuse, notFound]

theorem index_of_gone (h : q.model.Gone records id) :
    q.perform (.index id) = q.refuse (.position none) (notFound id) := by
  have hindex := Model.index?_eq_none_iff.2 h.absent
  simp [perform, index, Model.checkIndex, hindex, refuse, notFound]

theorem remove_of_found {i : Nat} (h : q.model.index? id = some i) :
    q.perform (.remove id) =
      (.accepted (q.model.remove id).1.isSome, { q with model := (q.model.remove id).2 }) := by
  simp [perform, remove, Model.checkIndex, h]

/-- Removing the record that was just added. -/
theorem remove_of_created (htracks : Model.Tracks q.model records)
    (hroom : records.length < RecordId.max) {add : Request}
    (h : (q.perform add).1 = .created (some id)) :
    (q.perform add).2.perform (.remove id) =
      (.accepted true, { q with model := { q.model with nextId := q.model.nextId.next } }) := by
  obtain ⟨rfl, index, operation, arguments, hadd, -⟩ := creates_perform h
  have hremove := Model.remove_insert htracks hroom index operation arguments
  obtain ⟨i, hi⟩ : ∃ i,
      (q.model.insert index operation arguments).2.index? q.model.nextId = some i := by
    rw [← Option.isSome_iff_exists, ← Model.isSome_get?, ← Model.fst_remove, hremove]
    rfl
  rw [hadd, remove_of_found hi, hremove]
  rfl

/-- In every state that a sequencer comes to before its ids run out, a record that is added,
wherever it is put, and removed at once leaves everything as it was: the registries, the records
with their ids, the sequence, the diagnostics and the log. Only its id is used up. Until the ids run
out no request finds that id again, whatever is done in between. -/
theorem remove_after_add (c : Config) (before : List Request) {add : Request} {id : RecordId}
    (hroom : ((opened c).made (building c ++ before)).length < RecordId.max)
    (hadd : (((ofConfig c).performAll before).2.perform add).1 = .created (some id)) :
    let q := ((ofConfig c).performAll before).2
    let undone : Sequencer := { q with model := { q.model with nextId := q.model.nextId.next } }
    (q.perform add).2.perform (.remove id) = (.accepted true, undone) ∧
      ∀ between,
        ((opened c).made (building c ++ before ++ [add, .remove id] ++ between)).length ≤
          RecordId.max →
        let later := (undone.performAll between).2
        later.perform (.remove id) = later.refuse (.accepted false) (notFound id) ∧
          later.perform (.index id) = later.refuse (.position none) (notFound id) := by
  intro q undone
  have hq : ((opened c).performAll (building c ++ before)).2 = q := by
    rw [performAll_append, ← ofConfig_eq]
  have htracks := tracks_made (tracks_opened c) (building c ++ before)
  rw [hq, List.nil_append] at htracks
  have hundone := remove_of_created htracks hroom hadd
  have hstate : (q.performAll [add, .remove id]).2 = undone := congrArg Prod.snd hundone
  have hlater := tracks_made htracks [add, .remove id]
  rw [hstate] at hlater
  have hgone : undone.model.Gone
      ((opened c).made (building c ++ before) ++ q.made [add, .remove id]) id := by
    obtain ⟨hid, -, operation, arguments, -, hrecord⟩ := creates_perform (q := q) hadd
    refine ⟨by simp [made, hrecord], ?_⟩
    rw [hid]
    exact htracks.nextId_not_mem hroom
  refine ⟨hundone, fun between hmax => ?_⟩
  have hwhole : ((opened c).performAll (building c ++ before ++ [add, .remove id])).2 = undone := by
    rw [performAll_append, hq, hstate]
  rw [made_append, made_append _ (building c ++ before), hwhole, hq] at hmax
  have hend := gone_performAll hlater hgone between hmax
  exact ⟨remove_of_gone hend, index_of_gone hend⟩

/-- A record that was put in between two others and removed is not found again, neither behind a
record that is added nor behind a sequence that is set. -/
theorem remove_after_add_between :
    let c : Config := { operations := [(.int 65, ⟨"a", none⟩)] }
    let add : Request := .insert 1 (.int 65) [.int 98]
    let id : RecordId := ⟨3, by decide, by decide⟩
    let between : List Request := [.prepend (.int 65) [], .setSequence [65, 65]]
    let before : List Request := [.append (.int 65) [], .append (.int 65) [.int 97]]
    let q := ((ofConfig c).performAll before).2
    let undone := ((q.perform add).2.perform (.remove id)).2
    ((opened c).made (building c ++ before)).length < RecordId.max ∧
      (q.perform add).1 = .created (some id) ∧
      undone.model.records = q.model.records ∧
      ((opened c).made (building c ++ before ++ [add, .remove id] ++ between)).length ≤
        RecordId.max ∧
      ((undone.performAll between).2.perform (.index id)).1 = .position none := by
  intro c add id between before q undone
  have hroom : ((opened c).made (building c ++ before)).length < RecordId.max := by decide +kernel
  have hadd : (q.perform add).1 = .created (some id) := rfl
  have hmax : ((opened c).made (building c ++ before ++ [add, .remove id] ++ between)).length ≤
      RecordId.max := by decide +kernel
  obtain ⟨hundone, hlater⟩ := remove_after_add c before hroom hadd
  have hstate : undone = { q with model := { q.model with nextId := q.model.nextId.next } } :=
    congrArg Prod.snd hundone
  refine ⟨hroom, hadd, by rw [hstate], hmax, ?_⟩
  rw [hstate]
  exact congrArg Prod.fst (hlater between hmax).2

end Opscript.Sequencer
