import Opscript.Proofs.Decoding.RoundTrip
import Opscript.Proofs.Decoding.Unknown
import Opscript.Proofs.Execution.Filled
import Opscript.Proofs.Sequencer.Course

/-!
# Setting a sequence normalises it

Setting a sequence drops its leading codes and makes its unknown arguments known. `Stored` says what
it leaves behind: new records in place of the old ones, with the ids that come next, and further
values behind the ones that were there. What is stored is normal: decoded again it gives the same
records, drops nothing and finds nothing unknown. So setting it once more changes the ids of the
records and nothing else that lasts (`Renewed`).
-/

namespace Opscript

/-! ## Records under new ids -/

/-- Records with the ids from `next` on. -/
def Record.number (next : RecordId) : List (Code × List Code) → List Record
  | [] => []
  | c :: rest => ⟨next, c.1, c.2⟩ :: number next.next rest

theorem Record.val_id_number {next : RecordId} {contents : List (Code × List Code)} {k : Nat}
    {r : Record} (h : (Record.number next contents)[k]? = some r) :
    r.id.val = min (next.val + k) RecordId.max := by
  induction contents generalizing next k with
  | nil => cases h
  | cons c rest ih =>
    cases k with
    | zero =>
      rw [number, List.getElem?_cons_zero] at h
      rw [← Option.some.inj h, Nat.add_zero, Nat.min_eq_left next.le]
    | succ k =>
      rw [number, List.getElem?_cons_succ] at h
      rw [ih h, RecordId.val_next]
      omega

namespace Model

theorem records_foldl_push (m : Model) (contents : List (Code × List Code)) :
    (contents.foldl push m).records = m.records ++ Record.number m.nextId contents := by
  induction contents generalizing m with
  | nil => exact (List.append_nil _).symm
  | cons c rest ih =>
    rw [List.foldl_cons, ih]
    exact List.append_assoc m.records [_] _

theorem val_nextId_foldl_push (m : Model) (contents : List (Code × List Code)) :
    (contents.foldl push m).nextId.val = min (m.nextId.val + contents.length) RecordId.max := by
  induction contents generalizing m with
  | nil => exact (Nat.min_eq_left m.nextId.le).symm
  | cons c rest ih =>
    have hnext : (m.push c).nextId.val = min (m.nextId.val + 1) RecordId.max :=
      RecordId.val_next m.nextId
    rw [List.foldl_cons, ih, hnext, List.length_cons]
    omega

theorem records_replace (m : Model) (contents : List (Code × List Code)) :
    (m.replace contents).records = Record.number m.nextId contents :=
  records_foldl_push { m with records := [] } contents

theorem size_replace (m : Model) (contents : List (Code × List Code)) :
    (m.replace contents).size = contents.length := by
  have h := congrArg List.length (contents_replace m contents)
  rwa [Model.contents, List.length_map] at h

/-- New records take the ids that come next. -/
theorem val_id_replace {m : Model} {contents : List (Code × List Code)} {k : Nat} {r : Record}
    (h : (m.replace contents).records[k]? = some r) :
    r.id.val = min (m.nextId.val + k) RecordId.max :=
  Record.val_id_number (records_replace m contents ▸ h)

theorem val_nextId_replace (m : Model) (contents : List (Code × List Code)) :
    (m.replace contents).nextId.val =
      min (m.nextId.val + (m.replace contents).size) RecordId.max := by
  rw [size_replace]
  exact val_nextId_foldl_push { m with records := [] } contents

/-- No record that was created before has the id of a new one, as long as the ids do not run
out. -/
theorem Tracks.ne_number {m : Model} {made : List Record} (h : Tracks m made)
    {contents : List (Code × List Code)} (hmax : made.length + contents.length ≤ RecordId.max)
    {r r' : Record} (hr : r ∈ made) (hr' : r' ∈ Record.number m.nextId contents) :
    r.id ≠ r'.id := by
  obtain ⟨i, hi, rfl⟩ := List.mem_iff_getElem.1 hr
  obtain ⟨k, hk, rfl⟩ := List.mem_iff_getElem.1 hr'
  have hold := h.numbered.2 i _ (List.getElem?_eq_getElem hi)
  have hnew := Record.val_id_number (List.getElem?_eq_getElem hk)
  have hlength : (Record.number m.nextId contents).length = contents.length := by
    rw [← records_replace]
    exact size_replace m contents
  have hnext := h.numbered.1
  intro heq
  rw [heq, hnew, hnext] at hold
  generalize RecordId.max = bound at hmax hold
  omega

end Model

/-! ## Values at the end -/

/-- New codes go behind the values that are there, in their order. -/
theorem entries_foldl_insert (values : Values) {codes : List Code} (hnodup : codes.Nodup)
    (hnew : ∀ c ∈ codes, c ∉ values.keys) (v : Value) :
    (codes.foldl (fun m c => m.insert c v) values).entries =
      values.entries ++ codes.map fun c => (c, v) := by
  induction codes generalizing values with
  | nil => exact (List.append_nil _).symm
  | cons c rest ih =>
    obtain ⟨hc, hrest⟩ := List.nodup_cons.1 hnodup
    have hfirst : (values.insert c v).entries = values.entries ++ [(c, v)] :=
      Ordered.put_of_not_mem (hnew c List.mem_cons_self) v
    have hnext : ∀ a ∈ rest, a ∉ (values.insert c v).keys := by
      intro a ha hmem
      rw [Ordered.keys_insert, if_neg (hnew c List.mem_cons_self)] at hmem
      rcases List.mem_append.1 hmem with hold | heq
      · exact hnew a (List.mem_cons_of_mem c ha) hold
      · rw [List.mem_singleton] at heq
        exact hc (heq ▸ ha)
    rw [List.foldl_cons, ih _ hrest hnext, hfirst, List.append_assoc]
    rfl

namespace Sequencer

/-! ## What is stored -/

/-- What setting the sequence `s` makes of `q`. -/
structure Stored (q : Sequencer) (s : Sequence) (q' : Sequencer) : Prop where
  /-- The old values are where they were, and the unknown codes follow as null. -/
  values : q'.values.entries =
    q.values.entries ++ (decode q.space s).unknown.map fun c => (c, Value.null)
  rest : q' = { q with
    values := q'.values, model := q'.model, diagnostics := q'.diagnostics, log := q'.log }
  contents : q'.model.contents = (decode q.space s).contents
  sequence : q'.model.sequence = encode q'.model.records
  /-- The new ids follow one another, until they run out. -/
  ids : ∀ k r, q'.model.records[k]? = some r →
    r.id.val = min (q.model.nextId.val + k) RecordId.max
  nextId : q'.model.nextId.val = min (q.model.nextId.val + q'.model.size) RecordId.max
  /-- No record that was created before has one of them. -/
  fresh : ∀ made, Model.Tracks q.model made → made.length + q'.model.size ≤ RecordId.max →
    ∀ r ∈ made, ∀ r' ∈ q'.model.records, r.id ≠ r'.id

theorem not_mem_keys_of_unknown {q : Sequencer} {s : Sequence} {c : Code}
    (h : c ∈ (decode q.space s).unknown) : c ∉ q.values.keys := by
  have hunknown := (classify_eq_unknown_iff.1 (mem_unknown_iff.1 h).2).2
  rw [← Ordered.contains_iff, hunknown]
  exact Bool.false_ne_true

theorem stored_store (q : Sequencer) (s : Sequence) : Stored q s (q.store s) where
  values := entries_foldl_insert q.values unknown_nodup (fun _ => not_mem_keys_of_unknown) .null
  rest := rfl
  contents := Model.contents_replace _ _
  sequence := rfl
  ids _ _ := Model.val_id_replace
  nextId := Model.val_nextId_replace _ _
  fresh made hmade hmax r hr r' hr' := by
    have hsize : (q.store s).model.size = (decode q.space s).contents.length :=
      Model.size_replace _ _
    have hrecords := Model.records_replace q.model (decode q.space s).contents
    rw [hsize] at hmax
    exact hmade.ne_number hmax hr (hrecords ▸ hr')

/-- Reports before a sequence is set make no difference. -/
theorem Untouched.stored {q g q' : Sequencer} {s : Sequence} (h : q.Untouched g)
    (h' : Stored g s q') : Stored q s q' := by
  rw [h] at h'
  exact ⟨h'.values, h'.rest, h'.contents, h'.sequence, h'.ids, h'.nextId, h'.fresh⟩

/-! ## What is stored is normal -/

/-- The sequence of the model is in normal form: it drops nothing, finds nothing unknown, and
decodes to the records. -/
structure Normal (q : Sequencer) : Prop where
  dropped : (decode q.space q.model.sequence).dropped = ⟨0, 0⟩
  unknown : (decode q.space q.model.sequence).unknown = []
  contents : (decode q.space q.model.sequence).contents = q.model.contents

theorem isOperation_space (q : Sequencer) : q.space.isOperation = q.operations.contains :=
  funext (isOperation_classify q.operations q.values)

section

variable (q : Sequencer) (s : Sequence)

theorem isOperation_store : (q.store s).space.isOperation = q.space.isOperation := by
  rw [isOperation_space, isOperation_space]
  rfl

theorem readable_store :
    ∀ r ∈ (q.store s).model.records, Readable (q.store s).space.isOperation r := by
  have hcontents : (decode q.space s).contents = (q.store s).model.records.map Record.content :=
    (stored_store q s).contents.symm
  intro r hr
  rw [isOperation_store]
  exact readable_iff.2 (readable_of_contents hcontents r hr)

/-- What is stored is what is not dropped. -/
theorem sequence_store :
    (q.store s).model.sequence = s.drop (leading q.space.isOperation s) :=
  encode_of_contents (stored_store q s).contents

variable {q s} {c : Code}

/-- No arguments are stored but those of the sequence. -/
theorem mem_argumentCodes_store
    (h : c ∈ argumentCodes (q.store s).space (q.store s).model.sequence) :
    c ∈ argumentCodes q.space s := by
  unfold argumentCodes at h ⊢
  rw [sequence_store, isOperation_store] at h
  obtain ⟨hmem, hop⟩ := List.mem_filter.1 h
  exact List.mem_filter.2 ⟨List.mem_of_mem_drop hmem, hop⟩

/-- An argument that was unknown has become a value. -/
theorem known_store (h : c ∈ argumentCodes q.space s) : (q.store s).space c ≠ .unknown := by
  intro hnew
  obtain ⟨hop, hvalue⟩ := classify_eq_unknown_iff.1 hnew
  have hget : (q.store s).values.get? c =
      if c ∈ (decode q.space s).unknown then some .null else q.values.get? c :=
    get?_foldl_insert_null q.values _ c
  rw [(Ordered.contains_eq_false_iff _ c).1 hvalue] at hget
  split at hget
  next => cases hget
  next hknown =>
    have hold : q.values.contains c = false := (Ordered.contains_eq_false_iff _ c).2 hget.symm
    exact hknown (mem_unknown_iff.2 ⟨h, classify_eq_unknown_iff.2 ⟨hop, hold⟩⟩)

end

theorem normal_store (q : Sequencer) (s : Sequence) : Normal (q.store s) where
  dropped := by
    show (decode _ (encode (q.store s).model.records)).dropped = ⟨0, 0⟩
    simp [decode, leading_eq_length_argumentsOf, argumentsOf_encode (readable_store q s)]
  unknown := by
    rw [List.eq_nil_iff_forall_not_mem]
    intro c hc
    obtain ⟨harg, hnew⟩ := mem_unknown_iff.1 hc
    exact known_store (mem_argumentCodes_store harg) hnew
  contents := by
    show (decode _ (encode (q.store s).model.records)).contents = _
    rw [Decoding.contents, drafts_decode, map_content_draftsFrom_encode (readable_store q s)]
    rfl

/-! ## Setting it again -/

/-- The records may have other ids in `q'` than in `q`, and there may be reports; all else is the
same. -/
structure Renewed (q q' : Sequencer) : Prop where
  rest : q' = { q with model := q'.model, diagnostics := q'.diagnostics, log := q'.log }
  contents : q'.model.contents = q.model.contents
  sequence : q'.model.sequence = q.model.sequence

theorem encode_congr {records records' : List Record}
    (h : records.map Record.content = records'.map Record.content) :
    encode records = encode records' := by
  rw [encode_eq_flatMap_content, h, ← encode_eq_flatMap_content]

theorem Normal.renewed_store {q : Sequencer} (h : Normal q)
    (hsequence : q.model.sequence = encode q.model.records) :
    Renewed q (q.store q.model.sequence) where
  rest := by
    unfold store
    simp only [h.unknown, List.foldl_nil]
  contents := (stored_store q _).contents.trans h.contents
  sequence := by
    rw [(stored_store q _).sequence]
    exact (encode_congr ((stored_store q _).contents.trans h.contents)).trans hsequence.symm

theorem Untouched.normal {q g : Sequencer} (h : q.Untouched g) (hq : Normal q) : Normal g := by
  rw [h]
  exact ⟨hq.dropped, hq.unknown, hq.contents⟩

theorem Untouched.renewed {q g q' : Sequencer} (h : q.Untouched g) (h' : Renewed g q') :
    Renewed q q' := by
  rw [h] at h'
  exact ⟨h'.rest, h'.contents, h'.sequence⟩

/-- The check of a length reports that it is too long, or nothing. -/
theorem diagnostics_gate (q : Sequencer) (n : Nat) :
    (Limit.Fits q.limit n ∧ (q.gate n).diagnostics = q.diagnostics) ∨
      ¬ Limit.Fits q.limit n ∧ ∃ v : Violation, v.kind = .sequenceTooLong ∧
        (q.gate n).diagnostics = (q.report v).2.diagnostics := by
  unfold gate
  cases h : checkLength n q.limit with
  | ok => exact .inl ⟨checkLength_eq_ok_iff.1 h, rfl⟩
  | error v =>
    refine .inr ⟨fun hfits => ?_, v, (checkLength_eq_error h).1, rfl⟩
    rw [checkLength_eq_ok_iff.2 hfits] at h
    cases h

theorem admits_of_set {q : Sequencer} {s : Sequence} (h : (q.setSequence s).1 = true) :
    q.Admits s.length := by
  by_contra hstop
  obtain ⟨v, -, hv⟩ := admitted_of_not_admits hstop false fun q => (true, q.store s)
  rw [setSequence_eq, hv] at h
  cases h

theorem setSequence_of_admits {q : Sequencer} {s : Sequence} (h : q.Admits s.length) :
    q.setSequence s = (true, (q.gate s.length).store s) := by
  rw [setSequence_eq, admitted_of_admits h]

/-- Setting a sequence leaves one that is no longer, so that the limit does not stop it either. -/
theorem Stored.admits {q q' : Sequencer} {s : Sequence} (h : Stored q s q')
    (hq : q.Admits s.length) : q'.Admits q'.model.sequence.length := by
  have hpolicy : q'.policy = q.policy := by rw [h.rest]
  have hlimit : q'.limit = q.limit := by rw [h.rest]
  intro hstrict
  rw [hpolicy] at hstrict
  have hfits := checkLength_eq_ok_iff.1 (hq hstrict)
  rw [hlimit]
  refine checkLength_eq_ok_iff.2 fun l hl => ?_
  rw [h.sequence, encode_of_contents h.contents, List.length_drop]
  exact Nat.le_trans (Nat.sub_le _ _) (hfits l hl)

/-- A sequencer that lets a length pass tells of it by one warning, if it is over the limit and
warnings are told. -/
theorem warned_gate {q : Sequencer} {n : Nat} (h : q.Admits n) :
    (q.policy = ⟨.lenient, false⟩ ∧ ¬ Limit.Fits q.limit n →
      ∃ d : Diagnostic, d.kind = .sequenceTooLong ∧ d.severity = .warning ∧
        (q.gate n).diagnostics = q.diagnostics ++ [d]) ∧
      (¬ (q.policy = ⟨.lenient, false⟩ ∧ ¬ Limit.Fits q.limit n) →
        (q.gate n).diagnostics = q.diagnostics) := by
  rcases diagnostics_gate q n with ⟨hfits, hsame⟩ | ⟨hover, v, hkind, hv⟩
  · exact ⟨fun hnot => absurd hfits hnot.2, fun _ => hsame⟩
  · rw [hv, diagnostics_report]
    have hlenient : q.policy.isStrict = false :=
      Bool.eq_false_iff.2 fun hstrict => hover (checkLength_eq_ok_iff.1 (h hstrict))
    refine ⟨?_, fun hnot => ?_⟩
    · rintro ⟨hpolicy, -⟩
      rw [hpolicy, Policy.diagnostic_eq]
      exact ⟨_, hkind, rfl, rfl⟩
    · have hquiet := policy_of_lenient hlenient fun hpolicy => hnot ⟨hpolicy, hover⟩
      rw [if_pos hquiet, List.append_nil]

/-- A sequence that is accepted is normalised. The values that were there stay where they were, and
the codes that were unknown follow as null: the arguments behind the first operation that were
neither operations nor values, each once, in the order of their first places. The new records have
the ids that come next, which no record had before, as long as ids do not run out; the other
registries are as they were. The sequence of the model is then stable: it drops nothing, has no
unknown codes and decodes to the same records, and setting it again is accepted and gives the
records new ids. Nothing else is different then, apart from a warning if the limit is exceeded. -/
theorem setSequence_normalises (q : Sequencer) (s : Sequence) (h : (q.setSequence s).1 = true) :
    let unknown := (decode q.space s).unknown
    let after := (q.setSequence s).2
    let again := after.setSequence after.model.sequence
    let warns := after.policy = ⟨.lenient, false⟩ ∧
      ¬ Limit.Fits after.limit after.model.sequence.length
    Stored q s after ∧
      unknown.Nodup ∧
      (unknown.Pairwise fun a b =>
        (argumentCodes q.space s).idxOf a < (argumentCodes q.space s).idxOf b) ∧
      (∀ c, c ∈ unknown ↔ c ∈ argumentCodes q.space s ∧
        q.operations.contains c = false ∧ q.values.contains c = false) ∧
      Normal after ∧ again.1 = true ∧ Renewed after again.2 ∧
      (warns → ∃ d : Diagnostic, d.kind = .sequenceTooLong ∧ d.severity = .warning ∧
        again.2.diagnostics = after.diagnostics ++ [d]) ∧
      (¬ warns → again.2.diagnostics = after.diagnostics) := by
  intro unknown after again warns
  have hadmits := admits_of_set h
  have hafter : after = (q.gate s.length).store s :=
    congrArg Prod.snd (setSequence_of_admits hadmits)
  have hstored : Stored q s after := by
    rw [hafter]
    exact Untouched.stored (gate_eq q _) (stored_store _ s)
  have hnormal : Normal after := by
    rw [hafter]
    exact normal_store _ s
  have hadmits' : after.Admits after.model.sequence.length := hstored.admits hadmits
  have hagain : again = (true, (after.gate after.model.sequence.length).store _) :=
    setSequence_of_admits hadmits'
  have huntouched : after.Untouched (after.gate after.model.sequence.length) := gate_eq after _
  have hmodel : (after.gate after.model.sequence.length).model = after.model := by
    rw [huntouched]
  have hrenewed : Renewed after again.2 := by
    rw [hagain]
    refine huntouched.renewed ?_
    have hgate := (huntouched.normal hnormal).renewed_store (by rw [hmodel, hstored.sequence])
    rwa [hmodel] at hgate
  have hwarned := warned_gate hadmits'
  refine ⟨hstored, unknown_nodup, unknown_sorted, fun c => ?_, hnormal, ?_, hrenewed, ?_, ?_⟩
  · exact mem_unknown_iff.trans (and_congr_right fun _ => classify_eq_unknown_iff)
  · rw [hagain]
  · rw [hagain]
    exact hwarned.1
  · rw [hagain]
    exact hwarned.2

/-- A leading code, a value, and unknown codes of which one comes twice, over the limit. -/
theorem setSequence_normalises_small :
    let q : Sequencer :=
      { operations := Ordered.empty.insert 65 ⟨"a", none⟩
        values := Ordered.empty.insert 97 (.bool true)
        limit := some ⟨2, by decide⟩ }
    let s : Sequence := [98, 65, 100, 97, 99, 65, 100]
    let after := (q.setSequence s).2
    let again := after.setSequence after.model.sequence
    (q.setSequence s).1 = true ∧ after.values.keys = [97, 100, 99] ∧
      (after.model.records.map fun r => r.id.val) = [1, 2] ∧ after.diagnostics.length = 1 ∧
      (again.2.model.records.map fun r => r.id.val) = [3, 4] ∧ Normal after ∧
      Renewed after again.2 ∧ again.2.diagnostics.length = 2 := by
  intro q s after again
  have hset : (q.setSequence s).1 = true := by decide +kernel
  have hrun : after.values.keys = [97, 100, 99] ∧
      (after.model.records.map fun r => r.id.val) = [1, 2] ∧ after.diagnostics.length = 1 ∧
      (again.2.model.records.map fun r => r.id.val) = [3, 4] ∧ again.2.diagnostics.length = 2 := by
    decide +kernel
  obtain ⟨hkeys, hids, htold, hagain, hwarned⟩ := hrun
  obtain ⟨-, -, -, -, hnormal, -, hrenewed, -, -⟩ := setSequence_normalises q s hset
  exact ⟨hset, hkeys, hids, htold, hagain, hnormal, hrenewed, hwarned⟩

end Sequencer

end Opscript
