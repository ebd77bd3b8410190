import Opscript.Proofs.Execution.Filled
import Opscript.Proofs.Sequencer.Slots
import Opscript.Proofs.Sequencer.Stable

/-!
# What a configuration makes of a sequencer

Each entry of a configuration is registered or reported. `Accounts` says what the sequencer holds
then, read off the configuration alone: under each code the last valid entry for it, the limit if
it is one, the records of the sequence in the code space of the entries, under the first ids, and
one diagnostic for each of `violations`. Up to reports, the sequencer is `registered` before its sequence is set, and
the reports are those of the requests that build it.
-/

namespace Opscript

/-- A limit of zero is refused. -/
def zeroLimit : Violation := { kind := .invalidMaxLength, detail := some "got 0" }

namespace Config

/-- The maximum length, if it is positive. -/
def limit (c : Config) : Option Limit :=
  c.maxLength.bind fun n => if h : 0 < n then some ⟨n, h⟩ else none

/-- What codes mean by the valid entries. -/
def space (c : Config) : CodeSpace := fun k =>
  if (latest? k (resolved c.operations)).isSome then .operation
  else if (latest? k (resolved c.values)).isSome then .value
  else .unknown

/-- Whether a sequence is set: in strict mode it must be within the limit. -/
def keeps (c : Config) (s : Sequence) : Bool :=
  !c.strictMode || c.limit.all fun l => decide (s.length ≤ l.val)

/-- The sequence, if it is set. -/
def kept (c : Config) : Option Sequence := c.sequence.filter c.keeps

/-- The decoding of the sequence that is kept. -/
def decoding (c : Config) : Option Decoding := c.kept.map (decode c.space)

/-- The codes that become null, as they are arguments of the sequence and nothing else. -/
def unknown (c : Config) : List Code := (c.decoding.map Decoding.unknown).getD []

/-- What the records hold. -/
def contents (c : Config) : List (Code × List Code) :=
  (c.decoding.map Decoding.contents).getD []

/-- The violations in the order in which they are reported. -/
def violations (c : Config) : List Violation :=
  c.issues ++
    (if c.maxLength = some 0 then [zeroLimit] else []) ++
    (c.operations.filterMap fun e => Violation.of? e.1.code) ++
    (c.values.filterMap fun e => Violation.of? e.1.code) ++
    (c.labels.filterMap fun e => Violation.of? e.2.code) ++
    (c.sequence.bind fun s => Violation.of? (checkLength s.length c.limit)).toList

theorem keeps_iff {c : Config} {s : Sequence} :
    c.keeps s = true ↔ (c.strictMode = true → Limit.Fits c.limit s.length) := by
  unfold keeps Limit.Fits
  cases c.strictMode <;> cases c.limit <;> simp

end Config

namespace Sequencer

/-- The sequencer holds what the configuration says, and tells of what is wrong with it. -/
structure Accounts (c : Config) (q : Sequencer) : Prop where
  policy : q.policy = policyOf c
  resolution : q.resolution = c.resolution
  limit : q.limit = c.limit
  operations : ∀ k, q.operations.get? k = latest? k (resolved c.operations)
  labels : ∀ l, q.labels.get? l = latest? l (resolvedLabels c.labels)
  values : ∀ k,
    q.values.get? k = if k ∈ c.unknown then some .null else latest? k (resolved c.values)
  /-- No entry is overwritten by a null. -/
  fresh : ∀ k ∈ c.unknown,
    latest? k (resolved c.operations) = none ∧ latest? k (resolved c.values) = none
  model : q.model = (c.decoding.map fun d => Model.empty.replace d.contents).getD .empty
  /-- The records are those of the sequence. -/
  contents : q.model.contents = c.contents
  sequence : q.model.sequence = encode q.model.records
  /-- The ids count from the first one on, until they run out. -/
  ids : ∀ k r, q.model.records[k]? = some r → r.id.val = min (k + 1) RecordId.max
  nextId : q.model.nextId.val = min (q.model.size + 1) RecordId.max
  diagnostics : q.diagnostics =
    if !c.strictMode && c.ignoreWarnings then [] else c.violations.map (policyOf c).diagnostic
  severity : ∀ d ∈ q.diagnostics, d.severity = if c.strictMode then .error else .warning

/-! ## Reports -/

/-- The limit in force when the sequence is set. -/
theorem limitAfter_building (c : Config) : Request.limitAfter none (building c.bare) = c.limit := by
  unfold building Config.bare Config.limit
  cases c.maxLength <;> rfl

theorem of?_limitCheck (n : Nat) :
    (Violation.of? (Limit.check n)).toList = if n = 0 then [zeroLimit] else [] := by
  rw [limitCheck_eq]
  cases n <;> rfl

/-- What is found while a sequencer is built. -/
theorem violations_eq (c : Config) :
    c.violations = c.issues ++ (opened c).foundAll (building c) := by
  have hbare : (opened c).foundAll (building c.bare) =
      (if c.maxLength = some 0 then [zeroLimit] else []) ++
        (c.operations.filterMap fun e => Violation.of? e.1.code) ++
        (c.values.filterMap fun e => Violation.of? e.1.code) ++
        (c.labels.filterMap fun e => Violation.of? e.2.code) := by
    unfold building Config.bare
    cases hmax : c.maxLength with
    | none => simp [foundAll, found]
    | some n => simp [foundAll, found, of?_limitCheck]
  have hlimit : ((opened c).performAll (building c.bare)).2.limit = c.limit := by
    rw [limit_performAll, limit_opened, limitAfter_building]
  have hsequence : ((opened c).performAll (building c.bare)).2.foundAll
      (c.sequence.map Request.setSequence).toList =
        (c.sequence.bind fun s => Violation.of? (checkLength s.length c.limit)).toList := by
    cases c.sequence with
    | none => rfl
    | some s => simp [foundAll, found, hlimit]
  have hbuilding : building c = building c.bare ++ (c.sequence.map Request.setSequence).toList := by
    simp [building, Config.bare]
  rw [hbuilding, foundAll_append, hbare, hsequence]
  simp only [Config.violations, List.append_assoc]

theorem diagnostics_ofConfig (c : Config) :
    (ofConfig c).diagnostics = c.violations.flatMap (policyOf c).collect := by
  have hopened : (opened c).diagnostics = c.issues.flatMap (policyOf c).collect :=
    (reports_foldl_report _ c.issues).diagnostics
  rw [← told_building, told_performAll, hopened, policy_opened, violations_eq,
    List.flatMap_append]

theorem policyLog_ofConfig (c : Config) :
    (ofConfig c).policyLog = c.violations.map fun v => ((policyOf c).report v).event := by
  have hopened : (opened c).policyLog = c.issues.map fun v => ((policyOf c).report v).event :=
    (reports_foldl_report _ c.issues).events
  rw [ofConfig_eq, policyLog_performAll, hopened, policy_opened, violations_eq, List.map_append]

/-! ## Registries -/

/-- The sequencer of the entries, without a sequence and without reports. -/
def registered (c : Config) : Sequencer where
  operations := Ordered.empty.insertAll (resolved c.operations)
  values := Ordered.empty.insertAll (resolved c.values)
  labels := Ordered.empty.insertAll (resolvedLabels c.labels)
  limit := c.limit
  policy := policyOf c
  resolution := c.resolution

/-- The sequencer before its entries are registered. -/
def limited (c : Config) : Sequencer :=
  match c.maxLength with
  | some n => ((opened c).setLimit n).2
  | none => opened c

theorem untouched_limited (c : Config) :
    Untouched { policy := policyOf c, limit := c.limit, resolution := c.resolution }
      (limited c) := by
  have hopened := untouched_opened c
  unfold limited Config.limit
  cases c.maxLength with
  | none => exact hopened
  | some n =>
    refine Untouched.trans ?_ (untouched_setLimit (opened c) n)
    rw [hopened]
    rfl

/-- Each registry holds its entries when the sequence is set. -/
theorem untouched_registered (c : Config) : (registered c).Untouched (ofConfig c.bare) := by
  have hoperations :=
    Slot.Lands.of_untouched (untouched_limited c) (lands_registerOperations _ c.operations)
  have hvalues := Slot.Lands.of_untouched hoperations (lands_registerValues _ c.values)
  exact Slot.Lands.of_untouched hvalues (lands_registerLabels _ c.labels)

theorem space_registered (c : Config) : (registered c).space = c.space := by
  funext k
  show classify (Ordered.empty.insertAll _) (Ordered.empty.insertAll _) k = _
  unfold classify Ordered.contains
  rw [Ordered.get?_empty_insertAll, Ordered.get?_empty_insertAll]
  rfl

/-! ## The sequence -/

/-- The sequencer of a configuration, up to reports. -/
def settled (c : Config) : Sequencer :=
  match c.kept with
  | none => registered c
  | some s => (registered c).store s

theorem Untouched.store {q g : Sequencer} (h : q.Untouched g) (s : Sequence) :
    (q.store s).Untouched (g.store s) := by
  rw [h]
  rfl

theorem untouched_settled (c : Config) : (settled c).Untouched (ofConfig c) := by
  have hbare := untouched_registered c
  unfold settled Config.kept
  cases hs : c.sequence with
  | none =>
    have hc : c.bare = c := by
      unfold Config.bare
      rw [← hs]
    rw [hc] at hbare
    exact hbare
  | some s =>
    have hpolicy : (ofConfig c.bare).policy.isStrict = c.strictMode := by
      rw [policy_ofConfig]
      unfold policyOf Config.bare
      cases c.strictMode <;> rfl
    have hlimit : (ofConfig c.bare).limit = c.limit := by rw [hbare]; rfl
    have hadmits : (ofConfig c.bare).Admits s.length ↔ c.keeps s = true := by
      rw [Config.keeps_iff, Admits, hpolicy, hlimit, checkLength_eq_ok_iff]
      rfl
    rw [ofConfig_of_some hs, setSequence_eq, Option.filter_some]
    by_cases h : c.keeps s = true
    · rw [admitted_of_admits (hadmits.2 h), if_pos h]
      exact (hbare.trans (gate_eq _ _)).store s
    · obtain ⟨v, -, hv⟩ := admitted_of_not_admits (fun hq => h (hadmits.1 hq)) false
        fun q => (true, q.store s)
      rw [hv, if_neg h]
      exact hbare.trans (untouched_report _ v)

/-- The sequence reaches the values and the model only. -/
theorem settled_eq (c : Config) :
    settled c = { registered c with
      values := (settled c).values, model := (settled c).model, log := (settled c).log } := by
  unfold settled
  cases c.kept <;> rfl

/-- The sequence that is kept is decoded in the space of the entries. -/
theorem values_settled (c : Config) :
    (settled c).values = c.unknown.foldl (fun m k => m.insert k .null) (registered c).values := by
  unfold settled Config.unknown Config.decoding
  cases c.kept with
  | none => rfl
  | some s => rw [Option.map_some, Option.map_some, Option.getD_some, ← space_registered]; rfl

theorem model_settled (c : Config) :
    (settled c).model = (c.decoding.map fun d => Model.empty.replace d.contents).getD .empty := by
  unfold settled Config.decoding
  cases c.kept with
  | none => rfl
  | some s => rw [Option.map_some, Option.map_some, Option.getD_some, ← space_registered]; rfl

/-- Without a sequence there are no records to be replaced. -/
theorem model_ofConfig (c : Config) : (ofConfig c).model = Model.empty.replace c.contents := by
  rw [untouched_settled c]
  refine (model_settled c).trans ?_
  unfold Config.contents
  cases c.decoding <;> rfl

theorem get?_operations_ofConfig (c : Config) (k : Code) :
    (ofConfig c).operations.get? k = latest? k (resolved c.operations) := by
  rw [untouched_settled c, settled_eq]
  exact Ordered.get?_empty_insertAll (resolved c.operations) k

/-- A callback that is registered is that of an entry. -/
theorem mem_of_get?_operations {c : Config} {k : Code} {f : Callback}
    (h : (ofConfig c).operations.get? k = some f) : ∃ s : Symbol, (s, f) ∈ c.operations := by
  rw [get?_operations_ofConfig] at h
  obtain ⟨⟨s, f'⟩, he, hentry⟩ := List.mem_filterMap.1 (mem_of_latest? h)
  obtain ⟨k', -, hk⟩ := Option.map_eq_some_iff.1 hentry
  cases hk
  exact ⟨s, he⟩

theorem contents_ofConfig (c : Config) : (ofConfig c).model.contents = c.contents := by
  rw [model_ofConfig]
  exact Model.contents_replace _ _

/-- The operation of every record that a configuration leaves is registered. -/
theorem contains_of_mem_records {c : Config} {r : Record} (h : r ∈ (ofConfig c).model.records) :
    (ofConfig c).operations.contains r.operation = true := by
  have hmem : r.content ∈ (ofConfig c).model.contents := List.mem_map_of_mem h
  rw [contents_ofConfig] at hmem
  unfold Config.contents Config.decoding at hmem
  cases hs : c.kept with
  | none =>
    rw [hs] at hmem
    cases hmem
  | some s =>
    rw [hs] at hmem
    obtain ⟨d, hd, hcontent⟩ := List.mem_map.1 hmem
    have hspace := (operation_of_mem_drafts hd).1
    rw [show d.operation = r.operation from congrArg Prod.fst hcontent, Config.space] at hspace
    rw [Ordered.contains, get?_operations_ofConfig]
    by_contra hnone
    rw [if_neg hnone] at hspace
    split at hspace <;> cases hspace

theorem sequence_eq_encode_ofConfig (c : Config) :
    (ofConfig c).model.sequence = encode (ofConfig c).model.records := by
  rw [model_ofConfig]
  rfl

theorem space_of_mem_unknown {c : Config} {k : Code} (h : k ∈ c.unknown) :
    c.space k = .unknown := by
  unfold Config.unknown Config.decoding at h
  cases hs : c.kept with
  | none => rw [hs] at h; cases h
  | some s =>
    rw [hs] at h
    exact (mem_unknown_iff.1 h).2

theorem latest?_of_mem_unknown {c : Config} {k : Code} (h : k ∈ c.unknown) :
    latest? k (resolved c.operations) = none ∧ latest? k (resolved c.values) = none := by
  have hspace := space_of_mem_unknown h
  unfold Config.space at hspace
  cases ho : latest? k (resolved c.operations) with
  | some f => simp [ho] at hspace
  | none =>
    cases hv : latest? k (resolved c.values) with
    | some v => simp [ho, hv] at hspace
    | none => exact ⟨rfl, rfl⟩

theorem suppresses_policyOf (c : Config) :
    (policyOf c).suppresses = (!c.strictMode && c.ignoreWarnings) := by
  unfold policyOf
  cases c.strictMode <;> rfl

theorem isStrict_policyOf (c : Config) : (policyOf c).isStrict = c.strictMode := by
  unfold policyOf
  cases c.strictMode <;> rfl

theorem severity_policyOf (c : Config) :
    (policyOf c).severity = if c.strictMode then .error else .warning := by
  unfold policyOf
  cases c.strictMode <;> rfl

/-- A sequencer holds what its configuration says and tells of the rest. Under each code, or label,
there is the last valid entry for it, and null under the unknown argument codes of the sequence,
which have no entry. The limit is the configured one if that is positive. The records are the
decoding of the sequence in the code space of the entries, or there are none, if there is no
sequence or it is over the limit in strict mode; their ids count from the first one on, and the
sequence of the model is their encoding. Each issue of the configuration, a limit of zero, each
operation, value and label without a valid symbol and a sequence that is too long have one
diagnostic, in this order and with the severity of the mode, or none has if the mode is lenient and
warnings are ignored. -/
theorem ofConfig_accounts (c : Config) : Accounts c (ofConfig c) := by
  have hsettled := untouched_settled c
  have hregistered := settled_eq c
  refine {
    policy := policy_ofConfig c
    resolution := by rw [hsettled, hregistered]; rfl
    limit := by rw [hsettled, hregistered]; rfl
    operations := get?_operations_ofConfig c
    labels := fun l => ?_
    values := fun k => ?_
    fresh := fun _ => latest?_of_mem_unknown
    model := by rw [hsettled]; exact model_settled c
    contents := contents_ofConfig c
    sequence := sequence_eq_encode_ofConfig c
    ids := fun k r hr => ?_
    nextId := ?_
    diagnostics := by rw [diagnostics_ofConfig, Policy.flatMap_collect, suppresses_policyOf]
    severity := fun d hd => ?_ }
  · rw [hsettled, hregistered]
    exact Ordered.get?_empty_insertAll (resolvedLabels c.labels) l
  · have hvalues : (ofConfig c).values = (settled c).values := by rw [hsettled]
    rw [hvalues, values_settled, get?_foldl_insert_null, registered,
      Ordered.get?_empty_insertAll]
  · rw [model_ofConfig] at hr
    rw [Nat.add_comm]
    exact Model.val_id_replace hr
  · rw [model_ofConfig, Nat.add_comm]
    exact Model.val_nextId_replace _ _
  · rw [diagnostics_ofConfig] at hd
    obtain ⟨v, -, hv⟩ := List.mem_flatMap.1 hd
    rw [Policy.severity_of_mem_collect hv, severity_policyOf]

/-- A text and its number are the same code. -/
example :
    let c : Config := { operations := [(.text "A", ⟨"f", none⟩), (.int 65, ⟨"g", none⟩)] }
    (ofConfig c).operations.entries.map Prod.snd = [⟨"g", none⟩] := by
  decide

end Sequencer

end Opscript
