import Opscript.Proofs.Config.Fields
import Opscript.Proofs.Sequencer.Construction

/-!
# The order of the fields of a document

A table is the same in any order of the fields, as their keys are distinct. So the configuration
is the same up to the order of its issues, and so is the sequencer that is built from it: its first
reports are those of the issues, and nothing else is read off them.
-/

namespace Opscript

namespace Ordered

variable {κ ν : Type} [DecidableEq κ]

theorem lookup_perm {es fs : List (κ × ν)} (h : es.Perm fs) (hkeys : (es.map Prod.fst).Nodup)
    (k : κ) : es.lookup k = fs.lookup k := by
  induction h with
  | nil => rfl
  | cons e _ ih =>
    rw [List.map_cons, List.nodup_cons] at hkeys
    rw [lookup_cons_eq, lookup_cons_eq, ih hkeys.2]
  | swap e f rest =>
    rw [List.map_cons, List.nodup_cons] at hkeys
    have hne : f.1 ≠ e.1 := fun h => hkeys.1 (h ▸ List.mem_cons_self)
    simp only [lookup_cons_eq]
    by_cases he : k = e.1
    · have hf : k ≠ f.1 := fun hf => hne (hf.symm.trans he)
      simp only [if_pos he, if_neg hf]
    · simp only [if_neg he]
  | trans h _ ih ih' => rw [ih hkeys, ih' ((h.map Prod.fst).nodup hkeys)]

end Ordered

namespace Config

/-- The configurations differ in the order of their issues at most. -/
structure Shuffled (c c' : Config) : Prop where
  issues : c.issues.Perm c'.issues
  others : c' = { c with issues := c'.issues }

/-- The violations other than the issues. -/
theorem violations_eq_issues_append (c : Config) :
    c.violations = c.issues ++ { c with issues := [] }.violations := by
  simp only [violations, List.nil_append, List.append_assoc]
  rfl

end Config

namespace Sequencer

theorem Untouched.symm {q q' : Sequencer} (h : q.Untouched q') : q'.Untouched q := by
  rw [h]
  rfl

/-- The sequencers of two configurations differ in the order of the first reports at most, and
these are the reports of the issues. -/
structure Shuffled (c c' : Config) (q q' : Sequencer) : Prop where
  state : q.Untouched q'
  diagnostics : ∃ rest,
    q.diagnostics = c.issues.flatMap q.policy.collect ++ rest ∧
    q'.diagnostics = c'.issues.flatMap q.policy.collect ++ rest

theorem shuffled_ofConfig {c c' : Config} (h : c.Shuffled c') :
    Shuffled c c' (ofConfig c) (ofConfig c') := by
  have hsettled : settled c' = settled c := by
    rw [h.others]
    rfl
  have hpolicy : policyOf c' = policyOf c := by
    rw [h.others]
    rfl
  have hrest : { c' with issues := [] } = { c with issues := [] } := by rw [h.others]
  constructor
  · have hstate := untouched_settled c'
    rw [hsettled] at hstate
    exact (untouched_settled c).symm.trans hstate
  · refine ⟨({ c with issues := [] }).violations.flatMap (policyOf c).collect, ?_, ?_⟩
    · rw [policy_ofConfig, diagnostics_ofConfig, Config.violations_eq_issues_append,
        List.flatMap_append]
    · rw [policy_ofConfig, diagnostics_ofConfig, hpolicy, Config.violations_eq_issues_append,
        List.flatMap_append, hrest]

end Sequencer

namespace Config.Loading

theorem tableOf_perm {fields fields' : List (String × Json)} (h : fields.Perm fields')
    (hkeys : (fields.map Prod.fst).Nodup) : tableOf fields' = tableOf fields := by
  funext k
  exact (Ordered.lookup_perm h hkeys k.name).symm

/-- The order of the fields of a document does not matter. In another order they give the same
configuration, up to the order of its issues, and the same sequencer, up to the order of the
reports of the issues. The callbacks are asked for in the same way. -/
theorem ofJson_perm (bind : Binding) {fields fields' : List (String × Json)}
    (h : fields.Perm fields') (hkeys : (fields.map Prod.fst).Nodup) :
    let l := ofJson bind (.object fields)
    let l' := ofJson bind (.object fields')
    l'.asked = l.asked ∧ l.config.Shuffled l'.config ∧
      Sequencer.Shuffled l.config l'.config (Sequencer.ofConfig l.config)
        (Sequencer.ofConfig l'.config) := by
  have hkeys' := (h.map Prod.fst).nodup hkeys
  have hshuffled : Config.Shuffled (ofJson bind (.object fields)).config
      (ofJson bind (.object fields')).config := by
    rw [ofJson, ofJson, foldl_field bind hkeys, foldl_field bind hkeys', tableOf_perm h hkeys]
    exact ⟨h.flatMap_right _, rfl⟩
  refine ⟨?_, hshuffled, Sequencer.shuffled_ofConfig hshuffled⟩
  rw [ofJson, ofJson, foldl_field bind hkeys, foldl_field bind hkeys', tableOf_perm h hkeys]
  rfl

theorem ofJson_perm_swapped :
    let bind : Binding := fun _ name => some ⟨name, none⟩
    let operations : String × Json := ("operations", .object [("A", .string "a"), ("B", .null)])
    let other : String × Json := ("other", .null)
    let l := ofJson bind (.object [operations, other])
    let l' := ofJson bind (.object [other, operations])
    [operations, other].Perm [other, operations] ∧
      ([operations, other].map Prod.fst).Nodup ∧
      (Sequencer.ofConfig l.config).Untouched (Sequencer.ofConfig l'.config) ∧
      l.config.issues.map Violation.kind = [.missingCallback, .unknownConfigKey] ∧
      l'.config.issues.map Violation.kind = [.unknownConfigKey, .missingCallback] := by
  intro bind operations other l l'
  have hperm : [operations, other].Perm [other, operations] := .swap _ _ []
  have hkeys : ([operations, other].map Prod.fst).Nodup := by decide
  exact ⟨hperm, hkeys, (ofJson_perm bind hperm hkeys).2.2.state, by decide, by decide⟩

end Config.Loading

end Opscript
