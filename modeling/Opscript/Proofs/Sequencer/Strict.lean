import Opscript.Proofs.Sequencer.Course

/-!
# Strict sequencers stay within their limit

A strict sequencer measures a sequence before it sets or executes it. `Within` says of a request
what that guarantees: callbacks are called by an execution only, and only if what it executes is
not empty and not longer than the limit in force; and a sequence leaves its mark on the model or on
the values only if it is not longer than that. What is measured when the model is executed is the
length of the cached sequence, so that `Within` needs the invariant that this sequence is the
encoding of the records. It holds in every state that a run comes to, and so each request of the
run is within the limit, however the limit was changed before.
-/

namespace Opscript.Sequencer

/-- The request stays within the limit. -/
structure Within (limit : Option Limit) (q : Sequencer) (r : Request) : Prop where
  /-- Callbacks are called while a sequence is executed: the given one or that of the records. -/
  calls : (q.perform r).1.calls ≠ [] → ∃ s, r = .execute s ∧
    0 < (s.getD (encode q.model.records)).length ∧
      Limit.Fits limit (s.getD (encode q.model.records)).length
  /-- A sequence that is set is within the limit, or it changes nothing. -/
  sets : ∀ s, r = .setSequence s →
    (q.perform r).2.model ≠ q.model ∨ (q.perform r).2.values ≠ q.values → Limit.Fits limit s.length

variable {q : Sequencer}

/-! ## Steps -/

/-- A strict sequencer that calls back has measured what it executes. -/
theorem fits_of_calls (hq : q.policy.isStrict = true) {s : Option Sequence}
    (h : (q.execute s).1.run.calls ≠ []) :
    0 < q.lengthOf s ∧ Limit.Fits q.limit (q.lengthOf s) := by
  by_cases hstarts : q.Starts s
  · exact ⟨Nat.pos_of_ne_zero (hstarts.2 hq), checkLength_eq_ok_iff.1 (hstarts.1 hq)⟩
  · obtain ⟨-, v, -, hv⟩ := execute_of_not_starts hstarts
    rw [hv] at h
    exact absurd rfl h

/-- A strict sequencer that sets a sequence has measured it. -/
theorem fits_of_set (hq : q.policy.isStrict = true) {s : Sequence}
    (h : ¬ q.Untouched (q.setSequence s).2) : Limit.Fits q.limit s.length := by
  by_cases hadmits : q.Admits s.length
  · exact checkLength_eq_ok_iff.1 (hadmits hq)
  · obtain ⟨v, -, hv⟩ := admitted_of_not_admits hadmits false fun q => (true, q.store s)
    rw [setSequence_eq, hv] at h
    exact absurd (untouched_report q v) h

/-- Each request to a strict sequencer is within the limit, if the cached sequence is right. -/
theorem within_perform (hq : q.policy.isStrict = true)
    (hsequence : q.model.sequence = encode q.model.records) (r : Request) :
    Within q.limit q r where
  calls h := by
    cases r with
    | execute s =>
      rw [← hsequence]
      exact ⟨s, rfl, fits_of_calls hq h⟩
    | _ => exact absurd rfl h
  sets := by
    rintro s rfl h
    refine fits_of_set hq fun hsame => ?_
    have hsame : (q.perform (.setSequence s)).2 = _ := hsame
    rw [hsame] at h
    exact h.elim (fun hmodel => hmodel rfl) fun hvalues => hvalues rfl

/-! ## Runs -/

theorem within_performAll {made : List Record} (hq : q.policy.isStrict = true)
    (htracks : Model.Tracks q.model made) (before : List Request) (r : Request) :
    Within (Request.limitAfter q.limit before) (q.performAll before).2 r := by
  obtain ⟨more, hmore⟩ := tracks_performAll htracks before
  rw [← limit_performAll]
  refine within_perform ?_ hmore.sequence r
  rw [policy_performAll, hq]

theorem isStrict_opened_of_strict {c : Config} (hc : c.strictMode = true) :
    (opened c).policy.isStrict = true := by
  rw [policy_opened, policyOf, hc]
  rfl

/-- From its construction on, every request to a strict sequencer stays within the limit that was
set last: while the sequencer is built, and in every run of it. A callback is called by an
execution only, of a sequence that is not empty and not longer than the limit; for the model that
is the encoding of its records, however they came in. A sequence that is set and longer than the
limit changes neither the model nor the values. -/
theorem strict_run_stays_within (c : Config) (hc : c.strictMode = true) :
    (∀ before r after, building c = before ++ r :: after →
      Within (Request.limitAfter none before) ((opened c).performAll before).2 r) ∧
    ∀ before r after,
      let q := ((ofConfig c).performAll before).2
      ((ofConfig c).performAll (before ++ r :: after)).1[before.length]? = some (q.perform r).1 ∧
        q.limit = Request.limitAfter none (building c ++ before) ∧
        Within (Request.limitAfter none (building c ++ before)) q r := by
  have hstrict := isStrict_opened_of_strict hc
  have hwithin (before : List Request) (r : Request) :
      Within (Request.limitAfter none before) ((opened c).performAll before).2 r := by
    rw [← limit_opened c]
    exact within_performAll hstrict (tracks_opened c) before r
  refine ⟨fun before r _ _ => hwithin before r, fun before r after => ?_⟩
  have hstate : ((ofConfig c).performAll before).2 =
      ((opened c).performAll (building c ++ before)).2 := by
    rw [performAll_append, ofConfig_eq]
  refine ⟨answer_performAll _ before r after, ?_, ?_⟩
  · rw [hstate, limit_performAll, limit_opened]
  · rw [hstate]
    exact hwithin (building c ++ before) r

/-- Records that outgrow the limit are not executed until the limit is raised. -/
theorem strict_run_stays_within_outgrown :
    let c : Config :=
      { operations := [(.int 65, ⟨"a", none⟩)], maxLength := some 3, strictMode := true }
    let outgrown : List Request := [.append (.int 65) [.int 97], .append (.int 65) [.int 98]]
    let before := outgrown ++ [.setLimit 4]
    let q := ((ofConfig c).performAll before).2
    c.strictMode = true ∧
      (((ofConfig c).performAll outgrown).2.perform (.execute none)).1.calls = [] ∧
      (q.perform (.execute none)).1.calls ≠ [] ∧
      Limit.Fits (Request.limitAfter none (building c ++ before))
        (encode q.model.records).length := by
  intro c outgrown before q
  have hrefused :
      (((ofConfig c).performAll outgrown).2.perform (.execute none)).1.calls.length = 0 := by
    decide +kernel
  have hcalled : (q.perform (.execute none)).1.calls.length = 2 := by decide +kernel
  have hcalls : (q.perform (.execute none)).1.calls ≠ [] := by
    intro h
    rw [h] at hcalled
    cases hcalled
  obtain ⟨-, -, hwithin⟩ := (strict_run_stays_within c rfl).2 before (.execute none) []
  obtain ⟨s, hs, -, hfits⟩ := hwithin.calls hcalls
  injection hs with hs
  rw [← hs] at hfits
  exact ⟨rfl, List.length_eq_zero_iff.1 hrefused, hcalls, hfits⟩

end Opscript.Sequencer
