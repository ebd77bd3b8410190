import Opscript.Proofs.Sequencer.Alike

/-!
# Warnings and limits are advice

A lenient sequencer warns and goes on. `Blur.advice` does not tell diagnostics apart, nor what a
policy logs, and no report is seen under it. So lenient runs of the same requests stay alike
whether warnings are dropped or not. If the blur takes away the limit as well, then requests that
only set the limit are not seen either, and a run stays alike to the run without them
(`alike_performAll_filter`).
-/

namespace Opscript

/-- A request that does nothing but set or clear the limit. -/
def Request.setsLimit : Request → Bool
  | .setLimit _ => true
  | .clearLimit => true
  | _ => false

/-- The answers to the requests that pass a test. -/
def Request.answersTo (keep : Request → Bool) : List Request → List Answer → List Answer
  | r :: rs, a :: answers =>
    if keep r then a :: answersTo keep rs answers else answersTo keep rs answers
  | _, _ => []

namespace Blur

/-- Diagnostics are not told apart, nor what a policy logs, nor limits that look the same under
`limit`. -/
def advice (limit : Option Limit → Option Limit) : Blur where
  limit := limit
  diagnostic _ := none
  event e := if e.topic = .policy then none else some e

/-- The limit is seen, and what is advised about it is not. -/
abbrev warnings : Blur := advice id

/-- Neither the limit is seen nor what is advised about it. -/
abbrev limits : Blur := advice fun _ => none

theorem hides_advice (limit : Option Limit → Option Limit) (p : Policy) :
    (advice limit).Hides p where
  diagnostic v := by
    cases (p.report v).diagnostic <;> rfl
  event v := by
    unfold Policy.report
    cases p.suppresses <;> rfl

theorem covers_advice (limit : Option Limit → Option Limit) (p p' : Policy) :
    (advice limit).Covers p p' :=
  (hides_advice limit p).covers (hides_advice limit p')

end Blur

namespace Sequencer

variable {q p : Sequencer}

/-- A request that sets the limit leaves nothing that is seen without the limit, and calls
nothing. -/
theorem alike_setsLimit (h : Alike .limits q p) {r : Request} (hr : r.setsLimit = true) :
    Alike .limits (q.perform r).2 p ∧ (q.perform r).1.calls = [] := by
  cases r with
  | setLimit n =>
    refine ⟨?_, rfl⟩
    rw [perform, setLimit_eq, map_guarded]
    unfold guarded
    cases Limit.check n with
    | ok l => exact { h with limit := rfl }
    | error v => exact h.report_left (Blur.hides_advice _ _) v
  | clearLimit => exact ⟨{ h with limit := rfl }, rfl⟩
  | _ => cases hr

/-- Requests that set the limit can be left out of a lenient run: the others get the same answers,
nothing else is called, and the two runs end alike. -/
theorem alike_performAll_filter (h : Alike .limits q p) (hq : q.policy.isStrict = false)
    (hp : p.policy.isStrict = false) (rs : List Request) :
    let kept := Request.answersTo (fun r => !r.setsLimit) rs (q.performAll rs).1
    let rest := p.performAll (rs.filter fun r => !r.setsLimit)
    rest.1.map (Answer.blurred .limits) = kept.map (Answer.blurred .limits) ∧
      kept.flatMap Answer.calls = (q.performAll rs).1.flatMap Answer.calls ∧
      Alike .limits (q.performAll rs).2 rest.2 := by
  induction rs generalizing q p with
  | nil => exact ⟨rfl, rfl, h⟩
  | cons r rest ih =>
    have hq' : (q.perform r).2.policy.isStrict = false := by rw [policy_perform, hq]
    -- A request that sets the limit is performed on the left only, any other one on both sides.
    cases hr : r.setsLimit with
    | true =>
      obtain ⟨halike, hcalls⟩ := alike_setsLimit h hr
      obtain ⟨ihanswers, ihcalls, ihalike⟩ := ih halike hq' hp
      have hdrop : (!r.setsLimit) = false := by rw [hr]; rfl
      simp only [List.filter_cons, performAll, Request.answersTo, hdrop, Bool.false_eq_true,
        if_false, List.flatMap_cons, hcalls, List.nil_append]
      exact ⟨ihanswers, ihcalls, ihalike⟩
    | false =>
      have hp' : (p.perform r).2.policy.isStrict = false := by rw [policy_perform, hp]
      obtain ⟨hanswer, halike⟩ :=
        alike_perform h (accepts_of_lenient hq r) (accepts_of_lenient hp r)
      obtain ⟨ihanswers, ihcalls, ihalike⟩ := ih halike hq' hp'
      have hkeep : (!r.setsLimit) = true := by rw [hr]; rfl
      simp only [List.filter_cons, performAll, Request.answersTo, hkeep, if_true,
        List.flatMap_cons, List.map_cons, hanswer, ihanswers, ihcalls, true_and]
      exact ihalike

/-! ## Configurations -/

theorem isStrict_opened {c : Config} (hc : c.strictMode = false) :
    (opened c).policy.isStrict = false := by
  rw [policy_opened, policyOf, hc]
  rfl

theorem isStrict_ofConfig {c : Config} (hc : c.strictMode = false) :
    (ofConfig c).policy.isStrict = false := by
  rw [policy_ofConfig, policyOf, hc]
  rfl

/-- A sequencer is built the same way whether warnings are dropped or not. -/
theorem alike_ofConfig_ignoreWarnings {c : Config} (hc : c.strictMode = false) (ignore : Bool) :
    Alike .warnings (ofConfig { c with ignoreWarnings := ignore }) (ofConfig c) := by
  have hopened : Alike .warnings (opened { c with ignoreWarnings := ignore }) (opened c) :=
    alike_opened rfl rfl (Blur.covers_advice id _ _)
  have hignore : (opened { c with ignoreWarnings := ignore }).policy.isStrict = false :=
    isStrict_opened hc
  rw [ofConfig_eq, ofConfig_eq]
  exact (alike_performAll hopened (acceptsAll_of_lenient hignore _)
    (acceptsAll_of_lenient (isStrict_opened hc) _)).2

theorem building_without_limit (c : Config) :
    building { c with maxLength := none } = (building c).filter fun r => !r.setsLimit := by
  unfold building
  cases c.maxLength <;> cases c.sequence <;> rfl

/-- A sequencer is built the same way without a limit, apart from the limit. -/
theorem alike_ofConfig_maxLength {c : Config} (hc : c.strictMode = false) :
    Alike .limits (ofConfig c) (ofConfig { c with maxLength := none }) := by
  have hopened : Alike .limits (opened c) (opened { c with maxLength := none }) :=
    alike_opened rfl rfl (Blur.covers_advice (fun _ => none) _ _)
  rw [ofConfig_eq, ofConfig_eq, building_without_limit]
  exact (alike_performAll_filter hopened (isStrict_opened hc) (isStrict_opened hc) _).2.2

/-- In lenient mode, whether warnings are dropped, and whether limits are set at all, makes no
difference but for diagnostics and limits: each request gets the same answer, the same calls are
made, and the registries, the records with their ids and sequence, and the resolution are the same
at each point of the run. -/
theorem lenient_run_ignores_advice (c : Config) (hc : c.strictMode = false) (rs : List Request) :
    let start := ofConfig c
    let toggled := ofConfig { c with ignoreWarnings := !c.ignoreWarnings }
    let unlimited := ofConfig { c with maxLength := none }
    let rest (rs : List Request) := rs.filter fun r => !r.setsLimit
    ((toggled.performAll rs).1.map (Answer.blurred .warnings) =
        (start.performAll rs).1.map (Answer.blurred .warnings) ∧
      (toggled.performAll rs).1.flatMap Answer.calls =
        (start.performAll rs).1.flatMap Answer.calls ∧
      ∀ before, before <+: rs →
        Alike .warnings (toggled.performAll before).2 (start.performAll before).2) ∧
    ((unlimited.performAll (rest rs)).1.map (Answer.blurred .limits) =
        (Request.answersTo (fun r => !r.setsLimit) rs (start.performAll rs).1).map
          (Answer.blurred .limits) ∧
      (unlimited.performAll (rest rs)).1.flatMap Answer.calls =
        (start.performAll rs).1.flatMap Answer.calls ∧
      ∀ before, before <+: rs →
        (unlimited.performAll (rest before)).2.policy = (start.performAll before).2.policy ∧
          Alike .limits (start.performAll before).2 (unlimited.performAll (rest before)).2) := by
  intro start toggled unlimited rest
  have hstart : start.policy.isStrict = false := isStrict_ofConfig hc
  have htoggled : toggled.policy.isStrict = false := isStrict_ofConfig hc
  have hunlimited : unlimited.policy.isStrict = false := isStrict_ofConfig hc
  have hignore : Alike .warnings toggled start := alike_ofConfig_ignoreWarnings hc _
  have hlimit : Alike .limits start unlimited := alike_ofConfig_maxLength hc
  have htoggle (rs : List Request) := alike_performAll hignore
    (acceptsAll_of_lenient htoggled rs) (acceptsAll_of_lenient hstart rs)
  have hfilter (rs : List Request) := alike_performAll_filter hlimit hstart hunlimited rs
  refine ⟨⟨(htoggle rs).1, ?_, fun before _ => (htoggle before).2⟩,
    (hfilter rs).1, ?_, fun before _ => ⟨?_, (hfilter before).2.2⟩⟩
  · rw [← flatMap_calls_blurred .warnings, (htoggle rs).1, flatMap_calls_blurred]
  · rw [← flatMap_calls_blurred .limits, (hfilter rs).1, flatMap_calls_blurred, (hfilter rs).2.1]
  · rw [policy_performAll, policy_performAll, policy_ofConfig, policy_ofConfig]
    rfl

/-- A run over its limit, with a warning, makes the calls of the run without one. -/
theorem lenient_run_ignores_advice_small :
    let c : Config := { operations := [(.int 65, ⟨"a", none⟩)], maxLength := some 1 }
    let rs : List Request :=
      [.append (.int 65) [.int 97], .execute none, .setLimit 2, .execute none]
    let run := (ofConfig c).performAll rs
    let unlimited := (ofConfig { c with maxLength := none }).performAll
      [.append (.int 65) [.int 97], .execute none, .execute none]
    c.strictMode = false ∧ unlimited.1.flatMap Answer.calls = run.1.flatMap Answer.calls ∧
      (run.1.flatMap Answer.calls).length = 2 ∧ run.2.diagnostics.length = 1 ∧
      unlimited.2.diagnostics.length = 0 := by
  intro c rs run unlimited
  have hrun : (run.1.flatMap Answer.calls).length = 2 ∧ run.2.diagnostics.length = 1 ∧
      unlimited.2.diagnostics.length = 0 := by
    decide +kernel
  obtain ⟨-, -, hcalls, -⟩ := lenient_run_ignores_advice c rfl rs
  exact ⟨rfl, hcalls, hrun⟩

end Sequencer

end Opscript
