import Opscript.Proofs.Model.History
import Opscript.Proofs.Sequencer.Checks

/-!
# Refusals

A request for a single answer is done as a whole or refused as a whole. `Verdict` lists what it can
come to: it is refused behind one report and leaves everything else as it was, it is done and
reports nothing, or it is done behind a warning that its length is over the limit. `guarded` and
`admitted` come to a verdict if their acts do, and so does every request (`verdict_perform`).
-/

namespace Opscript

/-- A request that has one answer for the whole of it, which can be a refusal. -/
def Request.isSingle : Request → Bool
  | .registerOperation _ _ => true
  | .registerValue _ _ => true
  | .registerLabel _ _ => true
  | .append _ _ => true
  | .prepend _ _ => true
  | .insert _ _ _ => true
  | .remove _ => true
  | .index _ => true
  | .setSequence _ => true
  | .setLimit _ => true
  | .execute _ => true
  | _ => false

/-- An answer that says that nothing was done. -/
def Answer.isRefusal : Answer → Bool
  | .accepted yes => !yes
  | .created id => id.isNone
  | .position index => index.isNone
  | .execution e => e.outcome == .blocked
  | .done => false
  | .diagnostics _ => false

namespace Sequencer

/-- The length that a request has checked. -/
def measured (q : Sequencer) : Request → Option Nat
  | .setSequence s => some s.length
  | .execute s => some (q.lengthOf s)
  | _ => none

/-- The length that a request has checked is over the limit. -/
def Exceeds (q : Sequencer) (r : Request) : Prop :=
  ∃ n l, q.measured r = some n ∧ q.limit = some l ∧ l.val < n

/-- Apart from the diagnostics and the log, nothing is different. -/
def Untouched (q q' : Sequencer) : Prop :=
  q' = { q with diagnostics := q'.diagnostics, log := q'.log }

theorem not_exceeds_of_measured {q : Sequencer} {r : Request} (h : q.measured r = none) :
    ¬ q.Exceeds r := by
  rintro ⟨n, l, hn, -⟩
  rw [h] at hn
  cases hn

theorem not_exceeds_of_ok {q : Sequencer} {r : Request} {n : Nat} (hr : q.measured r = some n)
    (h : checkLength n q.limit = .ok ()) : ¬ q.Exceeds r := by
  rintro ⟨n', l, hn, hl, hlt⟩
  obtain rfl : n = n' := Option.some.inj (hr.symm.trans hn)
  exact Nat.not_le_of_lt hlt (checkLength_eq_ok_iff.1 h l hl)

/-- A report adds one diagnostic, unless a lenient policy drops its warnings. -/
theorem diagnostics_report (q : Sequencer) (v : Violation) :
    (q.report v).2.diagnostics =
      q.diagnostics ++ if q.policy = ⟨.lenient, true⟩ then [] else [q.policy.diagnostic v] := by
  unfold report
  obtain ⟨mode, ignore⟩ := q.policy
  cases mode <;> cases ignore <;> rfl

/-- Of the lenient policies one tells of its warnings and one drops them. -/
theorem policy_of_lenient {p : Policy} (h : p.isStrict = false) (hp : p ≠ ⟨.lenient, false⟩) :
    p = ⟨.lenient, true⟩ := by
  obtain ⟨mode, ignore⟩ := p
  cases mode with
  | strict => cases h
  | lenient =>
    cases ignore with
    | false => exact absurd rfl hp
    | true => rfl

/-! ## Verdicts -/

/-- Nothing is reported between `q` and `q'`. -/
structure Quiet (q q' : Sequencer) : Prop where
  policy : q'.policy = q.policy
  diagnostics : q'.diagnostics = q.diagnostics

/-- What a request for a single answer can come to. -/
inductive Verdict (q : Sequencer) (r : Request) : Answer × Sequencer → Prop where
  | refused {a : Answer} (v : Violation) (refusal : a.isRefusal = true) (still : a.calls = []) :
    Verdict q r (a, (q.report v).2)
  | done {a : Answer} {q' : Sequencer} (answer : a.isRefusal = false) (within : ¬ q.Exceeds r)
    (quiet : Quiet q q') : Verdict q r (a, q')
  | warned {a : Answer} {q' : Sequencer} (v : Violation) (answer : a.isRefusal = false)
    (lenient : q.policy.isStrict = false) (exceeds : q.Exceeds r) (kind : v.kind = .sequenceTooLong)
    (quiet : Quiet (q.report v).2 q') : Verdict q r (a, q')

variable {q : Sequencer} {r : Request}

theorem verdict_guarded {α : Type} {check : Except Violation α} {no : Answer}
    {act : α → Answer × Sequencer} (hno : no.isRefusal = true) (hcalls : no.calls = [])
    (hr : q.measured r = none)
    (hact : ∀ a, check = .ok a →
      (act a).1.isRefusal = false ∧ Quiet q (act a).2) :
    Verdict q r (q.guarded check no act) := by
  cases hc : check with
  | ok a => exact .done (hact a hc).1 (not_exceeds_of_measured hr) (hact a hc).2
  | error v => exact .refused v hno hcalls

theorem verdict_admitted {n : Nat} {no : Answer} {act : Sequencer → Answer × Sequencer}
    (hno : no.isRefusal = true) (hcalls : no.calls = []) (hr : q.measured r = some n)
    (hok : checkLength n q.limit = .ok () → Verdict q r (act q))
    (hact : ∀ v, q.policy.isStrict = false → checkLength n q.limit = .error v →
      (act (q.report v).2).1.isRefusal = false ∧ Quiet (q.report v).2 (act (q.report v).2).2) :
    Verdict q r (q.admitted n no act) := by
  unfold admitted
  cases hc : checkLength n q.limit with
  | ok => exact hok hc
  | error v =>
    obtain ⟨hkind, l, hl, hlt, -⟩ := checkLength_eq_error hc
    cases hq : q.policy.isStrict with
    | true => exact .refused v hno hcalls
    | false =>
      obtain ⟨hanswer, hquiet⟩ := hact v hq hc
      exact .warned v hanswer hq ⟨n, l, hr, hl, hlt⟩ hkind hquiet

/-- The end of a run is no refusal. -/
theorem answer_conclude (q : Sequencer) (run : Run) :
    (Answer.execution (q.conclude run).1).isRefusal = false ∧ Quiet q (q.conclude run).2 := by
  unfold conclude
  cases run.failure? <;> exact ⟨rfl, rfl, rfl⟩

theorem answer_launch {s : Option Sequence} (h : q.policy.isStrict = true → q.lengthOf s ≠ 0) :
    (Answer.execution (q.launch s).1).isRefusal = false ∧ Quiet q (q.launch s).2 := by
  by_cases hn : q.lengthOf s = 0
  · rw [launch_of_empty hn (lenient_of_empty h hn)]
    exact ⟨rfl, rfl, rfl⟩
  · rw [launch_of_pos hn]
    exact answer_conclude q _

theorem verdict_launch {s : Option Sequence}
    (h : checkLength (q.lengthOf s) q.limit = .ok ()) :
    Verdict q (.execute s) ((q.launch s).map .execution id) := by
  by_cases hstop : q.lengthOf s = 0 ∧ q.policy.isStrict = true
  · rw [launch_of_empty_strict hstop.1 hstop.2]
    exact .refused _ rfl rfl
  · have hgo : q.policy.isStrict = true → q.lengthOf s ≠ 0 := fun hq hn => hstop ⟨hn, hq⟩
    exact .done (answer_launch hgo).1 (not_exceeds_of_ok rfl h) (answer_launch hgo).2

/-- The record that a check has found is taken out. -/
theorem isSome_remove {m : Model} {id : RecordId} {i : Nat} (h : m.checkIndex id = .ok i) :
    (m.remove id).1.isSome = true := by
  rw [Model.fst_remove, Model.isSome_get?]
  unfold Model.checkIndex at h
  cases hi : m.index? id with
  | some => rfl
  | none =>
    rw [hi] at h
    cases h

theorem verdict_add (hr : q.measured r = none)
    (place : Model → Code → List Code → RecordId × Model) (operation : Symbol)
    (arguments : List Symbol) :
    Verdict q r ((q.add place operation arguments).map .created id) := by
  rw [add_eq, map_guarded]
  exact verdict_guarded rfl rfl hr fun _ _ => ⟨rfl, rfl, rfl⟩

/-- Every request for a single answer comes to a verdict. -/
theorem verdict_perform (q : Sequencer) {r : Request} (h : r.isSingle = true) :
    Verdict q r (q.perform r) := by
  cases r with
  | registerOperation s f =>
    rw [perform, registerOperation_eq, map_guarded]
    exact verdict_guarded rfl rfl rfl fun _ _ => ⟨rfl, rfl, rfl⟩
  | registerValue s value =>
    rw [perform, registerValue_eq, map_guarded]
    exact verdict_guarded rfl rfl rfl fun _ _ => ⟨rfl, rfl, rfl⟩
  | registerLabel label s =>
    rw [perform, registerLabel_eq, map_guarded]
    exact verdict_guarded rfl rfl rfl fun _ _ => ⟨rfl, rfl, rfl⟩
  | append operation arguments =>
    rw [perform, append]
    exact verdict_add rfl _ operation arguments
  | prepend operation arguments =>
    rw [perform, prepend]
    exact verdict_add rfl _ operation arguments
  | insert index operation arguments =>
    rw [perform, insert]
    exact verdict_add rfl _ operation arguments
  | remove id =>
    rw [perform, remove_eq, map_guarded]
    refine verdict_guarded rfl rfl rfl fun i hi => ⟨?_, rfl, rfl⟩
    have hfound := isSome_remove hi
    simp only [Prod.map, Answer.isRefusal, hfound, Bool.not_true]
  | index id =>
    rw [perform, index_eq, map_guarded]
    exact verdict_guarded rfl rfl rfl fun _ _ => ⟨rfl, rfl, rfl⟩
  | setSequence s =>
    rw [perform, setSequence_eq, map_admitted]
    exact verdict_admitted rfl rfl rfl (fun hok => .done rfl (not_exceeds_of_ok rfl hok) ⟨rfl, rfl⟩)
      fun _ _ _ => ⟨rfl, rfl, rfl⟩
  | setLimit n =>
    rw [perform, setLimit_eq, map_guarded]
    exact verdict_guarded rfl rfl rfl fun _ _ => ⟨rfl, rfl, rfl⟩
  | execute s =>
    rw [perform, execute_eq, map_admitted]
    exact verdict_admitted rfl rfl rfl verdict_launch fun v hq _ =>
      answer_launch (starts_of_lenient hq s).2
  | _ => cases h

/-- A request for a single answer that is refused leaves the registries, the records with their
ids and sequence, the limit, the policy and the resolution as they were, and calls nothing. It adds
one diagnostic, or none exactly if the policy is lenient and drops its warnings. One that is not
refused adds none, apart from one warning if its length is over the limit and a lenient policy
tells of it. -/
theorem perform_refused_or_done (q : Sequencer) (r : Request) (h : r.isSingle = true) :
    let answer := (q.perform r).1
    let after := (q.perform r).2
    (answer.isRefusal = true →
      q.Untouched after ∧ answer.calls = [] ∧
        ∃ v : Violation, after.diagnostics =
          q.diagnostics ++ if q.policy = ⟨.lenient, true⟩ then [] else [q.policy.diagnostic v]) ∧
      (answer.isRefusal = false →
        (q.policy = ⟨.lenient, false⟩ ∧ q.Exceeds r →
          ∃ d : Diagnostic, d.kind = .sequenceTooLong ∧ after.diagnostics = q.diagnostics ++ [d]) ∧
        (¬ (q.policy = ⟨.lenient, false⟩ ∧ q.Exceeds r) → after.diagnostics = q.diagnostics)) := by
  have hverdict := verdict_perform q h
  generalize q.perform r = x at hverdict
  intro answer after
  cases hverdict with
  | refused v refusal still =>
    exact ⟨fun _ => ⟨rfl, still, v, diagnostics_report q v⟩,
      fun hanswer => nomatch refusal.symm.trans hanswer⟩
  | done hanswer within quiet =>
    exact ⟨fun hrefusal => (nomatch hrefusal.symm.trans hanswer),
      fun _ => ⟨fun hover => absurd hover.2 within, fun _ => quiet.diagnostics⟩⟩
  | warned v hanswer lenient exceeds kind quiet =>
    have htold : after.diagnostics = _ := quiet.diagnostics.trans (diagnostics_report q v)
    refine ⟨fun hrefusal => (nomatch hrefusal.symm.trans hanswer),
      fun _ => ⟨?_, fun hnot => ?_⟩⟩
    · rintro ⟨hpolicy, -⟩
      refine ⟨q.policy.diagnostic v, by rw [Policy.diagnostic_eq, kind], ?_⟩
      rw [htold, hpolicy]
      rfl
    · have hpolicy := policy_of_lenient lenient fun hpolicy => hnot ⟨hpolicy, exceeds⟩
      rw [htold, if_pos hpolicy, List.append_nil]

/-- A sequence that is too long is refused by a strict sequencer and set by a lenient one; either
way there is one diagnostic. -/
theorem perform_refused_or_done_too_long :
    let strict : Sequencer := { limit := some ⟨1, by decide⟩, policy := ⟨.strict, false⟩ }
    let lenient : Sequencer := { strict with policy := ⟨.lenient, false⟩ }
    let r : Request := .setSequence [65, 66]
    r.isSingle = true ∧ (strict.perform r).1.isRefusal = true ∧
      strict.Untouched (strict.perform r).2 ∧ (strict.perform r).2.diagnostics.length = 1 ∧
      (lenient.perform r).1.isRefusal = false ∧ (lenient.perform r).2.diagnostics.length = 1 := by
  intro strict lenient r
  obtain ⟨huntouched, -, v, hv⟩ := (perform_refused_or_done strict r rfl).1 rfl
  obtain ⟨d, -, hd⟩ := ((perform_refused_or_done lenient r rfl).2 rfl).1
    ⟨rfl, 2, ⟨1, by decide⟩, rfl, rfl, by decide⟩
  exact ⟨rfl, rfl, huntouched, congrArg List.length hv, rfl, congrArg List.length hd⟩

end Sequencer

end Opscript
