import Opscript.Diagnostic.Print
import Opscript.Proofs.Sequencer.Construction

/-!
# The log beside the diagnostics

The policy logs every violation that it is handed, and collects a diagnostic of it unless it is
told to drop its warnings. `Journal` says how the two lists stand to each other: each diagnostic has
been logged as a warning or an error, in the same order and with the same text, and a violation
without a diagnostic has been logged at a lower level. That is so at the end of every run
(`journal_performAll`), whatever was taken out in between.
-/

namespace Opscript

/-- The event by which a diagnostic is logged. -/
def Diagnostic.event (d : Diagnostic) : Log.Event where
  level := match d.severity with
    | .error => .error
    | .warning => .warn
  topic := .policy
  message := d.message
  fields := [("kind", d.kind.name), ("category", d.category.name)]

/-- The event by which a violation is logged that has no diagnostic. -/
def Violation.aside (v : Violation) : Log.Event where
  level := .debug
  topic := .policy
  message := "suppressed: " ++ v.message
  fields := [("kind", v.kind.name), ("category", v.kind.category.name)]

/-- Whether an event is a warning or an error. -/
def Log.Event.isAlarm (e : Log.Event) : Bool := e.level == .warn || e.level == .error

def Log.Event.isDebug (e : Log.Event) : Bool := e.level == .debug

theorem Diagnostic.isAlarm_event (d : Diagnostic) :
    d.event.isAlarm = true ∧ d.event.isDebug = false := by
  unfold event Log.Event.isAlarm Log.Event.isDebug
  cases d.severity <;> exact ⟨rfl, rfl⟩

namespace Policy

theorem event_report_of_suppresses {p : Policy} (h : p.suppresses = true) (v : Violation) :
    (p.report v).event = v.aside := by
  unfold report
  rw [if_pos h]
  rfl

theorem event_report_of_tells {p : Policy} (h : p.suppresses = false) (v : Violation) :
    (p.report v).event = (p.diagnostic v).event := by
  unfold report
  rw [if_neg (Bool.eq_false_iff.1 h), diagnostic_eq]
  obtain ⟨mode, ignore⟩ := p
  cases mode <;> rfl

variable (p : Policy) (vs : List Violation)

/-- The warnings and errors among the events of reports are those of what is collected. -/
theorem filter_isAlarm_reports :
    (vs.map fun v => (p.report v).event).filter Log.Event.isAlarm =
      (vs.flatMap p.collect).map Diagnostic.event := by
  rw [flatMap_collect]
  cases h : p.suppresses with
  | true =>
    refine List.filter_eq_nil_iff.2 fun e he => ?_
    obtain ⟨v, -, rfl⟩ := List.mem_map.1 he
    rw [event_report_of_suppresses h]
    exact Bool.false_ne_true
  | false =>
    simp only [event_report_of_tells h]
    rw [if_neg Bool.false_ne_true, List.map_map]
    refine List.filter_eq_self.2 fun e he => ?_
    obtain ⟨v, -, rfl⟩ := List.mem_map.1 he
    exact (p.diagnostic v).isAlarm_event.1

/-- The other events of reports are those of what is dropped. -/
theorem filter_isDebug_reports :
    (vs.map fun v => (p.report v).event).filter Log.Event.isDebug =
      if p.suppresses then vs.map Violation.aside else [] := by
  cases h : p.suppresses with
  | true =>
    simp only [event_report_of_suppresses h]
    refine List.filter_eq_self.2 fun e he => ?_
    obtain ⟨v, -, rfl⟩ := List.mem_map.1 he
    rfl
  | false =>
    refine List.filter_eq_nil_iff.2 fun e he => ?_
    obtain ⟨v, -, rfl⟩ := List.mem_map.1 he
    rw [event_report_of_tells h, (p.diagnostic v).isAlarm_event.2]
    exact Bool.false_ne_true

end Policy

namespace Sequencer

/-- What the policy has logged as warnings and errors. -/
def alarms (q : Sequencer) : List Log.Event := q.policyLog.filter Log.Event.isAlarm

/-- What the policy has logged for those who look for it. -/
def asides (q : Sequencer) : List Log.Event := q.policyLog.filter Log.Event.isDebug

/-- How the diagnostics and the log of a run stand to the violations that were reported. -/
structure Journal (c : Config) (reported : List Violation) (run : List Answer × Sequencer) :
    Prop where
  policy : run.2.policy = policyOf c
  severity : ∀ d ∈ told run, d.severity = if c.strictMode then .error else .warning
  errors : Diagnostic.anyError run.2.diagnostics = true ↔
    c.strictMode = true ∧ run.2.diagnostics ≠ []
  silent : c.strictMode = false → c.ignoreWarnings = true → run.2.diagnostics = []
  grows : ∀ r, r ≠ .takeDiagnostics → run.2.diagnostics <+: (run.2.perform r).2.diagnostics
  told : told run =
    if !c.strictMode && c.ignoreWarnings then [] else reported.map (policyOf c).diagnostic
  alarms : run.2.alarms = (Sequencer.told run).map Diagnostic.event
  asides : run.2.asides =
    if !c.strictMode && c.ignoreWarnings then reported.map Violation.aside else []

/-! ## From the construction on -/

section

variable (c : Config) (rs : List Request)

theorem told_performAll_ofConfig :
    told ((ofConfig c).performAll rs) =
      (c.violations ++ (ofConfig c).foundAll rs).flatMap (policyOf c).collect := by
  rw [told_performAll, diagnostics_ofConfig, policy_ofConfig, List.flatMap_append]

theorem policyLog_performAll_ofConfig :
    ((ofConfig c).performAll rs).2.policyLog =
      (c.violations ++ (ofConfig c).foundAll rs).map fun v => ((policyOf c).report v).event := by
  rw [policyLog_performAll, policyLog_ofConfig, policy_ofConfig, List.map_append]

/-- In lenient mode there is no error, and in strict mode nothing but errors. -/
theorem anyError_iff {ds : List Diagnostic}
    (h : ∀ d ∈ ds, d.severity = if c.strictMode then .error else .warning) :
    Diagnostic.anyError ds = true ↔ c.strictMode = true ∧ ds ≠ [] := by
  unfold Diagnostic.anyError
  rw [List.any_eq_true]
  constructor
  · rintro ⟨d, hd, herror⟩
    refine ⟨?_, List.ne_nil_of_mem hd⟩
    by_contra hlenient
    rw [Diagnostic.isError, h d hd, if_neg hlenient] at herror
    cases herror
  · rintro ⟨hstrict, hne⟩
    obtain ⟨d, hd⟩ := List.exists_mem_of_ne_nil ds hne
    refine ⟨d, hd, ?_⟩
    rw [Diagnostic.isError, h d hd, if_pos hstrict]
    rfl

/-- From its construction on, a sequencer keeps its diagnostics and its log in step. Everything
that it collects has the severity of its mode, so that there are errors exactly if the mode is
strict and there is anything at all; a lenient sequencer that ignores warnings collects nothing.
A request adds diagnostics at the end, unless it takes them out. Of all violations that were
reported, while the sequencer was built and in the run, in order, each has one diagnostic and one
warning or error in the log, with the same text, or no diagnostic and one event at a lower level if
the policy drops it. -/
theorem journal_performAll :
    Journal c (c.violations ++ (ofConfig c).foundAll rs) ((ofConfig c).performAll rs) := by
  have hcollected := told_performAll_ofConfig c rs
  have hlog := policyLog_performAll_ofConfig c rs
  have htold := hcollected
  rw [Policy.flatMap_collect, suppresses_policyOf] at htold
  have hseverity : ∀ d ∈ told ((ofConfig c).performAll rs),
      d.severity = if c.strictMode then .error else .warning := by
    intro d hd
    rw [severity_of_mem_told_ofConfig hd, severity_policyOf]
  have hleft : ∀ d ∈ ((ofConfig c).performAll rs).2.diagnostics,
      d ∈ told ((ofConfig c).performAll rs) := fun d => List.mem_append_right _
  refine {
    policy := by rw [policy_performAll, policy_ofConfig]
    severity := hseverity
    errors := anyError_iff c fun d hd => hseverity d (hleft d hd)
    silent := fun hlenient hignore => ?_
    grows := fun r hr => ?_
    told := htold
    alarms := ?_
    asides := ?_ }
  · rw [hlenient, hignore] at htold
    exact (List.append_eq_nil_iff.1 htold).2
  · rw [(reports_perform _ hr).diagnostics]
    exact List.prefix_append _ _
  · rw [Sequencer.alarms, hlog, Policy.filter_isAlarm_reports, hcollected]
  · rw [Sequencer.asides, hlog, Policy.filter_isDebug_reports, suppresses_policyOf]

end

end Sequencer

end Opscript
