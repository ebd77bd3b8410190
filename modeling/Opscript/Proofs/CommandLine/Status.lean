import Opscript.CommandLine.Program
import Opscript.Proofs.Sequencer.Journal

/-!
# How a command ends

A command asks its sequencer for one thing at most (`Session.request?`). What is reported while the
session is built and by the command, `reported`, is read off the configuration and the command
alone, and there is one event of the policy for each of it. The status is read off the diagnostics
that are collected and off whether the execution was blocked. Both come down to `reported`: in
strict mode each violation has a diagnostic, which is an error, in lenient mode none is an error,
and an execution that is blocked has reported a violation in strict mode (`run_status`).
-/

namespace Opscript

namespace Sequencer

variable {q : Sequencer}

/-- A request that is refused has found something. -/
theorem found_ne_nil_of_isRefusal {r : Request} (hr : r.isSingle = true)
    (h : (q.perform r).1.isRefusal = true) : q.found r ≠ [] := by
  intro hnone
  have hlog := policyLog_perform q r
  rw [hnone, List.map_nil, List.append_nil] at hlog
  have hverdict := verdict_perform q hr
  generalize q.perform r = x at h hlog hverdict
  cases hverdict with
  | refused v =>
    have hreport := (reports_report q v).events
    rw [hlog] at hreport
    exact List.cons_ne_nil _ _ (List.append_right_eq_self.1 hreport.symm)
  | done answer => exact nomatch h.symm.trans answer
  | warned v answer => exact nomatch h.symm.trans answer

/-- Only in strict mode an execution is blocked. -/
theorem isStrict_of_blocked {s : Option Sequence} (h : (q.execute s).1.outcome = .blocked) :
    q.policy.isStrict = true := by
  by_contra hlenient
  obtain ⟨hadmits, hnonempty⟩ := starts_of_lenient (Bool.eq_false_iff.2 hlenient) s
  rw [execute_eq, admitted_of_admits hadmits, gate_eq] at h
  have hgoes := (answer_launch (q := { q with
    diagnostics := (q.gate (q.lengthOf s)).diagnostics, log := (q.gate (q.lengthOf s)).log })
    hnonempty).1
  rw [Answer.isRefusal, h] at hgoes
  cases hgoes

end Sequencer

namespace CommandLine

/-! ## What is reported -/

/-- What a command asks its sequencer for. -/
def Session.request? (x : Session) : Command → Option Request
  | .dump => x.sequence.map .setSequence
  | .exec | .trace => some (.execute x.sequence)

theorem sequencer_work (i : Invocation) (p : Palette) (x : Session) :
    (work i p x).session.sequencer =
      (x.sequencer.performAll (x.request? i.command).toList).2 := by
  unfold work Session.request?
  cases i.command with
  | dump =>
    unfold dump
    cases x.sequence <;> rfl
  | exec => rfl
  | trace => rfl

theorem takeDiagnostics_not_mem_request? (x : Session) (command : Command) :
    .takeDiagnostics ∉ (x.request? command).toList := by
  intro h
  rw [Option.mem_toList] at h
  unfold Session.request? at h
  cases command with
  | dump =>
    obtain ⟨s, -, hs⟩ := Option.map_eq_some_iff.1 h
    cases hs
  | exec => cases h
  | trace => cases h

/-- The violations that are reported while a session is built and by the command. -/
def reported (i : Invocation) (c : Config) : List Violation :=
  let x := Session.build c i.options
  (Session.override c i.options).violations ++
    x.sequencer.foundAll (x.request? i.command).toList

section

variable (i : Invocation) (p : Palette) (c : Config)

/-- The policy has logged each violation that was reported. -/
theorem policyLog_work :
    (work i p (Session.build c i.options)).session.sequencer.policyLog =
      (reported i c).map fun v =>
        ((Sequencer.policyOf (Session.override c i.options)).report v).event := by
  rw [sequencer_work]
  exact Sequencer.policyLog_performAll_ofConfig _ _

/-- What a command leaves to be printed is collected of what was reported. -/
theorem diagnostics_work :
    (work i p (Session.build c i.options)).session.sequencer.diagnostics =
      (reported i c).flatMap (Sequencer.policyOf (Session.override c i.options)).collect := by
  have hbuilt : (Session.build c i.options).sequencer =
      Sequencer.ofConfig (Session.override c i.options) := rfl
  rw [sequencer_work,
    (Sequencer.reports_performAll _ (takeDiagnostics_not_mem_request? _ _)).diagnostics, hbuilt,
    Sequencer.diagnostics_ofConfig, Sequencer.policy_ofConfig, ← List.flatMap_append]
  rfl

/-- What is printed is all that was collected. -/
theorem snd_render (draw : Diagnostic.Draw) (x : Session) :
    (x.render draw).1.2 = x.sequencer.diagnostics :=
  List.take_append_drop x.setupCount x.sequencer.diagnostics

/-- The only command that can be blocked is an execution. -/
theorem execute_of_blocked {x : Session} (h : (work i p x).blocked = true) :
    x.request? i.command = some (.execute x.sequence) ∧
      (x.sequencer.execute x.sequence).1.outcome = .blocked := by
  unfold work at h
  unfold Session.request?
  cases hcommand : i.command with
  | dump =>
    rw [hcommand] at h
    cases h
  | exec =>
    rw [hcommand] at h
    exact ⟨rfl, eq_of_beq h⟩
  | trace =>
    rw [hcommand] at h
    exact ⟨rfl, eq_of_beq h⟩

/-- What is blocked has reported a violation, and in strict mode. -/
theorem reported_of_blocked (h : (work i p (Session.build c i.options)).blocked = true) :
    (c.strictMode || i.options.strict) = true ∧ reported i c ≠ [] := by
  obtain ⟨hrequest, hblocked⟩ := execute_of_blocked i p h
  constructor
  · have hstrict := Sequencer.isStrict_of_blocked hblocked
    have hpolicy : (Session.build c i.options).sequencer.policy =
        Sequencer.policyOf (Session.override c i.options) := Sequencer.policy_ofConfig _
    rw [hpolicy, Sequencer.isStrict_policyOf] at hstrict
    exact hstrict
  · have hfound := Sequencer.found_ne_nil_of_isRefusal
      (q := (Session.build c i.options).sequencer)
      (r := .execute (Session.build c i.options).sequence) rfl (beq_iff_eq.2 hblocked)
    unfold reported
    dsimp only
    rw [hrequest, Option.toList_some, Sequencer.foundAll, Sequencer.foundAll, List.append_nil]
    exact List.append_ne_nil_of_right_ne_nil _ hfound

/-- There is an error among the diagnostics exactly if something was reported in strict mode. -/
theorem anyError_work :
    Diagnostic.anyError (work i p (Session.build c i.options)).session.sequencer.diagnostics =
        true ↔ (c.strictMode || i.options.strict) = true ∧ reported i c ≠ [] := by
  have hmode : (Session.override c i.options).strictMode = (c.strictMode || i.options.strict) := rfl
  rw [diagnostics_work, Sequencer.anyError_iff (Session.override c i.options), hmode]
  · refine and_congr_right fun hstrict => not_congr ?_
    rw [Policy.flatMap_collect_of_strict ((Sequencer.isStrict_policyOf _).trans hstrict),
      List.map_eq_nil_iff]
  · intro d hd
    obtain ⟨v, -, hv⟩ := List.mem_flatMap.1 hd
    rw [Policy.severity_of_mem_collect hv, Sequencer.severity_policyOf]

theorem status_runConfig (filter : Log.Filter) (colored : Bool) :
    (runConfig i filter colored c).status =
      if (c.strictMode || i.options.strict) = true ∧ reported i c ≠ [] then 1 else 0 := by
  unfold runConfig
  dsimp only
  rw [snd_render]
  refine ite_congr (propext ?_) (fun _ => rfl) fun _ => rfl
  rw [Bool.or_eq_true, anyError_work]
  exact or_iff_right_of_imp (reported_of_blocked i _ c)

end

/-! ## What is read -/

/-- The configuration of a document. -/
def configOf (document : Json) : Config := (Config.Loading.ofJson (fun _ => bind) document).config

section

variable (path : String) {text : String}

theorem load_of_fault {fault : Json.ReadError} (h : Json.read text = .error fault) :
    load path (.ok text) = .error (.document path fault) := by
  unfold load Config.read
  dsimp only
  rw [h]
  rfl

theorem load_of_document {document : Json} (h : Json.read text = .ok document) :
    load path (.ok text) = .ok (configOf document) := by
  unfold load Config.read
  dsimp only
  rw [h]
  rfl

end

section

variable {i : Invocation} (filter : Log.Filter) (terminal : Bool) {text : Except FileFault String}

theorem run_of_load_error {e : LoadError} (h : load i.options.config text = .error e) :
    run i filter terminal text = ⟨1, "", "error: " ++ e.message ++ "\n"⟩ := by
  unfold run
  rw [h]

theorem run_of_load {c : Config} (h : load i.options.config text = .ok c) :
    run i filter terminal text = runConfig i filter (i.options.color.applies terminal) c := by
  unfold run
  rw [h]

end

/-- A command ends with status 1 if its text is no JSON. Otherwise it ends with status 1 exactly if
its mode is strict, by the configuration or by an option, and a violation was reported while the
session was built or by the command; the policy logs each of them. In all other cases it ends with
status 0, so that in lenient mode it always does. What is blocked ends with status 1. -/
theorem run_status (i : Invocation) (filter : Log.Filter) (terminal : Bool) (text : String) :
    let status := (run i filter terminal (.ok text)).status
    (∀ fault, Json.read text = .error fault → status = 1) ∧
    ∀ document, Json.read text = .ok document →
      let c := configOf document
      let strict := c.strictMode || i.options.strict
      let w := work i (.ofBool (i.options.color.applies terminal)) (Session.build c i.options)
      let report := (Sequencer.policyOf (Session.override c i.options)).report
      w.session.sequencer.policyLog = (reported i c).map (fun v => (report v).event) ∧
        (status = 1 ↔ strict = true ∧ reported i c ≠ []) ∧ (status = 0 ∨ status = 1) ∧
        (strict = false → status = 0) ∧ (w.blocked = true → status = 1) := by
  intro status
  refine ⟨fun fault hread => ?_, fun document hread => ?_⟩
  · exact congrArg Output.status (run_of_load_error filter terminal (load_of_fault _ hread))
  · intro c strict w report
    have hstatus : status = if strict = true ∧ reported i c ≠ [] then 1 else 0 :=
      (congrArg Output.status (run_of_load filter terminal (load_of_document _ hread))).trans
        (status_runConfig i c filter _)
    refine ⟨policyLog_work i _ c, ?_, ?_, fun hlenient => ?_, fun hblocked => ?_⟩
    · rw [hstatus]
      split
      next h => exact iff_of_true rfl h
      next h => exact iff_of_false Nat.zero_ne_one h
    · rw [hstatus]
      split
      · exact .inr rfl
      · exact .inl rfl
    · rw [hstatus, if_neg]
      exact fun h => Bool.false_ne_true (hlenient.symm.trans h.1)
    · rw [hstatus, if_pos (reported_of_blocked i _ c hblocked)]

/-- An execution of nothing is a violation, but only in strict mode. -/
theorem run_status_empty :
    let strict : Invocation := ⟨.exec, ⟨"-", none, true, false, none, .never, 0⟩, false⟩
    let lenient : Invocation := ⟨.exec, ⟨"-", none, false, false, none, .never, 0⟩, false⟩
    let document : Json := .object []
    Json.read "\x7b\x7d" = .ok document ∧ (configOf document).strictMode = false ∧
      (reported strict (configOf document)).map Violation.kind = [.emptySequence] ∧
      (run strict [] false (.ok "\x7b\x7d")).status = 1 ∧
      (run lenient [] false (.ok "\x7b\x7d")).status = 0 ∧
      ∃ fault, Json.read "\x7b" = .error fault ∧
        (run lenient [] false (.ok "\x7b")).status = 1 := by
  intro strict lenient document
  have hread : Json.read "\x7b\x7d" = .ok document := by rfl
  have hfound : (reported strict (configOf document)).map Violation.kind = [.emptySequence] := by
    rfl
  have hstrict := (run_status strict [] false "\x7b\x7d").2 document hread
  have hlenient := (run_status lenient [] false "\x7b\x7d").2 document hread
  obtain ⟨fault, hfault⟩ : ∃ fault, Json.read "\x7b" = .error fault := ⟨_, rfl⟩
  refine ⟨hread, rfl, hfound, hstrict.2.1.2 ⟨rfl, ?_⟩, hlenient.2.2.2.1 rfl, fault, hfault,
    (run_status lenient [] false "\x7b").1 fault hfault⟩
  intro hnone
  rw [hnone] at hfound
  cases hfound

end CommandLine

end Opscript
