import Opscript.Proofs.CommandLine.Status
import Opscript.Proofs.Config.Fields
import Opscript.Proofs.Execution.Observed
import Opscript.Proofs.Sequencer.Stored
import Opscript.Proofs.Trace.Lines

/-!
# What `exec` and `trace` show of the calls

`exec` prints each call from within, `trace` prints what an observer of the run is told and then how
many calls there were. The two agree because each step of an execution from the command line is a
call and none of them breaks off: a sequence is cut at operations that have a callback, the records
that a configuration leaves have operations that are registered, and every name stands for a
callback that comes back. `Callable` says so of a sequencer, and `callable_build` of every session
whose configuration was read. A brief trace then has one line for each call (`lines_brief`), and
both commands tell the same story (`exec_trace_agree`).
-/

namespace Opscript

/-- The arguments of a call in print. -/
def Call.argumentsText (p : Palette) (call : Call) : String :=
  String.intercalate ", " (call.arguments.map (Value.formatArgument p))

/-! ## Lines of a trace -/

namespace Trace

/-- The line of a call in a brief trace. -/
def callLine (p : Palette) (index : Nat) (call : Call) : String :=
  p.dim (Listing.padLeft 3 (toString index)) ++ " " ++ p.blue call.operation.glyph ++
    "(" ++ call.argumentsText p ++ ")"

/-- A brief trace shows the arguments without their codes. -/
theorem arguments_brief (p : Palette) (codes : List Code) (resolve : Code → Option Value) :
    arguments p .brief codes (codes.map resolve) =
      String.intercalate ", " ((codes.map resolve).map (Value.formatArgument p)) := by
  unfold arguments
  rw [List.zipWith_map_right, List.zipWith_self, List.map_map]
  rfl

theorem callLine_ne_empty (p : Palette) (index : Nat) (call : Call) :
    callLine p index call ≠ "" := by
  intro h
  have hend : ")" = "" := (String.append_eq_empty_iff.1 h).2
  exact absurd hend (by decide)

/-- An operation that is called has the line of its call. -/
theorem line?_step {x : Executor} {operation : Code}
    (h : x.operations.contains operation = true) (p : Palette) (index : Nat) (codes : List Code) :
    ∃ call, (x.step index operation codes).call? = some call ∧
      line? p .brief (x.step index operation codes).event = some (callLine p index call) := by
  obtain ⟨f, hf⟩ := Executor.step_of_contains h index codes
  rw [hf]
  refine ⟨_, rfl, ?_⟩
  have harguments := arguments_brief p codes (x.resolution.resolve x.values)
  show some (p.dim (Listing.padLeft 3 (toString index)) ++ " " ++ p.blue operation.glyph ++
    "(" ++ arguments p .brief codes (x.resolve codes) ++ ")") = _
  rw [Executor.resolve, harguments]
  rfl

/-- In a brief trace of operations that are called there is one line for each call. -/
theorem lines_stepsFrom (x : Executor) (p : Palette) (index : Nat)
    {contents : List (Code × List Code)}
    (h : ∀ c ∈ contents, x.operations.contains c.1 = true) :
    lines p .brief ((contents.mapIdx fun i c => x.step (index + i) c.1 c.2).map Step.event) =
      ((contents.mapIdx fun i c => x.step (index + i) c.1 c.2).filterMap Step.call?).mapIdx
        fun i call => callLine p (index + i) call := by
  induction contents generalizing index with
  | nil => rfl
  | cons c rest ih =>
    obtain ⟨hc, hrest⟩ := List.forall_mem_cons.1 h
    obtain ⟨call, hcall, hline⟩ := line?_step hc p index c.2
    rw [mapIdx_cons_add (fun i (c : Code × List Code) => x.step i c.1 c.2), List.map_cons,
      List.filterMap_cons, hcall, lines, List.filterMap_cons, hline]
    dsimp only
    rw [mapIdx_cons_add (fun i call => callLine p i call), ← ih (index + 1) hrest]
    rfl

/-- The leading codes of a sequence have no line in a brief trace. -/
theorem lines_brief (p : Palette) {x : Executor} {r : Run} {contents : List (Code × List Code)}
    (hsteps : r.steps = x.stepsOf contents)
    (h : ∀ c ∈ contents, x.operations.contains c.1 = true) :
    lines p .brief r.events = r.calls.mapIdx (callLine p) := by
  have hleading : lines p .brief r.events = lines p .brief (r.steps.map Step.event) := by
    unfold lines Run.events
    rw [List.filterMap_append]
    split <;> rfl
  have hlines := lines_stepsFrom x p 0 h
  simp only [Nat.zero_add] at hlines
  rw [hleading, Run.calls, hsteps]
  exact hlines

theorem render_brief (p : Palette) {x : Executor} {r : Run} {contents : List (Code × List Code)}
    (hsteps : r.steps = x.stepsOf contents)
    (h : ∀ c ∈ contents, x.operations.contains c.1 = true) :
    render p .brief r.events = String.join (r.calls.mapIdx fun i c => callLine p i c ++ "\n") := by
  rw [render, lines_brief p hsteps h, join_eq, map_mapIdx]
  intro l hl
  obtain ⟨i, hi, rfl⟩ := List.mem_mapIdx.1 hl
  exact callLine_ne_empty p i _

end Trace

/-! ## Executions -/

theorem Executor.get?_of_mem_calls {x : Executor} {r : Run} {contents : List (Code × List Code)}
    (hsteps : r.steps = x.stepsOf contents) {call : Call} (h : call ∈ r.calls) :
    x.operations.get? call.operation = some call.callback := by
  rw [Run.calls, hsteps, List.mem_filterMap] at h
  obtain ⟨s, hs, hcall⟩ := h
  rw [stepsOf, List.mem_mapIdx] at hs
  obtain ⟨i, hi, rfl⟩ := hs
  unfold step at hcall
  split at hcall
  next f hf =>
    cases hcall
    exact hf
  next => cases hcall

theorem Run.failure?_eq_none {r : Run} (h : ∀ s ∈ r.steps, s.failure? = none) :
    r.failure? = none := by
  have key : ∀ steps : List Step, (∀ s ∈ steps, s.failure? = none) → (cut steps).2 = none := by
    intro steps
    induction steps with
    | nil => exact fun _ => rfl
    | cons s rest ih =>
      intro h
      obtain ⟨hs, hrest⟩ := List.forall_mem_cons.1 h
      rw [cut, hs]
      exact ih hrest
  exact key r.steps h

namespace Sequencer

variable {σ : Type} {q : Sequencer}

/-- The operations that an execution comes to, with their argument codes. -/
def contentsOf (q : Sequencer) : Option Sequence → List (Code × List Code)
  | some u => (decode q.space u).contents
  | none => q.model.records.map Record.content

/-- The run of a sequence, or of the model, with an observer. -/
def watch (q : Sequencer) (o : Observer σ) (kept : σ) :
    Option Sequence → Progress σ × Option String
  | some u => q.executor.watchSequence o kept u
  | none => q.executor.watchRecords o kept q.model.records

theorem steps_runOf (q : Sequencer) (s : Option Sequence) :
    (q.runOf s).steps = q.executor.stepsOf (q.contentsOf s) := by
  cases s with
  | some u => exact Executor.steps_runSequence _ u
  | none => exact Executor.steps_runRecords _ _

theorem watched_watch (q : Sequencer) (o : Observer σ) (kept : σ) (s : Option Sequence) :
    (q.runOf s).Watched o kept (q.watch o kept s) := by
  cases s with
  | some u => exact Executor.watched_watchSequence _ o kept u
  | none => exact Executor.watched_watchRecords _ o kept _

/-- Each operation that an execution comes to is called, and no call breaks off. -/
structure Callable (q : Sequencer) : Prop where
  callbacks : ∀ k f, q.operations.get? k = some f → f.failure = none
  records : ∀ r ∈ q.model.records, q.operations.contains r.operation = true
  /-- The model is empty only if it has no records. -/
  sequence : q.model.sequence = encode q.model.records

namespace Callable

variable (h : q.Callable) (s : Option Sequence)

include h

theorem contains_of_mem : ∀ c ∈ q.contentsOf s, q.operations.contains c.1 = true := by
  cases s with
  | some u => exact Executor.contains_of_mem_contents (x := q.executor)
  | none =>
    intro c hc
    obtain ⟨r, hr, rfl⟩ := List.mem_map.1 hc
    exact h.records r hr

theorem failure?_runOf : (q.runOf s).failure? = none := by
  refine Run.failure?_eq_none fun step hstep => ?_
  rw [steps_runOf, Executor.stepsOf, List.mem_mapIdx] at hstep
  obtain ⟨i, hi, rfl⟩ := hstep
  unfold Executor.step
  split
  next f hf => exact h.callbacks _ f hf
  next => rfl

theorem steps_runOf_of_empty (hn : q.lengthOf s = 0) : (q.runOf s).steps = [] := by
  cases s with
  | some u => exact steps_runOf_some_of_empty hn
  | none => exact steps_runOf_none_of_empty h.sequence hn

/-- An execution is blocked and comes to nothing, or it makes all the steps of its run and each of
them is a call. -/
theorem execute_cases :
    (q.execute s).1 = ⟨.blocked, .empty⟩ ∨
      (q.execute s).1.outcome = .finished ⟨(q.execute s).1.run.calls.length, 0⟩ ∧
        (q.execute s).1.run.steps = q.executor.stepsOf (q.contentsOf s) := by
  by_cases hstarts : q.Starts s
  · have hfailure := h.failure?_runOf s
    obtain ⟨houtcome, hsteps⟩ := execute_of_starts hstarts (h.steps_runOf_of_empty s)
    rw [Run.made_of_no_failure hfailure] at hsteps
    have hcalls : (q.execute s).1.run.calls = (q.runOf s).calls :=
      congrArg (List.filterMap Step.call?) hsteps
    rw [steps_runOf] at hsteps
    have hskipped : (q.runOf s).stats.skipped = 0 := by
      refine congrArg Stats.skipped (Run.stats_of_calling (r := q.runOf s) ?_)
      unfold Run.Calling
      rw [steps_runOf]
      exact Executor.calling_stepsOf _ (h.contains_of_mem s)
    refine .inr ⟨?_, hsteps⟩
    rw [houtcome, Run.outcome, hfailure, hcalls, ← hskipped]
    rfl
  · obtain ⟨-, v, -, hv⟩ := execute_of_not_starts hstarts
    rw [hv]
    exact .inl rfl

theorem calls_of_blocked (hblocked : (q.execute s).1.outcome = .blocked) :
    (q.execute s).1.run.calls = [] := by
  obtain hempty | ⟨hfinished, -⟩ := h.execute_cases s
  · rw [hempty]
    rfl
  · exact nomatch hblocked.symm.trans hfinished

/-- A call is made of the callback that is registered for its operation. -/
theorem get?_of_mem_calls : ∀ call ∈ (q.execute s).1.run.calls,
    q.operations.get? call.operation = some call.callback := by
  intro call hcall
  obtain hempty | ⟨-, hsteps⟩ := h.execute_cases s
  · rw [hempty] at hcall
    cases hcall
  · exact Executor.get?_of_mem_calls hsteps hcall

theorem calls_of_goes (hgoes : (q.execute s).1.outcome ≠ .blocked) :
    (q.execute s).1.run.calls = (q.runOf s).calls := by
  obtain hblocked | ⟨-, hsteps⟩ := h.execute_cases s
  · exact absurd (congrArg Execution.outcome hblocked) hgoes
  · rw [Run.calls, hsteps, ← steps_runOf]
    rfl

/-- An observer sees the whole run. -/
theorem calls_watch (o : Observer σ) (kept : σ) :
    (q.watch o kept s).1.calls = (q.runOf s).calls := by
  rw [(q.watched_watch o kept s).calls, Run.made_of_no_failure (h.failure?_runOf s)]

/-- A printing observer keeps one line for each call. -/
theorem kept_watch_printing (p : Palette) :
    (q.watch (.printing p .brief) [] s).1.kept =
      (q.runOf s).calls.mapIdx (Trace.callLine p) := by
  rw [(q.watched_watch _ [] s).kept, Run.made_of_no_failure (h.failure?_runOf s),
    Observer.foldl_printing, List.nil_append,
    Trace.lines_brief p (q.steps_runOf s) (h.contains_of_mem s)]

end Callable

/-- A configuration whose callbacks come back makes a sequencer that can be executed. -/
theorem callable_ofConfig {c : Config} (h : ∀ e ∈ c.operations, e.2.failure = none) :
    (ofConfig c).Callable where
  callbacks k f hf := by
    obtain ⟨s, hs⟩ := mem_of_get?_operations hf
    exact h (s, f) hs
  records _ := contains_of_mem_records
  sequence := sequence_eq_encode_ofConfig c

end Sequencer

namespace CommandLine

/-- Every name of a configuration that was read stands for a callback that comes back. -/
theorem failure_of_load {path : String} {text : Except FileFault String} {c : Config}
    (h : load path text = .ok c) : ∀ e ∈ c.operations, e.2.failure = none := by
  cases text with
  | error fault => cases h
  | ok text =>
    cases hread : Json.read text with
    | error fault =>
      rw [load_of_fault path hread] at h
      cases h
    | ok document =>
      rw [load_of_document path hread] at h
      cases h
      intro e he
      obtain ⟨_, name, hname⟩ := Config.Loading.bound_ofJson (fun _ => bind) document e he
      rw [← Option.some.inj hname]

theorem callable_build {path : String} {text : Except FileFault String} {c : Config}
    (h : load path text = .ok c) (o : Options) : (Session.build c o).sequencer.Callable :=
  Sequencer.callable_ofConfig (c := Session.override c o) fun e he => failure_of_load h e he

section

variable (o : Options) (log : Bool) (filter : Log.Filter) (colored : Bool) (c : Config)

/-- What a session executes. -/
def Session.execution (x : Session) : Execution := (x.sequencer.execute x.sequence).1

theorem out_exec :
    (runConfig ⟨.exec, o, log⟩ filter colored c).out =
      String.join ((Session.build c o).execution.run.calls.map (callLine (.ofBool colored))) := by
  unfold runConfig work exec
  dsimp only
  rw [ite_self, String.append_empty]
  rfl

variable {c}

theorem out_trace (h : (Session.build c o).sequencer.Callable) (hverbose : o.verbose = 0) :
    let p := Palette.ofBool colored
    let e := (Session.build c o).execution
    (runConfig ⟨.trace, o, log⟩ filter colored c).out =
      String.join (e.run.calls.mapIdx fun i call => Trace.callLine p i call ++ "\n") ++
        if e.outcome = .blocked then "" else summary p ⟨e.run.calls.length, 0⟩ := by
  intro p e
  have hbrief : verbosity o = .brief := if_pos hverbose
  show (trace p (verbosity o) (Session.build c o)).first ++
    (if e.outcome == .blocked then "" else
      (trace p (verbosity o) (Session.build c o)).last) = _
  rw [hbrief]
  obtain hblocked | ⟨hfinished, hsteps⟩ := h.execute_cases (Session.build c o).sequence
  · have he : e = ⟨.blocked, .empty⟩ := hblocked
    have hfirst : (trace p .brief (Session.build c o)).first = "" := by
      show Trace.render p .brief e.run.events = ""
      rw [he]
      rfl
    rw [he, hfirst]
    rfl
  · have hlast : (trace p .brief (Session.build c o)).last =
        summary p ⟨e.run.calls.length, 0⟩ := by
      unfold trace
      dsimp only
      rw [hfinished]
      rfl
    have hfirst : (trace p .brief (Session.build c o)).first = _ :=
      Trace.render_brief p hsteps (h.contains_of_mem _)
    rw [hlast, hfirst, show e.outcome = _ from hfinished]
    rfl

end

/-- `exec` and `trace` tell the same story of a configuration, whatever the options. Both report the
same diagnostics, print the same errors and end with the same status. If the configuration can be
read, there is a list of calls, each of a callback under the operation that it is registered for.
`exec` prints one line for each of them, with the name of the callback, and `trace` prints one line
for each of them, with its position and its operation; the arguments in parentheses are the same.
`trace` then says how many calls there were, unless the execution was blocked, and then there were
none. The calls are those that a silent observer sees made, and the lines are those that a printing
observer keeps. -/
theorem exec_trace_agree (o : Options) (log : Bool) (filter : Log.Filter) (terminal : Bool)
    (text : Except FileFault String) :
    let e := run ⟨.exec, o, log⟩ filter terminal text
    let t := run ⟨.trace, { o with verbose := 0 }, log⟩ filter terminal text
    e.err = t.err ∧ e.status = t.status ∧
    (∀ fault, load o.config text = .error fault → e.out = "" ∧ t.out = "") ∧
    ∀ c, load o.config text = .ok c →
      let p := Palette.ofBool (o.color.applies terminal)
      let x := Session.build c o
      let q := x.sequencer
      let blocked := x.execution.outcome = .blocked
      (exec p x).session.sequencer.diagnostics = (trace p .brief x).session.sequencer.diagnostics ∧
      ∃ calls : List Call,
        (∀ call ∈ calls, q.operations.get? call.operation = some call.callback) ∧
        e.out = String.join (calls.map fun call =>
          p.blue call.callback.name ++ "(" ++ call.argumentsText p ++ ")" ++ "\n") ∧
        t.out = String.join (calls.mapIdx fun i call =>
            p.dim (Listing.padLeft 3 (toString i)) ++ " " ++ p.blue call.operation.glyph ++
              "(" ++ call.argumentsText p ++ ")" ++ "\n") ++
          (if blocked then "" else summary p ⟨calls.length, 0⟩) ∧
        (blocked → calls = []) ∧
        (¬ blocked → calls = (q.watch .silent () x.sequence).1.calls ∧
          calls.mapIdx (Trace.callLine p) =
            (q.watch (.printing p .brief) [] x.sequence).1.kept) := by
  intro e t
  cases hload : load o.config text with
  | error fault =>
    have he : e = _ := run_of_load_error filter terminal hload
    have ht : t = _ := run_of_load_error (i := ⟨.trace, _, log⟩) filter terminal hload
    rw [he, ht]
    exact ⟨rfl, rfl, fun _ _ => ⟨rfl, rfl⟩, nofun⟩
  | ok c =>
    have he : e = _ := run_of_load filter terminal hload
    have ht : t = _ := run_of_load (i := ⟨.trace, _, log⟩) filter terminal hload
    -- Neither the report nor the status depends on what is printed of the calls.
    refine ⟨by rw [he, ht]; rfl, by rw [he, ht]; rfl, nofun, ?_⟩
    rintro c ⟨⟩ p x q blocked
    have hcallable : q.Callable := callable_build hload o
    refine ⟨rfl, x.execution.run.calls, hcallable.get?_of_mem_calls _, ?_, ?_, fun hblocked => ?_,
      fun hgoes => ?_⟩
    · rw [he]
      exact out_exec o log filter _ c
    · rw [ht]
      exact out_trace _ log filter _ (callable_build hload _) rfl
    · exact hcallable.calls_of_blocked _ hblocked
    · have hcalls : x.execution.run.calls = _ := hcallable.calls_of_goes _ hgoes
      rw [hcalls]
      exact ⟨(hcallable.calls_watch _ _ _).symm, (hcallable.kept_watch_printing _ p).symm⟩

/-- A leading code, and an operation with a value. -/
theorem exec_trace_agree_small :
    let text := "\x7b\"operations\":\x7b\"a\":\"f\"\x7d,\"values\":\x7b\"b\":true\x7d\x7d"
    let o : Options := ⟨"-", some "xab", false, false, none, .never, 0⟩
    let e := run ⟨.exec, o, false⟩ [] false (.ok text)
    let t := run ⟨.trace, o, false⟩ [] false (.ok text)
    e.out = "f(true)\n" ∧ t.out = "  0 a(true)\n--- invoked 1, skipped 0\n" ∧
      e.err = t.err ∧ e.status = t.status ∧
      ∃ c, load "-" (.ok text) = .ok c ∧ ∃ calls : List Call,
        e.out = String.join (calls.map fun call =>
          Palette.plain.blue call.callback.name ++ "(" ++ call.argumentsText .plain ++ ")" ++
            "\n") := by
  intro text o e t
  have hexec : e.out = "f(true)\n" := by decide +kernel
  have htrace : t.out = "  0 a(true)\n--- invoked 1, skipped 0\n" := by decide +kernel
  obtain ⟨herr, hstatus, hnothing, hstory⟩ := exec_trace_agree o false [] false (.ok text)
  cases hload : load "-" (.ok text) with
  | error fault => exact absurd (hexec.symm.trans (hnothing fault hload).1) (by decide)
  | ok c =>
    obtain ⟨-, calls, -, hout, -⟩ := hstory c hload
    exact ⟨hexec, htrace, herr, hstatus, c, rfl, calls, hout⟩

end CommandLine

end Opscript
