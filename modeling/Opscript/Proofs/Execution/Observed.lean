import Opscript.Observer
import Opscript.Proofs.Execution.Direct

/-!
# What an observer is told

A run with an observer goes through the steps of the same run without one: `Follows` says that after
each operation the observer has been told of the step, and that the call and the count are those of
the step. So what an observer keeps is made of the events of the run alone, and the calls and the
statistics do not depend on the observer at all. Of records, each has one event and, if its
operation has a callback, one call with the arguments that the event shows
(`watchRecords_lockstep`). A callback that breaks off ends the run at its record (`Reaches`).
-/

namespace Opscript

variable {σ : Type}

/-! ## Steps -/

namespace Progress

/-- After one more step. A call that breaks off is made but not counted. -/
def after (o : Observer σ) (w : Progress σ) (s : Step) : Progress σ where
  kept := o.tell w.kept s.event
  calls := w.calls ++ s.call?.toList
  stats :=
    if s.failure?.isSome then w.stats
    else ⟨w.stats.invoked + s.call?.toList.length, w.stats.skipped + if s.isSkip then 1 else 0⟩

/-- Between `w` and `r` an observer is told of the steps of a run that are made. -/
structure Follows (o : Observer σ) (w : Progress σ) (steps : List Step)
    (r : Progress σ × Option String) : Prop where
  failure : r.2 = (Run.cut steps).2
  kept : r.1.kept = ((Run.cut steps).1.map Step.event).foldl o.tell w.kept
  calls : r.1.calls = w.calls ++ (Run.cut steps).1.filterMap Step.call?
  stats : r.2 = none → r.1.stats =
    ⟨w.stats.invoked + (steps.filterMap Step.call?).length,
      w.stats.skipped + steps.countP Step.isSkip⟩

theorem Follows.broken {o : Observer σ} {w : Progress σ} {s : Step} {text : String}
    (h : s.failure? = some text) (rest : List Step) :
    Follows o w (s :: rest) (w.after o s, some text) := by
  have hcut : Run.cut (s :: rest) = ([s], some text) := by
    rw [Run.cut, h]
  have hcall : [s].filterMap Step.call? = s.call?.toList := by
    rw [List.filterMap_cons, List.filterMap_nil]
    cases s.call? <;> rfl
  refine ⟨?_, ?_, ?_, fun hnone => ?_⟩
  · rw [hcut]
  · rw [hcut]
    rfl
  · rw [hcut, hcall]
    rfl
  · cases hnone

theorem Follows.cons {o : Observer σ} {w : Progress σ} {s : Step} (h : s.failure? = none)
    {rest : List Step} {r : Progress σ × Option String} (hrest : Follows o (w.after o s) rest r) :
    Follows o w (s :: rest) r := by
  have hcut : Run.cut (s :: rest) = (s :: (Run.cut rest).1, (Run.cut rest).2) := by
    rw [Run.cut, h]
  have hcalls (l : List Step) :
      (s :: l).filterMap Step.call? = s.call?.toList ++ l.filterMap Step.call? := by
    rw [List.filterMap_cons]
    cases s.call? <;> rfl
  have hstats : (w.after o s).stats = ⟨w.stats.invoked + s.call?.toList.length,
      w.stats.skipped + if s.isSkip then 1 else 0⟩ := by
    rw [after, h]
    rfl
  refine ⟨?_, ?_, ?_, fun hnone => ?_⟩
  · rw [hcut, hrest.failure]
  · rw [hcut, hrest.kept]
    rfl
  · rw [hcut, hrest.calls, hcalls, ← List.append_assoc]
    rfl
  · rw [hrest.stats hnone, hstats, hcalls, List.length_append, List.countP_cons]
    simp only [Nat.add_assoc, Nat.add_comm (List.countP _ _)]

end Progress

namespace Executor

variable (x : Executor) (o : Observer σ)

/-- A visit is a step, and the observer is told of it. -/
theorem visit_eq (w : Progress σ) (index : Nat) (operation : Code) (codes : List Code) :
    x.visit o w index operation codes =
      (w.after o (x.step index operation codes), (x.step index operation codes).failure?) := by
  unfold visit step Ordered.contains
  cases hget : x.operations.get? operation with
  | none =>
    simp [Progress.after, Step.failure?, Step.call?, Step.event, Step.isSkip, Observer.tell]
  | some callback =>
    cases hfailure : callback.failure <;>
      simp [Progress.after, Step.failure?, Step.call?, Step.event, Step.isSkip, Observer.tell,
        hfailure]

theorem follows_visitAll (w : Progress σ) (index : Nat) (contents : List (Code × List Code)) :
    Progress.Follows o w (contents.mapIdx fun i c => x.step (index + i) c.1 c.2)
      (x.visitAll o w index contents) := by
  induction contents generalizing w index with
  | nil => exact ⟨rfl, rfl, (List.append_nil _).symm, fun _ => rfl⟩
  | cons c rest ih =>
    rw [mapIdx_cons_add (fun i (c : Code × List Code) => x.step i c.1 c.2), visitAll, visit_eq]
    cases hfailure : (x.step index c.1 c.2).failure? with
    | some text => exact .broken hfailure _
    | none => exact .cons hfailure (ih _ _)

end Executor

/-! ## Runs -/

/-- An observer is told of what is made of a run, and the rest is as in the run. -/
structure Run.Watched (r : Run) (o : Observer σ) (kept : σ) (w : Progress σ × Option String) :
    Prop where
  failure : w.2 = r.failure?
  kept : w.1.kept = r.made.events.foldl o.tell kept
  calls : w.1.calls = r.made.calls
  stats : w.2 = none → w.1.stats = r.stats

/-- The event for the leading codes comes before the steps. -/
theorem Progress.Follows.watched {r : Run} {o : Observer σ} {kept : σ}
    {w : Progress σ × Option String}
    (h : Follows o { kept := if 0 < r.leading then o.unowned kept ⟨0, r.leading⟩ else kept }
      r.steps w) : r.Watched o kept w where
  failure := h.failure
  kept := by
    rw [h.kept, Run.events, List.foldl_append]
    by_cases hleading : r.leading = 0
    · rw [if_neg (by omega), show r.made.leading = 0 from hleading, if_pos rfl]
      rfl
    · rw [if_pos (by omega), if_neg (show ¬ r.made.leading = 0 from hleading)]
      rfl
  calls := h.calls
  stats hnone := by
    rw [h.stats hnone]
    simp only [Nat.zero_add]
    rfl

namespace Executor

variable (x : Executor) (o : Observer σ) (kept : σ)

theorem watched_watchRecords (records : List Record) :
    (x.runRecords records).Watched o kept (x.watchRecords o kept records) := by
  have hfollows := x.follows_visitAll o { kept } 0 (records.map Record.content)
  simp only [Nat.zero_add] at hfollows
  refine Progress.Follows.watched ?_
  rw [steps_runRecords]
  exact hfollows

theorem watched_watchSequence (u : Sequence) :
    (x.runSequence u).Watched o kept (x.watchSequence o kept u) := by
  have hfollows := x.follows_visitAll o
    { kept := if 0 < (x.runSequence u).leading then o.unowned kept ⟨0, (x.runSequence u).leading⟩
        else kept } 0
    ((segments x.space.isOperation u).map fun s => (s.operation, slice u.toArray s.arguments))
  simp only [Nat.zero_add, mapIdx_map] at hfollows
  exact Progress.Follows.watched hfollows

end Executor

/-! ## Records -/

/-- Each step is a call or a skip. -/
theorem Run.invoked_add_skipped (r : Run) : r.stats.invoked + r.stats.skipped = r.steps.length := by
  show (r.steps.filterMap Step.call?).length + r.steps.countP Step.isSkip = r.steps.length
  induction r.steps with
  | nil => rfl
  | cons s rest ih =>
    rw [List.filterMap_cons, List.countP_cons]
    cases s with
    | invoke index codes call =>
      simp only [Step.call?, Step.isSkip, List.length_cons, Bool.false_eq_true, if_false]
      omega
    | skip index operation =>
      simp only [Step.call?, Step.isSkip, List.length_cons, if_true]
      omega

namespace Executor

/-- The call that a record makes, if its operation has a callback. -/
def callOf? (x : Executor) (r : Record) : Option Call :=
  (x.operations.get? r.operation).map fun f => ⟨r.operation, f, x.resolve r.arguments⟩

/-- What an observer is told of a record. -/
def eventOf (x : Executor) (index : Nat) (r : Record) : Event :=
  match x.callOf? r with
  | some call => .invoke index r.operation r.arguments call.arguments
  | none => .skip index r.operation

/-- The text with which the call of a record breaks off. -/
def failureOf? (x : Executor) (r : Record) : Option String :=
  (x.callOf? r).bind fun c => c.callback.failure

/-- The records that a run comes to: all of them, or those up to and with the first one whose call
breaks off. -/
inductive Reaches (x : Executor) : List Record → List Record → Option String → Prop where
  | all {records : List Record} (h : ∀ r ∈ records, x.failureOf? r = none) :
    Reaches x records records none
  | broken {before behind : List Record} {r : Record} {text : String}
    (hbefore : ∀ b ∈ before, x.failureOf? b = none) (h : x.failureOf? r = some text) :
    Reaches x (before ++ r :: behind) (before ++ [r]) (some text)

variable {x : Executor}

theorem Reaches.cons {r : Record} (h : x.failureOf? r = none) {records seen : List Record}
    {failure : Option String} (hrest : x.Reaches records seen failure) :
    x.Reaches (r :: records) (r :: seen) failure := by
  cases hrest with
  | all hall => exact .all (List.forall_mem_cons.2 ⟨h, hall⟩)
  | broken hbefore hr => exact .broken (List.forall_mem_cons.2 ⟨h, hbefore⟩) hr

theorem call?_step (x : Executor) (index : Nat) (r : Record) :
    (x.step index r.operation r.arguments).call? = x.callOf? r := by
  unfold step callOf?
  cases x.operations.get? r.operation <;> rfl

theorem event_step (x : Executor) (index : Nat) (r : Record) :
    (x.step index r.operation r.arguments).event = x.eventOf index r := by
  unfold step eventOf callOf?
  cases x.operations.get? r.operation <;> rfl

theorem failure?_step (x : Executor) (index : Nat) (r : Record) :
    (x.step index r.operation r.arguments).failure? = x.failureOf? r := by
  rw [Step.failure?, call?_step]
  rfl

/-- The steps that are made are those of the records that are reached. -/
theorem reaches_cut (x : Executor) (index : Nat) (records : List Record) :
    ∃ seen, x.Reaches records seen
        (Run.cut (records.mapIdx fun i r => x.step (index + i) r.operation r.arguments)).2 ∧
      (Run.cut (records.mapIdx fun i r => x.step (index + i) r.operation r.arguments)).1 =
        seen.mapIdx fun i r => x.step (index + i) r.operation r.arguments := by
  induction records generalizing index with
  | nil => exact ⟨[], .all nofun, rfl⟩
  | cons r rest ih =>
    have hcons := mapIdx_cons_add (fun i (r : Record) => x.step i r.operation r.arguments) index r
    rw [hcons, Run.cut, failure?_step]
    cases hfailure : x.failureOf? r with
    | some text => exact ⟨[r], .broken (List.forall_mem_nil _) hfailure, rfl⟩
    | none =>
      obtain ⟨seen, hreaches, hsteps⟩ := ih (index + 1)
      refine ⟨r :: seen, .cons hfailure hreaches, ?_⟩
      rw [hcons, ← hsteps]

theorem filterMap_call?_mapIdx (x : Executor) (f : Nat → Nat) (records : List Record) :
    (records.mapIdx fun i r => x.step (f i) r.operation r.arguments).filterMap Step.call? =
      records.filterMap x.callOf? := by
  induction records generalizing f with
  | nil => rfl
  | cons r rest ih =>
    rw [List.mapIdx_cons, List.filterMap_cons, List.filterMap_cons, call?_step, ih]

theorem map_event_mapIdx (x : Executor) (records : List Record) :
    (records.mapIdx fun i r => x.step i r.operation r.arguments).map Step.event =
      records.mapIdx x.eventOf := by
  rw [map_mapIdx]
  simp only [event_step]

/-- Records are run in lockstep with an observer. Each record that is reached has one event, in
order and with its position, and each of them whose operation has a callback has one call, whose
arguments are those of the event. There are as many arguments as argument codes: where presence
counts, the values that are registered under the codes, and where truth counts, the same without
those that are not truthy. If no call breaks off, every record is reached, and counted as a call or
as skipped. The calls and the counts are the same for every observer, also for one that keeps
nothing, and they are those of the run without one. -/
theorem watchRecords_lockstep (x : Executor) (o : Observer σ) (kept : σ) (records : List Record) :
    let w := x.watchRecords o kept records
    (∃ seen, x.Reaches records seen w.2 ∧ w.1.calls = seen.filterMap x.callOf? ∧
      w.1.kept = (seen.mapIdx x.eventOf).foldl o.tell kept) ∧
    (w.2 = none → w.1.stats.invoked = w.1.calls.length ∧
      w.1.stats.invoked + w.1.stats.skipped = records.length) ∧
    (∀ codes, (x.resolve codes).length = codes.length ∧
      (x.resolution = .presence → x.resolve codes = codes.map x.values.get?) ∧
      (x.resolution = .truthiness → x.resolve codes =
        ({ x with resolution := .presence }.resolve codes).map (Option.filter Value.isTruthy))) ∧
    (∀ (τ : Type) (o' : Observer τ) (kept' : τ),
      let w' := x.watchRecords o' kept' records
      w'.1.calls = w.1.calls ∧ w'.2 = w.2 ∧ (w.2 = none → w'.1.stats = w.1.stats)) ∧
    (x.runRecords records).Watched o kept w := by
  intro w
  have hwatched : (x.runRecords records).Watched o kept w := x.watched_watchRecords o kept records
  refine ⟨?_, fun hnone => ?_, fun codes => ⟨?_, fun h => ?_, fun h => ?_⟩, ?_, hwatched⟩
  · obtain ⟨seen, hreaches, hsteps⟩ := x.reaches_cut 0 records
    simp only [Nat.zero_add] at hreaches hsteps
    refine ⟨seen, ?_, ?_, ?_⟩
    · rw [hwatched.failure]
      exact hreaches
    · rw [hwatched.calls, ← filterMap_call?_mapIdx x id]
      exact congrArg _ hsteps
    · rw [hwatched.kept, ← map_event_mapIdx]
      exact congrArg (fun steps => (steps.map Step.event).foldl o.tell kept) hsteps
  · have hmade := Run.made_of_no_failure (hwatched.failure.symm.trans hnone)
    rw [hwatched.stats hnone, hwatched.calls, hmade]
    refine ⟨rfl, ?_⟩
    rw [Run.invoked_add_skipped]
    exact List.length_mapIdx
  · exact List.length_map _
  · rw [resolve, h]
    rfl
  · rw [resolve, h, resolve, List.map_map]
    rfl
  · intro τ o' kept' w'
    have hwatched' : (x.runRecords records).Watched o' kept' w' :=
      x.watched_watchRecords o' kept' records
    have hfailure : w'.2 = w.2 := hwatched'.failure.trans hwatched.failure.symm
    refine ⟨hwatched'.calls.trans hwatched.calls.symm, hfailure, fun hnone => ?_⟩
    rw [hwatched'.stats (hfailure.trans hnone), hwatched.stats hnone]

/-- A record with a falsy value and an unknown code, and one without a callback. -/
theorem watchRecords_lockstep_small :
    let x : Executor := ⟨Ordered.empty.insert 65 ⟨"a", none⟩,
      Ordered.empty.insert 97 (.bool false), .truthiness⟩
    let records : List Record := [⟨.first, 65, [97, 63]⟩, ⟨.first, 66, []⟩]
    let w := x.watchRecords (.printing .plain .brief) [] records
    w.2 = none ∧ w.1.stats = ⟨1, 1⟩ ∧ w.1.kept = ["  0 A(-, -)", "  1 B skipped: no callback"] ∧
      w.1.stats.invoked + w.1.stats.skipped = records.length ∧
      (x.watchRecords .silent () records).1.stats = w.1.stats := by
  intro x records w
  have hnone : w.2 = none := by decide +kernel
  obtain ⟨-, hcount, -, hsilent, -⟩ := watchRecords_lockstep x (.printing .plain .brief) [] records
  exact ⟨hnone, by decide +kernel, by decide +kernel, (hcount hnone).2,
    (hsilent Unit .silent ()).2.2 hnone⟩

end Executor

/-! ## Traces -/

/-- What the printing observer keeps are the lines of the events that it is told of. -/
theorem Observer.foldl_printing (p : Palette) (v : Verbosity) (lines : List String)
    (events : List Event) :
    events.foldl (printing p v).tell lines = lines ++ Trace.lines p v events := by
  induction events generalizing lines with
  | nil => exact (List.append_nil _).symm
  | cons e rest ih =>
    have htell : (printing p v).tell lines e = lines ++ (Trace.line? p v e).toList := by
      cases e <;> rfl
    have hlines : Trace.lines p v (e :: rest) =
        (Trace.line? p v e).toList ++ Trace.lines p v rest := by
      rw [Trace.lines, List.filterMap_cons]
      cases Trace.line? p v e <;> rfl
    rw [List.foldl_cons, ih, htell, hlines, List.append_assoc]

/-- A trace prints what the printing observer keeps of the run. -/
theorem Run.Watched.render {r : Run} {p : Palette} {v : Verbosity}
    {w : Progress (List String) × Option String} (h : r.Watched (.printing p v) [] w) :
    Trace.render p v r.made.events = Trace.join w.1.kept := by
  rw [h.kept, Observer.foldl_printing]
  rfl

end Opscript
