import Opscript.Proofs.Sequencer.Reports

/-!
# Sequencers that are alike

Two runs are compared up to what reports leave behind. A `Blur` says which limits, diagnostics and
log events are not told apart. Sequencers are `Alike` under a blur if they hold the same
registries, records and resolution, look the same otherwise, and will also look the same behind
each report, whatever their policies are. A request that no check of a length or of emptiness stops
gets the same answer from both and leaves them alike (`alike_perform`).
-/

namespace Opscript

/-- What is not told apart. -/
structure Blur where
  limit : Option Limit → Option Limit
  diagnostic : Diagnostic → Option Diagnostic
  event : Log.Event → Option Log.Event

namespace Blur

/-- Reports under the policy are not seen. -/
structure Hides (b : Blur) (p : Policy) : Prop where
  diagnostic : ∀ v, (p.report v).diagnostic.bind b.diagnostic = none
  event : ∀ v, b.event (p.report v).event = none

/-- Reports under the two policies are not told apart. -/
structure Covers (b : Blur) (p p' : Policy) : Prop where
  diagnostic : ∀ v, (p.report v).diagnostic.bind b.diagnostic =
    (p'.report v).diagnostic.bind b.diagnostic
  event : ∀ v, b.event (p.report v).event = b.event (p'.report v).event
  /-- If limits are not told apart, then reports are not seen, as one may stand against none. -/
  limit : (∀ l, b.limit l = l) ∨ b.Hides p ∧ b.Hides p'

theorem Covers.symm {b : Blur} {p p' : Policy} (h : b.Covers p p') : b.Covers p' p where
  diagnostic v := (h.diagnostic v).symm
  event v := (h.event v).symm
  limit := h.limit.imp_right And.symm

theorem Hides.covers {b : Blur} {p p' : Policy} (h : b.Hides p) (h' : b.Hides p') :
    b.Covers p p' where
  diagnostic v := (h.diagnostic v).trans (h'.diagnostic v).symm
  event v := (h.event v).trans (h'.event v).symm
  limit := .inr ⟨h, h'⟩

end Blur

theorem filterMap_append_toList {α β : Type} (f : α → Option β) (l : List α) (o : Option α) :
    (l ++ o.toList).filterMap f = l.filterMap f ++ (o.bind f).toList := by
  rw [List.filterMap_append]
  cases o with
  | none => rfl
  | some a =>
    rw [Option.toList_some, Option.bind_some, List.filterMap_cons]
    cases f a <;> rfl

/-- An answer as it looks under a blur. -/
def Answer.blurred (b : Blur) : Answer → Answer
  | .diagnostics ds => .diagnostics (ds.filterMap b.diagnostic)
  | a => a

theorem Answer.calls_blurred (b : Blur) (a : Answer) : (a.blurred b).calls = a.calls := by
  cases a <;> rfl

theorem Answer.taken_blurred (b : Blur) (a : Answer) :
    (a.blurred b).taken = a.taken.filterMap b.diagnostic := by
  cases a <;> rfl

/-- Calls are seen under every blur. -/
theorem flatMap_calls_blurred (b : Blur) (answers : List Answer) :
    (answers.map (Answer.blurred b)).flatMap Answer.calls = answers.flatMap Answer.calls := by
  simp only [List.flatMap_map, Answer.calls_blurred]

namespace Sequencer

/-- The two sequencers differ by their reports only, and the blur covers these. -/
structure Alike (b : Blur) (q p : Sequencer) : Prop where
  operations : q.operations = p.operations
  values : q.values = p.values
  labels : q.labels = p.labels
  model : q.model = p.model
  resolution : q.resolution = p.resolution
  limit : b.limit q.limit = b.limit p.limit
  diagnostics : q.diagnostics.filterMap b.diagnostic = p.diagnostics.filterMap b.diagnostic
  log : q.log.filterMap b.event = p.log.filterMap b.event
  covers : b.Covers q.policy p.policy

/-- The two results are the same answer and sequencers that are alike. -/
structure Agree {α : Type} (b : Blur) (x y : α × Sequencer) : Prop where
  answer : x.1 = y.1
  alike : Alike b x.2 y.2

variable {b : Blur} {q p : Sequencer}

namespace Alike

theorem symm (h : Alike b q p) : Alike b p q :=
  ⟨h.operations.symm, h.values.symm, h.labels.symm, h.model.symm, h.resolution.symm, h.limit.symm,
    h.diagnostics.symm, h.log.symm, h.covers.symm⟩

/-! ## Reports -/

theorem note (h : Alike b q p) (e : Log.Event) : Alike b (q.note e) (p.note e) :=
  { h with log := by rw [Sequencer.note, Sequencer.note, List.filterMap_append,
      List.filterMap_append, h.log] }

theorem report (h : Alike b q p) (v : Violation) : Alike b (q.report v).2 (p.report v).2 :=
  { h with
    diagnostics := by
      simp only [Sequencer.report, filterMap_append_toList, h.diagnostics, h.covers.diagnostic v]
    log := by
      simp only [Sequencer.report, List.filterMap_append, List.filterMap_cons, h.log,
        h.covers.event v] }

/-- A report that is not seen makes no difference. -/
theorem report_left (h : Alike b q p) (hq : b.Hides q.policy) (v : Violation) :
    Alike b (q.report v).2 p :=
  { h with
    diagnostics := by
      simp only [Sequencer.report, filterMap_append_toList, hq.diagnostic v, h.diagnostics,
        Option.toList_none, List.append_nil]
    log := by
      simp only [Sequencer.report, List.filterMap_append, List.filterMap_cons, hq.event v, h.log,
        List.filterMap_nil, List.append_nil] }

theorem refuse {α : Type} (h : Alike b q p) (no : α) (v : Violation) :
    Agree b (q.refuse no v) (p.refuse no v) :=
  ⟨rfl, h.report v⟩

/-- The check of a length may report on one side only; then the report is not seen. -/
theorem gate (h : Alike b q p) (n : Nat) : Alike b (q.gate n) (p.gate n) := by
  rcases h.covers.limit with hlimit | ⟨hq, hp⟩
  · have hsame : q.limit = p.limit := by
      rw [← hlimit q.limit, ← hlimit p.limit]
      exact h.limit
    unfold Sequencer.gate
    rw [← hsame]
    cases checkLength n q.limit with
    | ok => exact h
    | error v => exact h.report v
  · have hleft : Alike b (q.gate n) p := by
      unfold Sequencer.gate
      cases checkLength n q.limit with
      | ok => exact h
      | error v => exact h.report_left hq v
    unfold Sequencer.gate
    cases checkLength n p.limit with
    | ok => exact hleft
    | error v => exact (hleft.symm.report_left hp v).symm

/-! ## The two ways of checking -/

theorem guarded {α β : Type} (h : Alike b q p) {check check' : Except Violation α}
    (hcheck : check = check') (no : β) {act act' : α → β × Sequencer}
    (hact : ∀ a, Agree b (act a) (act' a)) :
    Agree b (q.guarded check no act) (p.guarded check' no act') := by
  subst hcheck
  cases check with
  | ok a => exact hact a
  | error v => exact h.refuse no v

theorem admitted {β : Type} (h : Alike b q p) {n : Nat} (hq : q.Admits n) (hp : p.Admits n)
    (no : β) {act : Sequencer → β × Sequencer}
    (hact : Alike b (q.gate n) (p.gate n) → Agree b (act (q.gate n)) (act (p.gate n))) :
    Agree b (q.admitted n no act) (p.admitted n no act) := by
  rw [admitted_of_admits hq, admitted_of_admits hp]
  exact hact (h.gate n)

/-! ## The operations -/

theorem registerOperation (h : Alike b q p) (s : Symbol) (f : Callback) :
    Agree b (q.registerOperation s f) (p.registerOperation s f) := by
  rw [registerOperation_eq, registerOperation_eq]
  exact h.guarded rfl false fun c => ⟨rfl, { h with operations := by rw [h.operations] }⟩

theorem registerValue (h : Alike b q p) (s : Symbol) (value : Value) :
    Agree b (q.registerValue s value) (p.registerValue s value) := by
  rw [registerValue_eq, registerValue_eq]
  exact h.guarded rfl false fun c => ⟨rfl, { h with values := by rw [h.values] }⟩

theorem registerLabel (h : Alike b q p) (label : String) (s : Symbol) :
    Agree b (q.registerLabel label s) (p.registerLabel label s) := by
  rw [registerLabel_eq, registerLabel_eq]
  exact h.guarded rfl false fun c => ⟨rfl, { h with labels := by rw [h.labels] }⟩

theorem registerEach {ε : Type} {register : Sequencer → ε → Bool × Sequencer}
    (hregister : ∀ {q p} e, Alike b q p → Agree b (register q e) (register p e))
    (h : Alike b q p) (es : List ε) :
    Agree b (Sequencer.registerEach register q es) (Sequencer.registerEach register p es) := by
  induction es generalizing q p with
  | nil => exact ⟨rfl, h⟩
  | cons e rest ih =>
    have hfirst := hregister e h
    have hrest := ih hfirst.alike
    refine ⟨?_, hrest.alike⟩
    simp only [Sequencer.registerEach, hfirst.answer, hrest.answer]

theorem registerOperations (h : Alike b q p) (es : List (Symbol × Callback)) :
    Agree b (q.registerOperations es) (p.registerOperations es) :=
  registerEach (fun e h => h.registerOperation e.1 e.2) h es

theorem registerValues (h : Alike b q p) (es : List (Symbol × Value)) :
    Agree b (q.registerValues es) (p.registerValues es) :=
  registerEach (fun e h => h.registerValue e.1 e.2) h es

theorem registerLabels (h : Alike b q p) (es : List (String × Symbol)) :
    Agree b (q.registerLabels es) (p.registerLabels es) :=
  registerEach (fun e h => h.registerLabel e.1 e.2) h es

theorem add (h : Alike b q p) (place : Model → Code → List Code → RecordId × Model)
    (operation : Symbol) (arguments : List Symbol) :
    Agree b (q.add place operation arguments) (p.add place operation arguments) := by
  rw [add_eq, add_eq]
  exact h.guarded rfl none fun c =>
    ⟨by rw [h.model], { h with model := by rw [h.model] }⟩

theorem remove (h : Alike b q p) (id : RecordId) : Agree b (q.remove id) (p.remove id) := by
  rw [remove_eq, remove_eq]
  exact h.guarded (by rw [h.model]) false fun _ =>
    ⟨by rw [h.model], { h with model := by rw [h.model] }⟩

theorem index (h : Alike b q p) (id : RecordId) : Agree b (q.index id) (p.index id) := by
  rw [index_eq, index_eq]
  exact h.guarded (by rw [h.model]) none fun _ => ⟨rfl, h⟩

theorem setLimit (h : Alike b q p) (n : Nat) : Agree b (q.setLimit n) (p.setLimit n) := by
  rw [setLimit_eq, setLimit_eq]
  exact h.guarded rfl false fun _ => ⟨rfl, { h with limit := rfl }⟩

theorem store (h : Alike b q p) (s : Sequence) : Alike b (q.store s) (p.store s) := by
  have hspace : q.space = p.space := by
    rw [Sequencer.space, Sequencer.space, h.operations, h.values]
  exact { h with
    values := by simp only [Sequencer.store, hspace, h.values]
    model := by simp only [Sequencer.store, hspace, h.model]
    log := by simp only [Sequencer.store, hspace, List.filterMap_append, h.log] }

theorem setSequence (h : Alike b q p) {s : Sequence} (hq : q.Admits s.length)
    (hp : p.Admits s.length) : Agree b (q.setSequence s) (p.setSequence s) := by
  rw [setSequence_eq, setSequence_eq]
  exact h.admitted hq hp false fun h => ⟨rfl, h.store s⟩

theorem runOf (h : Alike b q p) (s : Option Sequence) : q.runOf s = p.runOf s := by
  have hexecutor : q.executor = p.executor := by
    rw [executor, executor, h.operations, h.values, h.resolution]
  cases s with
  | none => rw [Sequencer.runOf, Sequencer.runOf, hexecutor, h.model]
  | some s => rw [Sequencer.runOf, Sequencer.runOf, hexecutor]

theorem lengthOf (h : Alike b q p) (s : Option Sequence) : q.lengthOf s = p.lengthOf s := by
  rw [Sequencer.lengthOf, Sequencer.lengthOf, h.model]

theorem conclude (h : Alike b q p) (run : Run) : Agree b (q.conclude run) (p.conclude run) := by
  unfold Sequencer.conclude
  cases run.failure? with
  | some text => exact ⟨rfl, h⟩
  | none => exact ⟨rfl, h.note _⟩

theorem launch (h : Alike b q p) {s : Option Sequence}
    (hq : q.policy.isStrict = true → q.lengthOf s ≠ 0)
    (hp : p.policy.isStrict = true → p.lengthOf s ≠ 0) : Agree b (q.launch s) (p.launch s) := by
  have hlength := h.lengthOf s
  by_cases hn : q.lengthOf s = 0
  · have hn' : p.lengthOf s = 0 := hlength ▸ hn
    rw [launch_of_empty hn (lenient_of_empty hq hn), launch_of_empty hn' (lenient_of_empty hp hn')]
    exact ⟨rfl, h⟩
  · rw [launch_of_pos hn, launch_of_pos (hlength ▸ hn), h.runOf]
    exact h.conclude _

theorem execute (h : Alike b q p) {s : Option Sequence} (hq : q.Starts s) (hp : p.Starts s) :
    Agree b (q.execute s) (p.execute s) := by
  rw [execute_eq, execute_eq, ← h.lengthOf]
  refine h.admitted hq.1 (h.lengthOf s ▸ hp.1) _ fun hgate => hgate.launch ?_ ?_
  · rw [gate_eq]
    exact hq.2
  · rw [gate_eq]
    exact hp.2

end Alike

/-- Nothing stops the request that a lenient policy would let pass. -/
def Accepts (q : Sequencer) : Request → Prop
  | .setSequence s => q.Admits s.length
  | .execute s => q.Starts s
  | _ => True

theorem accepts_of_lenient (h : q.policy.isStrict = false) (r : Request) : q.Accepts r := by
  cases r with
  | setSequence s => exact admits_of_lenient h s.length
  | execute s => exact starts_of_lenient h s
  | _ => exact trivial

theorem Agree.blurred {α : Type} {x y : α × Sequencer} (h : Agree b x y) (f : α → Answer) :
    ((x.map f id).1.blurred b = (y.map f id).1.blurred b) ∧
      Alike b (x.map f id).2 (y.map f id).2 :=
  ⟨congrArg (fun a => (f a).blurred b) h.answer, h.alike⟩

/-- Where nothing stops it, a request gets the same answer from sequencers that are alike, and
leaves them alike. -/
theorem alike_perform (h : Alike b q p) {r : Request} (hq : q.Accepts r) (hp : p.Accepts r) :
    (q.perform r).1.blurred b = (p.perform r).1.blurred b ∧
      Alike b (q.perform r).2 (p.perform r).2 := by
  cases r with
  | registerOperation s f => exact (h.registerOperation s f).blurred .accepted
  | registerOperations es => exact (h.registerOperations es).blurred .accepted
  | setOperations es =>
    have hempty : Alike b { q with operations := .empty } { p with operations := .empty } :=
      { h with operations := rfl }
    exact (hempty.registerOperations es).blurred .accepted
  | registerValue s value => exact (h.registerValue s value).blurred .accepted
  | registerValues es => exact (h.registerValues es).blurred .accepted
  | setValues es =>
    have hempty : Alike b { q with values := .empty } { p with values := .empty } :=
      { h with values := rfl }
    exact (hempty.registerValues es).blurred .accepted
  | registerLabel label s => exact (h.registerLabel label s).blurred .accepted
  | registerLabels es => exact (h.registerLabels es).blurred .accepted
  | setLabels es =>
    have hempty : Alike b { q with labels := .empty } { p with labels := .empty } :=
      { h with labels := rfl }
    exact (hempty.registerLabels es).blurred .accepted
  | append operation arguments => exact (h.add _ operation arguments).blurred .created
  | prepend operation arguments => exact (h.add _ operation arguments).blurred .created
  | insert index operation arguments => exact (h.add _ operation arguments).blurred .created
  | remove id => exact (h.remove id).blurred .accepted
  | index id => exact (h.index id).blurred .position
  | setSequence s => exact (h.setSequence hq hp).blurred .accepted
  | setLimit n => exact (h.setLimit n).blurred .accepted
  | clearLimit => exact ⟨rfl, { h with limit := rfl }⟩
  | setResolution resolution => exact ⟨rfl, { h with resolution := rfl }⟩
  | execute s => exact (h.execute hq hp).blurred .execution
  | takeDiagnostics =>
    exact ⟨congrArg Answer.diagnostics h.diagnostics, { h with diagnostics := rfl }⟩

/-! ## Runs -/

/-- Nothing stops any of the requests. -/
def AcceptsAll (q : Sequencer) : List Request → Prop
  | [] => True
  | r :: rest => q.Accepts r ∧ (q.perform r).2.AcceptsAll rest

theorem acceptsAll_of_lenient (h : q.policy.isStrict = false) (rs : List Request) :
    q.AcceptsAll rs := by
  induction rs generalizing q with
  | nil => exact trivial
  | cons r rest ih => exact ⟨accepts_of_lenient h r, ih (by rw [policy_perform, h])⟩

theorem alike_performAll (h : Alike b q p) {rs : List Request} (hq : q.AcceptsAll rs)
    (hp : p.AcceptsAll rs) :
    (q.performAll rs).1.map (Answer.blurred b) = (p.performAll rs).1.map (Answer.blurred b) ∧
      Alike b (q.performAll rs).2 (p.performAll rs).2 := by
  induction rs generalizing q p with
  | nil => exact ⟨rfl, h⟩
  | cons r rest ih =>
    obtain ⟨hanswer, hfirst⟩ := alike_perform h hq.1 hp.1
    obtain ⟨hanswers, hlast⟩ := ih hfirst hq.2 hp.2
    refine ⟨?_, hlast⟩
    rw [performAll, performAll, List.map_cons, List.map_cons, hanswer, hanswers]

/-- Runs that are alike tell the same, as far as it is seen. -/
theorem filterMap_told {x y : List Answer × Sequencer}
    (hanswers : x.1.map (Answer.blurred b) = y.1.map (Answer.blurred b)) (h : Alike b x.2 y.2) :
    (told x).filterMap b.diagnostic = (told y).filterMap b.diagnostic := by
  have hseen : ∀ answers : List Answer, (answers.flatMap Answer.taken).filterMap b.diagnostic =
      (answers.map (Answer.blurred b)).flatMap Answer.taken := by
    intro answers
    simp only [List.filterMap_flatMap, List.flatMap_map, Answer.taken_blurred]
  unfold told
  rw [List.filterMap_append, List.filterMap_append, hseen, hseen, hanswers, h.diagnostics]

theorem alike_foldl_report (h : Alike b q p) (vs : List Violation) :
    Alike b (vs.foldl (fun q v => (q.report v).2) q) (vs.foldl (fun q v => (q.report v).2) p) := by
  induction vs generalizing q p with
  | nil => exact h
  | cons v rest ih => exact ih (h.report v)

/-- Configurations with the same issues and the same resolution are opened alike. -/
theorem alike_opened {c c' : Config} (hissues : c.issues = c'.issues)
    (hresolution : c.resolution = c'.resolution) (h : b.Covers (policyOf c) (policyOf c')) :
    Alike b (opened c) (opened c') := by
  unfold opened
  rw [hissues, hresolution]
  refine alike_foldl_report ?_ _
  exact ⟨rfl, rfl, rfl, rfl, rfl, rfl, rfl, rfl, h⟩

end Sequencer

end Opscript
