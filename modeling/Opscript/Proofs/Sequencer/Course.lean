import Opscript.Proofs.Sequencer.Reports

/-!
# The model and the limit in the course of a run

A registration leaves the model, the limit and the resolution as they are (`Still`). Every request
changes the model by the calls of `Edit` only, and the limit only if it is a request for the limit:
`Leads` says so of two states, and `leads_perform` of every request. Over a whole run the model
keeps tracking the records that were created, so that its sequence is the encoding of its records
(`tracks_performAll`), and the limit in force is the one that was set last (`limit_performAll`).
-/

namespace Opscript

/-- The limit in force behind a request. -/
def Request.limitFrom (limit : Option Limit) : Request → Option Limit
  | .setLimit n => if h : 0 < n then some ⟨n, h⟩ else limit
  | .clearLimit => none
  | _ => limit

/-- The limit in force behind requests, one after the other. -/
def Request.limitAfter (limit : Option Limit) (rs : List Request) : Option Limit :=
  rs.foldl limitFrom limit

theorem Model.edits_append (m : Model) (es fs : List Edit) :
    m.edits (es ++ fs) = (m.edits es).edits fs :=
  List.foldl_append

namespace Sequencer

/-! ## States that differ by reports only -/

theorem Untouched.refl (q : Sequencer) : q.Untouched q := rfl

theorem Untouched.trans {q q' q'' : Sequencer} (h : q.Untouched q') (h' : q'.Untouched q'') :
    q.Untouched q'' := by
  unfold Untouched at h h' ⊢
  rw [h', h]

theorem untouched_report (q : Sequencer) (v : Violation) : q.Untouched (q.report v).2 := rfl

theorem untouched_conclude (q : Sequencer) (run : Run) : q.Untouched (q.conclude run).2 := by
  unfold conclude
  cases run.failure? <;> rfl

theorem untouched_launch (q : Sequencer) (s : Option Sequence) : q.Untouched (q.launch s).2 := by
  by_cases hn : q.lengthOf s = 0
  · cases hq : q.policy.isStrict with
    | true =>
      rw [launch_of_empty_strict hn hq]
      exact untouched_report q _
    | false =>
      rw [launch_of_empty hn hq]
      exact .refl q
  · rw [launch_of_pos hn]
    exact untouched_conclude q _

/-- Execution is read-only. -/
theorem untouched_execute (q : Sequencer) (s : Option Sequence) : q.Untouched (q.execute s).2 := by
  rw [execute_eq]
  refine admitted_cases (P := fun x => q.Untouched x.2) (fun _ => ?_) (untouched_report q)
  exact Untouched.trans (gate_eq q _) (untouched_launch _ s)

theorem untouched_foldl_report (q : Sequencer) (vs : List Violation) :
    q.Untouched (vs.foldl (fun q v => (q.report v).2) q) := by
  induction vs generalizing q with
  | nil => exact .refl q
  | cons v rest ih => exact (untouched_report q v).trans (ih (q.report v).2)

/-! ## Steps -/

variable {q q' q'' : Sequencer}

/-- The model, the limit and the resolution are as they were. -/
structure Still (q q' : Sequencer) : Prop where
  model : q'.model = q.model
  limit : q'.limit = q.limit
  resolution : q'.resolution = q.resolution

/-- The model comes from that of `q` to that of `q'` by calls that change it, and the limit of `q'`
is `limit`. -/
structure Leads (q : Sequencer) (limit : Option Limit) (q' : Sequencer) : Prop where
  model : ∃ es, q'.model = q.model.edits es
  limit : q'.limit = limit

theorem Untouched.still (h : q.Untouched q') : Still q q' := by
  rw [h]
  exact ⟨rfl, rfl, rfl⟩

theorem Still.trans (h : Still q q') (h' : Still q' q'') : Still q q'' :=
  ⟨h'.model.trans h.model, h'.limit.trans h.limit, h'.resolution.trans h.resolution⟩

theorem Still.leads (h : Still q q') : Leads q q.limit q' :=
  ⟨⟨[], h.model⟩, h.limit⟩

theorem Leads.trans {l l' : Option Limit} (h : Leads q l q') (h' : Leads q' l' q'') :
    Leads q l' q'' := by
  obtain ⟨es, hes⟩ := h.model
  obtain ⟨fs, hfs⟩ := h'.model
  exact ⟨⟨es ++ fs, by rw [hfs, hes, Model.edits_append]⟩, h'.limit⟩

theorem still_guarded {α β : Type} {check : Except Violation α} (no : β) {act : α → β × Sequencer}
    (h : ∀ a, Still q (act a).2) : Still q (q.guarded check no act).2 := by
  cases check with
  | ok a => exact h a
  | error v => exact (untouched_report q v).still

theorem leads_guarded {α β : Type} {check : Except Violation α} (no : β) {act : α → β × Sequencer}
    (h : ∀ a, Leads q q.limit (act a).2) : Leads q q.limit (q.guarded check no act).2 := by
  cases check with
  | ok a => exact h a
  | error v => exact (untouched_report q v).still.leads

theorem still_registerEach {ε : Type} {register : Sequencer → ε → Bool × Sequencer}
    (h : ∀ q e, Still q (register q e).2) (q : Sequencer) (es : List ε) :
    Still q (registerEach register q es).2 := by
  induction es generalizing q with
  | nil => exact ⟨rfl, rfl, rfl⟩
  | cons e rest ih => exact (h q e).trans (ih (register q e).2)

theorem still_registerOperation (q : Sequencer) (s : Symbol) (f : Callback) :
    Still q (q.registerOperation s f).2 := by
  rw [registerOperation_eq]
  exact still_guarded false fun _ => ⟨rfl, rfl, rfl⟩

theorem still_registerValue (q : Sequencer) (s : Symbol) (value : Value) :
    Still q (q.registerValue s value).2 := by
  rw [registerValue_eq]
  exact still_guarded false fun _ => ⟨rfl, rfl, rfl⟩

theorem still_registerLabel (q : Sequencer) (label : String) (s : Symbol) :
    Still q (q.registerLabel label s).2 := by
  rw [registerLabel_eq]
  exact still_guarded false fun _ => ⟨rfl, rfl, rfl⟩

theorem still_registerOperations (q : Sequencer) (es : List (Symbol × Callback)) :
    Still q (q.registerOperations es).2 := by
  refine still_registerEach (fun q e => ?_) q es
  exact still_registerOperation q e.1 e.2

theorem still_registerValues (q : Sequencer) (es : List (Symbol × Value)) :
    Still q (q.registerValues es).2 := by
  refine still_registerEach (fun q e => ?_) q es
  exact still_registerValue q e.1 e.2

theorem still_registerLabels (q : Sequencer) (es : List (String × Symbol)) :
    Still q (q.registerLabels es).2 := by
  refine still_registerEach (fun q e => ?_) q es
  exact still_registerLabel q e.1 e.2

/-- Adding a record is the call that adds it to the model. -/
theorem leads_add (edit : Code → List Code → Edit)
    {place : Model → Code → List Code → RecordId × Model}
    (h : ∀ m c cs, (place m c cs).2 = m.edit (edit c cs)) (q : Sequencer) (operation : Symbol)
    (arguments : List Symbol) :
    Leads q q.limit (q.add place operation arguments).2 := by
  rw [add_eq]
  exact leads_guarded none fun c => ⟨⟨[edit c.1 c.2], h q.model c.1 c.2⟩, rfl⟩

theorem leads_store (q : Sequencer) (s : Sequence) : Leads q q.limit (q.store s) :=
  ⟨⟨[.replace (decode q.space s).contents], rfl⟩, rfl⟩

theorem leads_setSequence (q : Sequencer) (s : Sequence) :
    Leads q q.limit (q.setSequence s).2 := by
  rw [setSequence_eq]
  refine admitted_cases (P := fun x => Leads q q.limit x.2) (fun _ => ?_) fun v =>
    (untouched_report q v).still.leads
  have hgate : Leads q q.limit (q.gate s.length) := (Untouched.still (gate_eq q s.length)).leads
  have hstore := leads_store (q.gate s.length) s
  rw [hgate.limit] at hstore
  exact hgate.trans hstore

theorem limitCheck_eq (n : Nat) :
    Limit.check n = if h : 0 < n then .ok ⟨n, h⟩
      else .error { kind := .invalidMaxLength, detail := some ("got " ++ toString (n : Int)) } := by
  by_cases h : 0 < n <;> simp [Limit.check, h]

/-- Apart from the reports, only the limit is different. -/
theorem untouched_setLimit (q : Sequencer) (n : Nat) :
    Untouched { q with limit := Request.limitFrom q.limit (.setLimit n) } (q.setLimit n).2 := by
  rw [setLimit_eq, limitCheck_eq, Request.limitFrom]
  by_cases h : 0 < n
  · simp only [h, dif_pos]
    exact .refl _
  · simp only [h, dif_neg, not_false_eq_true]
    exact untouched_report q _

theorem leads_setLimit (q : Sequencer) (n : Nat) :
    Leads q (Request.limitFrom q.limit (.setLimit n)) (q.setLimit n).2 := by
  rw [untouched_setLimit]
  exact ⟨⟨[], rfl⟩, rfl⟩

/-- A request changes the model by calls only, and the limit only if that is what it is for. -/
theorem leads_perform (q : Sequencer) (r : Request) :
    Leads q (r.limitFrom q.limit) (q.perform r).2 := by
  cases r with
  | registerOperation s f => exact (still_registerOperation q s f).leads
  | registerOperations es => exact (still_registerOperations q es).leads
  | setOperations es =>
    have h := (still_registerOperations { q with operations := .empty } es).leads
    exact ⟨h.model, h.limit⟩
  | registerValue s value => exact (still_registerValue q s value).leads
  | registerValues es => exact (still_registerValues q es).leads
  | setValues es =>
    have h := (still_registerValues { q with values := .empty } es).leads
    exact ⟨h.model, h.limit⟩
  | registerLabel label s => exact (still_registerLabel q label s).leads
  | registerLabels es => exact (still_registerLabels q es).leads
  | setLabels es =>
    have h := (still_registerLabels { q with labels := .empty } es).leads
    exact ⟨h.model, h.limit⟩
  | append operation arguments => exact leads_add .append (fun _ _ _ => rfl) q _ _
  | prepend operation arguments => exact leads_add .prepend (fun _ _ _ => rfl) q _ _
  | insert index operation arguments =>
    exact leads_add (.insert index) (fun _ _ _ => rfl) q _ _
  | remove id =>
    show Leads q q.limit (q.remove id).2
    rw [remove_eq]
    exact leads_guarded false fun _ => ⟨⟨[.remove id], rfl⟩, rfl⟩
  | index id =>
    show Leads q q.limit (q.index id).2
    rw [index_eq]
    exact leads_guarded none fun _ => Still.leads ⟨rfl, rfl, rfl⟩
  | setSequence s => exact leads_setSequence q s
  | setLimit n => exact leads_setLimit q n
  | clearLimit => exact ⟨⟨[], rfl⟩, rfl⟩
  | setResolution resolution => exact ⟨⟨[], rfl⟩, rfl⟩
  | execute s => exact (untouched_execute q s).still.leads
  | takeDiagnostics => exact Still.leads ⟨rfl, rfl, rfl⟩

/-! ## Runs -/

theorem leads_performAll (q : Sequencer) (rs : List Request) :
    Leads q (Request.limitAfter q.limit rs) (q.performAll rs).2 := by
  induction rs generalizing q with
  | nil => exact Still.leads ⟨rfl, rfl, rfl⟩
  | cons r rest ih =>
    have hfirst := leads_perform q r
    have hrest := ih (q.perform r).2
    rw [hfirst.limit] at hrest
    exact hfirst.trans hrest

/-- The limit in force is the one that was set last. -/
theorem limit_performAll (q : Sequencer) (rs : List Request) :
    (q.performAll rs).2.limit = Request.limitAfter q.limit rs :=
  (leads_performAll q rs).limit

/-- The model goes on tracking what was created. -/
theorem tracks_performAll {made : List Record} (h : Model.Tracks q.model made)
    (rs : List Request) : ∃ more, Model.Tracks (q.performAll rs).2.model (made ++ more) := by
  obtain ⟨es, hes⟩ := (leads_performAll q rs).model
  rw [hes]
  exact ⟨_, Model.tracks_edits h es⟩

theorem untouched_opened (c : Config) :
    Untouched { policy := policyOf c, resolution := c.resolution } (opened c) :=
  untouched_foldl_report _ c.issues

theorem limit_opened (c : Config) : (opened c).limit = none := by
  rw [untouched_opened]

theorem tracks_opened (c : Config) : Model.Tracks (opened c).model [] := by
  rw [untouched_opened]
  exact Model.tracks_empty

/-- Without a sequence there is nothing in the model. -/
theorem ofConfig_of_none {c : Config} (h : c.sequence = none) :
    (ofConfig c).model = .empty ∧ (ofConfig c).resolution = c.resolution := by
  have hopened : (opened c).model = .empty ∧ (opened c).resolution = c.resolution := by
    rw [untouched_opened]
    exact ⟨rfl, rfl⟩
  unfold ofConfig
  rw [h]
  simp only [(still_registerLabels _ _).model, (still_registerValues _ _).model,
    (still_registerOperations _ _).model, (still_registerLabels _ _).resolution,
    (still_registerValues _ _).resolution, (still_registerOperations _ _).resolution]
  cases c.maxLength with
  | none => exact hopened
  | some n =>
    have hlimit : ((opened c).setLimit n).2.model = (opened c).model ∧
        ((opened c).setLimit n).2.resolution = (opened c).resolution := by
      rw [untouched_setLimit]
      exact ⟨rfl, rfl⟩
    exact ⟨hlimit.1.trans hopened.1, hlimit.2.trans hopened.2⟩

/-- A run goes on where the run before it ended. -/
theorem performAll_append (q : Sequencer) (rs ss : List Request) :
    q.performAll (rs ++ ss) =
      ((q.performAll rs).1 ++ ((q.performAll rs).2.performAll ss).1,
        ((q.performAll rs).2.performAll ss).2) := by
  induction rs generalizing q with
  | nil => rfl
  | cons r rest ih => simp only [List.cons_append, performAll, ih]

theorem length_answers (q : Sequencer) (rs : List Request) :
    (q.performAll rs).1.length = rs.length := by
  induction rs generalizing q with
  | nil => rfl
  | cons r rest ih => exact congrArg (· + 1) (ih (q.perform r).2)

/-- The answer to a request is that of the state in which it is performed. -/
theorem answer_performAll (q : Sequencer) (before : List Request) (r : Request)
    (after : List Request) :
    (q.performAll (before ++ r :: after)).1[before.length]? =
      some ((q.performAll before).2.perform r).1 := by
  rw [performAll_append, ← length_answers q before, List.getElem?_append_right (Nat.le_refl _),
    Nat.sub_self]
  rfl

end Sequencer

end Opscript
