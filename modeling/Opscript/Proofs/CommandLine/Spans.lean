import Opscript.CommandLine.Program
import Opscript.Proofs.Sequencer.Stable
import Opscript.Proofs.Text.Lossy

/-!
# Where the spans of a session point

A span that is reported covers the end of the sequence whose length was checked: `Points` says so of
two states, and `points_work` of every command. What is reported after a session was built is
printed over the text of its source. A sequence from the command line is its own source. Without
one the model is checked, and the model has lost the leading codes that the configured sequence has
in the source. So a span that is meant for the model stands too far to the left, by as many units
as there are leading codes (`later_span_shifted`).
-/

namespace Opscript

/-- The span covers the end of a sequence of length `n`, but not all of it. -/
structure Span.Ends (s : Span) (n : Nat) : Prop where
  start : 0 < s.start
  lt : s.start < s.stop
  stop : s.stop = n

theorem ends_of_checkLength {n : Nat} {limit : Option Limit} {v : Violation}
    (h : checkLength n limit = .error v) {s : Span} (hs : v.span = some s) : s.Ends n := by
  obtain ⟨-, l, -, hlt, hspan⟩ := checkLength_eq_error h
  obtain rfl : ⟨l.val, n⟩ = s := Option.some.inj (hspan.symm.trans hs)
  exact ⟨l.pos, hlt, rfl⟩

namespace Sequencer

/-! ## What is reported of a length -/

/-- Between `q` and `q'` violations are reported whose spans, if they have any, cover the end of a
sequence of length `n`. -/
def Points (q : Sequencer) (n : Nat) (q' : Sequencer) : Prop :=
  ∃ vs, Tells q vs q' ∧ ∀ v ∈ vs, ∀ s : Span, v.span = some s → s.Ends n

variable {q q' q'' : Sequencer} {n : Nat}

theorem points_quiet (h : Quiet q q') : Points q n q' :=
  ⟨[], tells_quiet h, fun _ hv => nomatch hv⟩

theorem points_report {v : Violation} (h : ∀ s : Span, v.span = some s → s.Ends n) :
    Points q n (q.report v).2 :=
  ⟨[v], tells_report q v, fun _ hv => List.mem_singleton.1 hv ▸ h⟩

theorem Points.trans (h : Points q n q') (h' : Points q' n q'') : Points q n q'' := by
  obtain ⟨vs, hvs, hspans⟩ := h
  obtain ⟨ws, hws, hspans'⟩ := h'
  exact ⟨vs ++ ws, hvs.trans hws, fun v hv => (List.mem_append.1 hv).elim (hspans v) (hspans' v)⟩

theorem points_admitted {β : Type} (no : β) {act : Sequencer → β × Sequencer}
    (h : ∀ g, q.Untouched g → Points g n (act g).2) : Points q n (q.admitted n no act).2 := by
  unfold admitted
  cases hv : checkLength n q.limit with
  | ok => exact h q (.refl q)
  | error v =>
    have hreport : Points q n (q.report v).2 := points_report fun s => ends_of_checkLength hv
    simp only
    split
    · exact hreport
    · exact hreport.trans (h _ (untouched_report q v))

theorem points_setSequence (q : Sequencer) (s : Sequence) :
    Points q s.length (q.setSequence s).2 := by
  rw [setSequence_eq]
  exact points_admitted false fun _ _ => points_quiet ⟨rfl, rfl⟩

/-- That there is nothing to execute is a report without a span. -/
theorem points_launch (q : Sequencer) (s : Option Sequence) (n : Nat) :
    Points q n (q.launch s).2 := by
  by_cases hn : q.lengthOf s = 0
  · cases hq : q.policy.isStrict with
    | true =>
      rw [launch_of_empty_strict hn hq]
      exact points_report fun _ hs => nomatch hs
    | false =>
      rw [launch_of_empty hn hq]
      exact points_quiet ⟨rfl, rfl⟩
  · rw [launch_of_pos hn]
    unfold conclude
    cases (q.runOf s).failure? <;> exact points_quiet ⟨rfl, rfl⟩

theorem points_execute (q : Sequencer) (s : Option Sequence) :
    Points q (q.lengthOf s) (q.execute s).2 := by
  rw [execute_eq]
  exact points_admitted _ fun g _ => points_launch g s _

/-- What was reported before stays in front. -/
theorem Points.diagnostics (h : Points q n q') :
    q'.diagnostics.take q.diagnostics.length = q.diagnostics ∧
      ∀ d ∈ q'.diagnostics.drop q.diagnostics.length, ∀ s, d.span = some s → s.Ends n := by
  obtain ⟨vs, htells, hspans⟩ := h
  rw [htells.diagnostics, List.take_left, List.drop_left]
  refine ⟨rfl, fun d hd s hs => ?_⟩
  obtain ⟨v, hv, hmem⟩ := List.mem_flatMap.1 hd
  rw [Policy.eq_of_mem_collect hmem, Policy.diagnostic_eq] at hs
  exact hspans v hv s hs

/-! ## What is left in the model -/

/-- A sequence that is set leaves the model as it was, or without its own leading codes. -/
theorem sequence_setSequence (q : Sequencer) (s : Sequence) :
    (q.setSequence s).2.model = q.model ∨ (q.setSequence s).2.model.sequence =
      s.drop (leading (q.setSequence s).2.operations.contains s) := by
  rw [setSequence_eq]
  refine admitted_cases (P := fun x => x.2.model = q.model ∨ x.2.model.sequence =
    s.drop (leading x.2.operations.contains s)) (fun _ => .inr ?_) fun v => .inl rfl
  rw [sequence_store, isOperation_space]
  rfl

/-- What a configured sequence leaves in the model. -/
theorem sequence_ofConfig {c : Config} {s : Sequence} (h : c.sequence = some s) :
    (ofConfig c).model.sequence = [] ∨
      (ofConfig c).model.sequence = s.drop (leading (ofConfig c).operations.contains s) := by
  rw [ofConfig_of_some h]
  refine (sequence_setSequence _ s).imp_left fun hsame => ?_
  rw [hsame, (ofConfig_of_none rfl).1]
  rfl

end Sequencer

namespace CommandLine

/-! ## Commands -/

/-- The sequence whose length a command checks: the one from the command line, or else that of the
model. -/
def Session.checked (x : Session) : Sequence := x.sequence.getD x.sequencer.model.sequence

theorem points_work (i : Invocation) (p : Palette) (x : Session) :
    x.sequencer.Points x.checked.length (work i p x).session.sequencer := by
  have hexecute : x.sequencer.Points x.checked.length (x.sequencer.execute x.sequence).2 :=
    Sequencer.points_execute x.sequencer x.sequence
  unfold work
  cases i.command with
  | exec => exact hexecute
  | trace => exact hexecute
  | dump =>
    unfold dump Session.checked
    dsimp only
    cases x.sequence with
    | some s => exact Sequencer.points_setSequence x.sequencer s
    | none => exact Sequencer.points_quiet ⟨rfl, rfl⟩

theorem source_work (i : Invocation) (p : Palette) (x : Session) :
    (work i p x).session.source = x.source := by
  unfold work
  cases i.command <;> rfl

/-! ## Sources -/

/-- How many units of the source stand in front of the sequence that is checked: the leading codes
of the configured sequence, unless there is one from the command line. -/
def Session.front (x : Session) (configured : Option Sequence) : Nat :=
  match x.sequence with
  | some _ => 0
  | none => leading x.sequencer.operations.contains (configured.getD [])

/-- No unit of the end of a sequence is missing in its text. -/
theorem length_slice_text {s : Span} {u : Sequence} (hs : s.Ends u.length) :
    (slice (Utf16.encode u.text).toArray s).length = s.length := by
  rw [slice_toArray, List.length_take, List.length_drop, Sequence.text, Utf16.length_encode_lossy,
    ← hs.stop]
  exact Nat.min_self _

/-- The units of a text without the first `k` codes, from its second unit on. -/
theorem slice_text_drop {s : Span} (hs : 0 < s.start) (k : Nat) (u : Sequence) :
    slice (Utf16.encode u.text).toArray ⟨k + s.start, k + s.stop⟩ =
      slice (Utf16.encode (Sequence.text (u.drop k))).toArray s := by
  unfold Sequence.text
  simp only [slice_toArray, Utf16.encode_lossy, Utf16.drop_scrub_of_pos hs, Nat.add_sub_add_left]

/-- The source of a sequence from the command line is its own text. -/
theorem slice_source_given {x : Session} {u : Sequence} {configured : Option Sequence}
    (hsequence : x.sequence = some u) (hsource : x.source = u.text) (s : Span) :
    slice (Utf16.encode x.source).toArray
        ⟨x.front configured + s.start, x.front configured + s.stop⟩ =
      slice (Utf16.encode x.checked.text).toArray s := by
  unfold Session.front Session.checked
  rw [hsequence, hsource]
  simp only [Nat.zero_add, Option.getD_some]

/-- The source of the model is the text of the configured sequence, which may have leading codes. -/
theorem slice_source_configured {c : Config} {o : Options} (ho : o.sequence = none) {s : Span}
    (hs : s.Ends (Session.build c o).checked.length) :
    let x := Session.build c o
    slice (Utf16.encode x.source).toArray
        ⟨x.front c.sequence + s.start, x.front c.sequence + s.stop⟩ =
      slice (Utf16.encode x.checked.text).toArray s := by
  intro x
  have hsequence : x.sequence = none := congrArg (Option.map Sequence.ofString) ho
  have hsource : x.source = Session.textOf c.sequence := by
    show Session.textOf (x.sequence <|> c.sequence) = _
    rw [hsequence]
    rfl
  have hchecked : x.checked = x.sequencer.model.sequence := by
    rw [Session.checked, hsequence]
    rfl
  -- What is empty has no end that is not all of it.
  have hne : x.sequencer.model.sequence ≠ [] := by
    intro hempty
    have hlt := hs.lt
    rw [hs.stop, show (Session.build c o).checked = [] from hchecked.trans hempty] at hlt
    exact Nat.not_lt_zero _ hlt
  cases hc : c.sequence with
  | none =>
    refine absurd ?_ hne
    show (Sequencer.ofConfig (Session.override c o)).model.sequence = []
    rw [(Sequencer.ofConfig_of_none (c := Session.override c o) hc).1]
    rfl
  | some t =>
    have hmodel : x.sequencer.model.sequence =
        t.drop (leading x.sequencer.operations.contains t) :=
      (Sequencer.sequence_ofConfig (c := Session.override c o) hc).resolve_left hne
    have hfront : x.front (some t) = leading x.sequencer.operations.contains t := by
      unfold Session.front
      rw [hsequence]
      rfl
    rw [hsource, hc, hchecked, hmodel, hfront]
    exact slice_text_drop hs.start _ t

/-- What a command reports after the session was built stands behind what was reported before. If it
has a span, then the span covers the end of the sequence that was checked, and the units that it is
meant for are found in the source behind the leading codes of the configured sequence, as far as
these are not in what was checked. So a span that is printed over the source covers the units that
it is meant for if nothing stands in front. -/
theorem later_span_shifted (c : Config) (i : Invocation) (p : Palette) :
    let x := Session.build c i.options
    let after := (work i p x).session
    let front := x.front c.sequence
    after.sequencer.diagnostics.take x.setupCount = x.sequencer.diagnostics ∧
      ∀ d ∈ after.sequencer.diagnostics.drop x.setupCount, ∀ s, d.span = some s →
        s.Ends x.checked.length ∧
          (slice (Utf16.encode x.checked.text).toArray s).length = s.length ∧
          slice (Utf16.encode after.source).toArray ⟨front + s.start, front + s.stop⟩ =
            slice (Utf16.encode x.checked.text).toArray s := by
  intro x after front
  obtain ⟨hbefore, hlater⟩ := (points_work i p x).diagnostics
  have hsource : after.source = x.source := source_work i p x
  refine ⟨hbefore, fun d hd s hs => ?_⟩
  have hends := hlater d hd s hs
  rw [hsource]
  refine ⟨hends, length_slice_text hends, ?_⟩
  cases ho : i.options.sequence with
  | some t =>
    have hsequence : x.sequence = some (.ofString t) := congrArg (Option.map Sequence.ofString) ho
    refine slice_source_given hsequence ?_ s
    show Session.textOf (x.sequence <|> c.sequence) = _
    rw [hsequence]
    rfl
  | none => exact slice_source_configured ho hends

/-- A leading code in the configured sequence: the span is meant for `c` and covers `b`. -/
theorem later_span_beside_checked :
    let c : Config :=
      { operations := [(.text "A", ⟨"a", none⟩)], sequence := some (.ofString "xAbc")
        maxLength := some 2 }
    let i : Invocation := ⟨.exec, ⟨"-", none, false, false, none, .never, 0⟩, false⟩
    let x := Session.build c i.options
    let after := (work i (.ofBool false) x).session
    x.front c.sequence = 1 ∧ ∃ d ∈ after.sequencer.diagnostics.drop x.setupCount,
      d.span = some ⟨2, 3⟩ ∧
        slice (Utf16.encode after.source).toArray ⟨2, 3⟩ = Utf16.encode "b" ∧
        slice (Utf16.encode x.checked.text).toArray ⟨2, 3⟩ = Utf16.encode "c" := by
  decide +kernel

end CommandLine

end Opscript
