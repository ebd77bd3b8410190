import Opscript.Proofs.CommandLine.Status
import Opscript.Proofs.CommandLine.Spans
import Opscript.Proofs.Config.Issues
import Opscript.Proofs.Diagnostic.Messages
import Opscript.Proofs.Symbol.Grammar

/-!
# What a session prints

A session counts what was reported while it was built, and that number cuts its diagnostics in two:
those of the construction are printed over the text of the configured sequence, the later ones over
the source. Nothing is lost or printed twice, however many requests there were in between, as long
as none of them takes the diagnostics out (`render_partition`). While a session is built only the
configured sequence can be too long, so each span of that time covers the end of this sequence
(`ends_of_mem_ofConfig`), and its text is as long as it is.
-/

namespace Opscript

/-! ## Spans of the construction -/

/-- The symbols that are refused are told of without a span. -/
theorem span_of_mem_of?_code {ε : Type} {es : List ε} {symbol : ε → Symbol} {v : Violation}
    (h : v ∈ es.filterMap fun e => Violation.of? (symbol e).code) : v.span = none := by
  obtain ⟨e, -, he⟩ := List.mem_filterMap.1 h
  cases hcode : (symbol e).code with
  | ok c =>
    rw [hcode] at he
    cases he
  | error w =>
    rw [hcode] at he
    obtain rfl := Option.some.inj he
    exact Symbol.span_of_code hcode

/-- Only a sequence that is too long is told of with a span. -/
theorem Config.ends_of_mem_violations {c : Config} (hc : c.FromDocument) {v : Violation}
    (hv : v ∈ c.violations) {s : Span} (hs : v.span = some s) :
    ∃ u, c.sequence = some u ∧ s.Ends u.length := by
  have hnone : v.span ≠ none := by rw [hs]; exact Option.some_ne_none s
  simp only [violations, List.mem_append, Option.mem_toList] at hv
  -- of the six kinds of violations only the last is about a sequence
  rcases hv with ((((hv | hv) | hv) | hv) | hv) | hv
  · exact absurd (hc.span hv) hnone
  · split at hv
    · exact absurd (List.mem_singleton.1 hv ▸ rfl) hnone
    · cases hv
  · exact absurd (span_of_mem_of?_code hv) hnone
  · exact absurd (span_of_mem_of?_code hv) hnone
  · exact absurd (span_of_mem_of?_code hv) hnone
  · obtain ⟨u, hu, hlength⟩ := Option.bind_eq_some_iff.1 hv
    refine ⟨u, hu, ?_⟩
    cases hcheck : checkLength u.length c.limit with
    | ok =>
      rw [hcheck] at hlength
      cases hlength
    | error w =>
      rw [hcheck] at hlength
      obtain rfl := Option.some.inj hlength
      exact ends_of_checkLength hcheck hs

theorem Sequencer.ends_of_mem_ofConfig {c : Config} (hc : c.FromDocument) {d : Diagnostic}
    (hd : d ∈ (ofConfig c).diagnostics) {s : Span} (hs : d.span = some s) :
    ∃ u, c.sequence = some u ∧ s.Ends u.length := by
  rw [diagnostics_ofConfig] at hd
  obtain ⟨v, hv, hmem⟩ := List.mem_flatMap.1 hd
  rw [Policy.eq_of_mem_collect hmem, Policy.diagnostic_eq] at hs
  exact Config.ends_of_mem_violations hc hv hs

namespace CommandLine

/-- No unit of a sequence is missing in its text. -/
theorem Session.length_textOf (u : Sequence) : Utf16.length (textOf (some u)) = u.length := by
  rw [← Utf16.length_encode]
  exact Utf16.length_encode_lossy u

namespace Session

/-! ## Blocks -/

/-- The session when its sequencer has done these requests. -/
def after (x : Session) (rs : List Request) : Session :=
  { x with sequencer := (x.sequencer.performAll rs).2 }

/-- The diagnostics of each source are printed, unless there are none. -/
theorem block_append_block (draw : Diagnostic.Draw) (a b : Diagnostic.Source)
    (setup later : List Diagnostic) :
    block draw a setup ++ block draw b later =
      ([(a, setup), (b, later)].filter fun x => !x.2.isEmpty).map fun x =>
        Diagnostic.printAll draw (some x.1) x.2 := by
  cases setup <;> cases later <;> rfl

/-- The number that was counted cuts the diagnostics in two. -/
theorem render_of_append (draw : Diagnostic.Draw) {x : Session} {setup later : List Diagnostic}
    (h : x.sequencer.diagnostics = setup ++ later) (hcount : x.setupCount = setup.length) :
    x.render draw =
      ((String.intercalate "\n" (block draw ⟨x.configSource, some x.configPath⟩ setup ++
          block draw ⟨x.source, some "<sequence>"⟩ later), setup ++ later),
        { x with sequencer := { x.sequencer with diagnostics := [] }, setupCount := 0 }) := by
  simp only [render, Sequencer.takeDiagnostics, h, hcount, List.take_left, List.drop_left]

/-- Where nothing has been reported nothing is printed. -/
theorem render_of_nil (draw : Diagnostic.Draw) {x : Session} (h : x.sequencer.diagnostics = [])
    (hcount : x.setupCount = 0) : (x.render draw).1 = ("", []) := by
  have hnone : x.sequencer.diagnostics = [] ++ [] := h
  rw [render_of_append draw hnone hcount]
  rfl

/-- A session prints and hands out all its diagnostics in the order of their reports: what was
reported while it was built, over the text of the configured sequence and under the name of the
configuration, and behind that what the requests since then have reported, over the source; of the
two, one that is empty is left out. Every span of the first part ends where the text of the
configured sequence ends and is not empty. The second time there is nothing to print. -/
theorem render_partition (draw : Diagnostic.Draw) {c : Config} (hc : c.FromDocument) (o : Options)
    {rs : List Request} (hrs : .takeDiagnostics ∉ rs) :
    let x := build c o
    let setup := x.sequencer.diagnostics
    let later := (x.sequencer.foundAll rs).flatMap x.sequencer.policy.collect
    let blocks : List (Diagnostic.Source × List Diagnostic) :=
      [(⟨textOf c.sequence, some o.config⟩, setup), (⟨x.source, some "<sequence>"⟩, later)]
    let ((printed, ds), next) := (x.after rs).render draw
    (x.after rs).sequencer.diagnostics = setup ++ later ∧
      ds = setup ++ later ∧
      printed = String.intercalate "\n" ((blocks.filter fun b => !b.2.isEmpty).map fun b =>
        Diagnostic.printAll draw (some b.1) b.2) ∧
      (∀ d ∈ setup, ∀ s, d.span = some s →
        s.start < s.stop ∧ s.stop = Utf16.length (textOf c.sequence)) ∧
      ∀ draw', (next.render draw').1 = ("", []) := by
  intro x setup later blocks
  have hdiagnostics : (x.after rs).sequencer.diagnostics = setup ++ later :=
    (Sequencer.reports_performAll x.sequencer hrs).diagnostics
  rw [render_of_append draw hdiagnostics rfl]
  refine ⟨hdiagnostics, rfl, ?_, fun d hd s hs => ?_, fun draw' => render_of_nil draw' rfl rfl⟩
  · rw [block_append_block]
    rfl
  · obtain ⟨u, hu, hends⟩ :=
      Sequencer.ends_of_mem_ofConfig (c := override c o) (s := s) hc hd hs
    have hsequence : c.sequence = some u := hu
    rw [hsequence, length_textOf]
    exact ⟨hends.lt, hends.stop⟩

/-- An issue without a span and a sequence that is too long, and another one from the command line
that is too long as well. -/
theorem render_partition_two :
    let document : Json := .object [("strictMode", .null), ("sequence", .string "abc"),
      ("maxSequenceLength", .number (.int 2))]
    let c := (Config.Loading.ofJson (fun _ => bind) document).config
    let o : Options := ⟨"c.json", some "xyz", false, false, none, .never, 0⟩
    let rs : List Request := [.clearLimit, .setLimit 1, .execute (some (.ofString "xyz"))]
    let draw : Diagnostic.Draw := fun _ source range =>
      let before := Diagnostic.takeBytes range.start source.text.toList
      source.path.getD "" ++ ": " ++ String.ofList before
    let ((printed, ds), next) := ((build c o).after rs).render draw
    c.FromDocument ∧ .takeDiagnostics ∉ rs ∧
      printed = "warning[TypeError]: invalid configuration field: `strictMode` must be a " ++
        "boolean, got null\nc.json: ab\n<sequence>: x" ∧
      ds.map Diagnostic.span = [none, some ⟨2, 3⟩, some ⟨1, 3⟩] ∧
      (next.render draw).1 = ("", []) := by
  intro document c o rs draw
  have hc : c.FromDocument := ⟨_, document, rfl⟩
  have hrs : .takeDiagnostics ∉ rs := by simp [rs]
  obtain ⟨-, hds, hprinted, -, hagain⟩ := render_partition draw hc o hrs
  have hissue : Policy.diagnostic {} (Config.Loading.malformed .strictMode .null) =
      ⟨.invalidConfigField, .warning, "invalid configuration field: `strictMode` must be a " ++
        "boolean, got null", none, []⟩ := by
    rw [Policy.diagnostic_eq, Config.Loading.message_malformed]
    rfl
  have hsetup : (build c o).sequencer.diagnostics =
      [Policy.diagnostic {} (Config.Loading.malformed .strictMode .null),
        Policy.diagnostic {} ⟨.sequenceTooLong, some "length 3, maximum 2", some ⟨2, 3⟩, none⟩] :=
    rfl
  rw [hissue] at hsetup
  refine ⟨hc, hrs, hprinted.trans ?_, (congrArg _ hds).trans ?_, hagain draw⟩
  · rw [hsetup]
    decide +kernel
  · decide +kernel

end Session

end CommandLine

end Opscript
