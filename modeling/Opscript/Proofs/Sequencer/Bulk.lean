import Opscript.Proofs.Sequencer.Slots
import Opscript.Proofs.Symbol.Grammar

/-!
# Registering many entries

Of a list of entries, the valid ones are registered and the others are reported, each in its turn
and whatever becomes of those before it. `Registers` says what is left of it: the answer, the
payloads, the order of the keys and the reports. It is the same for the three registries, and for
entries that are registered in place of all others.
-/

namespace Opscript

namespace Sequencer

variable {κ ν : Type} [DecidableEq κ]

/-- What it comes to that entries are registered in place of `start`. Each has its symbol, and
`entries` are the valid ones with the codes of their symbols. -/
structure Registers (x : Slot κ ν) (q : Sequencer) (start : Ordered κ ν) (symbols : List Symbol)
    (entries : List (κ × ν)) (result : Bool × Sequencer) : Prop where
  accepted : result.1 = true ↔ ∀ s ∈ symbols, s.Valid
  payload : ∀ k, (x.read result.2).get? k = (latest? k entries).or (start.get? k)
  keys : (x.read result.2).keys =
    start.keys ++ ((entries.map Prod.fst).filter (· ∉ start.keys)).eraseDups
  reports : Reports q (symbols.filterMap fun s => Violation.of? s.code) result.2
  /-- Apart from the reports, nothing else is different. -/
  untouched : (x.write q (x.read result.2)).Untouched result.2

/-! ## Answers -/

theorem accepted_guarded {q : Sequencer} {s : Symbol} {act : Code → Sequencer} :
    (q.guarded s.code false fun c => (true, act c)).1 = true ↔ s.Valid := by
  unfold Symbol.Valid
  cases s.code with
  | ok c => exact iff_of_true rfl ⟨c, rfl⟩
  | error v => exact iff_of_false Bool.false_ne_true nofun

/-- All entries are tried, and the answer is yes if all are accepted. -/
theorem accepted_registerEach {ε : Type} {register : Sequencer → ε → Bool × Sequencer}
    {symbol : ε → Symbol} (h : ∀ q e, (register q e).1 = true ↔ (symbol e).Valid) (q : Sequencer)
    (es : List ε) :
    (registerEach register q es).1 = true ↔ ∀ s ∈ es.map symbol, s.Valid := by
  induction es generalizing q with
  | nil => exact iff_of_true rfl nofun
  | cons e rest ih =>
    rw [List.map_cons, List.forall_mem_cons, ← h q e, ← ih (register q e).2]
    exact Bool.and_eq_true_iff

section

variable (q : Sequencer)

theorem accepted_registerOperations (es : List (Symbol × Callback)) :
    (q.registerOperations es).1 = true ↔ ∀ s ∈ es.map Prod.fst, s.Valid :=
  accepted_registerEach (fun q e => by rw [registerOperation_eq]; exact accepted_guarded) q es

theorem accepted_registerValues (es : List (Symbol × Value)) :
    (q.registerValues es).1 = true ↔ ∀ s ∈ es.map Prod.fst, s.Valid :=
  accepted_registerEach (fun q e => by rw [registerValue_eq]; exact accepted_guarded) q es

theorem accepted_registerLabels (es : List (String × Symbol)) :
    (q.registerLabels es).1 = true ↔ ∀ s ∈ es.map Prod.snd, s.Valid :=
  accepted_registerEach (fun q e => by rw [registerLabel_eq]; exact accepted_guarded) q es

end

/-! ## The three registries -/

/-- A way to register entries which lands them, answers and reports in each state does so with any
registry to begin with. -/
theorem registers_of_lands {x : Slot κ ν} {ε : Type} {symbol : ε → Symbol}
    {entries : List ε → List (κ × ν)} {register : Sequencer → List ε → Bool × Sequencer}
    (hwrite : ∀ q m, Reports q [] (x.write q m))
    (haccepted : ∀ q es, (register q es).1 = true ↔ ∀ s ∈ es.map symbol, s.Valid)
    (hlands : ∀ q es, x.Lands q (entries es) (register q es).2)
    (hreports : ∀ q es,
      Reports q (es.filterMap fun e => Violation.of? (symbol e).code) (register q es).2)
    (q : Sequencer) (start : Ordered κ ν) (es : List ε) :
    Registers x q start (es.map symbol) (entries es) (register (x.write q start) es) := by
  have hleft := hlands (x.write q start) es
  have hread : x.read (register (x.write q start) es).2 = start.insertAll (entries es) := by
    rw [hleft.read_eq, x.read_write]
  refine ⟨haccepted _ es, fun k => ?_, ?_, ?_, ?_⟩
  · rw [hread, Ordered.get?_insertAll]
  · rw [hread, Ordered.keys_insertAll]
  · rw [List.filterMap_map]
    exact (hwrite q start).trans (hreports _ es)
  · unfold Slot.Lands at hleft
    rw [x.read_write, x.write_write] at hleft
    rw [hread]
    exact hleft

section

variable (q : Sequencer)

theorem registers_operations (start : Operations) (es : List (Symbol × Callback)) :
    Registers .operations q start (es.map Prod.fst) (resolved es)
      ({ q with operations := start }.registerOperations es) :=
  registers_of_lands (x := .operations) (fun _ _ => reports_nothing ⟨rfl, rfl⟩ rfl)
    accepted_registerOperations lands_registerOperations reports_registerOperations q start es

theorem registers_values (start : Values) (es : List (Symbol × Value)) :
    Registers .values q start (es.map Prod.fst) (resolved es)
      ({ q with values := start }.registerValues es) :=
  registers_of_lands (x := .values) (fun _ _ => reports_nothing ⟨rfl, rfl⟩ rfl)
    accepted_registerValues lands_registerValues reports_registerValues q start es

theorem registers_labels (start : Labels) (es : List (String × Symbol)) :
    Registers .labels q start (es.map Prod.snd) (resolvedLabels es)
      ({ q with labels := start }.registerLabels es) :=
  registers_of_lands (x := .labels) (fun _ _ => reports_nothing ⟨rfl, rfl⟩ rfl)
    accepted_registerLabels lands_registerLabels reports_registerLabels q start es

end

/-- Entries are registered one after the other, in addition to those that are there or in place of
them. The answer is yes exactly if all of their symbols are valid. Under each key there is then the
payload of the last valid entry for it, also where the symbols differ, or else the payload from
before. The keys from before keep their places, and new ones follow in the order in which they first
come. Each entry that is not valid is reported, in the order of the entries, and apart from that
nothing else is different. -/
theorem registers_entries (q : Sequencer) :
    (∀ es, Registers .operations q q.operations (es.map Prod.fst) (resolved es)
      (q.registerOperations es)) ∧
    (∀ es, Registers .operations q .empty (es.map Prod.fst) (resolved es) (q.setOperations es)) ∧
    (∀ es, Registers .values q q.values (es.map Prod.fst) (resolved es) (q.registerValues es)) ∧
    (∀ es, Registers .values q .empty (es.map Prod.fst) (resolved es) (q.setValues es)) ∧
    (∀ es, Registers .labels q q.labels (es.map Prod.snd) (resolvedLabels es)
      (q.registerLabels es)) ∧
    ∀ es, Registers .labels q .empty (es.map Prod.snd) (resolvedLabels es) (q.setLabels es) :=
  ⟨registers_operations q q.operations, registers_operations q .empty,
    registers_values q q.values, registers_values q .empty,
    registers_labels q q.labels, registers_labels q .empty⟩

/-- Two symbols of one code, with an entry between them that is not valid. -/
example :
    let result := ({} : Sequencer).registerValues
      [(.text "b", .int 1), (.text "A", .int 2), (.text "", .int 3), (.int 65, .int 4)]
    result.1 = false ∧ result.2.values.keys = [98, 65] ∧
      result.2.diagnostics.map Diagnostic.kind = [.symbolNotSingleChar] := by
  decide +kernel

end Sequencer

end Opscript
