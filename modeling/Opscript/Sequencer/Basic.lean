import Opscript.Config.Basic
import Opscript.Decoding
import Opscript.Execution
import Opscript.Listing
import Opscript.Policy

/-!
# Sequencers

A sequencer holds the registries, a model and a policy. Every operation that takes input checks it
first. On a violation it reports to the policy and gives back `false` or `none`; apart from the
diagnostics and the log it then leaves everything as it was. The log only grows.

A sequence that is set is decoded, and its unknown argument codes become null values. A sequence
that is executed directly is read without changing anything.
-/

namespace Opscript

structure Sequencer where
  operations : Operations := .empty
  values : Values := .empty
  labels : Labels := .empty
  model : Model := .empty
  limit : Option Limit := none
  policy : Policy := {}
  resolution : Resolution := .presence
  diagnostics : List Diagnostic := []
  log : List Log.Event := []

/-- How an execution ended. -/
inductive Outcome where
  /-- The policy did not let it start. -/
  | blocked
  | finished (stats : Stats)
  /-- A callback broke it off. -/
  | failed (text : String)
  deriving DecidableEq, Repr

structure Execution where
  outcome : Outcome
  run : Run

namespace Sequencer

instance : Inhabited Sequencer := ⟨{}⟩

/-! ## Reports -/

def note (q : Sequencer) (e : Log.Event) : Sequencer := { q with log := q.log ++ [e] }

/-- Reports a violation. The answer says whether to go on. -/
def report (q : Sequencer) (v : Violation) : Bool × Sequencer :=
  let r := q.policy.report v
  (r.proceed,
    { q with diagnostics := q.diagnostics ++ r.diagnostic.toList, log := q.log ++ [r.event] })

/-- Reports a violation and gives `answer` back. -/
def refuse {α : Type} (q : Sequencer) (answer : α) (v : Violation) : α × Sequencer :=
  (answer, (q.report v).2)

/-- Takes the diagnostics out. -/
def takeDiagnostics (q : Sequencer) : List Diagnostic × Sequencer :=
  (q.diagnostics, { q with diagnostics := [] })

/-! ## Registration -/

def registerOperation (q : Sequencer) (s : Symbol) (callback : Callback) : Bool × Sequencer :=
  match s.code with
  | .ok c => (true, { q with operations := q.operations.insert c callback })
  | .error v => q.refuse false v

def registerValue (q : Sequencer) (s : Symbol) (value : Value) : Bool × Sequencer :=
  match s.code with
  | .ok c => (true, { q with values := q.values.insert c value })
  | .error v => q.refuse false v

def registerLabel (q : Sequencer) (label : String) (s : Symbol) : Bool × Sequencer :=
  match s.code with
  | .ok c => (true, { q with labels := q.labels.insert label c })
  | .error v => q.refuse false v

/-- Registers entries one after the other. The answer says whether all were accepted. -/
def registerEach {ε : Type} (register : Sequencer → ε → Bool × Sequencer) (q : Sequencer) :
    List ε → Bool × Sequencer
  | [] => (true, q)
  | e :: rest =>
    let (accepted, q) := register q e
    let (others, q) := registerEach register q rest
    (accepted && others, q)

def registerOperations (q : Sequencer) (entries : List (Symbol × Callback)) : Bool × Sequencer :=
  registerEach (fun q e => q.registerOperation e.1 e.2) q entries

def registerValues (q : Sequencer) (entries : List (Symbol × Value)) : Bool × Sequencer :=
  registerEach (fun q e => q.registerValue e.1 e.2) q entries

def registerLabels (q : Sequencer) (entries : List (String × Symbol)) : Bool × Sequencer :=
  registerEach (fun q e => q.registerLabel e.1 e.2) q entries

/-- Registers entries in place of all others. -/
def setOperations (q : Sequencer) (entries : List (Symbol × Callback)) : Bool × Sequencer :=
  { q with operations := .empty }.registerOperations entries

def setValues (q : Sequencer) (entries : List (Symbol × Value)) : Bool × Sequencer :=
  { q with values := .empty }.registerValues entries

def setLabels (q : Sequencer) (entries : List (String × Symbol)) : Bool × Sequencer :=
  { q with labels := .empty }.registerLabels entries

/-! ## Records -/

/-- The codes of a record: the operation is checked before the arguments. -/
def contentOf (operation : Symbol) (arguments : List Symbol) :
    Except Violation (Code × List Code) :=
  match operation.code with
  | .error v => .error v
  | .ok c => (Symbol.codes arguments).map (c, ·)

/-- Adds a record to the model where `place` puts it. -/
def add (q : Sequencer) (place : Model → Code → List Code → RecordId × Model)
    (operation : Symbol) (arguments : List Symbol) : Option RecordId × Sequencer :=
  match contentOf operation arguments with
  | .error v => q.refuse none v
  | .ok (c, cs) =>
    let (id, model) := place q.model c cs
    (some id, { q with model := model })

def append (q : Sequencer) (operation : Symbol) (arguments : List Symbol) :
    Option RecordId × Sequencer :=
  q.add Model.append operation arguments

def prepend (q : Sequencer) (operation : Symbol) (arguments : List Symbol) :
    Option RecordId × Sequencer :=
  q.add Model.prepend operation arguments

/-- Adds a record at `index`, or at the end if the index is larger. -/
def insert (q : Sequencer) (index : Nat) (operation : Symbol) (arguments : List Symbol) :
    Option RecordId × Sequencer :=
  q.add (fun m => m.insert index) operation arguments

def remove (q : Sequencer) (id : RecordId) : Bool × Sequencer :=
  match q.model.checkIndex id with
  | .error v => q.refuse false v
  | .ok _ =>
    let (record, model) := q.model.remove id
    (record.isSome, { q with model := model })

/-- The position of a record. -/
def index (q : Sequencer) (id : RecordId) : Option Nat × Sequencer :=
  match q.model.checkIndex id with
  | .error v => q.refuse none v
  | .ok i => (some i, q)

/-! ## Sequences -/

def space (q : Sequencer) : CodeSpace := classify q.operations q.values

def decoded (d : Decoding) : Log.Event :=
  ⟨.debug, .codec, "sequence decoded",
    [("records", toString d.drafts.length), ("registered", toString d.unknown.length),
      ("dropped", toString d.dropped.length)]⟩

/-- Replaces the records by those of a sequence. -/
def store (q : Sequencer) (s : Sequence) : Sequencer :=
  let d := decode q.space s
  { q with
    values := d.unknown.foldl (fun m c => m.insert c .null) q.values
    model := q.model.replace d.contents
    log := q.log ++ [decoded d] }

def setSequence (q : Sequencer) (s : Sequence) : Bool × Sequencer :=
  match checkLength s.length q.limit with
  | .ok () => (true, q.store s)
  | .error v =>
    match q.report v with
    | (true, q) => (true, q.store s)
    | (false, q) => (false, q)

/-- Sets the maximum length for the sequences that come later. -/
def setLimit (q : Sequencer) (n : Nat) : Bool × Sequencer :=
  match Limit.check n with
  | .ok limit => (true, { q with limit := some limit })
  | .error v => q.refuse false v

def clearLimit (q : Sequencer) : Sequencer := { q with limit := none }

def setResolution (q : Sequencer) (r : Resolution) : Sequencer := { q with resolution := r }

/-! ## Execution -/

def executor (q : Sequencer) : Executor := ⟨q.operations, q.values, q.resolution⟩

/-- The length of what is to be executed. -/
def lengthOf (q : Sequencer) (s : Option Sequence) : Nat :=
  (s.getD q.model.sequence).length

/-- The run of a sequence, or of the model. -/
def runOf (q : Sequencer) : Option Sequence → Run
  | some s => q.executor.runSequence s
  | none => q.executor.runRecords q.model.records

def executed (stats : Stats) : Log.Event :=
  ⟨.debug, .exec, "sequence executed",
    [("invoked", toString stats.invoked), ("skipped", toString stats.skipped)]⟩

/-- Runs a sequence, or the model, that passed the check of its length. -/
def launch (q : Sequencer) (s : Option Sequence) : Execution × Sequencer :=
  match checkNonempty (q.lengthOf s) with
  | .error v =>
    if q.policy.isStrict then q.refuse ⟨.blocked, .empty⟩ v
    else (⟨.finished ⟨0, 0⟩, .empty⟩, q)
  | .ok () =>
    let run := q.runOf s
    match run.failure? with
    | some text => (⟨.failed text, run.made⟩, q)
    | none => (⟨.finished run.stats, run⟩, q.note (executed run.stats))

/-- Executes a sequence, or the model. -/
def execute (q : Sequencer) (s : Option Sequence) : Execution × Sequencer :=
  match checkLength (q.lengthOf s) q.limit with
  | .ok () => q.launch s
  | .error v =>
    match q.report v with
    | (true, q) => q.launch s
    | (false, q) => (⟨.blocked, .empty⟩, q)

/-! ## Construction -/

def policyOf (c : Config) : Policy :=
  ⟨if c.strictMode then .strict else .lenient, c.ignoreWarnings⟩

/-- The sequencer of a configuration. The policy comes first, so that it covers every report; the
sequence comes last, so that it is decoded against the registries. -/
def ofConfig (c : Config) : Sequencer :=
  let q : Sequencer := { policy := policyOf c, resolution := c.resolution }
  let q := c.issues.foldl (fun q v => (q.report v).2) q
  let q := match c.maxLength with
    | some n => (q.setLimit n).2
    | none => q
  let q := (q.registerOperations c.operations).2
  let q := (q.registerValues c.values).2
  let q := (q.registerLabels c.labels).2
  match c.sequence with
  | some s => (q.setSequence s).2
  | none => q

/-! ## Views -/

/-- The listing of the records. -/
def listing (q : Sequencer) (p : Palette) : String := Listing.render q.model.records q.labels p

instance : Inspect Sequencer where
  inspect q := Inspect.record "Sequencer"
    [("operations", q.operations.inspect),
      ("values", q.values.inspect),
      ("labels", q.labels.inspect),
      ("sequence", q.model.sequence.inspect),
      ("max_sequence_length", inspect (q.limit.map Limit.val)),
      ("policy", inspect q.policy),
      ("resolution", inspect q.resolution)]

end Sequencer

end Opscript
