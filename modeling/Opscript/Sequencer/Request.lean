import Opscript.Sequencer.Basic

/-!
# Requests

The operations of a sequencer as data, so that a whole run is a list of them. `perform` is the
effect of one request, `performAll` that of a list, with the answers in order.
-/

namespace Opscript

inductive Request where
  | registerOperation (symbol : Symbol) (callback : Callback)
  | registerOperations (entries : List (Symbol × Callback))
  | setOperations (entries : List (Symbol × Callback))
  | registerValue (symbol : Symbol) (value : Value)
  | registerValues (entries : List (Symbol × Value))
  | setValues (entries : List (Symbol × Value))
  | registerLabel (label : String) (symbol : Symbol)
  | registerLabels (entries : List (String × Symbol))
  | setLabels (entries : List (String × Symbol))
  | append (operation : Symbol) (arguments : List Symbol)
  | prepend (operation : Symbol) (arguments : List Symbol)
  | insert (index : Nat) (operation : Symbol) (arguments : List Symbol)
  | remove (id : RecordId)
  | index (id : RecordId)
  | setSequence (sequence : Sequence)
  | setLimit (n : Nat)
  | clearLimit
  | setResolution (resolution : Resolution)
  | execute (sequence : Option Sequence)
  | takeDiagnostics

inductive Answer where
  | done
  | accepted (yes : Bool)
  | created (id : Option RecordId)
  | position (index : Option Nat)
  | execution (e : Execution)
  | diagnostics (ds : List Diagnostic)

namespace Sequencer

def perform (q : Sequencer) : Request → Answer × Sequencer
  | .registerOperation s f => (q.registerOperation s f).map .accepted id
  | .registerOperations es => (q.registerOperations es).map .accepted id
  | .setOperations es => (q.setOperations es).map .accepted id
  | .registerValue s v => (q.registerValue s v).map .accepted id
  | .registerValues es => (q.registerValues es).map .accepted id
  | .setValues es => (q.setValues es).map .accepted id
  | .registerLabel l s => (q.registerLabel l s).map .accepted id
  | .registerLabels es => (q.registerLabels es).map .accepted id
  | .setLabels es => (q.setLabels es).map .accepted id
  | .append s ss => (q.append s ss).map .created id
  | .prepend s ss => (q.prepend s ss).map .created id
  | .insert i s ss => (q.insert i s ss).map .created id
  | .remove i => (q.remove i).map .accepted id
  | .index i => (q.index i).map .position id
  | .setSequence s => (q.setSequence s).map .accepted id
  | .setLimit n => (q.setLimit n).map .accepted id
  | .clearLimit => (.done, q.clearLimit)
  | .setResolution r => (.done, q.setResolution r)
  | .execute s => (q.execute s).map .execution id
  | .takeDiagnostics => q.takeDiagnostics.map .diagnostics id

def performAll (q : Sequencer) : List Request → List Answer × Sequencer
  | [] => ([], q)
  | r :: rest =>
    let (answer, q) := q.perform r
    let (answers, q) := q.performAll rest
    (answer :: answers, q)

end Sequencer

/-- The calls that an answer tells of. -/
def Answer.calls : Answer → List Call
  | .execution e => e.run.calls
  | _ => []

end Opscript
