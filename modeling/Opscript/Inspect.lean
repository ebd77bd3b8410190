import Opscript.Code
import Opscript.Ordered
import Opscript.Text.Spelled

/-!
# Inspection texts

One-line texts that show how a value is built: constructors by name with their arguments in
parentheses, records with their fields in braces, texts spelled out. The `Inspect` instances of a
type stand beside it.
-/

namespace Opscript

/-- Types whose values can be shown to someone who looks into the program. -/
class Inspect (α : Type) where
  inspect : α → String

export Inspect (inspect)

namespace Inspect

def commas (parts : List String) : String := String.intercalate ", " parts

/-- A constructor with arguments. -/
def call (name : String) (arguments : List String) : String :=
  name ++ "(" ++ commas arguments ++ ")"

def list (parts : List String) : String := "[" ++ commas parts ++ "]"

def set (parts : List String) : String := "\x7b" ++ commas parts ++ "\x7d"

def map (entries : List (String × String)) : String :=
  set (entries.map fun e => e.1 ++ ": " ++ e.2)

/-- A record with named fields. -/
def record (name : String) (fields : List (String × String)) : String :=
  name ++ " \x7b " ++ commas (fields.map fun f => f.1 ++ ": " ++ f.2) ++ " \x7d"

instance : Inspect Bool := ⟨fun b => if b then "true" else "false"⟩
instance : Inspect Nat := ⟨toString⟩
instance : Inspect String := ⟨Text.spell⟩
instance : Inspect Code := ⟨fun c => call "Code" [c.text]⟩

instance {α : Type} [Inspect α] : Inspect (Option α) where
  inspect
    | none => "None"
    | some x => call "Some" [inspect x]

instance {α : Type} [Inspect α] : Inspect (List α) where
  inspect xs := list (xs.map inspect)

instance {α β : Type} [Inspect α] [Inspect β] : Inspect (α × β) where
  inspect p := "(" ++ inspect p.1 ++ ", " ++ inspect p.2 ++ ")"

instance {κ ν : Type} [Inspect κ] [Inspect ν] : Inspect (Ordered κ ν) where
  inspect m := map (m.entries.map fun e => (inspect e.1, inspect e.2))

end Inspect

end Opscript
