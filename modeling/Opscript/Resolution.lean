import Opscript.Registry

/-!
# Argument resolution

How an argument code becomes an argument: under `presence` any registered value is passed on,
null included; under `truthiness` a falsy value counts as missing.
-/

namespace Opscript

inductive Resolution where
  | presence
  | truthiness
  deriving DecidableEq, Repr

namespace Resolution

instance : Inhabited Resolution := ⟨presence⟩

def resolve (r : Resolution) (values : Values) (c : Code) : Option Value :=
  match r with
  | presence => values.get? c
  | truthiness => (values.get? c).filter Value.isTruthy

/-- The resolution of this name. -/
def ofName? (name : String) : Option Resolution :=
  if name = "presence" then some presence
  else if name = "truthiness" then some truthiness
  else none

instance : Inspect Resolution where
  inspect
    | presence => "Presence"
    | truthiness => "Truthiness"

end Resolution

end Opscript
