/-
Rules over a tree that is there already.
-/
import DeviceLint.Engine
import DeviceLint.Schema.Registry

namespace DeviceLint

namespace SchemaRegistry

/-- The context of a tree in a dialect, which goes by its own name if it has a schema. -/
def context (r : SchemaRegistry) (vendor : String) (tree : Tree) : Context :=
  match r.get? vendor with
  | some s => .ofSchema s tree
  | none => .ofName vendor tree

end SchemaRegistry

/-- The findings of rules on a tree in a dialect, by a built-in schema if there is one. -/
def lint {ρ : Type} [Checker ρ] (tree : Tree) (rules : List ρ) (vendor : String) : List Finding :=
  Engine.run (SchemaRegistry.builtin.context vendor tree) rules

end DeviceLint
