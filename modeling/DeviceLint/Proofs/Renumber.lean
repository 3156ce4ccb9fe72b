/-
What is read does not hang on where it stands.

A reader carries line numbers along and never decides anything by them: all it does with
two of them is to take the larger.  So let the lines be numbered otherwise, in any way
that keeps their order.  The tree is then the same but for its line numbers, which are
the new ones.

Renumbering changes all nodes alike, and all lines with them, so the readers of all dialects
commute with it.  The order is needed only where a span is made to reach further.
-/
import DeviceLint.Proofs.Uniform
import Mathlib.Order.MinMax

namespace DeviceLint

/-! ### Renumbering -/

def Span.renumber (f : Nat → Nat) (s : Span) : Span := ⟨f s.first, f s.last⟩

namespace Node

mutual

/-- A node whose lines, and those of all nodes below it, have other numbers. -/
def renumber (f : Nat → Nat) : Node → Node
  | ⟨id, raw, params, kind, children, span⟩ =>
    ⟨id, raw, params, kind, renumberAll f children, span.renumber f⟩

def renumberAll (f : Nat → Nat) : List Node → List Node
  | [] => []
  | n :: ns => renumber f n :: renumberAll f ns

end

variable {f : Nat → Nat}

theorem renumberAll_eq (f : Nat → Nat) (ns : List Node) :
    renumberAll f ns = ns.map (renumber f) := by
  induction ns with
  | nil => rw [renumberAll, List.map_nil]
  | cons n ns ih => rw [renumberAll, ih, List.map_cons]

theorem renumber_eq (f : Nat → Nat) (n : Node) : n.renumber f
    = { n with children := n.children.map (renumber f), span := n.span.renumber f } := by
  cases n
  rw [renumber, renumberAll_eq]

end Node

/-! ### Lines -/

namespace LogicalLine

variable {f : Nat → Nat}

def renumber (f : Nat → Nat) (l : LogicalLine) : LogicalLine :=
  { l with first := f l.first, last := f l.last }

end LogicalLine

end DeviceLint
