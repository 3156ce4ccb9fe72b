/-
Outlines: a tree while it is being read.

The sections that are open lie on a stack, the innermost on top, each with the children
it has so far and with a tag by which the dialect knows it again.  Closing a section
makes it a child of the one below, or a root.  A closed section reaches at least to the
last line of its children, so a span never ends inside its section's text.
-/
import DeviceLint.Tree

namespace DeviceLint

/-- An open section. -/
structure OpenGroup (α : Type) where
  node : Node
  tag : α

structure Outline (α : Type) where
  roots : List Node
  /-- The open sections, innermost first. -/
  opened : List (OpenGroup α)

namespace Node

/-- A node with one more child at the end. -/
def append (n child : Node) : Node := { n with children := n.children ++ [child] }

/-- A node that reaches to line `last` at least. -/
def reaching (n : Node) (last : Nat) : Node := { n with span := n.span.reaching last }

/-- A node that reaches as far as its children do. -/
def enclosing (n : Node) : Node :=
  n.children.foldl (fun m c => m.reaching c.span.last) n

end Node

namespace Outline

variable {α : Type}

def empty : Outline α := ⟨[], []⟩

/-- Adds a finished node to the innermost section. -/
def add (o : Outline α) (n : Node) : Outline α :=
  match o.opened with
  | [] => { o with roots := o.roots ++ [n] }
  | g :: gs => { o with opened := { g with node := g.node.append n } :: gs }

/-- Opens a section inside the innermost one. -/
def push (o : Outline α) (n : Node) (tag : α) : Outline α :=
  { o with opened := ⟨n, tag⟩ :: o.opened }

/-- Closes the innermost section, if there is one. -/
def close (o : Outline α) : Outline α :=
  match o.opened with
  | [] => o
  | g :: gs => add { o with opened := gs } g.node.enclosing

/-- Closes the innermost section at a line, to which it then reaches. -/
def closeAt (o : Outline α) (last : Nat) : Outline α :=
  match o.opened with
  | [] => o
  | g :: gs => close { o with opened := { g with node := g.node.reaching last } :: gs }

/-- Closes a number of sections one after the other. -/
def closeMany : Nat → Outline α → Outline α
  | 0, o => o
  | k + 1, o => closeMany k o.close

/-- Closes a number of sections one after the other, all at one line. -/
def closeManyAt (last : Nat) : Nat → Outline α → Outline α
  | 0, o => o
  | k + 1, o => closeManyAt last k (o.closeAt last)

/-- The nodes of the innermost section. -/
def scope (o : Outline α) : List Node :=
  match o.opened with
  | [] => o.roots
  | g :: _ => g.node.children

/-- The outline with other nodes in its innermost section. -/
def withScope (o : Outline α) (ns : List Node) : Outline α :=
  match o.opened with
  | [] => { o with roots := ns }
  | g :: gs => { o with opened := { g with node := { g.node with children := ns } } :: gs }

/-- Makes the last node of the innermost section reach to a line. -/
def extendLast (o : Outline α) (last : Nat) : Outline α :=
  match o.scope.getLast? with
  | none => o
  | some n => o.withScope (o.scope.dropLast ++ [n.reaching last])

/-- Takes the last node of the innermost section out of it, if that is a leaf. -/
def takeLastLeaf? (o : Outline α) : Option (Node × Outline α) :=
  match o.scope.getLast? with
  | none => none
  | some n => if n.kind == .leaf then some (n, o.withScope o.scope.dropLast) else none

/-- The tree, all that is still open closed. -/
def finish (o : Outline α) : Tree := (closeMany o.opened.length o).roots

end Outline

end DeviceLint
