/-
Dialects that nest by indentation.

A statement is a section if the next one is indented deeper, and it lies in every open
section that is indented less.  A terminator is not a node.  Where its own indentation
has closed a section already, that section now reaches to it, unless it stands in the
first column and so ends the document; otherwise it closes the innermost section.
-/
import DeviceLint.Layout.Line
import DeviceLint.Layout.Outline

namespace DeviceLint.Indent

/-- How many open sections, tagged by their indentation, a line at `depth` lies outside of. -/
def shallower (depth : Nat) (o : Outline Nat) : Nat :=
  (o.opened.takeWhile fun g => depth ≤ g.tag).length

/-- Whether a line opens a section, seen from the lines after it. -/
def opens (l : LogicalLine) : List LogicalLine → Bool
  | [] => false
  | next :: _ => l.indent < next.indent

/-- Takes one line into the outline. -/
def step (schema : Schema) (o : Outline Nat) (l : LogicalLine) (opening : Bool) : Outline Nat :=
  let closing := shallower l.indent o
  let o := Outline.closeMany closing o
  if schema.isTerminator l.statement then
    if closing == 0 then o.closeAt l.last
    else if l.indent == 0 then o
    else o.extendLast l.last
  else if opening then o.push (l.node .group) l.indent
  else o.add (l.node .leaf)

/-- Takes lines into the outline one after the other. -/
def steps (schema : Schema) (o : Outline Nat) : List LogicalLine → Outline Nat
  | [] => o
  | l :: ls => steps schema (step schema o l (opens l ls)) ls

def build (schema : Schema) (lines : List LogicalLine) : Tree :=
  (steps schema Outline.empty lines).finish

end DeviceLint.Indent
