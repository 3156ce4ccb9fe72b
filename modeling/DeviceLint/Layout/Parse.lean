/-
Reading a configuration under a schema.

Reading never fails: whatever does not fit the dialect's nesting is recovered from in the
way the dialect's module describes.
-/
import DeviceLint.Layout.Brace
import DeviceLint.Layout.Indent
import DeviceLint.Layout.Keyword

namespace DeviceLint

/-- Dialects without nesting: every statement is a leaf. -/
def flatTree (lines : List LogicalLine) : Tree := lines.map (·.node .leaf)

/-- The tree of logical lines. -/
def treeOf (schema : Schema) (lines : List LogicalLine) : Tree :=
  match schema.blockStyle with
  | .indent => Indent.build schema lines
  | .brace => Brace.build lines
  | .keyword => Keyword.build schema lines
  | .flat => flatTree lines

/-- The tree of a configuration. -/
def parse (schema : Schema) (text : String) : Tree :=
  treeOf schema (LogicalLine.ofText schema text)

end DeviceLint
