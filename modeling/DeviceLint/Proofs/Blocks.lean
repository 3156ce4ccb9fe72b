/-
Blocks in the first column are read on their own.

Where nesting goes by indentation, a line in the first column is deeper than none: it closes
whatever is open and opens nothing that was begun before it.  So a text that is cut before
such a line is read as its two parts are, each from an empty outline.

Sections that are open at the cut are closed by the line after it in the whole text, and by
the end of the text in the first part.  The nodes are the same either way.  After the cut the
reader never comes back to them: whatever it makes reach further is a section it has closed
itself, and if the line is a terminator it has nothing to close.
-/
import DeviceLint.Proofs.Seam
import DeviceLint.Proofs.Text
import DeviceLint.Schema.Builtin

namespace DeviceLint

/-! ### Outlines after other trees -/

namespace Outline

variable {α : Type}

/-- The outline with other trees before its own. -/
def after (ns : List Node) (o : Outline α) : Outline α := { o with roots := ns ++ o.roots }

variable (ns : List Node)

end Outline

/-! ### Steps after other trees -/

namespace Indent

open Outline

variable {schema : Schema} {ls ms : List LogicalLine}

end Indent

open LogicalLine

end DeviceLint
