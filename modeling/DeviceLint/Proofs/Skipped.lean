/-
Lines that say nothing only move what comes after them.

A blank line or a comment is skipped wherever a logical line may start.  So a text with one
such line more has the same logical lines, and those below the new line have moved down by
one.  Renumbering them this way keeps their order, and a tree hangs on nothing else.

There are three places where a line says something although it is blank or a comment: in
a block comment, within a statement that goes over several lines, and after a statement
that still waits for its end when the text is over.
-/
import DeviceLint.Proofs.Seam
import DeviceLint.Schema.Builtin

namespace DeviceLint

namespace LogicalLine

end LogicalLine

open LogicalLine

/-- A line that is blank or a comment, and opens no block comment. -/
structure Schema.SaysNothing (schema : Schema) (line : List Char) : Prop where
  blank_or_comment : Text.trim line = [] ∨ schema.isComment (Text.trim line) = true
  opens_none : ∀ d, schema.blockComment = some d → Text.contains line d.opener.toList = false

/-- A line that says nothing is skipped where no block comment is open. -/
theorem Schema.SaysNothing.gather {schema : Schema} {line : List Char}
    (h : schema.SaysNothing line) (n : Nat) (below : List (List Char)) :
    LogicalLine.gather schema false n (line :: below)
      = (LogicalLine.gather schema false n below).map (LogicalLine.renumber (· + 1)) := by
  have hline := uncommented_eq h.opens_none
  have hskip : isSkipped schema (uncommented schema false line).1 = true := by
    rw [hline, isSkipped]
    rcases h.blank_or_comment with hblank | hcomment
    · simp [hblank]
    · simp [hcomment]
  rw [gather_skip hskip, hline, gather_shift]

end DeviceLint
