/-
Dialects that nest between words, such as `config` … `end` and `edit` … `next`.

A section is tagged with the block that opened it, by its place in the schema's list.  A
line that is nothing but a closing word belongs to the first block that the word closes:
it ends the innermost open section of that block and all sections inside it, whose own
closers are missing.  If no section of that block is open it is passed over.
-/
import DeviceLint.Layout.Line
import DeviceLint.Layout.Outline

namespace DeviceLint.Keyword

/-- The first word of a line. -/
def keyword (l : LogicalLine) : List Char := (Text.words l.statement).headD []

/-- The block that a line closes: the line has no other word. -/
def closed? (schema : Schema) (l : LogicalLine) : Option Nat :=
  if (Text.words l.statement).length ≤ 1 then
    schema.keywordBlocks.findIdx? fun b => Text.eqIgnoreAsciiCase (keyword l) b.closer.toList
  else none

/-- The block that a line opens. -/
def opened? (schema : Schema) (l : LogicalLine) : Option Nat :=
  schema.keywordBlocks.findIdx? fun b => Text.eqIgnoreAsciiCase (keyword l) b.opener.toList

/-- Takes one line into the outline. -/
def step (schema : Schema) (o : Outline Nat) (l : LogicalLine) : Outline Nat :=
  match closed? schema l with
  | some block =>
    match o.opened.findIdx? (·.tag == block) with
    | some depth => Outline.closeManyAt l.last (depth + 1) o
    | none => o
  | none =>
    match opened? schema l with
    | some block => o.push (l.node .group) block
    | none => o.add (l.node .leaf)

def build (schema : Schema) (lines : List LogicalLine) : Tree :=
  (lines.foldl (step schema) Outline.empty).finish

end DeviceLint.Keyword
