/-
Dialects that nest between braces.

A line is cut at the braces and semicolons that stand outside double quotes; quotes do
not reach over the end of the line.  What stands before an opening brace names the
section it opens, and what stands before a semicolon, a closing brace or the end of the
line is a leaf.  A `#` with nothing but blanks since the last cut begins a comment.

An opening brace with no text before it makes a section of the leaf before it.  Where
there is none either, the brace is not paired with anything, and as many closing braces
as there are such are passed over.
-/
import DeviceLint.Layout.Line
import DeviceLint.Layout.Outline

namespace DeviceLint.Brace

/-- What ends a piece of a line. -/
inductive Mark where
  /-- An opening brace. -/
  | opens
  /-- A closing brace. -/
  | closes
  /-- A semicolon or the end of the line. -/
  | ends
  deriving DecidableEq, Repr

structure Piece where
  text : List Char
  mark : Mark
  deriving DecidableEq, Repr

def isBlank (s : List Char) : Bool := (Text.trim s).isEmpty

/-- Cuts the rest of a line, where `read` is what has been read since the last cut, in reverse. -/
def cutFrom (quoted : Bool) (read : List Char) : List Char → List Piece
  | [] => [⟨read.reverse, .ends⟩]
  | c :: s =>
    if quoted then cutFrom (c != '"') (c :: read) s
    else if c == '"' then cutFrom true (c :: read) s
    else if c == '#' && isBlank read.reverse then [⟨read.reverse, .ends⟩]
    else if c == '\x7b' then ⟨read.reverse, .opens⟩ :: cutFrom false [] s
    else if c == ';' then ⟨read.reverse, .ends⟩ :: cutFrom false [] s
    else if c == '\x7d' then ⟨read.reverse, .closes⟩ :: cutFrom false [] s
    else cutFrom false (c :: read) s

/-- The pieces of a line. -/
def cut (s : List Char) : List Piece := cutFrom false [] s

/-- An outline together with the number of opening braces that opened nothing. -/
structure State where
  outline : Outline Unit
  unpaired : Nat

def Piece.node (p : Piece) (kind : NodeKind) (l : LogicalLine) : Node :=
  Node.ofStatement kind p.text (String.ofList l.raw) l.span

/-- Adds the leaf of a piece, unless the piece is blank. -/
def addLeaf (l : LogicalLine) (o : Outline Unit) (p : Piece) : Outline Unit :=
  if isBlank p.text then o else o.add (p.node .leaf l)

/-- Opens the section that a piece names, or the leaf before it does. -/
def openGroup (l : LogicalLine) (st : State) (p : Piece) : State :=
  if isBlank p.text then
    match st.outline.takeLastLeaf? with
    | some (n, o) => { st with outline := o.push { n with kind := .group } () }
    | none => { st with unpaired := st.unpaired + 1 }
  else { st with outline := st.outline.push (p.node .group l) () }

/-- Takes one piece of a line into the outline. -/
def step (l : LogicalLine) (st : State) (p : Piece) : State :=
  match p.mark with
  | .opens => openGroup l st p
  | .ends => { st with outline := addLeaf l st.outline p }
  | .closes =>
    let o := addLeaf l st.outline p
    if st.unpaired == 0 then { st with outline := o.closeAt l.last }
    else { outline := o, unpaired := st.unpaired - 1 }

/-- Takes a line into the outline. -/
def stepLine (st : State) (l : LogicalLine) : State := (cut l.text).foldl (step l) st

def build (lines : List LogicalLine) : Tree :=
  (lines.foldl stepLine ⟨Outline.empty, 0⟩).outline.finish

end DeviceLint.Brace
