/-
A place in a YAML text.

A cursor knows what is left of the text and in which line and column it stands.  A line
ends at a line feed, a carriage return, both together, or one of three other line
separators; most of them read as a line feed, while the two separators that are
characters of a text of their own read as themselves.
-/

namespace DeviceLint.Yaml

def isBlank (c : Char) : Bool := c == ' ' || c == '\t'

def isBreak (c : Char) : Bool :=
  c == '\n' || c == '\r' || c == '\u0085' || c == '\u2028' || c == '\u2029'

/-- The characters of names: of anchors, of tag handles, of directives. -/
def isNameChar (c : Char) : Bool := c.isAlphanum || c == '_' || c == '-'

/-- Whether a text may have this character at all. -/
def isAllowed (c : Char) : Bool :=
  c == '\t' || c == '\n' || c == '\r' || (' ' ≤ c && c ≤ '~') || c == '\u0085' ||
    ('\u00a0' ≤ c && c ≤ '\ufffd') || '\uffff' < c

/-- Whether a blank, a line break or the end comes next. -/
def endsWord : List Char → Bool
  | [] => true
  | c :: _ => isBlank c || isBreak c

structure Cursor where
  rest : List Char
  /-- How many characters have been passed. -/
  index : Nat := 0
  line : Nat := 0
  column : Nat := 0

namespace Cursor

def peek? (c : Cursor) : Option Char := c.rest.head?

/-- Passes characters of one line. -/
def skip (c : Cursor) (n : Nat := 1) : Cursor :=
  { c with rest := c.rest.drop n, index := c.index + n, column := c.column + n }

/-- Passes a line break, if one comes next. -/
def skipBreak (c : Cursor) : Cursor :=
  match c.rest with
  | '\r' :: '\n' :: s => ⟨s, c.index + 2, c.line + 1, 0⟩
  | x :: s => if isBreak x then ⟨s, c.index + 1, c.line + 1, 0⟩ else c
  | [] => c

/-- What the line break that comes next reads as; nothing if none does. -/
def breakText (c : Cursor) : List Char :=
  match c.rest with
  | [] => []
  | x :: _ =>
    if x == '\u2028' || x == '\u2029' then [x] else if isBreak x then ['\n'] else []

/-- Passes the characters that satisfy `p`, all in one line. -/
def skipWhile (c : Cursor) (p : Char → Bool) : Cursor := c.skip (c.rest.takeWhile p).length

def skipBlanks (c : Cursor) : Cursor := c.skipWhile isBlank

/-- Passes a comment, if one comes next. -/
def skipComment (c : Cursor) : Cursor :=
  if c.peek? == some '#' then c.skipWhile fun x => !isBreak x else c

/-- Passes what may follow on a line that is otherwise complete, its end included. -/
def skipLineEnd? (c : Cursor) : Option Cursor :=
  let c := c.skipBlanks.skipComment
  if c.rest.isEmpty then some c
  else if c.peek?.any isBreak then some c.skipBreak
  else none

/-- Whether a line that begins here marks the start or the end of a document. -/
def isAt (c : Cursor) (mark : String) : Bool :=
  c.column == 0 && mark.toList.isPrefixOf c.rest && endsWord (c.rest.drop mark.length)

def isDocumentMark (c : Cursor) : Bool := c.isAt "---" || c.isAt "..."

end Cursor

end DeviceLint.Yaml
