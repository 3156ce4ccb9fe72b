/-
Logical lines: the statements of a text, still with their indentation.

A logical line starts at a physical line that is neither blank nor a comment once block
comments have been taken out of it.  It goes on over the following physical lines in two
cases: while it ends in the dialect's continuation mark, and, for a command such as
`banner motd ^C`, down to the next line that contains the delimiter the command names.
Only the line it starts at is searched for comments; what it goes on over is its own.

`gather` drops what a logical line used from the physical lines, so every physical line
is either part of exactly one logical line or was skipped on its own.
-/
import DeviceLint.Schema.Basic
import DeviceLint.Text.Lines

namespace DeviceLint

/-- A statement with the physical lines it was read from, which are counted from one. -/
structure LogicalLine where
  text : List Char
  raw : List Char
  first : Nat
  last : Nat
  /-- Columns of blanks before the statement. -/
  indent : Nat
  deriving DecidableEq, Repr

namespace LogicalLine

def span (l : LogicalLine) : Span := Span.between l.first l.last

def statement (l : LogicalLine) : List Char := Text.trim l.text

/-- The node of the whole statement. -/
def node (l : LogicalLine) (kind : NodeKind) : Node :=
  Node.ofStatement kind l.statement (String.ofList l.raw) l.span

/-! ### Block comments -/

/-- What is left of a text that starts outside comments, and whether it ends inside one.  A pair
of empty delimiters would never get past its own comment; it ends the text there. -/
def outsideComments (opener closer : List Char) (s : List Char) : List Char × Bool :=
  match Text.splitAt? opener s with
  | none => (s, false)
  | some (before, rest) =>
    match Text.splitAt? closer rest with
    | none => (before, true)
    | some (_, after) =>
      if after.length < s.length then
        let (kept, inside) := outsideComments opener closer after
        (before ++ kept, inside)
      else (before, false)
termination_by s.length

/-- Takes the comments out of a line that starts inside one or outside, and tells where it ends. -/
def stripComments (d : Delimiters) (inside : Bool) (s : List Char) : List Char × Bool :=
  if inside then
    match Text.splitAt? d.closer.toList s with
    | none => ([], true)
    | some (_, after) => outsideComments d.opener.toList d.closer.toList after
  else outsideComments d.opener.toList d.closer.toList s

/-! ### Statements over several lines -/

/-- Joins a line to the ones after it while it ends in the continuation mark, and counts those. -/
def joinContinued (mark : List Char) (content : List Char) : List (List Char) → List Char × Nat
  | [] =>
    match Text.dropEnd? mark (Text.trimEnd content) with
    | none => (content, 0)
    | some stripped => (Text.trimEnd stripped, 0)
  | next :: rest =>
    match Text.dropEnd? mark (Text.trimEnd content) with
    | none => (content, 0)
    | some stripped =>
      let (joined, n) := joinContinued mark (Text.trimEnd stripped ++ ' ' :: Text.trim next) rest
      (joined, n + 1)

/-- A statement continued as the schema has it. -/
def continued (schema : Schema) (content : List Char) (rest : List (List Char)) :
    List Char × Nat :=
  match schema.continuation with
  | none => (content, 0)
  | some mark => if mark.isEmpty then (content, 0) else joinContinued mark.toList content rest

/-- A text cut before its word number `n`, if it has that many. -/
def cutAtWord? : Nat → List Char → Option (List Char × List Char)
  | n, s =>
    let blanks := s.takeWhile Text.isBlank
    let tail := s.dropWhile Text.isBlank
    if tail.isEmpty then none
    else match n with
      | 0 => some (blanks, tail)
      | n + 1 =>
        let isInner := fun c => !Text.isBlank c
        (cutAtWord? n (tail.dropWhile isInner)).map fun (before, after) =>
          (blanks ++ tail.takeWhile isInner ++ before, after)

/-- The delimiter that a word begins with: two characters if the first is a caret, else one. -/
def delimiterOf (word : List Char) : List Char :=
  match word with
  | '^' :: _ => word.take 2
  | _ => word.take 1

/-- The delimiter of a delimited command, and the text before it and after it.  The delimiter
begins the word after the command and the one word that follows the command. -/
def delimiter? (schema : Schema) (statement : List Char) :
    Option (List Char × List Char × List Char) := do
  let command ← schema.delimitedCommands.find?
    fun c => Selector.matchesId c (String.ofList statement)
  let (before, after) ← cutAtWord? ((Text.words command.toList).length + 1) statement
  let delimiter := delimiterOf (after.takeWhile fun c => !Text.isBlank c)
  return (before, delimiter, after.drop delimiter.length)

/-- How many lines there are up to and including the first that contains the delimiter. -/
def bodyLength (delimiter : List Char) : List (List Char) → Nat
  | [] => 0
  | l :: ls => if Text.contains l delimiter then 1 else bodyLength delimiter ls + 1

/-- How many lines belong to the body of a delimited command. -/
def delimited (schema : Schema) (content : List Char) (rest : List (List Char)) : Nat :=
  match delimiter? schema (Text.trim content) with
  | none => 0
  | some (_, delimiter, after) =>
    if Text.contains after delimiter then 0 else bodyLength delimiter rest

/-! ### Indentation -/

/-- The column after one more blank. -/
def nextColumn (tab : Nat) (column : Nat) (c : Char) : Nat :=
  if c == '\t' then column + tab - column % tab else column + 1

/-- The width of the spaces and tabs a line begins with. -/
def indentWidth (tabWidth : Nat) (s : List Char) : Nat :=
  (s.takeWhile fun c => c == ' ' || c == '\t').foldl (nextColumn (max tabWidth 1)) 0

/-! ### All lines of a text -/

/-- What is left of a physical line, given whether it starts inside a block comment. -/
def uncommented (schema : Schema) (inside : Bool) (line : List Char) : List Char × Bool :=
  match schema.blockComment with
  | none => (line, inside)
  | some d => stripComments d inside line

/-- Whether a line, freed of block comments, starts no statement. -/
def isSkipped (schema : Schema) (content : List Char) : Bool :=
  let trimmed := Text.trim content
  trimmed.isEmpty || schema.isComment trimmed

/-- The logical line that starts with the remains `content` of line number `n`. -/
def start (schema : Schema) (n : Nat) (line content : List Char) (rest : List (List Char)) :
    LogicalLine :=
  let (joined, k) := continued schema content rest
  let more := k + delimited schema joined (rest.drop k)
  { text := joined
    raw := Text.unlines (line :: rest.take more)
    first := n
    last := n + min more rest.length
    indent := indentWidth schema.tabWidth joined }

/-- The logical lines of the physical lines from number `n` on. -/
def gather (schema : Schema) (inside : Bool) (n : Nat) (physical : List (List Char)) :
    List LogicalLine :=
  match physical with
  | [] => []
  | line :: rest =>
    let (content, inside) := uncommented schema inside line
    if isSkipped schema content then gather schema inside (n + 1) rest
    else
      let l := start schema n line content rest
      l :: gather schema inside (l.last + 1) (rest.drop (l.last - n))
termination_by physical.length
decreasing_by all_goals simp only [List.length_drop, List.length_cons]; omega

/-- The logical lines of a text. -/
def ofText (schema : Schema) (text : String) : List LogicalLine :=
  gather schema false 1 (Text.lines text.toList)

end LogicalLine

end DeviceLint
