/-
The scalars of YAML.

Plain and quoted scalars go on over line ends.  What stands between two of their words is
a gap: without a line end its blanks are kept, with one line end it is a single space,
and each further line end is kept while the first is dropped.

Block scalars keep their lines as they are, less their indentation, which is that of
their first line that is not blank unless it is given.  In a folded one, the line end
between two lines that do not begin with a blank is a space.
-/
import DeviceLint.Yaml.Cursor

namespace DeviceLint.Yaml

/-! ### Gaps -/

/-- The blanks and line ends between two words. -/
structure Gap where
  /-- Blanks before any line end, in reverse. -/
  blanks : List Char := []
  /-- The first line end, unless it was escaped. -/
  first : List Char := []
  /-- The other line ends. -/
  others : List Char := []
  /-- Whether there is a line end. -/
  broken : Bool := false

namespace Gap

/-- What a gap reads as. -/
def text (g : Gap) : List Char :=
  if !g.broken then g.blanks.reverse
  else if g.first == ['\n'] then (if g.others.isEmpty then [' '] else g.others)
  else g.first ++ g.others

/-- A gap with one more line end. -/
def addBreak (g : Gap) (text : List Char) : Gap :=
  if g.broken then { g with others := g.others ++ text }
  else { first := text, broken := true }

end Gap

/-- Reads the rest of a gap.  In lines after the first no tab may stand before column `indent`. -/
def readGap (indent : Nat) : Nat → Gap → Cursor → Option (Gap × Cursor)
  | 0, _, _ => none
  | fuel + 1, g, c =>
    match c.peek? with
    | none => some (g, c)
    | some x =>
      if isBreak x then readGap indent fuel (g.addBreak c.breakText) c.skipBreak
      else if !isBlank x then some (g, c)
      else if !g.broken then readGap indent fuel { g with blanks := x :: g.blanks } c.skip
      else if x == '\t' && c.column < indent then none
      else readGap indent fuel g c.skip

/-- A gap from a place on. -/
def gapAt (indent : Nat) (g : Gap) (c : Cursor) : Option (Gap × Cursor) :=
  readGap indent (c.rest.length + 1) g c

/-! ### Plain scalars -/

def flowIndicators : List Char := [',', '[', ']', '\x7b', '\x7d']

/-- The next word of a plain scalar, which may be empty; none if a colon stands where a flow
collection has no place for it. -/
def plainWord? (flow : Bool) : List Char → Option (List Char)
  | [] => some []
  | c :: s =>
    if isBlank c || isBreak c then some []
    else if flow && c == ':' && s.head?.any (fun d => d == '?' || flowIndicators.contains d) then
      none
    else if c == ':' && endsWord s then some []
    else if flow && flowIndicators.contains c then some []
    else (plainWord? flow s).map (c :: ·)

/-- The words of a plain scalar after the text read so far, which is in reverse, and a gap.
Tells besides whether the scalar is followed by a line end. -/
def readPlainFrom (flow : Bool) (indent : Nat) :
    Nat → List Char → Gap → Cursor → Option (List Char × Bool × Cursor)
  | 0, _, _, _ => none
  | fuel + 1, text, g, c =>
    if c.isDocumentMark || c.peek? == some '#' then some (text.reverse, g.broken, c)
    else do
      let word ← plainWord? flow c.rest
      if word.isEmpty then some (text.reverse, g.broken, c)
      else
        let text := word.reverse ++ (g.text.reverse ++ text)
        let c := c.skip word.length
        if !c.rest.isEmpty && endsWord c.rest then
          let (g, c) ← gapAt indent {} c
          if !flow && c.column < indent then some (text.reverse, g.broken, c)
          else readPlainFrom flow indent fuel text g c
        else some (text.reverse, false, c)

/-- A plain scalar; outside flow collections its further lines begin at column `indent` or after
it. -/
def readPlain (flow : Bool) (indent : Nat) (c : Cursor) :
    Option (List Char × Bool × Cursor) :=
  readPlainFrom flow indent (c.rest.length + 1) [] {} c

/-! ### Quoted scalars -/

def hexDigitValue? (c : Char) : Option Nat :=
  if c.isDigit then some (c.toNat - '0'.toNat)
  else if 'a' ≤ c && c ≤ 'f' then some (c.toNat - 'a'.toNat + 10)
  else if 'A' ≤ c && c ≤ 'F' then some (c.toNat - 'A'.toNat + 10)
  else none

/-- The value of exactly `n` hexadecimal digits. -/
def hexValue? (n : Nat) (s : List Char) : Option Nat :=
  if s.length < n then none
  else (s.take n).foldlM (fun v c => (hexDigitValue? c).map (v * 16 + ·)) 0

/-- The character of a code point. -/
def charOf? (n : Nat) : Option Char :=
  if n < 0xD800 || (0xDFFF < n && n < 0x110000) then some (Char.ofNat n) else none

/-- How many digits give the code point after this letter. -/
def codeLength? : Char → Option Nat
  | 'x' => some 2
  | 'u' => some 4
  | 'U' => some 8
  | _ => none

/-- The character that a letter stands for after a backslash. -/
def escaped? : Char → Option Char
  | '0' => some '\x00'
  | 'a' => some '\x07'
  | 'b' => some '\x08'
  | 't' => some '\t'
  | '\t' => some '\t'
  | 'n' => some '\n'
  | 'v' => some '\x0b'
  | 'f' => some '\x0c'
  | 'r' => some '\r'
  | 'e' => some '\x1b'
  | ' ' => some ' '
  | '"' => some '"'
  | '/' => some '/'
  | '\\' => some '\\'
  | 'N' => some '\u0085'
  | '_' => some '\u00a0'
  | 'L' => some '\u2028'
  | 'P' => some '\u2029'
  | _ => none

/-- The character of an escape, from its backslash on, and how long the escape is. -/
def readEscape : List Char → Option (Char × Nat)
  | '\\' :: x :: s =>
    match codeLength? x with
    | some n => do return (← charOf? (← hexValue? n s), n + 2)
    | none => (escaped? x).map (·, 2)
  | _ => none

/-- What ends a word between quotes. -/
inductive WordEnd where
  | quote
  | gap
  /-- A line end after a backslash. -/
  | escapedBreak

/-- The next word of a quoted scalar, added in reverse to the text read so far. -/
def readQuotedWord (single : Bool) :
    Nat → List Char → Cursor → Option (List Char × WordEnd × Cursor)
  | 0, _, _ => none
  | fuel + 1, text, c =>
    match c.rest with
    | [] => none
    | x :: s =>
      if isBlank x || isBreak x then some (text, .gap, c)
      else if single then
        if x != '\'' then readQuotedWord single fuel (x :: text) c.skip
        else if s.head? == some '\'' then readQuotedWord single fuel (x :: text) (c.skip 2)
        else some (text, .quote, c.skip)
      else if x == '"' then some (text, .quote, c.skip)
      else if x != '\\' then readQuotedWord single fuel (x :: text) c.skip
      else if s.head?.any isBreak then some (text, .escapedBreak, c.skip.skipBreak)
      else do
        let (y, n) ← readEscape c.rest
        readQuotedWord single fuel (y :: text) (c.skip n)

/-- The rest of a quoted scalar after the text read so far, which is in reverse. -/
def readQuotedFrom (single : Bool) : Nat → List Char → Cursor → Option (List Char × Cursor)
  | 0, _, _ => none
  | fuel + 1, text, c =>
    if c.isDocumentMark then none
    else do
      let (text, stop, c) ← readQuotedWord single (c.rest.length + 1) text c
      match stop with
      | .quote => return (text.reverse, c)
      | .gap =>
        let (g, c) ← gapAt 0 {} c
        readQuotedFrom single fuel (g.text.reverse ++ text) c
      | .escapedBreak =>
        let (g, c) ← gapAt 0 { broken := true } c
        readQuotedFrom single fuel (g.text.reverse ++ text) c

/-- A quoted scalar, from its opening quote on. -/
def readQuoted (single : Bool) (c : Cursor) : Option (List Char × Cursor) :=
  readQuotedFrom single (c.rest.length + 1) [] c.skip

/-! ### Block scalars -/

/-- Which of the line ends at the end of a block scalar are kept. -/
inductive Chomping where
  | none
  | one
  | all
  deriving DecidableEq

/-- What a block scalar says about itself on its first line. -/
structure BlockHeader where
  chomping : Chomping := .one
  /-- How much deeper it is indented than what it stands in, if it says so. -/
  increment : Option Nat := none

/-- One character of the header of a block scalar. -/
def BlockHeader.add? (h : BlockHeader) (x : Char) : Option BlockHeader :=
  if x == '+' then some { h with chomping := .all }
  else if x == '-' then some { h with chomping := .none }
  else if x.isDigit && x != '0' then some { h with increment := some (x.toNat - '0'.toNat) }
  else none

/-- The header of a block scalar: a sign and a digit at most, in either order. -/
def readBlockHeader (s : List Char) : Option (BlockHeader × Nat) :=
  let isSign := fun x => x == '+' || x == '-'
  match s with
  | x :: y :: _ =>
    if (isSign x && y.isDigit) || (x.isDigit && isSign y) then do
      let h ← ({} : BlockHeader).add? x
      return (← h.add? y, 2)
    else if isSign x || x.isDigit then (({} : BlockHeader).add? x).map (·, 1)
    else some ({}, 0)
  | [x] => if isSign x || x.isDigit then (({} : BlockHeader).add? x).map (·, 1) else some ({}, 0)
  | [] => some ({}, 0)

/-- Passes blank lines and the indentation of the line after them.  Gives the line ends, the
largest column reached, and none if a tab stands in the indentation. -/
def readBlockBreaks (indent : Option Nat) :
    Nat → List Char → Nat → Cursor → Option (List Char × Nat × Cursor)
  | 0, _, _, _ => none
  | fuel + 1, breaks, widest, c =>
    let spaces := (c.rest.takeWhile (· == ' ')).length
    let c := c.skip (match indent with
      | some n => min spaces (n - c.column)
      | none => spaces)
    let widest := max widest c.column
    if indent.all (c.column < ·) && c.peek? == some '\t' then none
    else if c.peek?.any isBreak then
      readBlockBreaks indent fuel (breaks ++ c.breakText) widest c.skipBreak
    else some (breaks, widest, c)

/-- Reads the lines of a block scalar that is indented to column `indent`.  `text` is what has
been read, in reverse; `pending` is the end of its last line, `breaks` are the line ends of
the blank lines since, and `blank` tells whether that line began with a blank. -/
def readBlockLines (folded : Bool) (indent : Nat) :
    Nat → List Char → List Char → List Char → Bool → Cursor →
      Option (List Char × List Char × List Char × Cursor)
  | 0, _, _, _, _, _ => none
  | fuel + 1, text, pending, breaks, blank, c =>
    if c.column != indent || c.rest.isEmpty then some (text, pending, breaks, c)
    else do
      let startsBlank := c.peek?.any isBlank
      let joint :=
        if folded && pending == ['\n'] && !blank && !startsBlank then
          (if breaks.isEmpty then [' '] else breaks)
        else pending ++ breaks
      let line := c.rest.takeWhile fun x => !isBreak x
      let c := c.skip line.length
      let (breaks, _, next) ←
        readBlockBreaks (some indent) (c.rest.length + 1) [] 0 c.skipBreak
      readBlockLines folded indent fuel (line.reverse ++ (joint.reverse ++ text)) c.breakText
        breaks startsBlank next

/-- A block scalar, from its indicator on, inside a block at column `parent`, if in any. -/
def readBlock (folded : Bool) (parent : Option Nat) (c : Cursor) :
    Option (List Char × Cursor) := do
  let c := c.skip
  let (header, n) ← readBlockHeader c.rest
  let c ← (c.skip n).skipLineEnd?
  let given := header.increment.map (· + parent.getD 0)
  let (breaks, widest, c) ← readBlockBreaks given (c.rest.length + 1) [] 0 c
  let least := (parent.map (· + 1)).getD 0
  let indent := given.getD (max (max widest least) 1)
  let (text, pending, breaks, c) ←
    readBlockLines folded indent (c.rest.length + 1) [] [] breaks false c
  let tail := match header.chomping with
    | .none => []
    | .one => pending
    | .all => pending ++ breaks
  return (text.reverse ++ tail, c)

end DeviceLint.Yaml
