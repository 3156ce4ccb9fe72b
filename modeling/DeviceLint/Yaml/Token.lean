/-
The tokens of a YAML text.

Blocks have no brackets in the text; they are found by their columns.  A block opens with
the first entry that stands deeper than all open blocks, and closes before the first
token that stands less deep.

That a node is a key is only known at the colon after it, so the token that announces a
key is put in behind the scenes: wherever a node may turn out to be a key, the number of
tokens before it is kept.  A key must be followed by its colon in the same line and
within 1024 characters.  A node that begins in the column of an open block can be nothing
but a key, and then it is an error if no colon follows.
-/
import DeviceLint.Yaml.Scalar

namespace DeviceLint.Yaml

inductive Token where
  | versionDirective (major minor : Nat)
  | tagDirective (handle start : String)
  | documentStart
  | documentEnd
  | blockSequenceStart
  | blockMappingStart
  | blockEnd
  | flowSequenceStart
  | flowSequenceEnd
  | flowMappingStart
  | flowMappingEnd
  /-- The hyphen of a block sequence. -/
  | blockEntry
  /-- The comma of a flow collection. -/
  | flowEntry
  | key
  | value
  | alias (name : String)
  | anchor (name : String)
  /-- A tag in two parts; without a handle the second part is all of it. -/
  | tag (handle suffix : String)
  | scalar (plain : Bool) (text : String)
  deriving DecidableEq, Repr

/-- A node that may turn out to be a key. -/
structure Candidate where
  /-- Whether it can be nothing else. -/
  required : Bool
  /-- How many tokens stand before it. -/
  position : Nat
  /-- Where it begins. -/
  start : Cursor

namespace Candidate

/-- Whether a colon at `c` is too late to make it a key. -/
def isStale (k : Candidate) (c : Cursor) : Bool :=
  k.start.line < c.line || k.start.index + 1024 < c.index

end Candidate

structure Scan where
  cursor : Cursor
  /-- The tokens so far, the last one first. -/
  tokens : List Token := []
  /-- Columns of the open blocks, innermost first. -/
  blocks : List Nat := []
  /-- Whether a key may begin here. -/
  keyAllowed : Bool := true
  candidate : Option Candidate := none
  /-- The candidates outside each open flow collection, innermost first. -/
  outer : List (Option Candidate) := []

namespace Scan

def inFlow (s : Scan) : Bool := !s.outer.isEmpty

def push (s : Scan) (t : Token) : Scan := { s with tokens := t :: s.tokens }

/-- Puts tokens, the last one first, behind the first `position` tokens. -/
def insertAt (s : Scan) (position : Nat) (ts : List Token) : Scan :=
  let later := s.tokens.length - position
  { s with tokens := s.tokens.take later ++ ts ++ s.tokens.drop later }

/-- Closes the blocks that are deeper than a column. -/
def closeBlocks (s : Scan) (isDeeper : Nat → Bool) : Scan :=
  if s.inFlow then s
  else
    let closed := (s.blocks.takeWhile isDeeper).length
    { s with
      tokens := List.replicate closed .blockEnd ++ s.tokens
      blocks := s.blocks.drop closed }

/-- Opens a block behind the first `position` tokens, unless there is one at its column. -/
def openBlock (s : Scan) (column position : Nat) (t : Token) : Scan :=
  if s.inFlow || !s.blocks.head?.all (· < column) then s
  else { s.insertAt position [t] with blocks := column :: s.blocks }

/-- Gives the candidate up; one that had to be a key is an error. -/
def dropCandidate? (s : Scan) : Option Scan :=
  if s.candidate.any (·.required) then none else some { s with candidate := none }

/-- Makes what comes next a candidate, if a key may begin here. -/
def addCandidate? (s : Scan) : Option Scan :=
  if !s.keyAllowed then some s
  else do
    let required := !s.inFlow && s.blocks.head? == some s.cursor.column
    return { ← s.dropCandidate? with candidate := some ⟨required, s.tokens.length, s.cursor⟩ }

/-- Gives up all candidates that it is too late for. -/
def dropStale? (s : Scan) : Option Scan :=
  let isStale := fun k : Candidate => k.isStale s.cursor
  let all := s.candidate :: s.outer
  if all.any fun k => k.any fun k => k.required && isStale k then none
  else
    let keep := fun k : Option Candidate => k.filter (!isStale ·)
    some { s with candidate := keep s.candidate, outer := s.outer.map keep }

/-- Passes characters of the cursor's line. -/
def skip (s : Scan) (n : Nat := 1) : Scan := { s with cursor := s.cursor.skip n }

/-! ### Between tokens -/

/-- Passes blanks, comments and line ends.  Where a key may begin, a tab is no blank. -/
def skipToToken : Nat → Scan → Scan
  | 0, s => s
  | fuel + 1, s =>
    let c := s.cursor
    let c := if c.index == 0 && c.peek? == some '\ufeff' then c.skip else c
    let c := c.skipWhile fun x => x == ' ' || (x == '\t' && (s.inFlow || !s.keyAllowed))
    let c := c.skipComment
    if c.peek?.any isBreak then
      skipToToken fuel { s with cursor := c.skipBreak, keyAllowed := s.keyAllowed || !s.inFlow }
    else { s with cursor := c }

/-! ### Indicators -/

/-- A token of `n` characters that begins a line and lies outside all blocks. -/
def documentMark? (s : Scan) (t : Token) : Option Scan := do
  let s ← (s.closeBlocks fun _ => true).dropCandidate?
  return ({ s with keyAllowed := false }.skip 3).push t

def flowStart? (s : Scan) (t : Token) : Option Scan := do
  let s ← s.addCandidate?
  return ({ s with candidate := none, outer := s.candidate :: s.outer, keyAllowed := true }.push
    t).skip

def flowEnd? (s : Scan) (t : Token) : Option Scan := do
  let s ← s.dropCandidate?
  let s := match s.outer with
    | [] => s
    | k :: outer => { s with candidate := k, outer := outer }
  return ({ s with keyAllowed := false }.push t).skip

def flowEntry? (s : Scan) : Option Scan := do
  let s ← s.dropCandidate?
  return ({ s with keyAllowed := true }.push .flowEntry).skip

def blockEntry? (s : Scan) : Option Scan := do
  if !s.inFlow && !s.keyAllowed then none
  else
    let s ← (s.openBlock s.cursor.column s.tokens.length .blockSequenceStart).dropCandidate?
    return ({ s with keyAllowed := true }.push .blockEntry).skip

/-- A question mark before a key of any kind. -/
def explicitKey? (s : Scan) : Option Scan := do
  if !s.inFlow && !s.keyAllowed then none
  else
    let s ← (s.openBlock s.cursor.column s.tokens.length .blockMappingStart).dropCandidate?
    return ({ s with keyAllowed := !s.inFlow }.push .key).skip

/-- A colon.  After a candidate, it makes a key of it. -/
def value? (s : Scan) : Option Scan :=
  match s.candidate with
  | some k =>
    let s := (s.insertAt k.position [.key]).openBlock k.start.column k.position
      .blockMappingStart
    some ({ s with candidate := none, keyAllowed := false }.push .value).skip
  | none =>
    if !s.inFlow && !s.keyAllowed then none
    else
      let s := s.openBlock s.cursor.column s.tokens.length .blockMappingStart
      some ({ s with keyAllowed := !s.inFlow }.push .value).skip

/-! ### Directives -/

/-- A number of at most nine digits and what follows it. -/
def readVersionNumber (c : Cursor) : Option (Nat × Cursor) :=
  let digits := c.rest.takeWhile Char.isDigit
  if digits.isEmpty || 9 < digits.length then none
  else some (digits.foldl (fun n d => n * 10 + (d.toNat - '0'.toNat)) 0, c.skip digits.length)

def readVersion (c : Cursor) : Option (Token × Cursor) := do
  let (major, c) ← readVersionNumber c.skipBlanks
  if c.peek? != some '.' then none
  else
    let (minor, c) ← readVersionNumber c.skip
    return (.versionDirective major minor, c)

/-- A handle of tags: between exclamation marks, of which the second may be missing. -/
def readHandle (c : Cursor) : Option (List Char × Cursor) :=
  match c.rest with
  | '!' :: s =>
    let name := s.takeWhile isNameChar
    let handle := '!' :: name
    match s.drop name.length with
    | '!' :: _ => some (handle ++ ['!'], c.skip (handle.length + 1))
    | _ => some (handle, c.skip handle.length)
  | _ => none

/-- A byte of a tag in hexadecimal digits after a percent sign. -/
def escapedByte? : List Char → Option (Nat × List Char)
  | '%' :: a :: b :: s => do
    return ((← hexDigitValue? a) * 16 + (← hexDigitValue? b), s)
  | _ => none

/-- The character that escaped bytes encode, and what follows them. -/
def escapedChar? (s : List Char) : Option (Char × List Char) := do
  let (first, s) ← escapedByte? s
  if first < 0x80 then return (Char.ofNat first, s)
  else
    let length := if first < 0xC0 then 0 else if first < 0xE0 then 1 else if first < 0xF0 then 2
      else if first < 0xF8 then 3 else 0
    if length == 0 then none
    else
      let (n, s) ← (List.range length).foldlM (fun (n, s) _ => do
        let (b, s) ← escapedByte? s
        if 0x80 ≤ b && b < 0xC0 then some (n * 64 + (b - 0x80), s) else none)
        (first % Nat.pow 2 (6 - length), s)
      return (← charOf? n, s)

def isTagChar (verbatim : Bool) (c : Char) : Bool :=
  isNameChar c ||
    [';', '/', '?', ':', '@', '&', '=', '+', '$', '.', '%', '!', '~', '*', '\'', '(', ')'].contains
      c ||
    (verbatim && [',', '[', ']'].contains c)

/-- The characters of a tag, escapes resolved. -/
def readTagText (verbatim : Bool) : Nat → List Char → Option (List Char × List Char)
  | 0, _ => none
  | fuel + 1, s =>
    match s with
    | [] => some ([], [])
    | c :: rest =>
      if !isTagChar verbatim c then some ([], s)
      else do
        let (x, rest) ← if c == '%' then escapedChar? s else some (c, rest)
        let (text, rest) ← readTagText verbatim fuel rest
        return (x :: text, rest)

/-- A part of a tag and what follows it. -/
def tagText (verbatim : Bool) (c : Cursor) : Option (List Char × Cursor) := do
  let (text, rest) ← readTagText verbatim (c.rest.length + 1) c.rest
  return (text, c.skip (c.rest.length - rest.length))

def readTagDirective (c : Cursor) : Option (Token × Cursor) := do
  let (handle, c) ← readHandle c.skipBlanks
  if handle != ['!'] && handle.getLast? != some '!' then none
  else if !c.peek?.any isBlank then none
  else
    let (start, c) ← tagText true c.skipBlanks
    if start.isEmpty || !endsWord c.rest then none
    else return (.tagDirective (String.ofList handle) (String.ofList start), c)

def directive? (s : Scan) : Option Scan := do
  let s ← (s.closeBlocks fun _ => true).dropCandidate?
  let c := s.cursor.skip
  let name := c.rest.takeWhile isNameChar
  let c := c.skip name.length
  if !endsWord c.rest then none
  else
    let (t, c) ← match String.ofList name with
      | "YAML" => readVersion c
      | "TAG" => readTagDirective c
      | _ => none
    return { s with cursor := ← c.skipLineEnd?, keyAllowed := false }.push t

/-! ### Nodes -/

/-- The name of an anchor, from its indicator on. -/
def readName (c : Cursor) : Option (String × Cursor) :=
  let c := c.skip
  let name := c.rest.takeWhile isNameChar
  let c := c.skip name.length
  let ends := endsWord c.rest ||
    c.peek?.any fun x => ['?', ':', ',', ']', '\x7d', '%', '@', Char.ofNat 0x60].contains x
  if name.isEmpty || !ends then none else some (String.ofList name, c)

/-- A tag between angle brackets, which is all there is to it. -/
def readVerbatimTag (c : Cursor) : Option (Token × Cursor) := do
  let (text, c) ← tagText true (c.skip 2)
  if text.isEmpty || c.peek? != some '>' then none
  else return (.tag "" (String.ofList text), c.skip)

/-- A tag with a handle, or a local one, which has the handle of a single mark. -/
def readShorthandTag (c : Cursor) : Option (Token × Cursor) := do
  let (handle, c) ← readHandle c
  let (text, c) ← tagText false c
  if 1 < handle.length && handle.getLast? == some '!' then
    if text.isEmpty then none
    else return (.tag (String.ofList handle) (String.ofList text), c)
  else
    let suffix := handle.drop 1 ++ text
    if suffix.isEmpty then return (.tag "" "!", c)
    else return (.tag "!" (String.ofList suffix), c)

def readTag (flow : Bool) (c : Cursor) : Option (Token × Cursor) := do
  let (t, c) ← if (c.rest.drop 1).head? == some '<' then readVerbatimTag c
    else readShorthandTag c
  if endsWord c.rest || (flow && c.peek? == some ',') then some (t, c) else none

/-- A token that begins a node or is one. -/
def nodeToken? (s : Scan) (read : Cursor → Option (Token × Cursor)) : Option Scan := do
  let s ← s.addCandidate?
  let (t, c) ← read s.cursor
  return { s with cursor := c, keyAllowed := false }.push t

def plain? (s : Scan) : Option Scan := do
  let s ← s.addCandidate?
  let indent := (s.blocks.head?.map (· + 1)).getD 0
  let (text, broken, c) ← readPlain s.inFlow indent s.cursor
  return { s with cursor := c, keyAllowed := broken }.push (.scalar true (String.ofList text))

def quoted? (s : Scan) (single : Bool) : Option Scan :=
  s.nodeToken? fun c => do
    let (text, c) ← readQuoted single c
    return (.scalar false (String.ofList text), c)

def block? (s : Scan) (folded : Bool) : Option Scan := do
  let s ← s.dropCandidate?
  let (text, c) ← readBlock folded s.blocks.head? s.cursor
  return { s with cursor := c, keyAllowed := true }.push (.scalar false (String.ofList text))

/-! ### All tokens -/

/-- Characters that begin a plain scalar only under conditions. -/
def indicators : List Char := ['-', '?', ':', ',', '[', ']', '\x7b', '\x7d', '#', '&', '*', '!',
  '|', '>', '\'', '"', '%', '@', Char.ofNat 0x60]

/-- Whether a plain scalar can begin with `x`, which `rest` follows. -/
def startsPlain (flow : Bool) (x : Char) (rest : List Char) : Bool :=
  (!isBlank x && !isBreak x && !indicators.contains x) ||
    (x == '-' && !rest.head?.any isBlank) ||
    (!flow && (x == '?' || x == ':') && !endsWord rest)

/-- Reads the token that begins with `x`, which `rest` follows. -/
def token? (s : Scan) (x : Char) (rest : List Char) : Option Scan :=
  let flow := s.inFlow
  if s.cursor.column == 0 && x == '%' then s.directive?
  else if s.cursor.isAt "---" then s.documentMark? .documentStart
  else if s.cursor.isAt "..." then s.documentMark? .documentEnd
  else if x == '[' then s.flowStart? .flowSequenceStart
  else if x == '\x7b' then s.flowStart? .flowMappingStart
  else if x == ']' then s.flowEnd? .flowSequenceEnd
  else if x == '\x7d' then s.flowEnd? .flowMappingEnd
  else if x == ',' then s.flowEntry?
  else if x == '-' && endsWord rest then s.blockEntry?
  else if x == '?' && (flow || endsWord rest) then s.explicitKey?
  else if x == ':' && (flow || endsWord rest) then s.value?
  else if x == '*' then s.nodeToken? fun c => (readName c).map fun (n, c) => (.alias n, c)
  else if x == '&' then s.nodeToken? fun c => (readName c).map fun (n, c) => (.anchor n, c)
  else if x == '!' then s.nodeToken? (readTag flow)
  else if x == '|' && !flow then s.block? false
  else if x == '>' && !flow then s.block? true
  else if x == '\'' then s.quoted? true
  else if x == '"' then s.quoted? false
  else if startsPlain flow x rest then s.plain?
  else none

/-- The end of the text: all blocks close. -/
def finish? (s : Scan) : Option (List Token) := do
  let s ← (s.closeBlocks fun _ => true).dropCandidate?
  return s.tokens.reverse

/-- Reads one token after the other. -/
def run : Nat → Scan → Option (List Token)
  | 0, _ => none
  | fuel + 1, s => do
    let s ← (skipToToken (s.cursor.rest.length + 1) s).dropStale?
    let s := s.closeBlocks (s.cursor.column < ·)
    match s.cursor.rest with
    | [] => s.finish?
    | x :: rest => run fuel (← s.token? x rest)

end Scan

/-- The tokens of a text; none if it is not well formed. -/
def tokens? (text : List Char) : Option (List Token) :=
  Scan.run (text.length + 2) { cursor := { rest := text } }

end DeviceLint.Yaml
