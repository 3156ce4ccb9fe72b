/-
Reading regular expressions.

The notation is the usual one, without back-references and without looking around.  The
flags in force are part of the reader's state: `(?i)` changes them up to the end of its
group, alternatives included, and `(?i:…)` for its own group.

A pattern that is not understood is not a regular expression; nothing is guessed.  That
goes for repetitions of nothing, for escapes without a meaning, and for what would only
match part of a character, such as a negated set of single bytes.
-/
import DeviceLint.Matching
import DeviceLint.Regex.Extent
import DeviceLint.Text.Numeral

namespace DeviceLint.Regex

structure Flags where
  caseless : Bool := false
  multiLine : Bool := false
  dotMatchesLineFeed : Bool := false
  unicode : Bool := true
  mixedLineEnds : Bool := false
  /-- Blanks and comments in the pattern have no meaning. -/
  spaced : Bool := false

namespace Flags

/-- Turns the flag with this letter on or off. -/
def set? (f : Flags) (value : Bool) : Char → Option Flags
  | 'i' => some { f with caseless := value }
  | 'm' => some { f with multiLine := value }
  | 's' => some { f with dotMatchesLineFeed := value }
  | 'u' => some { f with unicode := value }
  | 'R' => some { f with mixedLineEnds := value }
  | 'x' => some { f with spaced := value }
  | 'U' => some f
  | _ => none

/-- A set as the flags have it. -/
def closed (f : Flags) (s : CharSet) : CharSet :=
  if !f.caseless then s else if f.unicode then .caseless s else .asciiCaseless s

def wordChars (f : Flags) : CharSet :=
  if f.unicode then .wordChars else CharSet.asciiWordChars

end Flags

/-- Where the reader is. -/
structure Cursor where
  rest : List Char
  flags : Flags
  /-- Names of the groups so far. -/
  names : List (List Char)

abbrev Reader (α : Type) := StateT Cursor Option α

namespace Reader

def refuse {α : Type} : Reader α := fun _ => none

def require (condition : Bool) : Reader Unit := if condition then pure () else refuse

def flags : Reader Flags := do return (← get).flags

def setFlags (f : Flags) : Reader Unit := modify fun c => { c with flags := f }

/-- The character that comes next, which stays. -/
def peek? : Reader (Option Char) := do return (← get).rest.head?

def peek : Reader Char := do
  match ← peek? with
  | some c => return c
  | none => refuse

def drop (n : Nat) : Reader Unit := modify fun c => { c with rest := c.rest.drop n }

/-- Drops blanks and comments; `inside` tells whether a comment has begun. -/
def skipComments : Bool → List Char → List Char
  | _, [] => []
  | true, c :: s => skipComments (c != '\n') s
  | false, c :: s =>
    if Text.isBlank c then skipComments false s
    else if c == '#' then skipComments true s
    else c :: s

/-- What comes next once everything without meaning has been passed over. -/
def meaningful (c : Cursor) : List Char :=
  if c.flags.spaced then skipComments false c.rest else c.rest

def skipSpace : Reader Unit := modify fun c => { c with rest := meaningful c }

/-- Passes one character and what has no meaning after it. -/
def advance : Reader Unit := do
  drop 1
  skipSpace

/-- Passes a given character. -/
def expect (c : Char) : Reader Unit := do
  require ((← peek) == c)
  drop 1

/-- Passes a text if it comes next, and tells whether it does. -/
def accept (s : List Char) : Reader Bool := do
  if s.isPrefixOf (← get).rest then
    drop s.length
    return true
  else return false

/-- The characters up to the first that is not in the class, passed one by one. -/
def takeWhile (p : Char → Bool) : Nat → Reader (List Char)
  | 0 => return []
  | fuel + 1 => do
    match ← peek? with
    | none => return []
    | some c =>
      if p c then
        advance
        return c :: (← takeWhile p fuel)
      else return []

/-- As many characters as there can be. -/
def takeAll (p : Char → Bool) : Reader (List Char) := do takeWhile p (← get).rest.length

end Reader

open Reader

/-- What a piece of the notation stands for on its own. -/
inductive Piece where
  | char (c : Char)
  | set (s : CharSet)
  | place (p : Place)

/-! ### Escapes -/

def isHexDigit (c : Char) : Bool :=
  c.isDigit || ('a' ≤ c && c ≤ 'f') || ('A' ≤ c && c ≤ 'F')

def hexValue (s : List Char) : Nat := Text.Run.hexValue (s.map Char.toLower)

/-- The character of a code point. -/
def readCodePoint (digits : List Char) : Reader Piece := do
  let n := hexValue digits
  require (n < 0xD800 || (0xDFFF < n && n < 0x110000))
  return .char (Char.ofNat n)

/-- Exactly `n` hexadecimal digits. -/
def readHexDigits : Nat → Reader (List Char)
  | 0 => return []
  | n + 1 => do
    let c ← peek
    require (isHexDigit c)
    advance
    return c :: (← readHexDigits n)

/-- A code point after `x`, `u` or `U`: in braces, or with the number of digits of its letter.
Two digits after an `x` are one byte, which without Unicode must be a character by itself. -/
def readHex (letter : Char) : Reader Piece := do
  advance
  if (← peek) == '\x7b' then
    advance
    let digits ← takeAll isHexDigit
    expect '\x7d'
    skipSpace
    require (!digits.isEmpty)
    readCodePoint digits
  else
    let digits ← readHexDigits (if letter == 'x' then 2 else if letter == 'u' then 4 else 8)
    require ((← flags).unicode || letter != 'x' || hexValue digits < 0x80)
    readCodePoint digits

/-- The set that a name in braces stands for. -/
def setOfName? (name : List Char) : Option CharSet :=
  match Text.splitAt? ['!', '='] name with
  | some (property, value) => (CharSet.ofProperty? property value).map .complement
  | none =>
    match Text.splitAt? [':'] name with
    | some (property, value) => CharSet.ofProperty? property value
    | none =>
      match Text.splitAt? ['='] name with
      | some (property, value) => CharSet.ofProperty? property value
      | none => CharSet.ofName? name

/-- A class of characters after `p`, or all others after `P`. -/
def readProperty (letter : Char) : Reader Piece := do
  advance
  let c ← peek
  let name ← if c == '\x7b' then do
      advance
      let name ← takeAll (· != '\x7d')
      expect '\x7d'
      pure name
    else do
      require (c != '\\')
      drop 1
      pure [c]
  let f ← flags
  require f.unicode
  match setOfName? name with
  | none => refuse
  | some s => return .set (if letter == 'P' then .complement (f.closed s) else f.closed s)

/-- The digits, blanks or word characters, or for a capital letter all others. -/
def readClass (letter : Char) : Reader Piece := do
  drop 1
  let f ← flags
  let kind := letter.toLower
  let set := if kind == 'd' then (if f.unicode then .digits else CharSet.asciiDigits)
    else if kind == 's' then (if f.unicode then .blanks else CharSet.asciiBlanks)
    else f.wordChars
  if letter == kind then return .set set
  else
    require f.unicode
    return .set (.complement set)

/-- The place that a word in braces after `\b` names.  What does not begin with a letter or a
hyphen is left to be a repetition. -/
def readBoundary : Reader Piece := do
  let word := (← flags).wordChars
  let isName := fun c : Char => c.isAlpha || c == '-'
  let start ← get
  if (← peek?) != some '\x7b' then return .place (.boundary word)
  else
    advance
    if !isName (← peek) then
      set start
      return .place (.boundary word)
    else
      let name ← takeAll isName
      expect '\x7d'
      match String.ofList name with
      | "start" => return .place (.wordStart word)
      | "end" => return .place (.wordEnd word)
      | "start-half" => return .place (.halfStart word)
      | "end-half" => return .place (.halfEnd word)
      | _ => refuse

/-- Whether a backslash before this character makes it stand for itself. -/
def isEscapable (c : Char) : Bool :=
  c.toNat < 0x80 && !c.isAlphanum && c != '<' && c != '>'

/-- The rest of an escape that consists of one letter or angle bracket. -/
def readLetterEscape (c : Char) : Reader Piece := do
  let word := (← flags).wordChars
  match c with
  | 'a' => return .char '\x07'
  | 'f' => return .char '\x0c'
  | 't' => return .char '\t'
  | 'n' => return .char '\n'
  | 'r' => return .char '\r'
  | 'v' => return .char '\x0b'
  | 'A' => return .place .textStart
  | 'z' => return .place .textEnd
  | 'b' => readBoundary
  | 'B' => return .place (.notBoundary word)
  | '<' => return .place (.wordStart word)
  | '>' => return .place (.wordEnd word)
  | _ => refuse

/-- An escape, from its backslash on. -/
def readEscape : Reader Piece := do
  drop 1
  let c ← peek
  if c == 'x' || c == 'u' || c == 'U' then readHex c
  else if c == 'p' || c == 'P' then readProperty c
  else if ['d', 's', 'w', 'D', 'S', 'W'].contains c then readClass c
  else
    drop 1
    if isEscapable c then return .char c else readLetterEscape c

/-! ### Sets in brackets -/

/-- An operator between sets. -/
inductive SetOperator where
  | intersection
  | difference
  | symmetricDifference

namespace SetOperator

def apply : SetOperator → CharSet → CharSet → CharSet
  | intersection => .intersection
  | difference => .difference
  | symmetricDifference => .symmetricDifference

/-- The operator that comes next. -/
def ofStart? : List Char → Option SetOperator
  | '&' :: '&' :: _ => some intersection
  | '-' :: '-' :: _ => some difference
  | '~' :: '~' :: _ => some symmetricDifference
  | _ => none

end SetOperator

/-- A set as it is read. -/
structure Item where
  set : CharSet
  /-- How deep the sets inside are nested. -/
  height : Nat := 0

namespace Item

/-- Several items, the last one first, as one. -/
def union : List Item → Item
  | [] => { set := .nothing }
  | [i] => i
  | items =>
    { set := .unionAll (items.map (·.set))
      height := (items.map (·.height)).foldl max 0 + 1 }

end Item

/-- A bracket that has been opened. -/
structure Bracket where
  negated : Bool
  /-- The operator that the items come after, and what is on its left. -/
  left : Option (SetOperator × Item) := none
  /-- The items so far, the last one first. -/
  items : List Item := []

namespace Bracket

def add (b : Bracket) (i : Item) : Bracket := { b with items := i :: b.items }

/-- The items together with what is on the left of them. -/
def operand (b : Bracket) (f : Flags) : Item :=
  let right := Item.union b.items
  match b.left with
  | none => right
  | some (op, left) =>
    { set := op.apply (f.closed left.set) (f.closed right.set)
      height := max left.height right.height + 1 }

def operate (b : Bracket) (f : Flags) (op : SetOperator) : Bracket :=
  { b with left := some (op, b.operand f), items := [] }

end Bracket

/-- A named set inside a bracket, as `[:alpha:]`; without one, nothing is read. -/
def readNamedSet? : Reader (Option CharSet) := do
  let start ← get
  let giveUp : Reader (Option CharSet) := do
    set start
    return none
  if !(← accept ['[', ':']) then giveUp
  else
    let negated ← accept ['^']
    let name := (← get).rest.takeWhile (· != ':')
    drop name.length
    if !(← accept [':', ']']) then giveUp
    else match CharSet.ofAsciiName? (String.ofList name) with
      | none => giveUp
      | some s =>
        let f ← flags
        if negated then
          require f.unicode
          return some (.complement (f.closed s))
        else return some s

/-- One character or class inside a bracket. -/
def readSetPiece : Reader Piece := do
  let c ← peek
  if c == '\\' then readEscape
  else
    drop 1
    return .char c

/-- A character that may be an end of a range. -/
def rangeEnd (p : Piece) : Reader Char := do
  match p with
  | .char c =>
    require ((← flags).unicode || c.toNat < 0x80)
    return c
  | _ => refuse

/-- The set of one piece. -/
def setOfPiece (p : Piece) : Reader CharSet := do
  match p with
  | .set s => return s
  | p => return .single (← rangeEnd p)

/-- One item inside a bracket: a character, a class, or a range.  A hyphen before the closing
bracket or before another hyphen makes no range. -/
def readRange : Reader CharSet := do
  let first ← readSetPiece
  skipSpace
  if (← peek) != '-' then setOfPiece first
  else
    let cursor ← get
    let after := (meaningful { cursor with rest := cursor.rest.drop 1 }).head?
    if after == some ']' || after == some '-' then setOfPiece first
    else
      advance
      let last ← readSetPiece
      let a ← rangeEnd first
      let b ← rangeEnd last
      require (a ≤ b)
      return .range a b

/-- The beginning of a bracket, down to its first item.  Hyphens that come first, or else a
closing bracket, stand for themselves. -/
def openBracket : Reader Bracket := do
  advance
  let negated := (← peek) == '^'
  if negated then advance
  let hyphens ← takeAll (· == '-')
  let b : Bracket := { negated := negated }
  let c ← peek
  if !hyphens.isEmpty then return { b with items := hyphens.map fun c => { set := .single c } }
  else if c == ']' then
    advance
    return b.add { set := .single c }
  else return b

/-- The rest of a bracket. -/
def readItems (b : Bracket) : Nat → Reader Item
  | 0 => refuse
  | fuel + 1 => do
    skipSpace
    let c ← peek
    let f ← flags
    match SetOperator.ofStart? (← get).rest with
    | some op =>
      drop 2
      readItems (b.operate f op) fuel
    | none =>
      if c == ']' then
        drop 1
        let whole := b.operand f
        let set := f.closed whole.set
        let height := whole.height + 1
        if b.negated then
          require f.unicode
          return { set := .complement set, height }
        else return { set, height }
      else if c == '[' then
        match ← readNamedSet? with
        | some set => readItems (b.add { set }) fuel
        | none =>
          let inner ← readItems (← openBracket) fuel
          readItems (b.add inner) fuel
      else readItems (b.add { set := ← readRange }) fuel

/-- A set in brackets. -/
def readSet : Reader Item := do
  let fuel := (← get).rest.length
  readItems (← openBracket) fuel

/-! ### Repetitions and groups -/

/-- A decimal number of at most 32 bits, with blanks around it. -/
def readDecimal : Reader Nat := do
  modify fun c => { c with rest := Text.trimStart c.rest }
  let digits ← takeAll Char.isDigit
  modify fun c => { c with rest := meaningful { c with rest := Text.trimStart c.rest } }
  match (Text.digits? digits).filter (· < Nat.pow 2 32) with
  | some n => return n
  | none => refuse

/-- How often, from the opening brace on. -/
def readBounds : Reader (Nat × Option Nat) := do
  advance
  let least ← readDecimal
  let bounds ← if (← peek) == ',' then do
      advance
      if (← peek) == '\x7d' then pure (least, none)
      else pure (least, some (← readDecimal))
    else pure (least, some least)
  require ((← peek) == '\x7d')
  advance
  let _ ← accept ['?']
  require (bounds.2.all (least ≤ ·))
  return bounds

def isNameChar (first : Bool) (c : Char) : Bool :=
  c == '_' || Text.Property.has "alphabetic" c ||
    (!first && (c == '.' || c == '[' || c == ']' ||
      Text.Category.numbers.contains (Text.Category.of c)))

/-- The name of a group and its closing angle bracket. -/
def readGroupName : Reader Unit := do
  let name := (← get).rest.takeWhile (· != '>')
  drop name.length
  expect '>'
  match name with
  | [] => refuse
  | c :: rest => require (isNameChar true c && rest.all (isNameChar false))
  require (!(← get).names.contains name)
  modify fun c => { c with names := name :: c.names }

/-- Turns flags on, or off once a hyphen has been met. -/
def applyLetters (f : Flags) (value : Bool) : List Char → Option Flags
  | [] => some f
  | '-' :: letters => applyLetters f false letters
  | c :: letters => do applyLetters (← f.set? value c) value letters

/-- The flags after a change written as letters.  No letter occurs twice, and there is one hyphen
at most, with a letter after it. -/
def applyFlags (f : Flags) (letters : List Char) : Option Flags :=
  if letters.eraseDups.length != letters.length || letters.getLast? == some '-' then none
  else applyLetters f true letters

/-- How a group begins. -/
inductive Opening where
  /-- It is nothing but a change of flags. -/
  | flags (f : Flags)
  | group (f : Flags)

/-- The beginning of a group, from its parenthesis on. -/
def readOpening : Reader Opening := do
  advance
  let f ← flags
  let rest := (← get).rest
  if ["?=", "?!", "?<=", "?<!"].any (·.toList.isPrefixOf rest) then refuse
  else if (← accept ['?', 'P', '<']) || (← accept ['?', '<']) then
    readGroupName
    return .group f
  else if ← accept ['?'] then
    let letters := (← get).rest.takeWhile fun c => c != ':' && c != ')'
    drop letters.length
    let closer ← peek
    drop 1
    match applyFlags f letters with
    | none => refuse
    | some changed =>
      if closer == ':' then return .group changed
      else
        require (!letters.isEmpty)
        return .flags changed
  else return .group f

/-! ### Expressions -/

/-- A part of a sequence. -/
structure Part where
  regex : Regex
  /-- A change of flags is nothing that could be repeated. -/
  repeatable : Bool := true
  /-- How deep the parts inside are nested. -/
  height : Nat := 0

/-- What is read of a group. -/
structure Draft where
  /-- Alternatives that are complete, the last one first. -/
  branches : List Part := []
  /-- The parts of the alternative being read, the last one first. -/
  parts : List Part := []

namespace Draft

/-- Several parts as one, joined by an operation. -/
def join (op : Regex → Regex → Regex) (last : Regex) : List Part → Part
  | [] => ⟨last, true, 0⟩
  | [p] => p
  | parts@(p :: rest) =>
    { regex := rest.foldl (fun r q => op q.regex r) p.regex
      height := (parts.map (·.height)).foldl max 0 + 1 }

def add (d : Draft) (p : Part) : Draft := { d with parts := p :: d.parts }

/-- Ends an alternative. -/
def branch (d : Draft) : Draft := { branches := join seq empty d.parts :: d.branches }

/-- The whole group. -/
def finish (d : Draft) : Part := join alt empty d.branch.branches

/-- Repeats the last part. -/
def repeatLast? (d : Draft) (least : Nat) (most : Option Nat) : Option Draft :=
  match d.parts with
  | [] => none
  | p :: rest =>
    if p.repeatable then
      some { d with
        parts := { regex := times p.regex least most, height := p.height + 1 } :: rest }
    else none

end Draft

/-- A repetition of the last part. -/
def repeated (d : Draft) (bounds : Nat × Option Nat) : Reader Draft :=
  match d.repeatLast? bounds.1 bounds.2 with
  | some d => return d
  | none => refuse

def dotSet (f : Flags) : CharSet :=
  if f.dotMatchesLineFeed then .anything
  else if f.mixedLineEnds then .complement (.union (.single '\r') (.single '\n'))
  else .complement (.single '\n')

def lineStart (f : Flags) : Place :=
  if !f.multiLine then .textStart else if f.mixedLineEnds then .mixedLineStart else .lineStart

def lineEnd (f : Flags) : Place :=
  if !f.multiLine then .textEnd else if f.mixedLineEnds then .mixedLineEnd else .lineEnd

def regexOfPiece (f : Flags) : Piece → Regex
  | .char c =>
    if f.unicode || c.toNat < 0x80 then one (f.closed (.single c)) else one (.single c)
  | .set s => one s
  | .place p => place p

/-- One part that is neither a group nor a repetition. -/
def readPart (c : Char) : Reader Part := do
  let f ← flags
  if c == '[' then
    let item ← readSet
    return { regex := one item.set, height := item.height }
  else if c == '\\' then return { regex := regexOfPiece f (← readEscape) }
  else
    drop 1
    if c == '.' then
      require f.unicode
      return { regex := one (dotSet f) }
    else if c == '^' then return { regex := place (lineStart f) }
    else if c == '$' then return { regex := place (lineEnd f) }
    else return { regex := regexOfPiece f (.char c) }

/-- The rest of a group, or of the whole pattern if `inner` is false. -/
def readBody (inner : Bool) (d : Draft) : Nat → Reader Part
  | 0 => refuse
  | fuel + 1 => do
    skipSpace
    match ← peek? with
    | none =>
      require !inner
      return d.finish
    | some ')' =>
      require inner
      drop 1
      return d.finish
    | some '|' =>
      drop 1
      readBody inner d.branch fuel
    | some '?' =>
      drop 1
      let _ ← accept ['?']
      readBody inner (← repeated d (0, some 1)) fuel
    | some '*' =>
      drop 1
      let _ ← accept ['?']
      readBody inner (← repeated d (0, none)) fuel
    | some '+' =>
      drop 1
      let _ ← accept ['?']
      readBody inner (← repeated d (1, none)) fuel
    | some '\x7b' => readBody inner (← repeated d (← readBounds)) fuel
    | some '(' =>
      let outer ← flags
      match ← readOpening with
      | .flags f =>
        setFlags f
        readBody inner (d.add { regex := empty, repeatable := false }) fuel
      | .group f =>
        setFlags f
        let body ← readBody true {} fuel
        setFlags outer
        readBody inner (d.add { regex := body.regex, height := body.height + 1 }) fuel
    | some c => readBody inner (d.add (← readPart c)) fuel

/-- The deepest nesting that is read. -/
def deepest : Nat := 250

/-- The regular expression that a pattern stands for, in which letter case counts or not. -/
def ofPattern? (ignoreCase : Bool) (pattern : String) : Option Regex := do
  let cs := pattern.toList
  let (whole, _) ← (readBody false {} (cs.length + 1)).run ⟨cs, { caseless := ignoreCase }, []⟩
  if whole.height ≤ deepest && whole.regex.extent ≤ maxExtent then some whole.regex else none

end DeviceLint.Regex

namespace DeviceLint

/-- The engine of the library. -/
def RegexEngine.standard : RegexEngine where
  compile := fun ignoreCase pattern =>
    match Regex.ofPattern? ignoreCase pattern with
    | some r => .ok r.isFoundIn
    | none => .error "not a regular expression"

end DeviceLint
