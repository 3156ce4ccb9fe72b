/-
Patterns for the names of files.

An asterisk stands for any text and a question mark for any byte, slashes included.  Two
asterisks between slashes, or at an end of the pattern next to one, stand for any number
of directories.  Alternatives stand in braces and may be nested; an empty one counts for
nothing.

Names are matched byte by byte.  A question mark matches one byte of a character that
has several, and so do sets, whose characters are taken apart into their bytes.
-/
import DeviceLint.Matching
import DeviceLint.Regex.Basic

namespace DeviceLint

namespace Glob

inductive Token where
  | literal (c : Char)
  /-- One byte. -/
  | any
  /-- Any text. -/
  | many
  /-- Any directories at the start. -/
  | deepStart
  /-- Anything below. -/
  | deepEnd
  /-- Any directories in between. -/
  | deepMiddle
  | set (negated : Bool) (ranges : List (Char × Char))
  | alternatives (branches : List (List Token))
  deriving Repr

/-! ### Reading -/

/-- A brace that is open. -/
structure OpenBrace where
  /-- The tokens before it, the last one first. -/
  before : List Token
  /-- The alternatives that are complete, the last one first. -/
  branches : List (List Token)

structure Draft where
  /-- The tokens of the alternative being read, the last one first. -/
  tokens : List Token := []
  /-- The open braces, innermost first. -/
  braces : List OpenBrace := []

namespace Draft

def add (d : Draft) (t : Token) : Draft := { d with tokens := t :: d.tokens }

def inBraces (d : Draft) : Bool := !d.braces.isEmpty

def openBrace (d : Draft) : Draft :=
  { tokens := [], braces := ⟨d.tokens, []⟩ :: d.braces }

/-- A comma, which outside braces is itself. -/
def comma (d : Draft) : Draft :=
  match d.braces with
  | [] => d.add (.literal ',')
  | b :: braces =>
    { tokens := [], braces := { b with branches := d.tokens.reverse :: b.branches } :: braces }

def closeBrace? (d : Draft) : Option Draft :=
  match d.braces with
  | [] => none
  | b :: braces =>
    let branches := (d.tokens.reverse :: b.branches).reverse
    some { tokens := .alternatives branches :: b.before, braces := braces }

/-- Two asterisks after a slash: directories, together with what they come after. -/
def deepen (d : Draft) (t : Token) : Draft :=
  match d.tokens with
  | .deepStart :: _ => d
  | .deepEnd :: _ => d
  | _ :: tokens => { d with tokens := t :: tokens }
  | [] => d.add t

end Draft

/-- A set that is being read. -/
structure SetDraft where
  /-- The ranges, the last one first. -/
  ranges : List (Char × Char) := []
  /-- Whether a hyphen waits for the end of its range. -/
  inRange : Bool := false

/-- Takes one character into a set; none if it ends a range before its beginning. -/
def SetDraft.add? (d : SetDraft) (c : Char) : Option SetDraft :=
  match d.inRange, d.ranges with
  | true, (a, _) :: ranges => if c < a then none else some ⟨(a, c) :: ranges, false⟩
  | _, ranges => some ⟨(c, c) :: ranges, false⟩

/-- The rest of a set, and what follows it. -/
def readSet (first : Bool) (d : SetDraft) :
    List Char → Option (List (Char × Char) × List Char)
  | [] => none
  | c :: s =>
    if c == ']' && !first then
      some ((if d.inRange then ('-', '-') :: d.ranges else d.ranges).reverse, s)
    else if c == '-' && !first && !d.inRange then readSet false { d with inRange := true } s
    else do readSet false (← d.add? c) s

/-- Whether two asterisks may stand for directories here: after a slash, or at the start of an
alternative. -/
def mayDeepen (d : Draft) (previous : Option Char) : Bool :=
  previous == some '/' || (d.inBraces && (previous == some ',' || previous == some '\x7b'))

/-- What two asterisks stand for before `s`, and whether a slash after them belongs to them. -/
def readDeep (d : Draft) (previous : Option Char) (s : List Char) : Draft × Bool :=
  let flat := ((d.add .many).add .many, false)
  if d.tokens.isEmpty then
    if s.isEmpty || s.head? == some '/' then (d.add .deepStart, true) else flat
  else if !mayDeepen d previous then flat
  else if s.isEmpty || (d.inBraces && (s.head? == some ',' || s.head? == some '\x7d')) then
    (d.deepen .deepEnd, false)
  else if s.head? == some '/' then (d.deepen .deepMiddle, true)
  else flat

/-- Reads the tokens of a pattern, of which `previous` is the character before. -/
def readFrom : Nat → Draft → Option Char → List Char → Option (List Token)
  | 0, _, _, _ => none
  | fuel + 1, d, previous, s =>
    match s with
    | [] => if d.inBraces then none else some d.tokens.reverse
    | '?' :: s => readFrom fuel (d.add .any) (some '?') s
    | '*' :: '*' :: s =>
      let (d, slash) := readDeep d previous s
      if slash && s.head? == some '/' then readFrom fuel d (some '/') (s.drop 1)
      else readFrom fuel d (some '*') s
    | '*' :: s => readFrom fuel (d.add .many) (some '*') s
    | '[' :: s => do
      let negated := s.head? == some '!' || s.head? == some '^'
      let (ranges, s) ← readSet true {} (if negated then s.drop 1 else s)
      readFrom fuel (d.add (.set negated ranges)) (some ']') s
    | '\x7b' :: s => readFrom fuel d.openBrace (some '\x7b') s
    | '\x7d' :: s => do readFrom fuel (← d.closeBrace?) (some '\x7d') s
    | ',' :: s => readFrom fuel d.comma (some ',') s
    | '\\' :: c :: s => readFrom fuel (d.add (.literal c)) (some c) s
    | ['\\'] => none
    | c :: s => readFrom fuel (d.add (.literal c)) (some c) s

/-! ### Matching -/

/-- The bytes of a text, each as the character of its number. -/
def bytesOf (s : String) : List Char := s.toUTF8.toList.map fun b => Char.ofNat b.toNat

def bytesOfChar (c : Char) : List Char := bytesOf (String.singleton c)

/-- The bytes that a range of characters stands for.  Of characters with several bytes, only the
last byte of the first and the first byte of the last are ends of a range. -/
def byteSet (r : Char × Char) : CharSet :=
  let singles := fun bs : List Char => bs.map CharSet.single
  if r.1 == r.2 then .unionAll (singles (bytesOfChar r.1))
  else
    match (bytesOfChar r.1).reverse, bytesOfChar r.2 with
    | a :: before, b :: after =>
      .unionAll (.range a b :: singles before ++ singles after)
    | _, _ => .nothing

def anyByte : Regex := .one .anything

def anyText : Regex := .times anyByte 0 none

def slash : Regex := .one (.single '/')

def optional (r : Regex) : Regex := .times r 0 (some 1)

/-- A text followed by an expression. -/
def thenRegex (bytes : List Char) (r : Regex) : Regex :=
  bytes.foldr (fun b r => .seq (.one (.single b)) r) r

mutual

/-- The expression of one token, before that of the tokens after it. -/
def tokenRegex (next : Regex) : Token → Regex
  | .literal c => thenRegex (bytesOfChar c) next
  | .any => .seq anyByte next
  | .many => .seq anyText next
  | .deepStart => .seq (.alt (optional slash) (.seq anyText slash)) next
  | .deepEnd => .seq (.seq slash anyText) next
  | .deepMiddle => .seq (.alt slash (.seq slash (.seq anyText slash))) next
  | .set negated ranges =>
    let bytes := CharSet.unionAll (ranges.map byteSet)
    .seq (.one (if negated then .complement bytes else bytes)) next
  | .alternatives branches =>
    match branchRegex branches with
    | none => next
    | some r => .seq r next

/-- The expression of tokens in a row. -/
def sequenceRegex : List Token → Regex
  | [] => .empty
  | t :: ts => tokenRegex (sequenceRegex ts) t

/-- The expression of alternatives, of which the empty ones do not count. -/
def branchRegex : List (List Token) → Option Regex
  | [] => none
  | branch :: branches =>
    let r := sequenceRegex branch
    if r == .empty then branchRegex branches
    else match branchRegex branches with
      | none => some r
      | some rest => some (.alt r rest)

end

/-- The expression of a whole pattern.  Two asterisks alone stand for anything. -/
def wholeRegex (tokens : List Token) : Regex :=
  let body := match tokens with
    | [.deepStart] => anyText
    | tokens => sequenceRegex tokens
  .seq (.place .textStart) (.seq body (.place .textEnd))

/-- The expression that a pattern stands for; none if it is not a pattern. -/
def ofPattern? (pattern : String) : Option Regex :=
  (readFrom (pattern.length + 1) {} none pattern.toList).map wholeRegex

end Glob

/-- The engine of the library. -/
def GlobEngine.standard : GlobEngine where
  compile? := fun pattern =>
    (Glob.ofPattern? pattern).map fun r name => r.search [] none (Glob.bytesOf name)

end DeviceLint
