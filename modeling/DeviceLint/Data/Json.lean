/-
JSON text: reading and writing.

Reading is strict.  A text is one value with nothing but white space around it, and a
string may hold no control characters.  A number that overflows, a string with half of a
surrogate pair, and what is nested more than 127 deep are written well, but unfit: they
may only stand where nobody reads them.  The reader keeps every member of an object in the
order it stands, repeated names included, so that whoever decodes it can tell.

A number with a fraction or an exponent is its digits, as far as they fit 64 bits,
times or over a power of ten.  Each of these steps rounds, so the last bit may differ
from the number nearest to the text.

Writing leaves out all white space and escapes only what must be.
-/
import DeviceLint.Data.Document

namespace DeviceLint.Json

/-! ### Numbers -/

/-- Digits taken into a significand while it fits 64 bits, and the digits that are left. -/
def absorb : Nat → List Char → Nat × List Char
  | m, [] => (m, [])
  | m, c :: s =>
    let next := m * 10 + (c.toNat - '0'.toNat)
    if next < Nat.pow 2 64 then absorb next s else (m, c :: s)

/-- `x * 10 ^ e`, unless that is too large.  Powers beyond `10 ^ 308` are divided out one at a
time, and nothing is left of a 64-bit significand after a few of them: `fuel` is their number. -/
def scaled? : Nat → Binary64 → Int → Option Binary64
  | 0, _, _ => some (Binary64.zero false)
  | fuel + 1, x, e =>
    let power (k : Nat) := Binary64.ofRatio false (Nat.pow 10 k) 1
    if e.natAbs ≤ 308 then
      let y := if 0 ≤ e then x.mul (power e.toNat) else x.div (power (-e).toNat)
      if y.isFinite then some y else none
    else if x.isZero then some x
    else if 0 ≤ e then none
    else scaled? fuel (x.div (power 308)) (e + 308)

def negated : Binary64 → Binary64
  | .finite s m e => .finite (!s) m e
  | .infinity s => .infinity (!s)
  | .nan => .nan

def signed (negative : Bool) (x : Binary64) : Binary64 := if negative then negated x else x

/-- The number with these digits before and after its point, and this exponent. -/
def float? (negative : Bool) (whole part : List Char) (e : Int) : Option Number := do
  let (m, left) := absorb 0 whole
  let (m, unused) := absorb m part
  let e := e + left.length - (part.length - unused.length : Nat)
  let x ← scaled? 4 (Binary64.ofInt m) e
  return .float (signed negative x)

/-- An integer, which is a float if 64 bits do not hold it; there is no integer `-0`. -/
def integer? (negative : Bool) (whole : List Char) : Option Number :=
  let n := Text.digitsValue whole
  if negative then
    if 0 < n && n ≤ Nat.pow 2 63 then some (.int (-n)) else float? true whole [] 0
  else if n < Nat.pow 2 64 then some (.int n)
  else float? false whole [] 0

/-- An exponent mark and its digits; without a mark there is no exponent and nothing is read. -/
def readExponent : List Char → Option (Option Int × List Char)
  | [] => some (none, [])
  | c :: s =>
    if c != 'e' && c != 'E' then some (none, c :: s)
    else
      let (negative, t) := match s with
        | '-' :: t => (true, t)
        | '+' :: t => (false, t)
        | t => (false, t)
      let digits := t.takeWhile Char.isDigit
      if digits.isEmpty then none
      else
        let n : Int := Text.digitsValue digits
        some (some (if negative then -n else n), t.dropWhile Char.isDigit)

/-- A number, which is none if it is too large, and what follows it. -/
def readNumber (s : List Char) : Option (Option Number × List Char) := do
  let (negative, s) := match s with
    | '-' :: t => (true, t)
    | t => (false, t)
  let whole := s.takeWhile Char.isDigit
  let rest := s.dropWhile Char.isDigit
  if whole.isEmpty || (whole.head? == some '0' && whole.length != 1) then none
  else
    let (part, rest) ← match rest with
      | '.' :: t =>
        let part := t.takeWhile Char.isDigit
        if part.isEmpty then none else some (some part, t.dropWhile Char.isDigit)
      | t => some (none, t)
    let (e, rest) ← readExponent rest
    match part, e with
    | none, none => return (integer? negative whole, rest)
    | _, _ => return (float? negative whole (part.getD []) (e.getD 0), rest)

/-! ### Strings -/

/-- The value of one hexadecimal digit. -/
def hexDigit? (c : Char) : Option Nat :=
  if c.isDigit then some (c.toNat - '0'.toNat)
  else if 'a' ≤ c && c ≤ 'f' then some (c.toNat - 'a'.toNat + 10)
  else if 'A' ≤ c && c ≤ 'F' then some (c.toNat - 'A'.toNat + 10)
  else none

/-- Four hexadecimal digits and what follows them. -/
def readUnit : List Char → Option (Nat × List Char)
  | a :: b :: c :: d :: s => do
    return ((((← hexDigit? a) * 16 + (← hexDigit? b)) * 16 + (← hexDigit? c)) * 16
      + (← hexDigit? d), s)
  | _ => none

/-- The character of a `\u` escape, for which two escapes are read if the first is the leading
half of a surrogate pair.  Half of a pair alone is no character. -/
def readCodePoint (s : List Char) : Option (Option Char × List Char) := do
  let (high, s) ← readUnit s
  if 0xDC00 ≤ high && high ≤ 0xDFFF then return (none, s)
  else if 0xD800 ≤ high && high ≤ 0xDBFF then
    match s with
    | '\\' :: 'u' :: t =>
      let (low, t) ← readUnit t
      if 0xDC00 ≤ low && low ≤ 0xDFFF then
        return (some (Char.ofNat (0x10000 + (high - 0xD800) * 0x400 + (low - 0xDC00))), t)
      else return (none, s)
    | _ => return (none, s)
  else return (some (Char.ofNat high), s)

/-- What stands after a backslash. -/
def readEscape : List Char → Option (Option Char × List Char)
  | '"' :: s => some (some '"', s)
  | '\\' :: s => some (some '\\', s)
  | '/' :: s => some (some '/', s)
  | 'b' :: s => some (some '\x08', s)
  | 'f' :: s => some (some '\x0c', s)
  | 'n' :: s => some (some '\n', s)
  | 'r' :: s => some (some '\r', s)
  | 't' :: s => some (some '\t', s)
  | 'u' :: s => readCodePoint s
  | _ => none

/-- The rest of a string whose opening quote has been read, after the characters in `done`, which
stand in reverse.  There is no string if one of them is none. -/
def readText : Nat → Option (List Char) → List Char → Option (Option String × List Char)
  | 0, _, _ => none
  | fuel + 1, done, s =>
    match s with
    | [] => none
    | '"' :: s => some (done.map fun cs => String.ofList cs.reverse, s)
    | '\\' :: s => do
      let (c, s) ← readEscape s
      readText fuel (return (← c) :: (← done)) s
    | c :: s => if c.toNat < 0x20 then none else readText fuel (done.map (c :: ·)) s

/-! ### Values -/

def isSpace (c : Char) : Bool := c == ' ' || c == '\n' || c == '\t' || c == '\r'

def skipSpace (s : List Char) : List Char := s.dropWhile isSpace

/-- The deepest nesting of arrays and objects that is read. -/
def deepest : Nat := 127

/-- What there is one of, or what is unfit. -/
def orUnfit {α : Type} (make : α → Document) : Option α → Document
  | some a => make a
  | none => .unfit

/-- An array or an object, which has to be one of the `depth` levels that there is room for. -/
def within (depth : Nat) (d : Document) : Document := if depth == 0 then .unfit else d

mutual

/-- One value, with room for `depth` levels of nesting. -/
def readValue (fuel depth : Nat) (s : List Char) : Option (Document × List Char) :=
  match fuel with
  | 0 => none
  | fuel + 1 =>
    match skipSpace s with
    | 'n' :: 'u' :: 'l' :: 'l' :: s => some (.null, s)
    | 't' :: 'r' :: 'u' :: 'e' :: s => some (.bool true, s)
    | 'f' :: 'a' :: 'l' :: 's' :: 'e' :: s => some (.bool false, s)
    | '"' :: s => do
      let (t, s) ← readText (s.length + 1) (some []) s
      return (orUnfit .text t, s)
    | '[' :: s =>
      match skipSpace s with
      | ']' :: s => some (within depth (.list []), s)
      | s => do
        let (items, s) ← readItems fuel (depth - 1) s
        return (within depth (.list items), s)
    | '{' :: s =>
      match skipSpace s with
      | '}' :: s => some (within depth (.map []), s)
      | s => do
        let (members, s) ← readMembers fuel (depth - 1) s
        return (within depth (.map members), s)
    | s => do
      let (n, s) ← readNumber s
      return (orUnfit .number n, s)

/-- The items of an array that has at least one more, and the closing bracket. -/
def readItems (fuel depth : Nat) (s : List Char) : Option (List Document × List Char) :=
  match fuel with
  | 0 => none
  | fuel + 1 => do
    let (item, s) ← readValue fuel depth s
    match skipSpace s with
    | ',' :: s =>
      let (items, s) ← readItems fuel depth s
      return (item :: items, s)
    | ']' :: s => return ([item], s)
    | _ => none

/-- The members of an object that has at least one more, and the closing brace. -/
def readMembers (fuel depth : Nat) (s : List Char) :
    Option (List (Document × Document) × List Char) :=
  match fuel with
  | 0 => none
  | fuel + 1 =>
    match skipSpace s with
    | '"' :: s => do
      let (name, s) ← readText (s.length + 1) (some []) s
      match skipSpace s with
      | ':' :: s =>
        let (item, s) ← readValue fuel depth s
        match skipSpace s with
        | ',' :: s =>
          let (members, s) ← readMembers fuel depth s
          return ((orUnfit .text name, item) :: members, s)
        | '}' :: s => return ([(orUnfit .text name, item)], s)
        | _ => none
      | _ => none
    | _ => none

end

/-- The document a text holds. -/
def read? (s : String) : Option Document := do
  let cs := s.toList
  let (d, rest) ← readValue (2 * cs.length + 2) deepest cs
  if (skipSpace rest).isEmpty then some d else none

/-! ### Writing -/

def hexChar (n : Nat) : Char := Char.ofNat (if n < 10 then '0'.toNat + n else 'a'.toNat + n - 10)

/-- A character as it stands between quotes. -/
def escape (c : Char) : List Char :=
  if c == '"' then ['\\', '"']
  else if c == '\\' then ['\\', '\\']
  else if c == '\x08' then ['\\', 'b']
  else if c == '\x0c' then ['\\', 'f']
  else if c == '\n' then ['\\', 'n']
  else if c == '\r' then ['\\', 'r']
  else if c == '\t' then ['\\', 't']
  else if c.toNat < 0x20 then ['\\', 'u', '0', '0', hexChar (c.toNat / 16), hexChar (c.toNat % 16)]
  else [c]

def quote (s : String) : String := String.ofList ('"' :: s.toList.flatMap escape ++ ['"'])

mutual

def write : Value → String
  | .null => "null"
  | .bool b => if b then "true" else "false"
  | .number n => n.text
  | .text s => quote s
  | .array items => "[" ++ ",".intercalate (writeItems items) ++ "]"
  | .object fields => "\x7b" ++ ",".intercalate (writeFields fields) ++ "\x7d"

def writeItems : List Value → List String
  | [] => []
  | v :: vs => write v :: writeItems vs

def writeFields : List (String × Value) → List String
  | [] => []
  | (name, v) :: rest => (quote name ++ ":" ++ write v) :: writeFields rest

end

end DeviceLint.Json
