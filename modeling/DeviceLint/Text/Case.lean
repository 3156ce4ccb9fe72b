/-
Upper and lower case of whole texts.

Most characters are mapped one by one.  A few have a form of several characters (`ß`
becomes `SS`), and one depends on its surroundings: a capital sigma that ends a word
becomes `ς` and any other becomes `σ`.  It ends a word when, passing over characters
such as apostrophes and combining marks, the nearest character before it is a letter
with case and the nearest after it is not.

Because of that rule lower-casing does not commute with cutting a text in two.
-/
import DeviceLint.Text.Case.Table

namespace DeviceLint.Text

namespace CaseTable

/-- Where a run takes a code point, if the code point belongs to it. -/
def Run.image? (r : Run) (n : Nat) : Option Nat :=
  if r.first ≤ n && n ≤ r.last && (n - r.first) % r.stride == 0 then
    some (r.image + (n - r.first))
  else none

/-- Which code point of a run is taken to `n`. -/
def Run.source? (r : Run) (n : Nat) : Option Nat :=
  if r.image ≤ n && n ≤ r.image + (r.last - r.first) && (n - r.image) % r.stride == 0 then
    some (r.first + (n - r.image))
  else none

/-- The image of a code point; one that no run holds is its own image. -/
def image (runs : List Run) (n : Nat) : Nat :=
  (runs.findSome? (·.image? n)).getD n

end CaseTable

/-- Membership in a list of inclusive ranges in ascending order. -/
def inRanges (n : Nat) : List (Nat × Nat) → Bool
  | [] => false
  | (lo, hi) :: rest => if n < lo then false else if n ≤ hi then true else inRanges n rest

def isCased (c : Char) : Bool := inRanges c.toNat CaseTable.cased

def isCaseIgnorable (c : Char) : Bool := inRanges c.toNat CaseTable.caseIgnorable

/-- Lower-case form of a character, its surroundings left aside. -/
def lowerChar (c : Char) : List Char :=
  if c.toNat < 0x80 then [c.toLower]
  else if c.toNat == 0x130 then ['i', '\u0307']
  else [Char.ofNat (CaseTable.image CaseTable.lower c.toNat)]

/-- Upper-case form of a character. -/
def upperChar (c : Char) : List Char :=
  if c.toNat < 0x80 then [c.toUpper]
  else match CaseTable.expandedUpper.lookup c.toNat with
    | some form => form.map Char.ofNat
    | none => [Char.ofNat (CaseTable.image CaseTable.upper c.toNat)]

/-- The first character that is not case-ignorable has case. -/
def meetsCased (s : List Char) : Bool :=
  match s.dropWhile isCaseIgnorable with
  | [] => false
  | c :: _ => isCased c

/-- Lower-cases `s`, which stands after the text whose reverse is `before`. -/
def lowerAfter (before : List Char) : List Char → List Char
  | [] => []
  | c :: s =>
    (if c == 'Σ' then [if meetsCased before && !meetsCased s then 'ς' else 'σ'] else lowerChar c)
      ++ lowerAfter (c :: before) s

def lower (s : List Char) : List Char := lowerAfter [] s

def upper (s : List Char) : List Char := s.flatMap upperChar

/-- A character without its case, for comparison only. -/
def foldedCase (c : Char) : Nat := CaseTable.image CaseTable.fold c.toNat

/-- All characters that are the same letter, whatever its case. -/
def caseVariants (c : Char) : List Char :=
  let f := foldedCase c
  c :: Char.ofNat f :: (CaseTable.fold.filterMap (·.source? f)).map Char.ofNat

end DeviceLint.Text

namespace DeviceLint

/-- A text in lower case. -/
def lowerCase (s : String) : String := String.ofList (Text.lower s.toList)

end DeviceLint
