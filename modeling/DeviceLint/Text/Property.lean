/-
Properties of characters: binary ones, such as being alphabetic, and ones with values,
such as the version of Unicode that a character came with.

Properties and values are looked up by any of their names, in lower case and without
separators.  Two binary properties are asked for often enough to have tables of their own:
the decimal digits of all scripts, and the characters that words are made of.
-/
import DeviceLint.Text.Run
import DeviceLint.Text.Case
import DeviceLint.Text.Find
import DeviceLint.Text.Property.Table
import DeviceLint.Text.Property.Values

namespace DeviceLint.Text.Property

/-- One range of a written table, and where it ends, given where the one before it ended. -/
def readRange (next : Nat) (s : List Char) : Nat × Nat :=
  let first := next + Run.hexValue (s.takeWhile (· != ':'))
  (first, first + Run.hexValue ((s.dropWhile (· != ':')).drop 1))

/-- The ranges of a written table, in ascending order. -/
def decode (text : String) : List (Nat × Nat) :=
  ((splitOn ',' text.toList).foldl (fun (ranges, next) piece =>
    let r := readRange next piece
    (r :: ranges, r.2 + 1)) ([], 0)).1.reverse

def ranges : List (List String × List (Nat × Nat)) :=
  table.map fun (names, text) => (names, decode text)

def ofName? (name : String) : Option (List (Nat × Nat)) :=
  (ranges.find? (·.1.contains name)).map (·.2)

/-- Whether a character has the property of that name. -/
def has (name : String) (c : Char) : Bool :=
  match ofName? name with
  | some ranges => inRanges c.toNat ranges
  | none => false

def wordRanges : List (Nat × Nat) := decode word

/-! ### Properties with values -/

/-- Where text breaks: properties, their values, and the ranges of each value. -/
def breakRanges : List (List String × List (List String × List (Nat × Nat))) :=
  breaks.map fun (names, values) => (names, values.map fun (names, text) => (names, decode text))

/-- The ranges in which a property about breaks has a value. -/
def breakOfNames? (property value : String) : Option (List (Nat × Nat)) := do
  let (_, values) ← breakRanges.find? (·.1.contains property)
  let (_, ranges) ← values.find? (·.1.contains value)
  return ranges

/-- What each version has added to those before it. -/
def ageRanges : List (List String × List (Nat × Nat)) :=
  ages.map fun (names, text) => (names, decode text)

/-- How many versions there are up to the one of that name. -/
def ageOfName? (name : String) : Option Nat :=
  (ageRanges.findIdx? (·.1.contains name)).map (· + 1)

/-- Whether a character is as old as the first so many versions. -/
def isInVersions (count : Nat) (c : Char) : Bool :=
  (ageRanges.take count).any fun (_, ranges) => inRanges c.toNat ranges

end DeviceLint.Text.Property

namespace DeviceLint.Text

/-- Letters, marks, decimal digits, connectors and joiners of all scripts. -/
def isWordChar (c : Char) : Bool := inRanges c.toNat Property.wordRanges

/-- Ranges of the decimal digits. -/
def decimalDigits : List (Nat × Nat) := [
  (0x30, 0x39), (0x660, 0x669), (0x6F0, 0x6F9), (0x7C0, 0x7C9), (0x966, 0x96F), (0x9E6, 0x9EF),
  (0xA66, 0xA6F), (0xAE6, 0xAEF), (0xB66, 0xB6F), (0xBE6, 0xBEF), (0xC66, 0xC6F), (0xCE6, 0xCEF),
  (0xD66, 0xD6F), (0xDE6, 0xDEF), (0xE50, 0xE59), (0xED0, 0xED9), (0xF20, 0xF29), (0x1040, 0x1049),
  (0x1090, 0x1099), (0x17E0, 0x17E9), (0x1810, 0x1819), (0x1946, 0x194F), (0x19D0, 0x19D9),
  (0x1A80, 0x1A89), (0x1A90, 0x1A99), (0x1B50, 0x1B59), (0x1BB0, 0x1BB9), (0x1C40, 0x1C49),
  (0x1C50, 0x1C59), (0xA620, 0xA629), (0xA8D0, 0xA8D9), (0xA900, 0xA909), (0xA9D0, 0xA9D9),
  (0xA9F0, 0xA9F9), (0xAA50, 0xAA59), (0xABF0, 0xABF9), (0xFF10, 0xFF19), (0x104A0, 0x104A9),
  (0x10D30, 0x10D39), (0x11066, 0x1106F), (0x110F0, 0x110F9), (0x11136, 0x1113F),
  (0x111D0, 0x111D9), (0x112F0, 0x112F9), (0x11450, 0x11459), (0x114D0, 0x114D9),
  (0x11650, 0x11659), (0x116C0, 0x116C9), (0x11730, 0x11739), (0x118E0, 0x118E9),
  (0x11950, 0x11959), (0x11C50, 0x11C59), (0x11D50, 0x11D59), (0x11DA0, 0x11DA9),
  (0x11F50, 0x11F59), (0x16A60, 0x16A69), (0x16AC0, 0x16AC9), (0x16B50, 0x16B59),
  (0x1D7CE, 0x1D7FF), (0x1E140, 0x1E149), (0x1E2F0, 0x1E2F9), (0x1E4F0, 0x1E4F9),
  (0x1E950, 0x1E959), (0x1FBF0, 0x1FBF9)]

/-- The decimal digits of all scripts. -/
def isDecimalDigit (c : Char) : Bool := inRanges c.toNat decimalDigits

end DeviceLint.Text
