/-
Unsigned numerals.

A numeral is one or more decimal digits, with or without a plus sign before them;
leading zeros do not change its value.  Readers are given the first number that is
too large for them, so a reader of octets passes 256.
-/
import DeviceLint.Text.Find

namespace DeviceLint.Text

/-- The value of a run of decimal digits. -/
def digitsValue (s : List Char) : Nat :=
  s.foldl (fun n c => n * 10 + (c.toNat - '0'.toNat)) 0

/-- The value of a text of decimal digits; a text without digits has none. -/
def digits? (s : List Char) : Option Nat :=
  if s.isEmpty || !s.all Char.isDigit then none else some (digitsValue s)

/-- The value of an unsigned numeral, if it is below `limit`. -/
def numeral? (limit : Nat) (s : List Char) : Option Nat :=
  (digits? ((dropStart? ['+'] s).getD s)).filter (· < limit)

/-- One more than the largest line number, count or index. -/
def indexLimit : Nat := Nat.pow 2 64

end DeviceLint.Text
