/-
How much room an expression takes.

A repetition takes as much room as if it were written out, so a short pattern can stand
for an expression that nobody could keep.  Such a pattern is refused.  The room is that of
an automaton that reads texts as the bytes of UTF-8 and has a state for every range of
bytes.  The characters of a range of code points need not differ in one byte only, so a
range is cut into pieces whose bytes range independently of each other.
-/
import DeviceLint.Regex.Basic
import DeviceLint.Regex.Ranges

namespace DeviceLint

namespace Ranges

/-- The last code point of the part of a range that has to be cut off: where the number of bytes
changes, around the surrogates, or where a byte that is not the last one changes while the ones
after it do not take all their values. -/
def cut? (a b : Nat) : Option Nat :=
  let isInside := fun n => a ≤ n && n < b
  ([0x7F, 0x7FF, 0xD7FF, 0xDFFF, 0xFFFF].find? isInside).or <|
    if b < 0x80 then none
    else [0x40, 0x1000, 0x40000].findSome? fun k =>
      if a / k == b / k then none
      else if a % k != 0 then some ((a / k + 1) * k - 1)
      else if b % k != k - 1 then some (b / k * k - 1)
      else none

/-- The pieces of a range; none needs more cuts, one after the other, than there are places where
one may be needed. -/
def pieces (a b : Nat) : Nat → Ranges
  | 0 => [(a, b)]
  | fuel + 1 =>
    match cut? a b with
    | some n => pieces a n fuel ++ pieces (n + 1) b fuel
    | none => [(a, b)]

/-- The ranges of bytes that spell a piece. -/
def spelling (r : Nat × Nat) : List (UInt8 × UInt8) :=
  (String.utf8EncodeChar (Char.ofNat r.1)).zip (String.utf8EncodeChar (Char.ofNat r.2))

/-- The spellings of all code points. -/
def spellings (rs : Ranges) : List (List (UInt8 × UInt8)) :=
  ((rs.normal.flatMap fun r => pieces r.1 r.2 12).filter fun r =>
    !(0xD800 ≤ r.1 && r.1 ≤ 0xDFFF)).map spelling

/-- How many states spell the texts of a list; neighbours share how they begin. -/
def states : List (List (UInt8 × UInt8)) → Nat
  | [] => 0
  | [s] => s.length
  | s :: s' :: rest =>
    let shared := ((s.zip s').takeWhile fun (b, b') => b == b').length
    (s.length - shared) + states (s' :: rest)

/-- Bytes that a state takes. -/
def stateSize : Nat := 32

end Ranges

namespace CharSet

open Ranges (stateSize)

/-- The room that a set takes.  A single character is spelled out, and characters of one byte need
no states of their own. -/
def extent (set : CharSet) : Nat :=
  let ss := Ranges.spellings set.ranges
  let isSingle := ss.length == 1 && ss.all (·.all fun (b, b') => b == b')
  if isSingle then Ranges.states ss * stateSize
  else if ss.all (·.length == 1) then 2 * stateSize + 8 * ss.length
  else (2 + Ranges.states ss) * stateSize + 4 * ss.length

end CharSet

namespace Regex

open Ranges (stateSize)

/-- Whether an expression matches nothing but the empty text. -/
def isEmptyOnly : Regex → Bool
  | empty => true
  | one _ => false
  | place _ => true
  | seq a b => a.isEmptyOnly && b.isEmptyOnly
  | alt a b => a.isEmptyOnly && b.isEmptyOnly
  | times a _ most => a.isEmptyOnly || most == some 0

/-- How often the body of a repetition is written out. -/
def copies (least : Nat) (most : Option Nat) : Nat := most.getD (max least 1)

/-- The room an expression takes in bytes.  What may be left out takes a state more, and nothing
is gained by repeating what matches only the empty text. -/
def extent : Regex → Nat
  | empty => 0
  | one set => set.extent
  | place _ => stateSize
  | seq a b => a.extent + b.extent
  | alt a b => a.extent + b.extent + stateSize
  | times a least most =>
    if isEmptyOnly (times a least most) then stateSize
    else a.extent * copies least most + stateSize * (copies least most - least + 1)

/-- The most room an expression may take: ten binary megabytes. -/
def maxExtent : Nat := 10 * Nat.pow 2 20

end Regex

end DeviceLint
