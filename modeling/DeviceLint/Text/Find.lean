/-
Finding one text inside another.

`splitAt? pattern s` cuts `s` around the leftmost occurrence of `pattern`; the empty
pattern occurs before the first character.  The other questions are asked through it
or through the prefix test it is built on.
-/

namespace DeviceLint.Text

/-- What stands before and after the leftmost occurrence of `pattern`. -/
def splitAt? (pattern : List Char) : List Char → Option (List Char × List Char)
  | [] => if pattern.isEmpty then some ([], []) else none
  | c :: s =>
    if pattern.isPrefixOf (c :: s) then some ([], (c :: s).drop pattern.length)
    else (splitAt? pattern s).map fun (before, after) => (c :: before, after)

/-- Whether `pattern` occurs somewhere in `s`. -/
def contains (s pattern : List Char) : Bool := (splitAt? pattern s).isSome

/-- The rest of `s` after a leading `pattern`. -/
def dropStart? (pattern s : List Char) : Option (List Char) :=
  if pattern.isPrefixOf s then some (s.drop pattern.length) else none

/-- The part of `s` before a closing `pattern`. -/
def dropEnd? (pattern s : List Char) : Option (List Char) :=
  if pattern.isSuffixOf s then some (s.take (s.length - pattern.length)) else none

/-- The pieces between the occurrences of one character; there is always at least one. -/
def splitOn (sep : Char) : List Char → List (List Char)
  | [] => [[]]
  | c :: s =>
    if c == sep then [] :: splitOn sep s
    else match splitOn sep s with
      | [] => [[c]]
      | piece :: pieces => (c :: piece) :: pieces

end DeviceLint.Text
