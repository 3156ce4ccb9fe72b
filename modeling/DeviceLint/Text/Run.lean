/-
Tables that give every code point a code.

The code points are cut into runs of equal code, written one after the other: the
letters of the code, then in hexadecimal how many more code points the run has.  Every
code begins with a capital and has no other, which is how runs are told apart.
-/

namespace DeviceLint.Text

/-- Code points `first` to `last`, all with one code. -/
structure Run where
  first : Nat
  last : Nat
  code : String
  deriving Inhabited

namespace Run

def hexValue (s : List Char) : Nat :=
  s.foldl (fun n c =>
    n * 16 + (if c.isDigit then c.toNat - '0'.toNat else c.toNat - 'a'.toNat + 10)) 0

/-- The text of each run. -/
def pieces (s : List Char) : List (List Char) :=
  (s.foldr (fun c (current, done) =>
    if c.isUpper then ([], (c :: current) :: done) else (c :: current, done)) ([], [])).2

/-- The runs of a table whose codes have `width` letters. -/
def decode (width : Nat) (table : String) : Array Run :=
  ((pieces table.toList).foldl (fun (runs, next) piece =>
    let last := next + hexValue (piece.drop width)
    (runs.push ⟨next, last, String.ofList (piece.take width)⟩, last + 1)) (#[], 0)).1

/-- Halves the part of a table from `low` up to `high` until the run of `n` is found. -/
def search (runs : Array Run) (n : Nat) : Nat → Nat → Nat → Option Run
  | 0, _, _ => none
  | fuel + 1, low, high =>
    if low < high then
      let middle := (low + high) / 2
      match runs[middle]? with
      | none => none
      | some r =>
        if n < r.first then search runs n fuel low middle
        else if r.last < n then search runs n fuel (middle + 1) high
        else some r
    else none

/-- The code of a code point. -/
def codeOf (runs : Array Run) (n : Nat) : String :=
  match search runs n runs.size 0 runs.size with
  | some r => r.code
  | none => ""

/-- Where the runs of some codes begin and end. -/
def rangesOf (runs : Array Run) (codes : List String) : List (Nat × Nat) :=
  (runs.toList.filter fun r => codes.contains r.code).map fun r => (r.first, r.last)

end Run

end DeviceLint.Text
