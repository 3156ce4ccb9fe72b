/-
Sets of characters as ranges of code points.

A set is kept as an expression.  What it comes to, written out, is only asked for when
the room it takes is measured.
-/
import DeviceLint.Regex.CharSet

namespace DeviceLint

abbrev Ranges := List (Nat × Nat)

namespace Ranges

/-- Adds a range to ranges in ascending order, and makes one of those that touch. -/
def add (r : Nat × Nat) : Ranges → Ranges
  | [] => [r]
  | s :: rs =>
    if r.2 + 1 < s.1 then r :: s :: rs
    else if s.2 + 1 < r.1 then s :: add r rs
    else add (min r.1 s.1, max r.2 s.2) rs

/-- The same code points in as few ranges as can be, in ascending order. -/
def normal (rs : Ranges) : Ranges := rs.foldr add []

/-- All other code points. -/
def complement (rs : Ranges) : Ranges :=
  let (gaps, next) := rs.normal.foldl (fun (gaps, next) r =>
    (if next < r.1 then (next, r.1 - 1) :: gaps else gaps, r.2 + 1)) ([], 0)
  (if next ≤ 0x10FFFF then (next, 0x10FFFF) :: gaps else gaps).reverse

def intersection (rs rs' : Ranges) : Ranges := (rs.complement ++ rs'.complement).complement

/-- What a run of a mapping between letters makes of the code points in a range. -/
def imagesIn (run : Text.CaseTable.Run) (r : Nat × Nat) : Ranges :=
  let first := max r.1 run.first
  (List.range (min r.2 run.last + 1 - first)).filterMap fun i =>
    (run.image? (first + i)).map fun n => (n, n)

def images (runs : List Text.CaseTable.Run) (rs : Ranges) : Ranges :=
  rs.flatMap fun r => runs.flatMap (imagesIn · r)

/-- The code points together with their images, and with all that have the same image. -/
def closed (runs : List Text.CaseTable.Run) (rs : Ranges) : Ranges :=
  let rs := rs ++ rs.images runs
  rs ++ rs.images (runs.map fun r => ⟨r.image, r.image + (r.last - r.first), r.stride, r.first⟩)

end Ranges

namespace CharSet

/-- The code points of a set. -/
def ranges : CharSet → Ranges
  | nothing => []
  | anything => [(0, 0x10FFFF)]
  | range a b => [(a.toNat, b.toNat)]
  | digits => Text.decimalDigits
  | blanks => (Text.Property.ofName? "whitespace").getD []
  | wordChars => Text.Property.wordRanges
  | category codes => Text.Run.rangesOf Text.Category.runs codes
  | property name => (Text.Property.ofName? name).getD []
  | script code => Text.Run.rangesOf Text.Script.runs [code]
  | usedWith code =>
    Text.Script.borrowedBy code ++
      (Ranges.intersection (Text.Run.rangesOf Text.Script.runs [code])
        (Ranges.complement (Text.Script.lentBy code)))
  | breaking name value => (Text.Property.breakOfNames? name value).getD []
  | versions count => (Text.Property.ageRanges.take count).flatMap (·.2)
  | union a b => a.ranges ++ b.ranges
  | intersection a b => a.ranges.intersection b.ranges
  | difference a b => a.ranges.intersection b.ranges.complement
  | symmetricDifference a b =>
    a.ranges.intersection b.ranges.complement ++ b.ranges.intersection a.ranges.complement
  | complement a => a.ranges.complement
  | caseless a => a.ranges.closed Text.CaseTable.fold
  | asciiCaseless a => a.ranges.closed [⟨0x41, 0x5A, 1, 0x61⟩]

end CharSet

end DeviceLint
