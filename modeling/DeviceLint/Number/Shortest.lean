/-
The shortest decimal that reads back as a given number.

Around a finite number `m * 2 ^ e` lies the interval of reals that round to it; its
ends belong to it exactly if `m` is even, because halves go to the even neighbour.
For one digit, two digits and so on up to seventeen the two neighbours of the number
on that decimal grid are tried.  The first grid with a point in the interval gives
the digits, and of two points on it the nearer one is taken.  No coarser grid has a
point in the interval: if any point did, one of the two neighbours would.
-/
import DeviceLint.Number.Binary64

namespace DeviceLint.Shortest

/-- `10 ^ k` as a fraction. -/
def powerOfTen (k : Int) : Nat × Nat :=
  if 0 ≤ k then (Nat.pow 10 k.toNat, 1) else (1, Nat.pow 10 (-k).toNat)

/-- The interval around `m * 2 ^ e`, in quarters of `2 ^ e`: its low end, the number, its high
end, and whether the ends belong to it.  Below a power of two the spacing is half as wide. -/
structure Interval where
  low : Nat
  value : Nat
  high : Nat
  closed : Bool

def intervalOf (m : Nat) (e : Int) : Interval where
  low := if m == Nat.pow 2 52 && Binary64.leastExponent < e then 4 * m - 1 else 4 * m - 2
  value := 4 * m
  high := 4 * m + 2
  closed := m % 2 == 0

/-- The largest `p` with `10 ^ p ≤ n / d`; both are positive. -/
def decimalExponent (n d : Nat) : Int :=
  let guess : Int := (toString n).length - (toString d).length
  let (a, b) := powerOfTen guess
  if n * b < d * a then guess - 1 else guess

/-- The point of the grid `10 ^ k` nearest to the number, if it or its neighbour on the other
side of the number lies in the interval. -/
def hit? (i : Interval) (unit : Nat × Nat) (k : Int) : Option Nat :=
  let (p, q) := unit
  let (r, s) := powerOfTen k
  -- the point `c * 10 ^ k` against `x` quarters of the unit
  let point (c : Nat) : Nat := c * r * q
  let bound (x : Nat) : Nat := x * p * s
  let inside (c : Nat) : Bool :=
    if i.closed then bound i.low ≤ point c && point c ≤ bound i.high
    else bound i.low < point c && point c < bound i.high
  let c := bound i.value / (r * q)
  let below := bound i.value - point c
  let above := point (c + 1) - bound i.value
  match inside c, inside (c + 1) with
  | true, true => some (if below < above || (below == above && c % 2 == 0) then c else c + 1)
  | true, false => some c
  | false, true => some (c + 1)
  | false, false => none

/-- Digits and decimal exponent of the shortest decimal for `m * 2 ^ e`, where `m` is positive. -/
def decimal (m : Nat) (e : Int) : Nat × Int :=
  let i := intervalOf m e
  let unit := Binary64.fraction 1 (e - 2)
  let p := decimalExponent (i.value * unit.1) unit.2
  let candidate (n : Nat) : Option (Nat × Int) :=
    let k := p - n + 1
    (hit? i unit k).map (·, k)
  ((List.range 17).findSome? fun n => candidate (n + 1)).getD (m, e)

/-- The same decimal without zeros at the end of its digits; `fuel` bounds their number. -/
def stripZeros : Nat → Nat × Int → Nat × Int
  | 0, x => x
  | fuel + 1, (c, k) => if c % 10 == 0 && c != 0 then stripZeros fuel (c / 10, k + 1) else (c, k)

def digits (m : Nat) (e : Int) : Nat × Int := stripZeros 20 (decimal m e)

end DeviceLint.Shortest
