/-
Double-precision numbers as exact values.

A finite number is a sign, a significand below 2^53 and an exponent, and stands for
`± significand * 2 ^ exponent`.  Every number that is made here has the largest
significand its exponent range allows, so that equal values other than the two zeros
are equal terms.  Rounding is always to the nearest number, and from halfway to the
one with an even significand; all arithmetic is on naturals and integers, and nothing
is left to a machine's floating point.
-/

namespace DeviceLint

inductive Binary64 where
  | nan
  | infinity (negative : Bool)
  | finite (negative : Bool) (significand : Nat) (exponent : Int)
  deriving DecidableEq, Repr

namespace Binary64

/-- The exponent of the smallest positive number. -/
def leastExponent : Int := -1074

/-- The exponent of the largest finite numbers. -/
def greatestExponent : Int := 971

def zero (negative : Bool) : Binary64 := .finite negative 0 leastExponent

/-- The nearest integer to `n / d`, the even one of two that are equally near. -/
def roundedQuotient (n d : Nat) : Nat :=
  let q := n / d
  let r := n % d
  if 2 * r > d || (2 * r == d && q % 2 == 1) then q + 1 else q

/-- The fraction `n / d` divided by `2 ^ e`, again as a fraction. -/
def scaleDown (n d : Nat) (e : Int) : Nat × Nat :=
  if 0 ≤ e then (n, d * Nat.pow 2 e.toNat) else (n * Nat.pow 2 (-e).toNat, d)

/-- The exponent that gives `n / d` a significand of 53 bits, or the least exponent there is. -/
def exponentFor (n d : Nat) : Int :=
  let e : Int := n.log2 - d.log2 - 52
  let (a, b) := scaleDown n d e
  max leastExponent (if a < b * Nat.pow 2 52 then e - 1 else e)

/-- The number nearest to `± n / d`; the denominator is not zero. -/
def ofRatio (negative : Bool) (n d : Nat) : Binary64 :=
  if n == 0 then zero negative
  else
    let e := exponentFor n d
    let (a, b) := scaleDown n d e
    let m := roundedQuotient a b
    let (m, e) := if m == Nat.pow 2 53 then (Nat.pow 2 52, e + 1) else (m, e)
    if greatestExponent < e then .infinity negative else .finite negative m e

def ofInt (i : Int) : Binary64 := ofRatio (i < 0) i.natAbs 1

/-- The number nearest to `± m * 10 ^ e`.  The decimal logarithm of `m` lies between three tenths
and a third of its binary one; exponents that put the number beyond the finite range on
that estimate are settled by it, so that no power of ten grows past the length of the text. -/
def ofDecimal (negative : Bool) (m : Nat) (e : Int) : Binary64 :=
  if m == 0 then zero negative
  else if e + (3 * m.log2 / 10 : Nat) > 310 then .infinity negative
  else if e + (m.log2 / 3 + 2 : Nat) < -330 then zero negative
  else if 0 ≤ e then ofRatio negative (m * Nat.pow 10 e.toNat) 1
  else ofRatio negative m (Nat.pow 10 (-e).toNat)

/-- `m * 2 ^ e` as a fraction. -/
def fraction (m : Nat) (e : Int) : Nat × Nat :=
  if 0 ≤ e then (m * Nat.pow 2 e.toNat, 1) else (m, Nat.pow 2 (-e).toNat)

/-- Product of finite numbers, rounded once. -/
def mul : Binary64 → Binary64 → Binary64
  | .finite s m e, .finite t n f =>
    let (a, b) := fraction (m * n) (e + f)
    ofRatio (s != t) a b
  | _, _ => .nan

/-- Quotient of finite numbers, rounded once. -/
def div : Binary64 → Binary64 → Binary64
  | .finite s m e, .finite t n f =>
    if n == 0 then .nan
    else
      let (a, b) := fraction m (e - f)
      ofRatio (s != t) a (b * n)
  | _, _ => .nan

def isFinite : Binary64 → Bool
  | .finite .. => true
  | _ => false

def isZero : Binary64 → Bool
  | .finite _ m _ => m == 0
  | _ => false

/-- The signed significand after its exponent has been lowered to `e`. -/
def alignedAt (e : Int) (negative : Bool) (m : Nat) (exponent : Int) : Int :=
  let n : Int := (m * Nat.pow 2 (exponent - e).toNat : Nat)
  if negative then -n else n

/-- The order of two numbers, where a NaN has no place. -/
def compare? : Binary64 → Binary64 → Option Ordering
  | .nan, _ => none
  | _, .nan => none
  | .infinity s, .infinity t => some (if s == t then .eq else if s then .lt else .gt)
  | .infinity s, .finite .. => some (if s then .lt else .gt)
  | .finite .., .infinity t => some (if t then .gt else .lt)
  | .finite s m e, .finite t n f =>
    let low := min e f
    some (compare (alignedAt low s m e) (alignedAt low t n f))

/-- Equality of values: the zeros are equal, and a NaN equals nothing. -/
def sameValue (x y : Binary64) : Bool := compare? x y == some .eq

def lt (x y : Binary64) : Bool := compare? x y == some .lt

def le (x y : Binary64) : Bool := lt x y || sameValue x y

end Binary64

end DeviceLint
