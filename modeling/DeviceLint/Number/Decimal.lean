/-
Decimal text of double-precision numbers, both ways.

Written, a number has the fewest digits that read back.  It stands in positional form
while its decimal point falls within sixteen digits of the first one, or at most four
zeros follow the point; otherwise it has an exponent.  A whole number keeps `.0`, so
that it can be told from an integer.

Read, a text may have a sign, digits on either side of the point, and an exponent, or
it names an infinity or NaN in letters of any case.
-/
import DeviceLint.Number.Shortest
import DeviceLint.Text.Numeral

namespace DeviceLint.Decimal

def zeros (n : Nat) : List Char := List.replicate n '0'

/-- Layout of the number `digits * 10 ^ k`, whose last digit is not zero. -/
def layout (digits : List Char) (k : Int) : List Char :=
  let point : Int := digits.length + k
  if 0 ≤ k && point ≤ 16 then digits ++ zeros k.toNat ++ ['.', '0']
  else if 0 < point && point ≤ 16 then
    digits.take point.toNat ++ '.' :: digits.drop point.toNat
  else if -5 < point && point ≤ 0 then '0' :: '.' :: zeros (-point).toNat ++ digits
  else
    let mantissa := match digits with
      | [] => []
      | [d] => [d]
      | d :: rest => d :: '.' :: rest
    mantissa ++ 'e' :: (toString (point - 1)).toList

/-- The text of a number; only finite ones have a text in data. -/
def write : Binary64 → String
  | .nan => "NaN"
  | .infinity s => if s then "-inf" else "inf"
  | .finite s m e =>
    let body := if m == 0 then ['0', '.', '0']
      else
        let (c, k) := Shortest.digits m e
        layout (toString c).toList k
    String.ofList (if s then '-' :: body else body)

/-- The value of an exponent mark and what follows it, which may be nothing at all. -/
def exponent? : List Char → Option Int
  | [] => some 0
  | c :: s =>
    if c != 'e' && c != 'E' then none
    else match s with
      | '-' :: t => (Text.digits? t).map fun n => -(n : Int)
      | '+' :: t => (Text.digits? t).map fun n => (n : Int)
      | t => (Text.digits? t).map fun n => (n : Int)

/-- An unsigned decimal: digits, perhaps a point and more digits, perhaps an exponent. -/
def unsigned? (negative : Bool) (s : List Char) : Option Binary64 := do
  let whole := s.takeWhile Char.isDigit
  let rest := s.dropWhile Char.isDigit
  let (part, rest) := match rest with
    | '.' :: t => (t.takeWhile Char.isDigit, t.dropWhile Char.isDigit)
    | t => ([], t)
  if whole.isEmpty && part.isEmpty then none
  else
    let e ← exponent? rest
    return Binary64.ofDecimal negative (Text.digitsValue (whole ++ part)) (e - part.length)

/-- A number in text, names of infinities and NaN included. -/
def read? (s : List Char) : Option Binary64 :=
  let (negative, body) := match s with
    | '-' :: t => (true, t)
    | '+' :: t => (false, t)
    | t => (false, t)
  let name := body.map Char.toLower
  if name == "inf".toList || name == "infinity".toList then some (.infinity negative)
  else if name == "nan".toList then some .nan
  else unsigned? negative body

end DeviceLint.Decimal
