/-
What an unquoted scalar means when its type is not known beforehand.

`null` and `~` are null, `true` and `false` are truth values, and numbers are numbers;
everything else is a string, `yes` and `no` included.  Digits after a leading zero are a
string as well, since an identifier such as `007` must not lose its zeros.  An integer
of more than 64 bits is an error while 128 bits would hold it, and a float beyond that.
-/
import DeviceLint.Data.Value
import DeviceLint.Text.Find

namespace DeviceLint.Scalar

def isNull (s : String) : Bool := ["", "~", "null", "Null", "NULL"].contains s

def bool? (s : String) : Option Bool :=
  if ["true", "True", "TRUE"].contains s then some true
  else if ["false", "False", "FALSE"].contains s then some false
  else none

def digitValue? (c : Char) : Option Nat :=
  if c.isDigit then some (c.toNat - '0'.toNat)
  else if 'a' ≤ c && c ≤ 'z' then some (c.toNat - 'a'.toNat + 10)
  else if 'A' ≤ c && c ≤ 'Z' then some (c.toNat - 'A'.toNat + 10)
  else none

/-- The value of digits in a base. -/
def inBase? (base : Nat) (s : List Char) : Option Nat :=
  if s.isEmpty then none
  else s.foldlM (fun n c => do
    let d ← digitValue? c
    if d < base then some (n * base + d) else none) 0

/-- Leading zero followed by digits only: an identifier, not a number. -/
def isPadded (s : List Char) : Bool :=
  let t := match s with
    | '-' :: t => t
    | '+' :: t => t
    | t => t
  match t with
  | '0' :: rest => !rest.isEmpty && rest.all Char.isDigit
  | _ => false

def startsWithSign : List Char → Bool
  | '-' :: _ => true
  | '+' :: _ => true
  | _ => false

/-- The size of an integer, hexadecimal, octal or binary ones included, without its sign. -/
def magnitude? (s : List Char) : Option Nat :=
  match s with
  | '0' :: 'x' :: t => inBase? 16 t
  | '0' :: 'o' :: t => inBase? 8 t
  | '0' :: 'b' :: t => inBase? 2 t
  | t => inBase? 10 t

/-- An integer that is not negative. -/
def natural? (s : List Char) : Option Nat :=
  let t := (Text.dropStart? ['+'] s).getD s
  if startsWithSign t || isPadded s then none else magnitude? t

/-- An integer with a minus sign before it, as the number that the sign negates. -/
def opposite? (s : List Char) : Option Nat :=
  match s with
  | '-' :: t => if startsWithSign t || isPadded s then none else magnitude? t
  | _ => none

def float? (s : List Char) : Option Binary64 :=
  let t := (Text.dropStart? ['+'] s).getD s
  if t.length != s.length && startsWithSign t then none
  else if [".inf", ".Inf", ".INF"].contains (String.ofList t) then some (.infinity false)
  else if ["-.inf", "-.Inf", "-.INF"].contains (String.ofList s) then some (.infinity true)
  else if [".nan", ".NaN", ".NAN"].contains (String.ofList s) then some .nan
  else (Decimal.read? t).filter (·.isFinite)

/-- A number as data; data has no place for infinities and NaN. -/
def floatValue (x : Binary64) : Value := if x.isFinite then .number (.float x) else .null

/-- The value of a number that is too wide for an integer but may do as a float. -/
def wide? (s : List Char) (fits : Bool) : Option Value :=
  if fits then none
  else some (match float? s with
    | some x => floatValue x
    | none => .text (String.ofList s))

/-- The value of an unquoted scalar; none if it is an integer that no value can hold. -/
def value? (s : String) : Option Value :=
  let cs := s.toList
  if isNull s then some .null
  else match bool? s with
    | some b => some (.bool b)
    | none =>
      match natural? cs, opposite? cs with
      | some n, _ =>
        if n < Nat.pow 2 64 then some (.number (.int n)) else wide? cs (n < Nat.pow 2 128)
      | none, some n =>
        if n ≤ Nat.pow 2 63 then some (.number (.int (-n))) else wide? cs (n ≤ Nat.pow 2 127)
      | none, none =>
        if isPadded cs then some (.text s)
        else match float? cs with
          | some x => some (floatValue x)
          | none => some (.text s)

end DeviceLint.Scalar
