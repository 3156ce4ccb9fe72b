/-
Plain data: the values that rules, helpers and settings are made of.

Integers and double-precision numbers are kept apart, since `1` and `1.0` are written
differently.  The fields of an object are kept in ascending order of their names and
no name occurs twice; `Fields.insert` is the only way fields are added, and a later
value replaces an earlier one.
-/
import DeviceLint.Number.Decimal

namespace DeviceLint

/-- A number in data: an integer of at most 64 bits, or a finite double. -/
inductive Number where
  | int (value : Int)
  | float (value : Binary64)
  deriving DecidableEq, Repr

namespace Number

def ofNat (n : Nat) : Number := .int n

def toBinary64 : Number → Binary64
  | .int i => Binary64.ofInt i
  | .float x => x

def text : Number → String
  | .int i => toString i
  | .float x => Decimal.write x

end Number

inductive Value where
  | null
  | bool (value : Bool)
  | number (value : Number)
  | text (value : String)
  | array (items : List Value)
  | object (fields : List (String × Value))
  deriving Repr

/-- Named members in ascending order of their names. -/
abbrev Fields (α : Type) := List (String × α)

namespace Fields

/-- Adds a member, in place of one of the same name. -/
def insert {α : Type} (name : String) (value : α) : Fields α → Fields α
  | [] => [(name, value)]
  | (n, v) :: rest =>
    if name < n then (name, value) :: (n, v) :: rest
    else if name == n then (name, value) :: rest
    else (n, v) :: insert name value rest

/-- Members collected from any order; of two with one name the later stays. -/
def ofList {α : Type} (members : List (String × α)) : Fields α :=
  members.foldl (fun fields (n, v) => insert n v fields) []

def get? {α : Type} (name : String) (fields : Fields α) : Option α := fields.lookup name

end Fields

namespace Value

def nat (n : Nat) : Value := .number (.ofNat n)

def ofOption : Option String → Value
  | none => .null
  | some s => .text s

def texts (ss : List String) : Value := .array (ss.map .text)

/-- An object whose members are given in any order. -/
def record (members : List (String × Value)) : Value := .object (Fields.ofList members)

/-- The member of an object; other values have none. -/
def get? (name : String) : Value → Option Value
  | .object fields => fields.lookup name
  | _ => none

def bool? : Value → Option Bool
  | bool b => some b
  | _ => none

def text? : Value → Option String
  | text s => some s
  | _ => none

def array? : Value → Option (List Value)
  | array items => some items
  | _ => none

def toBinary64? : Value → Option Binary64
  | .number n => some n.toBinary64
  | _ => none

/-- The text of a value that is neither null nor composed of others. -/
def scalarText? : Value → Option String
  | .text s => some s
  | .number n => some n.text
  | .bool b => some (if b then "true" else "false")
  | _ => none

/-- Null, false, zero, and whatever is empty count as false; all else counts as true. -/
def truthy : Value → Bool
  | .null => false
  | .bool b => b
  | .number n => !n.toBinary64.isZero
  | .text s => !s.isEmpty
  | .array items => !items.isEmpty
  | .object fields => !fields.isEmpty

end Value

end DeviceLint
