/-
From documents to records.

Every decoder says what it expected where something else stands.  A record is read
member by member, in the order the members stand; one that is unknown is an error or is
passed over, as the record has it, and one that occurs twice is an error always.  Only
after the last member is a missing one reported, and then the first of the record's own
order.
-/
import DeviceLint.Data.Document
import DeviceLint.Data.Json
import DeviceLint.Data.Scalar
import DeviceLint.Data.Table
import DeviceLint.Text.Quoted

namespace DeviceLint

/-- What stands in the place of something else. -/
inductive Found where
  | null
  | bool (value : Bool)
  | number (value : Number)
  | text (value : String)
  | list
  | map
  | unfit

namespace Found

def description : Found → String
  | .null => "null"
  | .bool b => s!"boolean `{b}`"
  | .number (.int i) => s!"integer `{i}`"
  | .number (.float x) => s!"floating point `{Decimal.write x}`"
  | .text s => "string " ++ quoted s
  | .list => "sequence"
  | .map => "map"
  | .unfit => "something that cannot be read"

def ofScalar : Value → Found
  | .null => .null
  | .bool b => .bool b
  | .number n => .number n
  | .text s => .text s
  | .array _ => .list
  | .object _ => .map

def ofDocument : Document → Found
  | .null => .null
  | .bool b => .bool b
  | .number n => .number n
  | .text s => .text s
  | .plain s => ofScalar ((Scalar.value? s).getD (.text s))
  | .tagged _ d => ofDocument d
  | .list _ => .list
  | .map _ => .map
  | .unfit => .unfit

end Found

/-- Why a document is not what was expected. -/
inductive DecodeError where
  | wrongType (found : Found) (expected : String)
  | wrongValue (found : Found) (expected : String)
  | wrongLength (length : Nat) (expected : String)
  | unknownVariant (name : String) (known : List String)
  | unknownField (name : String) (known : List String)
  | duplicateField (name : String)
  | missingField (name : String)
  /-- None of the forms of this type fits. -/
  | noForm (type : String)
  /-- The switch that negates a condition holds something else than a truth value. -/
  | negateNotBoolean (found : Value)

namespace DecodeError

/-- The names that would have been right. -/
def alternatives : List String → String
  | [] => "there are none"
  | [a] => s!"expected `{a}`"
  | [a, b] => s!"expected `{a}` or `{b}`"
  | names => "expected one of " ++ ", ".intercalate (names.map fun n => s!"`{n}`")

def message : DecodeError → String
  | .wrongType found expected => s!"invalid type: {found.description}, expected {expected}"
  | .wrongValue found expected => s!"invalid value: {found.description}, expected {expected}"
  | .wrongLength n expected => s!"invalid length {n}, expected {expected}"
  | .unknownVariant name known => s!"unknown variant `{name}`, {alternatives known}"
  | .unknownField name known =>
    if known.isEmpty then s!"unknown field `{name}`, there are no fields"
    else s!"unknown field `{name}`, {alternatives known}"
  | .duplicateField name => s!"duplicate field `{name}`"
  | .missingField name => s!"missing field `{name}`"
  | .noForm type => s!"data did not match any variant of untagged enum {type}"
  | .negateNotBoolean found => s!"`negate` must be a boolean, found {Json.write found}"

end DecodeError

/-- A reader of documents. -/
abbrev Decoder (α : Type) := Document → Except DecodeError α

namespace Document

/-- Null, or an unquoted scalar that means it. -/
def isNull : Document → Bool
  | .null => true
  | .plain s => Scalar.isNull s
  | .tagged _ d => isNull d
  | _ => false

/-- An unquoted scalar with nothing in it, which may stand for an empty list or record. -/
def isBlank : Document → Bool
  | .plain s => s.isEmpty
  | _ => false

/-- The value of a scalar under a type of the core schema; a local type fits no value. -/
def taggedValue? (tag : String) (s : String) : Option Value :=
  let cs := s.toList
  if tag == "tag:yaml.org,2002:bool" then (Scalar.bool? s).map .bool
  else if tag == "tag:yaml.org,2002:int" then
    match Scalar.natural? cs, Scalar.opposite? cs with
    | some n, _ => if n < Nat.pow 2 64 then some (.number (.int n)) else none
    | none, some n => if n ≤ Nat.pow 2 63 then some (.number (.int (-n))) else none
    | none, none => none
  else if tag == "tag:yaml.org,2002:float" then (Scalar.float? cs).map Scalar.floatValue
  else if tag == "tag:yaml.org,2002:null" then
    if !s.isEmpty && Scalar.isNull s then some .null else none
  else if "!".isPrefixOf tag then none
  else some (.text s)

mutual

/-- The value a document holds.  Keys are taken as strings, and of two equal ones the later
stays. -/
def toValue? : Document → Option Value
  | .null => some .null
  | .bool b => some (.bool b)
  | .number n => some (.number n)
  | .text s => some (.text s)
  | .plain s => Scalar.value? s
  | .tagged tag (.plain s) => taggedValue? tag s
  | .tagged tag (.text s) => taggedValue? tag s
  | .tagged tag d => if "!".isPrefixOf tag then none else toValue? d
  | .list items => (toValues? items).map .array
  | .map members => (toFields? members).map fun fields => .object (Fields.ofList fields)
  | .unfit => none

def toValues? : List Document → Option (List Value)
  | [] => some []
  | d :: ds => do return (← toValue? d) :: (← toValues? ds)

def toFields? : List (Document × Document) → Option (List (String × Value))
  | [] => some []
  | (.text name, d) :: rest => do return (name, ← toValue? d) :: (← toFields? rest)
  | (.plain name, d) :: rest => do return (name, ← toValue? d) :: (← toFields? rest)
  | _ => none

end

end Document

namespace Decode

def fail {α : Type} (d : Document) (expected : String) : Except DecodeError α :=
  .error (.wrongType (Found.ofDocument d) expected)

def value : Decoder Value := fun d =>
  match d.toValue? with
  | some v => .ok v
  | none => fail d "any valid JSON value"

/-- A string, as messages call it; an unquoted scalar is the text it is written as. -/
def stringAs (expected : String) : Decoder String
  | .text s => .ok s
  | .plain s => .ok s
  | .tagged _ d => stringAs expected d
  | d => fail d expected

def string : Decoder String := stringAs "a string"

def path : Decoder String := stringAs "path string"

def bool : Decoder Bool
  | .bool b => .ok b
  | .tagged _ d => bool d
  | .plain s =>
    match Scalar.bool? s with
    | some b => .ok b
    | none => fail (.plain s) "a boolean"
  | d => fail d "a boolean"

/-- A count. -/
def nat : Decoder Nat
  | .number (.int i) =>
    if 0 ≤ i then .ok i.toNat else .error (.wrongValue (.number (.int i)) "usize")
  | .tagged _ d => nat d
  | .plain s =>
    match (Scalar.natural? s.toList).filter (· < Text.indexLimit) with
    | some n => .ok n
    | none => fail (.plain s) "usize"
  | d => fail d "usize"

/-- What may be left open by null. -/
def optional {α : Type} (decode : Decoder α) : Decoder (Option α) := fun d =>
  if d.isNull then .ok none else (decode d).map some

def listOf {α : Type} (decode : Decoder α) : Decoder (List α)
  | .list items => items.mapM decode
  | .tagged _ d => listOf decode d
  | d => if d.isBlank then .ok [] else fail d "a sequence"

def strings : Decoder (List String) := listOf string

/-- A map with arbitrary names. -/
def tableOf {α : Type} (decode : Decoder α) : Decoder (Table α)
  | .map members =>
    members.foldlM (fun table (k, d) => do
      return table.insert (← string k) (← decode d)) .empty
  | .tagged _ d => tableOf decode d
  | d => if d.isBlank then .ok .empty else fail d "a map"

/-- One of several names.  A name may also stand as the only key of a map, over null. -/
def oneOf {α : Type} (choices : List (String × α)) : Decoder α := fun d =>
  let pick (name : String) : Except DecodeError α :=
    match choices.lookup name with
    | some a => .ok a
    | none => .error (.unknownVariant name (choices.map (·.1)))
  match d with
  | .text s => pick s
  | .plain s => pick s
  | .map [(.text name, body)] => do
    let a ← pick name
    if body.isNull then return a else fail body "unit"
  | .map _ => .error (.wrongValue .map "map with a single key")
  | .tagged tag body =>
    match tag.toList with
    | '!' :: name => do
      let a ← pick (String.ofList name)
      if body.isNull then return a else fail body "unit"
    | _ => string body >>= pick
  | d => fail d "string or map"

/-- What a record consists of. -/
structure Shape where
  /-- How messages call it. -/
  title : String
  /-- Its fields in their own order. -/
  fields : List String
  /-- Those that must be there. -/
  required : List String
  /-- Whether members with other names are errors. -/
  closed : Bool

def elements (n : Nat) : String := if n == 1 then "1 element" else s!"{n} elements"

namespace Shape

/-- Where a list of so many fields, without their names, first lacks one that must be there. -/
def lacking? (shape : Shape) (length : Nat) : Option Nat :=
  ((shape.fields.drop length).findIdx? shape.required.contains).map (length + ·)

/-- Whether a list of so many fields is neither too short nor too long. -/
def checkLength (shape : Shape) (length : Nat) (fewer : String) : Except DecodeError Unit :=
  match shape.lacking? length with
  | some i => .error (.wrongLength i s!"{shape.title} with {elements shape.fields.length}")
  | none => if shape.fields.length < length then .error (.wrongLength length fewer) else .ok ()

end Shape

/-- Puts one named member into a record. -/
abbrev Put (σ : Type) := String → Document → σ → Except DecodeError σ

/-- Reads the members of a record one after the other; `seen` are the fields read so far. -/
def members {σ : Type} (shape : Shape) (put : Put σ) :
    List String → σ → List (Document × Document) → Except DecodeError (σ × List String)
  | seen, record, [] => .ok (record, seen)
  | seen, record, (key, d) :: rest => do
    let name ← string key
    if shape.fields.contains name then
      if seen.contains name then .error (.duplicateField name)
      else members shape put (name :: seen) (← put name d record) rest
    else if shape.closed then .error (.unknownField name shape.fields)
    else members shape put seen record rest

/-- Reads a record whose members stand in a list, without their names. -/
def positions {σ : Type} (put : Put σ) : List String → σ → List Document → Except DecodeError σ
  | name :: names, record, d :: ds => do positions put names (← put name d record) ds
  | _, record, _ => .ok record

/-- Reads a record, starting from one whose fields have their defaults. -/
def record {σ : Type} (shape : Shape) (put : Put σ) (start : σ) : Decoder σ
  | .map ms => do
    let (record, seen) ← members shape put [] start ms
    match shape.required.find? (!seen.contains ·) with
    | some name => .error (.missingField name)
    | none => return record
  | .list items => do
    let record ← positions put shape.fields start items
    shape.checkLength items.length "fewer elements in array"
    return record
  | .tagged _ d => record shape put start d
  | d =>
    if d.isBlank then
      match shape.required with
      | name :: _ => .error (.missingField name)
      | [] => .ok start
    else fail d shape.title

end Decode

end DeviceLint
