/-
Conditions as data.

A condition is an object whose `type` says what the other members mean; no member may be
there that its type does not have.  The one exception is `negate`, which every condition
may have.  It is looked at first and then left aside, so a member of that name never
reaches the rest.

Members are read in the order of their names, and a condition inside another one is read
where its member is reached; of several errors the first in that order counts.

A condition may also be a list of its type and the members after it, without their names and
in their own order, of which the last may be left out if they need not be there.  Such a list
has no place for `negate`.
-/
import DeviceLint.Condition.Basic
import DeviceLint.Data.Decode

namespace DeviceLint

namespace MatchMode

def decode : Decoder MatchMode :=
  Decode.oneOf ([contains, exact, start, regex].map fun m => (m.name, m))

end MatchMode

namespace MatchTarget

def decode : Decoder MatchTarget := Decode.oneOf ([id, raw].map fun t => (t.name, t))

end MatchTarget

namespace Operator

def all : List Operator := [eq, ne, contains, startsWith, endsWith, matchesRegex, gt, ge, lt, le,
  isIn, isPresent]

def decode : Decoder Operator := Decode.oneOf (all.map fun op => (op.name, op))

end Operator

namespace Condition

/-- What `type` can say. -/
inductive Kind where
  | text
  | hasChild
  | lacksChild
  | helper
  | field
  | all
  | any
  | not
  deriving DecidableEq, Repr

namespace Kind

def name : Kind → String
  | text => "match"
  | hasChild => "child_exists"
  | lacksChild => "child_not_exists"
  | helper => "helper"
  | field => "expr"
  | all => "and"
  | any => "or"
  | not => "not"

def choices : List (String × Kind) :=
  [text, hasChild, lacksChild, helper, field, all, any, not].map fun k => (k.name, k)

/-- The members a condition has besides its type. -/
def fields : Kind → List String
  | text => ["pattern", "mode", "target", "ignore_case"]
  | hasChild => ["selector"]
  | lacksChild => ["selector"]
  | helper => ["helper", "args"]
  | field => ["field", "op", "value"]
  | all => ["conditions"]
  | any => ["conditions"]
  | not => ["condition"]

/-- The members that must be there. -/
def required : Kind → List String
  | text => ["pattern"]
  | hasChild => ["selector"]
  | lacksChild => ["selector"]
  | helper => ["helper"]
  | field => ["field", "op"]
  | all => ["conditions"]
  | any => ["conditions"]
  | not => ["condition"]

/-- How messages call a condition. -/
def title : Kind → String
  | text => "struct variant CheckKind::Match"
  | hasChild => "struct variant CheckKind::ChildExists"
  | lacksChild => "struct variant CheckKind::ChildNotExists"
  | helper => "struct variant CheckKind::Helper"
  | field => "struct variant CheckKind::Expr"
  | all => "struct variant CheckKind::And"
  | any => "struct variant CheckKind::Or"
  | not => "struct variant CheckKind::Not"

def shape (k : Kind) : Decode.Shape where
  title := k.title
  fields := k.fields
  required := k.required
  closed := true

/-- The kind that a type names. -/
def ofValue : Value → Except DecodeError Kind
  | .text s =>
    match choices.lookup s with
    | some k => .ok k
    | none => .error (.unknownVariant s (choices.map (·.1)))
  | v => .error (.wrongType (Found.ofScalar v) "variant identifier")

end Kind

/-- The members of a condition read so far. -/
structure Draft where
  /-- A pattern, a selector, or the name of a helper or a field. -/
  subject : Option String := none
  mode : MatchMode := .contains
  target : MatchTarget := .id
  ignoreCase : Option Bool := none
  args : Option (List Value) := none
  op : Option Operator := none
  value : Option Value := none
  conditions : Option (List Condition) := none

namespace Draft

/-- Reads a member that holds no condition. -/
def put (d : Draft) (name : String) (v : Value) : Except DecodeError Draft :=
  let doc := Document.ofValue v
  if name == "mode" then return { d with mode := ← MatchMode.decode doc }
  else if name == "target" then return { d with target := ← MatchTarget.decode doc }
  else if name == "ignore_case" then
    return { d with ignoreCase := ← Decode.optional Decode.bool doc }
  else if name == "args" then
    return { d with args := ← Decode.optional (Decode.listOf Decode.value) doc }
  else if name == "op" then return { d with op := some (← Operator.decode doc) }
  else if name == "value" then
    return { d with value := ← Decode.optional Decode.value doc }
  else return { d with subject := some (← Decode.string doc) }

def required {α : Type} (name : String) : Option α → Except DecodeError α
  | some a => .ok a
  | none => .error (.missingField name)

/-- The condition, if no member of its kind is missing. -/
def finish (d : Draft) (negated : Bool) : Kind → Except DecodeError Condition
  | .text => do
    return test negated (.text (← required "pattern" d.subject) d.mode d.target d.ignoreCase)
  | .hasChild => do return test negated (.hasChild (← required "selector" d.subject))
  | .lacksChild => do return test negated (.lacksChild (← required "selector" d.subject))
  | .helper => do return test negated (.helper (← required "helper" d.subject) d.args)
  | .field => do
    let name ← required "field" d.subject
    let op ← required "op" d.op
    return test negated (.field name op d.value)
  | .all => do return all negated (← required "conditions" d.conditions)
  | .any => do return any negated (← required "conditions" d.conditions)
  | .not => do
    match d.conditions with
    | some [c] => return not negated c
    | _ => .error (.missingField "condition")

end Draft

/-- Whether the members of a condition negate it. -/
def negationOf (fields : Fields Value) : Except DecodeError Bool :=
  match fields.lookup "negate" with
  | none => .ok false
  | some (.bool b) => .ok b
  | some v => .error (.negateNotBoolean v)

mutual

def decode : Value → Except DecodeError Condition
  | .object fields => do
    let negated ← negationOf fields
    match fields.lookup "type" with
    | none => .error (.missingField "type")
    | some v =>
      let kind ← Kind.ofValue v
      let draft ← decodeMembers kind {} fields
      draft.finish negated kind
  | .array [] => .error (.missingField "type")
  | .array (v :: items) => do
    let kind ← Kind.ofValue v
    let draft ← decodePositions {} kind.fields items
    kind.shape.checkLength items.length (Decode.elements kind.fields.length ++ " in sequence")
    draft.finish false kind
  | v => .error (.wrongType (Found.ofScalar v) "internally tagged enum CheckKind")

def decodeAll : List Value → Except DecodeError (List Condition)
  | [] => .ok []
  | v :: vs => do
    let c ← decode v
    return c :: (← decodeAll vs)

/-- The conditions that another one joins. -/
def decodeJoined : Value → Except DecodeError (List Condition)
  | .array items => decodeAll items
  | v => .error (.wrongType (Found.ofScalar v) "a sequence")

/-- Reads a member of a condition. -/
def decodeMember (d : Draft) (name : String) (v : Value) : Except DecodeError Draft :=
  if name == "condition" then do return { d with conditions := some [← decode v] }
  else if name == "conditions" then do return { d with conditions := some (← decodeJoined v) }
  else d.put name v

/-- Reads the members of a condition one after the other. -/
def decodeMembers (kind : Kind) (d : Draft) :
    List (String × Value) → Except DecodeError Draft
  | [] => .ok d
  | (name, v) :: rest =>
    if name == "type" || name == "negate" then decodeMembers kind d rest
    else if !kind.fields.contains name then .error (.unknownField name kind.fields)
    else do decodeMembers kind (← decodeMember d name v) rest

/-- Reads the members of a condition that stand in a list, without their names. -/
def decodePositions (d : Draft) : List String → List Value → Except DecodeError Draft
  | name :: names, v :: vs => do decodePositions (← decodeMember d name v) names vs
  | _, _ => .ok d

end

/-- A condition in a document. -/
def decodeDocument : Decoder Condition := fun d => Decode.value d >>= decode

/-! ### Writing -/

/-- The members of a test, its type included. -/
def encodeTest : Test → List (String × Value)
  | .text pattern mode target ignoreCase =>
    [("type", .text Kind.text.name), ("pattern", .text pattern), ("mode", .text mode.name),
      ("target", .text target.name),
      ("ignore_case", (ignoreCase.map Value.bool).getD .null)]
  | .hasChild selector => [("type", .text Kind.hasChild.name), ("selector", .text selector)]
  | .lacksChild selector => [("type", .text Kind.lacksChild.name), ("selector", .text selector)]
  | .helper name args =>
    [("type", .text Kind.helper.name), ("helper", .text name),
      ("args", (args.map Value.array).getD .null)]
  | .field name op value =>
    [("type", .text Kind.field.name), ("field", .text name), ("op", .text op.name),
      ("value", value.getD .null)]

/-- An object for a condition; only a negated one says whether it is. -/
def record (negated : Bool) (members : List (String × Value)) : Value :=
  .record (members ++ if negated then [("negate", .bool true)] else [])

mutual

def encode : Condition → Value
  | test negated t => record negated (encodeTest t)
  | all negated conditions => record negated
      [("type", .text Kind.all.name), ("conditions", .array (encodeAll conditions))]
  | any negated conditions => record negated
      [("type", .text Kind.any.name), ("conditions", .array (encodeAll conditions))]
  | not negated condition =>
    record negated [("type", .text Kind.not.name), ("condition", encode condition)]

def encodeAll : List Condition → List Value
  | [] => []
  | c :: cs => encode c :: encodeAll cs

end

end Condition

end DeviceLint
