/-
Documents: what a settings or rule file says before anyone decides what it means.

A document differs from a value in four ways.  The members of a map keep their order
and may repeat, so that a reader of records can refuse repetitions.  A key need not be
a string.  An unquoted scalar stays the text it is: wanted as a string it is that text,
and only where any value will do is it looked at as a number or a truth value.  And what
is written well but is nothing that could be read, such as a number that is too large,
has a place in a document, since a record may pass over the member it stands in.
-/
import DeviceLint.Data.Value

namespace DeviceLint

inductive Document where
  | null
  | bool (value : Bool)
  | number (value : Number)
  | text (value : String)
  /-- An unquoted scalar. -/
  | plain (value : String)
  /-- A node under an explicit type, such as `!!int` or `!local`. -/
  | tagged (tag : String) (node : Document)
  | list (items : List Document)
  | map (members : List (Document × Document))
  /-- What can be passed over, but not read. -/
  | unfit
  deriving Repr

namespace Document

mutual

/-- A value as a document. -/
def ofValue : Value → Document
  | .null => .null
  | .bool b => .bool b
  | .number n => .number n
  | .text s => .text s
  | .array items => .list (ofItems items)
  | .object fields => .map (ofFields fields)

def ofItems : List Value → List Document
  | [] => []
  | v :: vs => ofValue v :: ofItems vs

def ofFields : List (String × Value) → List (Document × Document)
  | [] => []
  | (name, v) :: rest => (.text name, ofValue v) :: ofFields rest

end

end Document

end DeviceLint
