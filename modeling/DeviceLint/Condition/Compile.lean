/-
From conditions to predicates.

Everything that can be wrong with a condition is found here, wherever in the condition it
stands and whether or not it would ever be looked at: unknown helpers and fields, invalid
regular expressions, operands of the wrong kind.  What is left to go wrong afterwards are
the helpers themselves, when they are called.  Which regular expressions are invalid, and
what the others match, is left to the engine.

A predicate joins its parts from left to right and stops at the first that settles it,
so an error in a later part may go unnoticed.
-/
import DeviceLint.Condition.Basic
import DeviceLint.Data.Json
import DeviceLint.Helper.Basic
import DeviceLint.Matching

namespace DeviceLint

/-- What an operand was expected to be. -/
inductive OperandFault where
  | notBoolean
  | notScalar
  | notRegex
  | notNumber
  | notArray
  | emptyPattern
  | unknownReference (found : Value)

namespace OperandFault

def message : OperandFault → String
  | notBoolean => "expected a boolean"
  | notScalar => "expected a scalar"
  | notRegex => "expected a regex string"
  | notNumber => "expected a number"
  | notArray => "expected an array"
  | emptyPattern => "pattern must not be empty"
  | unknownReference found => s!"unknown reference {Json.write found}"

end OperandFault

inductive CompileError where
  | helper (e : HelperError)
  | invalidRegex (pattern reason : String)
  | unknownField (name : String)
  | missingValue (op : Operator)
  | invalidValue (op : String) (fault : OperandFault)

namespace CompileError

def message : CompileError → String
  | helper e => e.message
  | invalidRegex pattern reason => s!"Invalid regex '{pattern}': {reason}"
  | unknownField name => s!"Unknown field '{name}'"
  | missingValue op => s!"Operator '{op.name}' requires a value"
  | invalidValue op fault => s!"Invalid value for '{op}': {fault.message}"

end CompileError

/-- A test of a node in its context; the only errors are those of helpers. -/
abbrev Predicate := Node → Context → Except HelperError Bool

/-! ### Texts -/

/-- The search for a pattern in texts in which letter case counts, and in those in which it does
not. -/
structure RegexPair where
  sensitive : String → Bool
  insensitive : String → Bool

namespace RegexPair

def ofPattern (engine : RegexEngine) (pattern : String) : Except CompileError RegexPair := do
  let sensitive ← (engine.compile false pattern).mapError (.invalidRegex pattern)
  let insensitive ← (engine.compile true pattern).mapError (.invalidRegex pattern)
  return ⟨sensitive, insensitive⟩

def isFoundIn (r : RegexPair) (ignoreCase : Bool) (subject : String) : Bool :=
  if ignoreCase then r.insensitive subject else r.sensitive subject

end RegexPair

/-- Compares two texts as they are, or both in lower case. -/
def comparing (test : List Char → List Char → Bool) (ignoreCase : Bool)
    (subject pattern : String) : Bool :=
  if ignoreCase then test (Text.lower subject.toList) (Text.lower pattern.toList)
  else test subject.toList pattern.toList

def textContains : Bool → String → String → Bool := comparing Text.contains

def textEquals : Bool → String → String → Bool := comparing (· == ·)

def textStartsWith : Bool → String → String → Bool := comparing fun s p => p.isPrefixOf s

def textEndsWith : Bool → String → String → Bool := comparing fun s p => p.isSuffixOf s

namespace MatchTarget

def read : MatchTarget → Node → String
  | id, n => n.id
  | raw, n => n.raw

/-- A pattern as it is looked for: in ids, blanks are single. -/
def pattern (t : MatchTarget) (s : String) : String :=
  match t with
  | id => String.ofList (Text.collapse s.toList)
  | raw => s

end MatchTarget

/-- How a text matches, given whether case is ignored. -/
def textMatcher (engine : RegexEngine) (pattern : String) (target : MatchTarget) :
    MatchMode → Except CompileError (Bool → String → Bool)
  | .contains => .ok fun ignoreCase s => textContains ignoreCase s (target.pattern pattern)
  | .exact => .ok fun ignoreCase s => textEquals ignoreCase s (target.pattern pattern)
  | .start => .ok fun ignoreCase s => textStartsWith ignoreCase s (target.pattern pattern)
  | .regex => do return (← RegexPair.ofPattern engine pattern).isFoundIn

def compileText (engine : RegexEngine) (pattern : String) (mode : MatchMode) (target : MatchTarget)
    (ignoreCase : Option Bool) : Except CompileError Predicate :=
  if pattern.isEmpty then .error (.invalidValue "match" .emptyPattern)
  else do
    let matcher ← textMatcher engine pattern target mode
    return fun n c => .ok (matcher (ignoreCase.getD !c.caseSensitive) (target.read n))

/-! ### Helpers -/

/-- An argument before the node is known. -/
inductive ArgumentSpec where
  | node
  | context
  | literal (v : Value)

namespace ArgumentSpec

/-- What an argument in a condition stands for: an object with the one member `$ref` is a
reference, and everything else is itself. -/
def ofValue (v : Value) : Except CompileError ArgumentSpec :=
  match v with
  | .object [("$ref", .text "node")] => .ok node
  | .object [("$ref", .text "context")] => .ok context
  | .object [("$ref", other)] => .error (.invalidValue "$ref" (.unknownReference other))
  | v => .ok (literal v)

def argument (n : Node) (c : Context) : ArgumentSpec → Argument
  | node => .node n
  | context => .context c
  | literal v => .value v

end ArgumentSpec

def compileHelper (helpers : HelperRegistry) (name : String) (args : Option (List Value)) :
    Except CompileError Predicate := do
  let helper ← (helpers.resolve name).mapError .helper
  let specs ← match args with
    | some args => args.mapM ArgumentSpec.ofValue
    | none => pure [.node]
  return fun n c => (helper.call c (specs.map (·.argument n c))).map Value.truthy

/-! ### Fields -/

/-- A field of a node that a condition may compare. -/
inductive NodeField where
  | id
  | raw
  | type
  | childCount
  | paramCount
  | param (i : Nat)
  | firstLine
  | lastLine
  deriving DecidableEq, Repr

namespace NodeField

def ofName? (name : String) : Option NodeField :=
  match name with
  | "id" => some id
  | "raw_text" => some raw
  | "type" => some type
  | "child_count" => some childCount
  | "param_count" => some paramCount
  | "start_line" => some firstLine
  | "end_line" => some lastLine
  | name => do
    let index ← Text.dropStart? "params.".toList name.toList
    return param (← Text.numeral? Text.indexLimit index)

/-- The field's value; only a parameter may be missing. -/
def read? (n : Node) : NodeField → Option Value
  | id => some (.text n.id)
  | raw => some (.text n.raw)
  | type => some (.text n.kind.name)
  | childCount => some (.nat n.children.length)
  | paramCount => some (.nat n.params.length)
  | param i => (n.param? i).map .text
  | firstLine => some (.nat n.span.first)
  | lastLine => some (.nat n.span.last)

end NodeField

/-- A value as a number: a number, or a text that reads as one. -/
def numberOf? : Value → Option Binary64
  | .number n => some n.toBinary64
  | .text s => Decimal.read? (Text.trim s.toList)
  | _ => none

/-- Whether a field's value is what a condition says: by number if the condition says a number
and the field reads as one, and by text otherwise. -/
def sameFieldValue (ignoreCase : Bool) (actual expected : Value) : Bool :=
  match numberOf? actual, expected.toBinary64? with
  | some a, some b => a.sameValue b
  | _, _ =>
    match actual.scalarText?, expected.scalarText? with
    | some a, some b => textEquals ignoreCase a b
    | _, _ => false

/-- An operator with an operand that fits it. -/
inductive Comparison where
  | eq (v : Value)
  | ne (v : Value)
  /-- A comparison of texts. -/
  | text (test : Bool → String → Bool)
  /-- A comparison of numbers. -/
  | ordered (test : Binary64 → Bool)
  | isIn (vs : List Value)
  | isPresent (wanted : Bool)

namespace Comparison

/-- Whether a comparison holds of a field's value.  A field that is missing is only different
from everything and not present. -/
def holds (ignoreCase : Bool) (comparison : Comparison) (actual : Option Value) : Bool :=
  match actual with
  | none =>
    match comparison with
    | ne _ => true
    | isPresent wanted => !wanted
    | _ => false
  | some actual =>
    match comparison with
    | eq v => sameFieldValue ignoreCase actual v
    | ne v => !sameFieldValue ignoreCase actual v
    | text test => test ignoreCase (actual.scalarText?.getD "")
    | ordered test => (numberOf? actual).any test
    | isIn vs => vs.any (sameFieldValue ignoreCase actual)
    | isPresent wanted => wanted

end Comparison

/-- What is made of an operand, or the error that it is not one. -/
def operand {α : Type} (op : Operator) (fault : OperandFault) : Option α → Except CompileError α
  | some a => .ok a
  | none => .error (.invalidValue op.name fault)

/-- An operator that has an operand. -/
def comparisonWith (engine : RegexEngine) (op : Operator) (v : Value) :
    Except CompileError Comparison :=
  let number (test : Binary64 → Binary64 → Bool) : Except CompileError Comparison := do
    let bound ← operand op .notNumber v.toBinary64?
    return .ordered (test · bound)
  let text (test : Bool → String → String → Bool) : Except CompileError Comparison := do
    let pattern ← operand op .notScalar v.scalarText?
    return .text fun ignoreCase s => test ignoreCase s pattern
  match op with
  | .eq => .ok (.eq v)
  | .ne => .ok (.ne v)
  | .contains => text textContains
  | .startsWith => text textStartsWith
  | .endsWith => text textEndsWith
  | .matchesRegex => do
    let pattern ← operand op .notRegex v.text?
    return .text (← RegexPair.ofPattern engine pattern).isFoundIn
  | .gt => number fun a b => b.lt a
  | .ge => number fun a b => b.le a
  | .lt => number fun a b => a.lt b
  | .le => number fun a b => a.le b
  | .isIn => do return .isIn (← operand op .notArray v.array?)
  | .isPresent => do return .isPresent (← operand op .notBoolean v.bool?)

/-- An operator with or without an operand; only presence can do without. -/
def comparison (engine : RegexEngine) (op : Operator) (value : Option Value) :
    Except CompileError Comparison :=
  match value with
  | some v => comparisonWith engine op v
  | none => if op == .isPresent then .ok (.isPresent true) else .error (.missingValue op)

def compileField (engine : RegexEngine) (name : String) (op : Operator) (value : Option Value) :
    Except CompileError Predicate :=
  match NodeField.ofName? name with
  | none => .error (.unknownField name)
  | some field => do
    let comparison ← comparison engine op value
    return fun n c => .ok (comparison.holds (!c.caseSensitive) (field.read? n))

/-! ### Conditions -/

namespace Predicate

def negate (p : Predicate) : Predicate := fun n c => (p n c).map not

/-- The predicate, or its negation. -/
def negateIf (negated : Bool) (p : Predicate) : Predicate := if negated then p.negate else p

/-- Holds if all of the predicates do, asked in turn up to the first that does not. -/
def all (ps : List Predicate) : Predicate := fun n c => ps.allM (· n c)

/-- Holds if any of the predicates does, asked in turn up to the first that does. -/
def any (ps : List Predicate) : Predicate := fun n c => ps.anyM (· n c)

end Predicate

namespace Condition

def compileTest (engine : RegexEngine) (helpers : HelperRegistry) :
    Test → Except CompileError Predicate
  | .text pattern mode target ignoreCase => compileText engine pattern mode target ignoreCase
  | .hasChild selector => .ok fun n _ => .ok (n.hasChildStarting selector)
  | .lacksChild selector => .ok fun n _ => .ok (!n.hasChildStarting selector)
  | .helper name args => compileHelper helpers name args
  | .field name op value => compileField engine name op value

mutual

def compile (engine : RegexEngine) (helpers : HelperRegistry) :
    Condition → Except CompileError Predicate
  | test negated t => do return (← compileTest engine helpers t).negateIf negated
  | all negated cs => do return (Predicate.all (← compileAll engine helpers cs)).negateIf negated
  | any negated cs => do return (Predicate.any (← compileAll engine helpers cs)).negateIf negated
  | not negated c => do return (← compile engine helpers c).negate.negateIf negated

def compileAll (engine : RegexEngine) (helpers : HelperRegistry) :
    List Condition → Except CompileError (List Predicate)
  | [] => .ok []
  | c :: cs => do
    let p ← compile engine helpers c
    return p :: (← compileAll engine helpers cs)

end

end Condition

end DeviceLint
