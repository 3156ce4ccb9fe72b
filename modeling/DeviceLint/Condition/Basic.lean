/-
Conditions: what a rule of a rule file looks for in a node.

A condition is a test, or joins other conditions.  Each one may be negated by itself,
whatever its kind, which is kept apart from the condition that negates another one: both
mean the same and are written differently.
-/
import DeviceLint.Data.Value

namespace DeviceLint

/-- How a text is looked for. -/
inductive MatchMode where
  | contains
  | exact
  | start
  | regex
  deriving DecidableEq, Repr

namespace MatchMode

def name : MatchMode → String
  | contains => "contains"
  | exact => "exact"
  | start => "prefix"
  | regex => "regex"

end MatchMode

/-- Where a text is looked for. -/
inductive MatchTarget where
  | id
  | raw
  deriving DecidableEq, Repr

namespace MatchTarget

def name : MatchTarget → String
  | id => "id"
  | raw => "raw_text"

end MatchTarget

/-- How a field of a node is compared. -/
inductive Operator where
  | eq
  | ne
  | contains
  | startsWith
  | endsWith
  | matchesRegex
  | gt
  | ge
  | lt
  | le
  | isIn
  | isPresent
  deriving DecidableEq, Repr

namespace Operator

def name : Operator → String
  | eq => "eq"
  | ne => "ne"
  | contains => "contains"
  | startsWith => "starts_with"
  | endsWith => "ends_with"
  | matchesRegex => "matches"
  | gt => "gt"
  | ge => "ge"
  | lt => "lt"
  | le => "le"
  | isIn => "in"
  | isPresent => "exists"

end Operator

/-- A test of one node. -/
inductive Test where
  /-- A text in the node's id or source; without a word on it, case counts as in the dialect. -/
  | text (pattern : String) (mode : MatchMode) (target : MatchTarget) (ignoreCase : Option Bool)
  /-- Some child starts with a text. -/
  | hasChild (selector : String)
  | lacksChild (selector : String)
  /-- The answer of a helper, which is passed the node if no arguments are given. -/
  | helper (name : String) (args : Option (List Value))
  /-- A comparison of a field with a value. -/
  | field (name : String) (op : Operator) (value : Option Value)
  deriving Repr

inductive Condition where
  | test (negated : Bool) (t : Test)
  | all (negated : Bool) (conditions : List Condition)
  | any (negated : Bool) (conditions : List Condition)
  | not (negated : Bool) (condition : Condition)
  deriving Repr

namespace Condition

def isNegated : Condition → Bool
  | test negated _ => negated
  | all negated _ => negated
  | any negated _ => negated
  | not negated _ => negated

/-- The condition with its own negation turned on or off. -/
def withNegation (value : Bool) : Condition → Condition
  | test _ t => test value t
  | all _ conditions => all value conditions
  | any _ conditions => any value conditions
  | not _ condition => not value condition

/-- The condition that holds where this one does not. -/
def negate (c : Condition) : Condition := c.withNegation !c.isNegated

end Condition

end DeviceLint
