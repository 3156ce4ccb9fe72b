/-
Rules.

A rule picks nodes by a selector, is limited to some dialects, and decides about each
node it has picked.  What it decides is a verdict; the rule itself adds what all its
findings have in common.  A check may also fault, and what becomes of that is decided
where rules are run.
-/
import DeviceLint.Context

namespace DeviceLint

/-- The dialects a rule is for. -/
inductive Scope where
  | any
  | one (vendor : String)
  | many (vendors : List String)
  deriving DecidableEq, Repr

namespace Scope

/-- Whether an entry of a scope means a dialect.  An entry may be a name, a name cut short by an
asterisk, or a word for all. -/
def covers (entry vendor : String) : Bool :=
  let entry := Text.trim entry.toList
  if entry == ['*'] || Text.eqIgnoreAsciiCase entry "any".toList then true
  else match Text.dropEnd? ['*'] entry with
    | some start => (Text.lower start).isPrefixOf (Text.lower vendor.toList)
    | none => Text.eqIgnoreAsciiCase entry vendor.toList

def applies (s : Scope) (vendor : String) : Bool :=
  match s with
  | any => true
  | one entry => covers entry vendor
  | many entries => entries.any (covers · vendor)

def encode : Scope → Value
  | any => .null
  | one vendor => .text vendor
  | many vendors => .texts vendors

/-- A scope is null, one name or a list of names. -/
def ofValue? : Value → Option Scope
  | .null => some any
  | .text s => some (one s)
  | .array items => (items.mapM Value.text?).map many
  | _ => none

def decode : Decoder Scope := fun d =>
  match d.toValue? >>= ofValue? with
  | some s => .ok s
  | none => .error (.noForm "VendorScope")

end Scope

/-- What a check decided about a node. -/
inductive Verdict where
  | pass (message : String)
  | fail (message : String)
  /-- There is nothing to verify. -/
  | informational (message : String)
  deriving DecidableEq, Repr

namespace Verdict

/-- Pass or fail as a condition has it. -/
def check (ok : Bool) (onPass onFail : String) : Verdict :=
  if ok then .pass onPass else .fail onFail

end Verdict

/-- How a check can fail to decide. -/
inductive Fault where
  /-- An error with its causes, the outermost first. -/
  | failed (causes : List String)
  /-- The check was broken off, perhaps with a text. -/
  | crashed (text : Option String)
  deriving DecidableEq, Repr

namespace Fault

def message : Fault → String
  | failed causes => "Rule check failed: " ++ ": ".intercalate causes
  | crashed text => "Rule check panicked: " ++ text.getD "unknown panic"

end Fault

/-- What is known about a rule besides what it does. -/
structure RuleInfo where
  /-- How loudly failures are reported. -/
  severity : Severity := .warning
  description : Option String := none
  remediation : Option String := none
  owners : List String := []
  tags : List String := []
  deriving DecidableEq, Repr

structure Rule where
  id : String
  selector : String
  check : Node → Context → Except Fault Verdict
  scope : Scope := .any
  category : Option String := none
  info : RuleInfo := {}

namespace Rule

/-- The finding for a verdict on a node. -/
def report (r : Rule) (n : Node) : Verdict → Finding
  | .pass message => .pass r.id n.id message n.span
  | .informational message => .informational r.id n.id message n.span
  | .fail message =>
    { Finding.fail r.id n.id r.info.severity message n.span with
      remediation := r.info.remediation }

/-- A rule's finding on a node. -/
def evaluate (r : Rule) (n : Node) (c : Context) : Except Fault Finding :=
  (r.check n c).map (r.report n)

def encode (r : Rule) : Value :=
  .record [
    ("id", .text r.id), ("selector", .text r.selector), ("vendors", r.scope.encode),
    ("category", .ofOption r.category),
    ("metadata", .record [
      ("severity", .text r.info.severity.name), ("description", .ofOption r.info.description),
      ("remediation", .ofOption r.info.remediation), ("owners", .texts r.info.owners),
      ("tags", .texts r.info.tags)])]

end Rule

/-- What running a rule asks of it, and all that it asks: the findings may be anything. -/
class Checker (ρ : Type) where
  id : ρ → String
  selector : ρ → String
  scope : ρ → Scope
  evaluate : ρ → Node → Context → Except Fault Finding

instance : Checker Rule := ⟨Rule.id, Rule.selector, Rule.scope, Rule.evaluate⟩

/-- What settings go by when they choose among rules: besides the id, the category. -/
class Categorized (ρ : Type) extends Checker ρ where
  category : ρ → Option String

instance : Categorized Rule where
  category := Rule.category

/-- Whether a rule is for a dialect. -/
def Checker.appliesTo {ρ : Type} [Checker ρ] (r : ρ) (vendor : String) : Bool :=
  (Checker.scope r).applies vendor

end DeviceLint
