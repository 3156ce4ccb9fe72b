/-
Rule files.

A file is taken as a whole: each of its rules has an id of its own, a selector, a message
and a condition that compiles, or none of them are used.  That goes for disabled rules
too, which are left out only after they have been found right.

The condition of a rule describes what is wrong.  A node for which it holds fails with
the rule's message; every other node passes.
-/
import DeviceLint.Condition.Compile
import DeviceLint.Condition.Decode
import DeviceLint.Rule.Basic

namespace DeviceLint

/-- A rule as a file has it. -/
structure RuleEntry where
  id : String
  selector : String
  scope : Scope
  category : Option String
  severity : Severity
  /-- What a failure says; the node's id may be asked for in it. -/
  message : String
  passMessage : Option String
  remediation : Option String
  description : Option String
  owners : List String
  tags : List String
  enabled : Bool
  condition : Condition
  deriving Repr

structure RuleFile where
  version : Option String
  rules : List RuleEntry
  deriving Repr

/-! ### As data -/

namespace RuleEntry

/-- A rule of which nothing has been read. -/
def blank : RuleEntry where
  id := ""
  selector := ""
  scope := .any
  category := none
  severity := .warning
  message := ""
  passMessage := none
  remediation := none
  description := none
  owners := []
  tags := []
  enabled := true
  condition := .all false []

def shape : Decode.Shape where
  title := "struct JsonRule"
  fields := ["id", "selector", "vendor", "category", "severity", "message", "pass_message",
    "remediation", "description", "owners", "tags", "enabled", "check"]
  required := ["id", "selector", "message", "check"]
  closed := true

def put : Decode.Put RuleEntry := fun name d r =>
  if name == "id" then return { r with id := ← Decode.string d }
  else if name == "selector" then return { r with selector := ← Decode.string d }
  else if name == "vendor" then return { r with scope := ← Scope.decode d }
  else if name == "category" then
    return { r with category := ← Decode.optional Decode.string d }
  else if name == "severity" then return { r with severity := ← Severity.decode d }
  else if name == "message" then return { r with message := ← Decode.string d }
  else if name == "pass_message" then
    return { r with passMessage := ← Decode.optional Decode.string d }
  else if name == "remediation" then
    return { r with remediation := ← Decode.optional Decode.string d }
  else if name == "description" then
    return { r with description := ← Decode.optional Decode.string d }
  else if name == "owners" then return { r with owners := ← Decode.strings d }
  else if name == "tags" then return { r with tags := ← Decode.strings d }
  else if name == "enabled" then return { r with enabled := ← Decode.bool d }
  else return { r with condition := ← Condition.decodeDocument d }

def decode : Decoder RuleEntry := Decode.record shape put blank

def encode (r : RuleEntry) : Value :=
  .record [
    ("id", .text r.id), ("selector", .text r.selector), ("vendor", r.scope.encode),
    ("category", .ofOption r.category), ("severity", .text r.severity.name),
    ("message", .text r.message), ("pass_message", .ofOption r.passMessage),
    ("remediation", .ofOption r.remediation), ("description", .ofOption r.description),
    ("owners", .texts r.owners), ("tags", .texts r.tags), ("enabled", .bool r.enabled),
    ("check", r.condition.encode)]

end RuleEntry

namespace RuleFile

def shape : Decode.Shape where
  title := "struct JsonRuleFile"
  fields := ["version", "rules"]
  required := ["rules"]
  closed := false

def put : Decode.Put RuleFile := fun name d f =>
  if name == "version" then return { f with version := ← Decode.optional Decode.string d }
  else return { f with rules := ← Decode.listOf RuleEntry.decode d }

def decode : Decoder RuleFile := Decode.record shape put ⟨none, []⟩

def encode (f : RuleFile) : Value :=
  .record [("version", .ofOption f.version), ("rules", .array (f.rules.map RuleEntry.encode))]

end RuleFile

/-! ### As rules -/

/-- What is wrong with a rule, its condition aside. -/
inductive RuleFault where
  | blankId
  | repeatedId
  | blankSelector
  | blankMessage
  deriving DecidableEq, Repr

namespace RuleFault

def message : RuleFault → String
  | blankId => "rule id must not be empty"
  | repeatedId => "duplicate rule id"
  | blankSelector => "selector must not be empty"
  | blankMessage => "message must not be empty"

end RuleFault

/-- Why the rules of a file cannot be used; the texts are the id of the rule at fault. -/
inductive RuleFileError where
  | invalid (rule : String) (fault : RuleFault)
  | uncompiled (rule : String) (e : CompileError)

def isBlankText (s : String) : Bool := (Text.trim s.toList).isEmpty

namespace RuleEntry

/-- What is wrong with a rule that comes after rules with the ids `seen`. -/
def fault? (r : RuleEntry) (seen : List String) : Option RuleFault :=
  if isBlankText r.id then some .blankId
  else if seen.contains r.id then some .repeatedId
  else if isBlankText r.selector then some .blankSelector
  else if isBlankText r.message then some .blankMessage
  else none

/-- A message about a node, whose id stands where the message has `id` in braces. -/
def fill (nodeId : List Char) : List Char → List Char
  | '\x7b' :: 'i' :: 'd' :: '\x7d' :: s => nodeId ++ fill nodeId s
  | c :: s => c :: fill nodeId s
  | [] => []

/-- A message about a node. -/
def render (template nodeId : String) : String :=
  String.ofList (fill nodeId.toList template.toList)

/-- The verdict on a node for which the condition holds or not. -/
def verdict (r : RuleEntry) (nodeId : String) (violated : Bool) : Verdict :=
  if violated then .fail (render r.message nodeId)
  else .pass (render (r.passMessage.getD s!"{r.id} passed") nodeId)

/-- The rule that a compiled condition makes of an entry. -/
def withPredicate (r : RuleEntry) (p : Predicate) : Rule where
  id := r.id
  selector := r.selector
  scope := r.scope
  category := r.category
  info := ⟨r.severity, r.description, r.remediation, r.owners, r.tags⟩
  check := fun n c =>
    match p n c with
    | .ok violated => .ok (r.verdict n.id violated)
    | .error e => .error (.failed [e.message])

def compile (engine : RegexEngine) (helpers : HelperRegistry) (r : RuleEntry) :
    Except CompileError Rule := do
  return r.withPredicate (← r.condition.compile engine helpers)

end RuleEntry

namespace RuleFile

/-- The first fault in a list of rules, the conditions aside. -/
def validate (seen : List String) : List RuleEntry → Except RuleFileError Unit
  | [] => .ok ()
  | r :: rs =>
    match r.fault? seen with
    | some .blankId => .error (.invalid "" .blankId)
    | some fault => .error (.invalid r.id fault)
    | none => validate (r.id :: seen) rs

/-- One rule of a file, and whether it is enabled. -/
def compileEntry (engine : RegexEngine) (helpers : HelperRegistry) (r : RuleEntry) :
    Except RuleFileError (Bool × Rule) :=
  match r.compile engine helpers with
  | .ok rule => .ok (r.enabled, rule)
  | .error e => .error (.uncompiled r.id e)

/-- The enabled rules of a file. -/
def compile (engine : RegexEngine) (helpers : HelperRegistry) (f : RuleFile) :
    Except RuleFileError (List Rule) := do
  validate [] f.rules
  let compiled ← f.rules.mapM (compileEntry engine helpers)
  return compiled.filterMap fun (enabled, rule) => if enabled then some rule else none

end RuleFile

end DeviceLint
