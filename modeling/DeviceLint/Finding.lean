/-
What a rule reports about one node.

A finding has an outcome and, independently, a level.  The level says how loudly it is
reported: a pass and a piece of information are reported at the lowest level, a failure
at the level its rule sets, which the settings of a scan may change afterwards.
-/
import DeviceLint.Data.Decode
import DeviceLint.Text.Case

namespace DeviceLint

inductive Severity where
  | info
  | warning
  | error
  deriving DecidableEq, Repr

namespace Severity

def name : Severity → String
  | .info => "info"
  | .warning => "warning"
  | .error => "error"

/-- The severity named by a word that people use for it, in letters of any case. -/
def ofWord? (s : String) : Option Severity :=
  let word := lowerCase s
  if ["info", "hint", "note", "low"].contains word then some .info
  else if ["warning", "warn", "medium"].contains word then some .warning
  else if ["error", "err", "high", "critical"].contains word then some .error
  else none

def decode : Decoder Severity :=
  Decode.oneOf [("info", .info), ("warning", .warning), ("error", .error)]

end Severity

/-- Lines `first` to `last` of a text, counted from one. -/
structure Span where
  first : Nat
  last : Nat
  deriving DecidableEq, Repr

namespace Span

/-- The span from one line to another; it never ends before it begins. -/
def between (first last : Nat) : Span := ⟨first, max first last⟩

def line (n : Nat) : Span := between n n

/-- The span, made to reach at least to line `n`. -/
def reaching (s : Span) (n : Nat) : Span := { s with last := max s.last n }

def text (s : Span) : String :=
  if s.first == s.last then toString s.first else s!"{s.first}-{s.last}"

def encode (s : Span) : Value :=
  .record [("start_line", .nat s.first), ("end_line", .nat s.last)]

def shape : Decode.Shape where
  title := "struct Loc"
  fields := ["start_line", "end_line"]
  required := ["start_line", "end_line"]
  closed := false

def decode : Decoder Span :=
  Decode.record shape (fun name d s =>
    if name == "start_line" then return { s with first := ← Decode.nat d }
    else return { s with last := ← Decode.nat d }) ⟨0, 0⟩

end Span

/-- What a check established.  Information is not a verified pass, though it is none the worse. -/
inductive Outcome where
  | pass
  | fail
  | informational
  deriving DecidableEq, Repr

namespace Outcome

def name : Outcome → String
  | .pass => "pass"
  | .fail => "fail"
  | .informational => "informational"

def isPassed (o : Outcome) : Bool := o != .fail

def decode : Decoder Outcome :=
  Decode.oneOf [("pass", .pass), ("fail", .fail), ("informational", .informational)]

end Outcome

structure Finding where
  rule : String
  node : String
  /-- False for failures only; a finding that was read back may say otherwise. -/
  passed : Bool
  outcome : Outcome
  level : Severity
  message : String
  span : Span
  remediation : Option String
  deriving DecidableEq, Repr

namespace Finding

/-- A finding without remediation, passed exactly if its outcome is not a failure. -/
def make (outcome : Outcome) (level : Severity) (rule node message : String) (span : Span) :
    Finding where
  rule := rule
  node := node
  passed := outcome.isPassed
  outcome := outcome
  level := level
  message := message
  span := span
  remediation := none

def pass (rule node message : String) (span : Span) : Finding :=
  make .pass .info rule node message span

def informational (rule node message : String) (span : Span) : Finding :=
  make .informational .info rule node message span

def fail (rule node : String) (level : Severity) (message : String) (span : Span) : Finding :=
  make .fail level rule node message span

def withRemediation (f : Finding) (text : String) : Finding := { f with remediation := some text }

def withLevel (f : Finding) (level : Severity) : Finding := { f with level := level }

def isFailure (f : Finding) : Bool := f.outcome == .fail

/-- A failure that is reported as an error. -/
def isError (f : Finding) : Bool := f.isFailure && f.level == .error

/-- A failure that is reported as a warning. -/
def isWarning (f : Finding) : Bool := f.isFailure && f.level == .warning

def text (f : Finding) : String := s!"{f.outcome.name} {f.level.name} {f.span.text}"

def encode (f : Finding) : Value :=
  .record <|
    [("rule_id", .text f.rule), ("node_id", .text f.node), ("passed", .bool f.passed),
      ("outcome", .text f.outcome.name), ("level", .text f.level.name),
      ("message", .text f.message), ("loc", f.span.encode)] ++
    match f.remediation with
    | some text => [("remediation", .text text)]
    | none => []

def shape : Decode.Shape where
  title := "struct RuleResult"
  fields := ["rule_id", "node_id", "passed", "outcome", "level", "message", "loc", "remediation"]
  required := ["rule_id", "node_id", "passed", "outcome", "level", "message", "loc"]
  closed := false

def put : Decode.Put Finding := fun name d f =>
  if name == "rule_id" then return { f with rule := ← Decode.string d }
  else if name == "node_id" then return { f with node := ← Decode.string d }
  else if name == "passed" then return { f with passed := ← Decode.bool d }
  else if name == "outcome" then return { f with outcome := ← Outcome.decode d }
  else if name == "level" then return { f with level := ← Severity.decode d }
  else if name == "message" then return { f with message := ← Decode.string d }
  else if name == "loc" then return { f with span := ← Span.decode d }
  else return { f with remediation := ← Decode.optional Decode.string d }

def decode : Decoder Finding :=
  Decode.record shape put (make .pass .info "" "" "" ⟨0, 0⟩)

end Finding

end DeviceLint
