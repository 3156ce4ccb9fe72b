/-
What comes out of scans.

Findings are counted once, when a scan is done and their levels are final; what is said of
a scan afterwards is said by the counts.  The exit code of a scan, or of several, is 2 if
there is an error, 1 if there is only a warning, and 0 otherwise.  That one of several texts
could not be scanned at all is an error as well.
-/
import DeviceLint.Engine
import DeviceLint.Rule.Load
import DeviceLint.Schema.Load

namespace DeviceLint

/-- Why a text cannot be scanned, or a linter cannot be set up. -/
inductive LintError where
  | unknownVendor (vendor : String)
  /-- Neither the scan nor the settings say the dialect. -/
  | noVendor (name : String)
  | unreadable (file : String) (e : FileError)
  | rules (e : RuleLoadError)
  | schema (e : SchemaFileError)

namespace LintError

def message : LintError → String
  | unknownVendor vendor => s!"Unknown vendor: {vendor}"
  | noVendor name => s!"No vendor given for {name} and none configured"
  | unreadable file e => s!"IO error reading {file}: {e.message}"
  | rules e => e.message
  | schema e => e.message

end LintError

/-- How many findings have come to what. -/
structure Counts where
  passed : Nat := 0
  failed : Nat := 0
  informational : Nat := 0
  /-- Failures that are reported as errors. -/
  errorCount : Nat := 0
  /-- Failures that are reported as warnings. -/
  warningCount : Nat := 0
  deriving DecidableEq, Repr

/-- Counts one more finding, whose level matters if it is a failure. -/
def Counts.add (n : Counts) (f : Finding) : Counts :=
  match f.outcome with
  | .pass => { n with passed := n.passed + 1 }
  | .informational => { n with informational := n.informational + 1 }
  | .fail =>
    let n := { n with failed := n.failed + 1 }
    match f.level with
    | .error => { n with errorCount := n.errorCount + 1 }
    | .warning => { n with warningCount := n.warningCount + 1 }
    | .info => n

/-- What came out of one scan. -/
structure Report extends Counts where
  /-- What the text is called. -/
  name : String
  /-- The id of the schema it was read with. -/
  vendor : String
  findings : List Finding
  nodeCount : Nat
  /-- Nothing unless the settings ask for them. -/
  tallies : Tallies

namespace Report

/-- Counts the findings of a report, in addition to what has been counted. -/
def tally (r : Report) : Report := { r with toCounts := r.findings.foldl Counts.add r.toCounts }

def hasErrors (r : Report) : Bool := 0 < r.errorCount

def failures (r : Report) : List Finding := r.findings.filter Finding.isFailure

def exitCode (r : Report) : Nat :=
  if r.hasErrors then 2 else if 0 < r.warningCount then 1 else 0

end Report

/-- What came out of several scans, in the order of the texts. -/
structure Summary where
  reports : List Report
  /-- What could not be scanned, and why. -/
  errors : List (String × LintError)

namespace Summary

def empty : Summary := ⟨[], []⟩

/-- Adds what became of one more text. -/
def add (s : Summary) (name : String) : Except LintError Report → Summary
  | .ok r => { s with reports := s.reports ++ [r] }
  | .error e => { s with errors := s.errors ++ [(name, e)] }

def ofOutcomes (outcomes : List (String × Except LintError Report)) : Summary :=
  outcomes.foldl (fun s (name, outcome) => s.add name outcome) empty

def errorCount (s : Summary) : Nat := (s.reports.map (·.errorCount)).foldl (· + ·) 0

def warningCount (s : Summary) : Nat := (s.reports.map (·.warningCount)).foldl (· + ·) 0

def exitCode (s : Summary) : Nat :=
  if s.errors.isEmpty then (s.reports.map Report.exitCode).foldl max 0 else 2

end Summary

end DeviceLint
