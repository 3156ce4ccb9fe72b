/-
Running rules over a tree.

Every node is visited once, in source order, and at every node the rules take their turn
in the order they are given.  A rule that faults does no harm to the others: its fault is
a failure of its own, reported as an error whatever the rule's severity.

Tallies are kept along the way if they are wanted, under the id of the rule that was run.
-/
import DeviceLint.Rule.Basic

namespace DeviceLint

/-- How often a rule was evaluated, and how often it failed. -/
structure Tally where
  evaluations : Nat := 0
  failures : Nat := 0
  deriving DecidableEq, Repr

namespace Tally

def count (t : Tally) (f : Finding) : Tally :=
  ⟨t.evaluations + 1, t.failures + if f.isFailure then 1 else 0⟩

end Tally

/-- Tallies under the ids of rules. -/
abbrev Tallies := Fields Tally

namespace Tallies

/-- Counts a finding of a rule. -/
def count (ts : Tallies) (rule : String) (f : Finding) : Tallies :=
  ts.insert rule (((ts.get? rule).getD {}).count f)

end Tallies

namespace Engine

/-- What a run has come to so far. -/
structure Progress where
  findings : Array Finding
  /-- None if there is to be no count. -/
  tallies : Option Tallies

/-- Takes down what a rule has found. -/
def Progress.record (p : Progress) (rule : String) (f : Finding) : Progress :=
  ⟨p.findings.push f, p.tallies.map (·.count rule f)⟩

variable {ρ : Type} [Checker ρ]

/-- The finding of a rule on a node, which is a failure if the rule faults. -/
def invoke (c : Context) (r : ρ) (n : Node) : Finding :=
  match Checker.evaluate r n c with
  | .ok f => f
  | .error fault => .fail (Checker.id r) n.id .error fault.message n.span

/-- Evaluates a rule on a node, unless it does not pick that node. -/
def check (c : Context) (n : Node) (p : Progress) (r : ρ) : Progress :=
  if n.isMatch (Checker.selector r) then p.record (Checker.id r) (invoke c r n) else p

/-- Lets all rules take their turn on a node. -/
def visit (c : Context) (rules : List ρ) (p : Progress) (n : Node) : Progress :=
  rules.foldl (check c n) p

/-- Runs all rules that are for the dialect, on all nodes of the tree. -/
def execute (c : Context) (rules : List ρ) (tallies : Option Tallies) : Progress :=
  let active := rules.filter (Checker.appliesTo · c.vendor)
  c.tree.walk.foldl (visit c active) ⟨#[], tallies⟩

/-- The findings of rules. -/
def run (c : Context) (rules : List ρ) : List Finding := (execute c rules none).findings.toList

/-- The findings of rules together with a tally for every rule that was evaluated. -/
def runWithTallies (c : Context) (rules : List ρ) : List Finding × Tallies :=
  let p := execute c rules (some [])
  (p.findings.toList, p.tallies.getD [])

end Engine

end DeviceLint
