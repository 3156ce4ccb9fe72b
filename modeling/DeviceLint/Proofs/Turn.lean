/-
Every rule gets its turn, and none of the others notices.

A turn is a node together with a rule that picks it.  `turns` lists the turns that rules
are due in a context, node by node in source order and on each node in the order of the
rules, without running anything.  A run has one finding for each of them, in that order.

Rules may share an id, and a finding may name any rule it likes, so a turn tells its
rule by the position in the list.  What stands at one position cannot matter to the
findings of another: the turns of the others are the same, and a fault ends the turn it
happens in and no more.
-/
import DeviceLint.Engine
import DeviceLint.Proofs.Walk
import Mathlib.Data.List.Forall2

namespace DeviceLint

namespace Engine

variable {ρ : Type} [Checker ρ]

/-- A node for a rule, which stands at some position among all rules. -/
structure Turn (ρ : Type) where
  node : Node
  rule : ρ
  position : Nat

/-- Whether a rule is for the dialect and picks a node. -/
def isDue (c : Context) (n : Node) (r : ρ) : Bool :=
  Checker.appliesTo r c.vendor && n.isMatch (Checker.selector r)

/-- The turns on one node. -/
def turnsOn (c : Context) (rules : List ρ) (n : Node) : List (Turn ρ) :=
  (rules.zipIdx.filter fun (r, _) => isDue c n r).map fun (r, i) => ⟨n, r, i⟩

/-- The turns on all nodes. -/
def turns (c : Context) (rules : List ρ) : List (Turn ρ) :=
  (Node.preorderAll c.tree).flatMap (turnsOn c rules)

/-- What a turn may come to. -/
inductive Yields (c : Context) (t : Turn ρ) (f : Finding) : Prop
  /-- The rule has come to a finding. -/
  | found (h : Checker.evaluate t.rule t.node c = .ok f)
  /-- The rule has faulted, and the finding is a failure that says so. -/
  | faulted (fault : Fault) (h : Checker.evaluate t.rule t.node c = .error fault)
      (outcome : f.outcome = .fail) (passed : f.passed = false) (level : f.level = .error)
      (rule : f.rule = Checker.id t.rule) (node : f.node = t.node.id)
      (span : f.span = t.node.span) (message : f.message = fault.message)

/-- The findings of all rules but the one at a position. -/
def findingsOfOthers (c : Context) (rules : List ρ) (i : Nat) : List Finding :=
  (((turns c rules).zip (run c rules)).filter (·.1.position != i)).map Prod.snd

/-! ### The loops of a run -/

theorem record_findings (p : Progress) (rule : String) (f : Finding) :
    (p.record rule f).findings.toList = p.findings.toList ++ [f] := by
  rw [Progress.record, Array.toList_push]

/-- A visit adds the findings of the rules that pick the node. -/
theorem visit_findings (c : Context) (rules : List ρ) (n : Node) :
    ∀ p : Progress, (visit c rules p n).findings.toList = p.findings.toList ++
      (rules.filter fun r => n.isMatch (Checker.selector r)).map (invoke c · n) := by
  induction rules with
  | nil => intro p; rw [List.filter_nil, List.map_nil, List.append_nil]; rfl
  | cons r rules ih =>
      intro p
      show (visit c rules (check c n p r) n).findings.toList = _
      rw [ih, check, List.filter_cons]
      by_cases h : n.isMatch (Checker.selector r) = true
      · rw [if_pos h, if_pos h, record_findings, List.map_cons, List.append_assoc,
          List.singleton_append]
      · rw [if_neg h, if_neg h]

/-- Visits to several nodes add the findings on one after the other. -/
theorem foldl_visit_findings (c : Context) (rules : List ρ) (ns : List Node) :
    ∀ p : Progress, (ns.foldl (visit c rules) p).findings.toList = p.findings.toList ++
      ns.flatMap fun n =>
        (rules.filter fun r => n.isMatch (Checker.selector r)).map (invoke c · n) := by
  induction ns with
  | nil => intro p; rw [List.flatMap_nil, List.append_nil]; rfl
  | cons n ns ih =>
      intro p
      rw [List.foldl_cons, ih, visit_findings, List.flatMap_cons, List.append_assoc]

/-- Whether tallies are kept makes no difference to the findings. -/
theorem execute_findings (c : Context) (rules : List ρ) (tallies : Option Tallies) :
    (execute c rules tallies).findings.toList = (Node.preorderAll c.tree).flatMap fun n =>
      (rules.filter (isDue c n)).map (invoke c · n) := by
  rw [execute, foldl_visit_findings, Tree.walk_eq, List.toList_toArray, List.nil_append]
  congr 1
  funext n
  rw [List.filter_filter]
  congr 2
  funext r
  exact Bool.and_comm _ _

/-! ### Findings and turns -/

/-- What is chosen from a list is chosen from it with the positions as well. -/
theorem filter_eq_zipIdx {α : Type} (p : α → Bool) (as : List α) :
    as.filter p = (as.zipIdx.filter fun (a, _) => p a).map Prod.fst := by
  calc as.filter p
      = (as.zipIdx.map Prod.fst).filter p := by rw [List.zipIdx_map_fst]
    _ = (as.zipIdx.filter fun (a, _) => p a).map Prod.fst := List.filter_map

theorem turnsOn_map (c : Context) (rules : List ρ) (n : Node) :
    (turnsOn c rules n).map (fun t => invoke c t.rule t.node)
      = (rules.filter (isDue c n)).map (invoke c · n) := by
  rw [turnsOn, filter_eq_zipIdx (isDue c n) rules, List.map_map, List.map_map]
  rfl

/-- A run has one finding for each turn. -/
theorem run_eq (c : Context) (rules : List ρ) :
    run c rules = (turns c rules).map fun t => invoke c t.rule t.node := by
  rw [run, execute_findings, turns, List.map_flatMap]
  congr 1
  funext n
  exact (turnsOn_map c rules n).symm

/-- The turns with what comes of them. -/
theorem zip_turns_run (c : Context) (rules : List ρ) :
    (turns c rules).zip (run c rules)
      = (turns c rules).map fun t => (t, invoke c t.rule t.node) := by
  rw [run_eq]
  induction turns c rules with
  | nil => rfl
  | cons t ts ih => rw [List.map_cons, List.zip_cons_cons, ih, List.map_cons]

/-- What some of the rules find is what all of them find at those rules' turns. -/
theorem run_filter (c : Context) (rules : List ρ) (p : ρ → Bool) :
    run c (rules.filter p)
      = (((turns c rules).zip (run c rules)).filter fun x => p x.1.rule).map Prod.snd := by
  have hon : ∀ n : Node, ((turnsOn c rules n).filter fun t => p t.rule).map
        (fun t => invoke c t.rule t.node)
      = ((rules.filter p).filter (isDue c n)).map (invoke c · n) := by
    intro n
    have hboth : (rules.filter p).filter (isDue c n)
        = rules.filter fun r => p r && isDue c n r := by
      rw [List.filter_filter]
      exact List.filter_congr fun r _ => Bool.and_comm _ _
    rw [hboth, filter_eq_zipIdx (fun r => p r && isDue c n r) rules, turnsOn, List.filter_map,
      List.filter_filter, List.map_map, List.map_map]
    rfl
  rw [run_eq, zip_turns_run, List.filter_map, List.map_map]
  show (turns c (rules.filter p)).map _
    = ((turns c rules).filter fun t => p t.rule).map fun t => invoke c t.rule t.node
  rw [turns, turns, List.filter_flatMap, List.map_flatMap, List.map_flatMap]
  congr 1
  funext n
  rw [turnsOn_map, hon]

theorem yields_invoke (c : Context) (t : Turn ρ) : Yields c t (invoke c t.rule t.node) := by
  unfold invoke
  cases h : Checker.evaluate t.rule t.node c with
  | ok f => exact .found h
  | error fault => exact .faulted fault h rfl rfl rfl rfl rfl rfl rfl

/-- Each finding of a run is what its turn yields. -/
theorem forall₂_yields (c : Context) (rules : List ρ) :
    List.Forall₂ (Yields c) (turns c rules) (run c rules) := by
  rw [run_eq, List.forall₂_map_right_iff, List.forall₂_same]
  exact fun t _ => yields_invoke c t

/-! ### The other rules -/

theorem findingsOfOthers_eq (c : Context) (rules : List ρ) (i : Nat) :
    findingsOfOthers c rules i
      = ((turns c rules).filter (·.position != i)).map fun t => invoke c t.rule t.node := by
  rw [findingsOfOthers, zip_turns_run, List.filter_map, List.map_map]
  rfl

/-- What stands at a position is seen at that position only. -/
theorem zipIdx_set_filter {α : Type} (i : Nat) (a : α) (as : List α) :
    ∀ k, ((as.set i a).zipIdx k).filter (·.2 != i + k) = (as.zipIdx k).filter (·.2 != i + k) := by
  induction as generalizing i with
  | nil => intro k; rfl
  | cons b bs ih =>
      intro k
      cases i with
      | zero =>
          rw [List.set_cons_zero, List.zipIdx_cons, List.zipIdx_cons,
            List.filter_cons_of_neg (by simp), List.filter_cons_of_neg (by simp)]
      | succ i =>
          have hshift : i + 1 + k = i + (k + 1) := by omega
          rw [List.set_cons_succ, List.zipIdx_cons, List.zipIdx_cons, List.filter_cons,
            List.filter_cons, hshift, ih i (k + 1)]

/-- The turns of all other rules are the same whatever rule stands at a position. -/
theorem turns_set_filter (c : Context) (rules : List ρ) (i : Nat) (r : ρ) :
    (turns c (rules.set i r)).filter (·.position != i)
      = (turns c rules).filter (·.position != i) := by
  have hon : ∀ (rs : List ρ) (n : Node), (turnsOn c rs n).filter (·.position != i)
      = ((rs.zipIdx.filter (·.2 != i)).filter fun (r, _) => isDue c n r).map
          fun (r, i) => ⟨n, r, i⟩ := by
    intro rs n
    rw [turnsOn, List.filter_map, List.filter_filter, List.filter_filter]
    congr 2
    funext p
    exact Bool.and_comm _ _
  rw [turns, turns, List.filter_flatMap, List.filter_flatMap]
  congr 1
  funext n
  rw [hon, hon]
  congr 2
  exact zipIdx_set_filter i r rules 0

/--
**Every rule gets each of its turns, and a rule does not affect the others.**

A run has exactly one finding for each turn, in the order of the turns, and a rule that
faults yields a failure.  Whatever the rule at some position is replaced by, such as a
rule that faults on any of its nodes, the findings of all others stay as they are.
-/
theorem run_yields (c : Context) (rules : List ρ) :
    List.Forall₂ (Yields c) (turns c rules) (run c rules) ∧
      ∀ (i : Nat) (r : ρ), findingsOfOthers c (rules.set i r) i = findingsOfOthers c rules i := by
  constructor
  · exact forall₂_yields c rules
  · intro i r
    rw [findingsOfOthers_eq, findingsOfOthers_eq, turns_set_filter]

end Engine

end DeviceLint
