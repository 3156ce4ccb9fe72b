/-
Tallies tell of the findings and of nothing else.

A run that keeps tallies counts each finding right when it takes it down, under the id of
the rule it has just run.  `Progress.IsCounted` says what that amounts to: under each id
stands the tally of the findings that carry it, and under an id that none of them carries
stands nothing.  Taking down one more finding keeps this, provided the finding carries the
id it is counted under, and so does everything that is made of such steps: a turn, the
visit to a node, the walk over the tree.

The proviso is met by the rules of this library, whose findings are made by the rule
itself and not by its check.  A rule that faults comes to a failure under its own id as
well, so faults are counted like any other failure.
-/
import DeviceLint.Proofs.Outcome
import DeviceLint.Proofs.Tables
import DeviceLint.Proofs.Turn

namespace DeviceLint

namespace Tally

/-- The tally of the findings that carry an id. -/
def of (id : String) (fs : List Finding) : Tally where
  evaluations := fs.countP (·.rule == id)
  failures := fs.countP fun f => f.outcome == .fail && f.rule == id

/-- The tally of the findings that carry an id, if there are any. -/
def of? (id : String) (fs : List Finding) : Option Tally :=
  if ∃ f ∈ fs, f.rule = id then some (of id fs) else none

/-- There is nothing to count where no finding carries the id. -/
theorem getD_of? (id : String) (fs : List Finding) : (of? id fs).getD {} = of id fs := by
  rw [of?]
  split
  · rfl
  · rename_i hnone
    have hother : ∀ f ∈ fs, f.rule ≠ id := fun f hf hid => hnone ⟨f, hf, hid⟩
    have hevaluations : fs.countP (·.rule == id) = 0 :=
      List.countP_eq_zero.mpr fun f hf => by simpa using hother f hf
    have hfailures : fs.countP (fun f => f.outcome == .fail && f.rule == id) = 0 :=
      List.countP_eq_zero.mpr fun f hf => by simp [hother f hf]
    rw [of, hevaluations, hfailures]
    rfl

theorem of_concat (id : String) (fs : List Finding) (f : Finding) :
    of id (fs ++ [f]) = if id = f.rule then (of id fs).count f else of id fs := by
  rw [of, List.countP_append, List.countP_append, List.countP_singleton, List.countP_singleton]
  by_cases hid : id = f.rule
  · rw [if_pos hid, hid, beq_self_eq_true, Bool.and_true]
    rfl
  · rw [if_neg hid, beq_false_of_ne (Ne.symm hid), Bool.and_false]
    rfl

/-- One more finding counts under the id that it carries, and under no other. -/
theorem of?_concat (id : String) (fs : List Finding) (f : Finding) :
    of? id (fs ++ [f])
      = if id = f.rule then some (((of? id fs).getD {}).count f) else of? id fs := by
  rw [getD_of?, of?, of_concat]
  by_cases hid : id = f.rule
  · rw [if_pos hid, if_pos hid]
    exact if_pos ⟨f, List.mem_append_right fs List.mem_cons_self, hid.symm⟩
  · have hsame : (∃ g ∈ fs ++ [f], g.rule = id) ↔ ∃ g ∈ fs, g.rule = id := by
      simp [List.mem_append, or_and_right, exists_or, Ne.symm hid]
    rw [if_neg hid, if_neg hid, of?]
    exact if_congr hsame rfl rfl

end Tally

/-- Whether a rule fails on a node, by its verdict or because it faults. -/
def Rule.isFailing (r : Rule) (n : Node) (c : Context) : Bool :=
  match r.check n c with
  | .ok (.pass _) | .ok (.informational _) => false
  | .ok (.fail _) | .error _ => true

namespace Engine

/-! ### What a rule comes to -/

/-- Whatever a rule comes to on a node carries the id of the rule. -/
theorem invoke_rule (c : Context) (r : Rule) (n : Node) : (invoke c r n).rule = r.id := by
  rw [invoke]
  cases h : Checker.evaluate r n c with
  | error fault => rfl
  | ok f =>
      obtain ⟨verdict, -, rfl⟩ := map_eq_ok_iff.mp h
      cases verdict <;> rfl

/-- A failure is what a rule comes to if it decides so, or if it faults. -/
theorem invoke_outcome (c : Context) (r : Rule) (n : Node) :
    ((invoke c r n).outcome == .fail) = r.isFailing n c := by
  rw [invoke, Rule.isFailing]
  cases h : Checker.evaluate r n c with
  | error fault =>
      rw [map_eq_error_iff.mp h]
      rfl
  | ok f =>
      obtain ⟨verdict, hcheck, rfl⟩ := map_eq_ok_iff.mp h
      rw [hcheck]
      cases verdict <;> rfl

/-! ### What a run keeps as it goes -/

variable {c : Context} {p : Progress}

/-- Whether tallies are kept and are those of the findings so far. -/
def Progress.IsCounted (p : Progress) : Prop :=
  ∃ ts, p.tallies = some ts ∧ ts.Ascending ∧ ∀ id, ts.get? id = Tally.of? id p.findings.toList

namespace Progress

/-- A finding is counted if it is taken down under the id that it carries. -/
theorem IsCounted.record (h : p.IsCounted) (f : Finding) : (p.record f.rule f).IsCounted := by
  obtain ⟨ts, htallies, hascending, hget⟩ := h
  refine ⟨ts.count f.rule f, ?_, Fields.ascending_insert _ _ hascending, fun id => ?_⟩
  · rw [Progress.record, htallies, Option.map_some]
  · rw [record_findings, Tally.of?_concat, ← hget id, Fields.get?, Tallies.count,
      Fields.lookup_insert]
    by_cases hid : id = f.rule
    · rw [if_pos hid, if_pos hid, hid]
    · rw [if_neg hid, if_neg hid, Fields.get?]

end Progress

theorem check_counted (h : p.IsCounted) (n : Node) (r : Rule) : (check c n p r).IsCounted := by
  rw [check]
  split
  · rw [show Checker.id r = (invoke c r n).rule from (invoke_rule c r n).symm]
    exact h.record _
  · exact h

theorem visit_counted (rules : List Rule) (n : Node) :
    ∀ p : Progress, p.IsCounted → (visit c rules p n).IsCounted := by
  induction rules with
  | nil => intro p h; exact h
  | cons r rules ih =>
      intro p h
      exact ih _ (check_counted h n r)

theorem foldl_visit_counted (rules : List Rule) (ns : List Node) :
    ∀ p : Progress, p.IsCounted → (ns.foldl (visit c rules) p).IsCounted := by
  induction ns with
  | nil => intro p h; exact h
  | cons n ns ih =>
      intro p h
      exact ih _ (visit_counted rules n p h)

/-- A run that is to keep tallies ends with those of all its findings. -/
theorem execute_counted (c : Context) (rules : List Rule) :
    (execute c rules (some [])).IsCounted := by
  rw [execute]
  refine foldl_visit_counted _ _ _ ?_
  exact ⟨[], rfl, List.Pairwise.nil, fun _ => rfl⟩

/-! ### What the tallies of a run say -/

/-- The findings of a run that have some quality are told by the turns they come of. -/
theorem countP_run (c : Context) (rules : List Rule) (quality : Finding → Bool) :
    (run c rules).countP quality
      = (turns c rules).countP fun t => quality (invoke c t.rule t.node) := by
  rw [run_eq, List.countP_map]
  rfl

/--
**Tallies do not change the findings, and they count them exactly.**

A run with tallies has the findings of a run without.  There is one tally under each id that
some finding carries, and none under any other: it says how many findings carry the id and how
many of these are failures.  In terms of what has been run, these are the turns that rules of
the id got, and those of them on which the rule decided for a failure or faulted.
-/
theorem runWithTallies_counts (c : Context) (rules : List Rule) :
    (runWithTallies c rules).1 = run c rules ∧
      ((runWithTallies c rules).2.map (·.1)).Nodup ∧
      (∀ id, (runWithTallies c rules).2.get? id =
        if ∃ f ∈ run c rules, f.rule = id then
          some {
            evaluations := (run c rules).countP (·.rule == id)
            failures := (run c rules).countP fun f => f.outcome == .fail && f.rule == id }
        else none) ∧
      ∀ id,
        (run c rules).countP (·.rule == id) = (turns c rules).countP (·.rule.id == id) ∧
        (run c rules).countP (fun f => f.outcome == .fail && f.rule == id)
          = (turns c rules).countP fun t => t.rule.isFailing t.node c && t.rule.id == id := by
  have hsame : (runWithTallies c rules).1 = run c rules := by
    show (execute c rules (some [])).findings.toList = (execute c rules none).findings.toList
    rw [execute_findings, execute_findings]
  obtain ⟨ts, htallies, hascending, hget⟩ := execute_counted c rules
  have hts : (runWithTallies c rules).2 = ts := by
    rw [runWithTallies, htallies, Option.getD_some]
  rw [show (execute c rules (some [])).findings.toList = run c rules from hsame] at hget
  rw [hts]
  refine ⟨hsame, hascending.nodup_names, hget, fun id => ⟨?_, ?_⟩⟩
  · simp only [countP_run, invoke_rule]
  · simp only [countP_run, invoke_rule, invoke_outcome]

end Engine

end DeviceLint
