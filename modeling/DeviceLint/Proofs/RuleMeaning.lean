/-
A rule of a rule file means what its condition says.

Whatever the rule, the node and the context, what is reported follows from the value of
the condition on the node, as `Condition.eval` has it, and the texts of the rule.  Where
the condition holds the rule has been violated.

In the texts of a rule the placeholder stands for the node's id, wherever it occurs.
`Fills` says that of two texts and leaves open how the occurrences are found; there is
exactly one text that it allows.
-/
import DeviceLint.Engine
import DeviceLint.Proofs.Evaluation
import DeviceLint.Regex.Reader
import DeviceLint.Rule.File

namespace DeviceLint

/-! ### Messages -/

namespace RuleEntry

/-- What stands for the id of the node in a message. -/
def placeholder : List Char := "\x7bid\x7d".toList

/-- A template, and the text it becomes if each placeholder is replaced by the id of the node. -/
inductive Fills (nodeId : List Char) : List Char → List Char → Prop
  | plain {s : List Char} (h : ¬ placeholder <:+: s) : Fills nodeId s s
  | replaced {s t u : List Char} (h : ¬ placeholder <:+: s) (rest : Fills nodeId t u) :
      Fills nodeId (s ++ placeholder ++ t) (s ++ nodeId ++ u)

theorem fill_cons (nodeId : List Char) {c : Char} {s : List Char}
    (h : ¬ placeholder <+: c :: s) : fill nodeId (c :: s) = c :: fill nodeId s := by
  refine fill.eq_2 nodeId c s ?_
  intro t hc hs
  subst hc hs
  exact h ⟨t, rfl⟩

/-- Two placeholders do not overlap: one that begins before another ends before it. -/
theorem not_starts_placeholder {c : Char} {s t : List Char} (h : ¬ placeholder <:+: c :: s) :
    ¬ placeholder <+: c :: (s ++ placeholder ++ t) := by
  intro hstart
  match s with
  | [] => simp [placeholder] at hstart
  | [a] => simp [placeholder] at hstart
  | [a, b] => simp [placeholder] at hstart
  | a :: b :: d :: s =>
      have hsame : placeholder = [c, a, b, d] := by
        simpa [placeholder] using hstart
      exact h (hsame ▸ List.IsPrefix.isInfix ⟨s, rfl⟩)

theorem fill_eq_self (nodeId : List Char) {s : List Char} (h : ¬ placeholder <:+: s) :
    fill nodeId s = s := by
  induction s with
  | nil => rfl
  | cons c s ih =>
      have hs : ¬ placeholder <:+: s := fun hs => h (hs.trans (List.suffix_cons c s).isInfix)
      rw [fill_cons nodeId fun hc => h hc.isInfix, ih hs]

theorem fill_append_placeholder (nodeId t : List Char) {s : List Char}
    (h : ¬ placeholder <:+: s) :
    fill nodeId (s ++ placeholder ++ t) = s ++ nodeId ++ fill nodeId t := by
  induction s with
  | nil => rfl
  | cons c s ih =>
      have hs : ¬ placeholder <:+: s := fun hs => h (hs.trans (List.suffix_cons c s).isInfix)
      show fill nodeId (c :: (s ++ placeholder ++ t)) = c :: (s ++ nodeId ++ fill nodeId t)
      rw [fill_cons nodeId (not_starts_placeholder h), ih hs]

/-- A character that begins no placeholder stays where it is. -/
theorem Fills.cons {nodeId s u : List Char} {c : Char} (h : Fills nodeId s u)
    (hc : ¬ placeholder <+: c :: s) : Fills nodeId (c :: s) (c :: u) := by
  cases h with
  | plain h =>
      refine .plain fun hinside => ?_
      rcases List.infix_cons_iff.mp hinside with hstart | hinside
      · exact hc hstart
      · exact h hinside
  | @replaced s t u h rest =>
      refine .replaced (s := c :: s) (fun hinside => ?_) rest
      rcases List.infix_cons_iff.mp hinside with hstart | hinside
      · exact hc (hstart.trans ⟨placeholder ++ t, by simp⟩)
      · exact h hinside

/-- Every template becomes some text, and `fill` finds it. -/
theorem fills_fill (nodeId : List Char) : ∀ s : List Char, Fills nodeId s (fill nodeId s) := by
  intro s
  induction s using fill.induct with
  | case1 s ih => exact .replaced (s := []) (by decide) ih
  | case2 c s hne ih =>
      have hstart : ¬ placeholder <+: c :: s := by
        rintro ⟨t, ht⟩
        cases ht
        exact hne t rfl rfl
      rw [fill_cons nodeId hstart]
      exact ih.cons hstart
  | case3 => exact .plain (by decide)

/-- The only text that a template becomes is the one that `fill` finds. -/
theorem Fills.eq_fill {nodeId s u : List Char} (h : Fills nodeId s u) : u = fill nodeId s := by
  induction h with
  | plain h => exact (fill_eq_self nodeId h).symm
  | replaced h _ ih => rw [fill_append_placeholder nodeId _ h, ← ih]

theorem render_fills (template nodeId : String) :
    Fills nodeId.toList template.toList (render template nodeId).toList := by
  rw [render, String.toList_ofList]
  exact fills_fill nodeId.toList template.toList

/-! ### What is reported -/

/-- What a rule reports of a node on which its condition has some value. -/
inductive Reports (r : RuleEntry) (n : Node) : Except HelperError Bool → Finding → Prop
  /-- The condition holds, which is a failure as grave as the rule says. -/
  | violated {message : String} (h : Fills n.id.toList r.message.toList message.toList) :
      Reports r n (.ok true)
        { rule := r.id, node := n.id, passed := false, outcome := .fail, level := r.severity,
          message := message, span := n.span, remediation := r.remediation }
  | satisfied {message : String}
      (h : Fills n.id.toList (r.passMessage.getD (r.id ++ " passed")).toList message.toList) :
      Reports r n (.ok false)
        { rule := r.id, node := n.id, passed := true, outcome := .pass, level := .info,
          message := message, span := n.span, remediation := none }
  /-- A helper has failed, and nothing is known about the node. -/
  | undecided (e : HelperError) :
      Reports r n (.error e)
        { rule := r.id, node := n.id, passed := false, outcome := .fail, level := .error,
          message := "Rule check failed: " ++ e.message, span := n.span, remediation := none }

theorem eq_withPredicate {engine : RegexEngine} {helpers : HelperRegistry} {r : RuleEntry}
    {rule : Rule} (h : r.compile engine helpers = .ok rule) :
    ∃ p, r.condition.compile engine helpers = .ok p ∧ rule = r.withPredicate p := by
  obtain ⟨p, hp, h⟩ := ok_of_bind h
  cases h
  exact ⟨p, hp, rfl⟩

/-- A rule with a predicate reports what follows from the value of the predicate. -/
theorem withPredicate_reports (r : RuleEntry) (p : Predicate) (n : Node) (c : Context) :
    r.Reports n (p n c) (Engine.invoke c (r.withPredicate p) n) := by
  cases h : p n c with
  | error e =>
      have heval : Checker.evaluate (r.withPredicate p) n c = .error (.failed [e.message]) := by
        show ((r.withPredicate p).check n c).map _ = _
        simp only [withPredicate, h]
        rfl
      rw [Engine.invoke, heval]
      exact .undecided e
  | ok b =>
      have heval : Checker.evaluate (r.withPredicate p) n c
          = .ok ((r.withPredicate p).report n (r.verdict n.id b)) := by
        show ((r.withPredicate p).check n c).map _ = _
        simp only [withPredicate, h]
        rfl
      rw [Engine.invoke, heval]
      cases b with
      | true => exact .violated (render_fills r.message n.id)
      | false => exact .satisfied (render_fills (r.passMessage.getD (r.id ++ " passed")) n.id)

/--
**A rule means what its condition says.**

If a rule compiles, then on every node and in every context its finding is the one that
follows from the value of its condition.  If no helper is called in the condition there
always is a value, and the compiled rule never faults.
-/
theorem compile_reports {engine : RegexEngine} {helpers : HelperRegistry} {r : RuleEntry}
    {rule : Rule} (h : r.compile engine helpers = .ok rule) (n : Node) (c : Context) :
    r.Reports n (r.condition.eval engine helpers n c) (Engine.invoke c rule n) ∧
      (r.condition.isHelperFree = true → ∃ violated,
        r.condition.eval engine helpers n c = .ok violated ∧
          rule.check n c = .ok (r.verdict n.id violated)) := by
  obtain ⟨p, hp, rfl⟩ := eq_withPredicate h
  have heval : p n c = r.condition.eval engine helpers n c :=
    Condition.compile_eval n c r.condition hp
  constructor
  · rw [← heval]
    exact withPredicate_reports r p n c
  · intro hfree
    obtain ⟨violated, hv⟩ := Condition.eval_ok engine helpers n c r.condition hfree
    refine ⟨violated, hv, ?_⟩
    simp only [withPredicate, heval, hv]

/-- A rule against gigabit ports that are in use and not described. -/
def undescribedPort : RuleEntry where
  id := "described-ports"
  selector := "interface"
  scope := .any
  category := none
  severity := .error
  message := "\x7bid\x7d is in use and \x7bid\x7d has no description"
  passMessage := none
  remediation := some "Say what the port is for"
  description := none
  owners := []
  tags := []
  enabled := true
  condition := .all false
    [.test false (.text "Gi\\d" .regex .id none), .test true (.hasChild "shutdown"),
      .test false (.lacksChild "description")]

/-- A port without any statements of its own. -/
def barePort : Node := Node.group "interface Gi0/1".toList "interface Gi0/1" ⟨1, 1⟩

theorem compile_reports_barePort :
    ∃ rule, undescribedPort.compile .standard .empty = .ok rule ∧
      undescribedPort.Reports barePort (.ok true)
        (Engine.invoke (.ofName "cisco-ios" [barePort]) rule barePort) ∧
      rule.check barePort (.ofName "cisco-ios" [barePort])
        = .ok (.fail "interface Gi0/1 is in use and interface Gi0/1 has no description") := by
  have hcompiles : (undescribedPort.compile .standard .empty).isOk = true := by decide +kernel
  obtain ⟨rule, hrule⟩ : ∃ rule, undescribedPort.compile .standard .empty = .ok rule := by
    cases h : undescribedPort.compile .standard .empty with
    | ok rule => exact ⟨rule, rfl⟩
    | error e => rw [h] at hcompiles; cases hcompiles
  have heval : undescribedPort.condition.eval .standard .empty barePort
      (.ofName "cisco-ios" [barePort]) = .ok true := by decide +kernel
  obtain ⟨hreports, hfree⟩ := compile_reports hrule barePort (.ofName "cisco-ios" [barePort])
  obtain ⟨violated, hviolated, hcheck⟩ := hfree rfl
  cases heval.symm.trans hviolated
  rw [heval] at hreports
  exact ⟨rule, hrule, hreports, hcheck⟩

end RuleEntry

end DeviceLint
