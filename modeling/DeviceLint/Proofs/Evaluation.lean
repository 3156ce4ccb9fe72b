/-
The value of a condition, and that the compiled condition has it.

Compiling a condition finds all that is wrong with it and leaves functions that hold on
to one another.  `eval` is what the condition says, read off directly: it compiles
nothing, goes down the condition with the node in hand, and works out patterns, names and
operands where it meets them.  Of an ill-formed test it makes nothing in particular.  What
a regular expression matches is whatever the engine says.

Conditions that compile have the same value either way, errors included, so a predicate
need not be looked into any more.  The only errors are those of helpers; without helpers
there is always a value.
-/
import DeviceLint.Condition.Compile
import DeviceLint.Proofs.Outcome

namespace DeviceLint

/-! ### What a condition says -/

/-- Whether a node has a text in some place, which is looked for in some way. -/
def MatchMode.holds (engine : RegexEngine) (mode : MatchMode) (target : MatchTarget)
    (ignoreCase : Bool) (pattern : String) (n : Node) : Bool :=
  match mode with
  | contains => textContains ignoreCase (target.read n) (target.pattern pattern)
  | exact => textEquals ignoreCase (target.read n) (target.pattern pattern)
  | start => textStartsWith ignoreCase (target.read n) (target.pattern pattern)
  | regex => engine.finds ignoreCase pattern (target.read n)

namespace Operator

/-- Whether a value, as a text, compares with another one that must be a scalar. -/
def holdsOfText (test : Bool → String → String → Bool) (ignoreCase : Bool)
    (actual expected : Value) : Bool :=
  expected.scalarText?.any fun pattern => test ignoreCase (actual.scalarText?.getD "") pattern

/-- Whether both values are numbers and compare. -/
def holdsOfNumbers (test : Binary64 → Binary64 → Bool) (actual expected : Value) : Bool :=
  expected.toBinary64?.any fun b => (numberOf? actual).any fun a => test a b

/-- Whether a field's value is to another one as the operator says. -/
def holds (engine : RegexEngine) (op : Operator) (ignoreCase : Bool) (actual expected : Value) :
    Bool :=
  match op with
  | eq => sameFieldValue ignoreCase actual expected
  | ne => !sameFieldValue ignoreCase actual expected
  | contains => holdsOfText textContains ignoreCase actual expected
  | startsWith => holdsOfText textStartsWith ignoreCase actual expected
  | endsWith => holdsOfText textEndsWith ignoreCase actual expected
  | matchesRegex => expected.text?.any fun pattern =>
      engine.finds ignoreCase pattern (actual.scalarText?.getD "")
  | gt => holdsOfNumbers (fun a b => b.lt a) actual expected
  | ge => holdsOfNumbers (fun a b => b.le a) actual expected
  | lt => holdsOfNumbers (fun a b => a.lt b) actual expected
  | le => holdsOfNumbers (fun a b => a.le b) actual expected
  | isIn => expected.array?.any fun vs => vs.any (sameFieldValue ignoreCase actual)
  | isPresent => expected.bool?.any fun wanted => wanted

/-- Whether a field that is missing satisfies the operator: it differs from everything, and is
not present. -/
def holdsOfMissing (op : Operator) (expected : Option Value) : Bool :=
  op == ne || op == isPresent && (expected.bind Value.bool?).any fun wanted => !wanted

/-- Whether a field, present or not, satisfies the operator.  The operand may be left out if it
is only asked for the field's presence. -/
def holdsOf (engine : RegexEngine) (op : Operator) (ignoreCase : Bool)
    (actual expected : Option Value) : Bool :=
  match actual, expected with
  | none, expected => op.holdsOfMissing expected
  | some actual, some expected => op.holds engine ignoreCase actual expected
  | some _, none => op == isPresent

end Operator

/-- What a helper is passed for a value in a condition: the node or the context if the value
refers to it, and the value itself otherwise. -/
def Argument.ofValue (n : Node) (c : Context) : Value → Argument
  | .object [("$ref", .text "node")] => .node n
  | .object [("$ref", .text "context")] => .context c
  | v => .value v

/-- What a test says about a node. -/
def Test.eval (engine : RegexEngine) (helpers : HelperRegistry) (n : Node) (c : Context) :
    Test → Except HelperError Bool
  | .text pattern mode target ignoreCase =>
    .ok (mode.holds engine target (ignoreCase.getD !c.caseSensitive) pattern n)
  | .hasChild selector => .ok (n.hasChildStarting selector)
  | .lacksChild selector => .ok (!n.hasChildStarting selector)
  | .helper name args =>
    match helpers.resolve name with
    | .error e => .error e
    | .ok resolved =>
      match resolved.call c ((args.map (·.map (Argument.ofValue n c))).getD [.node n]) with
      | .error e => .error e
      | .ok v => .ok v.truthy
  | .field name op value =>
    .ok ((NodeField.ofName? name).any fun field =>
      op.holdsOf engine (!c.caseSensitive) (field.read? n) value)

/-- Whether a test is something else than the call of a helper. -/
def Test.isHelperFree : Test → Bool
  | .helper _ _ => false
  | _ => true

/-- The opposite of a value if it is to be negated; there is no opposite of an error. -/
def negatedValue (negated : Bool) : Except HelperError Bool → Except HelperError Bool
  | .ok b => .ok (negated != b)
  | .error e => .error e

namespace Condition

mutual

/-- What a condition says about a node. -/
def eval (engine : RegexEngine) (helpers : HelperRegistry) (n : Node) (c : Context) :
    Condition → Except HelperError Bool
  | test negated t => negatedValue negated (t.eval engine helpers n c)
  | all negated cs => negatedValue negated (evalAll engine helpers n c cs)
  | any negated cs => negatedValue negated (evalAny engine helpers n c cs)
  | not negated cond => negatedValue negated (negatedValue true (eval engine helpers n c cond))

/-- Whether all conditions hold.  The first one that does not, or is in error, settles it. -/
def evalAll (engine : RegexEngine) (helpers : HelperRegistry) (n : Node) (c : Context) :
    List Condition → Except HelperError Bool
  | [] => .ok true
  | cond :: cs =>
    match eval engine helpers n c cond with
    | .ok true => evalAll engine helpers n c cs
    | .ok false => .ok false
    | .error e => .error e

/-- Whether some condition holds.  The first one that does, or is in error, settles it. -/
def evalAny (engine : RegexEngine) (helpers : HelperRegistry) (n : Node) (c : Context) :
    List Condition → Except HelperError Bool
  | [] => .ok false
  | cond :: cs =>
    match eval engine helpers n c cond with
    | .ok true => .ok true
    | .ok false => evalAny engine helpers n c cs
    | .error e => .error e

end

mutual

/-- Whether no helper is called anywhere in a condition. -/
def isHelperFree : Condition → Bool
  | test _ t => t.isHelperFree
  | all _ cs => areHelperFree cs
  | any _ cs => areHelperFree cs
  | not _ cond => isHelperFree cond

def areHelperFree : List Condition → Bool
  | [] => true
  | cond :: cs => isHelperFree cond && areHelperFree cs

end

end Condition

/-! ### Compiled tests -/

variable {engine : RegexEngine}

theorem RegexPair.ofPattern_isFoundIn {pattern : String} {r : RegexPair}
    (h : ofPattern engine pattern = .ok r) (ignoreCase : Bool) (subject : String) :
    r.isFoundIn ignoreCase subject = engine.finds ignoreCase pattern subject := by
  obtain ⟨sensitive, hsensitive, h⟩ := ok_of_bind h
  obtain ⟨insensitive, hinsensitive, h⟩ := ok_of_bind h
  cases h
  rw [mapError_eq_ok_iff] at hsensitive hinsensitive
  rw [RegexEngine.finds]
  cases ignoreCase with
  | false => rw [hsensitive]; rfl
  | true => rw [hinsensitive]; rfl

theorem textMatcher_holds {pattern : String} {target : MatchTarget} {mode : MatchMode}
    {matcher : Bool → String → Bool} (h : textMatcher engine pattern target mode = .ok matcher)
    (ignoreCase : Bool) (n : Node) :
    matcher ignoreCase (target.read n) = mode.holds engine target ignoreCase pattern n := by
  cases mode with
  | contains => cases h; rfl
  | exact => cases h; rfl
  | start => cases h; rfl
  | regex =>
      obtain ⟨r, hr, h⟩ := ok_of_bind h
      cases h
      exact RegexPair.ofPattern_isFoundIn hr ignoreCase (target.read n)

theorem ArgumentSpec.argument_ofValue {v : Value} {spec : ArgumentSpec} (h : ofValue v = .ok spec)
    (n : Node) (c : Context) : spec.argument n c = Argument.ofValue n c v := by
  unfold ofValue at h
  split at h
  · cases h; rfl
  · cases h; rfl
  · cases h
  · cases h
    rename_i hnode hcontext hother
    unfold Argument.ofValue
    split
    · exact absurd rfl hnode
    · exact absurd rfl hcontext
    · rfl

theorem ArgumentSpec.map_argument_ofValue (n : Node) (c : Context) (vs : List Value) :
    ∀ {specs : List ArgumentSpec}, vs.mapM ofValue = .ok specs →
      specs.map (·.argument n c) = vs.map (Argument.ofValue n c) := by
  induction vs with
  | nil => intro specs h; cases h; rfl
  | cons v vs ih =>
      intro specs h
      rw [List.mapM_cons] at h
      obtain ⟨spec, hspec, h⟩ := ok_of_bind h
      obtain ⟨specs', hspecs, h⟩ := ok_of_bind h
      cases h
      rw [List.map_cons, List.map_cons, argument_ofValue hspec, ih hspecs]

/-! ### Compiled comparisons -/

theorem some_of_operand {α : Type} {op : Operator} {fault : OperandFault} {x : Option α} {a : α}
    (h : operand op fault x = .ok a) : x = some a := by
  cases x with
  | none => cases h
  | some b => cases h; rfl

/-- A comparison that holds exactly where the operator with its operand does. -/
def Comparison.Means (engine : RegexEngine) (cmp : Comparison) (op : Operator)
    (value : Option Value) : Prop :=
  ∀ (ignoreCase : Bool) (actual : Option Value),
    cmp.holds ignoreCase actual = op.holdsOf engine ignoreCase actual value

/-- Most comparisons are made of the operand alone. -/
theorem means_of_operand {α : Type} {op : Operator} {fault : OperandFault} {x : Option α}
    {make : α → Comparison} {cmp : Comparison} {v : Value}
    (h : (do return make (← operand op fault x)) = Except.ok cmp)
    (hpresent : ∀ ignoreCase actual,
      op.holds engine ignoreCase actual v = x.any fun a => (make a).holds ignoreCase (some actual))
    (hmissing : ∀ ignoreCase a, x = some a →
      op.holdsOfMissing (some v) = (make a).holds ignoreCase none) :
    cmp.Means engine op (some v) := by
  obtain ⟨a, ha, h⟩ := ok_of_bind h
  cases h
  have hx := some_of_operand ha
  intro ignoreCase actual
  cases actual with
  | none => exact (hmissing ignoreCase a hx).symm
  | some actual =>
      show _ = op.holds engine ignoreCase actual v
      rw [hpresent, hx]
      rfl

theorem comparisonWith_means {op : Operator} {v : Value} {cmp : Comparison}
    (h : comparisonWith engine op v = .ok cmp) : cmp.Means engine op (some v) := by
  cases op with
  | eq => cases h; intro ignoreCase actual; cases actual <;> rfl
  | ne => cases h; intro ignoreCase actual; cases actual <;> rfl
  | contains => exact means_of_operand h (fun _ _ => rfl) (fun _ _ _ => rfl)
  | startsWith => exact means_of_operand h (fun _ _ => rfl) (fun _ _ _ => rfl)
  | endsWith => exact means_of_operand h (fun _ _ => rfl) (fun _ _ _ => rfl)
  | matchesRegex =>
      obtain ⟨pattern, hpattern, h⟩ := ok_of_bind h
      obtain ⟨r, hr, h⟩ := ok_of_bind h
      cases h
      intro ignoreCase actual
      cases actual with
      | none => rfl
      | some a =>
          show r.isFoundIn ignoreCase _ = (v.text?).any _
          rw [some_of_operand hpattern, RegexPair.ofPattern_isFoundIn hr]
          rfl
  | gt => exact means_of_operand h (fun _ _ => rfl) (fun _ _ _ => rfl)
  | ge => exact means_of_operand h (fun _ _ => rfl) (fun _ _ _ => rfl)
  | lt => exact means_of_operand h (fun _ _ => rfl) (fun _ _ _ => rfl)
  | le => exact means_of_operand h (fun _ _ => rfl) (fun _ _ _ => rfl)
  | isIn => exact means_of_operand h (fun _ _ => rfl) (fun _ _ _ => rfl)
  | isPresent =>
      refine means_of_operand h (fun _ _ => rfl) fun _ wanted hwanted => ?_
      show (v.bool?).any _ = !wanted
      rw [hwanted]
      rfl

theorem comparison_means {op : Operator} {value : Option Value} {cmp : Comparison}
    (h : comparison engine op value = .ok cmp) : cmp.Means engine op value := by
  cases value with
  | none =>
      rw [comparison] at h
      by_cases hop : op = .isPresent
      · subst hop
        cases h
        intro ignoreCase actual
        cases actual <;> rfl
      · rw [if_neg (by rwa [beq_iff_eq])] at h
        cases h
  | some v => exact comparisonWith_means h

/-! ### Compiled conditions -/

namespace Condition

theorem compileText_eval {helpers : HelperRegistry} {pattern : String} {mode : MatchMode}
    {target : MatchTarget} {ignoreCase : Option Bool} {p : Predicate}
    (h : compileText engine pattern mode target ignoreCase = .ok p) (n : Node) (c : Context) :
    p n c = (Test.text pattern mode target ignoreCase).eval engine helpers n c := by
  rw [compileText] at h
  by_cases hpattern : pattern.isEmpty = true
  · rw [if_pos hpattern] at h; cases h
  · rw [if_neg hpattern] at h
    obtain ⟨matcher, hmatcher, h⟩ := ok_of_bind h
    cases h
    show Except.ok (matcher _ _) = _
    rw [textMatcher_holds hmatcher]
    rfl

theorem compileHelper_eval {helpers : HelperRegistry} {name : String} {args : Option (List Value)}
    {p : Predicate} (h : compileHelper helpers name args = .ok p) (n : Node) (c : Context) :
    p n c = (Test.helper name args).eval engine helpers n c := by
  obtain ⟨helper, hhelper, h⟩ := ok_of_bind h
  have hresolve : helpers.resolve name = .ok helper := by
    cases hr : helpers.resolve name with
    | error e => rw [hr] at hhelper; cases hhelper
    | ok _ => rw [hr] at hhelper; cases hhelper; rfl
  have hargs : ∃ specs : List ArgumentSpec,
      p = (fun n c => (helper.call c (specs.map (·.argument n c))).map Value.truthy) ∧
        specs.map (·.argument n c)
          = (args.map (·.map (Argument.ofValue n c))).getD [.node n] := by
    cases args with
    | none => cases h; exact ⟨[.node], rfl, rfl⟩
    | some vs =>
        obtain ⟨specs, hspecs, h⟩ := ok_of_bind h
        cases h
        exact ⟨specs, rfl, ArgumentSpec.map_argument_ofValue n c vs hspecs⟩
  obtain ⟨specs, rfl, hspecs⟩ := hargs
  show (helper.call c (specs.map (·.argument n c))).map Value.truthy = _
  rw [Test.eval, hresolve, hspecs]
  dsimp only
  cases helper.call c ((args.map (·.map (Argument.ofValue n c))).getD [.node n]) <;> rfl

theorem compileField_eval {helpers : HelperRegistry} {name : String} {op : Operator}
    {value : Option Value} {p : Predicate} (h : compileField engine name op value = .ok p)
    (n : Node) (c : Context) : p n c = (Test.field name op value).eval engine helpers n c := by
  unfold compileField at h
  cases hfield : NodeField.ofName? name with
  | none => rw [hfield] at h; cases h
  | some field =>
      rw [hfield] at h
      obtain ⟨cmp, hcmp, h⟩ := ok_of_bind h
      cases h
      show Except.ok (cmp.holds _ _) = _
      rw [comparison_means hcmp, Test.eval, hfield]
      rfl

theorem compileTest_eval {helpers : HelperRegistry} {t : Test} {p : Predicate}
    (h : compileTest engine helpers t = .ok p) (n : Node) (c : Context) :
    p n c = t.eval engine helpers n c := by
  cases t with
  | text pattern mode target ignoreCase => exact compileText_eval h n c
  | hasChild selector => cases h; rfl
  | lacksChild selector => cases h; rfl
  | helper name args => exact compileHelper_eval h n c
  | field name op value => exact compileField_eval h n c

theorem negateIf_apply (negated : Bool) (p : Predicate) (n : Node) (c : Context) :
    p.negateIf negated n c = negatedValue negated (p n c) := by
  cases negated with
  | false =>
      show p n c = negatedValue false (p n c)
      cases p n c with
      | error e => rfl
      | ok b => cases b <;> rfl
  | true =>
      show (p n c).map Bool.not = negatedValue true (p n c)
      cases p n c with
      | error e => rfl
      | ok b => cases b <;> rfl

mutual

/-- A condition that compiles has the value that its predicate has. -/
theorem compile_eval {helpers : HelperRegistry} (n : Node) (c : Context) :
    ∀ (cond : Condition) {p : Predicate}, cond.compile engine helpers = .ok p →
      p n c = cond.eval engine helpers n c
  | test negated t, p, h => by
      obtain ⟨q, hq, h⟩ := ok_of_bind h
      cases h
      rw [negateIf_apply, compileTest_eval hq, eval]
  | all negated cs, p, h => by
      obtain ⟨ps, hps, h⟩ := ok_of_bind h
      cases h
      rw [negateIf_apply, eval, ← (compileAll_eval n c cs hps).1]
      rfl
  | any negated cs, p, h => by
      obtain ⟨ps, hps, h⟩ := ok_of_bind h
      cases h
      rw [negateIf_apply, eval, ← (compileAll_eval n c cs hps).2]
      rfl
  | not negated cond, p, h => by
      obtain ⟨q, hq, h⟩ := ok_of_bind h
      cases h
      rw [negateIf_apply, eval, ← compile_eval n c cond hq]
      exact congrArg _ (negateIf_apply true q n c)

/-- The same for conditions that are joined, in either way. -/
theorem compileAll_eval {helpers : HelperRegistry} (n : Node) (c : Context) :
    ∀ (cs : List Condition) {ps : List Predicate}, compileAll engine helpers cs = .ok ps →
      ps.allM (· n c) = evalAll engine helpers n c cs ∧
        ps.anyM (· n c) = evalAny engine helpers n c cs
  | [], ps, h => by
      cases h
      exact ⟨rfl, rfl⟩
  | cond :: cs, ps, h => by
      obtain ⟨p, hp, h⟩ := ok_of_bind h
      obtain ⟨ps', hps, h⟩ := ok_of_bind h
      cases h
      obtain ⟨hall, hany⟩ := compileAll_eval n c cs hps
      rw [List.allM_cons, List.anyM_cons, evalAll, evalAny, compile_eval n c cond hp, hall, hany]
      cases eval engine helpers n c cond with
      | error e => exact ⟨rfl, rfl⟩
      | ok b => cases b <;> exact ⟨rfl, rfl⟩

end

/-- Whether a condition compiles and then gives an answer about a node. -/
def Answers (engine : RegexEngine) (cond : Condition) (helpers : HelperRegistry) (n : Node)
    (c : Context) (b : Bool) : Prop :=
  ∃ p, cond.compile engine helpers = .ok p ∧ p n c = .ok b

/-- The answer is what the condition says. -/
theorem answers_iff {cond : Condition} {helpers : HelperRegistry} {n : Node} {c : Context}
    {b : Bool} : cond.Answers engine helpers n c b ↔
      (∃ p, cond.compile engine helpers = .ok p) ∧ cond.eval engine helpers n c = .ok b := by
  constructor
  · rintro ⟨p, hp, hb⟩
    rw [compile_eval n c cond hp] at hb
    exact ⟨⟨p, hp⟩, hb⟩
  · rintro ⟨⟨p, hp⟩, hb⟩
    exact ⟨p, hp, by rw [compile_eval n c cond hp, hb]⟩

/-! ### Conditions without helpers -/

mutual

/-- A condition that calls no helper has a value on every node. -/
theorem eval_ok (engine : RegexEngine) (helpers : HelperRegistry) (n : Node) (c : Context) :
    ∀ cond : Condition, cond.isHelperFree = true → ∃ b, cond.eval engine helpers n c = .ok b
  | test negated t, h => by
      cases t with
      | helper name args => cases h
      | _ => exact ⟨_, rfl⟩
  | all negated cs, h => by
      obtain ⟨⟨b, hb⟩, -⟩ := evalAll_ok engine helpers n c cs h
      exact ⟨_, by rw [eval, hb]; rfl⟩
  | any negated cs, h => by
      obtain ⟨-, b, hb⟩ := evalAll_ok engine helpers n c cs h
      exact ⟨_, by rw [eval, hb]; rfl⟩
  | not negated cond, h => by
      obtain ⟨b, hb⟩ := eval_ok engine helpers n c cond h
      exact ⟨_, by rw [eval, hb]; rfl⟩

theorem evalAll_ok (engine : RegexEngine) (helpers : HelperRegistry) (n : Node) (c : Context) :
    ∀ cs : List Condition, areHelperFree cs = true →
      (∃ b, evalAll engine helpers n c cs = .ok b) ∧ ∃ b, evalAny engine helpers n c cs = .ok b
  | [], _ => ⟨⟨true, rfl⟩, ⟨false, rfl⟩⟩
  | cond :: cs, h => by
      rw [areHelperFree, Bool.and_eq_true] at h
      obtain ⟨b, hb⟩ := eval_ok engine helpers n c cond h.1
      obtain ⟨hall, hany⟩ := evalAll_ok engine helpers n c cs h.2
      rw [evalAll, evalAny, hb]
      cases b with
      | false => exact ⟨⟨false, rfl⟩, hany⟩
      | true => exact ⟨hall, ⟨true, rfl⟩⟩

end

end Condition

end DeviceLint
