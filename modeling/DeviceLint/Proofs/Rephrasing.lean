/-
What a condition says may be said in other words.

There are two ways to say the opposite of a condition, and most of what can be said with an
opposite can be said without it: one of all conditions fails where some of the opposites holds,
a child is lacking where it is not there, a field differs where it is not equal.  `Law` has the
pairs of wordings, and a condition may be rephrased anywhere inside it.

Other words change nothing that a rule can notice: not whether the condition compiles, and of the
predicate that it compiles to neither the value on any node nor the error of a helper.  Two
conditions with the same predicate are not told apart further up, so each law is shown of
predicates alone.  Errors are no obstacle since an opposite has the errors of what it is opposed
to, and the order in which conditions are asked stays the same.
-/
import DeviceLint.Helper.Builtin
import DeviceLint.Regex.Reader
import DeviceLint.Rule.File
import Mathlib.Data.List.Forall2
import Mathlib.Logic.Relation

namespace DeviceLint

/-! ### Wordings -/

namespace Condition

/-- The two ways to say the opposite of a condition: by another one, and by its own switch. -/
inductive Opposite (cond : Condition) : Condition → Prop
  | wrapped : Opposite cond (not false cond)
  | switched : Opposite cond cond.negate

/-- What stands for the node among the arguments of a helper. -/
def nodeReference : Value := .object [("$ref", .text "node")]

/-- Two wordings of one condition. -/
inductive Law (helpers : HelperRegistry) : Condition → Condition → Prop
  | opposite {cond a b : Condition} (ha : Opposite cond a) (hb : Opposite cond b) :
      Law helpers a b
  | twice {cond a b : Condition} (ha : Opposite cond a) (hb : Opposite a b) : Law helpers b cond
  | notAll {cs ds : List Condition} {a : Condition} (ha : Opposite (all false cs) a)
      (hds : List.Forall₂ Opposite cs ds) : Law helpers a (any false ds)
  | notAny {cs ds : List Condition} {a : Condition} (ha : Opposite (any false cs) a)
      (hds : List.Forall₂ Opposite cs ds) : Law helpers a (all false ds)
  | nestedAll (negated : Bool) (before inner after : List Condition) :
      Law helpers (all negated (before ++ all false inner :: after))
        (all negated (before ++ inner ++ after))
  | nestedAny (negated : Bool) (before inner after : List Condition) :
      Law helpers (any negated (before ++ any false inner :: after))
        (any negated (before ++ inner ++ after))
  | lacksChild {selector : String} {a : Condition}
      (ha : Opposite (test false (.hasChild selector)) a) :
      Law helpers a (test false (.lacksChild selector))
  /-- The helper must be the one that is always there. -/
  | askedChild (hbuiltin : helpers.resolve "hasChild" = HelperRegistry.builtin.resolve "hasChild")
      (negated : Bool) (selector : String) :
      Law helpers (test negated (.hasChild selector))
        (test negated (.helper "hasChild" (some [nodeReference, .text selector])))
  | differs {name : String} {value : Option Value} {a : Condition}
      (ha : Opposite (test false (.field name .eq value)) a) :
      Law helpers a (test false (.field name .ne value))
  | absent {name : String} {a : Condition}
      (ha : Opposite (test false (.field name .isPresent (some (.bool true)))) a) :
      Law helpers a (test false (.field name .isPresent (some (.bool false))))
  /-- Without values there is nothing to compile the field for. -/
  | oneOf (negated : Bool) (name : String) {vs : List Value} (hne : vs ≠ []) :
      Law helpers (test negated (.field name .isIn (some (.array vs))))
        (any negated (vs.map fun v => test false (.field name .eq (some v))))

/-- A condition, and the same one with other words at one place inside it. -/
inductive Rephrases (helpers : HelperRegistry) : Condition → Condition → Prop
  | here {a b : Condition} (h : Law helpers a b) : Rephrases helpers a b
  | inAll (negated : Bool) (before after : List Condition) {a b : Condition}
      (h : Rephrases helpers a b) :
      Rephrases helpers (all negated (before ++ a :: after)) (all negated (before ++ b :: after))
  | inAny (negated : Bool) (before after : List Condition) {a b : Condition}
      (h : Rephrases helpers a b) :
      Rephrases helpers (any negated (before ++ a :: after)) (any negated (before ++ b :: after))
  | inNot (negated : Bool) {a b : Condition} (h : Rephrases helpers a b) :
      Rephrases helpers (not negated a) (not negated b)

/-- The predicate of a condition, if it compiles. -/
def predicate? (engine : RegexEngine) (helpers : HelperRegistry) (cond : Condition) :
    Option Predicate :=
  (cond.compile engine helpers).toOption

end Condition

/-! ### Predicates -/

namespace Predicate

@[simp] theorem negate_negate (p : Predicate) : p.negate.negate = p := by
  funext n c
  show ((p n c).map Bool.not).map Bool.not = p n c
  cases p n c with
  | error e => rfl
  | ok b => cases b <;> rfl

theorem negateIf_not (negated : Bool) (p : Predicate) :
    p.negateIf (!negated) = (p.negateIf negated).negate := by
  cases negated with
  | false => rfl
  | true => exact (negate_negate p).symm

@[simp] theorem map_negate_negate (ps : List Predicate) : (ps.map negate).map negate = ps := by
  simp [Function.comp_def]

theorem all_cons (p : Predicate) (ps : List Predicate) (n : Node) (c : Context) :
    all (p :: ps) n c = (p n c).bind fun b => if b then all ps n c else .ok false := by
  rw [all, List.allM_cons]
  cases p n c with
  | error e => rfl
  | ok b => cases b <;> rfl

theorem any_cons (p : Predicate) (ps : List Predicate) (n : Node) (c : Context) :
    any (p :: ps) n c = (p n c).bind fun b => if b then .ok true else any ps n c := by
  rw [any, List.anyM_cons]
  cases p n c with
  | error e => rfl
  | ok b => cases b <;> rfl

/-- Asking for all stops where asking for any of the opposites does, or with the same error. -/
theorem negate_all (ps : List Predicate) : (all ps).negate = any (ps.map negate) := by
  funext n c
  induction ps with
  | nil => rfl
  | cons p ps ih =>
      rw [List.map_cons, any_cons, ← ih, negate, all_cons, negate, negate]
      cases p n c with
      | error e => rfl
      | ok b => cases b <;> rfl

theorem negate_any (ps : List Predicate) : (any ps).negate = all (ps.map negate) := by
  rw [← negate_negate (all _), negate_all, map_negate_negate]

theorem all_append (ps qs : List Predicate) (n : Node) (c : Context) :
    all (ps ++ qs) n c = (all ps n c).bind fun b => if b then all qs n c else .ok false := by
  induction ps with
  | nil => rfl
  | cons p ps ih =>
      rw [List.cons_append, all_cons, all_cons, ih]
      cases p n c with
      | error e => rfl
      | ok b => cases b <;> rfl

theorem all_nested (before inner after : List Predicate) :
    all (before ++ all inner :: after) = all (before ++ inner ++ after) := by
  funext n c
  rw [List.append_assoc, all_append, all_append, all_cons, all_append]

theorem any_nested (before inner after : List Predicate) :
    any (before ++ any inner :: after) = any (before ++ inner ++ after) := by
  have h := congrArg negate
    (all_nested (before.map negate) (inner.map negate) (after.map negate))
  simpa only [negate_all, negate_negate, List.map_append, List.map_cons, map_negate_negate] using h

end Predicate

/-! ### Compiled conditions -/

/-- A computation in steps has the value that its steps lead to. -/
theorem toOption_bind {ε α β : Type} (x : Except ε α) (f : α → Except ε β) :
    (x >>= f).toOption = x.toOption.bind fun a => (f a).toOption := by
  cases x <;> rfl

theorem toOption_bind_pure {ε α β : Type} (x : Except ε α) (f : α → β) :
    (do return f (← x)).toOption = x.toOption.map f := by
  cases x <;> rfl

namespace Condition

variable {engine : RegexEngine} {helpers : HelperRegistry}

theorem predicate?_test (negated : Bool) (t : Test) :
    (test negated t).predicate? engine helpers
      = (compileTest engine helpers t).toOption.map fun p => p.negateIf negated := by
  rw [predicate?, compile, toOption_bind_pure]

theorem toOption_compileAll (cs : List Condition) :
    (compileAll engine helpers cs).toOption = cs.mapM (predicate? engine helpers) := by
  induction cs with
  | nil => rfl
  | cons cond cs ih =>
      rw [compileAll, toOption_bind, List.mapM_cons, ← ih]
      refine congrArg (Option.bind _) (funext fun p => ?_)
      rw [toOption_bind_pure]
      cases (compileAll engine helpers cs).toOption <;> rfl

theorem predicate?_all (negated : Bool) (cs : List Condition) :
    (all negated cs).predicate? engine helpers
      = (cs.mapM (predicate? engine helpers)).map fun ps =>
          (Predicate.all ps).negateIf negated := by
  rw [predicate?, compile, toOption_bind_pure, toOption_compileAll]

theorem predicate?_any (negated : Bool) (cs : List Condition) :
    (any negated cs).predicate? engine helpers
      = (cs.mapM (predicate? engine helpers)).map fun ps =>
          (Predicate.any ps).negateIf negated := by
  rw [predicate?, compile, toOption_bind_pure, toOption_compileAll]

theorem predicate?_not (negated : Bool) (cond : Condition) :
    (not negated cond).predicate? engine helpers
      = (cond.predicate? engine helpers).map fun p => p.negate.negateIf negated := by
  rw [predicate?, compile, toOption_bind_pure, predicate?]

/-- Either way to say the opposite compiles to the opposite predicate. -/
theorem Opposite.predicate?_eq {cond a : Condition} (h : Opposite cond a) :
    a.predicate? engine helpers = (cond.predicate? engine helpers).map Predicate.negate := by
  cases h with
  | wrapped => exact predicate?_not false cond
  | switched =>
      cases cond <;>
        simp only [negate, isNegated, withNegation, predicate?_test, predicate?_all,
          predicate?_any, predicate?_not, Option.map_map, Function.comp_def,
          Predicate.negateIf_not]

theorem mapM_predicate?_opposite {cs ds : List Condition} (h : List.Forall₂ Opposite cs ds) :
    ds.mapM (predicate? engine helpers)
      = (cs.mapM (predicate? engine helpers)).map (List.map Predicate.negate) := by
  induction h with
  | nil => rfl
  | cons hd _ ih =>
      rw [List.mapM_cons, List.mapM_cons, ih, hd.predicate?_eq]
      cases predicate? engine helpers _ <;> cases List.mapM (predicate? engine helpers) _ <;> rfl

/-! ### Compiled tests -/

theorem toOption_compileField (name : String) (op : Operator) (value : Option Value) :
    (compileField engine name op value).toOption
      = (NodeField.ofName? name).bind fun field => (comparison engine op value).toOption.map
          fun cmp n c => .ok (cmp.holds (!c.caseSensitive) (field.read? n)) := by
  rw [compileField]
  cases NodeField.ofName? name with
  | none => rfl
  | some field => exact toOption_bind_pure _ _

theorem predicate?_field (name : String) (op : Operator) (value : Option Value) :
    (test false (.field name op value)).predicate? engine helpers
      = (compileField engine name op value).toOption := by
  rw [predicate?_test]
  exact Option.map_id' ..

/-- If one comparison holds where another does not, of whatever field and also of a missing one,
then one test is the opposite of the other. -/
theorem toOption_compileField_opposite (name : String) {op op' : Operator}
    {value value' : Option Value}
    (h : (comparison engine op' value').toOption.map (fun cmp ignoreCase => cmp.holds ignoreCase)
      = (comparison engine op value).toOption.map fun cmp ignoreCase actual =>
          !cmp.holds ignoreCase actual) :
    (compileField engine name op' value').toOption
      = (compileField engine name op value).toOption.map Predicate.negate := by
  rw [toOption_compileField, toOption_compileField]
  cases NodeField.ofName? name with
  | none => rfl
  | some field =>
      have hmap := congrArg (Option.map fun (holds : Bool → Option Value → Bool) (n : Node)
        (c : Context) => (Except.ok (holds (!c.caseSensitive) (field.read? n)) :
          Except HelperError Bool)) h
      rw [Option.map_map, Option.map_map] at hmap
      rw [Option.bind_some, Option.bind_some, Option.map_map]
      exact hmap

theorem comparison_ne (value : Option Value) :
    (comparison engine .ne value).toOption.map (fun cmp ignoreCase => cmp.holds ignoreCase)
      = (comparison engine .eq value).toOption.map fun cmp ignoreCase actual =>
          !cmp.holds ignoreCase actual := by
  cases value with
  | none => rfl
  | some v =>
      refine congrArg some (funext fun ignoreCase => funext fun actual => ?_)
      cases actual <;> rfl

theorem comparison_isPresent_false :
    (comparison engine .isPresent (some (.bool false))).toOption.map
        (fun cmp ignoreCase => cmp.holds ignoreCase)
      = (comparison engine .isPresent (some (.bool true))).toOption.map fun cmp ignoreCase actual =>
          !cmp.holds ignoreCase actual := by
  refine congrArg some (funext fun ignoreCase => funext fun actual => ?_)
  cases actual <;> rfl

/-- Whether a field of a node is equal to a value. -/
def equals (field : NodeField) (v : Value) : Predicate := fun n c =>
  .ok (Comparison.holds (!c.caseSensitive) (.eq v) (field.read? n))

theorem mapM_predicate?_eq {name : String} {field : NodeField}
    (hfield : NodeField.ofName? name = some field) (vs : List Value) :
    (vs.map fun v => test false (.field name .eq (some v))).mapM (predicate? engine helpers)
      = some (vs.map (equals field)) := by
  induction vs with
  | nil => rfl
  | cons v vs ih =>
      rw [List.map_cons, List.mapM_cons, ih, predicate?_field, toOption_compileField, hfield]
      rfl

/-- A field that is missing is equal to none of the values. -/
theorem any_equals (field : NodeField) (vs : List Value) (n : Node) (c : Context) :
    Predicate.any (vs.map (equals field)) n c
      = .ok (Comparison.holds (!c.caseSensitive) (.isIn vs) (field.read? n)) := by
  induction vs with
  | nil => cases h : field.read? n <;> simp [Predicate.any, Comparison.holds, pure, Except.pure]
  | cons v vs ih =>
      rw [List.map_cons, Predicate.any_cons, ih, equals]
      cases field.read? n with
      | none => rfl
      | some actual =>
          simp only [Comparison.holds, List.any_cons]
          cases sameFieldValue (!c.caseSensitive) actual v <;> rfl

theorem toOption_compileField_isIn (name : String) {vs : List Value} (hne : vs ≠ []) :
    (compileField engine name .isIn (some (.array vs))).toOption
      = ((vs.map fun v => test false (.field name .eq (some v))).mapM
          (predicate? engine helpers)).map Predicate.any := by
  rw [toOption_compileField]
  cases hfield : NodeField.ofName? name with
  | none =>
      obtain ⟨v, vs', rfl⟩ := List.exists_cons_of_ne_nil hne
      rw [List.map_cons, List.mapM_cons, predicate?_field, toOption_compileField, hfield]
      rfl
  | some field =>
      rw [mapM_predicate?_eq hfield]
      exact congrArg some (funext fun n => funext fun c => (any_equals field vs n c).symm)

theorem compileTest_hasChild
    (hbuiltin : helpers.resolve "hasChild" = HelperRegistry.builtin.resolve "hasChild")
    (selector : String) :
    compileTest engine helpers (.helper "hasChild" (some [nodeReference, .text selector]))
      = compileTest engine helpers (.hasChild selector) := by
  have hresolve : helpers.resolve "hasChild" = .ok ⟨"hasChild", .fixed .hasChild⟩ := hbuiltin
  rw [compileTest, compileTest]
  unfold compileHelper
  rw [hresolve]
  rfl

/-! ### The laws -/

/-- A condition that joins others may be replaced by them among conditions that are joined in the
same way. -/
theorem mapM_nested {join : List Predicate → Predicate}
    (hjoin : ∀ before inner after,
      join (before ++ join inner :: after) = join (before ++ inner ++ after))
    {cond : Condition} {inner : List Condition}
    (hcond : cond.predicate? engine helpers = (inner.mapM (predicate? engine helpers)).map join)
    (before after : List Condition) :
    ((before ++ cond :: after).mapM (predicate? engine helpers)).map join
      = ((before ++ inner ++ after).mapM (predicate? engine helpers)).map join := by
  simp only [List.mapM_append, List.mapM_cons, hcond]
  cases before.mapM (predicate? engine helpers) with
  | none => rfl
  | some ps =>
      cases inner.mapM (predicate? engine helpers) with
      | none => rfl
      | some qs =>
          cases after.mapM (predicate? engine helpers) with
          | none => rfl
          | some rs => exact congrArg some (hjoin ps qs rs)

/-- How a condition is switched makes no difference to how its parts are joined. -/
theorem map_negateIf {negated : Bool} {join : List Predicate → Predicate}
    {xs ys : Option (List Predicate)} (h : xs.map join = ys.map join) :
    xs.map (fun ps => (join ps).negateIf negated) = ys.map fun ps => (join ps).negateIf negated := by
  simpa only [Option.map_map, Function.comp_def]
    using congrArg (Option.map (Predicate.negateIf negated)) h

theorem Law.predicate?_eq {a b : Condition} (h : Law helpers a b) :
    a.predicate? engine helpers = b.predicate? engine helpers := by
  cases h with
  | opposite ha hb => rw [ha.predicate?_eq, hb.predicate?_eq]
  | twice ha hb =>
      rw [hb.predicate?_eq, ha.predicate?_eq, Option.map_map]
      simp [Function.comp_def]
  | notAll ha hds =>
      rw [ha.predicate?_eq, predicate?_all, predicate?_any, mapM_predicate?_opposite hds,
        Option.map_map, Option.map_map]
      exact congrArg (Option.map · _) (funext Predicate.negate_all)
  | notAny ha hds =>
      rw [ha.predicate?_eq, predicate?_all, predicate?_any, mapM_predicate?_opposite hds,
        Option.map_map, Option.map_map]
      exact congrArg (Option.map · _) (funext Predicate.negate_any)
  | nestedAll negated before inner after =>
      rw [predicate?_all, predicate?_all]
      exact map_negateIf
        (mapM_nested Predicate.all_nested (predicate?_all false inner) before after)
  | nestedAny negated before inner after =>
      rw [predicate?_any, predicate?_any]
      exact map_negateIf
        (mapM_nested Predicate.any_nested (predicate?_any false inner) before after)
  | lacksChild ha =>
      rw [ha.predicate?_eq]
      rfl
  | askedChild hbuiltin negated selector =>
      rw [predicate?_test, predicate?_test, compileTest_hasChild hbuiltin]
  | differs ha =>
      rw [ha.predicate?_eq, predicate?_field, predicate?_field,
        toOption_compileField_opposite _ (comparison_ne _)]
  | absent ha =>
      rw [ha.predicate?_eq, predicate?_field, predicate?_field,
        toOption_compileField_opposite _ comparison_isPresent_false]
  | oneOf negated name hne =>
      rw [predicate?_test, predicate?_any, compileTest, toOption_compileField_isIn name hne,
        Option.map_map]
      rfl

/-- Whatever is changed inside a condition, only the predicate of what is changed matters. -/
theorem Rephrases.predicate?_eq {a b : Condition} (h : Rephrases helpers a b) :
    a.predicate? engine helpers = b.predicate? engine helpers := by
  induction h with
  | here h => exact h.predicate?_eq
  | inAll negated before after _ ih =>
      simp only [predicate?_all, List.mapM_append, List.mapM_cons, ih]
  | inAny negated before after _ ih =>
      simp only [predicate?_any, List.mapM_append, List.mapM_cons, ih]
  | inNot negated _ ih => rw [predicate?_not, predicate?_not, ih]

theorem predicate?_eq_of_eqvGen {a b : Condition} (h : Relation.EqvGen (Rephrases helpers) a b) :
    a.predicate? engine helpers = b.predicate? engine helpers := by
  induction h with
  | rel a b h => exact h.predicate?_eq
  | refl a => rfl
  | symm a b _ ih => exact ih.symm
  | trans a b c _ _ ihab ihbc => exact ihab.trans ihbc

/-- A rule looks at its condition through the predicate only. -/
theorem toOption_compile_rule (r : RuleEntry) :
    (r.compile engine helpers).toOption
      = (r.condition.predicate? engine helpers).map r.withPredicate := by
  rw [RuleEntry.compile, toOption_bind_pure, predicate?]

/--
**Other words never change a rule.**

Two conditions that are the same but for the words, at any number of places inside them, both
compile or both do not.  If they do, they have the same value on every node in every context, or
the same error of a helper; and a rule with either of them as its condition is the same rule.
-/
theorem compile_rephrased (engine : RegexEngine) {a b : Condition}
    (h : Relation.EqvGen (Rephrases helpers) a b) :
    ((∃ p, a.compile engine helpers = .ok p) ↔ ∃ q, b.compile engine helpers = .ok q) ∧
      (∀ p q, a.compile engine helpers = .ok p → b.compile engine helpers = .ok q →
        ∀ n c, p n c = q n c) ∧
      ∀ r : RuleEntry, ({ r with condition := a }.compile engine helpers).toOption
        = ({ r with condition := b }.compile engine helpers).toOption := by
  have heq : a.predicate? engine helpers = b.predicate? engine helpers := predicate?_eq_of_eqvGen h
  have hsome : ∀ (cond : Condition) (p : Predicate),
      cond.compile engine helpers = .ok p ↔ cond.predicate? engine helpers = some p := by
    intro cond p
    rw [predicate?]
    cases cond.compile engine helpers <;> simp [Except.toOption]
  refine ⟨?_, fun p q hp hq n c => ?_, fun r => ?_⟩
  · simp only [hsome, heq]
  · rw [hsome, heq] at hp
    rw [hsome, hp] at hq
    rw [Option.some.inj hq]
  · rw [toOption_compile_rule, toOption_compile_rule]
    dsimp only
    rw [heq]
    rfl

theorem compile_rephrased_unusedPort :
    let unused : Condition := not false (all false
      [all false [test true (.hasChild "shutdown")],
        test true (.field "params.9" .isIn (some (.array [.text "up", .text "down"])))])
    let plain : Condition := any false
      [test false (.helper "hasChild" (some [nodeReference, .text "shutdown"])),
        any false [test false (.field "params.9" .eq (some (.text "up"))),
          test false (.field "params.9" .eq (some (.text "down")))]]
    Relation.EqvGen (Rephrases .builtin) unused plain ∧
      ∀ r : RuleEntry, ({ r with condition := unused }.compile .standard .builtin).toOption
        = ({ r with condition := plain }.compile .standard .builtin).toOption := by
  intro unused plain
  have h : Relation.EqvGen (Rephrases .builtin) unused plain := by
    refine .trans _ _ _ (.rel _ _ (.inNot false (.here (.nestedAll false [] _ _)))) ?_
    refine .trans _ _ _ (.rel _ _ (.here
      (.notAll .wrapped (.cons .switched (.cons .switched .nil))))) ?_
    refine .trans _ _ _ (.rel _ _ (.inAny false [] _ (.here (.askedChild rfl false _)))) ?_
    exact .rel _ _ (.inAny false [_] [] (.here (.oneOf false _ (by simp))))
  exact ⟨h, (compile_rephrased .standard h).2.2⟩

end Condition

end DeviceLint
