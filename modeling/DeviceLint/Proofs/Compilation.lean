/-
What keeps a condition from compiling.

Only the tests of a condition can be at fault.  What joins or negates them has nothing that
could be wrong, and is no reason either to leave a test unread: a test is compiled although
it may never be asked.  `Test.Faulty` says what is wrong with a test by itself, without
compiling it, and a condition has the error of its first faulty test, read from left to right.
Which patterns are no regular expressions is for the engine to say; nothing is assumed of it.

The induction is over conditions and lists of conditions at once.  What makes it go through
is that `FirstError` of two lists put together is that of the first one, or, if nothing is
wrong with the first one, that of the second: this is how one part after the other is
compiled.
-/
import DeviceLint.Condition.Compile
import DeviceLint.Proofs.Outcome

namespace DeviceLint

/-! ### What is wrong with a test -/

/-- Why a pattern is no regular expression.  It has to be one if letter case counts, and then if it
does not. -/
inductive RegexEngine.Refuses (engine : RegexEngine) (pattern reason : String) : Prop
  | sensitive (h : engine.compile false pattern = .error reason)
  | insensitive {search : String → Bool} (hsensitive : engine.compile false pattern = .ok search)
      (h : engine.compile true pattern = .error reason)

/-- What is wrong with the operand of an operator. -/
inductive Operator.Faulty (engine : RegexEngine) : Operator → Option Value → CompileError → Prop
  /-- Presence alone can be asked for without an operand. -/
  | missing {op : Operator} (hop : op ≠ isPresent) : Faulty engine op none (.missingValue op)
  | notScalar {op : Operator} {v : Value} (hop : op = contains ∨ op = startsWith ∨ op = endsWith)
      (hv : v.scalarText? = none) : Faulty engine op (some v) (.invalidValue op.name .notScalar)
  | notRegex {v : Value} (hv : v.text? = none) :
      Faulty engine matchesRegex (some v) (.invalidValue "matches" .notRegex)
  | invalidRegex {pattern reason : String} (h : engine.Refuses pattern reason) :
      Faulty engine matchesRegex (some (.text pattern)) (.invalidRegex pattern reason)
  | notNumber {op : Operator} {v : Value} (hop : op = gt ∨ op = ge ∨ op = lt ∨ op = le)
      (hv : v.toBinary64? = none) : Faulty engine op (some v) (.invalidValue op.name .notNumber)
  | notArray {v : Value} (hv : v.array? = none) :
      Faulty engine isIn (some v) (.invalidValue "in" .notArray)
  | notBoolean {v : Value} (hv : v.bool? = none) :
      Faulty engine isPresent (some v) (.invalidValue "exists" .notBoolean)

/-- What is wrong with an argument of a helper: it is a reference, but neither to the node nor to
the context. -/
inductive Argument.Faulty : Value → CompileError → Prop
  | unknownReference {other : Value} (hnode : other ≠ .text "node")
      (hcontext : other ≠ .text "context") :
      Faulty (.object [("$ref", other)]) (.invalidValue "$ref" (.unknownReference other))

/-- What is wrong with a test by itself. -/
inductive Test.Faulty (engine : RegexEngine) (helpers : HelperRegistry) :
    Test → CompileError → Prop
  | emptyPattern {mode : MatchMode} {target : MatchTarget} {ignoreCase : Option Bool} :
      Faulty engine helpers (.text "" mode target ignoreCase) (.invalidValue "match" .emptyPattern)
  | invalidRegex {pattern reason : String} {target : MatchTarget} {ignoreCase : Option Bool}
      (hpattern : pattern ≠ "") (h : engine.Refuses pattern reason) :
      Faulty engine helpers (.text pattern .regex target ignoreCase) (.invalidRegex pattern reason)
  /-- The name leads nowhere, whatever the arguments are. -/
  | unknownHelper {name : String} {args : Option (List Value)}
      (h : helpers.target? name = none) :
      Faulty engine helpers (.helper name args) (.helper (.unknown name))
  /-- The first argument that is wrong counts. -/
  | argument {name : String} {args : List Value} {e : CompileError}
      (hname : helpers.target? name ≠ none) (h : FirstError Argument.Faulty args e) :
      Faulty engine helpers (.helper name (some args)) e
  /-- There is no such field, whatever it is compared with. -/
  | unknownField {name : String} {op : Operator} {value : Option Value}
      (h : NodeField.ofName? name = none) :
      Faulty engine helpers (.field name op value) (.unknownField name)
  | operand {name : String} {op : Operator} {value : Option Value} {e : CompileError}
      (hname : NodeField.ofName? name ≠ none) (h : op.Faulty engine value e) :
      Faulty engine helpers (.field name op value) e

namespace Condition

mutual

/-- The tests of a condition from left to right, however they are joined or negated. -/
def tests : Condition → List Test
  | test _ t => [t]
  | all _ cs => testsAll cs
  | any _ cs => testsAll cs
  | not _ cond => tests cond

def testsAll : List Condition → List Test
  | [] => []
  | cond :: cs => tests cond ++ testsAll cs

end

end Condition

/-! ### Errors of compiled tests -/

variable {engine : RegexEngine}

theorem RegexPair.ofPattern_eq_error_iff {pattern : String} {e : CompileError} :
    ofPattern engine pattern = .error e
      ↔ ∃ reason, engine.Refuses pattern reason ∧ e = .invalidRegex pattern reason := by
  rw [ofPattern, bind_eq_error_iff]
  simp only [bind_pure_eq_error_iff, mapError_eq_error_iff, mapError_eq_ok_iff]
  constructor
  · rintro (⟨reason, h, rfl⟩ | ⟨search, hsensitive, reason, h, rfl⟩)
    · exact ⟨reason, .sensitive h, rfl⟩
    · exact ⟨reason, .insensitive hsensitive h, rfl⟩
  · rintro ⟨reason, h | ⟨hsensitive, h⟩, rfl⟩
    · exact .inl ⟨reason, h, rfl⟩
    · exact .inr ⟨_, hsensitive, reason, h, rfl⟩

theorem textMatcher_eq_error_iff {pattern : String} {target : MatchTarget} {mode : MatchMode}
    {e : CompileError} :
    textMatcher engine pattern target mode = .error e ↔ mode = .regex ∧
      ∃ reason, engine.Refuses pattern reason ∧ e = .invalidRegex pattern reason := by
  cases mode with
  | regex =>
      rw [textMatcher, bind_pure_eq_error_iff, RegexPair.ofPattern_eq_error_iff]
      simp
  | _ => simp [textMatcher]

theorem operand_eq_error_iff {α : Type} {op : Operator} {fault : OperandFault} {x : Option α}
    {e : CompileError} :
    operand op fault x = .error e ↔ x = none ∧ e = .invalidValue op.name fault := by
  cases x <;> simp [operand, eq_comm]

/-- Most operators only need their operand to be of some kind. -/
theorem operand_comparison_eq_error_iff {α : Type} {op : Operator} {fault : OperandFault}
    {x : Option α} {make : α → Comparison} {e : CompileError} :
    (do return make (← operand op fault x)) = Except.error e
      ↔ x = none ∧ e = .invalidValue op.name fault := by
  rw [bind_pure_eq_error_iff, operand_eq_error_iff]

theorem faulty_of_comparisonWith {op : Operator} {v : Value} {e : CompileError}
    (h : comparisonWith engine op v = .error e) : op.Faulty engine (some v) e := by
  cases op with
  | eq => cases h
  | ne => cases h
  | contains | startsWith | endsWith =>
      obtain ⟨hv, rfl⟩ := operand_comparison_eq_error_iff.mp h
      exact .notScalar (by simp) hv
  | matchesRegex =>
      rcases bind_eq_error_iff.mp h with hoperand | ⟨pattern, hpattern, hregex⟩
      · obtain ⟨hv, rfl⟩ := operand_eq_error_iff.mp hoperand
        exact .notRegex hv
      · rw [bind_pure_eq_error_iff, RegexPair.ofPattern_eq_error_iff] at hregex
        obtain ⟨reason, hrefuses, rfl⟩ := hregex
        cases v with
        | text s => cases hpattern; exact .invalidRegex hrefuses
        | _ => cases hpattern
  | gt | ge | lt | le =>
      obtain ⟨hv, rfl⟩ := operand_comparison_eq_error_iff.mp h
      exact .notNumber (by simp) hv
  | isIn =>
      obtain ⟨hv, rfl⟩ := operand_comparison_eq_error_iff.mp h
      exact .notArray hv
  | isPresent =>
      obtain ⟨hv, rfl⟩ := operand_comparison_eq_error_iff.mp h
      exact .notBoolean hv

theorem comparisonWith_of_faulty {op : Operator} {v : Value} {e : CompileError}
    (h : op.Faulty engine (some v) e) : comparisonWith engine op v = .error e := by
  cases h with
  | notScalar hop hv =>
      rcases hop with rfl | rfl | rfl <;>
        exact operand_comparison_eq_error_iff.mpr ⟨hv, rfl⟩
  | notRegex hv =>
      refine bind_eq_error_iff.mpr (.inl ?_)
      rw [operand_eq_error_iff]
      exact ⟨hv, rfl⟩
  | @invalidRegex pattern reason hrefuses =>
      refine bind_eq_error_iff.mpr (.inr ⟨pattern, rfl, ?_⟩)
      rw [bind_pure_eq_error_iff, RegexPair.ofPattern_eq_error_iff]
      exact ⟨reason, hrefuses, rfl⟩
  | notNumber hop hv =>
      rcases hop with rfl | rfl | rfl | rfl <;>
        exact operand_comparison_eq_error_iff.mpr ⟨hv, rfl⟩
  | notArray hv => exact operand_comparison_eq_error_iff.mpr ⟨hv, rfl⟩
  | notBoolean hv => exact operand_comparison_eq_error_iff.mpr ⟨hv, rfl⟩

theorem comparison_eq_error_iff {op : Operator} {value : Option Value} {e : CompileError} :
    comparison engine op value = .error e ↔ op.Faulty engine value e := by
  cases value with
  | some v => exact ⟨faulty_of_comparisonWith, comparisonWith_of_faulty⟩
  | none =>
      rw [comparison]
      by_cases hop : op = .isPresent
      · subst hop
        refine ⟨fun h => (by cases h), fun h => ?_⟩
        cases h with
        | missing hne => exact absurd rfl hne
      · rw [if_neg (by rwa [beq_iff_eq])]
        refine ⟨fun h => ?_, fun h => ?_⟩
        · cases h
          exact .missing hop
        · cases h
          rfl

theorem ArgumentSpec.ofValue_eq_error_iff {v : Value} {e : CompileError} :
    ofValue v = .error e ↔ Argument.Faulty v e := by
  constructor
  · intro h
    unfold ofValue at h
    split at h
    · cases h
    · cases h
    · rename_i other hnode hcontext
      cases h
      exact .unknownReference (fun h => hnode (by rw [h])) (fun h => hcontext (by rw [h]))
    · cases h
  · intro h
    cases h with
    | unknownReference hnode hcontext =>
        unfold ofValue
        split
        · rename_i heq
          cases heq
          exact absurd rfl hnode
        · rename_i heq
          cases heq
          exact absurd rfl hcontext
        · rename_i heq
          cases heq
          rfl
        · rename_i hother
          exact absurd rfl (hother _)

namespace Condition

theorem compileText_eq_error_iff {helpers : HelperRegistry} {pattern : String} {mode : MatchMode}
    {target : MatchTarget} {ignoreCase : Option Bool} {e : CompileError} :
    compileText engine pattern mode target ignoreCase = .error e
      ↔ (Test.text pattern mode target ignoreCase).Faulty engine helpers e := by
  rw [compileText]
  by_cases hpattern : pattern = ""
  · subst hpattern
    rw [if_pos (by rfl)]
    refine ⟨fun h => ?_, fun h => ?_⟩
    · cases h
      exact .emptyPattern
    · cases h with
      | emptyPattern => rfl
      | invalidRegex hne => exact absurd rfl hne
  · rw [if_neg (by simpa using hpattern), bind_pure_eq_error_iff, textMatcher_eq_error_iff]
    refine ⟨fun h => ?_, fun h => ?_⟩
    · obtain ⟨rfl, reason, hrefuses, rfl⟩ := h
      exact .invalidRegex hpattern hrefuses
    · cases h with
      | emptyPattern => exact absurd rfl hpattern
      | @invalidRegex _ reason _ _ _ hrefuses => exact ⟨rfl, reason, hrefuses, rfl⟩

theorem compileHelper_eq_error_iff {helpers : HelperRegistry} {name : String}
    {args : Option (List Value)} {e : CompileError} :
    compileHelper helpers name args = .error e
      ↔ (Test.helper name args).Faulty engine helpers e := by
  cases htarget : helpers.target? name with
  | none =>
      have hunknown : compileHelper helpers name args = .error (.helper (.unknown name)) := by
        rw [compileHelper, HelperRegistry.resolve, htarget]
        rfl
      rw [hunknown]
      refine ⟨fun h => ?_, fun h => ?_⟩
      · cases h
        exact .unknownHelper htarget
      · cases h with
        | unknownHelper => rfl
        | argument hname => exact absurd htarget hname
  | some target =>
      have hname : helpers.target? name ≠ none := by simp [htarget]
      cases args with
      | none =>
          refine ⟨fun h => ?_, fun h => ?_⟩
          · rw [compileHelper, HelperRegistry.resolve, htarget] at h
            cases h
          · cases h with
            | unknownHelper hnone => exact absurd hnone hname
      | some vs =>
          have hargs : compileHelper helpers name (some vs) = .error e
              ↔ vs.mapM ArgumentSpec.ofValue = .error e := by
            rw [compileHelper, HelperRegistry.resolve, htarget]
            exact bind_pure_eq_error_iff
          rw [hargs, mapM_eq_error_iff fun _ _ => ArgumentSpec.ofValue_eq_error_iff]
          refine ⟨.argument hname, fun h => ?_⟩
          cases h with
          | unknownHelper hnone => exact absurd hnone hname
          | argument _ h => exact h

theorem compileField_eq_error_iff {helpers : HelperRegistry} {name : String} {op : Operator}
    {value : Option Value} {e : CompileError} :
    compileField engine name op value = .error e
      ↔ (Test.field name op value).Faulty engine helpers e := by
  rw [compileField]
  cases hfield : NodeField.ofName? name with
  | none =>
      refine ⟨fun h => ?_, fun h => ?_⟩
      · cases h
        exact .unknownField hfield
      · cases h with
        | unknownField => rfl
        | operand hname => exact absurd hfield hname
  | some field =>
      have hname : NodeField.ofName? name ≠ none := by simp [hfield]
      dsimp only
      rw [bind_pure_eq_error_iff, comparison_eq_error_iff]
      refine ⟨.operand hname, fun h => ?_⟩
      cases h with
      | unknownField hnone => exact absurd hnone hname
      | operand _ hop => exact hop

/-- A test is compiled without regard to anything else, and fails if it is faulty by itself. -/
theorem compileTest_eq_error_iff {helpers : HelperRegistry} {t : Test} {e : CompileError} :
    compileTest engine helpers t = .error e ↔ t.Faulty engine helpers e := by
  cases t with
  | text pattern mode target ignoreCase => exact compileText_eq_error_iff
  | hasChild selector => exact ⟨fun h => (by cases h), fun h => (by cases h)⟩
  | lacksChild selector => exact ⟨fun h => (by cases h), fun h => (by cases h)⟩
  | helper name args => exact compileHelper_eq_error_iff
  | field name op value => exact compileField_eq_error_iff

/-! ### Errors of compiled conditions -/

mutual

/-- A condition has the error of its first faulty test. -/
theorem compile_eq_error_iff {helpers : HelperRegistry} :
    ∀ (cond : Condition) (e : CompileError),
      cond.compile engine helpers = .error e ↔ FirstError (Test.Faulty engine helpers) cond.tests e
  | test negated t, e => by
      rw [compile, bind_pure_eq_error_iff, compileTest_eq_error_iff, tests, firstError_cons]
      simp [not_firstError_nil]
  | all negated cs, e => by
      rw [compile, bind_pure_eq_error_iff, compileAll_eq_error_iff, tests]
  | any negated cs, e => by
      rw [compile, bind_pure_eq_error_iff, compileAll_eq_error_iff, tests]
  | not negated cond, e => by
      rw [compile, bind_pure_eq_error_iff, compile_eq_error_iff, tests]

theorem compileAll_eq_error_iff {helpers : HelperRegistry} :
    ∀ (cs : List Condition) (e : CompileError),
      compileAll engine helpers cs = .error e
        ↔ FirstError (Test.Faulty engine helpers) (testsAll cs) e
  | [], e => by
      simp [compileAll, testsAll, not_firstError_nil]
  | cond :: cs, e => by
      -- The rest is compiled exactly if nothing is wrong with the first condition.
      have hfirst : ∀ e, cond.compile engine helpers = .error e
          ↔ FirstError (Test.Faulty engine helpers) cond.tests e := compile_eq_error_iff cond
      have hok := exists_ok_iff hfirst
      rw [compileAll, testsAll, firstError_append, bind_eq_error_iff, compile_eq_error_iff]
      refine or_congr_right ?_
      simp only [bind_pure_eq_error_iff, compileAll_eq_error_iff, ← hok, exists_and_right]

end

/--
**Compiling looks at the whole condition.**

A condition does not compile exactly if one of its tests is faulty by itself, at whatever
depth and whether or not it would ever be asked, and the error is that of the first such test
from left to right.  What is wrong with a test by itself does not depend on what is around
it: compiled alone, negated or not, it has that error.
-/
theorem compile_fails (engine : RegexEngine) (helpers : HelperRegistry) (cond : Condition) :
    ((∃ e, cond.compile engine helpers = .error e)
        ↔ ∃ t ∈ cond.tests, ∃ e, t.Faulty engine helpers e) ∧
      (∀ e, cond.compile engine helpers = .error e
        ↔ FirstError (Test.Faulty engine helpers) cond.tests e) ∧
      ∀ negated t e, (test negated t).compile engine helpers = .error e
        ↔ t.Faulty engine helpers e := by
  refine ⟨?_, compile_eq_error_iff cond, fun negated t e => ?_⟩
  · simp only [compile_eq_error_iff, exists_firstError_iff]
  · rw [compile, bind_pure_eq_error_iff, compileTest_eq_error_iff]

/-- The second part is never asked, since the first one holds of every node. -/
example (engine : RegexEngine) :
    (any false [all false [], not true (test false (.helper "isTrunkPort" none)),
      test false (.text "" .contains .id none)]).compile engine .empty
    = .error (.helper (.unknown "isTrunkPort")) := rfl

end Condition

end DeviceLint
