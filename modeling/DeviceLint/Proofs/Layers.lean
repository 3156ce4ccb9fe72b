/-
Layers of settings may be grouped at will.

A layer is put over another member by member, and each member has its own way: a later choice
replaces an earlier one unless it is left open, lists are joined, a switch stays on, and tables
are put together name by name.  All of these ways are associative, and a layer that says
nothing changes nothing.  So settings that are inherited over several files depend on the order
of the layers alone, and not on which file has named which.
-/
import DeviceLint.Config.Load
import DeviceLint.Proofs.Tables

namespace DeviceLint

/-! ### Each member in its way -/

theorem upperChoice_assoc (a b c : List String) :
    upperChoice (upperChoice a b) c = upperChoice a (upperChoice b c) := by
  cases c <;> rfl

@[simp] theorem upperChoice_nil (a : List String) : upperChoice a [] = a := rfl

@[simp] theorem nil_upperChoice (a : List String) : upperChoice [] a = a := by
  cases a <;> rfl

namespace EngineConfig

theorem merge_assoc (a b c : EngineConfig) : (a.merge b).merge c = a.merge (b.merge c) := by
  have hjobs : ((a.merge b).merge c).jobs = (a.merge (b.merge c)).jobs := by
    by_cases hc : c.jobs = 0 <;> simp [merge, hc]
  have hparallel : ((a.merge b).merge c).parallel = (a.merge (b.merge c)).parallel :=
    Option.or_assoc.symm
  have hstatistics : ((a.merge b).merge c).statistics = (a.merge (b.merge c)).statistics :=
    Bool.or_assoc _ _ _
  show mk _ _ _ = mk _ _ _
  rw [mk.injEq]
  exact ⟨hparallel, hjobs, hstatistics⟩

@[simp] theorem merge_default (a : EngineConfig) : a.merge {} = a := by
  simp [merge]

@[simp] theorem default_merge (a : EngineConfig) : merge {} a = a := by
  have hjobs : (if a.jobs == 0 then 0 else a.jobs) = a.jobs := by
    split
    · rename_i h
      exact (beq_iff_eq.mp h).symm
    · rfl
  simp only [merge, Option.or_none, hjobs, Bool.false_or]

end EngineConfig

namespace RulesConfig

theorem merge_assoc (a b c : RulesConfig) : (a.merge b).merge c = a.merge (b.merge c) := by
  have : Std.Associative fun _ s : Severity => s := ⟨fun _ _ _ => rfl⟩
  simp only [merge, List.append_assoc, upperChoice_assoc, Table.mergeWith_assoc]

@[simp] theorem merge_default (a : RulesConfig) : a.merge {} = a := by
  simp [merge]

@[simp] theorem default_merge (a : RulesConfig) : merge {} a = a := by
  simp [merge]

end RulesConfig

namespace Config

theorem merge_assoc (a b c : Config) : (a.merge b).merge c = a.merge (b.merge c) := by
  simp only [merge, Option.or_assoc, EngineConfig.merge_assoc, RulesConfig.merge_assoc,
    upperChoice_assoc, List.append_assoc]

theorem merge_default (a : Config) : a.merge {} = a := by
  simp [merge]

theorem default_merge (a : Config) : merge {} a = { a with bases := [] } := by
  simp [merge]

/--
**Layers of settings form a monoid.**

Two layers over a third are the same in either grouping, in every member.  Settings that say
nothing change nothing when they are put over others, and under others they leave them as they
are, except that it is forgotten what those come after.
-/
theorem merge_monoid (a b c : Config) :
    (a.merge b).merge c = a.merge (b.merge c) ∧
      a.merge {} = a ∧ merge {} a = { a with bases := [] } :=
  ⟨merge_assoc a b c, merge_default a, default_merge a⟩

/-! ### Chains of layers -/

/-- Layers put over a layer one by one might as well be put together before. -/
theorem foldl_merge (a : Config) (layers : List Config) :
    layers.foldl merge a = a.merge (layers.foldl merge {}) := by
  induction layers generalizing a with
  | nil => exact (merge_default a).symm
  | cons b layers ih =>
      rw [List.foldl_cons, List.foldl_cons, ih, ih (merge {} b), ← merge_assoc, ← merge_assoc,
        merge_default]

/-- A base that has bases of its own stands for these, followed by what it says itself. -/
theorem withBases_nested (before inner after : List Config) (base own : Config) :
    withBases (before ++ base.withBases inner :: after) own
      = withBases (before ++ (inner ++ base :: after)) own := by
  simp only [withBases, List.foldl_append, List.foldl_cons]
  rw [foldl_merge (before.foldl merge {}) inner, merge_assoc]

end Config

end DeviceLint
