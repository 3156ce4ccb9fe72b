/-
Computations that may fail.

Steps that follow one another succeed if each of them does, and fail with the error of the first
one that does not.  The same goes for the members of a list that are gone through one by one.
-/
import Mathlib.Data.List.Forall2

namespace DeviceLint

/-! ### Steps -/

/-- A computation in steps has succeeded only if every step has. -/
theorem ok_of_bind {ε α β : Type} {x : Except ε α} {f : α → Except ε β} {b : β}
    (h : x >>= f = .ok b) : ∃ a, x = .ok a ∧ f a = .ok b := by
  cases x with
  | error e => cases h
  | ok a => exact ⟨a, rfl, h⟩

theorem map_eq_ok_iff {ε α β : Type} {x : Except ε α} {f : α → β} {b : β} :
    x.map f = .ok b ↔ ∃ a, x = .ok a ∧ f a = b := by
  cases x <;> simp [Except.map]

/-- A computation fails in the same way whatever becomes of its results. -/
theorem map_eq_error_iff {ε α β : Type} {x : Except ε α} {f : α → β} {e : ε} :
    x.map f = .error e ↔ x = .error e := by
  cases x <;> simp [Except.map]

/-- A computation succeeds in the same way whatever becomes of its errors. -/
theorem mapError_eq_ok_iff {ε ε' α : Type} {x : Except ε α} {f : ε → ε'} {a : α} :
    x.mapError f = .ok a ↔ x = .ok a := by
  cases x <;> simp [Except.mapError]

theorem mapError_eq_error_iff {ε ε' α : Type} {x : Except ε α} {f : ε → ε'} {e : ε'} :
    x.mapError f = .error e ↔ ∃ e', x = .error e' ∧ e = f e' := by
  cases x <;> simp [Except.mapError, eq_comm]

theorem bind_eq_error_iff {ε α β : Type} {x : Except ε α} {f : α → Except ε β} {e : ε} :
    x >>= f = .error e ↔ x = .error e ∨ ∃ a, x = .ok a ∧ f a = .error e := by
  cases x with
  | error e' => simp [bind, Except.bind]
  | ok a => simp [bind, Except.bind]

/-- What has no error succeeds. -/
theorem exists_ok_iff {ε α : Type} {x : Except ε α} {Faulty : ε → Prop}
    (h : ∀ e, x = .error e ↔ Faulty e) : (∃ a, x = .ok a) ↔ ∀ e, ¬ Faulty e := by
  cases x with
  | error e => simpa using ⟨e, (h e).mp rfl⟩
  | ok a => simpa using fun e he => by cases (h e).mpr he

/-- A step that cannot fail adds no error. -/
theorem bind_pure_eq_error_iff {ε α β : Type} {x : Except ε α} {f : α → β} {e : ε} :
    (do return f (← x)) = Except.error e ↔ x = .error e := by
  cases x with
  | error e' => simp [bind, Except.bind]
  | ok a => simp [bind, Except.bind, pure, Except.pure]

/-! ### The first error in a list -/

/-- Whether an error is that of the first member of a list which has one. -/
def FirstError {α ε : Type} (Faulty : α → ε → Prop) (as : List α) (e : ε) : Prop :=
  ∃ before a after, as = before ++ a :: after ∧ (∀ b ∈ before, ∀ e', ¬ Faulty b e') ∧ Faulty a e

section

variable {α ε : Type} {Faulty : α → ε → Prop}

theorem not_firstError_nil (e : ε) : ¬ FirstError Faulty [] e := by
  rintro ⟨before, a, after, h, -⟩
  simp at h

theorem firstError_cons (a : α) (as : List α) (e : ε) :
    FirstError Faulty (a :: as) e
      ↔ Faulty a e ∨ (∀ e', ¬ Faulty a e') ∧ FirstError Faulty as e := by
  constructor
  · rintro ⟨before, b, after, h, hbefore, hb⟩
    rcases List.cons_eq_append_iff.mp h with ⟨rfl, hcons⟩ | ⟨before', rfl, has⟩
    · obtain ⟨rfl, rfl⟩ := List.cons.inj hcons
      exact .inl hb
    · refine .inr ⟨hbefore a (by simp), before', b, after, has, ?_, hb⟩
      intro b' hb'
      exact hbefore b' (by simp [hb'])
  · rintro (ha | ⟨hfine, before, b, after, rfl, hbefore, hb⟩)
    · exact ⟨[], a, as, rfl, by simp, ha⟩
    · refine ⟨a :: before, b, after, rfl, ?_, hb⟩
      intro b' hb'
      rcases List.mem_cons.mp hb' with rfl | hb'
      · exact hfine
      · exact hbefore b' hb'

/-- There is a first error exactly if some member is faulty. -/
theorem exists_firstError_iff (as : List α) :
    (∃ e, FirstError Faulty as e) ↔ ∃ a ∈ as, ∃ e, Faulty a e := by
  induction as with
  | nil => simp [not_firstError_nil]
  | cons a as ih =>
      by_cases ha : ∃ e, Faulty a e
      · obtain ⟨e, he⟩ := ha
        exact ⟨fun _ => ⟨a, by simp, e, he⟩, fun _ => ⟨e, (firstError_cons a as e).mpr (.inl he)⟩⟩
      · have hfine : ∀ e, ¬ Faulty a e := fun e he => ha ⟨e, he⟩
        simp [firstError_cons, hfine, ih]

theorem firstError_append (as bs : List α) (e : ε) :
    FirstError Faulty (as ++ bs) e
      ↔ FirstError Faulty as e ∨ (∀ e', ¬ FirstError Faulty as e') ∧ FirstError Faulty bs e := by
  induction as with
  | nil => simp [not_firstError_nil]
  | cons a as ih =>
      rw [List.cons_append, firstError_cons, ih]
      by_cases ha : ∃ e, Faulty a e
      · obtain ⟨e', he'⟩ := ha
        have hno : ¬ ∀ e, ¬ Faulty a e := fun h => h e' he'
        simp [firstError_cons, hno]
      · have hfine : ∀ e, ¬ Faulty a e := fun e he => ha ⟨e, he⟩
        simp [firstError_cons, hfine]

end

/-! ### Going through a list -/

/-- A list is gone through up to the first member that is faulty. -/
theorem mapM_eq_error_iff {α β ε : Type} {f : α → Except ε β} {Faulty : α → ε → Prop}
    (hf : ∀ a e, f a = .error e ↔ Faulty a e) (as : List α) (e : ε) :
    as.mapM f = .error e ↔ FirstError Faulty as e := by
  induction as with
  | nil => simp [not_firstError_nil, pure, Except.pure]
  | cons a as ih =>
      rw [List.mapM_cons, bind_eq_error_iff, hf, firstError_cons]
      refine or_congr_right ?_
      have hok : (∃ b, f a = .ok b) ↔ ∀ e, ¬ Faulty a e := exists_ok_iff (hf a)
      simp only [bind_pure_eq_error_iff, ih, ← hok, exists_and_right]

/-- A list is gone through to the end if every member succeeds. -/
theorem mapM_eq_ok_iff {α β ε : Type} {f : α → Except ε β} (as : List α) :
    ∀ bs : List β, as.mapM f = .ok bs ↔ List.Forall₂ (fun a b => f a = .ok b) as bs := by
  induction as with
  | nil => intro bs; simp [pure, Except.pure, eq_comm]
  | cons a as ih =>
      intro bs
      rw [List.mapM_cons, List.forall₂_cons_left_iff]
      constructor
      · intro h
        obtain ⟨b, hb, h⟩ := ok_of_bind h
        obtain ⟨bs', hbs, h⟩ := ok_of_bind h
        cases h
        exact ⟨b, bs', hb, (ih bs').mp hbs, rfl⟩
      · rintro ⟨b, bs', hb, hbs, rfl⟩
        rw [hb, (ih bs').mpr hbs]
        rfl

/-- Members of a list that are each related to something are related to a list. -/
theorem exists_forall₂_iff {α β : Type} {R : α → β → Prop} (as : List α) :
    (∃ bs, List.Forall₂ R as bs) ↔ ∀ a ∈ as, ∃ b, R a b := by
  induction as with
  | nil => simp
  | cons a as ih =>
      rw [List.forall_mem_cons, ← ih]
      constructor
      · rintro ⟨_, h⟩
        cases h with
        | @cons _ b _ bs hab hbs => exact ⟨⟨b, hab⟩, bs, hbs⟩
      · rintro ⟨⟨b, hab⟩, bs, hbs⟩
        exact ⟨b :: bs, .cons hab hbs⟩

end DeviceLint
