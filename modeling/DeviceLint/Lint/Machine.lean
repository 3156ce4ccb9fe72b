/-
Doing several things at once.

How many processors a machine has, and whether it starts as many threads as are wanted, is
not known to a linter.  A pool of threads is known by what it makes of a list, and only that
the results come in the order of the list is relied upon: which of them is ready first may
be different every time.
-/

namespace DeviceLint

/-- Threads that share the members of a list among themselves. -/
structure Pool where
  map : {α β : Type} → (α → β) → List α → List β

namespace Pool

/-- Whether results are in the order of what they are results of. -/
def CollectsInOrder (p : Pool) : Prop :=
  ∀ {α β : Type} (f : α → β) (as : List α), p.map f as = as.map f

/-- A single thread. -/
def single : Pool := ⟨List.map⟩

end Pool

structure Machine where
  processors : Nat
  /-- A pool of so many threads, if they can be started. -/
  pool? : Nat → Option Pool

namespace Machine

/-- Whether all pools that can be started collect in order. -/
def CollectsInOrder (m : Machine) : Prop :=
  ∀ threads p, m.pool? threads = some p → p.CollectsInOrder

/-- A machine that does one thing after the other, however many threads are wanted. -/
def single : Machine := ⟨1, fun _ => some .single⟩

end Machine

end DeviceLint
