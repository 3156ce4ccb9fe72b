/-
What the operations on outlines do.

All of them but `push` and `close` change nothing but the nodes of the innermost section,
and `withScope` is what such a change looks like.  Each is said here once in those terms,
so that an invariant of outlines needs to be looked at for `withScope`, `push` and `close`
only.  How far a node reaches once it encloses its children is said here as well; which
of them reaches furthest is nobody's concern afterwards.
-/
import DeviceLint.Layout.Outline

namespace DeviceLint

namespace Node

/-- What `foldl` makes of a node that is to reach as far as some others. -/
theorem foldl_reaching (cs : List Node) :
    ∀ n : Node, ∃ last,
      cs.foldl (fun m c => m.reaching c.span.last) n = { n with span := ⟨n.span.first, last⟩ } ∧
      n.span.last ≤ last ∧ (∀ c ∈ cs, c.span.last ≤ last) ∧
      ∀ k, n.span.last ≤ k → (∀ c ∈ cs, c.span.last ≤ k) → last ≤ k := by
  induction cs with
  | nil =>
      intro n
      exact ⟨n.span.last, by cases n; rfl, Nat.le_refl _, by simp, fun k hk _ => hk⟩
  | cons c cs ih =>
      intro n
      obtain ⟨last, heq, hself, hcs, hleast⟩ := ih (n.reaching c.span.last)
      have hmax : (n.reaching c.span.last).span.last = max n.span.last c.span.last := rfl
      rw [hmax] at hself hleast
      refine ⟨last, by rw [List.foldl_cons, heq]; rfl, by omega, ?_, ?_⟩
      · intro d hd
        rcases List.mem_cons.mp hd with rfl | hd
        · omega
        · exact hcs d hd
      · intro k hk hall
        refine hleast k ?_ fun d hd => hall d (List.mem_cons_of_mem _ hd)
        have := hall c List.mem_cons_self
        omega

/-- A node that encloses its children reaches to the last of their lines and its own. -/
theorem enclosing_eq (n : Node) : ∃ last,
    n.enclosing = { n with span := ⟨n.span.first, last⟩ } ∧
      n.span.last ≤ last ∧ (∀ c ∈ n.children, c.span.last ≤ last) ∧
      ∀ k, n.span.last ≤ k → (∀ c ∈ n.children, c.span.last ≤ k) → last ≤ k :=
  foldl_reaching n.children n

/-- A node that reaches to the last of its children's lines already encloses them. -/
theorem enclosing_eq_self {n : Node} (h : ∀ c ∈ n.children, c.span.last ≤ n.span.last) :
    n.enclosing = n := by
  obtain ⟨last, heq, hge, -, hleast⟩ := enclosing_eq n
  have hle := hleast n.span.last (Nat.le_refl _) h
  obtain rfl : last = n.span.last := by omega
  rw [heq]
  cases n
  rfl

end Node

namespace Outline

variable {α : Type}

/-! ### The innermost section -/

@[simp] theorem scope_withScope (o : Outline α) (ns : List Node) : (o.withScope ns).scope = ns := by
  obtain ⟨roots, opened⟩ := o
  cases opened <;> rfl

@[simp] theorem withScope_scope (o : Outline α) : o.withScope o.scope = o := by
  obtain ⟨roots, opened⟩ := o
  cases opened with
  | nil => rfl
  | cons g gs =>
      obtain ⟨⟨id, raw, params, kind, children, span⟩, tag⟩ := g
      rfl

theorem add_eq (o : Outline α) (n : Node) : o.add n = o.withScope (o.scope ++ [n]) := by
  obtain ⟨roots, opened⟩ := o
  cases opened <;> rfl

@[simp] theorem withScope_withScope (o : Outline α) (ns ms : List Node) :
    (o.withScope ns).withScope ms = o.withScope ms := by
  obtain ⟨roots, opened⟩ := o
  cases opened <;> rfl

@[simp] theorem scope_add (o : Outline α) (n : Node) : (o.add n).scope = o.scope ++ [n] := by
  rw [add_eq, scope_withScope]

@[simp] theorem withScope_add (o : Outline α) (n : Node) (ns : List Node) :
    (o.add n).withScope ns = o.withScope ns := by
  rw [add_eq, withScope_withScope]

theorem extendLast_eq (o : Outline α) (last : Nat) :
    o.extendLast last = o ∨ ∃ ns n, o.scope = ns ++ [n] ∧
      o.extendLast last = o.withScope (ns ++ [n.reaching last]) := by
  unfold extendLast
  cases h : o.scope.getLast? with
  | none => exact Or.inl rfl
  | some n =>
      obtain ⟨ns, hns⟩ := List.getLast?_eq_some_iff.mp h
      exact Or.inr ⟨ns, n, hns, by rw [hns, List.dropLast_concat]⟩

theorem takeLastLeaf?_eq_some {o o' : Outline α} {n : Node}
    (h : o.takeLastLeaf? = some (n, o')) :
    ∃ ns, o.scope = ns ++ [n] ∧ n.kind = .leaf ∧ o' = o.withScope ns := by
  unfold takeLastLeaf? at h
  cases hlast : o.scope.getLast? with
  | none => simp [hlast] at h
  | some m =>
      obtain ⟨ns, hns⟩ := List.getLast?_eq_some_iff.mp hlast
      simp only [hlast] at h
      split at h
      · rename_i hkind
        obtain ⟨rfl, rfl⟩ : m = n ∧ o.withScope o.scope.dropLast = o' := by simpa using h
        exact ⟨ns, hns, by simpa using hkind, by rw [hns, List.dropLast_concat]⟩
      · simp at h

/-- The last node that was added is taken back if it is a leaf. -/
theorem takeLastLeaf?_add (o : Outline α) (n : Node) :
    (o.add n).takeLastLeaf? = if n.kind == .leaf then some (n, o) else none := by
  rw [takeLastLeaf?, scope_add, List.getLast?_concat]
  dsimp only
  rw [List.dropLast_concat, withScope_add, withScope_scope]

/-! ### The open sections

What is told of the open sections without their children stays when these change.
-/

section

variable {β : Type} {view : OpenGroup α → β}
  (hview : ∀ g ns, view { g with node := { g.node with children := ns } } = view g)

include hview

theorem map_opened_withScope (o : Outline α) (ns : List Node) :
    (o.withScope ns).opened.map view = o.opened.map view := by
  obtain ⟨roots, opened⟩ := o
  cases opened with
  | nil => rfl
  | cons g gs => rw [withScope, List.map_cons, List.map_cons, hview]

theorem map_opened_add (o : Outline α) (n : Node) :
    (o.add n).opened.map view = o.opened.map view := by
  rw [add_eq, map_opened_withScope hview]

theorem map_opened_close (o : Outline α) :
    o.close.opened.map view = (o.opened.map view).drop 1 := by
  obtain ⟨roots, opened⟩ := o
  cases opened with
  | nil => rfl
  | cons g gs =>
      rw [close, map_opened_add hview]
      rfl

theorem map_opened_closeAt (o : Outline α) (last : Nat) :
    (o.closeAt last).opened.map view = (o.opened.map view).drop 1 := by
  obtain ⟨roots, opened⟩ := o
  cases opened with
  | nil => rfl
  | cons g gs =>
      rw [closeAt, map_opened_close hview]
      rfl

theorem map_opened_closeMany (k : Nat) :
    ∀ o : Outline α, (closeMany k o).opened.map view = (o.opened.map view).drop k := by
  induction k with
  | zero => intro o; rfl
  | succ k ih => intro o; rw [closeMany, ih, map_opened_close hview, List.drop_drop, Nat.add_comm]

theorem map_opened_closeManyAt (last k : Nat) :
    ∀ o : Outline α, (closeManyAt last k o).opened.map view = (o.opened.map view).drop k := by
  induction k with
  | zero => intro o; rfl
  | succ k ih =>
      intro o
      rw [closeManyAt, ih, map_opened_closeAt hview, List.drop_drop, Nat.add_comm]

end

/-! ### Closing -/

/-- A section that is opened, filled and closed at a line is a node of the section around it. -/
theorem closeAt_push (o : Outline α) {n : Node} (tag : α) {ns : List Node} {last : Nat}
    (hn : n.span.last ≤ last) (hns : ∀ c ∈ ns, c.span.last ≤ last) :
    ((o.push n tag).withScope ns).closeAt last
      = o.add { n with children := ns, span := ⟨n.span.first, last⟩ } := by
  have hreaching : ({ n with children := ns } : Node).reaching last
      = { n with children := ns, span := ⟨n.span.first, last⟩ } := by
    simp only [Node.reaching, Span.reaching, Nat.max_eq_right hn]
  show o.add (({ n with children := ns } : Node).reaching last).enclosing = _
  rw [hreaching, Node.enclosing_eq_self hns]

theorem length_opened_close (o : Outline α) : o.close.opened.length = o.opened.length - 1 := by
  obtain ⟨roots, opened⟩ := o
  cases opened with
  | nil => rfl
  | cons g gs => cases gs <;> rfl

theorem length_opened_closeMany (k : Nat) :
    ∀ o : Outline α, (closeMany k o).opened.length = o.opened.length - k := by
  induction k with
  | zero => intro o; rfl
  | succ k ih =>
      intro o
      rw [closeMany, ih, length_opened_close]
      omega

/-- Nothing is open any more where all has been closed. -/
theorem opened_closeMany_length (o : Outline α) : (closeMany o.opened.length o).opened = [] := by
  rw [← List.length_eq_zero_iff, length_opened_closeMany, Nat.sub_self]

/-- What is left when all has been closed. -/
theorem closeMany_all (o : Outline α) : closeMany o.opened.length o = ⟨o.finish, []⟩ := by
  have hnone := opened_closeMany_length o
  rw [finish]
  cases hclosed : closeMany o.opened.length o with
  | mk roots opened =>
      rw [hclosed] at hnone
      exact congrArg (mk roots) hnone

end Outline

end DeviceLint
