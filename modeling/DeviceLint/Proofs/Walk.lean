/-
A walk visits every node once, parents before children.

A walk keeps the nodes it has still to visit on a stack, and what it does next depends
on the stack alone.  `preorder` says the same without a stack: a node, then its
children's subtrees one after the other.  The two agree on any stack, because the
children that go on top of it are visited with all below them before anything that was
there already.

Everything else that is proved of trees goes by `preorder`, which follows the data.  For one node
at a time there is `Tree.Has`: a node is in a tree if it stands at the top or right below another
one that is.
-/
import DeviceLint.Tree

namespace DeviceLint

namespace Node

mutual

/-- A node followed by all below it. -/
def preorder : Node → List Node
  | ⟨id, raw, params, kind, children, span⟩ =>
    ⟨id, raw, params, kind, children, span⟩ :: preorderAll children

/-- The nodes of one tree after the other. -/
def preorderAll : List Node → List Node
  | [] => []
  | n :: ns => preorder n ++ preorderAll ns

end

theorem preorder_eq (n : Node) : n.preorder = n :: preorderAll n.children := by
  cases n
  rw [preorder]

@[simp] theorem preorderAll_nil : preorderAll [] = [] := by rw [preorderAll]

@[simp] theorem preorderAll_cons (n : Node) (ns : List Node) :
    preorderAll (n :: ns) = n.preorder ++ preorderAll ns := by rw [preorderAll]

@[simp] theorem preorderAll_append (ns ms : List Node) :
    preorderAll (ns ++ ms) = preorderAll ns ++ preorderAll ms := by
  induction ns with
  | nil => simp
  | cons n ns ih => simp [ih]

theorem preorderAll_singleton (n : Node) : preorderAll [n] = n.preorder := by simp

theorem mem_preorder_self (n : Node) : n ∈ n.preorder := by simp [preorder_eq]

theorem mem_preorderAll {m : Node} {ns : List Node} :
    m ∈ preorderAll ns ↔ ∃ n ∈ ns, m ∈ n.preorder := by
  induction ns with
  | nil => simp
  | cons n ns ih => simp [ih]

/-! ### The stack of a walk -/

theorem walkFrom_eq (stack : List Node) : walkFrom stack = preorderAll stack := by
  induction stack using walkFrom.induct with
  | case1 => rw [walkFrom, preorderAll_nil]
  | case2 n stack ih =>
      rw [walkFrom, ih, preorderAll_append, preorderAll_cons, preorder_eq n]
      rfl

/-- **A walk visits a node and then all below it.** -/
theorem walk_eq (n : Node) : n.walk = n.preorder := by
  rw [walk, walkFrom_eq, preorderAll_singleton]

end Node

/-- **A walk over a tree visits every node of it once, in source order.** -/
theorem Tree.walk_eq (t : Tree) : t.walk = Node.preorderAll t := Node.walkFrom_eq t

/-! ### The nodes of a tree -/

/-- Whether a node stands somewhere in a tree. -/
inductive Tree.Has (t : Tree) : Node → Prop
  | root {n : Node} (h : n ∈ t) : t.Has n
  | child {m n : Node} (h : t.Has m) (hn : n ∈ m.children) : t.Has n

namespace Node

theorem has_of_mem_walkFrom {t : Tree} {stack : List Node} (h : ∀ n ∈ stack, t.Has n) :
    ∀ n ∈ walkFrom stack, t.Has n := by
  induction stack using walkFrom.induct with
  | case1 => simp [walkFrom]
  | case2 m stack ih =>
      rw [List.forall_mem_cons] at h
      rw [walkFrom, List.forall_mem_cons]
      refine ⟨h.1, ih ?_⟩
      rw [List.forall_mem_append]
      exact ⟨fun n hn => .child h.1 hn, h.2⟩

/-- A walk that has a node before it visits the children of the node as well. -/
theorem mem_walkFrom_of_child {stack : List Node} :
    ∀ m ∈ walkFrom stack, ∀ n ∈ m.children, n ∈ walkFrom stack := by
  induction stack using walkFrom.induct with
  | case1 => simp [walkFrom]
  | case2 k stack ih =>
      rw [walkFrom, List.forall_mem_cons]
      constructor
      · intro n hn
        rw [walkFrom_eq]
        have hmem : n ∈ preorderAll (k.children ++ stack) :=
          mem_preorderAll.mpr ⟨n, List.mem_append_left _ hn, mem_preorder_self n⟩
        exact List.mem_cons_of_mem k hmem
      · intro m hm n hn
        exact List.mem_cons_of_mem k (ih m hm n hn)

end Node

/-- **A walk over a tree visits what stands in the tree.** -/
theorem Tree.mem_walk_iff {t : Tree} {n : Node} : n ∈ t.walk ↔ t.Has n := by
  constructor
  · exact Node.has_of_mem_walkFrom (fun n hn => .root hn) n
  · intro h
    induction h with
    | @root n h =>
        rw [Tree.walk_eq]
        exact Node.mem_preorderAll.mpr ⟨n, h, Node.mem_preorder_self n⟩
    | child _ hn ih => exact Node.mem_walkFrom_of_child _ ih _ hn

end DeviceLint
