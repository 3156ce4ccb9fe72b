/-
Outlines whose nodes are all changed alike.

An outline is built without looking into the nodes, but for their kinds and how far they
reach.  So where all nodes are changed in a way that keeps their kinds and which of them
reaches further, it is the same to change them before an operation or after.  Each
operation is looked at here once, for any such change.

A reader makes nodes of lines.  Where lines are changed and the nodes that are made of them
are changed with them, but not what the lines say nor how they are indented, the reader
takes the same way, and its tree is changed as the nodes are.
-/
import DeviceLint.Layout.Parse
import DeviceLint.Proofs.Outline

namespace DeviceLint

namespace Node

/-- A change of a node and of all nodes below it that keeps kinds, and that takes the last lines
to others by `f` in such a way that a node reaches further where it did before. -/
structure IsUniform (f : Nat → Nat) (change : Node → Node) : Prop where
  kind : ∀ n, (change n).kind = n.kind
  span_last : ∀ n, (change n).span.last = f n.span.last
  children : ∀ n ns, change { n with children := ns }
    = { change n with children := ns.map change }
  group : ∀ n, change { n with kind := .group } = { change n with kind := .group }
  reaching : ∀ n last, change (n.reaching last) = (change n).reaching (f last)

namespace IsUniform

variable {f : Nat → Nat} {change : Node → Node}

theorem children_eq (h : IsUniform f change) (n : Node) :
    (change n).children = n.children.map change := by
  obtain ⟨id, raw, params, kind, children, span⟩ := n
  exact congrArg Node.children (h.children ⟨id, raw, params, kind, children, span⟩ children)

theorem enclosing (h : IsUniform f change) (n : Node) :
    change n.enclosing = (change n).enclosing := by
  have hfold : ∀ (cs : List Node) (m : Node),
      change (cs.foldl (fun m c => m.reaching c.span.last) m)
        = (cs.map change).foldl (fun m c => m.reaching c.span.last) (change m) := by
    intro cs
    induction cs with
    | nil => intro m; rfl
    | cons c cs ih =>
        intro m
        rw [List.foldl_cons, ih, h.reaching, List.map_cons, List.foldl_cons, h.span_last]
  rw [Node.enclosing, hfold, Node.enclosing, h.children_eq]

end IsUniform

end Node

open Node (IsUniform)

variable {f : Nat → Nat} {change : Node → Node}

namespace Outline

variable {α : Type}

/-- The outline with all its nodes changed. -/
def map (change : Node → Node) (o : Outline α) : Outline α where
  roots := o.roots.map change
  opened := o.opened.map fun g => { g with node := change g.node }

theorem scope_map (h : IsUniform f change) (o : Outline α) :
    (o.map change).scope = o.scope.map change := by
  obtain ⟨roots, opened⟩ := o
  cases opened with
  | nil => rfl
  | cons g gs => exact h.children_eq g.node

theorem map_withScope (h : IsUniform f change) (o : Outline α) (ns : List Node) :
    (o.withScope ns).map change = (o.map change).withScope (ns.map change) := by
  obtain ⟨roots, opened⟩ := o
  cases opened with
  | nil => rfl
  | cons g gs => simp [withScope, map, h.children]

theorem map_add (h : IsUniform f change) (o : Outline α) (n : Node) :
    (o.add n).map change = (o.map change).add (change n) := by
  rw [add_eq, add_eq, map_withScope h, scope_map h, List.map_append, List.map_singleton]

theorem map_push (o : Outline α) (n : Node) (tag : α) :
    (o.push n tag).map change = (o.map change).push (change n) tag := rfl

theorem map_close (h : IsUniform f change) (o : Outline α) :
    o.close.map change = (o.map change).close := by
  obtain ⟨roots, opened⟩ := o
  cases opened with
  | nil => rfl
  | cons g gs =>
      show (add ⟨roots, gs⟩ g.node.enclosing).map change = _
      rw [map_add h, h.enclosing]
      rfl

theorem map_closeAt (h : IsUniform f change) (o : Outline α) (last : Nat) :
    (o.closeAt last).map change = (o.map change).closeAt (f last) := by
  obtain ⟨roots, opened⟩ := o
  cases opened with
  | nil => rfl
  | cons g gs =>
      simp only [closeAt, map_close h]
      simp only [map, List.map_cons, h.reaching]

theorem map_closeMany (h : IsUniform f change) (k : Nat) :
    ∀ o : Outline α, (closeMany k o).map change = closeMany k (o.map change) := by
  induction k with
  | zero => intro o; rfl
  | succ k ih => intro o; rw [closeMany, ih, map_close h, closeMany]

theorem map_closeManyAt (h : IsUniform f change) (last k : Nat) :
    ∀ o : Outline α,
      (closeManyAt last k o).map change = closeManyAt (f last) k (o.map change) := by
  induction k with
  | zero => intro o; rfl
  | succ k ih => intro o; rw [closeManyAt, ih, map_closeAt h, closeManyAt]

theorem map_extendLast (h : IsUniform f change) (o : Outline α) (last : Nat) :
    (o.extendLast last).map change = (o.map change).extendLast (f last) := by
  unfold extendLast
  rw [scope_map h, List.getLast?_map]
  cases o.scope.getLast? with
  | none => rfl
  | some n =>
      dsimp only [Option.map_some]
      rw [map_withScope h, List.map_append, List.map_dropLast, List.map_singleton, h.reaching]

theorem takeLastLeaf?_map (h : IsUniform f change) (o : Outline α) :
    (o.map change).takeLastLeaf? = o.takeLastLeaf?.map fun (n, o) => (change n, o.map change) := by
  unfold takeLastLeaf?
  rw [scope_map h, List.getLast?_map]
  cases o.scope.getLast? with
  | none => rfl
  | some n =>
      dsimp only [Option.map_some]
      rw [h.kind, ← List.map_dropLast, ← map_withScope h]
      split <;> rfl

theorem finish_map (h : IsUniform f change) (o : Outline α) :
    (o.map change).finish = o.finish.map change := by
  have hlength : (o.map change).opened.length = o.opened.length := List.length_map _
  rw [finish, finish, hlength, ← map_closeMany h]
  rfl

end Outline

/-! ### Braces -/

namespace Brace

def State.map (change : Node → Node) (st : State) : State :=
  { st with outline := st.outline.map change }

variable {l l' : LogicalLine} {p p' : Piece}

theorem addLeaf_map (h : IsUniform f change) (hblank : isBlank p'.text = isBlank p.text)
    (hnode : isBlank p.text = false → p'.node .leaf l' = change (p.node .leaf l))
    (o : Outline Unit) : addLeaf l' (o.map change) p' = (addLeaf l o p).map change := by
  unfold addLeaf
  rw [hblank]
  split
  · rfl
  · rename_i hne
    rw [Outline.map_add h, hnode (by simpa using hne)]

theorem openGroup_map (h : IsUniform f change) (hblank : isBlank p'.text = isBlank p.text)
    (hnode : isBlank p.text = false → p'.node .group l' = change (p.node .group l))
    (st : State) : openGroup l' (st.map change) p' = (openGroup l st p).map change := by
  have houtline : (st.map change).outline = st.outline.map change := rfl
  unfold openGroup
  rw [hblank]
  split
  · rw [houtline, Outline.takeLastLeaf?_map h]
    cases st.outline.takeLastLeaf? with
    | none => rfl
    | some taken => simp only [Option.map_some, State.map, Outline.map_push, h.group]
  · rename_i hne
    rw [hnode (by simpa using hne)]
    rfl

/-- A piece that stands for the changed node is taken in as the piece itself is. -/
theorem step_map (h : IsUniform f change) (hmark : p'.mark = p.mark)
    (hblank : isBlank p'.text = isBlank p.text) (hlast : l'.last = f l.last)
    (hnode : isBlank p.text = false → ∀ kind, p'.node kind l' = change (p.node kind l))
    (st : State) : step l' (st.map change) p' = (step l st p).map change := by
  have houtline : (st.map change).outline = st.outline.map change := rfl
  have hunpaired : (st.map change).unpaired = st.unpaired := rfl
  have hleaf := addLeaf_map h hblank (fun hne => hnode hne .leaf) st.outline
  unfold step
  rw [hmark]
  split
  · exact openGroup_map h hblank (fun hne => hnode hne .group) st
  · rw [houtline, hleaf]
    rfl
  · dsimp only
    rw [houtline, hunpaired, hlast, hleaf, ← Outline.map_closeAt h]
    split <;> rfl

end Brace

/-! ### Lines changed alike -/

/-- A change of lines that keeps what they say and their indentation, and by which the nodes that
are made of them change. -/
structure LogicalLine.IsUniform (f : Nat → Nat) (change : Node → Node)
    (move : LogicalLine → LogicalLine) : Prop where
  text : ∀ l, (move l).text = l.text
  indent : ∀ l, (move l).indent = l.indent
  last : ∀ l, (move l).last = f l.last
  ofStatement : ∀ l kind statement,
    Node.ofStatement kind statement (String.ofList (move l).raw) (move l).span
      = change (Node.ofStatement kind statement (String.ofList l.raw) l.span)

variable {move : LogicalLine → LogicalLine}

namespace LogicalLine.IsUniform

theorem statement_eq (h : IsUniform f change move) (l : LogicalLine) :
    (move l).statement = l.statement := by
  rw [statement, h.text, statement]

theorem node_eq (h : IsUniform f change move) (l : LogicalLine) (kind : NodeKind) :
    (move l).node kind = change (l.node kind) := by
  rw [node, h.statement_eq, h.ofStatement, node]

end LogicalLine.IsUniform

namespace Indent

theorem shallower_map (depth : Nat) (o : Outline Nat) :
    shallower depth (o.map change) = shallower depth o := by
  simp only [shallower, Outline.map, List.takeWhile_map, List.length_map]
  rfl

theorem opens_map (hmove : LogicalLine.IsUniform f change move) (l : LogicalLine)
    (ls : List LogicalLine) : opens (move l) (ls.map move) = opens l ls := by
  cases ls with
  | nil => rfl
  | cons next ls => rw [List.map_cons, opens, opens, hmove.indent, hmove.indent]

theorem step_map (h : IsUniform f change) (hmove : LogicalLine.IsUniform f change move)
    (schema : Schema) (o : Outline Nat) (l : LogicalLine) (opening : Bool) :
    step schema (o.map change) (move l) opening = (step schema o l opening).map change := by
  simp only [step, hmove.indent, hmove.statement_eq, hmove.last, hmove.node_eq, shallower_map,
    ← Outline.map_closeMany h]
  split
  · split
    · rw [Outline.map_closeAt h]
    · split
      · rfl
      · rw [Outline.map_extendLast h]
  · split
    · rw [Outline.map_push]
    · rw [Outline.map_add h]

theorem steps_map (h : IsUniform f change) (hmove : LogicalLine.IsUniform f change move)
    (schema : Schema) (ls : List LogicalLine) :
    ∀ o : Outline Nat, steps schema (o.map change) (ls.map move)
      = (steps schema o ls).map change := by
  induction ls with
  | nil => intro o; rfl
  | cons l ls ih =>
      intro o
      rw [List.map_cons, steps, opens_map hmove, step_map h hmove, ih, steps]

end Indent

namespace Keyword

theorem step_map (h : IsUniform f change) (hmove : LogicalLine.IsUniform f change move)
    (schema : Schema) (o : Outline Nat) (l : LogicalLine) :
    step schema (o.map change) (move l) = (step schema o l).map change := by
  have hkeyword : keyword (move l) = keyword l := by rw [keyword, hmove.statement_eq, keyword]
  have hclosed : closed? schema (move l) = closed? schema l := by
    rw [closed?, hkeyword, hmove.statement_eq, closed?]
  have hopened : opened? schema (move l) = opened? schema l := by rw [opened?, hkeyword, opened?]
  have hfind : ∀ block : Nat, (o.map change).opened.findIdx? (·.tag == block)
      = o.opened.findIdx? (·.tag == block) := by
    intro block
    simp only [Outline.map, List.findIdx?_map]
    rfl
  simp only [step, hclosed, hopened, hmove.last, hmove.node_eq, hfind]
  split
  · split
    · rw [Outline.map_closeManyAt h]
    · rfl
  · split
    · rw [Outline.map_push]
    · rw [Outline.map_add h]

end Keyword

namespace Brace

theorem stepLine_map (h : IsUniform f change) (hmove : LogicalLine.IsUniform f change move)
    (st : State) (l : LogicalLine) :
    stepLine (st.map change) (move l) = (stepLine st l).map change := by
  rw [stepLine, stepLine, hmove.text]
  exact List.foldl_hom (State.map change) fun st p =>
    step_map h rfl rfl (hmove.last l) (fun _ kind => hmove.ofStatement l kind p.text) st

end Brace

/-- A reader whose step commutes with a change commutes with it on any lines. -/
theorem foldl_map_hom {σ : Type} (step : σ → LogicalLine → σ) (view : σ → σ)
    (h : ∀ st l, step (view st) (move l) = view (step st l)) (ls : List LogicalLine) (st : σ) :
    (ls.map move).foldl step (view st) = view (ls.foldl step st) := by
  rw [List.foldl_map]
  exact List.foldl_hom view h

/-- **A tree changes as its lines do.** -/
theorem treeOf_map (h : IsUniform f change) (hmove : LogicalLine.IsUniform f change move)
    (schema : Schema) (ls : List LogicalLine) :
    treeOf schema (ls.map move) = (treeOf schema ls).map change := by
  unfold treeOf
  cases schema.blockStyle with
  | indent =>
      dsimp only [Indent.build]
      rw [← Outline.finish_map h, ← Indent.steps_map h hmove]
      rfl
  | brace =>
      have hfold := foldl_map_hom Brace.stepLine (Brace.State.map change)
        (Brace.stepLine_map h hmove) ls ⟨Outline.empty, 0⟩
      dsimp only [Brace.build]
      rw [← Outline.finish_map h]
      exact congrArg (fun st => st.outline.finish) hfold
  | keyword =>
      have hfold := foldl_map_hom (Keyword.step schema) (Outline.map change)
        (Keyword.step_map h hmove schema) ls Outline.empty
      dsimp only [Keyword.build]
      rw [← Outline.finish_map h]
      exact congrArg Outline.finish hfold
  | flat =>
      dsimp only [flatTree]
      rw [List.map_map, List.map_map]
      exact List.map_congr_left fun l _ => hmove.node_eq l .leaf

end DeviceLint
