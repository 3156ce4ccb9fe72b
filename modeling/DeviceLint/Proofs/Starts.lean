/-
Trees told by where their nodes start.

Which nodes a reader makes, and which of them lie in which, does not hang on where lines end;
nor does it on their source text.  So lines that say the same, are indented the same and start
at the same places come to the same tree but for the source text of the nodes and the numbers
of their last lines.

A change under which all last lines are one and the same is not uniform, for a node must not
end before it starts.  It is if the text is seen up to some line `N` only, with all that
reaches further ending there.  What two trees are up to every `N` they are altogether.
-/
import DeviceLint.Proofs.Uniform

namespace DeviceLint

/-! ### Other spans -/

namespace Node

mutual

/-- A node without its source text and with another span, and so all nodes below it. -/
def respan (f : Span → Span) : Node → Node
  | ⟨id, _, params, kind, children, span⟩ =>
    ⟨id, "", params, kind, respanAll f children, f span⟩

def respanAll (f : Span → Span) : List Node → List Node
  | [] => []
  | n :: ns => respan f n :: respanAll f ns

end

theorem respanAll_eq (f : Span → Span) (ns : List Node) :
    respanAll f ns = ns.map (respan f) := by
  induction ns with
  | nil => rw [respanAll, List.map_nil]
  | cons n ns ih => rw [respanAll, ih, List.map_cons]

theorem respan_eq (f : Span → Span) (n : Node) : n.respan f
    = { n with raw := "", children := n.children.map (respan f), span := f n.span } := by
  cases n
  rw [respan, respanAll_eq]

/-- A node without its source text, and as if it and all nodes below it ended where they start. -/
def eraseExtent (n : Node) : Node := n.respan fun s => Span.line s.first

end Node

/-- The part of a span up to line `N`, made to reach that line. -/
def Span.upTo (N : Nat) (s : Span) : Span := ⟨min s.first N, N⟩

namespace Node

theorem upTo_isUniform (N : Nat) : IsUniform (fun _ => N) (respan (Span.upTo N)) where
  kind := fun n => by rw [respan_eq]
  span_last := fun n => by rw [respan_eq]; rfl
  children := fun n ns => by simp only [respan_eq]
  group := fun n => by simp only [respan_eq]
  reaching := fun n last => by simp [respan_eq, reaching, Span.reaching, Span.upTo]

mutual

/-- What is the same up to every line starts at the same lines. -/
theorem eraseExtent_of_upTo (n m : Node)
    (h : ∀ N, n.respan (Span.upTo N) = m.respan (Span.upTo N)) : n.eraseExtent = m.eraseExtent := by
  obtain ⟨id, raw, params, kind, children, span⟩ := n
  obtain ⟨id', raw', params', kind', children', span'⟩ := m
  -- This far down, neither of the two first lines is cut off.
  have hN := h (max span.first span'.first)
  simp only [respan_eq, mk.injEq, true_and, Span.upTo, Span.mk.injEq, and_true] at hN
  obtain ⟨rfl, rfl, rfl, -, hfirst⟩ := hN
  rw [Nat.min_eq_left (Nat.le_max_left _ _), Nat.min_eq_left (Nat.le_max_right _ _)] at hfirst
  have hchildren : children.map eraseExtent = children'.map eraseExtent := by
    refine map_eraseExtent_of_upTo children children' fun N => ?_
    have hN := h N
    simp only [respan_eq, mk.injEq] at hN
    exact hN.2.2.2.2.1
  unfold eraseExtent at hchildren ⊢
  rw [respan_eq, respan_eq, hchildren, hfirst]

theorem map_eraseExtent_of_upTo (ns ms : List Node)
    (h : ∀ N, ns.map (respan (Span.upTo N)) = ms.map (respan (Span.upTo N))) :
    ns.map eraseExtent = ms.map eraseExtent := by
  match ns, ms with
  | [], [] => rfl
  | [], m :: ms => exact nomatch h 0
  | n :: ns, [] => exact nomatch h 0
  | n :: ns, m :: ms =>
      have hhead : n.eraseExtent = m.eraseExtent :=
        eraseExtent_of_upTo n m fun N => (List.cons.inj (h N)).1
      have htail : ns.map eraseExtent = ms.map eraseExtent :=
        map_eraseExtent_of_upTo ns ms fun N => (List.cons.inj (h N)).2
      rw [List.map_cons, hhead, htail, List.map_cons]

end

end Node

/-! ### Lines -/

namespace LogicalLine

/-- A line without its source text, and as if it ended where it starts. -/
def eraseExtent (l : LogicalLine) : LogicalLine := { l with raw := [], last := l.first }

def upTo (N : Nat) (l : LogicalLine) : LogicalLine :=
  { l with raw := [], first := min l.first N, last := N }

theorem upTo_isUniform (N : Nat) :
    IsUniform (fun _ => N) (Node.respan (Span.upTo N)) (upTo N) where
  text := fun _ => rfl
  indent := fun _ => rfl
  last := fun _ => rfl
  ofStatement := fun l kind statement => by
    have hspan : (l.upTo N).span = l.span.upTo N := by
      rw [span, Span.between, upTo, Nat.max_eq_right (Nat.min_le_right _ _)]
      rfl
    rw [hspan]
    simp only [Node.ofStatement, Node.respan_eq, List.map_nil]
    rfl

theorem upTo_eraseExtent (N : Nat) (l : LogicalLine) : l.eraseExtent.upTo N = l.upTo N := rfl

end LogicalLine

/-- **Where its lines end makes no difference to a tree but for where its nodes end.** -/
theorem treeOf_eraseExtent (schema : Schema) {ls ls' : List LogicalLine}
    (h : ls.map LogicalLine.eraseExtent = ls'.map LogicalLine.eraseExtent) :
    (treeOf schema ls).map Node.eraseExtent = (treeOf schema ls').map Node.eraseExtent := by
  have hlines : ∀ N, ls.map (LogicalLine.upTo N) = ls'.map (LogicalLine.upTo N) := by
    intro N
    simpa only [List.map_map, Function.comp_def, LogicalLine.upTo_eraseExtent]
      using congrArg (List.map (LogicalLine.upTo N)) h
  refine Node.map_eraseExtent_of_upTo _ _ fun N => ?_
  have huniform := treeOf_map (Node.upTo_isUniform N) (LogicalLine.upTo_isUniform N) schema
  rw [← huniform, hlines, huniform]

end DeviceLint
