/-
Reading loses nothing, repeats nothing and keeps the order.

The listing of a tree is what its nodes say in source order: the statement, the source
it was read from and the line it starts at.  The listing of an outline is that of its
roots, followed by that of the open sections from the outermost to the innermost; the
innermost is last because whatever comes next goes into it.  Seen this way the
operations on outlines are simple: `add` and `push` put a node's listing at the end, and
nothing else changes the listing at all.  In particular closing a section only moves it
to where it was listed already, and taking back a leaf to open it as a section takes the
end of the listing off and puts it on again.

So a line contributes the statements it holds, in every dialect, however badly its
sections are nested, and the tree's listing is theirs in order.
-/
import DeviceLint.Layout.Parse
import DeviceLint.Proofs.Outline
import DeviceLint.Proofs.Piece
import DeviceLint.Proofs.Walk

namespace DeviceLint

/-- What a listing shows of a node. -/
structure Entry where
  id : String
  raw : String
  first : Nat
  deriving DecidableEq, Repr

namespace Node

def entry (n : Node) : Entry := ⟨n.id, n.raw, n.span.first⟩

/-- The listing of a node and all below it. -/
def listing (n : Node) : List Entry := n.preorder.map entry

/-- The listing of several trees. -/
def listingAll (ns : List Node) : List Entry := (preorderAll ns).map entry

theorem listing_eq (n : Node) : n.listing = n.entry :: listingAll n.children := by
  rw [listing, preorder_eq, List.map_cons, listingAll]

@[simp] theorem listingAll_nil : listingAll [] = [] := by
  rw [listingAll, preorderAll_nil, List.map_nil]

@[simp] theorem listingAll_append (ns ms : List Node) :
    listingAll (ns ++ ms) = listingAll ns ++ listingAll ms := by
  simp [listingAll]

@[simp] theorem listingAll_singleton (n : Node) : listingAll [n] = n.listing := by
  rw [listingAll, preorderAll_singleton, listing]

/-- Only the statement, the source, the first line and the children of a node are listed. -/
theorem listing_congr {n m : Node} (hentry : n.entry = m.entry)
    (hchildren : n.children = m.children) : n.listing = m.listing := by
  rw [listing_eq, listing_eq, hentry, hchildren]

theorem listing_reaching (n : Node) (last : Nat) : (n.reaching last).listing = n.listing :=
  listing_congr rfl rfl

theorem listing_enclosing (n : Node) : n.enclosing.listing = n.listing := by
  obtain ⟨last, heq, -⟩ := enclosing_eq n
  rw [heq]
  exact listing_congr rfl rfl

theorem listing_ofStatement (kind : NodeKind) (statement : List Char) (raw : String)
    (span : Span) : (ofStatement kind statement raw span).listing
      = [⟨String.ofList (Statement.normalize statement), raw, span.first⟩] := by
  rw [listing_eq]
  simp [ofStatement, entry]

end Node

open Node

/-! ### Outlines -/

namespace Outline

variable {α : Type}

/-- The listing of the open sections, which are given innermost first. -/
def listingOpen (gs : List (OpenGroup α)) : List Entry :=
  gs.reverse.flatMap fun g => g.node.listing

/-- The listing of all that has been read. -/
def listing (o : Outline α) : List Entry := listingAll o.roots ++ listingOpen o.opened

theorem listingOpen_cons (g : OpenGroup α) (gs : List (OpenGroup α)) :
    listingOpen (g :: gs) = listingOpen gs ++ g.node.listing := by
  simp [listingOpen]

theorem listing_empty : (empty : Outline α).listing = [] := by
  simp [listing, empty, listingOpen]

/-- The innermost section is listed last, so other nodes in it only change the end. -/
theorem listing_withScope (o : Outline α) :
    ∃ before, ∀ ns, (o.withScope ns).listing = before ++ listingAll ns := by
  obtain ⟨roots, opened⟩ := o
  cases opened with
  | nil => exact ⟨[], fun ns => by simp [listing, withScope, listingOpen]⟩
  | cons g gs =>
      refine ⟨listingAll roots ++ listingOpen gs ++ [g.node.entry], fun ns => ?_⟩
      simp [listing, withScope, listingOpen_cons, listing_eq, entry]

theorem listing_eq_of_scope {o : Outline α} {before : List Entry} {ns : List Node}
    (h : ∀ ns, (o.withScope ns).listing = before ++ listingAll ns) (hscope : o.scope = ns) :
    o.listing = before ++ listingAll ns := by
  rw [← h, ← hscope, withScope_scope]

/-- An added node is listed last. -/
theorem listing_add (o : Outline α) (n : Node) : (o.add n).listing = o.listing ++ n.listing := by
  obtain ⟨before, h⟩ := listing_withScope o
  rw [add_eq, h, listing_eq_of_scope h rfl, listingAll_append, listingAll_singleton,
    List.append_assoc]

/-- An opened section is listed last. -/
theorem listing_push (o : Outline α) (n : Node) (tag : α) :
    (o.push n tag).listing = o.listing ++ n.listing := by
  simp only [listing, push, listingOpen_cons, List.append_assoc]

theorem listing_close (o : Outline α) : o.close.listing = o.listing := by
  obtain ⟨roots, opened⟩ := o
  cases opened with
  | nil => rfl
  | cons g gs =>
      simp only [close, listing_add, listing_enclosing]
      simp only [listing, listingOpen_cons, List.append_assoc]

theorem listing_closeAt (o : Outline α) (last : Nat) : (o.closeAt last).listing = o.listing := by
  obtain ⟨roots, opened⟩ := o
  cases opened with
  | nil => rfl
  | cons g gs =>
      simp only [closeAt, listing_close]
      simp only [listing, listingOpen_cons, listing_reaching]

theorem listing_closeMany (k : Nat) : ∀ o : Outline α, (closeMany k o).listing = o.listing := by
  induction k with
  | zero => intro o; rfl
  | succ k ih => intro o; rw [closeMany, ih, listing_close]

theorem listing_closeManyAt (last k : Nat) :
    ∀ o : Outline α, (closeManyAt last k o).listing = o.listing := by
  induction k with
  | zero => intro o; rfl
  | succ k ih => intro o; rw [closeManyAt, ih, listing_closeAt]

theorem listing_extendLast (o : Outline α) (last : Nat) :
    (o.extendLast last).listing = o.listing := by
  rcases extendLast_eq o last with heq | ⟨ns, n, hscope, heq⟩
  · rw [heq]
  · obtain ⟨before, h⟩ := listing_withScope o
    rw [heq, h, listing_eq_of_scope h hscope, listingAll_append, listingAll_append,
      listingAll_singleton, listingAll_singleton, listing_reaching]

/-- A leaf that is taken back was listed last. -/
theorem listing_takeLastLeaf {o o' : Outline α} {n : Node}
    (h : o.takeLastLeaf? = some (n, o')) : o'.listing ++ n.listing = o.listing := by
  obtain ⟨ns, hscope, -, rfl⟩ := takeLastLeaf?_eq_some h
  obtain ⟨before, hbefore⟩ := listing_withScope o
  rw [hbefore, listing_eq_of_scope hbefore hscope, listingAll_append, listingAll_singleton,
    List.append_assoc]

/-- Nothing is lost at the end of the text. -/
theorem listing_finish (o : Outline α) : listingAll o.finish = o.listing := by
  rw [finish, ← listing_closeMany o.opened.length o, listing, opened_closeMany_length]
  simp [listingOpen]

end Outline

/-! ### The statements of a line -/

/-- Whether a line is a closing word of the dialect, or empty where that is one. -/
def Schema.isCloser (s : Schema) (l : LogicalLine) : Bool :=
  (Text.words l.statement).length ≤ 1 && s.keywordBlocks.any fun b =>
    Text.eqIgnoreAsciiCase ((Text.words l.statement).headD []) b.closer.toList

/-- The statements that a line holds in a dialect. -/
def Schema.statements (s : Schema) (l : LogicalLine) : List (List Char) :=
  match s.blockStyle with
  | .flat => [l.statement]
  | .indent => if s.isTerminator l.statement then [] else [l.statement]
  | .keyword => if s.isCloser l then [] else [l.statement]
  | .brace => Brace.statements l.text

/-- A statement as it is listed. -/
def LogicalLine.entry (l : LogicalLine) (statement : List Char) : Entry :=
  ⟨String.ofList (Statement.normalize statement), String.ofList l.raw, l.first⟩

/-- The statements of a line as they are listed. -/
def Schema.entries (s : Schema) (l : LogicalLine) : List Entry := (s.statements l).map l.entry

theorem LogicalLine.listing_node (l : LogicalLine) (kind : NodeKind) :
    (l.node kind).listing = [l.entry l.statement] :=
  listing_ofStatement kind l.statement _ l.span

/-- A reader that lists every line's entries lists those of all lines. -/
theorem foldl_listing {σ : Type} (step : σ → LogicalLine → σ) (view : σ → List Entry)
    (entries : LogicalLine → List Entry)
    (h : ∀ st l, view (step st l) = view st ++ entries l) (lines : List LogicalLine) :
    ∀ st, view (lines.foldl step st) = view st ++ lines.flatMap entries := by
  induction lines with
  | nil => intro st; simp
  | cons l ls ih => intro st; rw [List.foldl_cons, ih, h, List.flatMap_cons, List.append_assoc]

/-! ### Indentation -/

namespace Indent

theorem listing_step (schema : Schema) (o : Outline Nat) (l : LogicalLine) (opening : Bool) :
    (step schema o l opening).listing
      = o.listing ++ if schema.isTerminator l.statement then [] else [l.entry l.statement] := by
  rw [← Outline.listing_closeMany (shallower l.indent o) o]
  unfold step
  by_cases hterm : schema.isTerminator l.statement = true
  · simp only [if_pos hterm, List.append_nil]
    split
    · exact Outline.listing_closeAt _ _
    · split
      · rfl
      · exact Outline.listing_extendLast _ _
  · simp only [if_neg hterm]
    split
    · rw [Outline.listing_push, LogicalLine.listing_node]
    · rw [Outline.listing_add, LogicalLine.listing_node]

theorem listing_steps (schema : Schema) (lines : List LogicalLine) :
    ∀ o : Outline Nat, (steps schema o lines).listing = o.listing ++ lines.flatMap fun l =>
      if schema.isTerminator l.statement then [] else [l.entry l.statement] := by
  induction lines with
  | nil => intro o; simp [steps]
  | cons l ls ih =>
      intro o
      rw [steps, ih, listing_step, List.flatMap_cons, List.append_assoc]

end Indent

/-! ### Words -/

namespace Keyword

theorem closed?_isSome (schema : Schema) (l : LogicalLine) :
    (closed? schema l).isSome = schema.isCloser l := by
  unfold closed? Schema.isCloser keyword
  by_cases h : (Text.words l.statement).length ≤ 1
  · simp [h]
  · simp [h]

theorem listing_step (schema : Schema) (o : Outline Nat) (l : LogicalLine) :
    (step schema o l).listing
      = o.listing ++ if schema.isCloser l then [] else [l.entry l.statement] := by
  rw [← closed?_isSome]
  unfold step
  cases closed? schema l with
  | some block =>
      rw [if_pos (by simp), List.append_nil]
      dsimp only
      split
      · exact Outline.listing_closeManyAt _ _ _
      · rfl
  | none =>
      rw [if_neg (by simp)]
      dsimp only
      split
      · rw [Outline.listing_push, LogicalLine.listing_node]
      · rw [Outline.listing_add, LogicalLine.listing_node]

end Keyword

/-! ### Braces -/

namespace Brace

/-- The entry of a piece, if it is not blank. -/
def entriesOf (l : LogicalLine) (p : Piece) : List Entry :=
  if isBlank p.text then [] else [l.entry p.text]

theorem listing_pieceNode (l : LogicalLine) (p : Piece) (kind : NodeKind) :
    (p.node kind l).listing = [l.entry p.text] :=
  listing_ofStatement kind p.text _ l.span

theorem listing_addLeaf (l : LogicalLine) (o : Outline Unit) (p : Piece) :
    (addLeaf l o p).listing = o.listing ++ entriesOf l p := by
  unfold addLeaf entriesOf
  split
  · rw [List.append_nil]
  · rw [Outline.listing_add, listing_pieceNode]

theorem listing_openGroup (l : LogicalLine) (st : State) (p : Piece) :
    (openGroup l st p).outline.listing = st.outline.listing ++ entriesOf l p := by
  unfold openGroup entriesOf
  split
  · rw [List.append_nil]
    split
    · rename_i n o h
      rw [← Outline.listing_takeLastLeaf h, Outline.listing_push]
      rw [listing_congr (n := { n with kind := .group }) (m := n) rfl rfl]
    · rfl
  · rw [Outline.listing_push, listing_pieceNode]

theorem listing_step (l : LogicalLine) (st : State) (p : Piece) :
    (step l st p).outline.listing = st.outline.listing ++ entriesOf l p := by
  unfold step
  split
  · exact listing_openGroup l st p
  · exact listing_addLeaf l st.outline p
  · dsimp only
    split
    · rw [Outline.listing_closeAt, listing_addLeaf]
    · exact listing_addLeaf l st.outline p

theorem flatMap_entriesOf (l : LogicalLine) (ps : List Piece) :
    ps.flatMap (entriesOf l) = ((ps.map (·.text)).filter (!isBlank ·)).map l.entry := by
  induction ps with
  | nil => rfl
  | cons p ps ih =>
      rw [List.flatMap_cons, ih, List.map_cons, entriesOf]
      by_cases h : isBlank p.text = true
      · rw [if_pos h, List.filter_cons_of_neg (by simp [h]), List.nil_append]
      · rw [if_neg h, List.filter_cons_of_pos (by simp [h]), List.map_cons, List.singleton_append]

theorem listing_stepLine (st : State) (l : LogicalLine) :
    (stepLine st l).outline.listing
      = st.outline.listing ++ (statements l.text).map l.entry := by
  have hpieces : ∀ (ps : List Piece) (st : State),
      (ps.foldl (step l) st).outline.listing = st.outline.listing ++ ps.flatMap (entriesOf l) := by
    intro ps
    induction ps with
    | nil => intro st; simp
    | cons p ps ih =>
        intro st
        rw [List.foldl_cons, ih, listing_step, List.flatMap_cons, List.append_assoc]
  rw [stepLine, hpieces, flatMap_entriesOf, cut_statements]

end Brace

/-! ### Any dialect -/

/-- The listing of the tree of some lines. -/
theorem listing_treeOf (schema : Schema) (lines : List LogicalLine) :
    listingAll (treeOf schema lines) = lines.flatMap schema.entries := by
  unfold treeOf
  cases hstyle : schema.blockStyle with
  | indent =>
      dsimp only [Indent.build]
      rw [Outline.listing_finish, Indent.listing_steps, Outline.listing_empty, List.nil_append]
      congr 1
      funext l
      simp only [Schema.entries, Schema.statements, hstyle]
      split <;> rfl
  | brace =>
      dsimp only [Brace.build]
      rw [Outline.listing_finish, foldl_listing Brace.stepLine (·.outline.listing) _
        Brace.listing_stepLine, Outline.listing_empty, List.nil_append]
      congr 1
      funext l
      simp only [Schema.entries, Schema.statements, hstyle]
  | keyword =>
      dsimp only [Keyword.build]
      rw [Outline.listing_finish, foldl_listing (Keyword.step schema) Outline.listing _
        (Keyword.listing_step schema), Outline.listing_empty, List.nil_append]
      congr 1
      funext l
      simp only [Schema.entries, Schema.statements, hstyle]
      split <;> rfl
  | flat =>
      dsimp only [flatTree]
      induction lines with
      | nil => simp
      | cons l ls ih =>
          rw [List.map_cons, ← List.singleton_append, listingAll_append, ih, listingAll_singleton,
            LogicalLine.listing_node, List.flatMap_cons]
          simp only [Schema.entries, Schema.statements, hstyle]
          rfl

/--
**No statement is lost, repeated or moved.**

The nodes of a tree, in source order, are the statements of the text's logical lines in
order, each with the source and the first line of its logical line.
-/
theorem parse_listing (schema : Schema) (text : String) :
    (preorderAll (parse schema text)).map (fun n => (⟨n.id, n.raw, n.span.first⟩ : Entry))
      = (LogicalLine.ofText schema text).flatMap fun l => (schema.statements l).map fun s =>
          ⟨String.ofList (Statement.normalize s), String.ofList l.raw, l.first⟩ :=
  listing_treeOf schema (LogicalLine.ofText schema text)

end DeviceLint
