/-
Lines without the blanks they begin with.

The indentation of a logical line is measured while lines are gathered and kept beside the text.
After that no reader looks at the blanks before a statement: a node is made of the trimmed text,
and a piece of a line that is cut at braces is trimmed as well.  So they can be left out.

In a line that is cut the blanks are a part of its first piece, which the reader holds until it
comes to the end of it.  The induction therefore speaks of a piece that is being read and had
these blanks before it.
-/
import DeviceLint.Proofs.Scan
import DeviceLint.Proofs.Uniform

namespace DeviceLint

theorem Statement.normalize_blanks_append {blanks : List Char}
    (h : ∀ c ∈ blanks, Text.isBlank c = true) (s : List Char) :
    normalize (blanks ++ s) = normalize s := by
  rw [normalize, Text.trim_append h, normalize]

/-! ### Lines -/

namespace LogicalLine

/-- A line without the blanks it begins with.  Its indentation is kept apart from them. -/
def flush (l : LogicalLine) : LogicalLine := { l with text := Text.trimStart l.text }

theorem flush_statement (l : LogicalLine) : l.flush.statement = l.statement := by
  obtain ⟨blanks, hblanks, htext⟩ := Text.exists_append_trimStart l.text
  rw [statement, statement, htext, Text.trim_append hblanks, flush]

theorem flush_node (l : LogicalLine) (kind : NodeKind) : l.flush.node kind = l.node kind := by
  rw [node, flush_statement]
  rfl

end LogicalLine

/-! ### Readers -/

namespace Brace

variable {blanks : List Char} (l : LogicalLine)

/-- Blanks that a piece begins with are nothing to the reader. -/
theorem step_blanks_append (h : ∀ c ∈ blanks, Text.isBlank c = true) (st : State)
    (text : List Char) (mark : Mark) : step l st ⟨blanks ++ text, mark⟩ = step l st ⟨text, mark⟩ := by
  have hblank : isBlank (blanks ++ text) = isBlank text := by
    rw [isBlank, Text.trim_append h, isBlank]
  have hnode : ∀ kind, Piece.node ⟨blanks ++ text, mark⟩ kind l = Piece.node ⟨text, mark⟩ kind l := by
    intro kind
    simp only [Piece.node, Node.ofStatement, Statement.normalize_blanks_append h]
  simp only [step, addLeaf, openGroup, hblank, hnode]

/-- Only the piece that the line begins with has the blanks in it. -/
theorem foldl_cutFrom_append (h : ∀ c ∈ blanks, Text.isBlank c = true) (s : List Char) :
    ∀ quoted read st, (cutFrom quoted (read ++ blanks.reverse) s).foldl (step l) st
      = (cutFrom quoted read s).foldl (step l) st := by
  have hstep : ∀ st read mark, step l st ⟨(read ++ blanks.reverse).reverse, mark⟩
      = step l st ⟨read.reverse, mark⟩ := by
    intro st read mark
    rw [List.reverse_append, List.reverse_reverse, step_blanks_append l h]
  have hblank : ∀ read, isBlank (read ++ blanks.reverse).reverse = isBlank read.reverse := by
    intro read
    rw [List.reverse_append, List.reverse_reverse, isBlank, Text.trim_append h, isBlank]
  induction s with
  | nil =>
      intro quoted read st
      rw [cutFrom, cutFrom, List.foldl_cons, List.foldl_cons, hstep]
  | cons c s ih =>
      intro quoted read st
      have hgrow : ∀ quoted, (cutFrom quoted (c :: (read ++ blanks.reverse)) s).foldl (step l) st
          = (cutFrom quoted (c :: read) s).foldl (step l) st :=
        fun quoted => ih quoted (c :: read) st
      rw [cutFrom, cutFrom, hblank]
      -- The piece grows within quotes and by a quote, ends at a comment or a cut, or else grows.
      split
      · exact hgrow _
      split
      · exact hgrow _
      split
      · rw [List.foldl_cons, List.foldl_cons, hstep]
      split
      · rw [List.foldl_cons, List.foldl_cons, hstep]
      split
      · rw [List.foldl_cons, List.foldl_cons, hstep]
      split
      · rw [List.foldl_cons, List.foldl_cons, hstep]
      · exact hgrow _

theorem stepLine_flush (st : State) : stepLine st l.flush = stepLine st l := by
  obtain ⟨blanks, hblanks, htext⟩ := Text.exists_append_trimStart l.text
  have hcut := foldl_cutFrom_append l hblanks (Text.trimStart l.text) false [] st
  show (cut (Text.trimStart l.text)).foldl (step l) st = (cut l.text).foldl (step l) st
  rw [cut, cut]
  conv_rhs => rw [htext, cutFrom_blanks_append hblanks, List.append_nil]
  rw [← hcut, List.nil_append]

end Brace

namespace Indent

open LogicalLine (flush)

theorem step_flush (schema : Schema) (o : Outline Nat) (l : LogicalLine) (opening : Bool) :
    step schema o l.flush opening = step schema o l opening := by
  simp only [step, LogicalLine.flush_statement, LogicalLine.flush_node]
  rfl

theorem steps_flush (schema : Schema) (ls : List LogicalLine) :
    ∀ o, steps schema o (ls.map flush) = steps schema o ls := by
  induction ls with
  | nil => intro o; rfl
  | cons l ls ih =>
      intro o
      have hopens : opens l.flush (ls.map flush) = opens l ls := by cases ls <;> rfl
      rw [List.map_cons, steps, hopens, step_flush, ih, steps]

end Indent

theorem Keyword.step_flush (schema : Schema) (o : Outline Nat) (l : LogicalLine) :
    step schema o l.flush = step schema o l := by
  simp only [step, closed?, opened?, keyword, LogicalLine.flush_statement, LogicalLine.flush_node]
  rfl

/-- **A tree does not depend on the blanks its lines begin with, but on their indentation.** -/
theorem treeOf_flush (schema : Schema) (ls : List LogicalLine) :
    treeOf schema (ls.map LogicalLine.flush) = treeOf schema ls := by
  unfold treeOf
  cases schema.blockStyle with
  | indent => exact congrArg Outline.finish (Indent.steps_flush schema ls Outline.empty)
  | brace =>
      have hfold := foldl_map_hom Brace.stepLine id (fun st l => Brace.stepLine_flush l st) ls
        ⟨Outline.empty, 0⟩
      exact congrArg (fun st => st.outline.finish) hfold
  | keyword =>
      have hfold := foldl_map_hom (Keyword.step schema) id (Keyword.step_flush schema) ls
        Outline.empty
      exact congrArg Outline.finish hfold
  | flat =>
      dsimp only [flatTree]
      rw [List.map_map]
      exact List.map_congr_left fun l _ => l.flush_node .leaf

end DeviceLint
