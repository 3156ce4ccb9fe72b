/-
What is written between braces is read back, however it is laid out.

A statement is a label and a semicolon, and a section a label, an opening brace, what it
holds and a closing brace; between any two of these there may be blanks and line ends.
A line end after a label makes a leaf of it for the time being.  If a semicolon comes next
that was right, and if an opening brace comes next the leaf is taken back; in either case
the outline is the one it would have been without the line end.
-/
import Mathlib.Data.List.Chain
import DeviceLint.Proofs.Scan
import DeviceLint.Schema.Builtin

namespace DeviceLint

namespace Brace

/-! ### Configurations -/

/-- Blanks and line ends. -/
structure Gap where
  text : List Char
  blank : ∀ c ∈ text, Text.isBlank c = true

/-- What may be written as a label. -/
structure Label where
  text : List Char
  ne_nil : text ≠ []
  collapse_eq : Text.collapse text = text
  no_comment : text.head? ≠ some '#'
  no_quote : '"' ∉ text
  no_mark : ∀ m : Mark, m.char ∉ text
  no_block_comment : Text.contains text "/*".toList = false

/-- A label between its gaps, and the character that comes next. -/
def Label.written (label : Label) (before after : Gap) (m : Mark) : List Char :=
  before.text ++ label.text ++ after.text ++ [m.char]

/-- A statement with its layout. -/
inductive Item where
  | leaf (before : Gap) (label : Label) (beforeEnd : Gap)
  | group (before : Gap) (label : Label) (beforeOpening : Gap) (body : List Item)
    (beforeClosing : Gap)

mutual

/-- A statement as it is written. -/
def Item.text : Item → List Char
  | .leaf before label beforeEnd => label.written before beforeEnd .ends
  | .group before label beforeOpening body beforeClosing =>
    label.written before beforeOpening .opens ++ textOf body ++
      (beforeClosing.text ++ [Mark.closes.char])

def textOf : List Item → List Char
  | [] => []
  | item :: items => item.text ++ textOf items

end

/-- The node of a label between two lines; `raw` are the physical lines. -/
def nodeOf (raw : Nat → List Char) (kind : NodeKind) (label : Label) (first last : Nat)
    (children : List Node) : Node :=
  .ofLabel kind label.text (String.ofList (raw first)) ⟨first, last⟩ children

mutual

/-- The node of a statement whose text starts on line `n`; a section ends on the line of its
closing brace. -/
def Item.node (raw : Nat → List Char) (n : Nat) : Item → Node
  | .leaf before label _ =>
    nodeOf raw .leaf label (n + lineEnds before.text) (n + lineEnds before.text) []
  | .group before label beforeOpening body beforeClosing =>
    let first := n + lineEnds before.text
    let inside := first + lineEnds beforeOpening.text
    let last := inside + lineEnds (textOf body) + lineEnds beforeClosing.text
    nodeOf raw .group label first last (nodesOf raw inside body)

def nodesOf (raw : Nat → List Char) (n : Nat) : List Item → List Node
  | [] => []
  | item :: items => item.node raw n :: nodesOf raw (n + lineEnds item.text) items

end

/-! ### Labels -/

namespace Label

variable (label : Label)

theorem isNormal : Statement.IsNormal label.text := by
  refine Statement.isNormal_of_collapse label.ne_nil label.collapse_eq ?_
  intro c hc htrailing
  have hmark : ∀ m : Mark, c ≠ m.char := fun m heq => label.no_mark m (heq ▸ hc)
  have hends : c ≠ ';' := hmark .ends
  have hopens : c ≠ '\x7b' := hmark .opens
  simpa [Statement.isTrailing, hends, hopens] using htrailing

theorem isPlain : ∀ c ∈ label.text, IsPlain c ∧ c ≠ '\n' ∧ c ≠ '\r' := by
  intro c hc
  refine ⟨⟨?_, ?_⟩, label.isNormal.no_line_end c hc⟩
  · exact fun heq => label.no_quote (heq ▸ hc)
  · exact fun m heq => label.no_mark m (heq ▸ hc)

theorem head_not_blank : ∀ c ∈ label.text.head?, Text.isBlank c = false :=
  label.isNormal.trimmed.head

/-- Whether a label, with blanks around it, is what has been read since the last cut. -/
def IsRead (read : List Char) : Prop :=
  ∃ before after : Gap, read.reverse = before.text ++ label.text ++ after.text

variable {label} {read : List Char}

theorem IsRead.not_blank (h : label.IsRead read) : isBlank read.reverse = false := by
  obtain ⟨before, after, heq⟩ := h
  obtain ⟨c, cs, hlabel⟩ := List.exists_cons_of_ne_nil label.ne_nil
  have hc := label.head_not_blank c (by rw [hlabel]; rfl)
  rw [heq, hlabel]
  simp [isBlank_eq_all, hc]

theorem IsRead.node_eq (h : label.IsRead read) (schema : Schema) (raw : Nat → List Char) (n : Nat)
    (m : Mark) (kind : NodeKind) : Piece.node ⟨read.reverse, m⟩ kind (lineAt schema raw n)
      = nodeOf raw kind label n n [] := by
  obtain ⟨before, after, heq⟩ := h
  rw [Piece.node, heq, Node.ofStatement_padded label.isNormal before.blank after.blank]
  simp [nodeOf, lineAt, LogicalLine.single, LogicalLine.span, Span.between]

end Label

/-! ### Line ends -/

theorem lineEnds_append (s t : List Char) : lineEnds (s ++ t) = lineEnds s + lineEnds t :=
  List.count_append

theorem lineEnds_mark (m : Mark) : lineEnds [m.char] = 0 := by cases m <;> decide

theorem lineEnds_label (label : Label) : lineEnds label.text = 0 :=
  List.count_eq_zero.mpr fun h => (label.isPlain '\n' h).2.1 rfl

theorem lineEnds_written (label : Label) (before after : Gap) (m : Mark) :
    lineEnds (label.written before after m) = lineEnds before.text + lineEnds after.text := by
  rw [Label.written, lineEnds_append, lineEnds_append, lineEnds_append, lineEnds_label,
    lineEnds_mark, Nat.add_zero, Nat.add_zero]

theorem lineEnds_group (before : Gap) (label : Label) (beforeOpening : Gap) (body : List Item)
    (beforeClosing : Gap) : lineEnds (Item.group before label beforeOpening body beforeClosing).text
      = lineEnds before.text + lineEnds beforeOpening.text + lineEnds (textOf body) +
        lineEnds beforeClosing.text := by
  rw [Item.text, lineEnds_append, lineEnds_append, lineEnds_append, lineEnds_written,
    lineEnds_mark, Nat.add_zero]

/-- A node ends where its text does. -/
theorem Item.last_node (raw : Nat → List Char) (item : Item) (n : Nat) :
    (item.node raw n).span.last ≤ n + lineEnds item.text := by
  cases item with
  | leaf before label beforeEnd =>
      rw [node, text, lineEnds_written]
      simp only [nodeOf, Node.ofLabel]
      omega
  | group before label beforeOpening body beforeClosing =>
      rw [node, lineEnds_group]
      simp only [nodeOf, Node.ofLabel]
      omega

theorem last_nodesOf (raw : Nat → List Char) (items : List Item) :
    ∀ n : Nat, ∀ m ∈ nodesOf raw n items, m.span.last ≤ n + lineEnds (textOf items) := by
  induction items with
  | nil => simp [nodesOf]
  | cons item items ih =>
      intro n
      rw [nodesOf, textOf, lineEnds_append, List.forall_mem_cons, ← Nat.add_assoc]
      exact ⟨Nat.le_trans (item.last_node raw n) (Nat.le_add_right _ _), ih _⟩

/-! ### Reading -/

variable {schema : Schema} {raw : Nat → List Char} {o : Outline Unit} {s : List Char}

theorem readOn_label (label : Label) {st r : State} {n : Nat} {read : List Char}
    (hread : isBlank read.reverse = true)
    (hrest : ∀ read', label.IsRead read' → readOn schema raw st n read' s = r) :
    readOn schema raw st n read (label.text ++ s) = r := by
  obtain ⟨c, cs, hlabel⟩ := List.exists_cons_of_ne_nil label.ne_nil
  have hplain := label.isPlain
  have hc := label.head_not_blank c (by rw [hlabel]; rfl)
  have hhash : c ≠ '#' := by
    rintro rfl
    exact label.no_comment (by rw [hlabel]; rfl)
  rw [hlabel, List.forall_mem_cons] at hplain
  obtain ⟨⟨hcplain, hline, hreturn⟩, hcs⟩ := hplain
  rw [hlabel, List.cons_append, readOn_plain hcplain hline (fun heq => absurd heq hreturn)
    (fun heq => absurd heq hhash), readOn_append hcs (by simp [isBlank_eq_all, hc])]
  rw [isBlank_eq_all, List.all_eq_true] at hread
  exact hrest _ ⟨⟨read.reverse, hread⟩, ⟨[], by simp⟩, by simp [hlabel]⟩

/-- A label that has been read is a leaf where its line or its statement ends. -/
theorem step_ends {label : Label} {read : List Char} (h : label.IsRead read) (n : Nat) :
    step (lineAt schema raw n) ⟨o, 0⟩ ⟨read.reverse, .ends⟩
      = ⟨o.add (nodeOf raw .leaf label n n []), 0⟩ := by
  simp only [step, addLeaf, h.not_blank, h.node_eq, Bool.false_eq_true, if_false]

/-- The blanks after a label: either they end no line and belong to the piece, or the label has
been taken for a leaf. -/
theorem readOn_afterLabel {label : Label} {gap : List Char} {r : State}
    (hgap : ∀ c ∈ gap, Text.isBlank c = true) {n : Nat} :
    ∀ {read : List Char}, label.IsRead read →
      (lineEnds gap = 0 → ∀ read', label.IsRead read' →
        readOn schema raw ⟨o, 0⟩ n read' s = r) →
      (∀ read', isBlank read'.reverse = true →
        readOn schema raw ⟨o.add (nodeOf raw .leaf label n n []), 0⟩ (n + lineEnds gap) read' s
          = r) →
      readOn schema raw ⟨o, 0⟩ n read (gap ++ s) = r := by
  induction gap with
  | nil => exact fun hread hsame _ => hsame rfl _ hread
  | cons c gap ih =>
      intro read hread hsame hleaf
      rw [List.forall_mem_cons] at hgap
      refine readOn_blank hgap.1 ?_ ?_ ?_
      · rintro rfl
        rw [lineEnds_newline, ← Nat.add_assoc] at hleaf
        rw [step_ends hread]
        exact readOn_gap hgap.2 (by simp) hleaf
      · intro hc
        rw [lineEnds_cons hc] at hsame hleaf
        exact ih hgap.2 hread hsame hleaf
      · intro hc
        rw [lineEnds_cons hc] at hsame hleaf
        refine ih hgap.2 ?_ hsame hleaf
        obtain ⟨before, after, hpiece⟩ := hread
        have hafter : ∀ d ∈ after.text ++ [c], Text.isBlank d = true :=
          List.forall_mem_append.mpr ⟨after.blank, by simpa using hgap.1⟩
        exact ⟨before, ⟨_, hafter⟩, by simp [hpiece]⟩

/-- A label and the blanks around it, up to the next mark. -/
theorem readOn_written {label : Label} {before after : Gap} {m : Mark} {n : Nat} {r : State}
    (hsame : lineEnds after.text = 0 → ∀ read, label.IsRead read →
      readOn schema raw
        (step (lineAt schema raw (n + lineEnds before.text)) ⟨o, 0⟩ ⟨read.reverse, m⟩)
        (n + lineEnds before.text) [] s = r)
    (hleaf : ∀ read, isBlank read = true →
      readOn schema raw
        (step (lineAt schema raw (n + lineEnds before.text + lineEnds after.text))
          ⟨o.add (nodeOf raw .leaf label (n + lineEnds before.text)
            (n + lineEnds before.text) []), 0⟩ ⟨read, m⟩)
        (n + lineEnds before.text + lineEnds after.text) [] s = r) :
    readOn schema raw ⟨o, 0⟩ n [] (label.written before after m ++ s) = r := by
  rw [Label.written, List.append_assoc, List.append_assoc, List.append_assoc,
    List.singleton_append]
  refine readOn_gap before.blank (by simp) fun read₁ hread₁ => ?_
  refine readOn_label label hread₁ fun read₂ hread₂ => ?_
  refine readOn_afterLabel after.blank hread₂ ?_ ?_
  · intro hnone read hread
    rw [readOn_mark]
    exact hsame hnone read hread
  · intro read hread
    rw [readOn_mark]
    exact hleaf read.reverse hread

/-- A label before a semicolon. -/
theorem readOn_ends (label : Label) (before after : Gap) (n : Nat) :
    readOn schema raw ⟨o, 0⟩ n [] (label.written before after .ends ++ s)
      = readOn schema raw ⟨o.add (nodeOf raw .leaf label (n + lineEnds before.text)
          (n + lineEnds before.text) []), 0⟩ (n + lineEnds before.text + lineEnds after.text) []
          s := by
  refine readOn_written ?_ ?_
  · intro hnone read hread
    rw [hnone, Nat.add_zero, step_ends hread]
  · intro read hread
    rw [step_blank _ _ hread]

/-- A leaf that was added last can be made a section. -/
theorem openGroup_add {l : LogicalLine} {read : List Char} (hread : isBlank read = true)
    {label : Label} {n : Nat} (m : Mark) :
    openGroup l ⟨o.add (nodeOf raw .leaf label n n []), 0⟩ ⟨read, m⟩
      = ⟨o.push (nodeOf raw .group label n n []) (), 0⟩ := by
  have htake : (o.add (nodeOf raw .leaf label n n [])).takeLastLeaf?
      = some (nodeOf raw .leaf label n n [], o) := Outline.takeLastLeaf?_add o _
  rw [openGroup, if_pos hread]
  dsimp only
  rw [htake]
  rfl

/-- A label before an opening brace, on its line or on one of the next. -/
theorem readOn_opens (label : Label) (before after : Gap) (n : Nat) :
    readOn schema raw ⟨o, 0⟩ n [] (label.written before after .opens ++ s)
      = readOn schema raw ⟨o.push (nodeOf raw .group label (n + lineEnds before.text)
          (n + lineEnds before.text) []) (), 0⟩ (n + lineEnds before.text + lineEnds after.text) []
          s := by
  refine readOn_written ?_ ?_
  · intro hnone read hread
    rw [hnone, Nat.add_zero]
    simp only [step, openGroup, hread.not_blank, hread.node_eq, Bool.false_eq_true, if_false]
  · intro read hread
    rw [step, openGroup_add hread]

theorem readOn_closes (gap : Gap) (n : Nat) :
    readOn schema raw ⟨o, 0⟩ n [] (gap.text ++ [Mark.closes.char] ++ s)
      = readOn schema raw ⟨o.closeAt (n + lineEnds gap.text), 0⟩ (n + lineEnds gap.text) [] s := by
  rw [List.append_assoc, List.singleton_append]
  refine readOn_gap gap.blank (by simp) fun read hread => ?_
  rw [readOn_mark]
  simp [step, addLeaf, hread, lineAt, LogicalLine.single]

mutual

/-- A statement is read as its node. -/
theorem readOn_item (item : Item) (n : Nat) (o : Outline Unit) (s : List Char) :
    readOn schema raw ⟨o, 0⟩ n [] (item.text ++ s)
      = readOn schema raw ⟨o.add (item.node raw n), 0⟩ (n + lineEnds item.text) [] s := by
  match item with
  | .leaf before label beforeEnd =>
      rw [Item.text, readOn_ends, Item.node, lineEnds_written, Nat.add_assoc]
  | .group before label beforeOpening body beforeClosing =>
      have hlast := last_nodesOf raw body (n + lineEnds before.text + lineEnds beforeOpening.text)
      rw [Item.node, lineEnds_group, Item.text, List.append_assoc, List.append_assoc,
        readOn_opens, readOn_items, readOn_closes, Outline.closeAt_push]
      · simp only [Nat.add_assoc]
        rfl
      · simp only [nodeOf, Node.ofLabel]
        omega
      · intro m hm
        exact Nat.le_trans (hlast m hm) (Nat.le_add_right _ _)

theorem readOn_items (items : List Item) (n : Nat) (o : Outline Unit) (s : List Char) :
    readOn schema raw ⟨o, 0⟩ n [] (textOf items ++ s)
      = readOn schema raw ⟨o.withScope (o.scope ++ nodesOf raw n items), 0⟩
          (n + lineEnds (textOf items)) [] s := by
  match items with
  | [] =>
      rw [nodesOf, List.append_nil, Outline.withScope_scope]
      rfl
  | item :: items =>
      rw [textOf, List.append_assoc, readOn_item item, readOn_items items, nodesOf,
        Outline.withScope_add, Outline.scope_add, List.append_assoc, List.singleton_append,
        lineEnds_append, Nat.add_assoc]

end

/-! ### Block comments -/

/-- Texts that neither hold the beginning of a block comment nor end in the middle of one. -/
structure OpensNoComment (s : List Char) : Prop where
  apart : s.IsChain fun c d => ¬ (c = '/' ∧ d = '*')
  last : ∀ c ∈ s.getLast?, c ≠ '/'

theorem OpensNoComment.append {s t : List Char} (hs : OpensNoComment s) (ht : OpensNoComment t) :
    OpensNoComment (s ++ t) where
  apart := List.isChain_append.mpr ⟨hs.apart, ht.apart, fun c hc _ _ h => hs.last c hc h.1⟩
  last := by
    intro c hc
    rw [List.getLast?_append] at hc
    cases hlast : t.getLast? with
    | none => exact hs.last c (by simpa [hlast] using hc)
    | some d => exact ht.last c (by simpa [hlast] using hc)

theorem opensNoComment_of_forall {s : List Char} (h : ∀ c ∈ s, c ≠ '/') : OpensNoComment s where
  apart := List.isChain_iff_forall_rel_of_append_cons_cons.mpr fun c _ _ _ hs hcd =>
    h c (by simp [hs]) hcd.1
  last := fun c hc => h c (List.mem_of_getLast? hc)

/-- Nothing begins or ends a block comment but a stroke and a star. -/
theorem not_mem_gap_mark (gap : Gap) (m : Mark) :
    ∀ c ∈ gap.text ++ [m.char], c ≠ '/' ∧ c ≠ '*' := by
  rw [List.forall_mem_append, List.forall_mem_singleton]
  refine ⟨?_, by cases m <;> decide⟩
  intro c hc
  have hblank := gap.blank c hc
  constructor <;> rintro rfl <;> exact absurd hblank (by decide)

theorem opensNoComment_written (label : Label) (before after : Gap) (m : Mark) :
    OpensNoComment (label.written before after m) := by
  have hend := not_mem_gap_mark after m
  have hbefore : OpensNoComment before.text :=
    opensNoComment_of_forall fun c hc =>
      (not_mem_gap_mark before m c (List.mem_append_left _ hc)).1
  have hafter := opensNoComment_of_forall fun c hc => (hend c hc).1
  have hlabel : OpensNoComment (label.text ++ (after.text ++ [m.char])) := by
    constructor
    · refine List.isChain_append.mpr ⟨?_, hafter.apart, ?_⟩
      · rw [List.isChain_iff_forall_rel_of_append_cons_cons]
        rintro c d front back htext ⟨rfl, rfl⟩
        have hcontains : Text.contains label.text "/*".toList = true :=
          Text.contains_iff.mpr ⟨front, back, by simp [htext]⟩
        rw [label.no_block_comment] at hcontains
        simp at hcontains
      · exact fun c _ d hd h => (hend d (List.mem_of_head? hd)).2 h.2
    · intro c hc
      refine hafter.last c ?_
      rwa [List.getLast?_append_of_ne_nil _ (by simp)] at hc
  simpa [Label.written] using hbefore.append hlabel

mutual

theorem Item.opensNoComment (item : Item) : OpensNoComment item.text := by
  match item with
  | .leaf before label beforeEnd => exact opensNoComment_written label before beforeEnd .ends
  | .group before label beforeOpening body beforeClosing =>
      have hclosing := opensNoComment_of_forall fun c hc =>
        (not_mem_gap_mark beforeClosing .closes c hc).1
      exact ((opensNoComment_written label before beforeOpening .opens).append
        (opensNoComment_textOf body)).append hclosing

theorem opensNoComment_textOf (items : List Item) : OpensNoComment (textOf items) := by
  match items with
  | [] => exact opensNoComment_of_forall (by simp [textOf])
  | item :: items => exact item.opensNoComment.append (opensNoComment_textOf items)

end

/-! ### Whole configurations -/

/-- A configuration is read as its nodes. -/
theorem IsDialect.parse_textOf (h : IsDialect schema)
    (hcomment : schema.blockComment = some ⟨"/*", "*/"⟩) (items : List Item) (trailing : Gap) :
    parse schema (String.ofList (textOf items ++ trailing.text))
      = nodesOf (physicalLine (textOf items ++ trailing.text)) 1 items := by
  have htrailing : OpensNoComment trailing.text := opensNoComment_of_forall fun c hc =>
    (not_mem_gap_mark trailing .ends c (List.mem_append_left _ hc)).1
  have hapart := ((opensNoComment_textOf items).append htrailing).apart
  have hread : ∀ raw : Nat → List Char,
      readOn schema raw ⟨Outline.empty, 0⟩ 1 [] (textOf items ++ trailing.text)
        = ⟨⟨nodesOf raw 1 items, []⟩, 0⟩ := by
    intro raw
    rw [readOn_items, ← List.append_nil trailing.text]
    refine readOn_gap trailing.blank (by simp) fun read hread => ?_
    rw [readOn_nil, step_blank _ _ hread]
    rfl
  rw [h.parse_eq, hread]
  · rfl
  · intro d hd hpart
    obtain rfl : ⟨"/*", "*/"⟩ = d := Option.some.inj (hcomment.symm.trans hd)
    have hpair : ['/', '*'].IsChain fun c d => ¬ (c = '/' ∧ d = '*') := hapart.infix hpart
    simp at hpair

/-- **Between braces**: a configuration is read back as it was written, whatever blanks and line
ends stand between its labels and its punctuation. -/
theorem parse_layout (items : List Item) (trailing : Gap) :
    let text := textOf items ++ trailing.text
    parse Schema.juniperJunos (String.ofList text) = nodesOf (physicalLine text) 1 items ∧
    parse Schema.nokiaSros (String.ofList text) = nodesOf (physicalLine text) 1 items ∧
    parse Schema.vyos (String.ofList text) = nodesOf (physicalLine text) 1 items := by
  have hjunos : IsDialect Schema.juniperJunos := ⟨rfl, ⟨rfl, rfl⟩, rfl⟩
  have hsros : IsDialect Schema.nokiaSros := ⟨rfl, ⟨rfl, rfl⟩, rfl⟩
  have hvyos : IsDialect Schema.vyos := ⟨rfl, ⟨rfl, rfl⟩, rfl⟩
  exact ⟨hjunos.parse_textOf rfl items trailing, hsros.parse_textOf rfl items trailing,
    hvyos.parse_textOf rfl items trailing⟩

/-- A section whose opening brace stands on the line below its label. -/
example :
    let lineEnd : Gap := ⟨['\n'], by simp [Text.isBlank]⟩
    let system : Label := ⟨"system".toList, by decide, by decide, by decide, by decide,
      by rintro ⟨⟩ <;> decide, by decide⟩
    let hostName : Label := ⟨"host-name r1".toList, by decide, by decide, by decide, by decide,
      by rintro ⟨⟩ <;> decide, by decide⟩
    let item : Item :=
      .group ⟨[], by simp⟩ system lineEnd [.leaf lineEnd hostName ⟨[], by simp⟩] lineEnd
    item.text = "system\n\x7b\nhost-name r1;\n\x7d".toList ∧
      (item.node (physicalLine item.text) 1).span = ⟨1, 4⟩ :=
  ⟨rfl, rfl⟩

end Brace

end DeviceLint
