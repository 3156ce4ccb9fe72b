/-
What is written between opening and closing words is read back.

A configuration is written with one statement to a line, and after what a section holds
comes its closing word.  The last section in a section may be left open there, and so may
the last one in it, and so on, as long as none of these is of the kind that is closed next:
its closer then closes them all, and they all end with it.

The reader knows of an open section only by which block opened it.  So the induction says
of what stands in a section no more than this: whatever is still open afterwards, the
innermost open section of the enclosing kind is the enclosing one, and closing it comes to
the same as if its nodes had been put into it finished.
-/
import Mathlib.Data.List.Basic
import DeviceLint.Proofs.Normal
import DeviceLint.Proofs.Seam
import DeviceLint.Proofs.Renumber
import DeviceLint.Schema.Builtin

namespace DeviceLint

namespace Keyword

/-! ### Configurations -/

mutual

/-- A statement that is to be written. -/
inductive Item where
  | leaf (label : List Char)
  | group (block : Delimiters) (label : List Char) (body : Body)

/-- What stands in a section. -/
inductive Body where
  | done
  | next (item : Item) (rest : Body)
  /-- A last section whose closer is left out. -/
  | unclosed (block : Delimiters) (label : List Char) (body : Body)

end

/-- The first word of a label. -/
def firstWord (label : List Char) : List Char := (Text.words label).headD []

/-- What may be written as a label. -/
structure IsLabel (schema : Schema) (label : List Char) : Prop where
  normal : Statement.IsNormal label
  no_comment : schema.isComment label = false

/-- Labels that open a block. -/
structure Opens (schema : Schema) (block : Delimiters) (label : List Char) : Prop where
  isLabel : IsLabel schema label
  mem : block ∈ schema.keywordBlocks
  opener : Text.eqIgnoreAsciiCase (firstWord label) block.opener.toList = true

/-- Labels that neither open nor close a block. -/
structure IsPlain (schema : Schema) (label : List Char) : Prop where
  isLabel : IsLabel schema label
  opens_none : ∀ block ∈ schema.keywordBlocks,
    Text.eqIgnoreAsciiCase (firstWord label) block.opener.toList = false
  closes_none : (Text.words label).length = 1 → ∀ block ∈ schema.keywordBlocks,
    Text.eqIgnoreAsciiCase (firstWord label) block.closer.toList = false

mutual

/-- What can be written in a dialect. -/
def Item.Writable (schema : Schema) : Item → Prop
  | .leaf label => IsPlain schema label
  | .group block label body => Opens schema block label ∧ body.Writable schema block

/-- What can be written in a section of one kind: the closer of no other kind is left out. -/
def Body.Writable (schema : Schema) (enclosing : Delimiters) : Body → Prop
  | .done => True
  | .next item rest => item.Writable schema ∧ rest.Writable schema enclosing
  | .unclosed block label body =>
    Opens schema block label ∧ block ≠ enclosing ∧ body.Writable schema enclosing

end

mutual

/-- The lines of a statement. -/
def Item.lines : Item → List (List Char)
  | .leaf label => [label]
  | .group block label body => label :: (body.lines ++ [block.closer.toList])

def Body.lines : Body → List (List Char)
  | .done => []
  | .next item rest => item.lines ++ rest.lines
  | .unclosed _ label body => label :: body.lines

end

/-- A configuration as a text. -/
def write (items : List Item) : String :=
  String.ofList ((items.flatMap Item.lines).flatMap (· ++ ['\n']))

/-! ### The nodes of a configuration -/

/-- The node of a label between two lines. -/
def nodeOf (kind : NodeKind) (label : List Char) (first last : Nat) (children : List Node) :
    Node :=
  .ofLabel kind label (String.ofList label) ⟨first, last⟩ children

mutual

/-- The node of a statement that starts on line `n`; a section ends on the line of its closer. -/
def Item.node (n : Nat) : Item → Node
  | .leaf label => nodeOf .leaf label n n []
  | .group _ label body =>
    nodeOf .group label n (n + 1 + body.lines.length)
      (body.nodes (n + 1 + body.lines.length) (n + 1))

/-- The nodes of what stands in a section from line `n` on; where a closer is left out the section
ends on line `last`. -/
def Body.nodes (last n : Nat) : Body → List Node
  | .done => []
  | .next item rest => item.node n :: rest.nodes last (n + item.lines.length)
  | .unclosed _ label body => [nodeOf .group label n last (body.nodes last (n + 1))]

end

/-- The nodes of a configuration from line `n` on. -/
def nodesFrom (n : Nat) : List Item → List Node
  | [] => []
  | item :: items => item.node n :: nodesFrom (n + item.lines.length) items

theorem Item.last_node (item : Item) (n : Nat) :
    (item.node n).span.last + 1 = n + item.lines.length := by
  cases item with
  | leaf label => simp [node, nodeOf, Node.ofLabel, lines]
  | group block label body =>
      simp [node, nodeOf, Node.ofLabel, lines]
      omega

/-- Nothing in a section reaches beyond its last line. -/
theorem Body.last_le {last : Nat} (body : Body) {n : Nat} (h : n + body.lines.length ≤ last) :
    ∀ m ∈ body.nodes last n, m.span.last ≤ last := by
  match body with
  | .done => simp [nodes]
  | .next item rest =>
      rw [lines, List.length_append] at h
      have hitem := item.last_node n
      rw [nodes, List.forall_mem_cons]
      exact ⟨by omega, rest.last_le (by omega)⟩
  | .unclosed block label body => simp [nodes, nodeOf, Node.ofLabel]

/-! ### Words of a dialect -/

/-- The words that open and close the blocks of a dialect. -/
def keywords (schema : Schema) : List String :=
  schema.keywordBlocks.flatMap fun block => [block.opener, block.closer]

/-- Dialects between words of which each is one word and means one thing. -/
structure IsDialect (schema : Schema) : Prop where
  style : schema.blockStyle = .keyword
  single_line : schema.IsSingleLine
  no_block_comments : schema.blockComment = none
  single_words : ∀ w ∈ keywords schema, Text.words w.toList = [w.toList]
  distinct : (keywords schema).Pairwise fun v w => sameWord v w = false
  closers_no_comments : ∀ block ∈ schema.keywordBlocks,
    schema.isComment block.closer.toList = false

variable {schema : Schema} {block : Delimiters} {label : List Char}

theorem IsDialect.words_closer (h : IsDialect schema) (hmem : block ∈ schema.keywordBlocks) :
    Text.words block.closer.toList = [block.closer.toList] :=
  h.single_words _ (List.mem_flatMap.mpr ⟨block, hmem, by simp⟩)

theorem IsDialect.isWord_closer (h : IsDialect schema) (hmem : block ∈ schema.keywordBlocks) :
    Text.IsWord block.closer.toList :=
  Text.isWord_of_mem_words block.closer.toList _ (by simp [h.words_closer hmem])

/-- The words of a block are no words of another. -/
theorem IsDialect.apart (h : IsDialect schema) {i j : Nat} (hi : i < schema.keywordBlocks.length)
    (hj : j < schema.keywordBlocks.length) (hij : i < j) :
    ∀ v ∈ [schema.keywordBlocks[i].opener, schema.keywordBlocks[i].closer],
      ∀ w ∈ [schema.keywordBlocks[j].opener, schema.keywordBlocks[j].closer],
        sameWord v w = false := by
  have hdistinct := h.distinct
  rw [keywords, List.pairwise_flatMap] at hdistinct
  exact List.pairwise_iff_getElem.mp hdistinct.2 i j hi hj hij

/-- No word opens one block and closes another, or the same. -/
theorem IsDialect.opener_ne_closer (h : IsDialect schema) {b c : Delimiters}
    (hb : b ∈ schema.keywordBlocks) (hc : c ∈ schema.keywordBlocks) :
    ¬ b.opener.toList.map Char.toLower = c.closer.toList.map Char.toLower := by
  intro heq
  obtain ⟨i, hi, rfl⟩ := List.getElem_of_mem hb
  obtain ⟨j, hj, rfl⟩ := List.getElem_of_mem hc
  have hsame : sameWord schema.keywordBlocks[i].opener schema.keywordBlocks[j].closer = true :=
    Text.eqIgnoreAsciiCase_iff.mpr heq
  have hsame' : sameWord schema.keywordBlocks[j].closer schema.keywordBlocks[i].opener = true :=
    Text.eqIgnoreAsciiCase_iff.mpr heq.symm
  rcases Nat.lt_trichotomy i j with hij | rfl | hij
  · have hne := h.apart hi hj hij schema.keywordBlocks[i].opener (by simp)
      schema.keywordBlocks[j].closer (by simp)
    rw [hsame] at hne
    simp at hne
  · have hdistinct := h.distinct
    rw [keywords, List.pairwise_flatMap] at hdistinct
    have hne := hdistinct.1 _ hb
    simp [hsame] at hne
  · have hne := h.apart hj hi hij schema.keywordBlocks[j].closer (by simp)
      schema.keywordBlocks[i].opener (by simp)
    rw [hsame'] at hne
    simp at hne

/-- A block is found by either of its words. -/
theorem IsDialect.findIdx? (h : IsDialect schema) (wordOf : Delimiters → String)
    (hword : ∀ b : Delimiters, wordOf b ∈ [b.opener, b.closer])
    (hmem : block ∈ schema.keywordBlocks) {w : List Char} (hw : Text.eqIgnoreAsciiCase w (wordOf block).toList = true) :
    schema.keywordBlocks.findIdx? (fun b => Text.eqIgnoreAsciiCase w (wordOf b).toList)
      = some (schema.keywordBlocks.idxOf block) := by
  have hlt : schema.keywordBlocks.idxOf block < schema.keywordBlocks.length :=
    List.idxOf_lt_length_iff.mpr hmem
  have hget : schema.keywordBlocks[schema.keywordBlocks.idxOf block] = block :=
    List.getElem_idxOf hlt
  rw [List.findIdx?_eq_some_iff_getElem]
  refine ⟨hlt, by rwa [hget], ?_⟩
  intro j hj hsame
  have hj' := Nat.lt_trans hj hlt
  have hne := h.apart hj' hlt hj _ (hword _) _ (hword _)
  rw [Text.eqIgnoreAsciiCase_iff] at hw hsame
  have hboth : sameWord (wordOf schema.keywordBlocks[j]) (wordOf block) = true :=
    Text.eqIgnoreAsciiCase_iff.mpr (hsame.symm.trans hw)
  rw [hget, hboth] at hne
  simp at hne

/-! ### What a line does -/

theorem statement_single (h : IsLabel schema label) (n : Nat) :
    (LogicalLine.single schema n label).statement = label := h.normal.trim_eq

theorem node_single (h : IsLabel schema label) (n : Nat) (kind : NodeKind) :
    (LogicalLine.single schema n label).node kind = nodeOf kind label n n [] := by
  rw [LogicalLine.node, statement_single h, Node.ofStatement_normal h.normal]
  simp [nodeOf, LogicalLine.single, LogicalLine.span, Span.between]

theorem IsDialect.opened?_eq (h : IsDialect schema) (hopens : Opens schema block label) (n : Nat) :
    opened? schema (LogicalLine.single schema n label)
      = some (schema.keywordBlocks.idxOf block) := by
  rw [opened?, keyword, statement_single hopens.isLabel]
  exact h.findIdx? Delimiters.opener (by simp) hopens.mem hopens.opener

theorem IsDialect.closed?_eq (h : IsDialect schema) (hmem : block ∈ schema.keywordBlocks)
    (n : Nat) : closed? schema (LogicalLine.single schema n block.closer.toList)
      = some (schema.keywordBlocks.idxOf block) := by
  have hstatement : (LogicalLine.single schema n block.closer.toList).statement
      = block.closer.toList := (h.isWord_closer hmem).trimmed.trim_eq
  rw [closed?, keyword, hstatement, h.words_closer hmem, if_pos (by simp)]
  exact h.findIdx? Delimiters.closer (by simp) hmem (Text.eqIgnoreAsciiCase_iff.mpr rfl)

theorem IsDialect.closed?_eq_none (h : IsDialect schema) (hopens : Opens schema block label)
    (n : Nat) : closed? schema (LogicalLine.single schema n label) = none := by
  rw [closed?, keyword, statement_single hopens.isLabel]
  split
  · rw [List.findIdx?_eq_none_iff]
    intro b hb
    rw [Bool.eq_false_iff]
    intro hcloses
    have hopener := hopens.opener
    rw [Text.eqIgnoreAsciiCase_iff] at hcloses hopener
    exact h.opener_ne_closer hopens.mem hb (hopener.symm.trans hcloses)
  · rfl

/-- A line that opens a block. -/
theorem IsDialect.step_opens (h : IsDialect schema) (hopens : Opens schema block label) (n : Nat)
    (o : Outline Nat) : step schema o (LogicalLine.single schema n label)
      = o.push (nodeOf .group label n n []) (schema.keywordBlocks.idxOf block) := by
  rw [step, h.closed?_eq_none hopens, h.opened?_eq hopens]
  dsimp only
  rw [node_single hopens.isLabel]

/-- A line that is a closer. -/
theorem IsDialect.step_closes (h : IsDialect schema) (hmem : block ∈ schema.keywordBlocks)
    {n depth : Nat} {o : Outline Nat}
    (hdepth : o.opened.findIdx? (·.tag == schema.keywordBlocks.idxOf block) = some depth) :
    step schema o (LogicalLine.single schema n block.closer.toList)
      = Outline.closeManyAt n (depth + 1) o := by
  rw [step, h.closed?_eq hmem]
  dsimp only
  rw [hdepth]
  rfl

/-- A line that is neither. -/
theorem step_plain (hplain : IsPlain schema label) (n : Nat) (o : Outline Nat) :
    step schema o (LogicalLine.single schema n label) = o.add (nodeOf .leaf label n n []) := by
  have hclosed : closed? schema (LogicalLine.single schema n label) = none := by
    rw [closed?, keyword, statement_single hplain.isLabel]
    split
    · rename_i hlength
      have hpos := List.length_pos_iff.mpr hplain.isLabel.normal.words_ne_nil
      rw [List.findIdx?_eq_none_iff]
      exact hplain.closes_none (by omega)
    · rfl
  have hopened : opened? schema (LogicalLine.single schema n label) = none := by
    rw [opened?, keyword, statement_single hplain.isLabel, List.findIdx?_eq_none_iff]
    exact hplain.opens_none
  rw [step, hclosed, hopened]
  dsimp only
  rw [node_single hplain.isLabel]

/-! ### Reading -/

/-- Physical lines as they stand, counted from `n`. -/
def numbered (schema : Schema) (n : Nat) : List (List Char) → List LogicalLine
  | [] => []
  | line :: lines => .single schema n line :: numbered schema (n + 1) lines

/-- The outline after some lines, the first of which is line `n`. -/
def read (schema : Schema) (n : Nat) (o : Outline Nat) (lines : List (List Char)) : Outline Nat :=
  (numbered schema n lines).foldl (step schema) o

theorem read_cons (n : Nat) (o : Outline Nat) (line : List Char) (lines : List (List Char)) :
    read schema n o (line :: lines)
      = read schema (n + 1) (step schema o (.single schema n line)) lines := rfl

theorem read_append (ls ms : List (List Char)) :
    ∀ (n : Nat) (o : Outline Nat), read schema n o (ls ++ ms)
      = read schema (n + ls.length) (read schema n o ls) ms := by
  induction ls with
  | nil => intro n o; rfl
  | cons l ls ih =>
      intro n o
      rw [List.cons_append, read_cons, ih, read_cons, List.length_cons, Nat.add_right_comm,
        Nat.add_assoc]

theorem findIdx?_tag_add (o : Outline Nat) (n : Node) (p : Nat → Bool) :
    (o.add n).opened.findIdx? (fun g => p g.tag) = o.opened.findIdx? (fun g => p g.tag) := by
  obtain ⟨roots, opened⟩ := o
  cases opened with
  | nil => rfl
  | cons g gs => simp [Outline.add, List.findIdx?_cons]

mutual

/-- A statement with its closer is read as its node. -/
theorem read_item (h : IsDialect schema) (item : Item) (hitem : item.Writable schema) (n : Nat)
    (o : Outline Nat) : read schema n o item.lines = o.add (item.node n) := by
  match item with
  | .leaf label =>
      rw [Item.lines, read_cons, step_plain hitem, Item.node]
      rfl
  | .group block label body =>
      obtain ⟨hopens, hbody⟩ := hitem
      obtain ⟨depth, hdepth, hclose⟩ := read_body h block hopens.mem body hbody
        (n + 1 + body.lines.length) (n + 1) (Nat.le_refl _)
        (o.push (nodeOf .group label n n []) (schema.keywordBlocks.idxOf block)) 0
        (by simp [Outline.push, List.findIdx?_cons])
      rw [Item.lines, read_cons, h.step_opens hopens, read_append, read_cons,
        h.step_closes hopens.mem hdepth, hclose]
      show ((o.push _ _).withScope (body.nodes _ _)).closeAt _ = _
      rw [Outline.closeAt_push]
      · rfl
      · simp only [nodeOf, Node.ofLabel]
        omega
      · exact body.last_le (Nat.le_refl _)

/-- What stands in a section may leave sections of other kinds open in it; closing them with it
comes to the same as if they had been closed before. -/
theorem read_body (h : IsDialect schema) (enclosing : Delimiters)
    (hmem : enclosing ∈ schema.keywordBlocks) (body : Body)
    (hbody : body.Writable schema enclosing) (last n : Nat) (hlast : n + body.lines.length ≤ last)
    (o : Outline Nat) (k : Nat)
    (hk : o.opened.findIdx? (·.tag == schema.keywordBlocks.idxOf enclosing) = some k) :
    ∃ depth, (read schema n o body.lines).opened.findIdx?
        (·.tag == schema.keywordBlocks.idxOf enclosing) = some depth ∧
      Outline.closeManyAt last (depth + 1) (read schema n o body.lines)
        = Outline.closeManyAt last (k + 1) (o.withScope (o.scope ++ body.nodes last n)) := by
  match body with
  | .done =>
      refine ⟨k, hk, ?_⟩
      rw [Body.nodes, List.append_nil, Outline.withScope_scope]
      rfl
  | .next item rest =>
      rw [Body.lines, List.length_append] at hlast
      obtain ⟨hitem, hrest⟩ := hbody
      have hitem := read_item h item hitem n o
      obtain ⟨depth, hdepth, hclose⟩ := read_body h enclosing hmem rest hrest last
        (n + item.lines.length) (by omega) (o.add (item.node n)) k
        (by rw [findIdx?_tag_add o _ (· == schema.keywordBlocks.idxOf enclosing)]; exact hk)
      rw [Body.lines, read_append, hitem]
      refine ⟨depth, hdepth, ?_⟩
      rw [hclose, Body.nodes, Outline.withScope_add, Outline.scope_add, List.append_assoc,
        List.singleton_append]
  | .unclosed block label body =>
      rw [Body.lines, List.length_cons] at hlast
      obtain ⟨hopens, hne, hbody⟩ := hbody
      have htag : ¬ schema.keywordBlocks.idxOf block = schema.keywordBlocks.idxOf enclosing :=
        fun heq => hne ((List.idxOf_inj hopens.mem).mp heq)
      obtain ⟨depth, hdepth, hclose⟩ := read_body h enclosing hmem body hbody last (n + 1)
        (by omega) (o.push (nodeOf .group label n n []) (schema.keywordBlocks.idxOf block)) (k + 1)
        (by simp [Outline.push, List.findIdx?_cons, htag, hk])
      rw [Body.lines, read_cons, h.step_opens hopens]
      refine ⟨depth, hdepth, ?_⟩
      rw [hclose, Outline.closeManyAt, Outline.closeAt_push]
      · rw [Body.nodes, Outline.add_eq]
        rfl
      · simp only [nodeOf, Node.ofLabel]
        omega
      · exact body.last_le (by omega)

end

theorem read_items (h : IsDialect schema) (items : List Item) :
    (∀ item ∈ items, item.Writable schema) → ∀ (n : Nat) (o : Outline Nat),
      read schema n o (items.flatMap Item.lines) = o.withScope (o.scope ++ nodesFrom n items) := by
  induction items with
  | nil =>
      intro _ n o
      rw [nodesFrom, List.append_nil, Outline.withScope_scope]
      rfl
  | cons item items ih =>
      intro hitems n o
      rw [List.forall_mem_cons] at hitems
      rw [List.flatMap_cons, read_append, read_item h item hitems.1, ih hitems.2, nodesFrom,
        Outline.withScope_add, Outline.scope_add, List.append_assoc, List.singleton_append]

/-! ### The lines of a written configuration -/

/-- Lines that are read as they stand. -/
structure IsLine (schema : Schema) (line : List Char) : Prop where
  not_skipped : LogicalLine.isSkipped schema line = false
  no_line_end : ∀ c ∈ line, c ≠ '\n' ∧ c ≠ '\r'

theorem IsLabel.isLine (h : IsLabel schema label) : IsLine schema label where
  not_skipped := by
    rw [LogicalLine.isSkipped, h.normal.trim_eq]
    simp [h.normal.ne_nil, h.no_comment]
  no_line_end := h.normal.no_line_end

theorem IsDialect.closer_isLine (h : IsDialect schema) (hmem : block ∈ schema.keywordBlocks) :
    IsLine schema block.closer.toList where
  not_skipped := by
    have hword := h.isWord_closer hmem
    rw [LogicalLine.isSkipped, hword.trimmed.trim_eq]
    simp [hword.1, h.closers_no_comments block hmem]
  no_line_end := by
    intro c hc
    have hblank := (h.isWord_closer hmem).2 c hc
    constructor <;> rintro rfl <;> simp [Text.isBlank] at hblank

mutual

theorem Item.isLine (h : IsDialect schema) (item : Item) (hitem : item.Writable schema) :
    ∀ line ∈ item.lines, IsLine schema line := by
  match item with
  | .leaf label =>
      rw [Item.lines, List.forall_mem_singleton]
      exact hitem.isLabel.isLine
  | .group block label body =>
      obtain ⟨hopens, hbody⟩ := hitem
      rw [Item.lines, List.forall_mem_cons, List.forall_mem_append, List.forall_mem_singleton]
      exact ⟨hopens.isLabel.isLine, body.isLine h block hbody, h.closer_isLine hopens.mem⟩

theorem Body.isLine (h : IsDialect schema) (body : Body) (enclosing : Delimiters)
    (hbody : body.Writable schema enclosing) : ∀ line ∈ body.lines, IsLine schema line := by
  match body with
  | .done => simp [Body.lines]
  | .next item rest =>
      rw [Body.lines, List.forall_mem_append]
      exact ⟨item.isLine h hbody.1, rest.isLine h enclosing hbody.2⟩
  | .unclosed block label body =>
      obtain ⟨hopens, -, hbody⟩ := hbody
      rw [Body.lines, List.forall_mem_cons]
      exact ⟨hopens.isLabel.isLine, body.isLine h enclosing hbody⟩

end

/-- Without skipped lines there is a statement for each physical line. -/
theorem gather_eq_numbered (h : IsDialect schema) {lines : List (List Char)} :
    (∀ line ∈ lines, IsLine schema line) → ∀ n : Nat,
      LogicalLine.gather schema false n lines = numbered schema n lines := by
  induction lines with
  | nil => intro _ n; simp [LogicalLine.gather, numbered]
  | cons line lines ih =>
      intro hlines n
      rw [List.forall_mem_cons] at hlines
      rw [LogicalLine.gather_single h.single_line
        (LogicalLine.uncommented_of_none h.no_block_comments false line), hlines.1.not_skipped,
        ih hlines.2]
      rfl

/-- A configuration is read as its nodes. -/
theorem parse_eq_nodesFrom (h : IsDialect schema) (items : List Item)
    (hitems : ∀ item ∈ items, item.Writable schema) :
    parse schema (write items) = nodesFrom 1 items := by
  have hlines : ∀ line ∈ items.flatMap Item.lines, IsLine schema line := by
    intro line hline
    obtain ⟨item, hmem, hline⟩ := List.mem_flatMap.mp hline
    exact item.isLine h (hitems item hmem) line hline
  have htext : Text.lines (write items).toList = items.flatMap Item.lines := by
    rw [write, String.toList_ofList, Text.lines_flatMap fun l hl => (hlines l hl).no_line_end]
  have hread := read_items h items hitems 1 Outline.empty
  rw [parse, treeOf, h.style, LogicalLine.ofText, htext, gather_eq_numbered h hlines]
  show (read schema 1 Outline.empty _).finish = _
  rw [hread]
  rfl

/-! ### Closers that were left out -/

mutual

/-- A statement with all its closers. -/
def Item.completed : Item → Item
  | .leaf label => .leaf label
  | .group block label body => .group block label body.completed

def Body.completed : Body → Body
  | .done => .done
  | .next item rest => .next item.completed rest.completed
  | .unclosed block label body => .next (.group block label body.completed) .done

end

mutual

theorem Item.completed_writable (item : Item) (hitem : item.Writable schema) :
    item.completed.Writable schema := by
  match item with
  | .leaf label => exact hitem
  | .group block label body => exact ⟨hitem.1, body.completed_writable hitem.2 block⟩

/-- A section in which nothing is left open may be of any kind. -/
theorem Body.completed_writable {enclosing : Delimiters} (body : Body)
    (hbody : body.Writable schema enclosing) (other : Delimiters) :
    body.completed.Writable schema other := by
  match body with
  | .done => trivial
  | .next item rest =>
      exact ⟨item.completed_writable hbody.1, rest.completed_writable hbody.2 other⟩
  | .unclosed block label body =>
      exact ⟨⟨hbody.1, body.completed_writable hbody.2.2 block⟩, trivial⟩

end

/-- A node without its line numbers. -/
def unnumbered (n : Node) : Node := n.renumber fun _ => 0

theorem unnumbered_nodeOf (kind : NodeKind) (label : List Char) (first last : Nat)
    (children : List Node) : unnumbered (nodeOf kind label first last children)
      = nodeOf kind label 0 0 (children.map unnumbered) := by
  rw [unnumbered, Node.renumber_eq]
  rfl

mutual

theorem Item.unnumbered_completed (item : Item) (n m : Nat) :
    unnumbered (item.node n) = unnumbered (item.completed.node m) := by
  match item with
  | .leaf label => simp only [Item.completed, Item.node, unnumbered_nodeOf]
  | .group block label body =>
      simp only [Item.completed, Item.node, unnumbered_nodeOf]
      rw [body.unnumbered_completed]

theorem Body.unnumbered_completed (body : Body) (last n last' m : Nat) :
    (body.nodes last n).map unnumbered = (body.completed.nodes last' m).map unnumbered := by
  match body with
  | .done => rfl
  | .next item rest =>
      simp only [Body.completed, Body.nodes, List.map_cons]
      rw [item.unnumbered_completed, rest.unnumbered_completed]
  | .unclosed block label body =>
      simp only [Body.completed, Body.nodes, Item.node, List.map_cons, List.map_nil,
        unnumbered_nodeOf]
      rw [body.unnumbered_completed]

end

theorem unnumbered_nodesFrom (items : List Item) : ∀ n m : Nat,
    (nodesFrom n items).map unnumbered
      = (nodesFrom m (items.map Item.completed)).map unnumbered := by
  induction items with
  | nil => intro n m; rfl
  | cons item items ih =>
      intro n m
      rw [List.map_cons, nodesFrom, nodesFrom, List.map_cons, List.map_cons,
        item.unnumbered_completed, ih]

/-- **Between words**: a configuration is read back as it was written, each section ending with
its closer or, where that was left out, with the closer that comes instead; which closers were
left out makes no other difference. -/
theorem parse_write (h : IsDialect schema) (items : List Item)
    (hitems : ∀ item ∈ items, item.Writable schema) :
    parse schema (write items) = nodesFrom 1 items ∧
      (parse schema (write items)).map unnumbered
        = (parse schema (write (items.map Item.completed))).map unnumbered := by
  have hcompleted : ∀ item ∈ items.map Item.completed, item.Writable schema := by
    intro item hmem
    obtain ⟨item', hmem', rfl⟩ := List.mem_map.mp hmem
    exact item'.completed_writable (hitems item' hmem')
  refine ⟨parse_eq_nodesFrom h items hitems, ?_⟩
  rw [parse_eq_nodesFrom h items hitems, parse_eq_nodesFrom h _ hcompleted]
  exact unnumbered_nodesFrom items 1 1

/-- A table whose only entry has no `next`. -/
def unfinishedEdit : List Item :=
  [.group ⟨"config", "end"⟩ "config system interface".toList
      (.unclosed ⟨"edit", "next"⟩ "edit wan1".toList
        (.next (.leaf "set mtu 1500".toList) .done)),
    .group ⟨"config", "end"⟩ "config log disk setting".toList .done]

theorem parse_write_unfinishedEdit :
    IsDialect Schema.fortinetFortios ∧
    (∀ item ∈ unfinishedEdit, item.Writable Schema.fortinetFortios) ∧
    write unfinishedEdit = "config system interface\nedit wan1\nset mtu 1500\nend\n" ++
      "config log disk setting\nend\n" ∧
    (parse Schema.fortinetFortios (write unfinishedEdit)).walk.map (fun n => (n.id, n.span))
      = [("config system interface", ⟨1, 4⟩), ("edit wan1", ⟨2, 4⟩), ("set mtu 1500", ⟨3, 3⟩),
        ("config log disk setting", ⟨5, 6⟩)] := by
  have hdialect : IsDialect Schema.fortinetFortios :=
    ⟨rfl, ⟨rfl, rfl⟩, rfl, by decide, by decide, by decide⟩
  have hlabel : ∀ label ∈ ["config system interface".toList, "edit wan1".toList,
      "set mtu 1500".toList, "config log disk setting".toList],
      IsLabel Schema.fortinetFortios label := by
    intro label hlabel
    refine ⟨⟨?_, ?_⟩, ?_⟩ <;> revert label <;> decide
  have hitems : ∀ item ∈ unfinishedEdit, item.Writable Schema.fortinetFortios := by
    rw [unfinishedEdit, List.forall_mem_cons, List.forall_mem_singleton]
    exact ⟨⟨⟨hlabel _ (by simp), by decide, by decide⟩,
        ⟨hlabel _ (by simp), by decide, by decide⟩, by decide,
        ⟨hlabel _ (by simp), by decide, by decide⟩, trivial⟩,
      ⟨hlabel _ (by simp), by decide, by decide⟩, trivial⟩
  refine ⟨hdialect, hitems, by decide, ?_⟩
  rw [(parse_write hdialect unfinishedEdit hitems).1]
  cbv

end Keyword

end DeviceLint
