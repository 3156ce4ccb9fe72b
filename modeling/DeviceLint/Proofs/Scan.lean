/-
A dialect with braces, read character by character.

A text is cut into physical lines first, and each of those into pieces.  What is written
between braces may be laid out over lines in any way, though, so here the reader is looked
at in the middle of a line: `readOn` is the state it ends in when it has read some of a
piece and has the rest of the text before it.  Then a line end, a punctuation mark and
any other character have one equation each, and the lines need not be looked at again.
-/
import DeviceLint.Proofs.Normal
import DeviceLint.Proofs.Piece
import DeviceLint.Proofs.Seam

namespace DeviceLint

namespace Brace

/-- Dialects with braces in which a line that begins with `#` is a comment, and no other. -/
structure IsDialect (schema : Schema) : Prop where
  style : schema.blockStyle = .brace
  single_line : schema.IsSingleLine
  comments : schema.commentMarks = ["#"]

/-- The character that ends a piece before the line does. -/
def Mark.char : Mark → Char
  | .opens => '\x7b'
  | .closes => '\x7d'
  | .ends => ';'

variable {schema : Schema} {raw : Nat → List Char} {st : State} {n : Nat} {read s : List Char}

/-- Physical lines by their numbers. -/
def lineAt (schema : Schema) (raw : Nat → List Char) (n : Nat) : LogicalLine :=
  .single schema n (raw n)

/-- Takes in physical lines, the first of which is number `n`. -/
def readLines (schema : Schema) (raw : Nat → List Char) (n : Nat) (st : State) :
    List (List Char) → State
  | [] => st
  | line :: lines =>
    readLines schema raw (n + 1) ((cut line).foldl (step (lineAt schema raw n)) st) lines

/-- Takes in the rest of a text from the middle of line `n` on, where `read` has been read since
the last cut. -/
def readOn (schema : Schema) (raw : Nat → List Char) (st : State) (n : Nat)
    (read s : List Char) : State :=
  readLines schema raw (n + 1)
    ((cutFrom false read ((Text.lines s).headD [])).foldl (step (lineAt schema raw n)) st)
    (Text.lines s).tail

/-! ### One character -/

/-- A blank piece at the end of a statement is nothing. -/
theorem step_blank (l : LogicalLine) (st : State) (h : isBlank read = true) :
    step l st ⟨read, .ends⟩ = st := by
  simp [step, addLeaf, h]

theorem readLines_lines (n : Nat) (st : State) (s : List Char) :
    readLines schema raw n st (Text.lines s) = readOn schema raw st n [] s := by
  rw [readOn]
  cases Text.lines s with
  | nil => exact (step_blank _ st (by simp)).symm
  | cons line lines => rfl

theorem readOn_nil : readOn schema raw st n read []
    = step (lineAt schema raw n) st ⟨read.reverse, .ends⟩ := rfl

theorem readOn_newline : readOn schema raw st n read ('\n' :: s)
    = readOn schema raw (step (lineAt schema raw n) st ⟨read.reverse, .ends⟩) (n + 1) [] s := by
  rw [← readLines_lines, readOn, Text.lines]
  rfl

theorem readOn_return (h : s.head? = some '\n') :
    readOn schema raw st n read ('\r' :: s) = readOn schema raw st n read s := by
  rw [readOn, Text.lines_return h, readOn]

theorem readOn_mark (m : Mark) : readOn schema raw st n read (m.char :: s)
    = readOn schema raw (step (lineAt schema raw n) st ⟨read.reverse, m⟩) n [] s := by
  rw [readOn, Text.lines_cons (by cases m <;> decide) (by cases m <;> simp [Mark.char])]
  cases m <;> rfl

/-- A character that is part of a piece. -/
structure IsPlain (c : Char) : Prop where
  no_quote : c ≠ '"'
  no_mark : ∀ m : Mark, c ≠ m.char

theorem isPlain_of_blank {c : Char} (hc : Text.isBlank c = true) : IsPlain c where
  no_quote := by
    rintro rfl
    exact absurd hc (by decide)
  no_mark := by
    rintro m rfl
    exact absurd hc (by cases m <;> decide)

theorem ne_hash_of_blank {c : Char} (hc : Text.isBlank c = true) : c ≠ '#' := by
  rintro rfl
  exact absurd hc (by decide)

theorem isBlank_reverse_cons {c : Char} (hc : Text.isBlank c = true)
    (hread : isBlank read.reverse = true) : isBlank (c :: read).reverse = true := by
  rw [List.reverse_cons, isBlank_append, hread]
  simp [isBlank_eq_all, hc]

theorem cutFrom_plain {c : Char} (hc : IsPlain c) (hhash : c = '#' → isBlank read.reverse = false)
    (s : List Char) : cutFrom false read (c :: s) = cutFrom false (c :: read) s := by
  have hopens : c ≠ '\x7b' := hc.no_mark .opens
  have hends : c ≠ ';' := hc.no_mark .ends
  have hcloses : c ≠ '\x7d' := hc.no_mark .closes
  rw [cutFrom]
  simp only [Bool.false_eq_true, if_false, beq_iff_eq, hc.no_quote, hopens, hends, hcloses]
  rw [if_neg (by simpa using hhash)]

theorem cutFrom_blanks_append {blanks : List Char} (h : ∀ c ∈ blanks, Text.isBlank c = true)
    (s : List Char) :
    ∀ read, cutFrom false read (blanks ++ s) = cutFrom false (blanks.reverse ++ read) s := by
  induction blanks with
  | nil => intro read; rfl
  | cons c blanks ih =>
      intro read
      rw [List.forall_mem_cons] at h
      rw [List.cons_append, cutFrom_plain (isPlain_of_blank h.1)
        (fun heq => absurd heq (ne_hash_of_blank h.1)), ih h.2, List.reverse_cons,
        List.append_assoc, List.singleton_append]

theorem readOn_plain {c : Char} (hc : IsPlain c) (hline : c ≠ '\n')
    (hreturn : c = '\r' → s.head? ≠ some '\n') (hhash : c = '#' → isBlank read.reverse = false) :
    readOn schema raw st n read (c :: s) = readOn schema raw st n (c :: read) s := by
  rw [readOn, Text.lines_cons hline hreturn, List.headD_cons, cutFrom_plain hc hhash]
  rfl

/-! ### Blanks and words -/

/-- The first of some blanks: a line end, the beginning of one, or a part of the piece. -/
theorem readOn_blank {c : Char} {r : State} (hc : Text.isBlank c = true)
    (hends : c = '\n' → readOn schema raw
      (step (lineAt schema raw n) st ⟨read.reverse, .ends⟩) (n + 1) [] s = r)
    (hbegins : c ≠ '\n' → readOn schema raw st n read s = r)
    (hpart : c ≠ '\n' → readOn schema raw st n (c :: read) s = r) :
    readOn schema raw st n read (c :: s) = r := by
  by_cases hline : c = '\n'
  · subst hline
    rw [readOn_newline, hends rfl]
  by_cases hreturn : c = '\r' ∧ s.head? = some '\n'
  · obtain ⟨rfl, hs⟩ := hreturn
    rw [readOn_return hs, hbegins hline]
  · rw [readOn_plain (isPlain_of_blank hc) hline (fun heq hs => hreturn ⟨heq, hs⟩)
      (fun heq => absurd heq (ne_hash_of_blank hc)), hpart hline]

/-- How many line ends there are in a text. -/
def lineEnds (s : List Char) : Nat := s.count '\n'

theorem lineEnds_newline (s : List Char) : lineEnds ('\n' :: s) = 1 + lineEnds s := by
  rw [lineEnds, List.count_cons_self, Nat.add_comm, lineEnds]

theorem lineEnds_cons {c : Char} (hc : c ≠ '\n') (s : List Char) : lineEnds (c :: s) = lineEnds s :=
  List.count_cons_of_ne hc

/-- Blanks between two pieces: what comes of the text is what comes of it after them. -/
theorem readOn_gap {gap : List Char} {r : State} (hgap : ∀ c ∈ gap, Text.isBlank c = true) :
    ∀ {n : Nat} {read : List Char}, isBlank read.reverse = true →
      (∀ read', isBlank read'.reverse = true →
        readOn schema raw st (n + lineEnds gap) read' s = r) →
      readOn schema raw st n read (gap ++ s) = r := by
  induction gap with
  | nil => exact fun hread hrest => hrest _ hread
  | cons c gap ih =>
      intro n read hread hrest
      rw [List.forall_mem_cons] at hgap
      refine readOn_blank hgap.1 ?_ ?_ ?_
      · rintro rfl
        rw [lineEnds_newline, ← Nat.add_assoc] at hrest
        rw [step_blank _ _ hread]
        exact ih hgap.2 (by simp) hrest
      · intro hc
        rw [lineEnds_cons hc] at hrest
        exact ih hgap.2 hread hrest
      · intro hc
        rw [lineEnds_cons hc] at hrest
        exact ih hgap.2 (isBlank_reverse_cons hgap.1 hread) hrest

/-- A text that is read as it stands once something has been read before it. -/
theorem readOn_append {text : List Char}
    (htext : ∀ c ∈ text, IsPlain c ∧ c ≠ '\n' ∧ c ≠ '\r') :
    ∀ {read : List Char}, isBlank read.reverse = false →
      readOn schema raw st n read (text ++ s)
        = readOn schema raw st n (text.reverse ++ read) s := by
  induction text with
  | nil => exact fun _ => rfl
  | cons c text ih =>
      intro read hread
      rw [List.forall_mem_cons] at htext
      obtain ⟨hplain, hline, hreturn⟩ := htext.1
      rw [List.cons_append, readOn_plain hplain hline (fun heq => absurd heq hreturn)
        (fun _ => hread), ih htext.2, List.reverse_cons, List.append_assoc, List.singleton_append]
      rw [List.reverse_cons, isBlank_append, hread, Bool.false_and]

/-! ### Physical lines -/

/-- A line of which nothing is left, or which is a comment, is one blank piece. -/
theorem cutFrom_skipped (line : List Char) (hstart : ∀ c ∈ (Text.trimStart line).head?, c = '#')
    (read : List Char) (hread : isBlank read.reverse = true) :
    ∃ text, isBlank text = true ∧ cutFrom false read line = [⟨text, .ends⟩] := by
  obtain ⟨blanks, hblanks, hline⟩ := Text.exists_append_trimStart line
  have hblank : isBlank (blanks.reverse ++ read).reverse = true := by
    rw [List.reverse_append, List.reverse_reverse, isBlank_append, hread, isBlank_eq_all,
      Bool.true_and, List.all_eq_true]
    exact hblanks
  refine ⟨_, hblank, ?_⟩
  rw [hline, cutFrom_blanks_append hblanks]
  cases htext : Text.trimStart line with
  | nil => rfl
  | cons c rest =>
      obtain rfl : c = '#' := hstart c (by rw [htext]; rfl)
      rw [cutFrom, if_neg (by simp), if_neg (by decide), if_pos (by rw [hblank]; rfl)]

theorem IsDialect.trimStart_of_skipped (h : IsDialect schema) {line : List Char}
    (hskip : LogicalLine.isSkipped schema line = true) :
    ∀ c ∈ (Text.trimStart line).head?, c = '#' := by
  rw [LogicalLine.isSkipped, Bool.or_eq_true, List.isEmpty_iff, Schema.isComment,
    h.comments] at hskip
  rcases hskip with hblank | hcomment
  · rw [Text.trim_eq_nil_iff] at hblank
    simp [Text.trimStart, List.dropWhile_eq_nil_iff.mpr hblank]
  · have hhash : ['#'] <+: Text.trim line := by simpa [List.isPrefixOf_iff_prefix] using hcomment
    obtain ⟨rest, hrest⟩ := hhash.trans (Text.dropEnd_prefix _ _)
    simp [← hrest]

/-- Skipped lines do nothing. -/
theorem IsDialect.foldl_skipped (h : IsDialect schema) {line : List Char}
    (hskip : LogicalLine.isSkipped schema line = true) (l : LogicalLine) (st : State) :
    (cut line).foldl (step l) st = st := by
  obtain ⟨text, hblank, hcut⟩ := cutFrom_skipped line (h.trimStart_of_skipped hskip) [] (by simp)
  rw [cut, hcut, List.foldl_cons, step_blank _ _ hblank, List.foldl_nil]

/-- Logical lines are read as the physical lines are. -/
theorem IsDialect.foldl_gather (h : IsDialect schema) (lines : List (List Char)) :
    (∀ line ∈ lines, LogicalLine.uncommented schema false line = (line, false)) →
      ∀ (n : Nat) (st : State), (∀ i line, lines[i]? = some line → raw (n + i) = line) →
        (LogicalLine.gather schema false n lines).foldl stepLine st
          = readLines schema raw n st lines := by
  induction lines with
  | nil =>
      intro _ n st _
      rw [LogicalLine.gather]
      rfl
  | cons line lines ih =>
      intro hlines n st hraw
      rw [List.forall_mem_cons] at hlines
      have hline : raw n = line := hraw 0 line rfl
      have hrest : ∀ i line, lines[i]? = some line → raw (n + 1 + i) = line := by
        intro i line hi
        rw [Nat.add_right_comm]
        exact hraw (i + 1) line hi
      rw [LogicalLine.gather_single h.single_line hlines.1, List.foldl_append,
        ih hlines.2 _ _ hrest, readLines]
      split
      · rename_i hskip
        rw [List.foldl_nil, h.foldl_skipped hskip]
      · rw [List.foldl_cons, List.foldl_nil, stepLine, lineAt, hline]
        rfl

/-- The physical lines of a text by their numbers. -/
def physicalLine (text : List Char) (n : Nat) : List Char := (Text.lines text).getD (n - 1) []

/-- A text without block comments is read character by character. -/
theorem IsDialect.parse_eq (h : IsDialect schema) {text : List Char}
    (htext : ∀ d, schema.blockComment = some d → ¬ d.opener.toList <:+: text) :
    parse schema (String.ofList text)
      = (readOn schema (physicalLine text) ⟨Outline.empty, 0⟩ 1 [] text).outline.finish := by
  have hlines : ∀ line ∈ Text.lines text,
      LogicalLine.uncommented schema false line = (line, false) := by
    intro line hline
    refine LogicalLine.uncommented_eq fun d hd => ?_
    rw [← Bool.not_eq_true, Text.contains_iff]
    exact fun hpart => htext d hd (hpart.trans ((Text.lines_infix text).2 line hline))
  have hraw : ∀ i line, (Text.lines text)[i]? = some line → physicalLine text (1 + i) = line := by
    intro i line hi
    rw [physicalLine, Nat.add_sub_cancel_left, List.getD_eq_getElem?_getD, hi]
    rfl
  rw [parse, treeOf, h.style, LogicalLine.ofText, String.toList_ofList, ← readLines_lines,
    ← h.foldl_gather _ hlines 1 _ hraw]
  rfl

end Brace

end DeviceLint
