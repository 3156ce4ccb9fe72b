/-
Tabs and the columns they reach over.

A tab goes to the next tab stop, so how many spaces it stands for depends on what is left of it.
A line with tabs in its margin can be written with spaces only, as many as the margin is wide.
This is looked at for any two lines that are the same but for margins of equal width.  Whatever
becomes of them while lines are gathered, whether blanks or a continuation mark are taken from
their ends or something is joined to them, they stay alike in this way, and what is asked about
them has the same answer for both.

So the logical lines of two texts with such lines differ only in the blanks they begin with.  A
reader takes their indentation from elsewhere and trims what it makes nodes of, so it sees no
difference there.
-/
import DeviceLint.Proofs.DelimitedBody
import DeviceLint.Proofs.Flush
import DeviceLint.Proofs.Places
import Mathlib.Data.List.Forall2

namespace DeviceLint

namespace LogicalLine

variable {tab : Nat} {m m' s t : List Char}

/-! ### Margins -/

/-- The characters that indent a line. -/
def isMargin (c : Char) : Bool := c == ' ' || c == '\t'

theorem isMargin_iff {c : Char} : isMargin c = true ↔ c = ' ' ∨ c = '\t' := by
  simp [isMargin]

theorem blank_of_margin (h : ∀ c ∈ m, isMargin c = true) : ∀ c ∈ m, Text.isBlank c = true := by
  intro c hc
  rcases isMargin_iff.mp (h c hc) with rfl | rfl
  · decide
  · decide

theorem unbroken_of_margin (h : ∀ c ∈ m, isMargin c = true) : ∀ c ∈ m, c ≠ '\n' ∧ c ≠ '\r' := by
  intro c hc
  rcases isMargin_iff.mp (h c hc) with rfl | rfl
  · decide
  · decide

theorem lt_nextColumn (h : 0 < tab) (column : Nat) (c : Char) :
    column < nextColumn tab column c := by
  have hmod := Nat.mod_lt column h
  unfold nextColumn
  split <;> omega

theorem indentWidth_append (h : ∀ c ∈ m, isMargin c = true) (s : List Char) :
    indentWidth tab (m ++ s)
      = (s.takeWhile isMargin).foldl (nextColumn (max tab 1)) (indentWidth tab m) := by
  have hmargin : m.takeWhile isMargin = m := List.takeWhile_eq_self_iff.mpr h
  show ((m ++ s).takeWhile isMargin).foldl _ 0 = _
  rw [List.takeWhile_append_of_pos h, List.foldl_append]
  show _ = (s.takeWhile isMargin).foldl _ ((m.takeWhile isMargin).foldl _ 0)
  rw [hmargin]

/-- A margin has a width unless it is empty. -/
theorem indentWidth_eq_zero_iff (h : ∀ c ∈ m, isMargin c = true) :
    indentWidth tab m = 0 ↔ m = [] := by
  refine ⟨fun hzero => ?_, fun hnil => by rw [hnil]; rfl⟩
  rcases List.eq_nil_or_concat' m with rfl | ⟨front, c, rfl⟩
  · rfl
  · have hfront : ∀ d ∈ front, isMargin d = true := fun d hd => h d (by simp [hd])
    rw [indentWidth_append hfront, List.takeWhile_cons_of_pos (h c (by simp)), List.foldl_cons,
      List.takeWhile_nil, List.foldl_nil] at hzero
    have hpos : 0 < max tab 1 := by omega
    have hlt := lt_nextColumn hpos (indentWidth tab front) c
    omega

theorem indentWidth_spaces (n : Nat) : indentWidth tab (List.replicate n ' ') = n := by
  induction n with
  | zero => rfl
  | succ n ih =>
      rw [List.replicate_succ', indentWidth_append (by simp [isMargin]), ih]
      rfl

/-- Lines that are the same but for margins of equal width. -/
inductive Aligned (tab : Nat) : List Char → List Char → Prop where
  | margins {m m' : List Char} (rest : List Char) (left : ∀ c ∈ m, isMargin c = true)
      (right : ∀ c ∈ m', isMargin c = true) (width : indentWidth tab m = indentWidth tab m') :
      Aligned tab (m ++ rest) (m' ++ rest)

namespace Aligned

theorem refl (tab : Nat) (s : List Char) : Aligned tab s s := by
  rw [← List.nil_append s]
  exact margins s (by simp) (by simp) rfl

theorem append (h : Aligned tab s t) (more : List Char) : Aligned tab (s ++ more) (t ++ more) := by
  obtain ⟨rest, left, right, width⟩ := h
  rw [List.append_assoc, List.append_assoc]
  exact margins (rest ++ more) left right width

theorem indentWidth_eq (h : Aligned tab s t) : indentWidth tab s = indentWidth tab t := by
  obtain ⟨rest, left, right, width⟩ := h
  rw [indentWidth_append left, indentWidth_append right, width]

theorem trimStart_eq (h : Aligned tab s t) : Text.trimStart s = Text.trimStart t := by
  obtain ⟨rest, left, right, -⟩ := h
  rw [Text.trimStart_append (blank_of_margin left),
    Text.trimStart_append (blank_of_margin right)]

theorem trim_eq (h : Aligned tab s t) : Text.trim s = Text.trim t := by
  rw [Text.trim, h.trimStart_eq, Text.trim]

theorem trimEnd (h : Aligned tab s t) : Aligned tab (Text.trimEnd s) (Text.trimEnd t) := by
  obtain ⟨rest, left, right, width⟩ := h
  rw [Text.trimEnd_blanks_append (blank_of_margin left),
    Text.trimEnd_blanks_append (blank_of_margin right)]
  split
  · exact refl tab []
  · exact margins _ left right width

/-- A mark without blanks is no part of a margin. -/
theorem dropEnd? (h : Aligned tab s t) {mark : List Char} (hmark : Text.IsWord mark) :
    Option.Rel (Aligned tab) (Text.dropEnd? mark s) (Text.dropEnd? mark t) := by
  obtain ⟨rest, left, right, width⟩ := h
  have hleft := hmark.suffix_blanks_append_iff (blank_of_margin left)
  have hright := hmark.suffix_blanks_append_iff (blank_of_margin right)
  by_cases hend : mark <:+ rest
  · obtain ⟨front, rfl⟩ := hend
    rw [← List.append_assoc, ← List.append_assoc, Text.dropEnd?_append, Text.dropEnd?_append]
    exact .some (margins front left right width)
  · rw [Text.dropEnd?_eq_none (mt (hleft rest).mp hend),
      Text.dropEnd?_eq_none (mt (hright rest).mp hend)]
    exact .none

theorem contains_eq (h : Aligned tab s t) {pattern : List Char}
    (hpattern : ∀ c ∈ pattern, Text.isBlank c = false) :
    Text.contains s pattern = Text.contains t pattern := by
  obtain ⟨rest, left, right, -⟩ := h
  rw [Bool.eq_iff_iff, Text.contains_iff, Text.contains_iff]
  by_cases hempty : pattern = []
  · simp [hempty]
  · have hword : Text.IsWord pattern := ⟨hempty, hpattern⟩
    rw [hword.infix_blanks_append_iff (blank_of_margin left),
      hword.infix_blanks_append_iff (blank_of_margin right)]

end Aligned

/-! ### Statements -/

section

variable {schema : Schema} {content content' : List Char} {rest rest' : List (List Char)}

theorem isSkipped_aligned (h : Aligned tab s t) : isSkipped schema s = isSkipped schema t := by
  rw [isSkipped, h.trim_eq, isSkipped]

theorem joinContinued_aligned {mark : List Char} (hmark : Text.IsWord mark)
    (hrest : List.Forall₂ (Aligned tab) rest rest') :
    ∀ {content content'}, Aligned tab content content' →
      Aligned tab (joinContinued mark content rest).1 (joinContinued mark content' rest').1 ∧
        (joinContinued mark content rest).2 = (joinContinued mark content' rest').2 := by
  induction hrest with
  | nil =>
      intro content content' hcontent
      have hends := hcontent.trimEnd.dropEnd? hmark
      unfold joinContinued
      generalize Text.dropEnd? mark (Text.trimEnd content) = stripped,
        Text.dropEnd? mark (Text.trimEnd content') = stripped' at hends
      cases hends with
      | none => exact ⟨hcontent, rfl⟩
      | some hstripped => exact ⟨hstripped.trimEnd, rfl⟩
  | cons hnext hrest ih =>
      intro content content' hcontent
      have hends := hcontent.trimEnd.dropEnd? hmark
      unfold joinContinued
      generalize Text.dropEnd? mark (Text.trimEnd content) = stripped,
        Text.dropEnd? mark (Text.trimEnd content') = stripped' at hends
      cases hends with
      | none => exact ⟨hcontent, rfl⟩
      | some hstripped =>
          obtain ⟨hjoined, hcount⟩ := ih (hstripped.trimEnd.append (' ' :: Text.trim _))
          rw [hnext.trim_eq] at hjoined hcount ⊢
          exact ⟨hjoined, congrArg (· + 1) hcount⟩

theorem continued_aligned
    (hmark : ∀ c ∈ (schema.continuation.getD "").toList, Text.isBlank c = false)
    (hcontent : Aligned tab content content') (hrest : List.Forall₂ (Aligned tab) rest rest') :
    Aligned tab (continued schema content rest).1 (continued schema content' rest').1 ∧
      (continued schema content rest).2 = (continued schema content' rest').2 := by
  unfold continued
  cases hcontinuation : schema.continuation with
  | none => exact ⟨hcontent, rfl⟩
  | some mark =>
      rw [hcontinuation] at hmark
      dsimp only
      split
      · exact ⟨hcontent, rfl⟩
      · rename_i hempty
        exact joinContinued_aligned ⟨by simpa using hempty, hmark⟩ hrest hcontent

theorem bodyLength_aligned {delimiter : List Char}
    (hdelimiter : ∀ c ∈ delimiter, Text.isBlank c = false)
    (hrest : List.Forall₂ (Aligned tab) rest rest') :
    bodyLength delimiter rest = bodyLength delimiter rest' := by
  induction hrest with
  | nil => rfl
  | cons hline hrest ih => rw [bodyLength, hline.contains_eq hdelimiter, ih, bodyLength]

theorem delimited_aligned (hcontent : Aligned tab content content')
    (hrest : List.Forall₂ (Aligned tab) rest rest') :
    delimited schema content rest = delimited schema content' rest' := by
  unfold delimited
  rw [hcontent.trim_eq]
  cases hdelimiter : delimiter? schema (Text.trim content') with
  | none => rfl
  | some found =>
      obtain ⟨before, delimiter, after⟩ := found
      dsimp only
      rw [bodyLength_aligned (delimiter?_text hdelimiter).2.2 hrest]

/-! ### Logical lines -/

theorem start_aligned
    (hmark : ∀ c ∈ (schema.continuation.getD "").toList, Text.isBlank c = false)
    (hcontent : Aligned schema.tabWidth content content')
    (hrest : List.Forall₂ (Aligned schema.tabWidth) rest rest') (n : Nat) (line line' : List Char) :
    (start schema n line content rest).flush.eraseRaw
      = (start schema n line' content' rest').flush.eraseRaw := by
  obtain ⟨hjoined, hcount⟩ := continued_aligned hmark hcontent hrest
  have hbody : delimited schema (continued schema content rest).1
        (rest.drop (continued schema content' rest').2)
      = delimited schema (continued schema content' rest').1
        (rest'.drop (continued schema content' rest').2) :=
    delimited_aligned hjoined (List.forall₂_drop _ hrest)
  unfold start
  simp only [flush, eraseRaw, hjoined.trimStart_eq, hjoined.indentWidth_eq, hbody, hcount,
    hrest.length_eq]

theorem extra_aligned
    (hmark : ∀ c ∈ (schema.continuation.getD "").toList, Text.isBlank c = false)
    (hcontent : Aligned schema.tabWidth content content')
    (hrest : List.Forall₂ (Aligned schema.tabWidth) rest rest') :
    extra schema content rest = extra schema content' rest' := by
  have hlast := congrArg last (start_aligned hmark hcontent hrest 0 [] [])
  exact hlast

theorem gather_aligned (hcomment : schema.blockComment = none)
    (hmark : ∀ c ∈ (schema.continuation.getD "").toList, Text.isBlank c = false)
    (inside : Bool) (n : Nat) (physical : List (List Char)) :
    ∀ {physical'}, List.Forall₂ (Aligned schema.tabWidth) physical physical' →
      (gather schema inside n physical).map (fun l => l.flush.eraseRaw)
        = (gather schema inside n physical').map fun l => l.flush.eraseRaw := by
  induction inside, n, physical using lines_induction schema with
  | nil inside n =>
      intro physical' h
      cases h
      rfl
  | skip inside n line rest hskip ih =>
      intro physical' h
      cases h with
      | cons hline hrest =>
          rw [uncommented_of_none hcomment] at hskip ih
          rw [gather_skip (by rwa [uncommented_of_none hcomment]), uncommented_of_none hcomment,
            gather_skip (by rwa [uncommented_of_none hcomment, ← isSkipped_aligned hline]),
            uncommented_of_none hcomment]
          exact ih hrest
  | statement inside n line rest hskip ih =>
      intro physical' h
      cases h with
      | cons hline hrest =>
          rw [uncommented_of_none hcomment] at hskip ih
          rw [gather_start_of_none hcomment hskip,
            gather_start_of_none hcomment (by rwa [← isSkipped_aligned hline]), List.map_cons,
            List.map_cons, ← extra_aligned hmark hline hrest,
            start_aligned hmark hline hrest n line _, ih (List.forall₂_drop _ hrest)]

end

end LogicalLine

/-! ### Texts -/

open LogicalLine

namespace LogicalLine.Aligned

variable {tab : Nat} {s t : List Char}

theorem forall₂_refl (tab : Nat) (ls : List (List Char)) : List.Forall₂ (Aligned tab) ls ls :=
  List.forall₂_same.mpr fun s _ => refl tab s

theorem lines (h : Aligned tab s t) :
    List.Forall₂ (Aligned tab) (Text.lines s) (Text.lines t) := by
  obtain @⟨m, m', rest, left, right, width⟩ := h
  by_cases hm : m = []
  · have hm' : m' = [] := by
      rw [← indentWidth_eq_zero_iff right, ← width, indentWidth_eq_zero_iff left, hm]
    rw [hm, hm']
    exact forall₂_refl tab _
  · have hm' : m' ≠ [] := by
      rwa [Ne, ← indentWidth_eq_zero_iff right, ← width, indentWidth_eq_zero_iff left]
    rw [Text.lines_append_cons (unbroken_of_margin left) hm,
      Text.lines_append_cons (unbroken_of_margin right) hm']
    exact .cons (margins _ left right width) (forall₂_refl tab _)

theorem lines_unlines {ps ps' : List (List Char)} (h : List.Forall₂ (Aligned tab) ps ps') :
    List.Forall₂ (Aligned tab) (Text.lines (Text.unlines ps))
      (Text.lines (Text.unlines ps')) := by
  -- A line feed at the end of a line leaves the lines after it as they are.
  have hlines : ∀ (p q : List Char) (qs : List (List Char)), Text.lines (Text.unlines (p :: q :: qs))
      = Text.lines (p ++ ['\n']) ++ Text.lines (Text.unlines (q :: qs)) := by
    intro p q qs
    rw [← Text.lines_append (by simp), Text.unlines, Text.unlines, List.append_assoc]
    simp [List.intercalate]
  induction h with
  | nil => exact .nil
  | cons hp hps ih =>
      cases hps with
      | nil => simpa [Text.unlines, List.intercalate] using hp.lines
      | cons hq hqs =>
          rw [hlines, hlines]
          exact List.rel_append (hp.append ['\n']).lines ih

end LogicalLine.Aligned

/-- A line with spaces for its margin. -/
def spaced (tab : Nat) (line : List Char) : List Char :=
  List.replicate (indentWidth tab line) ' ' ++ line.dropWhile isMargin

/-- A text with spaces for the margins of the chosen lines, which are counted from zero. -/
def respaced (tab : Nat) (chosen : Nat → Bool) (text : String) : String :=
  String.ofList (Text.unlines ((text.toList.splitOn '\n').mapIdx fun i line =>
    if chosen i then spaced tab line else line))

theorem spaced_aligned (tab : Nat) (line : List Char) : Aligned tab (spaced tab line) line := by
  have hmargin : ∀ c ∈ line.takeWhile isMargin, isMargin c = true :=
    fun _ => List.mem_takeWhile_imp
  have hwidth : indentWidth tab (line.takeWhile isMargin) = indentWidth tab line := by
    show ((line.takeWhile isMargin).takeWhile isMargin).foldl _ 0
      = (line.takeWhile isMargin).foldl _ 0
    rw [List.takeWhile_idem]
  conv => rhs; rw [← List.takeWhile_append_dropWhile (p := isMargin) (l := line)]
  exact .margins _ (by simp [isMargin]) hmargin (by rw [indentWidth_spaces, hwidth])

theorem forall₂_mapIdx_aligned {tab : Nat} (ps : List (List Char)) :
    ∀ {f : Nat → List Char → List Char}, (∀ i p, Aligned tab (f i p) p) →
      List.Forall₂ (Aligned tab) (ps.mapIdx f) ps := by
  induction ps with
  | nil => exact fun _ => .nil
  | cons p ps ih =>
      intro f h
      rw [List.mapIdx_cons]
      exact .cons (h 0 p) (ih fun i => h (i + 1))

theorem respaced_aligned (tab : Nat) (chosen : Nat → Bool) (text : String) :
    List.Forall₂ (Aligned tab) (Text.lines (respaced tab chosen text).toList)
      (Text.lines text.toList) := by
  have hpieces : Text.unlines (text.toList.splitOn '\n') = text.toList :=
    List.intercalate_splitOn '\n'
  conv => rhs; rw [← hpieces]
  rw [respaced, String.toList_ofList]
  refine Aligned.lines_unlines (forall₂_mapIdx_aligned _ fun i line => ?_)
  split
  · exact spaced_aligned tab line
  · exact .refl tab line

/-- **Lines that are the same but for margins of equal width make the same tree**, except for the
source text of its nodes. -/
theorem parse_aligned {schema : Schema} (hcomment : schema.blockComment = none)
    (hmark : ∀ c ∈ (schema.continuation.getD "").toList, Text.isBlank c = false)
    {text text' : String}
    (h : List.Forall₂ (Aligned schema.tabWidth) (Text.lines text.toList)
      (Text.lines text'.toList)) :
    (parse schema text).map Node.eraseRaw = (parse schema text').map Node.eraseRaw := by
  have herase : ∀ ls : List LogicalLine, (treeOf schema ls).map Node.eraseRaw
      = treeOf schema (ls.map fun l => l.flush.eraseRaw) := by
    intro ls
    rw [← treeOf_flush, ← treeOf_map Node.eraseRaw_isUniform eraseRaw_isUniform, List.map_map]
    rfl
  rw [parse, parse, herase, herase, ofText, ofText, gather_aligned hcomment hmark false 1 _ h]

/--
**Tabs may be replaced by the spaces they stand for.**

In any set of lines of a text let the spaces and tabs at the beginning be replaced by as many spaces
as they are wide.  Then the tree is the same, except for the source text of its nodes.  This holds
for every dialect without block comments in which a continuation mark, if there is one, has no
blanks in it.
-/
theorem parse_respaced {schema : Schema} (hcomment : schema.blockComment = none)
    (hmark : ∀ c ∈ (schema.continuation.getD "").toList, Text.isBlank c = false)
    (chosen : Nat → Bool) (text : String) :
    (parse schema (respaced schema.tabWidth chosen text)).map Node.eraseRaw
      = (parse schema text).map Node.eraseRaw :=
  parse_aligned hcomment hmark (respaced_aligned schema.tabWidth chosen text)

/-- A section and a banner with margins of all kinds, one of which is left as it is. -/
theorem parse_respaced_banner :
    let schema := { Schema.ciscoIos with continuation := some "\\", tabWidth := 4 }
    let text := "interface e0\n\tmtu \\\n \t 9216\n  \tshutdown\nbanner motd #\n\t ! up\n \t#\n"
    let text' :=
      "interface e0\n    mtu \\\n     9216\n  \tshutdown\nbanner motd #\n     ! up\n    #\n"
    schema.blockComment = none ∧
      (∀ c ∈ (schema.continuation.getD "").toList, Text.isBlank c = false) ∧
      respaced schema.tabWidth (· != 3) text = text' ∧
      (parse schema text').map Node.eraseRaw = (parse schema text).map Node.eraseRaw ∧
      (parse schema text).walk.map (fun n => (n.id, n.span)) =
        [("interface e0", ⟨1, 4⟩), ("mtu 9216", ⟨2, 3⟩), ("shutdown", ⟨4, 4⟩),
          ("banner motd #", ⟨5, 7⟩)] := by
  intro schema text text'
  have hmark : ∀ c ∈ (schema.continuation.getD "").toList, Text.isBlank c = false := by
    simp [schema, Text.isBlank]
  have htext : respaced schema.tabWidth (· != 3) text = text' := by decide +kernel
  have hcomment : schema.blockComment = none := rfl
  have htree := parse_respaced hcomment hmark (· != 3) text
  rw [htext] at htree
  exact ⟨hcomment, hmark, htext, htree, by decide +kernel⟩

end DeviceLint
