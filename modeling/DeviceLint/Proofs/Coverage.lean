/-
Where the lines of a text go.

Every physical line is either taken up by one logical line, which keeps its text, or it is
skipped: what is left of it outside block comments is blank or a comment.  A line is read
with the comment state the lines before it left behind.  Only the lines that statements
start at and the skipped ones are searched for block comments, though.  So the state that
is carried is that of the text itself only as long as no statement opens or closes a block
comment on the lines it goes on over.

A line that no logical line takes up has no statement waiting before it, for a statement
that waits takes up the next line.  So the text may be cut there, and what follows is read
on its own.
-/
import DeviceLint.Proofs.Seam
import DeviceLint.Schema.Basic

namespace DeviceLint

namespace LogicalLine

variable {schema : Schema} {inside : Bool} {n : Nat} {physical : List (List Char)}

/-! ### Block comments, one delimiter at a time -/

/-- Takes the comments out of a line by looking for the closer inside a comment and for the
opener outside, as long as there are rounds left. -/
def stripIn (d : Delimiters) : Nat → Bool → List Char → Option (List Char × Bool)
  | 0, _, _ => none
  | rounds + 1, true, s =>
    match Text.splitAt? d.closer.toList s with
    | none => some ([], true)
    | some (_, after) => stripIn d rounds false after
  | rounds + 1, false, s =>
    match Text.splitAt? d.opener.toList s with
    | none => some (s, false)
    | some (before, after) =>
      (stripIn d rounds true after).map fun (kept, inside) => (before ++ kept, inside)

theorem stripComments_inside (d : Delimiters) (s : List Char) :
    stripComments d true s =
      match Text.splitAt? d.closer.toList s with
      | none => ([], true)
      | some (_, after) => stripComments d false after := rfl

theorem stripComments_outside {d : Delimiters} (hopener : d.opener.toList ≠ []) (s : List Char) :
    stripComments d false s =
      match Text.splitAt? d.opener.toList s with
      | none => (s, false)
      | some (before, after) =>
        (before ++ (stripComments d true after).1, (stripComments d true after).2) := by
  rw [stripComments, if_neg (by simp), outsideComments]
  cases hopen : Text.splitAt? d.opener.toList s with
  | none => rfl
  | some found =>
      obtain ⟨before, after⟩ := found
      dsimp only
      rw [stripComments_inside]
      cases hclose : Text.splitAt? d.closer.toList after with
      | none => simp
      | some found =>
          obtain ⟨between, rest⟩ := found
          dsimp only
          rw [if_pos (length_after_lt hopener hopen hclose)]
          rfl

/-- Every round but the last leaves less of the line, so one more than its length suffice. -/
theorem stripIn_eq {d : Delimiters} (hopener : d.opener.toList ≠ [])
    (hcloser : d.closer.toList ≠ []) {rounds : Nat} :
    ∀ {inside s}, s.length < rounds → stripIn d rounds inside s = some (stripComments d inside s) := by
  induction rounds with
  | zero => intro inside s h; omega
  | succ rounds ih =>
      intro inside s h
      cases inside with
      | true =>
          rw [stripIn, stripComments_inside]
          cases hclose : Text.splitAt? d.closer.toList s with
          | none => rfl
          | some found =>
              have hafter := Text.length_after_splitAt? hcloser hclose
              exact ih (by omega)
      | false =>
          rw [stripIn, stripComments_outside hopener]
          cases hopen : Text.splitAt? d.opener.toList s with
          | none => rfl
          | some found =>
              have hafter := Text.length_after_splitAt? hopener hopen
              dsimp only
              rw [ih (by omega)]
              rfl

/-! ### Lines that statements take up -/

/-- Whether a logical line takes up physical line number `k`. -/
def Covers (l : LogicalLine) (k : Nat) : Prop := l.first ≤ k ∧ k ≤ l.last

/-- A logical line keeps the text of its physical lines. -/
theorem raw_gather (schema : Schema) (inside : Bool) (n : Nat) (physical : List (List Char)) :
    ∀ l ∈ gather schema inside n physical,
      l.raw = Text.unlines ((physical.drop (l.first - n)).take (l.last + 1 - l.first)) := by
  induction inside, n, physical using lines_induction schema with
  | nil inside n => simp [gather]
  | skip inside n line rest hskip ih =>
      intro l hl
      rw [gather_skip hskip] at hl
      have hfirst := (gather_ordered schema _ (n + 1) rest).bounds l hl
      rw [ih l hl, show l.first - n = l.first - (n + 1) + 1 by omega, List.drop_succ_cons]
  | statement inside n line rest hskip ih =>
      intro l hl
      rw [gather_start hskip] at hl
      rcases List.mem_cons.mp hl with rfl | hl
      · rw [start_first, Nat.sub_self, List.drop_zero]
        simp only [start]
        rw [show ∀ k, n + k + 1 - n = k + 1 by omega, List.take_succ_cons, ← List.take_eq_take_min]
      · have hfirst := (gather_ordered schema _ _ _).bounds l hl
        rw [ih l hl, List.drop_drop]
        generalize extra schema (uncommented schema inside line).1 rest = e at hfirst
        rw [show l.first - n = e + (l.first - (n + e + 1)) + 1 by omega, List.drop_succ_cons]

/-- No statement waits at a line that no logical line goes over from above. -/
theorem endsWaiting_of_uncut {next : List Char} {more : List (List Char)}
    (h : ∀ l ∈ gather schema inside n (physical ++ next :: more),
      n + physical.length ≤ l.last → n + physical.length ≤ l.first) :
    endsWaiting schema inside physical = false := by
  cases hwaits : endsWaiting schema inside physical with
  | false => rfl
  | true =>
      obtain ⟨l, hl, hfirst, hlast⟩ := exists_cut schema inside n physical next more hwaits
      exact absurd (h l hl hlast) (by omega)

theorem endsWaiting_of_uncovered {next : List Char} {more : List (List Char)}
    (h : ∀ l ∈ gather schema inside n (physical ++ next :: more),
      ¬ l.Covers (n + physical.length)) : endsWaiting schema inside physical = false :=
  endsWaiting_of_uncut fun l hl hlast => by
    by_contra hfirst
    exact h l hl ⟨by omega, hlast⟩

/-- A line that no logical line takes up is skipped. -/
theorem isSkipped_of_uncovered {next : List Char} {more : List (List Char)}
    (h : ∀ l ∈ gather schema inside n (physical ++ next :: more),
      ¬ l.Covers (n + physical.length)) :
    isSkipped schema (uncommented schema (endsInside schema inside physical) next).1 = true := by
  have hseam := endsWaiting_of_uncovered h
  by_contra hskip
  rw [gather_append schema inside n physical _ hseam, gather_start hskip] at h
  refine h _ (List.mem_append_right _ List.mem_cons_self) ⟨Nat.le_refl _, ?_⟩
  exact (start_last schema _ _ _ _).1

/-- A line that a logical line starts at is not skipped, and no statement waits there. -/
theorem not_isSkipped_of_first {next : List Char} {more : List (List Char)} {l : LogicalLine}
    (hl : l ∈ gather schema inside n (physical ++ next :: more))
    (hfirst : l.first = n + physical.length) :
    endsWaiting schema inside physical = false ∧
      ¬ isSkipped schema (uncommented schema (endsInside schema inside physical) next).1
        = true := by
  have hordered := gather_ordered schema inside n (physical ++ next :: more)
  have hseam : endsWaiting schema inside physical = false :=
    endsWaiting_of_uncut fun k hk hlast => by
      by_contra hlt
      have hapart := hordered.apart k hk l hl (by omega)
      omega
  refine ⟨hseam, fun hskip => ?_⟩
  rw [gather_append schema inside n physical _ hseam, gather_skip hskip, List.mem_append] at hl
  rcases hl with hl | hl
  · have hbounds := (gather_ordered schema inside n physical).bounds l hl
    omega
  · have hbounds := (gather_ordered schema _ _ more).bounds l hl
    omega

/-! ### The comment state of the text -/

/-- Whether a block comment is open after some lines if each of them is searched. -/
def commentAfter (schema : Schema) (inside : Bool) (physical : List (List Char)) : Bool :=
  physical.foldl (fun inside line => (uncommented schema inside line).2) inside

/-- A statement opens and closes no block comment on the lines it goes on over. -/
def KeepsComment (schema : Schema) (inside : Bool) (physical : List (List Char))
    (first last : Nat) : Prop :=
  commentAfter schema inside (physical.take last)
    = commentAfter schema inside (physical.take first)

theorem commentAfter_cons (schema : Schema) (inside : Bool) (line : List Char)
    (rest : List (List Char)) : commentAfter schema inside (line :: rest)
      = commentAfter schema (uncommented schema inside line).2 rest := rfl

theorem commentAfter_append (schema : Schema) (inside : Bool) (above below : List (List Char)) :
    commentAfter schema inside (above ++ below)
      = commentAfter schema (commentAfter schema inside above) below :=
  List.foldl_append

/-- The state that is carried is that of the text if all statements keep it. -/
theorem endsInside_eq_commentAfter (schema : Schema) (inside : Bool) (n : Nat)
    (physical : List (List Char))
    (h : ∀ l ∈ gather schema inside n physical,
      KeepsComment schema inside physical (l.first + 1 - n) (l.last + 1 - n)) :
    endsInside schema inside physical = commentAfter schema inside physical := by
  induction inside, n, physical using lines_induction schema with
  | nil inside n => rw [endsInside]; rfl
  | skip inside n line rest hskip ih =>
      rw [endsInside_skip hskip, commentAfter_cons]
      refine ih fun l hl => ?_
      have hbounds := (gather_ordered schema _ (n + 1) rest).bounds l hl
      rw [gather_skip hskip] at h
      have hkeeps := h l hl
      rwa [KeepsComment, show l.last + 1 - n = l.last + 1 - (n + 1) + 1 by omega,
        show l.first + 1 - n = l.first + 1 - (n + 1) + 1 by omega, List.take_succ_cons,
        List.take_succ_cons, commentAfter_cons, commentAfter_cons] at hkeeps
  | statement inside n line rest hskip ih =>
      rw [gather_start hskip, List.forall_mem_cons] at h
      obtain ⟨hhead, htail⟩ := h
      rw [start_first, start_last_eq] at hhead
      rw [endsInside_start hskip, commentAfter_cons]
      generalize extra schema (uncommented schema inside line).1 rest = e at *
      have hover : commentAfter schema (uncommented schema inside line).2 (rest.take e)
          = (uncommented schema inside line).2 := by
        rw [KeepsComment, show n + e + 1 - n = e + 1 by omega, Nat.add_sub_cancel_left,
          List.take_succ_cons, List.take_succ_cons, commentAfter_cons, commentAfter_cons] at hhead
        exact hhead
      have hrest : ∀ k, commentAfter schema (uncommented schema inside line).2 (rest.take (e + k))
          = commentAfter schema (uncommented schema inside line).2 ((rest.drop e).take k) := by
        intro k
        rw [List.take_add, commentAfter_append, hover]
      calc endsInside schema (uncommented schema inside line).2 (rest.drop e)
          = commentAfter schema (uncommented schema inside line).2 (rest.drop e) := by
            refine ih fun l hl => ?_
            have hbounds := (gather_ordered schema _ _ _).bounds l hl
            have hkeeps := htail l hl
            rwa [KeepsComment,
              show l.last + 1 - n = e + (l.last + 1 - (n + e + 1)) + 1 by omega,
              show l.first + 1 - n = e + (l.first + 1 - (n + e + 1)) + 1 by omega,
              List.take_succ_cons, List.take_succ_cons, commentAfter_cons, commentAfter_cons,
              hrest, hrest] at hkeeps
        _ = commentAfter schema (uncommented schema inside line).2 rest := by
            conv_rhs => rw [← List.take_append_drop e rest, commentAfter_append, hover]

end LogicalLine

open LogicalLine

/--
**Every line of a text is in one logical line, or is skipped.**

For a dialect with no empty comment delimiter, the search of a line for block comments comes
to an end after at most as many rounds as the line has characters, and one more.  Logical
lines stand within the text, one below the other, and keep their physical lines word for
word.  A physical line that none of them takes up is blank or a comment once block comments
are taken out of it, given the state that is carried down to it; and this is the state of
the text above it if no statement above it opens or closes a block comment on the lines it
goes on over.
-/
theorem ofText_covers {schema : Schema}
    (hdelimiters : ∀ d, schema.blockComment = some d → d.opener ≠ "" ∧ d.closer ≠ "")
    (text : String) :
    let physical := Text.lines text.toList
    (∀ d, schema.blockComment = some d → ∀ inside line,
      stripIn d (line.length + 1) inside line = some (uncommented schema inside line)) ∧
    (∀ l ∈ ofText schema text, 1 ≤ l.first ∧ l.first ≤ l.last ∧ l.last ≤ physical.length) ∧
    ((ofText schema text).Pairwise fun l m => l.last < m.first) ∧
    (∀ l ∈ ofText schema text,
      l.raw = Text.unlines ((physical.drop (l.first - 1)).take (l.last + 1 - l.first))) ∧
    ∀ above line below, physical = above ++ line :: below →
      (∀ l ∈ ofText schema text, ¬ l.Covers (above.length + 1)) →
      isSkipped schema (uncommented schema (endsInside schema false above) line).1 = true ∧
      ((∀ l ∈ ofText schema text, l.last ≤ above.length →
          KeepsComment schema false physical l.first l.last) →
        isSkipped schema (uncommented schema (commentAfter schema false above) line).1
          = true) := by
  intro physical
  have hordered := ofText_ordered schema text
  refine ⟨?_, ?_, ?_, raw_gather schema false 1 physical, ?_⟩
  · intro d hd inside line
    obtain ⟨hopener, hcloser⟩ := hdelimiters d hd
    rw [uncommented, hd]
    exact stripIn_eq (by simpa using hopener) (by simpa using hcloser) (Nat.lt_succ_self _)
  · intro l hl
    have hbounds := hordered.bounds l hl
    exact ⟨hbounds.1, hbounds.2.1, Nat.le_of_lt_succ hbounds.2.2⟩
  · exact hordered.pairwise_first.imp_of_mem fun hl hm hlt => hordered.apart _ hl _ hm hlt
  · intro above line below hphysical huncovered
    have hlines : ofText schema text = gather schema false 1 (above ++ line :: below) := by
      rw [ofText, ← hphysical]
    rw [hlines, Nat.add_comm] at huncovered
    have hskip := isSkipped_of_uncovered huncovered
    refine ⟨hskip, fun hkeeps => ?_⟩
    rw [← endsInside_eq_commentAfter schema false 1 above fun l hl => ?_]
    · exact hskip
    · have hbounds := (gather_ordered schema false 1 above).bounds l hl
      have hseam := endsWaiting_of_uncovered huncovered
      have hkeeps := hkeeps l (by
        rw [hlines, gather_append schema false 1 above _ hseam]
        exact List.mem_append_left _ hl) (by omega)
      rwa [KeepsComment, hphysical, List.take_append_of_le_length (by omega),
        List.take_append_of_le_length (by omega)] at hkeeps

/-- Statements that go on over several lines, in a dialect with block comments. -/
def Schema.joined : Schema where
  id := "joined"
  blockComment := some ⟨"/*", "*/"⟩
  continuation := some "\\"

/-- Two statements with a comment between them. -/
theorem ofText_covers_joined :
    let lines := ["a \\".toList, "  b".toList, "/* c".toList, "d */".toList, "e".toList]
    (∀ d, Schema.joined.blockComment = some d → d.opener ≠ "" ∧ d.closer ≠ "") ∧
    (ofText Schema.joined "a \\\n  b\n/* c\nd */\ne\n").map (fun l => (l.first, l.last))
      = [(1, 2), (5, 5)] ∧
    commentAfter Schema.joined false (lines.take 3) = true ∧
    isSkipped Schema.joined (uncommented Schema.joined
      (commentAfter Schema.joined false (lines.take 3)) "d */".toList).1 = true := by
  intro lines
  have hdelimiters : ∀ d, Schema.joined.blockComment = some d →
      d.opener ≠ "" ∧ d.closer ≠ "" := by simp [Schema.joined]
  have hspans : (ofText Schema.joined "a \\\n  b\n/* c\nd */\ne\n").map
      (fun l => (l.first, l.last)) = [(1, 2), (5, 5)] := by decide +kernel
  have hmem : ∀ l ∈ ofText Schema.joined "a \\\n  b\n/* c\nd */\ne\n",
      (l.first = 1 ∧ l.last = 2) ∨ (l.first = 5 ∧ l.last = 5) := by
    intro l hl
    have hpair := List.mem_map_of_mem (f := fun l => (l.first, l.last)) hl
    simpa [hspans] using hpair
  refine ⟨hdelimiters, hspans, by decide +kernel, ?_⟩
  obtain ⟨-, -, -, -, hskipped⟩ :=
    ofText_covers hdelimiters "a \\\n  b\n/* c\nd */\ne\n"
  refine (hskipped (lines.take 3) "d */".toList ["e".toList] (by decide +kernel) ?_).2 ?_
  · intro l hl hcovers
    have hfirst : l.first ≤ 4 := hcovers.1
    have hlast : 4 ≤ l.last := hcovers.2
    rcases hmem l hl with ⟨h, h'⟩ | ⟨h, h'⟩ <;> omega
  · intro l hl hlast
    have hlast : l.last ≤ 3 := hlast
    rcases hmem l hl with ⟨h, h'⟩ | ⟨h, h'⟩
    · rw [h, h', KeepsComment]
      decide +kernel
    · omega

/--
A comment that opens in the first line of a statement and is closed in its second stays open:
the statement in the third line, which stands outside comments, is in no logical line.
-/
theorem ofText_lost_afterJoined :
    Schema.joined.fault? = none ∧
    Text.lines "a \\ /* x\n*/ b\nc\n".toList
      = ["a \\ /* x".toList, "*/ b".toList] ++ "c".toList :: [] ∧
    (ofText Schema.joined "a \\ /* x\n*/ b\nc\n").map (fun l => (l.first, l.last)) = [(1, 2)] ∧
    isSkipped Schema.joined (uncommented Schema.joined
      (commentAfter Schema.joined false ["a \\ /* x".toList, "*/ b".toList]) "c".toList).1
        = false := by
  decide +kernel

end DeviceLint
