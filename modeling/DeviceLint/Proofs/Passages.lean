/-
Block comments of a whole text.

A text with block comments is outside comments and inside them by turns.  Each of these
passages goes up to the first delimiter that ends it, the closer inside a comment and the
opener outside, and the last one to the end of the text.  There is exactly one way to take a
text apart like this, and it says what the text is without its comments: the passages outside,
and the line ends of those inside.

The lines of a text are searched for comments one by one, though, with the state that the line
before has left.  A delimiter has no line end in it, so it stands in one line.  That is why the
first line of a text, taken out of its passages, leaves the passages of the lines below it, and
the rest is induction on the lines.
-/
import DeviceLint.Proofs.Coverage

namespace DeviceLint

/-- The delimiter that a text is searched for inside a comment, or outside. -/
def Delimiters.sought (d : Delimiters) (inside : Bool) : List Char :=
  if inside then d.closer.toList else d.opener.toList

/-- A text that starts inside a comment or outside, taken apart where that changes. -/
inductive Passages (d : Delimiters) : Bool → Type where
  | last {inside : Bool} (s : List Char) (h : ¬ d.sought inside <:+: s) : Passages d inside
  | next {inside : Bool} (s : List Char) (h : Text.UpToFirst (d.sought inside) s)
      (rest : Passages d (!inside)) : Passages d inside

namespace Passages

variable {d : Delimiters} {inside : Bool}

/-- The text that is taken apart. -/
def text : {inside : Bool} → Passages d inside → List Char
  | _, last s _ => s
  | inside, next s _ rest => s ++ d.sought inside ++ rest.text

/-- What remains of a passage: its line ends if it is inside a comment, else all of it. -/
def remains (inside : Bool) (s : List Char) : List Char :=
  if inside then s.filter (· == '\n') else s

/-- The text without its comments. -/
def kept : {inside : Bool} → Passages d inside → List Char
  | inside, last s _ => remains inside s
  | inside, next s _ rest => remains inside s ++ rest.kept

/-- Whether the last passage is a comment, which nothing closes. -/
def endsInside : {inside : Bool} → Passages d inside → Bool
  | inside, last _ _ => inside
  | _, next _ _ rest => rest.endsInside

/-! ### Taking a text apart -/

theorem splitAt?_last {s : List Char} (h : ¬ d.sought inside <:+: s) :
    Text.splitAt? (d.sought inside) (last s h).text = none :=
  Text.splitAt?_eq_none_iff.mpr h

theorem splitAt?_next {s : List Char} (h : Text.UpToFirst (d.sought inside) s)
    (rest : Passages d (!inside)) :
    Text.splitAt? (d.sought inside) (next s h rest).text = some (s, rest.text) :=
  h.splitAt? rest.text

/-- There is at most one way to take a text apart. -/
theorem eq_of_text (p : Passages d inside) :
    ∀ q : Passages d inside, q.text = p.text → q = p := by
  induction p with
  | @last inside s h =>
      intro q hq
      cases q with
      | last t h' =>
          obtain rfl : t = s := hq
          rfl
      | next t h' rest =>
          have hcut := splitAt?_last h
          rw [← hq, splitAt?_next] at hcut
          exact absurd hcut (Option.some_ne_none _)
  | @next inside s h rest ih =>
      intro q hq
      have hcut := splitAt?_next h rest
      rw [← hq] at hcut
      cases q with
      | last t h' =>
          rw [splitAt?_last] at hcut
          exact absurd hcut.symm (Option.some_ne_none _)
      | next t h' rest' =>
          rw [splitAt?_next] at hcut
          obtain ⟨rfl, hrest⟩ := Prod.mk.inj (Option.some.inj hcut)
          rw [ih rest' hrest]

/-- Every text can be taken apart, for each passage but the last takes a delimiter with it. -/
theorem exists_text (hd : ∀ inside, d.sought inside ≠ []) (s : List Char) :
    ∀ inside, ∃ p : Passages d inside, p.text = s := by
  induction h : s.length using Nat.strong_induction_on generalizing s with
  | _ n ih =>
      intro inside
      cases hcut : Text.splitAt? (d.sought inside) s with
      | none => exact ⟨last s (Text.splitAt?_eq_none_iff.mp hcut), rfl⟩
      | some found =>
          obtain ⟨before, after⟩ := found
          have hlt := Text.length_after_splitAt? (hd inside) hcut
          obtain ⟨rest, hrest⟩ := ih after.length (by omega) after rfl (!inside)
          refine ⟨next before (Text.upToFirst_of_splitAt? hcut) rest, ?_⟩
          rw [text, hrest, Text.splitAt?_eq_some hcut]

/-! ### What remains -/

theorem remains_append (s t : List Char) (inside : Bool) :
    remains inside (s ++ t) = remains inside s ++ remains inside t := by
  cases inside <;> simp [remains]

theorem remains_newline (s : List Char) (inside : Bool) :
    remains inside ('\n' :: s) = '\n' :: remains inside s := by
  cases inside <;> simp [remains]

theorem remains_line {s : List Char} (hs : '\n' ∉ s) (inside : Bool) :
    remains inside s = if inside then [] else s := by
  have hfilter : s.filter (· == '\n') = [] := by
    rw [List.filter_eq_nil_iff]
    intro c hc heq
    obtain rfl : c = '\n' := by simpa using heq
    exact hs hc
  rw [remains, hfilter]

end Passages

namespace LogicalLine

/-- Takes the comments out of lines that follow one another, and tells where these end. -/
def stripLines (d : Delimiters) (inside : Bool) : List (List Char) → List (List Char) × Bool
  | [] => ([], inside)
  | line :: lines =>
    let (content, inside) := stripComments d inside line
    let (rest, inside) := stripLines d inside lines
    (content :: rest, inside)

theorem length_stripLines (d : Delimiters) (lines : List (List Char)) :
    ∀ inside, (stripLines d inside lines).1.length = lines.length := by
  induction lines with
  | nil => intro inside; rfl
  | cons line lines ih =>
      intro inside
      rw [stripLines, List.length_cons, List.length_cons, ih]

/-- A line is searched for the delimiter that ends its first passage, and then for the other. -/
theorem stripComments_eq {d : Delimiters} (hopener : d.opener ≠ "") (inside : Bool)
    (s : List Char) : stripComments d inside s =
      match Text.splitAt? (d.sought inside) s with
      | none => (if inside then [] else s, inside)
      | some (before, after) =>
        ((if inside then [] else before) ++ (stripComments d (!inside) after).1,
          (stripComments d (!inside) after).2) := by
  cases inside with
  | true => rw [stripComments_inside]; rfl
  | false => rw [stripComments_outside (by simpa using hopener)]; rfl

end LogicalLine

open LogicalLine

namespace Passages

variable {d : Delimiters} {inside : Bool}

/-! ### Line by line -/

/-- A text of one line. -/
theorem stripComments_text (hopener : d.opener ≠ "") (p : Passages d inside) :
    '\n' ∉ p.text → stripComments d inside p.text = (p.kept, p.endsInside) := by
  induction p with
  | @last inside s h =>
      intro hs
      have hs : '\n' ∉ s := hs
      rw [stripComments_eq hopener, splitAt?_last, kept, endsInside, remains_line hs]
      rfl
  | @next inside s h rest ih =>
      intro hs
      simp only [text, List.mem_append, not_or] at hs
      rw [stripComments_eq hopener, splitAt?_next]
      dsimp only
      rw [ih hs.2, kept, endsInside, remains_line hs.1.1]

/-- The first line of a text, and the passages of what is below it. -/
theorem exists_below (hopener : d.opener ≠ "") (hd : ∀ inside, '\n' ∉ d.sought inside)
    {line below : List Char} (p : Passages d inside) :
    '\n' ∉ line → p.text = line ++ '\n' :: below →
      ∃ content inside', ∃ q : Passages d inside',
        stripComments d inside line = (content, inside') ∧ q.text = below ∧
          p.kept = content ++ '\n' :: q.kept ∧ p.endsInside = q.endsInside := by
  induction p generalizing line with
  | @last inside s h =>
      intro hline htext
      obtain rfl : s = line ++ '\n' :: below := htext
      have hcut : Text.splitAt? (d.sought inside) line = none :=
        Text.splitAt?_eq_none_iff.mpr fun hpart => h (hpart.trans (List.infix_append' [] _ _))
      have hbelow : ¬ d.sought inside <:+: below := fun hpart =>
        h (hpart.trans (List.suffix_append_of_suffix (List.suffix_cons ..)).isInfix)
      refine ⟨_, inside, last below hbelow, by rw [stripComments_eq hopener, hcut], rfl, ?_, rfl⟩
      rw [kept, kept, remains_append, remains_line hline, remains_newline]
  | @next inside s h rest ih =>
      intro hline htext
      rw [text] at htext
      rcases Text.append_eq_append_cons (hd inside) htext with ⟨u, rfl, rfl⟩ | ⟨u, rfl, hrest⟩
      · -- The delimiter is below the line, and the passage goes on there.
        have hcut : Text.splitAt? (d.sought inside) line = none :=
          Text.splitAt?_eq_none_iff.mpr h.not_infix
        have hu : Text.UpToFirst (d.sought inside) u :=
          Text.UpToFirst.of_append (s := line ++ ['\n']) (by simpa using h)
        refine ⟨_, inside, next u hu rest, by rw [stripComments_eq hopener, hcut], rfl, ?_, rfl⟩
        rw [kept, kept, remains_append, remains_line hline, remains_newline, List.append_assoc,
          List.cons_append]
      · -- The delimiter is in the line, and so is the beginning of the passage after it.
        simp only [List.mem_append, not_or] at hline
        obtain ⟨content, inside', q, hstrip, hq, hkept, hends⟩ := ih hline.2 hrest
        have hcut := stripComments_eq hopener inside (s ++ d.sought inside ++ u)
        rw [h.splitAt?] at hcut
        dsimp only at hcut
        rw [hstrip] at hcut
        refine ⟨_, inside', q, hcut, hq, ?_, hends⟩
        rw [kept, hkept, remains_line hline.1.1, List.append_assoc]

theorem unlines_stripLines_text (hopener : d.opener ≠ "") (hsought : ∀ inside, d.sought inside ≠ [])
    (hd : ∀ inside, '\n' ∉ d.sought inside) {lines : List (List Char)}
    (hlines : ∀ line ∈ lines, '\n' ∉ line) :
    ∀ {inside : Bool} (p : Passages d inside), p.text = Text.unlines lines →
      Text.unlines (stripLines d inside lines).1 = p.kept ∧
        (stripLines d inside lines).2 = p.endsInside := by
  induction lines with
  | nil =>
      intro inside p htext
      have hempty : Passages.text (last [] (by simp [hsought]) : Passages d inside) = [] := rfl
      obtain rfl := eq_of_text _ p (htext.trans hempty.symm)
      cases inside <;> exact ⟨rfl, rfl⟩
  | cons line lines ih =>
      intro inside p htext
      rw [List.forall_mem_cons] at hlines
      by_cases hrest : lines = []
      · subst hrest
        rw [Text.unlines_singleton] at htext
        have hstrip := stripComments_text hopener p (htext ▸ hlines.1)
        rw [htext] at hstrip
        simp [stripLines, hstrip, Text.unlines_singleton]
      · rw [Text.unlines_cons hrest] at htext
        obtain ⟨content, inside', q, hstrip, hq, hkept, hends⟩ :=
          exists_below hopener hd p hlines.1 htext
        obtain ⟨hbelow, hlast⟩ := ih hlines.2 q hq
        have hne : (stripLines d inside' lines).1 ≠ [] := by
          rw [← List.length_pos_iff, length_stripLines]
          exact List.length_pos_iff.mpr hrest
        rw [stripLines, hstrip]
        exact ⟨by rw [Text.unlines_cons hne, hbelow, hkept], hlast.trans hends.symm⟩

end Passages

namespace LogicalLine

/--
**Comments that are taken out line by line are taken out of the whole text.**

The delimiters of comments are not empty and have no line ends in them, and may be the same or
overlap.  Then the search of each line comes to an end, after at most as many rounds as the line
has characters, and one more.  The whole text can be taken apart at its comments in exactly one
way.  What is left of the lines is the text without its comments, but with the line ends in
these, and the last line ends inside a comment if the last comment of the text is not closed.
-/
theorem unlines_stripLines {d : Delimiters} (hopener : d.opener ≠ "" ∧ '\n' ∉ d.opener.toList)
    (hcloser : d.closer ≠ "" ∧ '\n' ∉ d.closer.toList) {lines : List (List Char)}
    (hlines : ∀ line ∈ lines, '\n' ∉ line) :
    (∀ line ∈ lines, ∀ inside,
      stripIn d (line.length + 1) inside line = some (stripComments d inside line)) ∧
    ∃ whole : Passages d false,
      (∀ p : Passages d false, p.text = Text.unlines lines ↔ p = whole) ∧
      Text.unlines (stripLines d false lines).1 = whole.kept ∧
      (stripLines d false lines).2 = whole.endsInside := by
  have hopener' : d.opener.toList ≠ [] := by simpa using hopener.1
  have hcloser' : d.closer.toList ≠ [] := by simpa using hcloser.1
  have hsought : ∀ inside, d.sought inside ≠ [] := by
    intro inside
    cases inside
    · exact hopener'
    · exact hcloser'
  have hd : ∀ inside, '\n' ∉ d.sought inside := by
    intro inside
    cases inside
    · exact hopener.2
    · exact hcloser.2
  obtain ⟨whole, hwhole⟩ := Passages.exists_text hsought (Text.unlines lines) false
  refine ⟨fun line _ inside => stripIn_eq hopener' hcloser' (Nat.lt_succ_self _), whole, ?_,
    Passages.unlines_stripLines_text hopener.1 hsought hd hlines whole hwhole⟩
  intro p
  constructor
  · intro htext
    exact Passages.eq_of_text whole p (htext.trans hwhole.symm)
  · intro heq
    rw [heq, hwhole]

/-- An opener that seems to close itself, two comments in a line, and one that is not closed. -/
theorem unlines_stripLines_unclosed :
    let d : Delimiters := ⟨"/*", "*/"⟩
    let lines := ["a /*/ b */ c".toList, "d /* e */ f /* g".toList, [], "h */ i /* j".toList]
    (d.opener ≠ "" ∧ '\n' ∉ d.opener.toList) ∧ (d.closer ≠ "" ∧ '\n' ∉ d.closer.toList) ∧
      (∀ line ∈ lines, '\n' ∉ line) ∧
      stripLines d false lines = (["a  c".toList, "d  f ".toList, [], " i ".toList], true) ∧
      ∃ whole : Passages d false, whole.text = Text.unlines lines ∧
        whole.kept = "a  c\nd  f \n\n i ".toList ∧ whole.endsInside = true := by
  intro d lines
  have hopener : d.opener ≠ "" ∧ '\n' ∉ d.opener.toList := by decide
  have hcloser : d.closer ≠ "" ∧ '\n' ∉ d.closer.toList := by decide
  have hlines : ∀ line ∈ lines, '\n' ∉ line := by decide
  have hstrip : stripLines d false lines
      = (["a  c".toList, "d  f ".toList, [], " i ".toList], true) := by
    decide +kernel
  obtain ⟨-, whole, hwhole, hkept, hends⟩ := unlines_stripLines hopener hcloser hlines
  rw [hstrip] at hkept hends
  exact ⟨hopener, hcloser, hlines, hstrip, whole, (hwhole whole).mpr rfl, hkept.symm, hends.symm⟩

end LogicalLine

end DeviceLint
