/-
What the pieces of a line are.

`Brace.cut` reads a line character by character and remembers what it has read since
the last cut.  `Brace.statements` says what should come of that, one thing at a time:
every character is marked with whether it stands between double quotes, the line is
split at the braces and semicolons outside them, everything from the first comment on
is left out, and so are blank pieces.

The reader carries a piece that is not finished.  The induction therefore speaks of a
line whose first piece has a given beginning; that this beginning is not a comment yet,
and not blank while quotes are open, is what a single character keeps up.
-/
import DeviceLint.Layout.Brace
import DeviceLint.Proofs.Text

namespace DeviceLint

namespace Brace

theorem isBlank_eq_all (s : List Char) : isBlank s = s.all Text.isBlank := by
  rw [isBlank, Bool.eq_iff_iff, List.isEmpty_iff, Text.trim_eq_nil_iff, List.all_eq_true]

@[simp] theorem isBlank_nil : isBlank [] = true := by simp [isBlank_eq_all]

theorem isBlank_append (s t : List Char) : isBlank (s ++ t) = (isBlank s && isBlank t) := by
  simp [isBlank_eq_all]

/-! ### The statements of a line -/

/-- A character and whether it stands between double quotes. -/
abbrev Marked := Char × Bool

/-- The characters of a text that starts between quotes or outside of them, marked. -/
def mark (quoted : Bool) : List Char → List Marked
  | [] => []
  | c :: s => (c, quoted) :: mark (quoted != (c == '"')) s

/-- Whether a line is cut at a character. -/
def isCut (m : Marked) : Bool := !m.2 && (m.1 == '\x7b' || m.1 == '\x7d' || m.1 == ';')

/-- Whether there is nothing but blanks before an unquoted `#`. -/
def isComment (piece : List Marked) : Bool :=
  (piece.dropWhile fun m => Text.isBlank m.1).head? == some ('#', false)

/-- The pieces of a text that starts between quotes or outside of them, comments included. -/
def pieces (quoted : Bool) (s : List Char) : List (List Marked) :=
  (mark quoted s).splitOnP isCut

/-- The texts of the pieces before the first comment, blank ones left out. -/
def kept (ps : List (List Marked)) : List (List Char) :=
  ((ps.takeWhile (!isComment ·)).map (·.map Prod.fst)).filter (!isBlank ·)

/-- The statements of a line. -/
def statements (s : List Char) : List (List Char) := kept (pieces false s)

theorem kept_cons_comment {p : List Marked} (ps : List (List Marked)) (h : isComment p = true) :
    kept (p :: ps) = [] := by
  simp [kept, h]

theorem kept_cons {p : List Marked} (ps : List (List Marked)) (h : isComment p = false) :
    kept (p :: ps) = [p.map Prod.fst].filter (!isBlank ·) ++ kept ps := by
  unfold kept
  rw [List.takeWhile_cons_of_pos (by simp [h]), List.map_cons,
    ← List.singleton_append, List.filter_append]

theorem pieces_nil (quoted : Bool) : pieces quoted [] = [[]] := rfl

theorem modifyHead_nil_append (ps : List (List Marked)) : ps.modifyHead ([] ++ ·) = ps := by
  cases ps <;> rfl

/-- A character that does not cut goes to the end of the piece. -/
theorem pieces_grow {quoted : Bool} {c : Char} (s : List Char) (piece : List Marked)
    (h : isCut (c, quoted) = false) :
    (pieces quoted (c :: s)).modifyHead (piece ++ ·)
      = (pieces (quoted != (c == '"')) s).modifyHead (piece ++ [(c, quoted)] ++ ·) := by
  rw [pieces, mark, List.splitOnP_cons_eq_if_modifyHead, if_neg (by simp [h]),
    List.modifyHead_modifyHead, ← pieces]
  congr 1
  funext rest
  simp

/-- A character that cuts ends the piece, and the next one starts with nothing. -/
theorem pieces_split {quoted : Bool} {c : Char} (s : List Char) (piece : List Marked)
    (h : isCut (c, quoted) = true) :
    (pieces quoted (c :: s)).modifyHead (piece ++ ·)
      = piece :: pieces (quoted != (c == '"')) s := by
  rw [pieces, mark, List.splitOnP_cons_eq_if_modifyHead, if_pos h, List.modifyHead_cons,
    List.append_nil, ← pieces]

/-! ### Comments -/

theorem dropWhile_eq_nil_of_blank {piece : List Marked}
    (h : isBlank (piece.map Prod.fst) = true) :
    piece.dropWhile (fun m => Text.isBlank m.1) = [] := by
  rw [List.dropWhile_eq_nil_iff]
  intro m hm
  rw [isBlank_eq_all, List.all_eq_true] at h
  exact h m.1 (List.mem_map_of_mem hm)

theorem isComment_nil : isComment [] = false := rfl

/-- A character more makes a comment of a piece only if it is a `#` after blanks. -/
theorem isComment_concat {p : List Marked} (h : isComment p = false) {m : Marked}
    (hm : m = ('#', false) → isBlank (p.map Prod.fst) = false) :
    isComment (p ++ [m]) = false := by
  unfold isComment at h ⊢
  rw [List.dropWhile_append]
  split
  · rename_i hempty
    have hblank : isBlank (p.map Prod.fst) = true := by
      rw [List.isEmpty_iff, List.dropWhile_eq_nil_iff] at hempty
      rw [isBlank_eq_all, List.all_eq_true]
      intro c hc
      obtain ⟨x, hx, rfl⟩ := List.mem_map.mp hc
      exact hempty x hx
    have hne : m ≠ ('#', false) := by
      intro hc
      rw [hm hc] at hblank
      simp at hblank
    by_cases hc : Text.isBlank m.1 = true
    · simp [hc]
    · simp [hc, hne]
  · rename_i hempty
    cases hd : p.dropWhile (fun m => Text.isBlank m.1) with
    | nil => simp [hd] at hempty
    | cons x xs => simpa [hd] using h

/-- A `#` after blanks makes a comment of a piece, whatever comes after it. -/
theorem isComment_hash {p : List Marked} (h : isBlank (p.map Prod.fst) = true)
    (rest : List Marked) : isComment (p ++ ('#', false) :: rest) = true := by
  unfold isComment
  rw [List.dropWhile_append, dropWhile_eq_nil_of_blank h, if_pos (by rfl),
    List.dropWhile_cons_of_neg (by decide)]
  rfl

/-! ### What the reader makes of a line -/

/-- The reader, in the middle of a piece that begins with what it has read so far. -/
theorem cutFrom_kept (s : List Char) :
    ∀ (quoted : Bool) (read : List Char) (piece : List Marked),
      piece.map Prod.fst = read.reverse → isComment piece = false →
      (quoted = true → isBlank read.reverse = false) →
      ((cutFrom quoted read s).map (·.text)).filter (!isBlank ·)
        = kept ((pieces quoted s).modifyHead (piece ++ ·)) := by
  induction s with
  | nil =>
      intro quoted read piece hpiece hcomment _
      rw [pieces_nil, List.modifyHead_cons, List.append_nil, kept_cons _ hcomment, hpiece, cutFrom]
      simp [kept]
  | cons c s ih =>
      intro quoted read piece hpiece hcomment hquoted
      have hconcat : (c :: read).reverse = (piece ++ [(c, quoted)]).map Prod.fst := by
        simp [hpiece]
      rw [cutFrom]
      by_cases hq : quoted = true
      · subst hq
        rw [if_pos rfl, pieces_grow _ _ (by simp [isCut])]
        have hnext : (true != (c == '"')) = (c != '"') := by simp [bne]
        rw [hnext]
        refine ih _ _ _ hconcat.symm (isComment_concat hcomment (by simp)) ?_
        intro _
        rw [List.reverse_cons, isBlank_append, hquoted rfl, Bool.false_and]
      have hq : quoted = false := by simpa using hq
      subst hq
      rw [if_neg (by simp)]
      by_cases hquote : c = '"'
      · subst hquote
        rw [if_pos (by simp), pieces_grow _ _ (by decide)]
        refine ih _ _ _ hconcat.symm (isComment_concat hcomment (by simp)) ?_
        intro _
        rw [List.reverse_cons, isBlank_append]
        simp [isBlank_eq_all, Text.isBlank]
      rw [if_neg (by simpa using hquote)]
      have hnext : (false != (c == '"')) = false := by simpa using hquote
      by_cases hhash : (c == '#' && isBlank read.reverse) = true
      · obtain ⟨hc, hblank⟩ := Bool.and_eq_true_iff.mp hhash
        obtain rfl : c = '#' := by simpa using hc
        obtain ⟨x, xs, hx⟩ := List.exists_cons_of_ne_nil
          (List.splitOnP_ne_nil isCut (mark (false != ('#' == '"')) s))
        have hx : pieces (false != ('#' == '"')) s = x :: xs := hx
        rw [if_pos hhash, pieces_grow _ _ (by decide), hx, List.modifyHead_cons, List.append_assoc,
          List.singleton_append, kept_cons_comment _ (isComment_hash (by rwa [hpiece]) x)]
        simp [hblank]
      rw [if_neg hhash]
      by_cases hcut : isCut (c, false) = true
      · have hrest := ih false [] [] rfl isComment_nil (by simp)
        rw [modifyHead_nil_append] at hrest
        rw [pieces_split _ _ hcut, hnext, kept_cons _ hcomment, ← hrest, hpiece,
          ← List.filter_append, List.singleton_append]
        simp only [isCut, Bool.not_false, Bool.true_and, Bool.or_eq_true, beq_iff_eq] at hcut
        rcases hcut with (rfl | rfl) | rfl <;> rfl
      · rw [pieces_grow _ _ (by simpa using hcut), hnext]
        simp only [isCut, Bool.not_false, Bool.true_and, Bool.or_eq_true, beq_iff_eq,
          not_or] at hcut
        obtain ⟨⟨hopen, hclose⟩, hend⟩ := hcut
        rw [if_neg (by simpa using hopen), if_neg (by simpa using hend),
          if_neg (by simpa using hclose)]
        refine ih _ _ _ hconcat.symm (isComment_concat hcomment ?_) (by simp)
        intro h
        obtain rfl : c = '#' := congrArg Prod.fst h
        rw [hpiece]
        simpa using hhash

/-- **The pieces of a line are its statements, but for blank ones.** -/
theorem cut_statements (s : List Char) :
    ((cut s).map (·.text)).filter (!isBlank ·) = statements s := by
  rw [cut, cutFrom_kept s false [] [] rfl isComment_nil (by simp), modifyHead_nil_append,
    statements]

end Brace

end DeviceLint
