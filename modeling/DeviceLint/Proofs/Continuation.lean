/-
Statements that are broken over several lines.

Where a dialect has a continuation mark, a statement may be broken at its spaces: a line ends
in the mark, and the next line goes on with the statement.  What stands there around the mark
and before the next piece is blank, and one space comes to stand for all of it.  So a reader
has the statement before it as if it had not been broken, with the indentation of its first
line, and the indentation of the others is lost.

A text is compared to the one in which the statement stands unbroken.  That text is shorter, so
each line that was saved is made up for by a blank one, which is skipped; then what follows
stands on the same lines in both.  Several statements are broken one after the other, from the
top of the text.  It is at the broken statements that both texts are known to have come to the
end of what stands above, so the induction over the text carries along the lines since the
last of them.
-/
import DeviceLint.Proofs.Coverage
import DeviceLint.Proofs.Starts
import DeviceLint.Schema.Builtin

namespace DeviceLint

/-- A dialect whose statements go on over lines that end in a mark, and over no others. -/
structure Schema.Continues (s : Schema) (mark : List Char) : Prop where
  continuation : s.continuation = some (String.ofList mark)
  mark_word : Text.IsWord mark
  no_block_comments : s.blockComment = none
  no_delimited_commands : s.delimitedCommands = []

/-- Where a statement is broken, and the piece after it. -/
structure Break (mark : List Char) where
  /-- What stands between the piece before and the mark. -/
  gap : List Char
  /-- What stands behind the mark. -/
  trail : List Char
  /-- What stands before the next piece. -/
  margin : List Char
  piece : List Char
  /-- The line to make up for the one that is saved by not breaking the statement. -/
  filler : List Char
  gap_blank : ∀ c ∈ gap, Text.isBlank c = true
  trail_blank : ∀ c ∈ trail, Text.isBlank c = true
  margin_blank : ∀ c ∈ margin, Text.isBlank c = true
  filler_blank : ∀ c ∈ filler, Text.isBlank c = true
  piece_ne_nil : piece ≠ []
  piece_trimmed : Text.Trimmed piece
  piece_unmarked : ¬ mark <:+ piece

namespace Break

variable {mark : List Char}

/-- A line that is broken off. -/
def endOff (k : Break mark) (line : List Char) : List Char := line ++ k.gap ++ mark ++ k.trail

/-- A statement and the pieces that are still to come, with single spaces between them. -/
def joined : List Char → List (Break mark) → List Char
  | s, [] => s
  | s, k :: ks => joined (s ++ ' ' :: k.piece) ks

/-- The same on lines of their own. -/
def physical : List Char → List (Break mark) → List (List Char)
  | line, [] => [line]
  | line, k :: ks => k.endOff line :: physical (k.margin ++ k.piece) ks

end Break

/-- A line that is broken at least once. -/
structure BrokenLine (schema : Schema) (mark : List Char) where
  /-- The first piece, with the indentation of the line. -/
  head : List Char
  first : Break mark
  more : List (Break mark)
  head_ne_nil : head ≠ []
  head_trimmed : ∀ c ∈ head.getLast?, Text.isBlank c = false
  no_comment : schema.isComment (Text.trim (first.endOff head)) = false

namespace BrokenLine

variable {schema : Schema} {mark : List Char}

def breaks (s : BrokenLine schema mark) : List (Break mark) := s.first :: s.more

/-- The line before it is broken. -/
def joined (s : BrokenLine schema mark) : List Char := Break.joined s.head s.breaks

/-- The physical lines that come of it. -/
def physical (s : BrokenLine schema mark) : List (List Char) := Break.physical s.head s.breaks

end BrokenLine

/-- A line of a text, which may be one that is to be broken. -/
inductive Part (schema : Schema) (mark : List Char) where
  | line (l : List Char)
  | broken (s : BrokenLine schema mark)

namespace Part

variable {schema : Schema} {mark : List Char}

/-- The line as it is at first. -/
def whole : Part schema mark → List (List Char)
  | line l => [l]
  | broken s => [s.joined]

/-- The line, broken if it is to be. -/
def split : Part schema mark → List (List Char)
  | line l => [l]
  | broken s => s.physical

/-- The line, with blank lines instead of breaks. -/
def padded : Part schema mark → List (List Char)
  | line l => [l]
  | broken s => s.joined :: s.breaks.map Break.filler

end Part

/-! ### Joining -/

namespace LogicalLine

open Text

variable {schema : Schema} {mark : List Char}

theorem joinContinued_unmarked {content : List Char} (h : ¬ mark <:+ trimEnd content)
    (rest : List (List Char)) : joinContinued mark content rest = (content, 0) := by
  cases rest <;> simp only [joinContinued, dropEnd?_eq_none h]

theorem getLast?_piece (k : Break mark) (s : List Char) :
    ∀ c ∈ (s ++ ' ' :: k.piece).getLast?, isBlank c = false := by
  rw [List.append_cons, List.getLast?_append_of_ne_nil _ k.piece_ne_nil]
  exact k.piece_trimmed.last

/-- A statement that ends in a piece is not continued. -/
theorem joinContinued_piece (hmark : IsWord mark) (k : Break mark) (s : List Char)
    (rest : List (List Char)) :
    joinContinued mark (s ++ ' ' :: k.piece) rest = (s ++ ' ' :: k.piece, 0) := by
  refine joinContinued_unmarked ?_ rest
  rw [trimEnd, dropEnd_eq_self (getLast?_piece k s)]
  exact fun hsuffix => k.piece_unmarked (hmark.suffix_of_suffix_append (by decide) hsuffix)

theorem joinContinued_joined (hmark : IsWord mark) (rest : List (List Char))
    (ks : List (Break mark)) : ∀ (s : List Char) (k : Break mark),
      joinContinued mark (Break.joined s (k :: ks)) rest = (Break.joined s (k :: ks), 0) := by
  induction ks with
  | nil => exact fun s k => joinContinued_piece hmark k s rest
  | cons k' ks ih => exact fun s k => ih (s ++ ' ' :: k.piece) k'

/-- A piece that is broken off is joined without the blanks that surround it. -/
theorem trim_endOff (hmark : IsWord mark) (k next : Break mark) :
    trim (next.endOff (k.margin ++ k.piece)) = k.piece ++ next.gap ++ mark := by
  have htrimmed : Trimmed (k.piece ++ next.gap ++ mark) := by
    constructor
    · obtain ⟨c, cs, hpiece⟩ := List.exists_cons_of_ne_nil k.piece_ne_nil
      have hhead := k.piece_trimmed.head
      rw [hpiece] at hhead ⊢
      exact hhead
    · exact hmark.getLast?_append _
  have hpadded := htrimmed.trim_padded (by simp [hmark.1]) k.margin_blank next.trail_blank
  rw [← hpadded, Break.endOff]
  simp only [List.append_assoc]

/-- **Pieces are joined to the statement they were broken off from.** -/
theorem joinContinued_physical (hmark : IsWord mark) (below : List (List Char))
    (ks : List (Break mark)) : ∀ (s content : List Char) (k : Break mark),
      (∀ c ∈ s.getLast?, isBlank c = false) → trimEnd content = s ++ k.gap ++ mark →
      joinContinued mark content (Break.physical (k.margin ++ k.piece) ks ++ below)
        = (Break.joined s (k :: ks), ks.length + 1) := by
  induction ks with
  | nil =>
      intro s content k hs hcontent
      have hnext : trim (k.margin ++ k.piece) = k.piece := by
        simpa using k.piece_trimmed.trim_padded k.piece_ne_nil k.margin_blank
          (List.forall_mem_nil _)
      rw [Break.physical, List.singleton_append, joinContinued, hcontent, dropEnd?_append]
      dsimp only
      rw [trimEnd_append hs k.gap_blank, hnext, joinContinued_piece hmark]
      rfl
  | cons next ks ih =>
      intro s content k hs hcontent
      -- What has been joined so far is the statement that the rest is joined to.
      have hgrown : trimEnd (s ++ ' ' :: (k.piece ++ next.gap ++ mark))
          = (s ++ ' ' :: k.piece) ++ next.gap ++ mark := by
        rw [← List.cons_append, ← List.append_assoc, ← List.cons_append, ← List.append_assoc,
          trimEnd, dropEnd_eq_self (hmark.getLast?_append _)]
      rw [Break.physical, List.cons_append, joinContinued, hcontent, dropEnd?_append]
      dsimp only
      rw [trimEnd_append hs k.gap_blank, trim_endOff hmark,
        ih _ _ next (getLast?_piece k s) hgrown]
      rfl

/-! ### One statement -/

/-- A statement that is continued, but for its source text and its last line. -/
theorem start_continued (h : schema.Continues mark) {line joined : List Char}
    {rest : List (List Char)} {k : Nat} (hjoin : joinContinued mark line rest = (joined, k))
    (n : Nat) :
    (start schema n line line rest).eraseExtent = (single schema n joined).eraseExtent ∧
      extra schema line rest = k := by
  have hle := joinContinued_le mark rest line
  have hcontinued : continued schema line rest = (joined, k) := by
    rw [continued, h.continuation]
    simpa [h.mark_word.1] using hjoin
  have hdelimited : ∀ content rest, delimited schema content rest = 0 := by
    intro content rest
    simp [delimited, delimiter?, h.no_delimited_commands]
  rw [hjoin] at hle
  rw [extra]
  unfold start
  rw [hcontinued]
  dsimp only
  rw [hdelimited, Nat.add_zero, Nat.zero_add, Nat.min_eq_left hle]
  exact ⟨rfl, rfl⟩

variable {n : Nat} {below : List (List Char)}

theorem gather_continued (h : schema.Continues mark) {line joined : List Char}
    {rest : List (List Char)} {k : Nat} (hskip : ¬ isSkipped schema line = true)
    (hjoin : joinContinued mark line rest = (joined, k)) :
    (gather schema false n (line :: rest)).map eraseExtent
      = (single schema n joined).eraseExtent ::
        (gather schema false (n + k + 1) (rest.drop k)).map eraseExtent := by
  obtain ⟨hstart, hextra⟩ := start_continued h hjoin n
  rw [gather_start_of_none h.no_block_comments hskip, List.map_cons, hstart, hextra]

/-- Blank lines are skipped. -/
theorem gather_blanks (h : schema.blockComment = none) {blanks : List (List Char)}
    (hblanks : ∀ line ∈ blanks, ∀ c ∈ line, isBlank c = true) :
    ∀ n, gather schema false n (blanks ++ below)
      = gather schema false (n + blanks.length) below := by
  induction blanks with
  | nil => intro n; rfl
  | cons line blanks ih =>
      intro n
      rw [List.forall_mem_cons] at hblanks
      have huncommented := uncommented_of_none h false line
      have hskip : isSkipped schema line = true := by
        rw [isSkipped, trim_eq_nil_iff.mpr hblanks.1]
        rfl
      rw [List.cons_append, gather_skip (by rwa [huncommented]), huncommented, ih hblanks.2,
        List.length_cons, Nat.add_right_comm, Nat.add_assoc]

end LogicalLine

namespace BrokenLine

open LogicalLine

variable {schema : Schema} {mark : List Char} {n : Nat} {below : List (List Char)}

theorem length_physical (line : List Char) (ks : List (Break mark)) :
    (Break.physical line ks).length = ks.length + 1 := by
  induction ks generalizing line with
  | nil => rfl
  | cons k ks ih => rw [Break.physical, List.length_cons, ih, List.length_cons]

/-- The first of the physical lines starts a statement. -/
theorem not_isSkipped (s : BrokenLine schema mark) :
    ¬ isSkipped schema (s.first.endOff s.head) = true := by
  have hnotBlank : ¬ ∀ c ∈ s.first.endOff s.head, Text.isBlank c = true := by
    intro hblank
    have hmem : s.head.getLast s.head_ne_nil ∈ s.first.endOff s.head := by
      simp [Break.endOff, List.getLast_mem]
    have hlast := s.head_trimmed _ (List.getLast?_eq_some_getLast s.head_ne_nil)
    rw [hblank _ hmem] at hlast
    cases hlast
  rw [isSkipped, s.no_comment, Bool.or_false, List.isEmpty_iff, Text.trim_eq_nil_iff]
  exact hnotBlank

/-- The physical lines make one statement, which is the line before it was broken. -/
theorem gather_physical (h : schema.Continues mark) (s : BrokenLine schema mark) :
    (gather schema false n (s.physical ++ below)).map eraseExtent
      = (single schema n s.joined).eraseExtent ::
        (gather schema false (n + s.breaks.length + 1) below).map eraseExtent := by
  have hend : Text.trimEnd (s.first.endOff s.head) = s.head ++ s.first.gap ++ mark :=
    Text.trimEnd_append (h.mark_word.getLast?_append _) s.first.trail_blank
  have hjoin := joinContinued_physical h.mark_word below s.more s.head _ s.first s.head_trimmed hend
  have hdrop : (Break.physical (s.first.margin ++ s.first.piece) s.more ++ below).drop
      s.breaks.length = below := by
    rw [breaks, List.length_cons, ← length_physical, List.drop_left]
  have hgather := gather_continued (n := n) h s.not_isSkipped hjoin
  rwa [← List.length_cons, ← breaks, hdrop] at hgather

theorem gather_joined (h : schema.Continues mark) (s : BrokenLine schema mark)
    (hskip : ¬ isSkipped schema s.joined = true) :
    (gather schema false n (s.joined :: below)).map eraseExtent
      = (single schema n s.joined).eraseExtent ::
        (gather schema false (n + 1) below).map eraseExtent :=
  gather_continued h hskip (joinContinued_joined h.mark_word below s.more s.head s.first)

/-- So does that line with the blank lines after it. -/
theorem gather_padded (h : schema.Continues mark) (s : BrokenLine schema mark)
    (hskip : ¬ isSkipped schema s.joined = true) :
    (gather schema false n (Part.padded (.broken s) ++ below)).map eraseExtent
      = (single schema n s.joined).eraseExtent ::
        (gather schema false (n + s.breaks.length + 1) below).map eraseExtent := by
  have hfillers : ∀ line ∈ s.breaks.map Break.filler,
      ∀ c ∈ line, Text.isBlank c = true := by
    intro line hline
    obtain ⟨k, -, rfl⟩ := List.mem_map.mp hline
    exact k.filler_blank
  rw [Part.padded, List.cons_append, gather_joined h s hskip,
    gather_blanks h.no_block_comments hfillers, List.length_map, Nat.add_right_comm n]

end BrokenLine

/-! ### All statements of a text -/

namespace Part

open LogicalLine

variable {schema : Schema} {mark : List Char}

/-- Whether a statement starts at each line that is to be broken, in the text that consists of
some lines and then of the parts. -/
def ArePlaced (n : Nat) (above : List (List Char)) (parts : List (Part schema mark)) : Prop :=
  ∀ before s after, parts = before ++ .broken s :: after →
    ∃ l ∈ gather schema false n (above ++ parts.flatMap whole),
      l.first = n + (above ++ before.flatMap whole).length

variable {n : Nat} {above : List (List Char)} {parts : List (Part schema mark)}

theorem ArePlaced.line {l : List Char} (h : ArePlaced n above (.line l :: parts)) :
    ArePlaced n (above ++ [l]) parts := by
  intro before s after hparts
  have hplaced := h (.line l :: before) s after (congrArg (Part.line l :: ·) hparts)
  simpa [List.flatMap_cons, whole] using hplaced

/-- What stands above a line that is to be broken has come to its end there, and so has the
line itself once it has been read. -/
theorem ArePlaced.broken (h : schema.Continues mark) {s : BrokenLine schema mark}
    (hplaced : ArePlaced n above (.broken s :: parts)) :
    endsWaiting schema false above = false ∧ ¬ isSkipped schema s.joined = true ∧
      ArePlaced (n + above.length + 1) [] parts := by
  obtain ⟨l, hl, hfirst⟩ := hplaced [] s parts rfl
  rw [List.flatMap_nil, List.append_nil] at hfirst
  obtain ⟨hseam, hskip⟩ := not_isSkipped_of_first hl hfirst
  rw [endsInside_of_none h.no_block_comments, uncommented_of_none h.no_block_comments] at hskip
  refine ⟨hseam, hskip, fun before t after hparts => ?_⟩
  obtain ⟨l, hl, hfirst⟩ := hplaced (.broken s :: before) t after (congrArg (_ :: ·) hparts)
  simp only [List.flatMap_cons, whole, List.singleton_append, List.length_append,
    List.length_cons] at hl hfirst
  have hextra := (start_continued h
    (joinContinued_joined h.mark_word (parts.flatMap whole) s.more s.head s.first) 0).2
  rw [gather_append_of_none h.no_block_comments hseam,
    gather_start_of_none h.no_block_comments hskip, List.mem_append, List.mem_cons] at hl
  -- What stands above the line and the line itself start too early.
  rcases hl with hl | rfl | hl
  · have hbounds := (gather_ordered schema false n above).bounds l hl
    omega
  · rw [start_first] at hfirst
    omega
  · refine ⟨l, ?_, by rw [hfirst, List.nil_append]; omega⟩
    rw [show extra schema s.joined (parts.flatMap whole) = 0 from hextra] at hl
    exact hl

/-- The broken lines and the padded ones come to the same statements. -/
theorem gather_parts (h : schema.Continues mark) (parts : List (Part schema mark)) :
    ∀ (n m : Nat) (above : List (List Char)), ArePlaced n above parts →
      (gather schema false m (above ++ parts.flatMap split)).map eraseExtent
        = (gather schema false m (above ++ parts.flatMap padded)).map eraseExtent := by
  induction parts with
  | nil => exact fun _ _ _ _ => rfl
  | cons part parts ih =>
      intro n m above hplaced
      cases part with
      | line l =>
          have hrest := ih n m (above ++ [l]) hplaced.line
          simpa only [List.flatMap_cons, split, padded, List.append_assoc] using hrest
      | broken s =>
          obtain ⟨hseam, hskip, hrest⟩ := hplaced.broken h
          have hbelow := ih _ (m + above.length + s.breaks.length + 1) [] hrest
          rw [List.nil_append, List.nil_append] at hbelow
          have happend := gather_append_of_none h.no_block_comments hseam m
          rw [List.flatMap_cons, List.flatMap_cons, happend, happend, List.map_append,
            List.map_append, BrokenLine.gather_padded h s hskip, split,
            BrokenLine.gather_physical h s, hbelow]

end Part

/--
**A statement may be broken over lines.**

Let some lines of a text be broken, each at one or more of its single spaces, with whatever
blanks around the mark and before what follows.  A statement has to start at each of these
lines, and what is broken off first must not have become a comment.  Then the tree is that of
the text in which these lines stay whole, with a blank line after them for each break: there
are the same nodes with the same ids, parameters and kinds, in each other as before and
starting at the same lines.
-/
theorem parse_split {schema : Schema} {mark : List Char} (h : schema.Continues mark)
    {parts : List (Part schema mark)} {whole split padded : String}
    (hwhole : Text.lines whole.toList = parts.flatMap Part.whole)
    (hsplit : Text.lines split.toList = parts.flatMap Part.split)
    (hpadded : Text.lines padded.toList = parts.flatMap Part.padded)
    (hplaced : ∀ above s below, parts = above ++ .broken s :: below →
      ∃ l ∈ LogicalLine.ofText schema whole, l.first = (above.flatMap Part.whole).length + 1) :
    (parse schema split).map Node.eraseExtent = (parse schema padded).map Node.eraseExtent := by
  have hplaced : Part.ArePlaced 1 [] parts := by
    intro above s below hparts
    obtain ⟨l, hl, hfirst⟩ := hplaced above s below hparts
    rw [LogicalLine.ofText, hwhole] at hl
    exact ⟨l, hl, hfirst.trans (Nat.add_comm _ _)⟩
  rw [parse, parse]
  refine treeOf_eraseExtent schema ?_
  rw [LogicalLine.ofText, LogicalLine.ofText, hsplit, hpadded]
  exact Part.gather_parts h parts 1 1 [] hplaced

/-- A list of VLANs that is broken twice. -/
def vlanIds : BrokenLine Schema.cumulusLinux ['\\'] where
  head := "    bridge-vids 10".toList
  first :=
    { gap := [' '], trail := [], margin := "        ".toList, piece := "20".toList, filler := []
      gap_blank := by simp [Text.isBlank], trail_blank := by simp
      margin_blank := by simp [Text.isBlank], filler_blank := by simp
      piece_ne_nil := by decide, piece_unmarked := by decide
      piece_trimmed := ⟨by simp [Text.isBlank], by simp [Text.isBlank]⟩ }
  more := [
    { gap := [], trail := [' '], margin := [], piece := "30".toList, filler := ['\t']
      gap_blank := by simp, trail_blank := by simp [Text.isBlank]
      margin_blank := by simp, filler_blank := by simp [Text.isBlank]
      piece_ne_nil := by decide, piece_unmarked := by decide
      piece_trimmed := ⟨by simp [Text.isBlank], by simp [Text.isBlank]⟩ }]
  head_ne_nil := by decide
  head_trimmed := by simp [Text.isBlank]
  no_comment := by decide

/-- A bridge with that list. -/
theorem parse_split_vlanIds :
    let split := "iface br0\n    bridge-vids 10 \\\n        20\\ \n30\n    mtu 9216\n"
    let padded := "iface br0\n    bridge-vids 10 20 30\n\n\t\n    mtu 9216\n"
    (parse Schema.cumulusLinux split).map Node.eraseExtent
        = (parse Schema.cumulusLinux padded).map Node.eraseExtent ∧
      (parse Schema.cumulusLinux split).walk.map (fun n => (n.id, n.span)) =
        [("iface br0", ⟨1, 5⟩), ("bridge-vids 10 20 30", ⟨2, 4⟩), ("mtu 9216", ⟨5, 5⟩)] := by
  intro split padded
  let whole := "iface br0\n    bridge-vids 10 20 30\n    mtu 9216\n"
  let parts := [.line "iface br0".toList, Part.broken vlanIds, .line "    mtu 9216".toList]
  have hcontinues : Schema.cumulusLinux.Continues ['\\'] :=
    ⟨rfl, Text.isWord_singleton (by decide), rfl, rfl⟩
  have hwhole : Text.lines whole.toList = parts.flatMap Part.whole := by decide
  have hsplit : Text.lines split.toList = parts.flatMap Part.split := by decide
  have hpadded : Text.lines padded.toList = parts.flatMap Part.padded := by decide
  refine ⟨parse_split hcontinues hwhole hsplit hpadded ?_, by decide +kernel⟩
  intro above s below hparts
  dsimp only [parts] at hparts
  -- Only the second line is one that is to be broken.
  rcases above with _ | ⟨_, _ | ⟨_, _ | ⟨_, above⟩⟩⟩
  · cases hparts
  · cases hparts
    decide +kernel
  · cases hparts
  · simp at hparts

end DeviceLint
