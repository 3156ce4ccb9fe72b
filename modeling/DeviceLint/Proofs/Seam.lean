/-
A text read in two parts.

Where a text is cut in two between physical lines, its logical lines are those of the
first part followed by those of the second, read on from wherever the first part left off.
Two things go over the cut.  One is whether a block comment is open, and the second part
is read with that in mind.  The other is a statement that has not come to its end, because
the line before the cut ends in the continuation mark or the delimiter of a command has
not been met; then the cut goes through a logical line, and the parts say little about the
whole.

A statement that still waits when its lines run out takes all of them.  So it is cut by
every seam it meets, and a seam that cuts no logical line has no statement waiting at it.
-/
import DeviceLint.Proofs.Line
import DeviceLint.Proofs.Renumber
import DeviceLint.Proofs.Text

namespace DeviceLint

namespace LogicalLine

/-! ### What a statement takes up -/

/-- How many lines after its own a statement takes up. -/
def extra (schema : Schema) (content : List Char) (rest : List (List Char)) : Nat :=
  (start schema 0 [] content rest).last

theorem start_last_eq (schema : Schema) (n : Nat) (line content : List Char)
    (rest : List (List Char)) :
    (start schema n line content rest).last = n + extra schema content rest := by
  simp [extra, start]

theorem extra_le (schema : Schema) (content : List Char) (rest : List (List Char)) :
    extra schema content rest ≤ rest.length := by
  have hlast := (start_last schema 0 [] content rest).2
  rwa [Nat.zero_add] at hlast

/-- Reading one line that starts no statement. -/
theorem gather_skip {schema : Schema} {inside : Bool} {line : List Char}
    (h : isSkipped schema (uncommented schema inside line).1 = true) (n : Nat)
    (rest : List (List Char)) : gather schema inside n (line :: rest)
      = gather schema (uncommented schema inside line).2 (n + 1) rest := by
  rcases hcontent : uncommented schema inside line with ⟨content, inside'⟩
  rw [hcontent] at h
  rw [gather, hcontent]
  dsimp only at h ⊢
  rw [if_pos h]

/-- Reading one statement. -/
theorem gather_start {schema : Schema} {inside : Bool} {line : List Char}
    (h : ¬ isSkipped schema (uncommented schema inside line).1 = true) (n : Nat)
    (rest : List (List Char)) : gather schema inside n (line :: rest)
      = start schema n line (uncommented schema inside line).1 rest ::
        gather schema (uncommented schema inside line).2
          (n + extra schema (uncommented schema inside line).1 rest + 1)
          (rest.drop (extra schema (uncommented schema inside line).1 rest)) := by
  rcases hcontent : uncommented schema inside line with ⟨content, inside'⟩
  rw [hcontent] at h
  rw [gather, hcontent]
  dsimp only at h ⊢
  rw [if_neg h, start_last_eq, Nat.add_sub_cancel_left]

/-- Lines are read as none at all, as one line that starts no statement and the lines after it,
or as one statement and the lines after that. -/
theorem lines_induction (schema : Schema) {motive : Bool → Nat → List (List Char) → Prop}
    (nil : ∀ inside n, motive inside n [])
    (skip : ∀ inside n line rest, isSkipped schema (uncommented schema inside line).1 = true →
      motive (uncommented schema inside line).2 (n + 1) rest → motive inside n (line :: rest))
    (statement : ∀ inside n line rest,
      ¬ isSkipped schema (uncommented schema inside line).1 = true →
      motive (uncommented schema inside line).2
        (n + extra schema (uncommented schema inside line).1 rest + 1)
        (rest.drop (extra schema (uncommented schema inside line).1 rest)) →
      motive inside n (line :: rest))
    (inside : Bool) (n : Nat) (physical : List (List Char)) : motive inside n physical := by
  induction inside, n, physical using gather.induct schema with
  | case1 inside n => exact nil inside n
  | case2 inside n line rest content inside' hcontent hskip ih =>
      refine skip inside n line rest ?_ ?_
      · rw [hcontent]
        exact hskip
      · rw [hcontent]
        exact ih
  | case3 inside n line rest content inside' hcontent hskip l ih =>
      have hl : l.last = n + extra schema content rest := start_last_eq schema n line content rest
      rw [hl, Nat.add_sub_cancel_left] at ih
      refine statement inside n line rest ?_ ?_
      · rw [hcontent]
        exact hskip
      · rw [hcontent]
        exact ih

/-! ### Where lines leave off -/

/-- Whether a statement, joined to the lines after it, still ends in the continuation mark when
they run out. -/
def continues (mark : List Char) (content : List Char) : List (List Char) → Bool
  | [] => (Text.dropEnd? mark (Text.trimEnd content)).isSome
  | next :: rest =>
    match Text.dropEnd? mark (Text.trimEnd content) with
    | none => false
    | some stripped => continues mark (Text.trimEnd stripped ++ ' ' :: Text.trim next) rest

/-- Whether a statement still waits for a continuation when its lines run out. -/
def uncontinued (schema : Schema) (content : List Char) (rest : List (List Char)) : Bool :=
  match schema.continuation with
  | none => false
  | some mark => !mark.isEmpty && continues mark.toList content rest

/-- Whether a delimited command has not met its delimiter when its lines run out. -/
def undelimited (schema : Schema) (content : List Char) (rest : List (List Char)) : Bool :=
  match delimiter? schema (Text.trim content) with
  | none => false
  | some (_, delimiter, after) =>
    !Text.contains after delimiter && rest.all fun l => !Text.contains l delimiter

/-- Whether a statement still waits, for a continuation or for its delimiter, when its lines
run out. -/
def waits (schema : Schema) (content : List Char) (rest : List (List Char)) : Bool :=
  uncontinued schema content rest ||
    undelimited schema (continued schema content rest).1
      (rest.drop (continued schema content rest).2)

/-- Whether a block comment is open after some lines. -/
def endsInside (schema : Schema) (inside : Bool) (physical : List (List Char)) : Bool :=
  match physical with
  | [] => inside
  | line :: rest =>
    let (content, inside) := uncommented schema inside line
    if isSkipped schema content then endsInside schema inside rest
    else endsInside schema inside (rest.drop (extra schema content rest))
termination_by physical.length
decreasing_by all_goals simp only [List.length_drop, List.length_cons]; omega

/-- Whether the last statement of some lines still waits at their end. -/
def endsWaiting (schema : Schema) (inside : Bool) (physical : List (List Char)) : Bool :=
  match physical with
  | [] => false
  | line :: rest =>
    let (content, inside) := uncommented schema inside line
    if isSkipped schema content then endsWaiting schema inside rest
    else
      waits schema content rest || endsWaiting schema inside (rest.drop (extra schema content rest))
termination_by physical.length
decreasing_by all_goals simp only [List.length_drop, List.length_cons]; omega

theorem endsInside_skip {schema : Schema} {inside : Bool} {line : List Char}
    (h : isSkipped schema (uncommented schema inside line).1 = true) (rest : List (List Char)) :
    endsInside schema inside (line :: rest)
      = endsInside schema (uncommented schema inside line).2 rest := by
  rw [endsInside]
  exact if_pos h

theorem endsInside_start {schema : Schema} {inside : Bool} {line : List Char}
    (h : ¬ isSkipped schema (uncommented schema inside line).1 = true) (rest : List (List Char)) :
    endsInside schema inside (line :: rest)
      = endsInside schema (uncommented schema inside line).2
          (rest.drop (extra schema (uncommented schema inside line).1 rest)) := by
  rw [endsInside]
  exact if_neg h

theorem endsWaiting_skip {schema : Schema} {inside : Bool} {line : List Char}
    (h : isSkipped schema (uncommented schema inside line).1 = true) (rest : List (List Char)) :
    endsWaiting schema inside (line :: rest)
      = endsWaiting schema (uncommented schema inside line).2 rest := by
  rw [endsWaiting]
  exact if_pos h

theorem endsWaiting_start {schema : Schema} {inside : Bool} {line : List Char}
    (h : ¬ isSkipped schema (uncommented schema inside line).1 = true) (rest : List (List Char)) :
    endsWaiting schema inside (line :: rest)
      = (waits schema (uncommented schema inside line).1 rest ||
        endsWaiting schema (uncommented schema inside line).2
          (rest.drop (extra schema (uncommented schema inside line).1 rest))) := by
  rw [endsWaiting]
  exact if_neg h

/-! ### More lines after a statement -/

variable {schema : Schema} {inside : Bool} {content : List Char} {rest : List (List Char)}

theorem joinContinued_le (mark : List Char) (rest : List (List Char)) :
    ∀ content, (joinContinued mark content rest).2 ≤ rest.length := by
  induction rest with
  | nil =>
      intro content
      rw [joinContinued]
      split <;> exact Nat.le_refl 0
  | cons next rest ih =>
      intro content
      rw [joinContinued]
      split
      · exact Nat.zero_le _
      · rw [List.length_cons]
        exact Nat.succ_le_succ (ih _)

theorem joinContinued_append {mark : List Char} (more : List (List Char)) :
    ∀ {content}, continues mark content rest = false →
      joinContinued mark content (rest ++ more) = joinContinued mark content rest := by
  induction rest with
  | nil =>
      intro content h
      rw [continues, Option.isSome_eq_false_iff, Option.isNone_iff_eq_none] at h
      cases more <;> simp [joinContinued, h]
  | cons next rest ih =>
      intro content h
      rw [continues] at h
      rw [List.cons_append, joinContinued, joinContinued]
      split
      · rfl
      · rename_i stripped hstripped
        rw [hstripped] at h
        rw [ih h]

/-- A statement that is to be continued takes up the next line, whatever that is. -/
theorem lt_joinContinued {mark : List Char} (next : List Char) (more : List (List Char)) :
    ∀ {content}, continues mark content rest = true →
      rest.length < (joinContinued mark content (rest ++ next :: more)).2 := by
  induction rest with
  | nil =>
      intro content h
      rw [continues, Option.isSome_iff_exists] at h
      obtain ⟨stripped, hstripped⟩ := h
      rw [List.nil_append, joinContinued, hstripped]
      exact Nat.zero_lt_succ _
  | cons line rest ih =>
      intro content h
      rw [continues] at h
      rw [List.cons_append, joinContinued]
      cases hstripped : Text.dropEnd? mark (Text.trimEnd content) with
      | none => simp [hstripped] at h
      | some stripped =>
          rw [hstripped] at h
          exact Nat.succ_lt_succ (ih h)

theorem bodyLength_le (delimiter : List Char) (rest : List (List Char)) :
    bodyLength delimiter rest ≤ rest.length := by
  induction rest with
  | nil => exact Nat.le_refl 0
  | cons l ls ih =>
      rw [bodyLength, List.length_cons]
      split <;> omega

theorem bodyLength_append {delimiter : List Char} (more : List (List Char))
    (h : (rest.all fun l => !Text.contains l delimiter) = false) :
    bodyLength delimiter (rest ++ more) = bodyLength delimiter rest := by
  induction rest with
  | nil => simp at h
  | cons l ls ih =>
      rw [List.cons_append, bodyLength, bodyLength]
      split
      · rfl
      · rename_i hl
        rw [ih]
        simpa [hl] using h

/-- A command whose delimiter has not been met takes up the next line, whatever that is. -/
theorem lt_bodyLength {delimiter : List Char} (next : List Char) (more : List (List Char))
    (h : (rest.all fun l => !Text.contains l delimiter) = true) :
    rest.length < bodyLength delimiter (rest ++ next :: more) := by
  induction rest with
  | nil =>
      rw [List.nil_append, bodyLength]
      split <;> exact Nat.zero_lt_succ _
  | cons l ls ih =>
      rw [List.all_cons, Bool.and_eq_true, Bool.not_eq_true'] at h
      rw [List.cons_append, bodyLength, if_neg (by simp [h.1]), List.length_cons]
      exact Nat.succ_lt_succ (ih h.2)

theorem continued_le (schema : Schema) (content : List Char) (rest : List (List Char)) :
    (continued schema content rest).2 ≤ rest.length := by
  unfold continued
  split
  · exact Nat.zero_le _
  · split
    · exact Nat.zero_le _
    · exact joinContinued_le _ _ _

theorem continued_append (h : uncontinued schema content rest = false)
    (more : List (List Char)) :
    continued schema content (rest ++ more) = continued schema content rest := by
  unfold uncontinued at h
  unfold continued
  cases hmark : schema.continuation with
  | none => rfl
  | some mark =>
      dsimp only
      split
      · rfl
      · rename_i hempty
        rw [hmark] at h
        exact joinContinued_append more (by simpa [hempty] using h)

theorem lt_continued (h : uncontinued schema content rest = true) (next : List Char)
    (more : List (List Char)) :
    rest.length < (continued schema content (rest ++ next :: more)).2 := by
  unfold uncontinued at h
  unfold continued
  cases hmark : schema.continuation with
  | none => simp [hmark] at h
  | some mark =>
      rw [hmark, Bool.and_eq_true, Bool.not_eq_true'] at h
      dsimp only
      rw [if_neg (by simp [h.1])]
      exact lt_joinContinued next more h.2

theorem delimited_le (schema : Schema) (content : List Char) (rest : List (List Char)) :
    delimited schema content rest ≤ rest.length := by
  unfold delimited
  split
  · exact Nat.zero_le _
  · split
    · exact Nat.zero_le _
    · exact bodyLength_le _ _

theorem delimited_append (h : undelimited schema content rest = false)
    (more : List (List Char)) :
    delimited schema content (rest ++ more) = delimited schema content rest := by
  unfold undelimited at h
  unfold delimited
  split
  · rfl
  · rename_i before delimiter after hdelimiter
    split
    · rfl
    · rename_i hafter
      rw [hdelimiter] at h
      exact bodyLength_append more (by simpa [hafter] using h)

theorem lt_delimited (h : undelimited schema content rest = true) (next : List Char)
    (more : List (List Char)) : rest.length < delimited schema content (rest ++ next :: more) := by
  unfold undelimited at h
  unfold delimited
  cases hdelimiter : delimiter? schema (Text.trim content) with
  | none => simp [hdelimiter] at h
  | some found =>
      obtain ⟨before, delimiter, after⟩ := found
      rw [hdelimiter, Bool.and_eq_true, Bool.not_eq_true'] at h
      dsimp only
      rw [if_neg (by simp [h.1])]
      exact lt_bodyLength next more h.2

/-- **A statement that does not wait is the same whatever comes after its lines.** -/
theorem start_append (h : waits schema content rest = false) (n : Nat) (line : List Char)
    (more : List (List Char)) :
    start schema n line content (rest ++ more) = start schema n line content rest := by
  rw [waits, Bool.or_eq_false_iff] at h
  obtain ⟨hcontinued, hdelimited⟩ := h
  have hk := continued_le schema content rest
  have hbody := delimited_le schema (continued schema content rest).1
    (rest.drop (continued schema content rest).2)
  rw [List.length_drop] at hbody
  unfold start
  rw [continued_append hcontinued]
  rcases hjoined : continued schema content rest with ⟨joined, k⟩
  rw [hjoined] at hdelimited hk hbody
  dsimp only at hdelimited hk hbody ⊢
  rw [List.drop_append_of_le_length hk, delimited_append hdelimited]
  have hmore : k + delimited schema joined (rest.drop k) ≤ rest.length := by omega
  rw [List.take_append_of_le_length hmore, List.length_append]
  congr 1
  omega

theorem extra_append (h : waits schema content rest = false) (more : List (List Char)) :
    extra schema content (rest ++ more) = extra schema content rest := by
  rw [extra, start_append h, extra]

/-- A statement that waits takes up the next line, whatever that is. -/
theorem lt_extra (h : waits schema content rest = true) (next : List Char)
    (more : List (List Char)) : rest.length < extra schema content (rest ++ next :: more) := by
  have htotal : ∃ k body, extra schema content (rest ++ next :: more)
        = 0 + min (k + body) (rest ++ next :: more).length ∧
      k = (continued schema content (rest ++ next :: more)).2 ∧
      body = delimited schema (continued schema content (rest ++ next :: more)).1
        ((rest ++ next :: more).drop k) := ⟨_, _, rfl, rfl, rfl⟩
  obtain ⟨k, body, hextra, hk, hbody⟩ := htotal
  have hlength : (rest ++ next :: more).length = rest.length + (more.length + 1) := by
    rw [List.length_append, List.length_cons]
  suffices rest.length < k + body by omega
  cases hcontinued : uncontinued schema content rest with
  | true =>
      have hlt := lt_continued hcontinued next more
      omega
  | false =>
      rw [waits, hcontinued, Bool.false_or] at h
      rw [continued_append hcontinued] at hk hbody
      have hle := continued_le schema content rest
      have hlt := lt_delimited h next more
      rw [hk, List.drop_append_of_le_length hle] at hbody
      rw [List.length_drop] at hlt
      omega

/-! ### The seam -/

/-- **Lines read in two parts are the lines of both.** -/
theorem gather_append (schema : Schema) (inside : Bool) (n : Nat) (physical more : List (List Char))
    (h : endsWaiting schema inside physical = false) :
    gather schema inside n (physical ++ more) = gather schema inside n physical ++
      gather schema (endsInside schema inside physical) (n + physical.length) more := by
  induction inside, n, physical using lines_induction schema with
  | nil inside n => simp [gather, endsInside]
  | skip inside n line rest hskip ih =>
      rw [endsWaiting_skip hskip] at h
      rw [List.cons_append, gather_skip hskip, gather_skip hskip, endsInside_skip hskip, ih h,
        List.length_cons, Nat.add_right_comm, Nat.add_assoc]
  | statement inside n line rest hskip ih =>
      rw [endsWaiting_start hskip, Bool.or_eq_false_iff] at h
      obtain ⟨hwaits, hrest⟩ := h
      have hle := extra_le schema (uncommented schema inside line).1 rest
      rw [List.cons_append, gather_start hskip, gather_start hskip, endsInside_start hskip,
        start_append hwaits, extra_append hwaits, List.drop_append_of_le_length hle, ih hrest,
        List.cons_append, List.length_drop, List.length_cons]
      congr 3
      omega

/-- A statement that waits at a seam is cut by it. -/
theorem exists_cut (schema : Schema) (inside : Bool) (n : Nat) (physical : List (List Char))
    (next : List Char) (more : List (List Char))
    (h : endsWaiting schema inside physical = true) :
    ∃ l ∈ gather schema inside n (physical ++ next :: more),
      l.first < n + physical.length ∧ n + physical.length ≤ l.last := by
  induction inside, n, physical using lines_induction schema with
  | nil inside n => simp [endsWaiting] at h
  | skip inside n line rest hskip ih =>
      rw [endsWaiting_skip hskip] at h
      obtain ⟨l, hl, hfirst, hlast⟩ := ih h
      rw [List.cons_append, gather_skip hskip, List.length_cons]
      exact ⟨l, hl, by omega, by omega⟩
  | statement inside n line rest hskip ih =>
      rw [endsWaiting_start hskip, Bool.or_eq_true] at h
      rw [List.cons_append, gather_start hskip, List.length_cons]
      cases hwaits : waits schema (uncommented schema inside line).1 rest with
      | true =>
          have hlt := lt_extra hwaits next more
          refine ⟨_, List.mem_cons_self, ?_, ?_⟩
          · rw [start_first]
            omega
          · rw [start_last_eq]
            omega
      | false =>
          have hle := extra_le schema (uncommented schema inside line).1 rest
          obtain ⟨l, hl, hfirst, hlast⟩ := ih (by simpa [hwaits] using h)
          rw [List.length_drop] at hfirst hlast
          rw [extra_append hwaits, List.drop_append_of_le_length hle]
          exact ⟨l, List.mem_cons_of_mem _ hl, by omega, by omega⟩

/-- Where the first line has a greater number, so have all. -/
theorem gather_shift (schema : Schema) (inside : Bool) (n k : Nat)
    (physical : List (List Char)) : gather schema inside (n + k) physical
      = (gather schema inside n physical).map (renumber (· + k)) := by
  induction inside, n, physical using lines_induction schema with
  | nil inside n => simp [gather]
  | skip inside n line rest hskip ih =>
      rw [gather_skip hskip, gather_skip hskip, Nat.add_right_comm, ih]
  | statement inside n line rest hskip ih =>
      have hstart : start schema (n + k) line (uncommented schema inside line).1 rest
          = (start schema n line (uncommented schema inside line).1 rest).renumber (· + k) := by
        simp only [start, renumber, Nat.add_right_comm]
      rw [gather_start hskip, gather_start hskip, List.map_cons, hstart, ← ih]
      congr 2
      omega

/-! ### Block comments -/

theorem length_after_lt {opener closer s before rest between after : List Char}
    (hopener : opener ≠ []) (hopen : Text.splitAt? opener s = some (before, rest))
    (hclose : Text.splitAt? closer rest = some (between, after)) : after.length < s.length := by
  have hrest := Text.length_after_splitAt? hopener hopen
  have hafter := congrArg List.length (Text.splitAt?_eq_some hclose)
  simp only [List.length_append] at hafter
  omega

theorem uncommented_of_none (h : schema.blockComment = none) (inside : Bool) (line : List Char) :
    uncommented schema inside line = (line, inside) := by
  rw [uncommented, h]

/-- Reading one statement in a dialect without block comments. -/
theorem gather_start_of_none (h : schema.blockComment = none) {line : List Char}
    (hskip : ¬ isSkipped schema line = true) (inside : Bool) (n : Nat) (rest : List (List Char)) :
    gather schema inside n (line :: rest)
      = start schema n line line rest ::
        gather schema inside (n + extra schema line rest + 1)
          (rest.drop (extra schema line rest)) := by
  have hline := uncommented_of_none h inside line
  have hskip : ¬ isSkipped schema (uncommented schema inside line).1 = true := by rwa [hline]
  rw [gather_start hskip, hline]

/-- A dialect without block comments never gets inside one. -/
theorem endsInside_of_none (h : schema.blockComment = none) (inside : Bool)
    (physical : List (List Char)) : endsInside schema inside physical = inside := by
  induction inside, (0 : Nat), physical using lines_induction schema with
  | nil inside n => rw [endsInside]
  | skip inside n line rest hskip ih => rw [endsInside_skip hskip, ih, uncommented_of_none h]
  | statement inside n line rest hskip ih =>
      rw [endsInside_start hskip, ih, uncommented_of_none h]

theorem gather_append_of_none (h : schema.blockComment = none) {above : List (List Char)}
    (hseam : endsWaiting schema inside above = false) (n : Nat) (below : List (List Char)) :
    gather schema inside n (above ++ below)
      = gather schema inside n above ++ gather schema inside (n + above.length) below := by
  rw [gather_append schema inside n above below hseam, endsInside_of_none h]

/-- A line outside block comments that opens none is read as it stands. -/
theorem uncommented_eq {schema : Schema} {line : List Char}
    (h : ∀ d, schema.blockComment = some d → Text.contains line d.opener.toList = false) :
    uncommented schema false line = (line, false) := by
  unfold uncommented
  cases hcomment : schema.blockComment with
  | none => rfl
  | some d =>
      have hnone : Text.splitAt? d.opener.toList line = none := by
        simpa [Text.contains] using h d hcomment
      simp only [stripComments, Bool.false_eq_true, if_false]
      rw [outsideComments, hnone]

/-! ### Dialects whose statements stay on one physical line -/

theorem waits_single (h : schema.IsSingleLine) (content : List Char) (rest : List (List Char)) :
    waits schema content rest = false := by
  have hcontinued : uncontinued schema content rest = false := by
    unfold uncontinued
    cases hmark : schema.continuation with
    | none => rfl
    | some mark =>
        obtain rfl : mark = "" := by simpa [hmark] using h.1
        rfl
  have hnone : ∀ s, delimiter? schema s = none := by simp [delimiter?, h.2]
  rw [waits, hcontinued, undelimited, hnone]
  rfl

theorem endsWaiting_single (h : schema.IsSingleLine) (inside : Bool)
    (physical : List (List Char)) : endsWaiting schema inside physical = false := by
  induction inside, (0 : Nat), physical using lines_induction schema with
  | nil inside n => rw [endsWaiting]
  | skip inside n line rest hskip ih => rw [endsWaiting_skip hskip, ih]
  | statement inside n line rest hskip ih =>
      rw [endsWaiting_start hskip, waits_single h, ih, Bool.or_false]

/-- In such a dialect a statement does not hang on the lines after its own. -/
theorem start_single_eq (h : schema.IsSingleLine) (n : Nat) (line content : List Char)
    (rest : List (List Char)) :
    start schema n line content rest = start schema n line content [] := by
  unfold start
  simp only [continued_unmarked h.1, delimited_single h, Nat.zero_min, Nat.add_zero, List.take_zero]

/-- In such a dialect lines are read one by one. -/
theorem gather_cons_single (h : schema.IsSingleLine) (inside : Bool) (n : Nat) (line : List Char)
    (rest : List (List Char)) :
    let (content, inside') := uncommented schema inside line
    gather schema inside n (line :: rest)
      = (if isSkipped schema content then [] else [start schema n line content []]) ++
        gather schema inside' (n + 1) rest := by
  dsimp only
  split
  · rename_i hskip
    rw [gather_skip hskip, List.nil_append]
  · rename_i hskip
    have hextra : extra schema (uncommented schema inside line).1 rest = 0 :=
      start_single h 0 [] _ rest
    rw [gather_start hskip, hextra, start_single_eq h, List.drop_zero, Nat.add_zero,
      List.singleton_append]

/-- A physical line that is a statement as it stands. -/
def single (schema : Schema) (n : Nat) (line : List Char) : LogicalLine where
  text := line
  raw := line
  first := n
  last := n
  indent := indentWidth schema.tabWidth line

theorem start_eq_single (h : schema.IsSingleLine) (n : Nat) (line : List Char)
    (rest : List (List Char)) : start schema n line line rest = single schema n line := by
  unfold start
  rw [continued_unmarked h.1]
  dsimp only
  rw [delimited_single h]
  simp [single, Text.unlines, List.intercalate]

/-- A line without block comments is read as it stands. -/
theorem gather_single (h : schema.IsSingleLine) {line : List Char}
    (hline : uncommented schema false line = (line, false)) (n : Nat) (rest : List (List Char)) :
    gather schema false n (line :: rest)
      = (if isSkipped schema line then [] else [single schema n line]) ++
        gather schema false (n + 1) rest := by
  have hgather := gather_cons_single h false n line rest
  rw [hline] at hgather
  rw [hgather, start_eq_single h]

end LogicalLine

end DeviceLint
