/-
Delimiters by their bytes.

The delimiter of a command begins one of its words, and what follows the delimiter is cut out
of the command.  Both can be done by numbers of bytes: the text is gone through character by
character, and the bytes are noted at which a word begins and ends.  Such numbers are always
those of a part of the text, since the text is that part between what is before it and after
it.  So nothing is cut out of range or within a character, and what comes of it is what comes
of cutting the text itself.
-/
import DeviceLint.Proofs.Places
import DeviceLint.Schema.Builtin
import DeviceLint.Text.Bytes

namespace DeviceLint

namespace Text

/-! ### Parts of a text -/

theorem byteSize_nil : byteSize [] = 0 := by
  simp [byteSize]

theorem byteSize_append (s t : List Char) : byteSize (s ++ t) = byteSize s + byteSize t := by
  simp [byteSize, String.ofList_append, String.utf8ByteSize_append]

theorem byteSize_cons (c : Char) (s : List Char) :
    byteSize (c :: s) = c.utf8Size + byteSize s := by
  rw [← List.singleton_append, byteSize_append, byteSize, ← String.singleton_eq_ofList,
    String.utf8ByteSize_singleton]

/-- The bytes of a text end between two characters of every text that begins with it. -/
theorem isValid_byteSize (s t : List Char) :
    String.Pos.Raw.IsValid (String.ofList (s ++ t)) ⟨byteSize s⟩ :=
  String.Pos.Raw.isValid_iff_exists_append.mpr
    ⟨String.ofList s, String.ofList t, String.ofList_append, rfl⟩

/-- A part of a text is found by the bytes before it and its own. -/
theorem slice_eq (before part after : List Char) :
    slice (String.ofList (before ++ part ++ after)) (byteSize before) (byteSize (before ++ part))
      = .ok (String.ofList part) := by
  have hfirst : String.Pos.Raw.IsValid (String.ofList (before ++ part ++ after))
      ⟨byteSize before⟩ := by
    rw [List.append_assoc]
    exact isValid_byteSize before (part ++ after)
  have hlast := isValid_byteSize (before ++ part) after
  have hle : byteSize before ≤ byteSize (before ++ part) := by
    rw [byteSize_append]
    exact Nat.le_add_right ..
  have hcut : ((String.ofList (before ++ part ++ after)).pos _ hfirst).Splits
      (String.ofList before) (String.ofList part ++ String.ofList after) :=
    ⟨by rw [← String.ofList_append, ← String.ofList_append, List.append_assoc], rfl⟩
  have hcut' : ((String.ofList (before ++ part ++ after)).pos _ hlast).Splits
      (String.ofList before ++ String.ofList part) (String.ofList after) :=
    ⟨by rw [← String.ofList_append, ← String.ofList_append],
      by rw [← String.ofList_append]; rfl⟩
  obtain ⟨hle', hcopy⟩ := String.copy_slice_eq_iff_splits.mpr ⟨_, _, hcut, hcut'⟩
  rw [slice, dif_pos ⟨⟨hfirst, hlast⟩, hle⟩, hcopy]

/-! ### Words -/

variable {n passed first offset : Nat} {s gap w rest : List Char}

theorem wordRange?_gap (h : ∀ c ∈ gap, isBlank c = true) (s : List Char) :
    ∀ offset, wordRange? n passed none offset (gap ++ s)
      = wordRange? n passed none (offset + byteSize gap) s := by
  induction gap with
  | nil => intro offset; rw [List.nil_append, byteSize_nil, Nat.add_zero]
  | cons c gap ih =>
      intro offset
      rw [List.forall_mem_cons] at h
      rw [List.cons_append, wordRange?, if_pos h.1, byteSize_cons, ← Nat.add_assoc, ← ih h.2]

theorem wordRange?_inner (h : ∀ c ∈ w, isBlank c = false) (s : List Char) :
    ∀ offset, wordRange? n passed (some first) offset (w ++ s)
      = wordRange? n passed (some first) (offset + byteSize w) s := by
  induction w with
  | nil => intro offset; rw [List.nil_append, byteSize_nil, Nat.add_zero]
  | cons c w ih =>
      intro offset
      rw [List.forall_mem_cons] at h
      rw [List.cons_append, wordRange?, if_pos (by simp [h.1]), byteSize_cons, ← Nat.add_assoc,
        ← ih h.2]

/-- A word is over before a blank and at the end of the text. -/
theorem wordRange?_ended (h : ∀ c ∈ rest.head?, isBlank c = true) :
    wordRange? n passed (some first) offset rest
      = if passed = n then some (first, offset)
        else wordRange? n (passed + 1) none offset rest := by
  cases rest with
  | nil => simp [wordRange?]
  | cons c rest => simp [wordRange?, h c rfl]

theorem wordRange?_first (h : FirstWord gap w rest) :
    wordRange? n passed none offset (gap ++ w ++ rest)
      = if passed = n then some (offset + byteSize gap, offset + byteSize (gap ++ w))
        else wordRange? n (passed + 1) none (offset + byteSize (gap ++ w)) rest := by
  obtain ⟨hgap, hw, hended⟩ := h
  obtain ⟨c, w, rfl⟩ := List.exists_cons_of_ne_nil hw.1
  have hword := List.forall_mem_cons.mp hw.2
  rw [List.append_assoc, wordRange?_gap hgap, List.cons_append, wordRange?,
    if_neg (by simp [hword.1]), wordRange?_inner hword.2, wordRange?_ended hended,
    byteSize_append, byteSize_cons, Nat.add_assoc, Nat.add_assoc]

/-- The bytes of a word, where the text is cut before it. -/
theorem wordRange?_eq : wordRange? (passed + n) passed none offset s
    = (LogicalLine.cutAtWord? n s).map fun (before, tail) =>
      (offset + byteSize before,
        offset + byteSize (before ++ tail.takeWhile fun c => !isBlank c)) := by
  induction s using word_induction generalizing n passed offset with
  | blank s h =>
      have hnone : wordRange? (passed + n) passed none offset (s ++ []) = none :=
        wordRange?_gap h [] offset
      rw [List.append_nil] at hnone
      rw [hnone, LogicalLine.cutAtWord?_blank h]
      rfl
  | word gap w rest h ih =>
      rw [wordRange?_first h]
      cases n with
      | zero =>
          rw [if_pos (Nat.add_zero passed).symm, LogicalLine.cutAtWord?_first h]
          dsimp only [Option.map_some]
          rw [h.takeWhile_word]
      | succ n =>
          have hpassed : passed + (n + 1) = passed + 1 + n := by omega
          rw [if_neg (by omega), hpassed, ih, LogicalLine.cutAtWord?_next h, Option.map_map]
          refine congrArg (Option.map · _) (funext fun found => ?_)
          simp only [Function.comp_apply, byteSize_append, Nat.add_assoc]

/-- A word, and the byte at which it begins, where the text is cut before it. -/
theorem nthWord_eq (n : Nat) (s : List Char) : nthWord n (String.ofList s)
    = .ok ((LogicalLine.cutAtWord? n s).map fun (before, tail) =>
      (byteSize before, String.ofList (tail.takeWhile fun c => !isBlank c))) := by
  have hrange : wordRange? (0 + n) 0 none 0 s = _ := wordRange?_eq
  rw [Nat.zero_add] at hrange
  rw [nthWord, String.toList_ofList, hrange]
  cases hcut : LogicalLine.cutAtWord? n s with
  | none => rfl
  | some found =>
      obtain ⟨before, tail⟩ := found
      obtain ⟨w, after, rfl, hstands⟩ := LogicalLine.exists_stands hcut
      dsimp only [Option.map_some]
      rw [hstands.takeWhile_word, Nat.zero_add, Nat.zero_add, hstands.text, slice_eq]
      rfl

end Text

namespace LogicalLine

open Text

/-! ### Delimiters -/

/-- The byte at which the delimiter of a delimited command begins, and the delimiter. -/
def delimiterAt (schema : Schema) (statement : String) :
    Except BadRange (Option (Nat × String)) :=
  match schema.delimitedCommands.find? fun c => Selector.matchesId c statement with
  | none => .ok none
  | some command => do
    let found ← nthWord ((words command.toList).length + 1) statement
    return found.map fun (offset, word) => (offset, String.ofList (delimiterOf word.toList))

/-- How many lines belong to the body of a delimited command, of which the text after the
delimiter is cut out by its bytes. -/
def delimitedAt (schema : Schema) (content : List Char) (rest : List (List Char)) :
    Except BadRange Nat := do
  let statement := String.ofList (trim content)
  match ← delimiterAt schema statement with
  | none => return 0
  | some (offset, delimiter) =>
    let after ← slice statement (offset + delimiter.utf8ByteSize) statement.utf8ByteSize
    return if contains after.toList delimiter.toList then 0 else bodyLength delimiter.toList rest

theorem delimiterAt_eq (schema : Schema) (s : List Char) : delimiterAt schema (String.ofList s)
    = .ok ((delimiter? schema s).map fun (before, delimiter, _) =>
      (byteSize before, String.ofList delimiter)) := by
  unfold delimiterAt delimiter?
  cases hcommand : schema.delimitedCommands.find?
      fun c => Selector.matchesId c (String.ofList s) with
  | none => rfl
  | some command =>
      dsimp only
      rw [nthWord_eq]
      cases hcut : cutAtWord? ((words command.toList).length + 1) s with
      | none => simp [hcut, bind, Except.bind, pure, Except.pure]
      | some found => simp [hcut, bind, Except.bind, pure, Except.pure]

theorem byteSize_delimiter (before delimiter : List Char) :
    byteSize before + (String.ofList delimiter).utf8ByteSize = byteSize (before ++ delimiter) :=
  (byteSize_append before delimiter).symm

theorem delimitedAt_eq (schema : Schema) (content : List Char) (rest : List (List Char)) :
    delimitedAt schema content rest = .ok (delimited schema content rest) := by
  rw [delimitedAt, delimited, delimiterAt_eq]
  cases hdelimiter : delimiter? schema (trim content) with
  | none => rfl
  | some found =>
      obtain ⟨before, delimiter, after⟩ := found
      obtain ⟨htext, -⟩ := delimiter?_text hdelimiter
      have hslice := slice_eq (before ++ delimiter) after []
      rw [List.append_nil, ← htext] at hslice
      have hsize : (String.ofList (trim content)).utf8ByteSize = byteSize (trim content) := rfl
      dsimp only [Option.map_some, bind, Except.bind]
      rw [byteSize_delimiter, hsize, hslice]
      simp [pure, Except.pure]

/--
**A delimiter is found by its bytes, and nothing is cut within a character.**

A word of a text is found, with the byte at which it begins, if there are so many words.  So is
the delimiter of a command that has one: it is not empty, it is the part of the command from
that byte on, and it ends between two characters or at the end.  Hence what is after it can be
cut out by bytes, whatever the command is, and the body of the command has the lines that it has
without any bytes.
-/
theorem delimited_sliced (schema : Schema) :
    (∀ (n : Nat) (s : String),
      (nthWord n s = .ok none ↔ (words s.toList).length ≤ n) ∧
      (n < (words s.toList).length → ∃ before w after,
        Stands n s.toList before w after ∧ (words s.toList)[n]? = some w ∧
          nthWord n s = .ok (some (byteSize before, String.ofList w)))) ∧
    (∀ statement : String,
      delimiterAt schema statement = .ok ((delimiter? schema statement.toList).map
        fun (before, delimiter, _) => (byteSize before, String.ofList delimiter)) ∧
      ∀ offset delimiter, delimiterAt schema statement = .ok (some (offset, delimiter)) →
        delimiter ≠ "" ∧
        slice statement offset (offset + delimiter.utf8ByteSize) = .ok delimiter ∧
        String.Pos.Raw.IsValid statement ⟨offset + delimiter.utf8ByteSize⟩) ∧
    ∀ content rest, delimitedAt schema content rest = .ok (delimited schema content rest) := by
  refine ⟨fun n s => ?_, fun statement => ?_, delimitedAt_eq schema⟩
  · obtain ⟨s, rfl⟩ := s.exists_eq_ofList
    rw [nthWord_eq, String.toList_ofList]
    constructor
    · rw [← cutAtWord?_eq_none_iff]
      simp
    · intro hn
      cases hcut : cutAtWord? n s with
      | none => exact absurd (cutAtWord?_eq_none_iff.mp hcut) (by omega)
      | some found =>
          obtain ⟨before, tail⟩ := found
          obtain ⟨w, after, rfl, hstands⟩ := exists_stands hcut
          refine ⟨before, w, after, hstands, hstands.getElem?, ?_⟩
          dsimp only [Option.map_some]
          rw [hstands.takeWhile_word]
  · obtain ⟨s, rfl⟩ := statement.exists_eq_ofList
    rw [delimiterAt_eq, String.toList_ofList]
    refine ⟨rfl, fun offset delimiter hfound => ?_⟩
    obtain ⟨⟨before, delimiter, after⟩, hdelimiter, heq⟩ :=
      Option.map_eq_some_iff.mp (Except.ok.inj hfound)
    obtain ⟨rfl, rfl⟩ := Prod.mk.inj heq
    obtain ⟨rfl, hword⟩ := delimiter?_text hdelimiter
    rw [byteSize_delimiter]
    exact ⟨by simpa using hword.1, slice_eq before delimiter after,
      isValid_byteSize (before ++ delimiter) after⟩

/-- A banner with a blank of three bytes before its delimiter, which has two itself. -/
theorem delimited_sliced_paragraph :
    let statement := "banner\u2003motd §Grüße"
    let rest := ["übrigens".toList, "Ende §".toList, "hostname r1".toList]
    2 < (words statement.toList).length ∧
      (∃ before after, Stands 2 statement.toList before "§Grüße".toList after ∧
        byteSize before = 14) ∧
      delimiterAt Schema.ciscoIos statement = .ok (some (14, "§")) ∧
      slice statement 14 16 = .ok "§" ∧ slice statement 14 15 = .error ⟨statement, 14, 15⟩ ∧
      String.Pos.Raw.IsValid statement ⟨16⟩ ∧
      delimitedAt Schema.ciscoIos statement.toList rest = .ok 2 := by
  intro statement rest
  have hcount : 2 < (words statement.toList).length := by decide +kernel
  have hword : nthWord 2 statement = .ok (some (14, "§Grüße")) := by decide +kernel
  have hfound : delimiterAt Schema.ciscoIos statement = .ok (some (14, "§")) := by
    decide +kernel
  have hbody : delimited Schema.ciscoIos statement.toList rest = 2 := by decide +kernel
  obtain ⟨hwords, hstatements, hbodies⟩ := delimited_sliced Schema.ciscoIos
  obtain ⟨before, w, after, hstands, -, hplace⟩ := (hwords 2 statement).2 hcount
  obtain ⟨-, hslice, hvalid⟩ := (hstatements statement).2 14 "§" hfound
  rw [hword] at hplace
  obtain ⟨hoffset, hw⟩ := Prod.mk.inj (Option.some.inj (Except.ok.inj hplace))
  obtain rfl : "§Grüße".toList = w := by rw [hw, String.toList_ofList]
  have hbounds : slice statement 14 15 = .error ⟨statement, 14, 15⟩ := by decide +kernel
  exact ⟨hcount, ⟨before, after, hstands, hoffset.symm⟩, hfound, hslice, hbounds, hvalid,
    hbody ▸ hbodies statement.toList rest⟩

end LogicalLine

end DeviceLint
