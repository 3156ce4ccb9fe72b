/-
Tokens, with quotes and without.

A token is written between quotes of either kind, or as it stands if it is a word in which the
reader would see no quotes.  When it has been read, quotes or not, it is over where the next
blank or the end of the text is.  So a written token is read back before any text that does not
begin in the middle of a word, and a text of several tokens is read back one by one.

A selector without quotes is looked for among the words of an id, but parameters are the tokens
of it.  The words that the selector matches have no quotes either and are tokens as they stand.
So the parameters begin with them, and the first that follows is what the command is given,
however that is quoted.
-/
import DeviceLint.Proofs.LowerCase
import DeviceLint.Proofs.Selection

namespace DeviceLint

namespace Statement

/-- How a token is written: between quotes, or as it stands. -/
inductive Quoting where
  | quotes (mark : Char)
  | bare
  deriving DecidableEq, Repr

namespace Quoting

def write : Quoting → List Char → List Char
  | quotes mark, token => mark :: (token ++ [mark])
  | bare, token => token

/-- Whether a token can be written that way.  An apostrophe within a word is no quote. -/
def Allows : Quoting → List Char → Prop
  | quotes mark, token => (mark = '"' ∨ mark = '\'') ∧ mark ∉ token
  | bare, token => Text.IsWord token ∧ '"' ∉ token ∧ token.head? ≠ some '\''

end Quoting

/-- A token as it is written in a text, with the blanks before it. -/
structure Spelled where
  gap : List Char
  quoting : Quoting
  token : List Char
  gap_blank : ∀ c ∈ gap, Text.isBlank c = true := by simp [Text.isBlank]
  allowed : quoting.Allows token := by simp [Quoting.Allows, Text.IsWord, Text.isBlank]

def Spelled.text (s : Spelled) : List Char := s.gap ++ s.quoting.write s.token

/-! ### Reading one token -/

theorem not_quote_of_blank {c : Char} (h : Text.isBlank c = true) : c ≠ '"' ∧ c ≠ '\'' := by
  constructor
  · rintro rfl
    exact absurd h (by decide)
  · rintro rfl
    exact absurd h (by decide)

theorem tokens_blank_cons {c : Char} (h : Text.isBlank c = true) (s : List Char) :
    tokens (c :: s) = tokens s := by
  obtain ⟨hdouble, hsingle⟩ := not_quote_of_blank h
  simp [tokens, tokensFrom, Reading.step, hdouble, hsingle, h]

theorem tokens_blanks {gap : List Char} (h : ∀ c ∈ gap, Text.isBlank c = true) (s : List Char) :
    tokens (gap ++ s) = tokens s := by
  induction gap with
  | nil => rfl
  | cons c gap ih =>
      rw [List.forall_mem_cons] at h
      rw [List.cons_append, tokens_blank_cons h.1, ih h.2]

/-- Between quotes everything is read up to the next quote of the same kind. -/
theorem tokensFrom_quoted {mark : Char} {token : List Char} (h : mark ∉ token)
    (rest : List Char) : ∀ read, tokensFrom (.quoted mark read) (token ++ mark :: rest)
      = tokensFrom (.bare (token.reverse ++ read)) rest := by
  induction token with
  | nil => intro read; simp [tokensFrom, Reading.step]
  | cons c token ih =>
      intro read
      obtain ⟨hne, hrest⟩ := not_or.mp (List.mem_cons.not.mp h)
      have hstep : (Reading.quoted mark read).step c = (.quoted mark (c :: read), none) :=
        if_neg (by simpa using Ne.symm hne)
      rw [List.cons_append, tokensFrom, hstep, List.reverse_cons, List.append_assoc]
      exact ih hrest (c :: read)

theorem tokensFrom_bare {token : List Char} (hword : ∀ c ∈ token, Text.isBlank c = false)
    (hquote : '"' ∉ token) (rest : List Char) : ∀ read,
      tokensFrom (.bare read) (token ++ rest)
        = tokensFrom (.bare (token.reverse ++ read)) rest := by
  induction token with
  | nil => intro read; rfl
  | cons c token ih =>
      intro read
      rw [List.forall_mem_cons] at hword
      obtain ⟨hne, hrest⟩ := not_or.mp (List.mem_cons.not.mp hquote)
      have hstep : (Reading.bare read).step c = (.bare (c :: read), none) := by
        simp [Reading.step, Ne.symm hne, hword.1]
      rw [List.cons_append, tokensFrom, hstep, List.reverse_cons, List.append_assoc]
      exact ih hword.2 hrest (c :: read)

/-- A token is over before a blank and at the end of the text. -/
theorem tokensFrom_bare_ended {rest : List Char}
    (h : ∀ c ∈ rest.head?, Text.isBlank c = true) (read : List Char) :
    tokensFrom (.bare read) rest = read.reverse :: tokens rest := by
  cases rest with
  | nil => rfl
  | cons c rest =>
      have hblank := h c rfl
      rw [tokens_blank_cons hblank]
      simp [tokensFrom, Reading.step, not_quote_of_blank hblank, hblank, tokens]

/-- **A written token is read back, in quotes or bare.** -/
theorem tokens_write {q : Quoting} {token rest : List Char} (h : q.Allows token)
    (hrest : ∀ c ∈ rest.head?, Text.isBlank c = true) :
    tokens (q.write token ++ rest) = token :: tokens rest := by
  cases q with
  | quotes mark =>
      obtain ⟨hmark, htoken⟩ := h
      have hstep : Reading.between.step mark = (.quoted mark [], none) :=
        if_pos (by simpa using hmark)
      rw [Quoting.write, List.cons_append, List.append_assoc, List.singleton_append, tokens,
        tokensFrom, hstep]
      dsimp only [Option.toList_none]
      rw [List.nil_append, tokensFrom_quoted htoken, tokensFrom_bare_ended hrest,
        List.append_nil, List.reverse_reverse]
  | bare =>
      obtain ⟨⟨hne, hword⟩, hquote, hhead⟩ := h
      obtain ⟨c, token, rfl⟩ := List.exists_cons_of_ne_nil hne
      rw [List.forall_mem_cons] at hword
      obtain ⟨hdouble, hquote⟩ := not_or.mp (List.mem_cons.not.mp hquote)
      have hsingle : c ≠ '\'' := by simpa using hhead
      have hstep : Reading.between.step c = (.bare [c], none) := by
        simp [Reading.step, Ne.symm hdouble, hsingle, hword.1]
      rw [Quoting.write, List.cons_append, tokens, tokensFrom, hstep]
      dsimp only [Option.toList_none]
      rw [List.nil_append, tokensFrom_bare hword.2 hquote, tokensFrom_bare_ended hrest,
        List.reverse_append, List.reverse_reverse, List.reverse_singleton, List.singleton_append]

/-! ### Reading several tokens -/

/-- What follows a token does not begin in the middle of a word. -/
theorem blank_head_spelled {ss : List Spelled} (hgaps : ∀ s ∈ ss, s.gap ≠ []) {after : List Char}
    (hafter : ∀ c ∈ after, Text.isBlank c = true) :
    ∀ c ∈ (ss.flatMap Spelled.text ++ after).head?, Text.isBlank c = true := by
  cases ss with
  | nil => exact fun c hc => hafter c (List.mem_of_mem_head? hc)
  | cons s ss =>
      obtain ⟨b, gap, hgap⟩ := List.exists_cons_of_ne_nil (hgaps s List.mem_cons_self)
      have hblank : Text.isBlank b = true := s.gap_blank b (by simp [hgap])
      simpa [Spelled.text, hgap] using hblank

/--
**The tokens of a text are those that were written into it.**

Each of them may be written in double quotes or in single ones if it does not contain the quote,
and as it stands if it is not empty, has no blanks and no double quotes in it and does not begin
with an apostrophe.  There have to be blanks between them, and there may be some around.
-/
theorem tokens_spelled {ss : List Spelled} (hgaps : ∀ s ∈ ss.tail, s.gap ≠ []) {after : List Char}
    (hafter : ∀ c ∈ after, Text.isBlank c = true) :
    tokens (ss.flatMap Spelled.text ++ after) = ss.map Spelled.token := by
  induction ss with
  | nil =>
      rw [List.flatMap_nil, List.nil_append, ← List.append_nil after, tokens_blanks hafter]
      rfl
  | cons s ss ih =>
      rw [List.tail_cons] at hgaps
      have hrest := ih fun s hs => hgaps s (List.mem_of_mem_tail hs)
      rw [List.flatMap_cons, List.append_assoc, Spelled.text, List.append_assoc,
        tokens_blanks s.gap_blank, tokens_write s.allowed (blank_head_spelled hgaps hafter), hrest,
        List.map_cons]

/-- A command with arguments in all three ways, the last one empty, and blanks of many kinds. -/
def greeting : List Spelled := [
  { gap := ['\u00a0'], quoting := .bare, token := "banner".toList },
  { gap := [' ', ' '], quoting := .quotes '"', token := "it's r1".toList },
  { gap := [' ', '\t'], quoting := .quotes '\'', token := "say \"hi\"".toList },
  { gap := ['\u2003'], quoting := .bare, token := "don't".toList },
  { gap := ['\u3000'], quoting := .quotes '\'', token := [] }]

theorem tokens_spelled_greeting :
    let text := "\u00a0banner  \"it's r1\" \t'say \"hi\"'\u2003don't\u3000''\r".toList
    (∀ s ∈ greeting.tail, s.gap ≠ []) ∧ (∀ c ∈ ['\r'], Text.isBlank c = true) ∧
      greeting.flatMap Spelled.text ++ ['\r'] = text ∧
      tokens text
        = ["banner".toList, "it's r1".toList, "say \"hi\"".toList, "don't".toList, []] := by
  intro text
  have hgaps : ∀ s ∈ greeting.tail, s.gap ≠ [] := by decide
  have hafter : ∀ c ∈ ['\r'], Text.isBlank c = true := by simp [Text.isBlank]
  have htext : greeting.flatMap Spelled.text ++ ['\r'] = text := by decide
  have htokens := tokens_spelled hgaps hafter
  rw [htext] at htokens
  exact ⟨hgaps, hafter, htext, htokens⟩

/-! ### Words without quotes -/

/-- Words without quotes are the first tokens of a text that begins with them. -/
theorem tokens_unwords_append {us : List (List Char)} (h : ∀ u ∈ us, Quoting.bare.Allows u)
    (vs : List (List Char)) :
    tokens (Text.unwords (us ++ vs)) = us ++ tokens (Text.unwords vs) := by
  induction us with
  | nil => rfl
  | cons u us ih =>
      rw [List.forall_mem_cons] at h
      have hrest := ih h.2
      rw [List.cons_append]
      cases hwords : us ++ vs with
      | nil =>
          obtain ⟨rfl, rfl⟩ := List.append_eq_nil_iff.mp hwords
          have htoken : tokens (Quoting.bare.write u ++ []) = u :: tokens [] :=
            tokens_write h.1 (by simp)
          rw [Quoting.write, List.append_nil] at htoken
          rw [Text.unwords_singleton, htoken]
          rfl
      | cons w ws =>
          have hspace : Text.isBlank ' ' = true := by decide
          have htoken : tokens (Quoting.bare.write u ++ ' ' :: Text.unwords (w :: ws))
              = u :: tokens (' ' :: Text.unwords (w :: ws)) :=
            tokens_write h.1 (by simp [hspace])
          rw [Quoting.write, tokens_blank_cons hspace, ← hwords, hrest] at htoken
          rw [Text.unwords_cons_cons, ← hwords, htoken, List.cons_append]

end Statement

/-! ### Parameters -/

/-- A character that is no letter is in none of some words if it is not in those that are the same
but for letter case. -/
theorem Text.SameWords.not_mem {us vs : List (List Char)} (h : SameWords us vs) {c : Char}
    (hc : ∀ n < 0x80, ((Char.ofNat n).toLower == c) = (Char.ofNat n == c))
    (hvs : ∀ v ∈ vs, c ∉ v) : ∀ u ∈ us, c ∉ u := by
  intro u hu hmem
  have hfold : u.map Char.toLower ∈ vs.map (·.map Char.toLower) := by
    rw [← sameWords_iff.mp h]
    exact List.mem_map_of_mem hu
  obtain ⟨v, hv, heq⟩ := List.mem_map.mp hfold
  rw [← mem_map_toLower_iff hc, ← heq, mem_map_toLower_iff hc] at hmem
  exact hvs v hv hmem

namespace Node

/-- The id of a statement is made of words, and a selector that matches it matches the first. -/
theorem exists_words_of_isMatch {kind : NodeKind} {statement : List Char} {raw : String}
    {span : Span} {selector : String}
    (h : (ofStatement kind statement raw span).isMatch selector = true) :
    ∃ command arguments, Statement.normalize statement = Text.unwords (command ++ arguments) ∧
      (∀ w ∈ command ++ arguments, Text.IsWord w) ∧
      Text.SameWords command (Text.words selector.toList) := by
  obtain ⟨ws, hword, hid⟩ : ∃ ws, (∀ w ∈ ws, Text.IsWord w) ∧
      Statement.normalize statement = Text.unwords ws :=
    ⟨_, Text.isWord_of_mem_words _, rfl⟩
  rw [isMatch, Selector.matchesId, Bool.and_eq_true, ofStatement, String.toList_ofList, hid,
    Text.words_unwords hword] at h
  obtain ⟨command, arguments, rfl, hcommand⟩ := Selector.exists_append_of_leads h.2
  exact ⟨command, arguments, hid, hword, hcommand⟩

/--
**The parameters of a node begin with the words that a selector has matched.**

The selector has no quotes in it and matches the node of a statement.  Then there is a parameter
for each of its words, in the order of these and the same but for the case of ASCII letters.  What
follows are the tokens of the rest of the id, whatever quotes there are in it.
-/
theorem params_of_isMatch {kind : NodeKind} {statement : List Char} {raw : String} {span : Span}
    {selector : String} (hplain : ∀ w ∈ Text.words selector.toList, '"' ∉ w ∧ '\'' ∉ w)
    (hmatch : (ofStatement kind statement raw span).isMatch selector = true) :
    let n := ofStatement kind statement raw span
    let wanted := Text.words selector.toList
    wanted.length ≤ n.params.length ∧
      (∀ i (hi : i < wanted.length), ∃ p, n.param? i = some p ∧
        Text.eqIgnoreAsciiCase p.toList wanted[i] = true) ∧
      ∃ command arguments, Text.words n.id.toList = command ++ arguments ∧
        Text.SameWords command wanted ∧
        n.params = (command ++ Statement.tokens (Text.unwords arguments)).map String.ofList ∧
        n.param? wanted.length
          = (Statement.tokens (Text.unwords arguments)).head?.map String.ofList := by
  intro n wanted
  obtain ⟨command, arguments, hid, hword, hcommand⟩ := exists_words_of_isMatch hmatch
  have hdouble := hcommand.not_mem (by decide +kernel) fun w hw => (hplain w hw).1
  have hsingle := hcommand.not_mem (by decide +kernel) fun w hw => (hplain w hw).2
  have hbare : ∀ u ∈ command, Statement.Quoting.bare.Allows u := fun u hu =>
    ⟨hword u (List.mem_append_left _ hu), hdouble u hu,
      fun hhead => hsingle u hu (List.mem_of_head? hhead)⟩
  have hwords : Text.words n.id.toList = command ++ arguments := by
    rw [show n.id.toList = Statement.normalize statement from String.toList_ofList, hid,
      Text.words_unwords hword]
  have hparams : n.params
      = (command ++ Statement.tokens (Text.unwords arguments)).map String.ofList := by
    rw [← Statement.tokens_unwords_append hbare, ← hid]
    rfl
  have hlength : command.length = wanted.length := hcommand.length_eq
  refine ⟨?_, ?_, command, arguments, hwords, hcommand, hparams, ?_⟩
  · rw [hparams, List.length_map, List.length_append]
    omega
  · intro i hi
    have hi' : i < command.length := by omega
    refine ⟨String.ofList command[i], ?_, ?_⟩
    · rw [param?, hparams, List.getElem?_map, List.getElem?_append_left hi',
        List.getElem?_eq_getElem hi', Option.map_some]
    · rw [String.toList_ofList]
      exact hcommand.get hi' hi
  · rw [param?, hparams, List.getElem?_map, List.getElem?_append_right (Nat.le_of_eq hlength),
      hlength, Nat.sub_self, List.head?_eq_getElem?]

/-- A community whose name is in quotes, and so is what comes after it. -/
theorem params_of_isMatch_community :
    let n := leaf "SNMP-Server  community \"pub lic\" 'RO".toList "" ⟨1, 1⟩
    (∀ w ∈ Text.words "snmp-server community".toList, '"' ∉ w ∧ '\'' ∉ w) ∧
      n.isMatch "snmp-server community" = true ∧
      n.params = ["SNMP-Server", "community", "pub lic", "RO"] ∧ 2 ≤ n.params.length ∧
      (∃ p, n.param? 0 = some p ∧
        Text.eqIgnoreAsciiCase p.toList "snmp-server".toList = true) ∧
      n.param? 2 = some "pub lic" := by
  intro n
  have hplain : ∀ w ∈ Text.words "snmp-server community".toList, '"' ∉ w ∧ '\'' ∉ w := by
    decide +kernel
  have hmatch : n.isMatch "snmp-server community" = true := by decide +kernel
  have hwords : Text.words "snmp-server community".toList
      = ["snmp-server".toList, "community".toList] := by
    decide +kernel
  obtain ⟨hlength, hparams, -⟩ := params_of_isMatch hplain hmatch
  have hfirst := hparams 0 (by decide +kernel)
  simp only [hwords, List.getElem_cons_zero] at hfirst
  exact ⟨hplain, hmatch, by decide +kernel, hlength, hfirst, by decide +kernel⟩

end Node

end DeviceLint
