/-
Regular expressions and the texts they are found in.

Matching goes by remainders.  The remainders of an expression after a character are the
expressions that what follows has to match, so a search keeps the set of remainders of
all attempts and never returns to a character.  An expression may ask where it stands, at
the end of a line or of a word; that is settled by the characters on either side, so
both of them are known wherever a remainder or the empty text is asked about.

Which of several matches there are would be preferred is not modelled: a search only
tells whether there is one.
-/
import DeviceLint.Regex.CharSet

namespace DeviceLint

/-- A condition on the place between two characters. -/
inductive Place where
  | textStart
  | textEnd
  /-- After a line feed. -/
  | lineStart
  /-- Before a line feed. -/
  | lineEnd
  /-- After a line end that may be a line feed, a carriage return or both. -/
  | mixedLineStart
  /-- Before such a line end. -/
  | mixedLineEnd
  /-- Between a character in the set and one that is not. -/
  | boundary (word : CharSet)
  | notBoundary (word : CharSet)
  /-- Not in the set before and in the set after. -/
  | wordStart (word : CharSet)
  | wordEnd (word : CharSet)
  /-- Not in the set before. -/
  | halfStart (word : CharSet)
  /-- Not in the set after. -/
  | halfEnd (word : CharSet)
  deriving DecidableEq, Repr

namespace Place

/-- Whether the condition holds between two characters, of which either may be missing. -/
def holds (p : Place) (before after : Option Char) : Bool :=
  let inside (word : CharSet) (c : Option Char) : Bool := c.any word.contains
  match p with
  | textStart => before.isNone
  | textEnd => after.isNone
  | lineStart => before.isNone || before == some '\n'
  | lineEnd => after.isNone || after == some '\n'
  | mixedLineStart =>
    before.isNone || before == some '\n' || (before == some '\r' && after != some '\n')
  | mixedLineEnd =>
    after.isNone || after == some '\r' || (after == some '\n' && before != some '\r')
  | boundary word => inside word before != inside word after
  | notBoundary word => inside word before == inside word after
  | wordStart word => !inside word before && inside word after
  | wordEnd word => inside word before && !inside word after
  | halfStart word => !inside word before
  | halfEnd word => !inside word after

end Place

inductive Regex where
  | empty
  /-- One character of a set. -/
  | one (set : CharSet)
  /-- Nothing, at a place. -/
  | place (p : Place)
  | seq (a b : Regex)
  | alt (a b : Regex)
  /-- At least and at most so many times; without a limit if there is none. -/
  | times (a : Regex) (least : Nat) (most : Option Nat)
  deriving DecidableEq, Repr

namespace Regex

/-- One expression and then another. -/
def followedBy : Regex → Regex → Regex
  | empty, b => b
  | a, b => seq a b

/-- Whether an expression matches the empty text between two characters. -/
def matchesEmpty (before after : Option Char) : Regex → Bool
  | empty => true
  | one _ => false
  | place p => p.holds before after
  | seq a b => matchesEmpty before after a && matchesEmpty before after b
  | alt a b => matchesEmpty before after a || matchesEmpty before after b
  | times a least _ => least == 0 || matchesEmpty before after a

/-- What is left to match after a character.  A repetition whose body matches nothing where it
stands has no least number any more: the ones that are due may all be empty. -/
def remainders (before : Option Char) (c : Char) : Regex → List Regex
  | empty => []
  | one set => if set.contains c then [empty] else []
  | place _ => []
  | seq a b =>
    (remainders before c a).map (·.followedBy b) ++
      if matchesEmpty before (some c) a then remainders before c b else []
  | alt a b => remainders before c a ++ remainders before c b
  | times a least most =>
    if most == some 0 then []
    else
      let least := if matchesEmpty before (some c) a then 0 else least - 1
      (remainders before c a).map (·.followedBy (times a least (most.map (· - 1))))

/-- Whether one of `open_`, or `r` from here on or later, matches a beginning of the text. -/
def search (r : Regex) (open_ : List Regex) (before : Option Char) : List Char → Bool
  | [] => (open_.insert r).any (matchesEmpty before none)
  | c :: s =>
    let open_ := open_.insert r
    open_.any (matchesEmpty before (some c)) ||
      search r (open_.flatMap (remainders before c)).eraseDups (some c) s

/-- Whether an expression matches somewhere in a text. -/
def isFoundIn (r : Regex) (s : String) : Bool := search r [] none s.toList

end Regex

end DeviceLint
