/-
Places in a text, counted in bytes.

The characters of a text take up from one byte to four each, so not every number of bytes is
a place between two characters.  A part of a text is told by the bytes it begins and ends at;
if these are not such places, are not in the text, or are in the wrong order, there is none.
-/
import DeviceLint.Text.Blank

namespace DeviceLint.Text

/-- How many bytes a text takes up. -/
def byteSize (s : List Char) : Nat := (String.ofList s).utf8ByteSize

/-- Two numbers of bytes that have no part of the text between them. -/
structure BadRange where
  text : String
  first : Nat
  last : Nat
  deriving DecidableEq, Repr

/-- The part of a text from one byte up to another. -/
def slice (s : String) (first last : Nat) : Except BadRange String :=
  if h : (String.Pos.Raw.IsValid s ⟨first⟩ ∧ String.Pos.Raw.IsValid s ⟨last⟩) ∧ first ≤ last then
    .ok (s.slice (s.pos ⟨first⟩ h.1.1) (s.pos ⟨last⟩ h.1.2) h.2).copy
  else .error ⟨s, first, last⟩

/-- The bytes at which word number `n` begins and ends.  The text is gone through from byte
`offset` on, after `passed` words, and within the word that begins at `start` if there is one. -/
def wordRange? (n passed : Nat) (start : Option Nat) (offset : Nat) :
    List Char → Option (Nat × Nat)
  | [] =>
    match start with
    | none => none
    | some first => if passed = n then some (first, offset) else none
  | c :: s =>
    match start with
    | none =>
      if isBlank c then wordRange? n passed none (offset + c.utf8Size) s
      else wordRange? n passed (some offset) (offset + c.utf8Size) s
    | some first =>
      if !isBlank c then wordRange? n passed (some first) (offset + c.utf8Size) s
      else if passed = n then some (first, offset)
      else wordRange? n (passed + 1) none (offset + c.utf8Size) s

/-- The byte at which word number `n` begins and the word, if there are so many words. -/
def nthWord (n : Nat) (s : String) : Except BadRange (Option (Nat × String)) :=
  match wordRange? n 0 none 0 s.toList with
  | none => .ok none
  | some (first, last) => (slice s first last).map fun word => some (first, word)

end DeviceLint.Text
