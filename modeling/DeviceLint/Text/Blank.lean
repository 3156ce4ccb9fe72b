/-
White space and the words it separates.

A character is blank when it has the Unicode property White_Space, and a word is a
longest run of characters that are not.  `trim`, `words` and `collapse` all cut at
blanks and nowhere else, so `words (collapse s) = words s` and neither `trim` nor
`collapse` ever touches the inside of a word.
-/

namespace DeviceLint.Text

/-- The characters with the Unicode property White_Space. -/
def isBlank (c : Char) : Bool :=
  let n := c.toNat
  (0x09 ≤ n && n ≤ 0x0D) || n == 0x20 || n == 0x85 || n == 0xA0 || n == 0x1680 ||
    (0x2000 ≤ n && n ≤ 0x200A) || n == 0x2028 || n == 0x2029 || n == 0x202F ||
    n == 0x205F || n == 0x3000

/-- Drops the longest end of a list whose members all satisfy `p`. -/
def dropEnd (p : Char → Bool) (s : List Char) : List Char :=
  (s.reverse.dropWhile p).reverse

def trimStart (s : List Char) : List Char := s.dropWhile isBlank

def trimEnd (s : List Char) : List Char := dropEnd isBlank s

def trim (s : List Char) : List Char := trimEnd (trimStart s)

/-- The words of a text, in order. -/
def words : List Char → List (List Char)
  | [] => []
  | [c] => if isBlank c then [] else [[c]]
  | c :: d :: s =>
    if isBlank c then words (d :: s)
    else if isBlank d then [c] :: words (d :: s)
    else match words (d :: s) with
      | [] => [[c]]
      | w :: ws => (c :: w) :: ws

/-- Words put back together with one space between neighbours. -/
def unwords (ws : List (List Char)) : List Char := [' '].intercalate ws

/-- Every run of blanks becomes one space, and none is left at either end. -/
def collapse (s : List Char) : List Char := unwords (words s)

end DeviceLint.Text
