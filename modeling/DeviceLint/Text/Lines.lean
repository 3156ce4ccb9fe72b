/-
Physical lines.

A line ends at a line feed, and a carriage return just before that line feed belongs
to the line end.  What follows the last line feed is a line of its own unless it is
empty, and there a carriage return is kept: nothing ends that line but the text.
-/

namespace DeviceLint.Text

/-- The lines of a text, without their line ends. -/
def lines : List Char → List (List Char)
  | [] => []
  | '\n' :: s => [] :: lines s
  | '\r' :: '\n' :: s => [] :: lines s
  | c :: s =>
    match lines s with
    | [] => [[c]]
    | l :: ls => (c :: l) :: ls

/-- Lines joined by line feeds, with none at the end. -/
def unlines (ls : List (List Char)) : List Char := ['\n'].intercalate ls

end DeviceLint.Text
