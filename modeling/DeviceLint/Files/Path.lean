/-
Paths, as they are written.

A path is never simplified when it is put together from others, so what a message shows
is what was written.  Where it is taken apart, empty pieces and single dots do not count,
save for a dot at the very beginning.
-/
import DeviceLint.Text.Find

namespace DeviceLint.Path

def isAbsolute (path : String) : Bool := path.toList.head? == some '/'

/-- The pieces between the slashes. -/
def pieces (path : String) : List (List Char) := Text.splitOn '/' path.toList

/-- A path seen from a directory. -/
def join (directory path : String) : String :=
  if isAbsolute path || directory.isEmpty then path
  else if directory.toList.getLast? == some '/' then directory ++ path
  else directory ++ "/" ++ path

/-- Drops pieces from the end that do not count; the first piece always does. -/
def significant : List (List Char) → List (List Char)
  | [] => []
  | first :: rest =>
    first :: (rest.reverse.dropWhile fun p => p.isEmpty || p == ['.']).reverse

/-- Pieces put together again. -/
def unpieces (ps : List (List Char)) : String :=
  if ps == [[]] then "/" else String.ofList (['/'].intercalate ps)

/-- The directory a path is in; the root and the empty path are in none. -/
def parent? (path : String) : Option String :=
  match significant (pieces path) with
  | [] => none
  | [first] => if first.isEmpty then none else some ""
  | ps => some (unpieces (significant ps.dropLast))

/-- The last piece, if it is a name. -/
def fileName? (path : String) : Option (List Char) :=
  match (significant (pieces path)).getLast? with
  | none => none
  | some name =>
    if name.isEmpty || name == ['.'] || name == ['.', '.'] then none else some name

/-- What stands after the last dot of a name, unless nothing stands before it. -/
def extension (path : String) : String :=
  match fileName? path with
  | none => ""
  | some name =>
    let tail := name.reverse.takeWhile (· != '.')
    if tail.length + 1 < name.length then String.ofList tail.reverse else ""

end DeviceLint.Path
