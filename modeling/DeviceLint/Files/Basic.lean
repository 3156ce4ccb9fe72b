/-
The files that a scan may read.

Paths are relative to the directory that holds everything.  Nothing is known of what
lies outside it, except that it is a directory as well.  Every directory on the way to a
file exists, and so do directories that are named for themselves.
-/
import DeviceLint.Files.Path

namespace DeviceLint

/-- Why a file cannot be read. -/
inductive FileError where
  | notFound
  | notDirectory
  | isDirectory
  /-- Its bytes are not UTF-8. -/
  | notText
  deriving DecidableEq, Repr

namespace FileError

def message : FileError → String
  | notFound => "No such file or directory (os error 2)"
  | notDirectory => "Not a directory (os error 20)"
  | isDirectory => "Is a directory (os error 21)"
  | notText => "stream did not contain valid UTF-8"

end FileError

/-- A way to read files: the text at each path, or why there is none. -/
abbrev FileReader := String → Except FileError String

/-- What a path can lead to. -/
inductive FileEntry where
  | text (content : String)
  /-- A file whose bytes are not UTF-8. -/
  | binary
  | directory
  deriving DecidableEq, Repr

/-- Entries under the pieces of their paths, from the directory that holds everything. -/
structure Files where
  entries : List (List (List Char) × FileEntry)

namespace Files

def empty : Files := ⟨[]⟩

/-- The pieces of a path without those that mean nothing. -/
def normalPieces (path : String) : List (List Char) :=
  (Path.pieces path).filter fun p => !p.isEmpty && p != ['.']

/-- Adds an entry under a path. -/
def add (f : Files) (path : String) (entry : FileEntry) : Files :=
  ⟨f.entries ++ [(normalPieces path, entry)]⟩

/-- The entry at a place, if there is one; places above entries are directories. -/
def entryAt? (f : Files) (place : List (List Char)) : Option FileEntry :=
  match f.entries.lookup place with
  | some entry => some entry
  | none =>
    if place.isEmpty || f.entries.any fun (p, _) => place.isPrefixOf p then some .directory
    else none

/-- Goes on from a place, which is none outside the directory that holds everything. -/
def walk (f : Files) (place : Option (List (List Char))) :
    List (List Char) → Except FileError (Option (List (List Char)))
  | [] => .ok place
  | piece :: rest =>
    if place.any fun p => f.entryAt? p != some .directory then .error .notDirectory
    else if piece.isEmpty || piece == ['.'] then f.walk place rest
    else if piece == ['.', '.'] then
      f.walk (place.bind fun p => if p.isEmpty then none else some p.dropLast) rest
    else match place with
      | none => .error .notFound
      | some p =>
        if (f.entryAt? (p ++ [piece])).isSome then f.walk (some (p ++ [piece])) rest
        else .error .notFound

/-- The place a path leads to. -/
def locate (f : Files) (path : String) : Except FileError (Option (List (List Char))) :=
  if path.isEmpty then .error .notFound
  else if Path.isAbsolute path then f.walk none ((Path.pieces path).drop 1)
  else f.walk (some []) (Path.pieces path)

/-- The entry a path leads to. -/
def find (f : Files) (path : String) : Except FileError FileEntry := do
  match ← f.locate path with
  | none => return .directory
  | some place =>
    match f.entryAt? place with
    | some entry => return entry
    | none => .error .notFound

def exist (f : Files) (path : String) : Bool := (f.find path).toBool

def isDirectory (f : Files) (path : String) : Bool :=
  match f.find path with
  | .ok .directory => true
  | _ => false

/-- Whether a path leads to something that is not a directory. -/
def isFile (f : Files) (path : String) : Bool := f.exist path && !f.isDirectory path

/-- The text of a file. -/
def read (f : Files) (path : String) : Except FileError String := do
  match ← f.find path with
  | .text content => return content
  | .binary => .error .notText
  | .directory => .error .isDirectory

/-- The names of the entries directly below a place, in ascending order. -/
def namesBelow (f : Files) (place : List (List Char)) : List String :=
  let names := f.entries.filterMap fun (p, _) =>
    if place.isPrefixOf p then (p.drop place.length).head? else none
  (names.eraseDups.map String.ofList).mergeSort (fun a b => decide (a ≤ b))

/-- The paths of what is in a directory, in ascending order. -/
def list (f : Files) (path : String) : Except FileError (List String) := do
  match ← f.locate path with
  | none => return []
  | some place =>
    if f.entryAt? place == some .directory then
      return (f.namesBelow place).map (Path.join path)
    else .error .notDirectory

end Files

end DeviceLint
