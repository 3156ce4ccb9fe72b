/-
Rules from files and directories.

A directory is read file by file, in the order of their paths.  A file that cannot be
used is reported, and the others are used all the same.
-/
import DeviceLint.Files.Basic
import DeviceLint.Files.Format
import DeviceLint.Rule.File

namespace DeviceLint

/-- Why the rules of a file, or the files of a directory, cannot be used. -/
inductive RuleLoadError where
  | unreadable (file : String) (e : FileError)
  /-- The file holds no rules. -/
  | malformed (file : String)
  | unusable (file : String) (e : RuleFileError)

namespace RuleLoadError

def file : RuleLoadError → String
  | unreadable file _ => file
  | malformed file => file
  | unusable file _ => file

/-- The text of an error.  Of a malformed file it only names the file. -/
def message : RuleLoadError → String
  | unreadable file e => s!"IO error reading {file}: {e.message}"
  | malformed file => s!"Parse error in {file}"
  | unusable file (.invalid rule fault) => s!"Invalid rule '{rule}' in {file}: {fault.message}"
  | unusable file (.uncompiled rule e) =>
    s!"Rule '{rule}' in {file} failed to compile: {e.message}"

end RuleLoadError

namespace RuleFile

/-- The format of a rule file: by its extension, or else by its first character. -/
def formatOf (source text : String) : Format :=
  match Format.ofExtension? (Path.extension source) with
  | some format => format
  | none =>
    if (Text.trimStart text.toList).head? == some '\x7b' then .json else .yaml

/-- The rules in a text that came from `source`. -/
def ofText (engine : RegexEngine) (helpers : HelperRegistry) (source text : String) :
    Except RuleLoadError (List Rule) :=
  match (formatOf source text).decode? decode text with
  | none => .error (.malformed source)
  | some f => (f.compile engine helpers).mapError (.unusable source)

/-- The rules in a file. -/
def load (engine : RegexEngine) (helpers : HelperRegistry) (files : Files) (path : String) :
    Except RuleLoadError (List Rule) := do
  let text ← (files.read path).mapError (.unreadable path)
  ofText engine helpers path text

/-- The paths of the rule files in a directory. -/
def pathsIn (files : Files) (directory : String) : Except FileError (List String) := do
  return (← files.list directory).filter fun path =>
    files.isFile path && (Format.ofExtension? (Path.extension path)).isSome

/-- Adds what became of one more file. -/
def collect (loaded : List Rule × List RuleLoadError) :
    Except RuleLoadError (List Rule) → List Rule × List RuleLoadError
  | .ok rules => (loaded.1 ++ rules, loaded.2)
  | .error e => (loaded.1, loaded.2 ++ [e])

/-- The rules in all rule files of a directory, and the errors of those that cannot be used. -/
def loadDirectory (engine : RegexEngine) (helpers : HelperRegistry) (files : Files)
    (directory : String) :
    Except RuleLoadError (List Rule × List RuleLoadError) := do
  let paths ← (pathsIn files directory).mapError (.unreadable directory)
  return (paths.map (load engine helpers files)).foldl collect ([], [])

end RuleFile

end DeviceLint
