/-
Settings from files.

A file may name presets and other files whose layers come before its own, and those may
name others in turn.  Such a chain may hold ten files; a longer one is an error, and with
it every chain that leads back to a file it came through.

Paths in a file are seen from the directory the file is in.
-/
import DeviceLint.Config.Decode
import DeviceLint.Files.Basic
import DeviceLint.Files.Format

namespace DeviceLint

/-- Why settings cannot be loaded. -/
inductive ConfigError where
  | unreadable (e : FileError)
  /-- The file's name does not say a format that is known. -/
  | unsupported (extension : String)
  /-- The file holds no settings. -/
  | malformed (format : Format)
  /-- A chain of files is too long. -/
  | tooDeep
  deriving DecidableEq, Repr

namespace ConfigError

/-- The text of an error.  Of a malformed file it only says the format. -/
def message : ConfigError → String
  | unreadable e => s!"IO error: {e.message}"
  | unsupported extension => s!"Invalid configuration: Unknown config file format: {extension}"
  | malformed .yaml => "YAML parse error"
  | malformed .json => "JSON parse error"
  | tooDeep => "Invalid configuration: Maximum config inheritance depth exceeded"

end ConfigError

namespace Config

/-- The paths of a layer, seen from a directory. -/
def rebase (directory : String) (c : Config) : Config :=
  { c with
    ruleFiles := c.ruleFiles.map (Path.join directory)
    schemaFiles := c.schemaFiles.map (Path.join directory) }

/-- The directory a file is in. -/
def directoryOf (path : String) : String := (Path.parent? path).getD "."

/-- The layer of one file alone. -/
def readLayer (read : FileReader) (path : String) : Except ConfigError Config := do
  let text ← (read path).mapError .unreadable
  match Format.ofExtension? (Path.extension path) with
  | none => .error (.unsupported (Path.extension path))
  | some format =>
    match format.decode? decode text with
    | none => .error (.malformed format)
    | some c => return c.rebase (directoryOf path)

/-- How many files a chain may hold. -/
def maxDepth : Nat := 10

/-- One layer over the layers that come before it. -/
def withBases (bases : List Config) (c : Config) : Config := (bases.foldl merge {}).merge c

/-- The layer of a file over those that come before it, in chains of at most so many files. -/
def loadWithin (read : FileReader) : Nat → String → Except ConfigError Config
  | 0, _ => .error .tooDeep
  | depth + 1, path => do
    let own ← readLayer read path
    if own.bases.isEmpty then return own
    else
      let bases ← own.bases.mapM fun name =>
        match preset? name with
        | some layer => .ok layer
        | none => loadWithin read depth (Path.join (directoryOf path) name)
      return own.withBases bases

/-- The settings in a file, whatever way files are read in. -/
def loadBy (read : FileReader) (path : String) : Except ConfigError Config :=
  loadWithin read maxDepth path

/-- The settings in a file. -/
def load (files : Files) (path : String) : Except ConfigError Config := loadBy files.read path

/-- What settings files are called, the first choice first. -/
def defaultNames : List String := [".netlintrc.yaml", ".netlintrc.yml", ".netlintrc.json"]

/-- The settings where nobody names a file: from the directory that holds everything, from the
home directory, or the plain ones. -/
def loadDefault (files : Files) (home : String) : Except ConfigError Config :=
  match (defaultNames ++ defaultNames.map (Path.join home)).find? files.exist with
  | some path => load files path
  | none => .ok {}

end Config

end DeviceLint
