/-
Schemas from files.
-/
import DeviceLint.Files.Basic
import DeviceLint.Files.Format
import DeviceLint.Schema.Registry

namespace DeviceLint

/-- Why a schema file cannot be used. -/
inductive SchemaFileError where
  | unreadable (e : FileError)
  | unsupported (file extension : String)
  /-- The file holds no schema. -/
  | malformed (file : String)
  | invalid (fault : SchemaFault)
  deriving DecidableEq, Repr

namespace SchemaFileError

/-- The text of an error.  Of a malformed file it only names the file. -/
def message : SchemaFileError → String
  | unreadable e => s!"IO error: {e.message}"
  | unsupported file extension =>
    s!"Parse error in {file}: Unsupported schema format: {extension}"
  | malformed file => s!"Parse error in {file}"
  | invalid fault => s!"Invalid schema: {fault.message}"

end SchemaFileError

namespace Schema

/-- The schema in a file, if it is one that can be used. -/
def load (files : Files) (path : String) : Except SchemaFileError Schema := do
  let text ← (files.read path).mapError .unreadable
  match Format.ofExtension? (Path.extension path) with
  | none => .error (.unsupported path (Path.extension path))
  | some format =>
    match format.decode? decode text with
    | none => .error (.malformed path)
    | some s =>
      match s.fault? with
      | some fault => .error (.invalid fault)
      | none => return s

end Schema

namespace SchemaRegistry

/-- Registers the schema in a file, and gives its id. -/
def load (r : SchemaRegistry) (files : Files) (path : String) :
    Except SchemaFileError (SchemaRegistry × String) := do
  let s ← Schema.load files path
  return (r.register s, s.id)

end SchemaRegistry

end DeviceLint
