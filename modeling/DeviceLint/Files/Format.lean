/-
The two formats of files, by the extensions that tell them apart.
-/
import DeviceLint.Data.Decode
import DeviceLint.Files.Path
import DeviceLint.Yaml.Reader

namespace DeviceLint

inductive Format where
  | json
  | yaml
  deriving DecidableEq, Repr

namespace Format

def ofExtension? (extension : String) : Option Format :=
  if extension == "json" then some json
  else if extension == "yaml" || extension == "yml" then some yaml
  else none

/-- The document in a text. -/
def read? : Format → String → Option Document
  | json => Json.read?
  | yaml => Yaml.read?

/-- What a text holds; none if it is not well formed or not what is wanted. -/
def decode? {α : Type} (format : Format) (decode : Decoder α) (text : String) : Option α := do
  match decode (← format.read? text) with
  | .ok a => some a
  | .error _ => none

end Format

end DeviceLint
