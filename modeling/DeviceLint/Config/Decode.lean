/-
Settings as data.

Every member may be missing, and members that mean nothing are passed over.
-/
import DeviceLint.Config.Basic

namespace DeviceLint

namespace EngineConfig

def shape : Decode.Shape where
  title := "struct EngineConfig"
  fields := ["parallel", "jobs", "statistics"]
  required := []
  closed := false

def put : Decode.Put EngineConfig := fun name d c =>
  if name == "parallel" then return { c with parallel := ← Decode.optional Decode.bool d }
  else if name == "jobs" then return { c with jobs := ← Decode.nat d }
  else return { c with statistics := ← Decode.bool d }

def decode : Decoder EngineConfig := Decode.record shape put {}

/-- An object that says whether to scan at the same time only if the settings do. -/
def encode (c : EngineConfig) : Value :=
  .record <| [("jobs", .nat c.jobs), ("statistics", .bool c.statistics)] ++
    match c.parallel with
    | some parallel => [("parallel", .bool parallel)]
    | none => []

end EngineConfig

namespace RulesConfig

def shape : Decode.Shape where
  title := "struct RulesConfig"
  fields := ["disabled", "enabled", "extend", "ignore", "severity", "per_file"]
  required := []
  closed := false

def put : Decode.Put RulesConfig := fun name d c =>
  if name == "disabled" then return { c with disabled := ← Decode.strings d }
  else if name == "enabled" then return { c with enabled := ← Decode.strings d }
  else if name == "extend" then return { c with extend := ← Decode.strings d }
  else if name == "ignore" then return { c with ignore := ← Decode.strings d }
  else if name == "severity" then
    return { c with severity := ← Decode.tableOf Severity.decode d }
  else return { c with perFile := ← Decode.tableOf Decode.strings d }

def decode : Decoder RulesConfig := Decode.record shape put {}

def encode (c : RulesConfig) : Value :=
  .record [
    ("disabled", .texts c.disabled), ("enabled", .texts c.enabled),
    ("extend", .texts c.extend), ("ignore", .texts c.ignore),
    ("severity", .ofTable (c.severity.map fun s => .text s.name)),
    ("per_file", .ofTable (c.perFile.map .texts))]

end RulesConfig

namespace Config

def shape : Decode.Shape where
  title := "struct Config"
  fields := ["extends", "vendor", "engine", "rules", "categories", "rule_files", "schema_files"]
  required := []
  closed := false

def put : Decode.Put Config := fun name d c =>
  if name == "extends" then return { c with bases := ← Decode.strings d }
  else if name == "vendor" then return { c with vendor := ← Decode.optional Decode.string d }
  else if name == "engine" then return { c with engine := ← EngineConfig.decode d }
  else if name == "rules" then return { c with rules := ← RulesConfig.decode d }
  else if name == "categories" then return { c with categories := ← Decode.strings d }
  else if name == "rule_files" then
    return { c with ruleFiles := ← Decode.listOf Decode.path d }
  else return { c with schemaFiles := ← Decode.listOf Decode.path d }

def decode : Decoder Config := Decode.record shape put {}

def encode (c : Config) : Value :=
  .record [
    ("extends", .texts c.bases), ("vendor", .ofOption c.vendor), ("engine", c.engine.encode),
    ("rules", c.rules.encode), ("categories", .texts c.categories),
    ("rule_files", .texts c.ruleFiles), ("schema_files", .texts c.schemaFiles)]

end Config

end DeviceLint
