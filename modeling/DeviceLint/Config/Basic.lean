/-
Settings.

Settings say which rules are run, how loudly their failures are reported, and what is
assumed where a scan does not say.  They are put together from layers, of which a later
one adds to lists, replaces what is chosen one at a time, and leaves alone what it does
not speak of.  So it cannot take back that an earlier layer has turned a rule off.
-/
import DeviceLint.Data.Table
import DeviceLint.Finding
import DeviceLint.Matching
import DeviceLint.Text.Ascii
import DeviceLint.Text.Case

namespace DeviceLint

structure EngineConfig where
  /-- Whether files may be scanned at the same time. -/
  parallel : Option Bool := none
  /-- How many at most, if it matters. -/
  jobs : Nat := 0
  /-- Whether rules are tallied. -/
  statistics : Bool := false
  deriving DecidableEq

structure RulesConfig where
  disabled : List String := []
  /-- The only rules that are run, unless there are none. -/
  enabled : List String := []
  /-- What the id of a rule must begin with, unless there is nothing. -/
  extend : List String := []
  /-- What the id of a rule must not begin with. -/
  ignore : List String := []
  /-- How failures of some rules are reported. -/
  severity : Table Severity := {}
  /-- Rules that are not run on some files, under patterns for the files' names. -/
  perFile : Table (List String) := {}
  deriving DecidableEq

structure Config where
  /-- The presets and files whose layers come before this one. -/
  bases : List String := []
  /-- The dialect of what does not say its own. -/
  vendor : Option String := none
  engine : EngineConfig := {}
  rules : RulesConfig := {}
  /-- The only categories whose rules are run, unless there are none. -/
  categories : List String := []
  /-- Files and directories with more rules. -/
  ruleFiles : List String := []
  /-- Files with more schemas. -/
  schemaFiles : List String := []
  deriving DecidableEq

namespace EngineConfig

def isParallel (c : EngineConfig) : Bool := c.parallel.getD true

/-- How many threads are wanted where there are so many processors. -/
def threads (c : EngineConfig) (processors : Nat) : Nat :=
  if c.jobs == 0 then processors else c.jobs

/-- One layer over another. -/
def merge (below above : EngineConfig) : EngineConfig where
  parallel := above.parallel.or below.parallel
  jobs := if above.jobs == 0 then below.jobs else above.jobs
  statistics := below.statistics || above.statistics

end EngineConfig

/-- The upper one of two lists, unless it is empty. -/
def upperChoice (below above : List String) : List String :=
  if above.isEmpty then below else above

namespace RulesConfig

/-- One layer over another. -/
def merge (below above : RulesConfig) : RulesConfig where
  disabled := below.disabled ++ above.disabled
  enabled := upperChoice below.enabled above.enabled
  extend := below.extend ++ above.extend
  ignore := below.ignore ++ above.ignore
  severity := below.severity.mergeWith (fun _ s => s) above.severity
  perFile := below.perFile.mergeWith (· ++ ·) above.perFile

/-- Whether an id begins with one of some texts, in letters of any case. -/
def beginsWithAny (starts : List String) (id : String) : Bool :=
  starts.any fun s => (Text.upper s.toList).isPrefixOf (Text.upper id.toList)

/-- Whether an id begins as it must. -/
def isExtended (c : RulesConfig) (id : String) : Bool :=
  c.extend.isEmpty || beginsWithAny c.extend id

/-- Whether an id begins as it must not. -/
def isIgnored (c : RulesConfig) (id : String) : Bool := beginsWithAny c.ignore id

/-- Whether the rule with this id is run.  To be turned off counts for more than to be turned on,
and a list of rules for more than beginnings of ids. -/
def isEnabled (c : RulesConfig) (id : String) : Bool :=
  !c.disabled.contains id && !c.isIgnored id &&
    if c.enabled.isEmpty then c.isExtended id else c.enabled.contains id

/-- Whether a rule is not run on a file. -/
def isIgnoredFor (c : RulesConfig) (globs : GlobEngine) (id file : String) : Bool :=
  c.perFile.fields.any fun (pattern, ids) =>
    globs.matchesName pattern file && (ids.contains "all" || ids.contains id)

end RulesConfig

namespace Config

/-- One layer over another.  What the upper layer comes after is no longer of interest. -/
def merge (below above : Config) : Config where
  bases := below.bases
  vendor := above.vendor.or below.vendor
  engine := below.engine.merge above.engine
  rules := below.rules.merge above.rules
  categories := upperChoice below.categories above.categories
  ruleFiles := below.ruleFiles ++ above.ruleFiles
  schemaFiles := below.schemaFiles ++ above.schemaFiles

/-- Layers that are known by name. -/
def preset? (name : String) : Option Config :=
  if name == "recommended" then some {}
  else if name == "security" then some { categories := ["security"] }
  else none

/-- Whether rules of a category are run; those without one always are. -/
def isCategoryEnabled (c : Config) (category : Option String) : Bool :=
  c.categories.isEmpty || category.all fun name =>
    c.categories.any (sameWord · name)

end Config

end DeviceLint
