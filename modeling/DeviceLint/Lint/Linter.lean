/-
Linters: schemas, helpers, rules, settings and the engines for patterns put together.

Settings act on a scan in two ways only.  Beforehand they leave out rules, and afterwards
they change how loudly failures are reported.  For that they need not know what kind of
rules these are; the linters that are set up here have the rules of the library.
-/
import DeviceLint.Config.Load
import DeviceLint.Glob
import DeviceLint.Helper.Builtin
import DeviceLint.Layout.Parse
import DeviceLint.Rule.Builtin
import DeviceLint.Lint.Machine
import DeviceLint.Lint.Report
import DeviceLint.Regex.Reader

namespace DeviceLint

structure Linter (ρ : Type := Rule) where
  schemas : SchemaRegistry
  helpers : HelperRegistry
  /-- In the order in which they take their turn at every node. -/
  rules : List ρ
  /-- The errors of rule files that were passed over. -/
  ruleErrors : List RuleLoadError
  config : Config
  /-- What the regular expressions of rule files are compiled by. -/
  regexes : RegexEngine
  /-- What the names of texts are matched by where settings have patterns for them. -/
  globs : GlobEngine

namespace Linter

/-! ### Setting up -/

/-- A linter with the built-in schemas and helpers, but without rules. -/
def new (config : Config) : Linter where
  schemas := .builtin
  helpers := .builtin
  rules := []
  ruleErrors := []
  config := config
  regexes := .standard
  globs := .standard

def addRules {ρ : Type} (s : Linter ρ) (rules : List ρ) : Linter ρ :=
  { s with rules := s.rules ++ rules }

def withBuiltinRules (s : Linter) : Linter := s.addRules Rule.builtin

/-- Adds the schema in a file, and gives its id. -/
def loadSchema (s : Linter) (files : Files) (path : String) :
    Except LintError (Linter × String) := do
  let (schemas, id) ← (s.schemas.load files path).mapError .schema
  return ({ s with schemas := schemas }, id)

/-- Adds the rules in a file or a directory, and gives their number.  Files in a directory may
have errors of their own, which are kept. -/
def readRules (files : Files) (path : String) : ExceptT LintError (StateM Linter) Nat := do
  let s ← getThe Linter
  let rules ←
    if files.isDirectory path then
      let (rules, errors) ←
        (RuleFile.loadDirectory s.regexes s.helpers files path).mapError LintError.rules
      modifyThe Linter fun s => { s with ruleErrors := s.ruleErrors ++ errors }
      pure rules
    else (RuleFile.load s.regexes s.helpers files path).mapError LintError.rules
  modifyThe Linter (·.addRules rules)
  return rules.length

/-- The linter after rules have been read, and how many there were. -/
def loadRules (s : Linter) (files : Files) (path : String) :
    Except LintError (Linter × Nat) :=
  match (readRules files path).run.run s with
  | (.ok count, s) => .ok (s, count)
  | (.error e, _) => .error e

/-- A linter with the built-in rules, and with all schemas and rules that settings name. -/
def ofConfig (files : Files) (config : Config) : Except LintError Linter := do
  let s ← config.schemaFiles.foldlM (fun s path => return (← loadSchema s files path).1)
    (new config).withBuiltinRules
  config.ruleFiles.foldlM (fun s path => return (← loadRules s files path).1) s

/-! ### Scanning -/

section

variable {ρ : Type} [Categorized ρ]

/-- Whether settings let a rule run on a text with this name. -/
def isActive (globs : GlobEngine) (c : Config) (name : String) (r : ρ) : Bool :=
  c.rules.isEnabled (Checker.id r) && c.isCategoryEnabled (Categorized.category r) &&
    !c.rules.isIgnoredFor globs (Checker.id r) name

/-- The rules that run on a text with this name. -/
def activeRules (s : Linter ρ) (name : String) : List ρ :=
  s.rules.filter (isActive s.globs s.config name)

/-- A finding, reported as loudly as settings want it. -/
def adjust (c : Config) (f : Finding) : Finding :=
  match c.rules.severity.get? f.rule with
  | some level => if f.isFailure then f.withLevel level else f
  | none => f

/-- The findings of rules, with tallies if they are wanted. -/
def evaluate (statistics : Bool) (c : Context) (rules : List ρ) : List Finding × Tallies :=
  if statistics then Engine.runWithTallies c rules else (Engine.run c rules, [])

/-- Scans a text with a schema. -/
def lintWith (s : Linter ρ) (schema : Schema) (name text : String) : Report :=
  let c := Context.ofSchema schema (parse schema text)
  let (findings, tallies) := evaluate s.config.engine.statistics c (s.activeRules name)
  Report.tally
    { name := name
      vendor := schema.id
      findings := findings.map (adjust s.config)
      nodeCount := c.tree.walk.length
      tallies := tallies }

/-- Scans a text in a dialect. -/
def lint (s : Linter ρ) (name text vendor : String) : Except LintError Report :=
  match s.schemas.get? vendor with
  | some schema => .ok (s.lintWith schema name text)
  | none => .error (.unknownVendor vendor)

/-- The dialect of a text that may not say one. -/
def vendorFor (s : Linter ρ) (name : String) (vendor : Option String) :
    Except LintError String :=
  match vendor.or s.config.vendor with
  | some vendor => .ok vendor
  | none => .error (.noVendor name)

/-- Scans a file. -/
def lintFile (s : Linter ρ) (files : Files) (path : String) (vendor : Option String) :
    Except LintError Report := do
  let vendor ← s.vendorFor path vendor
  let text ← (files.read path).mapError (.unreadable path)
  s.lint path text vendor

/-- Goes through several texts.  They are shared among threads if settings let them, if there are
at least two, and if the machine can start so many threads. -/
def runAll (s : Linter ρ) (machine : Machine) {α : Type} (items : List α)
    (lintOne : α → String × Except LintError Report) : Summary :=
  .ofOutcomes <|
    if s.config.engine.isParallel && 1 < items.length then
      match machine.pool? (s.config.engine.threads machine.processors) with
      | some pool => pool.map lintOne items
      | none => items.map lintOne
    else items.map lintOne

/-- Scans several files, one independently of the other. -/
def lintFiles (s : Linter ρ) (files : Files) (paths : List String) (vendor : Option String)
    (machine : Machine := .single) : Summary :=
  s.runAll machine paths fun path => (path, s.lintFile files path vendor)

/-- A text to be scanned. -/
structure Job where
  name : String
  text : String
  vendor : Option String
  deriving DecidableEq, Repr

/-- Scans one text. -/
def lintJob (s : Linter ρ) (job : Job) : Except LintError Report := do
  s.lint job.name job.text (← s.vendorFor job.name job.vendor)

/-- Scans several texts, one independently of the other. -/
def lintAll (s : Linter ρ) (jobs : List Job) (machine : Machine := .single) : Summary :=
  s.runAll machine jobs fun job => (job.name, s.lintJob job)

end

end Linter

end DeviceLint
