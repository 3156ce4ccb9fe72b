import DeviceLint.Text.Blank
import DeviceLint.Text.Lines
import DeviceLint.Text.Find
import DeviceLint.Text.Ascii
import DeviceLint.Text.Case
import DeviceLint.Address
import DeviceLint.Number.Decimal
import DeviceLint.Data.Json
import DeviceLint.Text.Quoted
import DeviceLint.Data.Decode
import DeviceLint.Tree
import DeviceLint.Schema.Registry
import DeviceLint.Layout.Parse
import DeviceLint.Regex.Reader
import DeviceLint.Helper.Builtin
import DeviceLint.Condition.Decode
import DeviceLint.Condition.Compile
import DeviceLint.Rule.Basic
import DeviceLint.Rule.Builtin
import DeviceLint.Rule.File
import DeviceLint.Engine
import DeviceLint.Yaml.Reader
import DeviceLint.Schema.Load
import DeviceLint.Rule.Load
import DeviceLint.Glob
import DeviceLint.Config.Load
import DeviceLint.Lint.Tree
import DeviceLint.Lint.Linter
import DeviceLint.Proofs.Listing
import DeviceLint.Proofs.Nesting
import DeviceLint.Proofs.Turn
import DeviceLint.Proofs.RuleMeaning
import DeviceLint.Proofs.Skipped
import DeviceLint.Proofs.Scope
import DeviceLint.Proofs.KeywordText
import DeviceLint.Proofs.BraceText
import DeviceLint.Proofs.Scan
import DeviceLint.Proofs.Blocks
import DeviceLint.Proofs.Site
import DeviceLint.Proofs.Opaque
import DeviceLint.Proofs.Pairing
import DeviceLint.Proofs.Submode
import DeviceLint.Proofs.Settings
import DeviceLint.Proofs.Closer
import DeviceLint.Proofs.Coverage
import DeviceLint.Proofs.Ending
import DeviceLint.Proofs.DelimitedBody
import DeviceLint.Proofs.Compilation
import DeviceLint.Proofs.RuleFiles
import DeviceLint.Proofs.Batch
import DeviceLint.Proofs.Dialect
import DeviceLint.Proofs.Rephrasing
import DeviceLint.Proofs.Layers
import DeviceLint.Proofs.Members
import DeviceLint.Proofs.RoundTrip
import DeviceLint.Proofs.Inheritance
import DeviceLint.Proofs.Chains
import DeviceLint.Proofs.Dispatch
import DeviceLint.Proofs.Ambiguity
import DeviceLint.Proofs.Tally
import DeviceLint.Proofs.Continuation
import DeviceLint.Proofs.Networks
import DeviceLint.Proofs.CaseAside
import DeviceLint.Proofs.Tokens
import DeviceLint.Proofs.Columns
import DeviceLint.Proofs.Passages
import DeviceLint.Proofs.Slices
