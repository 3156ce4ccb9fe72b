/-
Settings leave out rules and change levels, and do nothing else.

Rules are left out before they are run, and levels are changed when all findings are there.
What is left out might as well have been run: no rule notices the others, so the findings
that are missing are those of the turns that the rules left out would have had.  Such a
finding is told by its turn and not by the rule it names, since rules may share an id, and
a finding may name any rule.
-/
import DeviceLint.Lint.Linter
import DeviceLint.Proofs.Turn

namespace DeviceLint

open Engine (Yields turns)

namespace Linter

variable {ρ : Type} [Categorized ρ]

/-- What is reported instead of a finding. -/
structure Reported (c : Config) (f g : Finding) : Prop where
  /-- Nothing but the level may be another. -/
  others : g.withLevel f.level = f
  /-- A failure is reported at the level that settings have for the rule it names. -/
  overridden : f.outcome = .fail → ∀ level, c.rules.severity.get? f.rule = some level →
    g.level = level
  /-- The level stays where there is no failure, or settings have no level for it. -/
  kept : f.outcome ≠ .fail ∨ c.rules.severity.get? f.rule = none → g.level = f.level

theorem reported_adjust (c : Config) (f : Finding) : Reported c f (adjust c f) := by
  unfold adjust
  cases hlevel : c.rules.severity.get? f.rule with
  | none => exact ⟨rfl, fun _ level h => by simp [hlevel] at h, fun _ => rfl⟩
  | some level =>
      dsimp only
      split
      · rename_i hfailure
        have hfail : f.outcome = .fail := by simpa [Finding.isFailure] using hfailure
        refine ⟨rfl, fun _ level' h => ?_, fun h => ?_⟩
        · exact Option.some.inj (hlevel.symm.trans h)
        · rcases h with hne | hnone
          · exact absurd hfail hne
          · simp [hlevel] at hnone
      · rename_i hfailure
        refine ⟨rfl, fun hfail => ?_, fun _ => rfl⟩
        exact absurd (by simp [Finding.isFailure, hfail]) hfailure

/-- Settings that say nothing of rules leave every finding as it is. -/
theorem adjust_default (engine : EngineConfig) (f : Finding) :
    adjust { engine := engine } f = f := by
  have hnone : ({ engine := engine } : Config).rules.severity.get? f.rule = none := rfl
  rw [adjust, hnone]

/-- Settings that say nothing of rules leave out no rule. -/
theorem isActive_default (globs : GlobEngine) (engine : EngineConfig) (name : String) (r : ρ) :
    isActive globs { engine := engine } name r = true := rfl

/-- Tallies make no difference to findings. -/
theorem evaluate_findings (statistics : Bool) (c : Context) (rules : List ρ) :
    (evaluate statistics c rules).1 = Engine.run c rules := by
  unfold evaluate
  split
  · rw [Engine.runWithTallies, Engine.run, Engine.execute_findings, Engine.execute_findings]
  · rfl

/-- A scan finds what the active rules find, adjusted. -/
theorem findings_lintWith (s : Linter ρ) (schema : Schema) (name text : String) :
    (s.lintWith schema name text).findings
      = (Engine.run (.ofSchema schema (parse schema text)) (s.activeRules name)).map
          (adjust s.config) := by
  rw [← evaluate_findings s.config.engine.statistics]
  rfl

theorem findings_lintWith_default (s : Linter ρ) (engine : EngineConfig) (schema : Schema)
    (name text : String) :
    (({ s with config := { engine := engine } } : Linter ρ).lintWith schema name text).findings
      = Engine.run (.ofSchema schema (parse schema text)) s.rules := by
  have hrules : ({ s with config := { engine := engine } } : Linter ρ).activeRules name = s.rules :=
    List.filter_eq_self.mpr fun r _ => isActive_default s.globs engine name r
  rw [findings_lintWith, hrules, List.map_congr_left fun f _ => adjust_default engine f,
    List.map_id']

theorem lint_eq (s : Linter ρ) {schema : Schema} {vendor : String}
    (hvendor : s.schemas.get? vendor = some schema) (name text : String) :
    s.lint name text vendor = .ok (s.lintWith schema name text) := by
  rw [lint, hvendor]

/--
**Settings act on a scan as a filter and as overrides.**

Whatever rules a linter has, take its scan of a text in a known dialect with settings that
say nothing: it has one finding for each turn of a rule.  With the settings of the linter,
tallies or not, the scan has the findings of those turns, in the same order, whose rules
are enabled by their ids, enabled by their categories, and not ignored for the name of the
text.  Each of these is reported as it is, but for the level of a failure that names a rule
for which there is an override.
-/
theorem lint_settings (s : Linter ρ) {schema : Schema} {vendor : String}
    (hvendor : s.schemas.get? vendor = some schema) (name text : String) :
    let c := Context.ofSchema schema (parse schema text)
    let chosen (r : ρ) : Bool := s.config.rules.isEnabled (Checker.id r) &&
      s.config.isCategoryEnabled (Categorized.category r) &&
      !s.config.rules.isIgnoredFor s.globs (Checker.id r) name
    ∃ plain report, ({ s with config := {} } : Linter ρ).lint name text vendor = .ok plain ∧
      s.lint name text vendor = .ok report ∧
      List.Forall₂ (Yields c) (turns c s.rules) plain.findings ∧
      List.Forall₂ (Reported s.config)
        ((((turns c s.rules).zip plain.findings).filter fun x => chosen x.1.rule).map Prod.snd)
        report.findings := by
  intro c chosen
  have hplain := lint_eq ({ s with config := {} } : Linter ρ) hvendor name text
  have hreport : (s.lintWith schema name text).findings
      = (Engine.run c (s.rules.filter chosen)).map (adjust s.config) :=
    findings_lintWith s schema name text
  refine ⟨_, _, hplain, lint_eq s hvendor name text, ?_, ?_⟩
  · rw [findings_lintWith_default]
    exact Engine.forall₂_yields c s.rules
  · rw [findings_lintWith_default, hreport, ← Engine.run_filter, List.forall₂_map_right_iff,
      List.forall₂_same]
    exact fun f _ => reported_adjust s.config f

/-- A rule of a category that fails on every interface. -/
def interfaceRule (id category : String) : Rule where
  id := id
  selector := "interface"
  check := fun _ _ => .ok (.fail "no interface is right")
  category := some category

/-- A linter whose settings turn one rule off, leave out a category, and override a level. -/
def strictLinter : Linter :=
  { new { rules := { disabled := ["duplex"], severity := .ofList [("mtu", .error)] }
          categories := ["physical"] } with
    rules := [interfaceRule "duplex" "physical", interfaceRule "mtu" "physical",
      interfaceRule "acl" "security", interfaceRule "speed" "physical"] }

theorem lint_settings_strict :
    let text := "interface Gi0/1\n shutdown\n"
    ∃ plain report, ({ strictLinter with config := {} } : Linter).lint "r1" text "ios" = .ok plain ∧
      strictLinter.lint "r1" text "ios" = .ok report ∧
      plain.findings.map (fun f => (f.rule, f.level)) = [("duplex", .warning), ("mtu", .warning),
        ("acl", .warning), ("speed", .warning)] ∧
      report.findings.map (fun f => (f.rule, f.level)) = [("mtu", .error), ("speed", .warning)] := by
  intro text
  obtain ⟨plain, report, hplain, hreport, -⟩ := lint_settings strictLinter
    (show SchemaRegistry.builtin.get? "ios" = some Schema.ciscoIos by decide +kernel) "r1" text
  have hlevels : ∀ {linter : Linter} {r : Report}, linter.lint "r1" text "ios" = .ok r →
      (linter.lint "r1" text "ios").toOption.map (fun r => r.findings.map fun f => (f.rule, f.level))
        = some (r.findings.map fun f => (f.rule, f.level)) := by
    intro linter r h
    rw [h]
    rfl
  refine ⟨plain, report, hplain, hreport, Option.some.inj ?_, Option.some.inj ?_⟩
  · rw [← hlevels hplain]
    decide +kernel
  · rw [← hlevels hreport]
    decide +kernel

end Linter

end DeviceLint
