/-
A batch is as good as its worst text, and every text is scanned for itself.

Findings are counted one after the other, and each of them adds one to the count of all.  What
a counter ends with is therefore the number of findings of its kind, and an exit code says
whether there is a finding of a kind at all.  Of several exit codes the highest counts.

Threads come in only where outcomes are collected.  They are collected in the order of the
texts, so a batch is its texts, scanned one by one.
-/
import DeviceLint.Proofs.Settings
import DeviceLint.Proofs.Walk

namespace DeviceLint

/-! ### Counting findings -/

namespace Counts

/-- A measure that goes up with findings of a kind counts the findings of that kind. -/
theorem measure_foldl_add {measure : Counts → Nat} (kind : Finding → Bool)
    (hstep : ∀ n f, measure (n.add f) = measure n + if kind f then 1 else 0)
    (fs : List Finding) : ∀ n, measure (fs.foldl add n) = measure n + fs.countP kind := by
  induction fs with
  | nil => intro n; simp
  | cons f fs ih =>
      intro n
      rw [List.foldl_cons, ih, hstep, List.countP_cons]
      omega

/-- How many findings have been counted. -/
def total (n : Counts) : Nat := n.passed + n.failed + n.informational

theorem total_add (n : Counts) (f : Finding) : (n.add f).total = n.total + 1 := by
  unfold add total
  cases f.outcome with
  | pass => dsimp only; omega
  | informational => dsimp only; omega
  | fail => cases f.level <;> dsimp only <;> omega

theorem errorCount_add (n : Counts) (f : Finding) :
    (n.add f).errorCount = n.errorCount + if f.isError then 1 else 0 := by
  unfold add Finding.isError Finding.isFailure
  cases f.outcome with
  | pass => rfl
  | informational => rfl
  | fail => cases f.level <;> rfl

theorem warningCount_add (n : Counts) (f : Finding) :
    (n.add f).warningCount = n.warningCount + if f.isWarning then 1 else 0 := by
  unfold add Finding.isWarning Finding.isFailure
  cases f.outcome with
  | pass => rfl
  | informational => rfl
  | fail => cases f.level <;> rfl

end Counts

/-! ### Exit codes -/

namespace Report

/-- Whether the counters of a report are right. -/
structure IsTallied (r : Report) : Prop where
  all : r.passed + r.failed + r.informational = r.findings.length
  errors : r.errorCount = r.findings.countP Finding.isError
  warnings : r.warningCount = r.findings.countP Finding.isWarning

theorem isTallied_tally {r : Report} (h : r.toCounts = {}) : r.tally.IsTallied where
  all := by
    have hall := Counts.measure_foldl_add (fun _ => true) Counts.total_add r.findings r.toCounts
    rw [List.countP_true] at hall
    exact hall.trans (by rw [h]; exact Nat.zero_add _)
  errors := by
    have herrors := Counts.measure_foldl_add _ Counts.errorCount_add r.findings r.toCounts
    exact herrors.trans (by rw [h]; exact Nat.zero_add _)
  warnings := by
    have hwarnings := Counts.measure_foldl_add _ Counts.warningCount_add r.findings r.toCounts
    exact hwarnings.trans (by rw [h]; exact Nat.zero_add _)

/-- Whether there is a failure that is reported at a level. -/
def FailsAt (r : Report) (level : Severity) : Prop :=
  ∃ f ∈ r.findings, f.outcome = .fail ∧ f.level = level

theorem exitCode_le (r : Report) : r.exitCode ≤ 2 := by
  unfold exitCode
  split <;> [omega; split <;> omega]

theorem IsTallied.errorCount_pos_iff {r : Report} (h : r.IsTallied) :
    0 < r.errorCount ↔ r.FailsAt .error := by
  rw [h.errors, List.countP_pos_iff]
  simp [FailsAt, Finding.isError, Finding.isFailure]

theorem IsTallied.warningCount_pos_iff {r : Report} (h : r.IsTallied) :
    0 < r.warningCount ↔ r.FailsAt .warning := by
  rw [h.warnings, List.countP_pos_iff]
  simp [FailsAt, Finding.isWarning, Finding.isFailure]

theorem IsTallied.two_le_exitCode_iff {r : Report} (h : r.IsTallied) :
    2 ≤ r.exitCode ↔ r.FailsAt .error := by
  rw [← h.errorCount_pos_iff, exitCode, hasErrors]
  by_cases herrors : 0 < r.errorCount
  · simp [herrors]
  · by_cases hwarnings : 0 < r.warningCount <;> simp [herrors, hwarnings]

theorem IsTallied.one_le_exitCode_iff {r : Report} (h : r.IsTallied) :
    1 ≤ r.exitCode ↔ r.FailsAt .error ∨ r.FailsAt .warning := by
  rw [← h.errorCount_pos_iff, ← h.warningCount_pos_iff, exitCode, hasErrors]
  by_cases herrors : 0 < r.errorCount
  · simp [herrors]
  · by_cases hwarnings : 0 < r.warningCount <;> simp [herrors, hwarnings]

end Report

namespace Summary

theorem le_foldl_max_iff {n : Nat} (as : List Nat) :
    ∀ start, n ≤ as.foldl max start ↔ n ≤ start ∨ ∃ a ∈ as, n ≤ a := by
  induction as with
  | nil => intro start; simp
  | cons a as ih =>
      intro start
      have hmax : n ≤ max start a ↔ n ≤ start ∨ n ≤ a := by omega
      rw [List.foldl_cons, ih, hmax, List.exists_mem_cons_iff, or_assoc]

theorem foldl_max_le {n : Nat} (as : List Nat) (h : ∀ a ∈ as, a ≤ n) :
    as.foldl max 0 ≤ n := by
  by_contra hmore
  rcases (le_foldl_max_iff as 0).mp (Nat.lt_of_not_le hmore) with hzero | ⟨a, ha, hless⟩
  · exact Nat.not_succ_le_zero n hzero
  · exact Nat.not_succ_le_self n (Nat.le_trans hless (h a ha))

theorem exitCode_le (s : Summary) : s.exitCode ≤ 2 := by
  unfold exitCode
  split
  · refine foldl_max_le _ fun code hcode => ?_
    obtain ⟨r, -, rfl⟩ := List.mem_map.mp hcode
    exact r.exitCode_le
  · exact Nat.le_refl 2

/-- One of the exit codes is at least as high, or there is one that is the highest. -/
theorem le_exitCode_iff {s : Summary} {n : Nat} (hpos : 0 < n) (hle : n ≤ 2) :
    n ≤ s.exitCode ↔ s.errors ≠ [] ∨ ∃ r ∈ s.reports, n ≤ r.exitCode := by
  unfold exitCode
  by_cases herrors : s.errors = []
  · rw [if_pos (by simp [herrors]), le_foldl_max_iff]
    simp [herrors, Nat.not_le.mpr hpos]
  · rw [if_neg (by simpa using herrors)]
    simp [herrors, hle]

/-- Whether one of the reports has a failure that is reported at a level. -/
def FailsAt (s : Summary) (level : Severity) : Prop := ∃ r ∈ s.reports, r.FailsAt level

/-- The exit code says which of three things is the case. -/
theorem exitCode_eq_iff {s : Summary} (h : ∀ r ∈ s.reports, r.IsTallied) :
    (s.exitCode = 2 ↔ s.errors ≠ [] ∨ s.FailsAt .error) ∧
      (s.exitCode = 1 ↔ ¬(s.errors ≠ [] ∨ s.FailsAt .error) ∧ s.FailsAt .warning) ∧
      (s.exitCode = 0 ↔ ¬(s.errors ≠ [] ∨ s.FailsAt .error) ∧ ¬s.FailsAt .warning) := by
  have htwo : 2 ≤ s.exitCode ↔ s.errors ≠ [] ∨ s.FailsAt .error := by
    rw [le_exitCode_iff (by omega) (by omega)]
    refine or_congr_right (exists_congr fun r => and_congr_right fun hr => ?_)
    exact (h r hr).two_le_exitCode_iff
  have hone : 1 ≤ s.exitCode ↔ (s.errors ≠ [] ∨ s.FailsAt .error) ∨ s.FailsAt .warning := by
    rw [le_exitCode_iff (by omega) (by omega), or_assoc]
    refine or_congr_right ?_
    rw [FailsAt, FailsAt, ← exists_or]
    refine exists_congr fun r => ?_
    rw [← and_or_left]
    exact and_congr_right fun hr => (h r hr).one_le_exitCode_iff
  have hle := s.exitCode_le
  rw [← htwo] at hone ⊢
  by_cases hwarning : s.FailsAt .warning
  · simp only [hwarning, or_true, iff_true] at hone
    simp only [hwarning, and_true, not_true_eq_false, and_false, iff_false]
    refine ⟨?_, ?_, ?_⟩ <;> omega
  · simp only [hwarning, or_false] at hone
    simp only [hwarning, and_false, not_false_eq_true, and_true, iff_false]
    refine ⟨?_, ?_, ?_⟩ <;> omega

/-! ### Collecting outcomes -/

theorem eq_ok_of_toOption {ε α : Type} {x : Except ε α} {a : α} (h : x.toOption = some a) :
    x = .ok a := by
  cases x with
  | error e => cases h
  | ok a' => cases h; rfl

/-- The entry of an outcome among the errors. -/
def failure? : String × Except LintError Report → Option (String × LintError)
  | (name, .error e) => some (name, e)
  | (_, .ok _) => none

theorem foldl_add (outcomes : List (String × Except LintError Report)) :
    ∀ s : Summary, outcomes.foldl (fun s (name, outcome) => s.add name outcome) s
      = ⟨s.reports ++ outcomes.filterMap fun x => x.2.toOption,
          s.errors ++ outcomes.filterMap failure?⟩ := by
  induction outcomes with
  | nil => intro s; simp
  | cons x outcomes ih =>
      intro s
      rw [List.foldl_cons, ih]
      obtain ⟨name, outcome⟩ := x
      cases outcome with
      | ok r => simp [add, List.filterMap_cons, failure?, Except.toOption]
      | error e => simp [add, failure?, Except.toOption]

theorem ofOutcomes_eq (outcomes : List (String × Except LintError Report)) :
    ofOutcomes outcomes
      = ⟨outcomes.filterMap fun x => x.2.toOption, outcomes.filterMap failure?⟩ :=
  foldl_add outcomes empty

/-- An outcome is a report or an error, and never both. -/
theorem length_ofOutcomes (outcomes : List (String × Except LintError Report)) :
    (ofOutcomes outcomes).reports.length + (ofOutcomes outcomes).errors.length
      = outcomes.length := by
  rw [ofOutcomes_eq]
  induction outcomes with
  | nil => rfl
  | cons x outcomes ih =>
      obtain ⟨name, outcome⟩ := x
      cases outcome with
      | ok r =>
          simp only [List.filterMap_cons, failure?, Except.toOption, List.length_cons] at ih ⊢
          omega
      | error e =>
          simp only [List.filterMap_cons, failure?, Except.toOption, List.length_cons] at ih ⊢
          omega

end Summary

namespace Linter

variable {ρ : Type} [Categorized ρ]

omit [Categorized ρ] in
/-- However many threads there are, and whether or not they start. -/
theorem runAll_eq (s : Linter ρ) {machine : Machine} (h : machine.CollectsInOrder) {α : Type}
    (items : List α) (lintOne : α → String × Except LintError Report) :
    s.runAll machine items lintOne = .ofOutcomes (items.map lintOne) := by
  unfold runAll
  by_cases hparallel : (s.config.engine.isParallel && decide (1 < items.length)) = true
  · rw [if_pos hparallel]
    cases hpool : machine.pool? (s.config.engine.threads machine.processors) with
    | none => rfl
    | some pool =>
        dsimp only
        rw [h _ pool hpool lintOne items]
  · rw [if_neg hparallel]

/-! ### One text of many -/

/-- What the report on a text is, if the text is read with a schema. -/
structure IsReport (s : Linter ρ) (schema : Schema) (name text : String) (r : Report) :
    Prop where
  named : r.name = name
  vendor : r.vendor = schema.id
  nodes : r.nodeCount = (Node.preorderAll (parse schema text)).length
  findings : List.Forall₂ (Reported s.config)
    (Engine.run (.ofSchema schema (parse schema text)) (s.activeRules name)) r.findings
  tallied : r.IsTallied

theorem isReport_lintWith (s : Linter ρ) (schema : Schema) (name text : String) :
    IsReport s schema name text (s.lintWith schema name text) where
  named := rfl
  vendor := rfl
  nodes := congrArg List.length (Tree.walk_eq _)
  findings := by
    rw [findings_lintWith, List.forall₂_map_right_iff, List.forall₂_same]
    exact fun f _ => reported_adjust s.config f
  tallied := Report.isTallied_tally rfl

/-- What becomes of a text, whatever other texts there are. -/
inductive Settles (s : Linter ρ) (job : Job) : Except LintError Report → Prop
  /-- Nobody says the dialect. -/
  | undecided (hjob : job.vendor = none) (hconfig : s.config.vendor = none) :
      Settles s job (.error (.noVendor job.name))
  /-- The dialect that is said is scanned. -/
  | decided {vendor : String} (hvendor : job.vendor.or s.config.vendor = some vendor) :
      Settles s job (s.lint job.name job.text vendor)

theorem settles_lintJob (s : Linter ρ) (job : Job) : Settles s job (s.lintJob job) := by
  unfold lintJob vendorFor
  cases hvendor : job.vendor.or s.config.vendor with
  | some vendor => exact .decided hvendor
  | none =>
      obtain ⟨hjob, hconfig⟩ := Option.or_eq_none_iff.mp hvendor
      exact .undecided hjob hconfig

/-- A report is made with the schema of the dialect. -/
theorem isReport_of_lintJob {s : Linter ρ} {job : Job} {r : Report} (h : s.lintJob job = .ok r) :
    ∃ vendor schema, job.vendor.or s.config.vendor = some vendor ∧
      s.schemas.get? vendor = some schema ∧ IsReport s schema job.name job.text r := by
  generalize houtcome : s.lintJob job = outcome at h
  have hsettles := settles_lintJob s job
  rw [houtcome] at hsettles
  cases hsettles with
  | undecided hjob hconfig => cases h
  | @decided vendor hvendor =>
      unfold lint at h
      cases hschema : s.schemas.get? vendor with
      | none => rw [hschema] at h; cases h
      | some schema =>
          rw [hschema] at h
          cases h
          exact ⟨vendor, schema, hvendor, hschema, isReport_lintWith s schema job.name job.text⟩

/--
**A batch neither loses nor mixes texts, and its exit code says the worst of them.**

Each text settles for itself, and the reports and the errors are those of the texts in their
order, however many threads there are.  Each report belongs to a text and says what the scan of
that text found, its levels overridden by the settings.  The exit code is 2 if a text could not
be scanned or a failure is an error, 1 if there is no such thing but a failure that is a
warning, and 0 otherwise.
-/
theorem lintAll_batch (s : Linter ρ) (jobs : List Job) {machine : Machine}
    (h : machine.CollectsInOrder) :
    let batch := s.lintAll jobs machine
    let isUnscanned := ∃ job ∈ jobs, ∃ e, s.lintJob job = .error e
    (∀ job ∈ jobs, Settles s job (s.lintJob job)) ∧
      batch.reports = jobs.filterMap (fun job => (s.lintJob job).toOption) ∧
      batch.errors = jobs.filterMap (fun job => Summary.failure? (job.name, s.lintJob job)) ∧
      batch.reports.length + batch.errors.length = jobs.length ∧
      (∀ r ∈ batch.reports, ∃ job ∈ jobs, ∃ vendor schema,
        job.vendor.or s.config.vendor = some vendor ∧ s.schemas.get? vendor = some schema ∧
          IsReport s schema job.name job.text r) ∧
      (batch.exitCode = 2 ↔ isUnscanned ∨ batch.FailsAt .error) ∧
      (batch.exitCode = 1 ↔ ¬(isUnscanned ∨ batch.FailsAt .error) ∧ batch.FailsAt .warning) ∧
      (batch.exitCode = 0 ↔ ¬(isUnscanned ∨ batch.FailsAt .error) ∧ ¬batch.FailsAt .warning) := by
  intro batch isUnscanned
  have hbatch : batch = .ofOutcomes (jobs.map fun job => (job.name, s.lintJob job)) :=
    runAll_eq s h jobs _
  have hreports : batch.reports = jobs.filterMap (fun job => (s.lintJob job).toOption) := by
    rw [hbatch, Summary.ofOutcomes_eq]
    exact List.filterMap_map
  have herrors : batch.errors
      = jobs.filterMap (fun job => Summary.failure? (job.name, s.lintJob job)) := by
    rw [hbatch, Summary.ofOutcomes_eq]
    exact List.filterMap_map
  have hlength : batch.reports.length + batch.errors.length = jobs.length := by
    rw [hbatch, Summary.length_ofOutcomes, List.length_map]
  have hjob : ∀ r ∈ batch.reports, ∃ job ∈ jobs, ∃ vendor schema,
      job.vendor.or s.config.vendor = some vendor ∧ s.schemas.get? vendor = some schema ∧
        IsReport s schema job.name job.text r := by
    intro r hr
    rw [hreports] at hr
    obtain ⟨job, hjob, hr⟩ := List.mem_filterMap.mp hr
    exact ⟨job, hjob, isReport_of_lintJob (Summary.eq_ok_of_toOption hr)⟩
  have htallied : ∀ r ∈ batch.reports, r.IsTallied := by
    intro r hr
    obtain ⟨_, _, _, _, _, _, hreport⟩ := hjob r hr
    exact hreport.tallied
  have hunscanned : batch.errors ≠ [] ↔ isUnscanned := by
    rw [herrors, ne_eq, List.filterMap_eq_nil_iff]
    push Not
    refine exists_congr fun job => and_congr_right fun _ => ?_
    cases s.lintJob job <;> simp [Summary.failure?]
  rw [← hunscanned]
  exact ⟨fun job _ => settles_lintJob s job, hreports, herrors, hlength, hjob,
    Summary.exitCode_eq_iff htallied⟩

/-- Two threads that begin at the end of a list, and still give the results in its order. -/
def lastFirst : Machine := ⟨2, fun _ => some ⟨fun f as => (as.reverse.map f).reverse⟩⟩

theorem lastFirst_collectsInOrder : lastFirst.CollectsInOrder := by
  intro threads p hp α β f as
  cases hp
  exact (congrArg List.reverse List.map_reverse).trans (List.reverse_reverse _)

/-- The second of the two texts does not say its dialect. -/
def mixedJobs : List Job :=
  [⟨"r1", "interface Gi0/1\n shutdown\n", some "ios"⟩, ⟨"r2", "interface Gi0/2\n", none⟩]

theorem lintAll_batch_mixed :
    let batch := strictLinter.lintAll mixedJobs lastFirst
    batch.reports.map (fun r => (r.name, r.failed)) = [("r1", 2)] ∧
      batch.errors.map Prod.fst = ["r2"] ∧ batch.exitCode = 2 := by
  intro batch
  obtain ⟨-, hreports, herrors, -, -, htwo, -⟩ :=
    lintAll_batch strictLinter mixedJobs lastFirst_collectsInOrder
  refine ⟨?_, ?_, htwo.mpr (.inl ⟨⟨"r2", "interface Gi0/2\n", none⟩, by simp [mixedJobs], _, rfl⟩)⟩
  · rw [hreports]
    decide +kernel
  · rw [herrors]
    decide +kernel

end Linter

end DeviceLint
