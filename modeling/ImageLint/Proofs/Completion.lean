-- With settings that were loaded, an analysis ends well. The one thing that can
-- stop it is the check of temporary files: it puts a pattern behind another
-- one, where a pattern that can be read alone may be refused for its form.
import ImageLint.Proofs.CheckedSettings
import ImageLint.Proofs.Findings
import ImageLint.Proofs.Removals
import ImageLint.Text.Names

namespace ImageLint

open Pattern (Readable)

variable {E : Pattern.Fault → Prop} {entries : List (Yaml.Value × Yaml.Value)} {subject : Subject}

/-! ## Searches -/

/-- A search for a pattern that can be read does not fail. -/
theorem failsOnly_search [Characters] {source : Text} {flags : Pattern.Flags}
    (h : Readable source flags) (text : Text) : FailsOnly E (Pattern.search source text flags) := by
  obtain ⟨pattern, hread⟩ := h
  unfold Pattern.search
  rw [hread]
  exact nofun

theorem failsOnly_searchAtBuild [Characters] {source : Text} (h : Readable source) (c : Command) :
    FailsOnly E (if c.runsAtBuild then Pattern.search source c.text else pure false) :=
  failsOnly_ite (failsOnly_search h _) (failsOnly_pure _)

/-! ## Facts -/

theorem failsOnly_familiesOf [Characters] (commands : List Command) {managers : List PackageManager}
    (h : ∀ manager ∈ managers, manager.Checked) (families : List (Text × List Nat)) :
    FailsOnly E (Facts.familiesOf commands managers families) := by
  induction managers generalizing families with
  | nil => exact failsOnly_pure _
  | cons manager rest ih =>
    rw [List.forall_mem_cons] at h
    unfold Facts.familiesOf Facts.buildLines
    refine failsOnly_bind (failsOnly_bind ?_ fun _ => failsOnly_pure _) fun _ => ih h.2 _
    exact failsOnly_filterM fun c _ => failsOnly_searchAtBuild h.1.detect c

theorem failsOnly_prepare [Characters] (script : BuildScript) (exclusions : Exclusions)
    {config : Config}
    (h : config.Checked entries) : FailsOnly E (Subject.prepare script exclusions config) := by
  unfold Subject.prepare Facts.derive
  refine failsOnly_bind (failsOnly_bind ?_ fun _ => failsOnly_pure _) fun _ => failsOnly_pure _
  exact failsOnly_familiesOf _ h.packageManagers _

/-! ## The rules of the catalog -/

namespace Rules

theorem failsOnly_heavyFamily? [Characters] (reference : Text) {catalog : List (Text × Text)}
    (h : ∀ entry ∈ catalog, Readable entry.2) :
    FailsOnly E (heavyFamily? reference catalog) := by
  induction catalog with
  | nil => exact failsOnly_pure _
  | cons entry rest ih =>
    rw [List.forall_mem_cons] at h
    unfold heavyFamily?
    -- Checked with letter case heeded, searched for with letter case ignored.
    have hread : Readable entry.2 { ignoreCase := true } :=
      Pattern.Readable.of_ascii_eq (by rfl) h.1
    refine failsOnly_bind (failsOnly_search hread _) fun _ => ?_
    exact failsOnly_ite (failsOnly_pure _) (ih h.2)

theorem failsOnly_baseImageWeight [Characters] (h : subject.config.Checked entries) :
    FailsOnly E (baseImageWeight subject) := by
  unfold baseImageWeight
  dsimp only
  split
  · exact failsOnly_pure _
  · refine failsOnly_ite (failsOnly_pure _) ?_
    exact failsOnly_bind (failsOnly_heavyFamily? _ h.heavyDistributions) fun _ => failsOnly_pure _

/-- Only the package managers of the settings are gone through. -/
theorem failsOnly_forEach [Characters] {managers : List PackageManager}
    {check : PackageManager → Except Pattern.Fault (List Finding)}
    (hchecked : ∀ manager ∈ managers, manager.Checked)
    (h : ∀ manager, manager.Checked → FailsOnly E (check manager)) :
    FailsOnly E (forEach managers check) :=
  failsOnly_bind (failsOnly_mapM fun manager hmanager => h manager (hchecked manager hmanager))
    fun _ => failsOnly_pure _

theorem checked_calledManagers [Characters] (h : subject.config.Checked entries) :
    ∀ manager ∈ calledManagers subject, manager.Checked :=
  fun manager hmanager => h.packageManagers manager (List.mem_filter.mp hmanager).1

theorem failsOnly_installsOf [Characters] (facts : Facts) {manager : PackageManager}
    (h : manager.Checked) :
    FailsOnly E (installsOf facts manager) :=
  failsOnly_filterM fun _ _ => failsOnly_search h.install _

theorem mem_of_given_eq_some {text : Option Text} {pattern : Text} (h : given text = some pattern) :
    pattern ∈ text := by
  unfold given at h
  split at h
  · cases h
  · exact h

theorem failsOnly_installRecommends [Characters] (h : subject.config.Checked entries) :
    FailsOnly E (installRecommends subject) := by
  unfold installRecommends
  refine failsOnly_forEach (checked_calledManagers h) fun manager hmanager => ?_
  split
  · refine failsOnly_bind (failsOnly_installsOf _ hmanager) fun installs => ?_
    exact failsOnly_ite (failsOnly_pure _) (failsOnly_pure _)
  · exact failsOnly_pure _

theorem failsOnly_packageCacheCleanup [Characters] (h : subject.config.Checked entries) :
    FailsOnly E (packageCacheCleanup subject) := by
  unfold packageCacheCleanup
  refine failsOnly_ite (failsOnly_pure _) ?_
  refine failsOnly_forEach (checked_calledManagers h) fun manager hmanager => ?_
  refine failsOnly_bind (failsOnly_installsOf _ hmanager) fun installs => ?_
  refine failsOnly_ite (failsOnly_pure _) (failsOnly_bind ?_ fun _ => ?_)
  · refine failsOnly_anyM fun pattern hpattern => failsOnly_anyM fun c _ => ?_
    exact failsOnly_search (hmanager.cleanup pattern hpattern) _
  · exact failsOnly_ite (failsOnly_pure _) (failsOnly_pure _)

theorem failsOnly_updateInstallSplit [Characters] (h : subject.config.Checked entries) :
    FailsOnly E (updateInstallSplit subject) := by
  unfold updateInstallSplit
  refine failsOnly_forEach (checked_calledManagers h) fun manager hmanager => ?_
  split
  · rename_i pattern hgiven
    have hpattern := hmanager.update pattern (mem_of_given_eq_some hgiven)
    refine failsOnly_bind (failsOnly_filterM fun c _ => failsOnly_searchAtBuild hpattern c)
      fun updates => failsOnly_bind (failsOnly_installsOf _ hmanager) fun installs => ?_
    refine failsOnly_ite (failsOnly_pure _) ?_
    exact failsOnly_ite (failsOnly_pure _) (failsOnly_pure _)
  · exact failsOnly_pure _

theorem failsOnly_apkVirtualDeps [Characters] (h : subject.config.Checked entries) :
    FailsOnly E (apkVirtualDeps subject) := by
  unfold apkVirtualDeps
  refine failsOnly_forEach (fun manager hmanager => checked_calledManagers h manager
    (List.mem_filter.mp hmanager).1) fun manager hmanager => ?_
  refine failsOnly_bind (failsOnly_installsOf _ hmanager) fun installs => failsOnly_bind ?_
    fun _ => failsOnly_ite (failsOnly_pure _) (failsOnly_pure _)
  exact failsOnly_filterM fun c _ =>
    failsOnly_ite (failsOnly_pure _) (failsOnly_search h.apkBuildDeps _)

theorem failsOnly_multiStage [Characters] (h : subject.config.Checked entries) :
    FailsOnly E (multiStage subject) := by
  unfold multiStage
  refine failsOnly_ite (failsOnly_pure _) (failsOnly_bind ?_ fun _ =>
    failsOnly_ite (failsOnly_pure _) (failsOnly_pure _))
  refine failsOnly_filterM fun c _ => failsOnly_anyM fun pattern hpattern => ?_
  exact failsOnly_search (h.buildToolPatterns pattern hpattern) _

/-- The check of temporary files fails for a removal that cannot be read. -/
theorem failsOnly_tempFileCleanup [Characters] (subject : Subject) :
    FailsOnly (fun fault => ∃ pattern ∈ subject.config.tempCleanupPatterns,
      Pattern.read (removalOf pattern) = .error fault) (tempFileCleanup subject) := by
  unfold tempFileCleanup removesTemp
  refine failsOnly_bind ?_ fun _ => failsOnly_ite (failsOnly_pure _) (failsOnly_pure _)
  refine failsOnly_anyM fun c _ => failsOnly_anyM fun pattern hpattern fault hfault => ?_
  refine ⟨pattern, hpattern, ?_⟩
  unfold Pattern.search at hfault
  cases hread : Pattern.read (removalOf pattern) with
  | ok read =>
    rw [hread] at hfault
    cases hfault
  | error refused =>
    rw [hread] at hfault
    cases hfault
    rfl

theorem failsOnly_customRules [Characters] (h : subject.config.Checked entries) :
    FailsOnly E (customRules subject) := by
  unfold customRules
  refine failsOnly_bind (failsOnly_mapM fun rule hrule => ?_) fun _ => failsOnly_pure _
  obtain ⟨pattern, hread⟩ := (h.customRules rule (List.mem_filter.mp hrule).1).pattern
  -- The pattern is read once, whichever instructions there are.
  unfold customRule matchingLines
  rw [hread]
  exact nofun

end Rules

open Rules in
/-- The check of temporary files is the only built-in rule that can fail. -/
theorem failsOnly_check [Characters] (h : subject.config.Checked entries) :
    ∀ rule ∈ catalog,
      FailsOnly E (rule.check subject) ∨ rule = ⟨"temp_file_cleanup", tempFileCleanup⟩ := by
  unfold catalog
  simp only [List.forall_mem_cons]
  exact ⟨.inl (failsOnly_pure _), .inl (failsOnly_pure _), .inl (failsOnly_baseImageWeight h),
    .inl (failsOnly_pure _), .inl (failsOnly_pure _), .inl (failsOnly_installRecommends h),
    .inl (failsOnly_packageCacheCleanup h), .inl (failsOnly_updateInstallSplit h),
    .inl (failsOnly_apkVirtualDeps h), .inr trivial, .inl (failsOnly_pure _),
    .inl (failsOnly_multiStage h), .inl (failsOnly_pure _), .inl (failsOnly_pure _),
    .inl (failsOnly_pure _), .inl (failsOnly_pure _), .inl (failsOnly_pure _),
    .inl (failsOnly_pure _), .inl (failsOnly_pure _), .inl (failsOnly_pure _), by simp⟩

/-! ## The law -/

/-- The check of temporary files is enabled, and stops with the fault. -/
def StopsCleanup [Characters] (subject : Subject) (fault : Pattern.Fault) : Prop :=
  "temp_file_cleanup".toList ∉ subject.config.disabledRules ∧
    Rules.tempFileCleanup subject = .error fault

theorem failsOnly_findings [Characters] (h : subject.config.Checked entries) :
    FailsOnly (StopsCleanup subject) subject.findings := by
  rw [findings_eq]
  refine failsOnly_bind (failsOnly_bind (failsOnly_mapM fun rule hrule => ?_) fun _ =>
    failsOnly_pure _) fun _ => failsOnly_bind (Rules.failsOnly_customRules h) fun _ =>
    failsOnly_pure _
  obtain ⟨hmem, henabled⟩ := List.mem_filter.mp hrule
  rcases failsOnly_check h rule hmem with hcheck | rfl
  · exact hcheck
  · exact fun fault hfault => ⟨by simpa using henabled, hfault⟩

theorem failsOnly_analyze [Characters] {lines : List Text} {exclusionContent : Option Text}
    {config : Config}
    (hsubject : Subject.prepare (.ofLines lines) (.classify config exclusionContent) config =
      .ok subject) (h : subject.config.Checked entries) :
    FailsOnly (StopsCleanup subject) (analyze lines exclusionContent config) := by
  unfold analyze
  dsimp only
  rw [hsubject]
  change FailsOnly _ (subject.findings >>= _)
  exact failsOnly_bind (failsOnly_findings h) fun _ => failsOnly_pure _

/-- With settings that were loaded, every rule but one finds what it finds, and
so do the declared rules. An analysis that fails does so in the check of
temporary files, which is enabled, for a pattern that can be read alone and not
in a removal, and what is wrong there is the form of the pattern. -/
theorem only_a_removal_can_stop_an_analysis [Characters] (source : Text) (value : Yaml.Value)
    (config : Config)
    (hload : (Config.loadValue source value).result = .ok config) (lines : List Text)
    (exclusionContent : Option Text) :
    config.Checked (Config.entriesOf value) ∧
    ∃ subject,
      Subject.prepare (.ofLines lines) (.classify config exclusionContent) config = .ok subject ∧
      (∀ rule ∈ catalog, rule.ruleId ≠ "temp_file_cleanup" →
        ∃ found, rule.check subject = .ok found) ∧
      (∃ found, Rules.customRules subject = .ok found) ∧
      ∀ fault, analyze lines exclusionContent config = .error fault →
        "temp_file_cleanup".toList ∉ config.disabledRules ∧
        Rules.tempFileCleanup subject = .error fault ∧ fault.cause.kind = .malformed ∧
        ∃ pattern ∈ config.tempCleanupPatterns, Readable pattern ∧
          Pattern.read (Rules.removalOf pattern) = .error fault := by
  have hchecked := Config.checked_of_loadValue hload
  obtain ⟨subject, hsubject⟩ := exists_ok_of_failsOnly
    (failsOnly_prepare (.ofLines lines) (.classify config exclusionContent) hchecked)
  obtain rfl := config_of_prepare hsubject
  refine ⟨hchecked, subject, hsubject, fun rule hrule hother => ?_, ?_, fun fault hfault => ?_⟩
  · rcases failsOnly_check hchecked rule hrule with hcheck | rfl
    · exact exists_ok_of_failsOnly hcheck
    · exact absurd rfl hother
  · exact exists_ok_of_failsOnly (Rules.failsOnly_customRules hchecked)
  · obtain ⟨henabled, htemp⟩ := failsOnly_analyze hsubject hchecked fault hfault
    obtain ⟨pattern, hpattern, hread⟩ := Rules.failsOnly_tempFileCleanup subject fault htemp
    have hreadable := hchecked.tempCleanupPatterns pattern hpattern
    exact ⟨henabled, htemp, hreadable.removal hread, pattern, hpattern, hreadable, hread⟩

/-- A configuration with a pattern that starts with a flag. -/
def flaggedCleanup : Yaml.Value :=
  .map [(.str "temp_cleanup_patterns", .list [.str "(?i)x"])]

open scoped Characters

/-- A flag is accepted at the start of a pattern, but a removal has it elsewhere. -/
theorem a_flag_stops_the_check_of_temporary_files :
    ∃ config fault, (Config.loadValue "<config>" flaggedCleanup).result = .ok config ∧
      analyze ["RUN rm x"] none config = .error fault ∧ fault.cause.kind = .malformed := by
  obtain ⟨config, fault, hload, hfault⟩ : ∃ config fault,
      (Config.loadValue "<config>" flaggedCleanup).result = .ok config ∧
        analyze ["RUN rm x"] none config = .error fault := ⟨_, _, by rfl, by rfl⟩
  obtain ⟨_, _, _, _, _, hstops⟩ :=
    only_a_removal_can_stop_an_analysis "<config>" flaggedCleanup config hload ["RUN rm x"] none
  exact ⟨config, fault, hload, hfault, (hstops fault hfault).2.2.1⟩

end ImageLint
