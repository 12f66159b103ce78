-- Settings that ask for less never add a problem. Each check is compared
-- with itself under the two settings: where it still finds an error or a
-- warning, it found one of the same severity before.
import Mathlib.Data.List.Basic
import ImageLint.Analysis
import ImageLint.Proofs.ExitStatus
import ImageLint.Proofs.Findings
import ImageLint.Text.Names

namespace ImageLint

/-! ## Settings that ask for less -/

/-- The settings `relaxed` ask for no more than `config`: more layers go
without a warning, more images count as light, more removals count as a
cleanup, fewer texts and patterns are looked for, fewer exclusions must be
there, and fewer rules are run. All else is the same. -/
structure Config.Relaxes (relaxed config : Config) : Prop where
  runThreshold : config.runThreshold ≤ relaxed.runThreshold
  lightweightMarkers : config.lightweightMarkers ⊆ relaxed.lightweightMarkers
  treatUntaggedAsLatest :
    relaxed.treatUntaggedAsLatest = true → config.treatUntaggedAsLatest = true
  fetchIndicators : relaxed.fetchIndicators ⊆ config.fetchIndicators
  buildToolPatterns : relaxed.buildToolPatterns ⊆ config.buildToolPatterns
  unnecessaryCopyPatterns : relaxed.unnecessaryCopyPatterns ⊆ config.unnecessaryCopyPatterns
  customRules : relaxed.customRules.Sublist config.customRules
  criticalExclusions : relaxed.criticalExclusions ⊆ config.criticalExclusions
  tempCleanupPatterns : config.tempCleanupPatterns ⊆ relaxed.tempCleanupPatterns
  disabledRules : config.disabledRules ⊆ relaxed.disabledRules
  minExclusionRules : relaxed.minExclusionRules = config.minExclusionRules
  advisoryExclusions : relaxed.advisoryExclusions = config.advisoryExclusions
  heavyDistributions : relaxed.heavyDistributions = config.heavyDistributions
  packageManagers : relaxed.packageManagers = config.packageManagers
  apkBuildDeps : relaxed.apkBuildDeps = config.apkBuildDeps

/-- What the checks look at under settings that ask for less. -/
structure Subject.Relaxes (relaxed subject : Subject) : Prop where
  script : relaxed.script = subject.script
  facts : relaxed.facts = subject.facts
  state : relaxed.exclusions.state = subject.exclusions.state
  count : relaxed.exclusions.count = subject.exclusions.count
  missingCritical :
    subject.exclusions.missingCritical = [] → relaxed.exclusions.missingCritical = []
  config : relaxed.config.Relaxes subject.config

theorem missing_eq_nil_of_subset {catalog fewer : List (Text × Text)} (h : fewer ⊆ catalog)
    {rules : List Text} (hnone : Exclusions.missing catalog rules = []) :
    Exclusions.missing fewer rules = [] := by
  unfold Exclusions.missing at hnone ⊢
  rw [List.map_eq_nil_iff, List.filter_eq_nil_iff] at hnone ⊢
  intro entry hentry
  exact hnone entry (h hentry)

variable {relaxed config : Config}

/-- The exclusion file is in the same state, and lacks nothing that it did not
lack. -/
theorem Config.Relaxes.classify (h : relaxed.Relaxes config) (content : Option Text) :
    (Exclusions.classify relaxed content).state = (Exclusions.classify config content).state ∧
      (Exclusions.classify relaxed content).count = (Exclusions.classify config content).count ∧
      ((Exclusions.classify config content).missingCritical = [] →
        (Exclusions.classify relaxed content).missingCritical = []) := by
  cases content with
  | none => exact ⟨rfl, rfl, id⟩
  | some content =>
    unfold Exclusions.classify
    dsimp only
    rw [h.minExclusionRules]
    split
    · exact ⟨rfl, rfl, id⟩
    split
    · exact ⟨rfl, rfl, missing_eq_nil_of_subset h.criticalExclusions⟩
    · exact ⟨rfl, rfl, id⟩

theorem Config.Relaxes.derive [Characters] (h : relaxed.Relaxes config) (script : BuildScript) :
    Facts.derive script relaxed = Facts.derive script config := by
  unfold Facts.derive
  rw [h.packageManagers]

theorem Config.Relaxes.prepare [Characters] (h : relaxed.Relaxes config) {script : BuildScript}
    {content : Option Text} {subject subject' : Subject}
    (hsubject : Subject.prepare script (.classify config content) config = .ok subject)
    (hsubject' : Subject.prepare script (.classify relaxed content) relaxed = .ok subject') :
    subject'.Relaxes subject := by
  obtain ⟨facts, hfacts, heq⟩ := bind_eq_ok_iff.mp hsubject
  obtain ⟨facts', hfacts', heq'⟩ := bind_eq_ok_iff.mp hsubject'
  rw [h.derive, hfacts] at hfacts'
  cases hfacts'
  cases heq
  cases heq'
  obtain ⟨hstate, hcount, hmissing⟩ := h.classify content
  exact ⟨rfl, rfl, hstate, hcount, hmissing, h⟩

/-! ## Findings with fewer problems -/

/-- The findings hold no more errors and no more warnings than the others. -/
def Milder (found others : List Finding) : Prop :=
  ∀ severity, severity ≠ .info →
    found.countP (Verdict.counts severity) ≤ others.countP (Verdict.counts severity)

theorem Milder.refl (found : List Finding) : Milder found found := fun _ _ => Nat.le_refl _

theorem milder_nil (others : List Finding) : Milder [] others := fun _ _ => Nat.zero_le _

/-- Notes that are no problem are milder than anything. -/
theorem milder_of_quiet {found : List Finding}
    (h : ∀ f ∈ found, f.passed = true ∨ f.severity = .info) (others : List Finding) :
    Milder found others := by
  intro severity hne
  have hzero : found.countP (Verdict.counts severity) = 0 := by
    rw [List.countP_eq_zero]
    intro f hf
    rcases h f hf with hpassed | hinfo
    · simp [Verdict.counts, hpassed]
    · simp [Verdict.counts, hinfo, hne.symm]
  rw [hzero]
  exact Nat.zero_le _

/-- Of two single findings of one severity neither is worse. -/
theorem milder_single {f g : Finding} (hseverity : f.severity = g.severity)
    (hpassed : f.passed = g.passed) : Milder [f] [g] := by
  intro severity _
  have hcounts : Verdict.counts severity f = Verdict.counts severity g := by
    simp [Verdict.counts, hseverity, hpassed]
  simp [List.countP_cons, hcounts]

theorem Milder.append {found others more moreOthers : List Finding} (h : Milder found others)
    (hmore : Milder more moreOthers) : Milder (found ++ more) (others ++ moreOthers) := by
  intro severity hne
  rw [List.countP_append, List.countP_append]
  exact Nat.add_le_add (h severity hne) (hmore severity hne)

/-- The check finds no more problems in the relaxed subject, where it ends
well in both. -/
def Eases (check : Check) (relaxed subject : Subject) : Prop :=
  ∀ found others, check relaxed = .ok found → check subject = .ok others → Milder found others

theorem eases_of_eq {check : Check} {relaxed subject : Subject}
    (h : check relaxed = check subject) : Eases check relaxed subject := by
  intro found others hfound hothers
  rw [h, hothers] at hfound
  cases hfound
  exact Milder.refl _

namespace Rules

variable {relaxed subject : Subject}

/-! ## The rules that the settings do not touch -/

theorem exclusionFile_eases (h : relaxed.Relaxes subject) :
    Eases exclusionFile relaxed subject := by
  refine eases_of_eq ?_
  unfold exclusionFile
  rw [h.state, h.count]

theorem workdirMissing_eases (h : relaxed.Relaxes subject) :
    Eases workdirMissing relaxed subject := by
  refine eases_of_eq ?_
  unfold workdirMissing
  rw [h.script]

theorem copyWholeContext_eases [Characters] (h : relaxed.Relaxes subject) :
    Eases copyWholeContext relaxed subject := by
  refine eases_of_eq ?_
  unfold copyWholeContext
  rw [h.script]

theorem labelMissing_eases (h : relaxed.Relaxes subject) :
    Eases labelMissing relaxed subject := by
  refine eases_of_eq ?_
  unfold labelMissing
  rw [h.script]

theorem exposeMissing_eases (h : relaxed.Relaxes subject) :
    Eases exposeMissing relaxed subject := by
  refine eases_of_eq ?_
  unfold exposeMissing
  rw [h.script]

theorem healthcheckMissing_eases (h : relaxed.Relaxes subject) :
    Eases healthcheckMissing relaxed subject := by
  refine eases_of_eq ?_
  unfold healthcheckMissing
  rw [h.script]

theorem rootUser_eases [Characters] (h : relaxed.Relaxes subject) : Eases rootUser relaxed subject
    := by
  refine eases_of_eq ?_
  unfold rootUser
  rw [h.script]

theorem addInsteadOfCopy_eases [Characters] (h : relaxed.Relaxes subject) :
    Eases addInsteadOfCopy relaxed subject := by
  refine eases_of_eq ?_
  unfold addInsteadOfCopy
  rw [h.script]

theorem unparsedLine_eases (h : relaxed.Relaxes subject) :
    Eases unparsedLine relaxed subject := by
  refine eases_of_eq ?_
  unfold unparsedLine
  rw [h.script]

theorem calledManagers_relaxed (h : relaxed.Relaxes subject) :
    calledManagers relaxed = calledManagers subject := by
  unfold calledManagers
  rw [h.facts, h.config.packageManagers]

theorem installRecommends_eases [Characters] (h : relaxed.Relaxes subject) :
    Eases installRecommends relaxed subject := by
  refine eases_of_eq ?_
  unfold installRecommends
  rw [calledManagers_relaxed h, h.facts]

theorem packageCacheCleanup_eases [Characters] (h : relaxed.Relaxes subject) :
    Eases packageCacheCleanup relaxed subject := by
  refine eases_of_eq ?_
  unfold packageCacheCleanup
  rw [calledManagers_relaxed h, h.facts]

theorem updateInstallSplit_eases [Characters] (h : relaxed.Relaxes subject) :
    Eases updateInstallSplit relaxed subject := by
  refine eases_of_eq ?_
  unfold updateInstallSplit
  rw [calledManagers_relaxed h, h.facts]

theorem apkVirtualDeps_eases [Characters] (h : relaxed.Relaxes subject) :
    Eases apkVirtualDeps relaxed subject := by
  refine eases_of_eq ?_
  unfold apkVirtualDeps
  rw [calledManagers_relaxed h, h.facts, h.config.apkBuildDeps]

/-! ## The rules that the settings ease -/

/-- Missing critical exclusions may give way to missing advisable ones, which
are no problem. -/
theorem exclusionCoverage_eases (h : relaxed.Relaxes subject) :
    Eases exclusionCoverage relaxed subject := by
  intro found others hfound hothers
  unfold exclusionCoverage at hfound hothers
  dsimp only at hfound hothers
  rw [h.state] at hfound
  cases hfound
  cases hothers
  split
  · exact milder_nil _
  split
  · rename_i hmissing
    have hmissing' : (!subject.exclusions.missingCritical.isEmpty) = true := by
      by_contra hnone
      have hnil := h.missingCritical (by simpa using hnone)
      simp [hnil] at hmissing
    rw [if_pos hmissing']
    exact milder_single rfl rfl
  split
  · exact milder_of_quiet (by simp) _
  · exact milder_of_quiet (by simp [Finding.pass]) _

theorem isLightweight_of_subset {marks more : List Text} (h : marks ⊆ more) {reference : Text}
    (hlight : ImageReference.isLightweight reference marks = true) :
    ImageReference.isLightweight reference more = true := by
  unfold ImageReference.isLightweight at hlight ⊢
  rw [List.any_eq_true] at hlight ⊢
  obtain ⟨mark, hmark, hholds⟩ := hlight
  exact ⟨mark, h hmark, hholds⟩

theorem baseImageWeight_eases [Characters] (h : relaxed.Relaxes subject) :
    Eases baseImageWeight relaxed subject := by
  intro found others hfound hothers
  unfold baseImageWeight at hfound hothers
  dsimp only at hfound hothers
  rw [h.script, h.config.heavyDistributions] at hfound
  cases hbase : subject.script.baseImage? with
  | none =>
    rw [hbase] at hfound
    cases hfound
    exact milder_of_quiet (by simp) _
  | some base =>
    simp only [hbase] at hfound hothers
    split at hfound
    · cases hfound
      exact milder_of_quiet (by simp [Finding.pass]) _
    · rename_i hheavy
      have hheavy' : ¬ ImageReference.isLightweight base.imageReference
          subject.config.lightweightMarkers = true :=
        fun hlight => hheavy (isLightweight_of_subset h.config.lightweightMarkers hlight)
      rw [if_neg hheavy'] at hothers
      rw [hothers] at hfound
      cases hfound
      exact Milder.refl _

theorem isFloating_of_relaxes (h : relaxed.config.Relaxes subject.config) {reference : Text}
    (hfloats : isFloating relaxed.config reference = true) :
    isFloating subject.config reference = true := by
  unfold isFloating at hfloats ⊢
  split at hfloats
  · exact hfloats
  · exact h.treatUntaggedAsLatest hfloats

theorem baseImageTag_eases [Characters] (h : relaxed.Relaxes subject) :
    Eases baseImageTag relaxed subject := by
  intro found others hfound hothers
  unfold baseImageTag at hfound hothers
  dsimp only at hfound hothers
  rw [h.script] at hfound
  cases hfound
  cases hothers
  split
  · exact milder_nil _
  split
  · exact milder_nil _
  split
  · rename_i base _ hheavy hfloats
    have hheavy' : ¬ ImageReference.isLightweight base.imageReference
        subject.config.lightweightMarkers = true :=
      fun hlight => hheavy (isLightweight_of_subset h.config.lightweightMarkers hlight)
    rw [if_neg hheavy', if_pos (isFloating_of_relaxes h.config hfloats)]
    exact milder_single rfl rfl
  · exact milder_nil _

theorem runCount_eases (h : relaxed.Relaxes subject) : Eases runCount relaxed subject := by
  intro found others hfound hothers
  unfold runCount at hfound hothers
  dsimp only at hfound hothers
  rw [h.facts, h.script] at hfound
  cases hfound
  cases hothers
  have hle := h.config.runThreshold
  split
  · rename_i hmany
    rw [if_pos (Nat.lt_of_le_of_lt hle hmany)]
    exact milder_single rfl rfl
  split
  · exact milder_of_quiet (by simp [Finding.pass]) _
  · exact milder_nil _

theorem copyUnnecessaryFiles_eases (h : relaxed.Relaxes subject) :
    Eases copyUnnecessaryFiles relaxed subject := by
  intro found others hfound hothers
  unfold copyUnnecessaryFiles at hfound hothers
  dsimp only at hfound hothers
  rw [h.script] at hfound
  cases hfound
  cases hothers
  split
  · exact milder_nil _
  · rename_i i pattern hhit
    split
    · rename_i hnone
      exfalso
      obtain ⟨copy, hcopy, hin⟩ := List.exists_of_findSome?_eq_some hhit
      obtain ⟨found, hfind, _⟩ := Option.map_eq_some_iff.mp hin
      have hnothing := List.findSome?_eq_none_iff.mp hnone copy hcopy
      rw [unnecessaryIn, Option.map_eq_none_iff, List.find?_eq_none] at hnothing
      have hmem := h.config.unnecessaryCopyPatterns (List.mem_of_find?_eq_some hfind)
      have hholds : Text.holds found copy.argument = true :=
        List.find?_some (p := fun pattern => Text.holds pattern copy.argument) hfind
      exact hnothing found hmem hholds
    · exact milder_single rfl rfl

theorem fetching_of_subset {fewer indicators : List Text} (h : fewer ⊆ indicators)
    {commands : List Command}
    (hnone : commands.filter (fun c => indicators.any (Text.holds · c.text)) = []) :
    commands.filter (fun c => fewer.any (Text.holds · c.text)) = [] := by
  rw [List.filter_eq_nil_iff] at hnone ⊢
  intro c hc hfetches
  obtain ⟨indicator, hin, hholds⟩ := List.any_eq_true.mp hfetches
  exact hnone c hc (List.any_eq_true.mpr ⟨indicator, h hin, hholds⟩)

/-- Where more patterns count as a cleanup, what was cleaned up after still
is. -/
theorem cleaned_of_subset [Characters] {patterns more : List Text} (h : patterns ⊆ more)
    {commands : List Command}
    (hcleaned : commands.anyM (fun c => removesTemp c.text patterns) = .ok true) :
    commands.anyM (fun c => removesTemp c.text more) ≠ .ok false :=
  anyM_ne_false (List.Subset.refl _)
    (fun c _ hremoves => anyM_ne_false h (fun _ _ hfound => by simp [hfound]) hremoves) hcleaned

theorem tempFileCleanup_eases [Characters] (h : relaxed.Relaxes subject) :
    Eases tempFileCleanup relaxed subject := by
  intro found others hfound hothers
  unfold tempFileCleanup at hfound hothers
  dsimp only at hfound hothers
  rw [h.facts] at hfound
  obtain ⟨cleaned, hcleaned, hfound⟩ := bind_eq_ok_iff.mp hfound
  obtain ⟨cleaned', hcleaned', hothers⟩ := bind_eq_ok_iff.mp hothers
  split at hfound
  · cases hfound
    exact milder_of_quiet (by simp [Finding.pass]) _
  · rename_i hdirty
    simp only [Bool.or_eq_true, List.isEmpty_iff, not_or, Bool.not_eq_true] at hdirty
    obtain ⟨hfetches, rfl⟩ := hdirty
    have hfetches' := mt (fetching_of_subset h.config.fetchIndicators) hfetches
    have hdirty' : cleaned' = false := by
      cases cleaned' with
      | false => rfl
      | true => exact absurd hcleaned (cleaned_of_subset h.config.tempCleanupPatterns hcleaned')
    rw [if_neg (by simpa [hdirty'] using hfetches')] at hothers
    cases hfound
    cases hothers
    exact milder_single rfl rfl

/-- A command that builds under fewer patterns builds under all of them. -/
theorem builds_of_subset [Characters] {fewer patterns : List Text} (h : fewer ⊆ patterns)
    {commands builds builds' : List Command}
    (hbuilds : commands.filterM (fun c => fewer.anyM fun pattern => Pattern.search pattern c.text) =
      .ok builds)
    (hbuilds' : commands.filterM
      (fun c => patterns.anyM fun pattern => Pattern.search pattern c.text) = .ok builds') :
    builds ⊆ builds' := by
  intro c hc
  obtain ⟨hmem, hfound⟩ := (mem_of_filterM hbuilds c).mp hc
  refine (mem_of_filterM hbuilds' c).mpr ⟨hmem, ?_⟩
  obtain ⟨answer, hanswer⟩ := ok_of_filterM hbuilds' hmem
  have hne := anyM_ne_false (q := fun pattern => Pattern.search pattern c.text) h
    (fun _ _ hfound => by simp [hfound]) hfound
  cases answer with
  | true => exact hanswer
  | false => exact absurd hanswer hne

theorem multiStage_eases [Characters] (h : relaxed.Relaxes subject) :
    Eases multiStage relaxed subject := by
  intro found others hfound hothers
  unfold multiStage at hfound hothers
  dsimp only at hfound hothers
  rw [h.facts, h.script] at hfound
  split at hfound
  · rename_i hstages
    rw [if_pos hstages] at hothers
    rw [hothers] at hfound
    cases hfound
    exact Milder.refl _
  · rename_i hstages
    rw [if_neg hstages] at hothers
    obtain ⟨builds, hbuilds, hfound⟩ := bind_eq_ok_iff.mp hfound
    obtain ⟨builds', hbuilds', hothers⟩ := bind_eq_ok_iff.mp hothers
    split at hfound
    · cases hfound
      exact milder_of_quiet (by simp) _
    · rename_i hsome
      have hsub := builds_of_subset h.config.buildToolPatterns hbuilds hbuilds'
      have hsome' : ¬ builds'.isEmpty = true := by
        intro hnone
        rw [List.isEmpty_iff] at hnone hsome
        rw [hnone] at hsub
        exact hsome (List.subset_nil.mp hsub)
      rw [if_neg hsome'] at hothers
      cases hfound
      cases hothers
      exact milder_single rfl rfl

end Rules

/-- No built-in rule finds more problems under settings that ask for less. -/
theorem catalog_eases [Characters] {relaxed subject : Subject} (h : relaxed.Relaxes subject) :
    ∀ rule ∈ catalog, Eases rule.check relaxed subject := by
  unfold catalog
  simp only [List.forall_mem_cons]
  exact ⟨Rules.exclusionFile_eases h, Rules.exclusionCoverage_eases h,
    Rules.baseImageWeight_eases h, Rules.baseImageTag_eases h, Rules.workdirMissing_eases h,
    Rules.installRecommends_eases h, Rules.packageCacheCleanup_eases h,
    Rules.updateInstallSplit_eases h, Rules.apkVirtualDeps_eases h, Rules.tempFileCleanup_eases h,
    Rules.runCount_eases h, Rules.multiStage_eases h, Rules.copyWholeContext_eases h,
    Rules.copyUnnecessaryFiles_eases h, Rules.labelMissing_eases h, Rules.exposeMissing_eases h,
    Rules.healthcheckMissing_eases h, Rules.rootUser_eases h, Rules.addInsteadOfCopy_eases h,
    Rules.unparsedLine_eases h, by simp⟩

/-! ## The whole run -/

theorem enabled_of_relaxed (h : relaxed.Relaxes config) {ruleId : Text}
    (hon : (!relaxed.disabledRules.contains ruleId) = true) :
    (!config.disabledRules.contains ruleId) = true := by
  simp only [List.contains_eq_mem, Bool.not_eq_true', decide_eq_false_iff_not] at hon ⊢
  exact fun hoff => hon (h.disabledRules hoff)

theorem enabledRules_sublist [Characters] (h : relaxed.Relaxes config) :
    (Subject.enabledRules relaxed).Sublist (Subject.enabledRules config) := by
  unfold Subject.enabledRules
  exact List.monotone_filter_right _ fun _ hon => enabled_of_relaxed h hon

theorem enabledDeclared_sublist (h : relaxed.Relaxes config) :
    (relaxed.customRules.filter fun rule => !relaxed.disabledRules.contains rule.ruleId).Sublist
      (config.customRules.filter fun rule => !config.disabledRules.contains rule.ruleId) :=
  (h.customRules.filter _).trans
    (List.monotone_filter_right _ fun _ hon => enabled_of_relaxed h hon)

theorem findings_milder [Characters] {relaxed subject : Subject} (h : relaxed.Relaxes subject)
    {found others : List Finding} (hfound : relaxed.findings = .ok found)
    (hothers : subject.findings = .ok others) : Milder found others := by
  rw [findings_eq] at hfound hothers
  obtain ⟨builtIn, hbuiltIn, hfound⟩ := bind_eq_ok_iff.mp hfound
  obtain ⟨declared, hdeclared, hfound⟩ := bind_eq_ok_iff.mp hfound
  obtain ⟨builtIn', hbuiltIn', hothers⟩ := bind_eq_ok_iff.mp hothers
  obtain ⟨declared', hdeclared', hothers⟩ := bind_eq_ok_iff.mp hothers
  cases hfound
  cases hothers
  unfold Rules.customRules at hdeclared hdeclared'
  rw [h.script] at hdeclared
  refine Milder.append (fun severity hne => ?_) (fun severity _ => ?_)
  · refine countP_flatten_sublist_le (enabledRules_sublist h.config) ?_ hbuiltIn hbuiltIn'
    intro rule hrule fs fs' hfs hfs'
    exact catalog_eases h rule (List.mem_of_mem_filter hrule) fs fs' hfs hfs' severity hne
  · refine countP_flatten_sublist_le (enabledDeclared_sublist h.config) ?_ hdeclared hdeclared'
    intro rule _ fs fs' hfs hfs'
    rw [hfs] at hfs'
    cases hfs'
    exact Nat.le_refl _

/-- Settings that ask for less never add a problem: of two analyses that end
well, the one under the relaxed settings has no more errors and no more
warnings. So a clean script stays clean, and warnings never become errors. -/
theorem relaxing_settings_adds_no_problem [Characters] (lines : List Text) (content : Option Text)
    (config relaxed : Config) (hrelaxes : relaxed.Relaxes config) (strict mild : Analysis)
    (hstrict : analyze lines content config = .ok strict)
    (hmild : analyze lines content relaxed = .ok mild) :
    mild.verdict.errors ≤ strict.verdict.errors ∧
      mild.verdict.warnings ≤ strict.verdict.warnings ∧
      (strict.verdict.exitStatus = 0 → mild.verdict.exitStatus = 0) ∧
      (strict.verdict.exitStatus = 2 → mild.verdict.exitStatus ≠ 1) := by
  obtain ⟨hsubject, hfound, htally⟩ := subject_of_analyze hstrict
  obtain ⟨hsubject', hfound', htally'⟩ := subject_of_analyze hmild
  have hmilder := findings_milder (hrelaxes.prepare hsubject hsubject') hfound' hfound
  have herrors : mild.verdict.errors ≤ strict.verdict.errors := by
    rw [htally, htally']
    exact hmilder .error (by decide)
  have hwarnings : mild.verdict.warnings ≤ strict.verdict.warnings := by
    rw [htally, htally']
    exact hmilder .warning (by decide)
  refine ⟨herrors, hwarnings, ?_, ?_⟩
  · rw [Verdict.exitStatus_eq_zero_iff, Verdict.exitStatus_eq_zero_iff]
    omega
  · rw [Verdict.exitStatus_eq_two_iff, ne_eq, Verdict.exitStatus_eq_one_iff]
    omega

/-- Settings that ask for much. -/
def demanding : Config :=
  { runThreshold := 0
    packageManagers := []
    heavyDistributions := []
    treatUntaggedAsLatest := true
    buildToolPatterns := ["make"]
    tempCleanupPatterns := ["/tmp"]
    customRules := [⟨"no_wget", .warning, "wget", "No wget.", none⟩] }

/-- Settings that ask for less than those at every turn. -/
def lenient : Config :=
  { demanding with
    runThreshold := 2
    lightweightMarkers := "a" :: demanding.lightweightMarkers
    treatUntaggedAsLatest := false
    fetchIndicators := ["wget"]
    buildToolPatterns := []
    unnecessaryCopyPatterns := []
    customRules := []
    criticalExclusions := []
    tempCleanupPatterns := ["/tmp", "b"]
    disabledRules := ["label_missing"] }

theorem lenient_relaxes_demanding : lenient.Relaxes demanding where
  runThreshold := by decide
  lightweightMarkers := by decide
  treatUntaggedAsLatest := by decide
  fetchIndicators := by decide
  buildToolPatterns := by decide
  unnecessaryCopyPatterns := by decide
  customRules := by decide
  criticalExclusions := by decide
  tempCleanupPatterns := by decide
  disabledRules := by decide
  minExclusionRules := rfl
  advisoryExclusions := rfl
  heavyDistributions := rfl
  packageManagers := rfl
  apkBuildDeps := rfl

open scoped Characters

/-- Every setting is relaxed at once: neither the error nor the eight warnings
get more. -/
theorem relaxing_every_setting_adds_no_problem :
    ∃ strict mild,
      analyze ["FROM a", "RUN wget b && make", "RUN rm b", "COPY README /c"] none demanding =
        .ok strict ∧
      analyze ["FROM a", "RUN wget b && make", "RUN rm b", "COPY README /c"] none lenient =
        .ok mild ∧
      (strict.verdict.errors = 1 ∧ strict.verdict.warnings = 8) ∧
      mild.verdict.errors ≤ 1 ∧ mild.verdict.warnings ≤ 8 := by
  obtain ⟨strict, hstrict, herrors, hwarnings⟩ : ∃ strict,
      analyze ["FROM a", "RUN wget b && make", "RUN rm b", "COPY README /c"] none demanding =
        .ok strict ∧ strict.verdict.errors = 1 ∧ strict.verdict.warnings = 8 :=
    ⟨_, by rfl, by decide +kernel, by decide +kernel⟩
  obtain ⟨mild, hmild⟩ := exists_of_isOk (show (analyze
    ["FROM a", "RUN wget b && make", "RUN rm b", "COPY README /c"] none lenient).isOk = true
    by decide +kernel)
  have hle := relaxing_settings_adds_no_problem _ _ _ _ lenient_relaxes_demanding _ _ hstrict hmild
  exact ⟨strict, mild, hstrict, hmild, ⟨herrors, hwarnings⟩, herrors ▸ hle.1, hwarnings ▸ hle.2.1⟩

end ImageLint
