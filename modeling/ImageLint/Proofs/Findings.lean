-- What the findings of a built-in rule have in common: the name of the rule,
-- its section of the report, and how serious they can be. Only three of the
-- rules find errors.
import Mathlib.Data.List.Forall2
import ImageLint.Analysis
import ImageLint.Proofs.Outcomes

namespace ImageLint.Rules

/-- The built-in rules that find errors. -/
def strictRules : List Text := ["exclusion_file", "base_image_tag", "root_user"]

/-- The finding is one of the rule `ruleId`, for the section `topic`. A note
that a check passed is no more than that. -/
structure Fits (ruleId : Text) (topic : Int) (f : Finding) : Prop where
  ruleId_eq : f.ruleId = ruleId
  topic_eq : f.topic = topic
  strict : f.severity = .error → ruleId ∈ strictRules
  quiet : f.passed = true → f.severity = .info ∧ f.lines = [] ∧ f.tip = none

theorem fits_pass (ruleId : Text) (topic : Int) (message : Text) :
    Fits ruleId topic (.pass ruleId topic message) :=
  ⟨rfl, rfl, by simp [Finding.pass], fun _ => ⟨rfl, rfl, rfl⟩⟩

section

variable {ruleId message : Text} {topic : Int} {lines : List Int} {tip : Option Text}

theorem fits_warning :
    Fits ruleId topic ⟨ruleId, .warning, message, lines, topic, tip, false⟩ :=
  ⟨rfl, rfl, by simp, by simp⟩

theorem fits_info : Fits ruleId topic ⟨ruleId, .info, message, lines, topic, tip, false⟩ :=
  ⟨rfl, rfl, by simp, by simp⟩

theorem fits_error (h : ruleId ∈ strictRules) :
    Fits ruleId topic ⟨ruleId, .error, message, lines, topic, tip, false⟩ :=
  ⟨rfl, rfl, fun _ => h, by simp⟩

end

variable {P : Finding → Prop}

theorem each_nil : Each P (pure []) := each_pure (by simp)

theorem each_one {f : Finding} (h : P f) : Each P (pure [f]) := each_pure (by simpa using h)

theorem each_forEach {managers : List PackageManager}
    {check : PackageManager → Except Pattern.Fault (List Finding)}
    (h : ∀ manager ∈ managers, Each P (check manager)) : Each P (forEach managers check) :=
  each_flatten h

/-! ## The rules of the catalog -/

theorem exclusionFile_fits (subject : Subject) :
    Each (Fits "exclusion_file" 0) (exclusionFile subject) := by
  unfold exclusionFile
  cases subject.exclusions.state
  · exact each_one fits_warning
  · exact each_one (fits_error (by simp [strictRules]))
  · exact each_one (fits_error (by simp [strictRules]))
  · exact each_one fits_warning
  · exact each_one (fits_pass ..)

theorem exclusionCoverage_fits (subject : Subject) :
    Each (Fits "exclusion_coverage" 0) (exclusionCoverage subject) := by
  unfold exclusionCoverage
  dsimp only
  split
  · exact each_nil
  split
  · exact each_one fits_warning
  split
  · exact each_one fits_info
  · exact each_one (fits_pass ..)

theorem weightFinding_fits (reference : Text) (line : Nat) (family : Option Text) :
    Fits "base_image_weight" 1 (weightFinding reference line family) := by
  unfold weightFinding
  split
  · exact fits_info
  · exact fits_info
  · exact fits_warning

theorem baseImageWeight_fits [Characters] (subject : Subject) :
    Each (Fits "base_image_weight" 1) (baseImageWeight subject) := by
  unfold baseImageWeight
  dsimp only
  split
  · exact each_one fits_info
  split
  · exact each_one (fits_pass ..)
  · exact each_bind fun family => each_one (weightFinding_fits _ _ family)

theorem baseImageTag_fits [Characters] (subject : Subject) :
    Each (Fits "base_image_tag" 1) (baseImageTag subject) := by
  unfold baseImageTag
  dsimp only
  split
  · exact each_nil
  split
  · exact each_nil
  split
  · exact each_one (fits_error (by simp [strictRules]))
  · exact each_nil

theorem workdirMissing_fits (subject : Subject) :
    Each (Fits "workdir_missing" 2) (workdirMissing subject) := by
  unfold workdirMissing
  split
  · exact each_one (fits_pass ..)
  · exact each_one fits_warning

theorem installRecommends_fits [Characters] (subject : Subject) :
    Each (Fits "install_recommends" 3) (installRecommends subject) := by
  unfold installRecommends
  refine each_forEach fun manager _ => ?_
  split
  · refine each_bind fun installs => ?_
    dsimp only
    split
    · exact each_nil
    · exact each_one fits_warning
  · exact each_nil

theorem packageCacheCleanup_fits [Characters] (subject : Subject) :
    Each (Fits "package_cache_cleanup" 3) (packageCacheCleanup subject) := by
  unfold packageCacheCleanup
  dsimp only
  split
  · exact each_one (fits_pass ..)
  refine each_forEach fun manager _ => each_bind fun installs => ?_
  split
  · exact each_nil
  refine each_bind fun cleaned => ?_
  split
  · exact each_nil
  · exact each_one fits_warning

theorem updateInstallSplit_fits [Characters] (subject : Subject) :
    Each (Fits "update_install_split" 3) (updateInstallSplit subject) := by
  unfold updateInstallSplit
  refine each_forEach fun manager _ => ?_
  split
  · refine each_bind fun updates => each_bind fun installs => ?_
    split
    · exact each_nil
    split
    · exact each_nil
    · exact each_one fits_warning
  · exact each_nil

theorem apkVirtualDeps_fits [Characters] (subject : Subject) :
    Each (Fits "apk_virtual_deps" 3) (apkVirtualDeps subject) := by
  unfold apkVirtualDeps
  refine each_forEach fun manager _ => each_bind fun installs => each_bind fun offending => ?_
  split
  · exact each_nil
  · exact each_one fits_info

theorem tempFileCleanup_fits [Characters] (subject : Subject) :
    Each (Fits "temp_file_cleanup" 4) (tempFileCleanup subject) := by
  unfold tempFileCleanup
  refine each_bind fun cleaned => ?_
  split
  · exact each_one (fits_pass ..)
  · exact each_one fits_warning

theorem runCount_fits (subject : Subject) : Each (Fits "run_count" 5) (runCount subject) := by
  unfold runCount
  dsimp only
  split
  · exact each_one fits_warning
  split
  · exact each_one (fits_pass ..)
  · exact each_nil

theorem multiStage_fits [Characters] (subject : Subject) :
    Each (Fits "multi_stage" 6) (multiStage subject) := by
  unfold multiStage
  dsimp only
  split
  · refine each_pure fun f hf => ?_
    rcases List.mem_cons.mp hf with rfl | hf
    · exact fits_pass ..
    · split at hf
      · simp at hf
      · rw [List.mem_singleton.mp hf]
        exact fits_pass ..
  refine each_bind fun builds => ?_
  split
  · exact each_one fits_info
  · exact each_one fits_warning

theorem copyWholeContext_fits [Characters] (subject : Subject) :
    Each (Fits "copy_whole_context" 7) (copyWholeContext subject) := by
  unfold copyWholeContext
  dsimp only
  split
  · exact each_one (fits_pass ..)
  · exact each_one fits_warning

theorem copyUnnecessaryFiles_fits (subject : Subject) :
    Each (Fits "copy_unnecessary_files" 7) (copyUnnecessaryFiles subject) := by
  unfold copyUnnecessaryFiles
  dsimp only
  split
  · exact each_nil
  · exact each_one fits_warning

theorem labelMissing_fits (subject : Subject) :
    Each (Fits "label_missing" 8) (labelMissing subject) := by
  unfold labelMissing
  split
  · exact each_nil
  · exact each_one fits_info

theorem exposeMissing_fits (subject : Subject) :
    Each (Fits "expose_missing" 9) (exposeMissing subject) := by
  unfold exposeMissing
  split
  · exact each_nil
  · exact each_one fits_info

theorem healthcheckMissing_fits (subject : Subject) :
    Each (Fits "healthcheck_missing" 10) (healthcheckMissing subject) := by
  unfold healthcheckMissing
  split
  · exact each_nil
  · exact each_one fits_info

theorem rootUser_fits [Characters] (subject : Subject) :
    Each (Fits "root_user" 11) (rootUser subject) := by
  unfold rootUser
  dsimp only
  split
  · exact each_one (fits_error (by simp [strictRules]))
  split
  · exact each_one fits_warning
  · exact each_one (fits_pass ..)

theorem addInsteadOfCopy_fits [Characters] (subject : Subject) :
    Each (Fits "add_instead_of_copy" 12) (addInsteadOfCopy subject) := by
  unfold addInsteadOfCopy
  refine each_pure fun f hf => ?_
  rcases List.mem_append.mp hf with hf | hf
  all_goals
    split at hf
    · simp at hf
    · rw [List.mem_singleton.mp hf]
      exact fits_warning

theorem unparsedLine_fits (subject : Subject) :
    Each (Fits "unparsed_line" 13) (unparsedLine subject) := by
  unfold unparsedLine
  dsimp only
  split
  · exact each_nil
  · exact each_one fits_info

end ImageLint.Rules

namespace ImageLint

/-- The sections of the report that the rules of the catalog write to, in the
order of the catalog. -/
def catalogTopics : List Int :=
  [0, 0, 1, 1, 2, 3, 3, 3, 3, 4, 5, 6, 7, 7, 8, 9, 10, 11, 12, 13]

open Rules in
/-- Every finding of a built-in rule carries the name of its rule, is shown in
the section of its rule, and is an error only for the strict rules. -/
theorem catalog_fits [Characters] (subject : Subject) :
    List.Forall₂ (fun rule topic => Each (Fits rule.ruleId topic) (rule.check subject))
      catalog catalogTopics := by
  unfold catalog catalogTopics
  exact .cons (exclusionFile_fits subject) <| .cons (exclusionCoverage_fits subject) <|
    .cons (baseImageWeight_fits subject) <| .cons (baseImageTag_fits subject) <|
    .cons (workdirMissing_fits subject) <| .cons (installRecommends_fits subject) <|
    .cons (packageCacheCleanup_fits subject) <| .cons (updateInstallSplit_fits subject) <|
    .cons (apkVirtualDeps_fits subject) <| .cons (tempFileCleanup_fits subject) <|
    .cons (runCount_fits subject) <| .cons (multiStage_fits subject) <|
    .cons (copyWholeContext_fits subject) <| .cons (copyUnnecessaryFiles_fits subject) <|
    .cons (labelMissing_fits subject) <| .cons (exposeMissing_fits subject) <|
    .cons (healthcheckMissing_fits subject) <| .cons (rootUser_fits subject) <|
    .cons (addInsteadOfCopy_fits subject) <| .cons (unparsedLine_fits subject) .nil

theorem exists_fits [Characters] {rule : Rule} (h : rule ∈ catalog) (subject : Subject) :
    ∃ topic ∈ catalogTopics, Each (Rules.Fits rule.ruleId topic) (rule.check subject) := by
  obtain ⟨i, hi, rfl⟩ := List.getElem_of_mem h
  have hlen : i < catalogTopics.length := (catalog_fits subject).length_eq ▸ hi
  exact ⟨_, List.getElem_mem hlen, (catalog_fits subject).get hi hlen⟩

/-! ## The findings of a run -/

theorem config_of_prepare [Characters] {script : BuildScript} {exclusions : Exclusions}
    {config : Config}
    {subject : Subject} (h : Subject.prepare script exclusions config = .ok subject) :
    subject.config = config := by
  obtain ⟨facts, _, heq⟩ := bind_eq_ok_iff.mp h
  cases heq
  rfl

/-- A run is that of the enabled rules and then that of the declared ones. -/
theorem findings_eq [Characters] (subject : Subject) :
    subject.findings = do
      let builtIn ← (do
        return (← (Subject.enabledRules subject.config).mapM (·.check subject)).flatten)
      let declared ← Rules.customRules subject
      return builtIn ++ declared := by
  unfold Subject.findings Subject.outcomes
  simp [List.mapM_append, List.mapM_map]

/-- The finding is one of a built-in rule that is not disabled. -/
def Subject.FoundByCatalog [Characters] (subject : Subject) (f : Finding) : Prop :=
  ∃ rule ∈ enabledRules subject.config, ∃ found, rule.check subject = .ok found ∧ f ∈ found

/-- The finding is one of a declared rule that is not disabled. -/
def Subject.FoundByDeclaration [Characters] (subject : Subject) (f : Finding) : Prop :=
  ∃ found, Rules.customRules subject = .ok found ∧ f ∈ found

theorem mem_findings_iff [Characters] {subject : Subject} {found : List Finding}
    (h : subject.findings = .ok found) (f : Finding) :
    f ∈ found ↔ subject.FoundByCatalog f ∨ subject.FoundByDeclaration f := by
  rw [findings_eq] at h
  obtain ⟨builtIn, hbuiltIn, h⟩ := bind_eq_ok_iff.mp h
  obtain ⟨declared, hdeclared, h⟩ := bind_eq_ok_iff.mp h
  cases h
  obtain ⟨lists, hlists, heq⟩ := bind_eq_ok_iff.mp hbuiltIn
  cases heq
  rw [List.mem_append, mem_flatten_of_mapM hlists]
  refine or_congr Iff.rfl ⟨fun hf => ⟨declared, hdeclared, hf⟩, ?_⟩
  rintro ⟨found, hfound, hf⟩
  rw [hdeclared] at hfound
  cases hfound
  exact hf

/-- What the rules of an analysis have looked at. -/
def Analysis.subject (analysis : Analysis) (config : Config) : Subject :=
  { script := analysis.script
    exclusions := analysis.exclusions
    config := config
    facts := analysis.facts }

/-- How an analysis comes about: its subject is prepared from the lines and
the content, and its verdict is the tally of what the rules find there. -/
theorem subject_of_analyze [Characters] {lines : List Text} {content : Option Text}
    {config : Config} {analysis : Analysis} (h : analyze lines content config = .ok analysis) :
    Subject.prepare (.ofLines lines) (.classify config content) config =
        .ok (analysis.subject config) ∧
      (analysis.subject config).findings = .ok analysis.verdict.findings ∧
      analysis.verdict = Verdict.tally analysis.verdict.findings := by
  obtain ⟨subject, hsubject, h⟩ := bind_eq_ok_iff.mp h
  obtain ⟨found, hfound, h⟩ := bind_eq_ok_iff.mp h
  cases h
  have heq : subject = ⟨.ofLines lines, .classify config content, config, subject.facts⟩ := by
    obtain ⟨facts, _, hprepared⟩ := bind_eq_ok_iff.mp hsubject
    cases hprepared
    rfl
  rw [heq] at hsubject hfound
  exact ⟨hsubject, hfound, rfl⟩

end ImageLint
