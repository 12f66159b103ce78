-- When a run fails. The exit status is one exactly when the exclusion file
-- excludes nothing, the base image floats, a user is root, or a declared rule
-- of the severity of an error matches, and the rule for it is not disabled.
import ImageLint.Analysis
import ImageLint.Proofs.Findings
import ImageLint.Proofs.Text
import ImageLint.Text.Names

namespace ImageLint

/-! ## The three statuses -/

namespace Verdict

variable (verdict : Verdict)

theorem exitStatus_eq_zero_iff :
    verdict.exitStatus = 0 ↔ verdict.errors = 0 ∧ verdict.warnings = 0 := by
  unfold exitStatus
  split_ifs <;> simp <;> omega

theorem exitStatus_eq_one_iff : verdict.exitStatus = 1 ↔ 0 < verdict.errors := by
  unfold exitStatus
  split_ifs <;> simp <;> omega

theorem exitStatus_eq_two_iff :
    verdict.exitStatus = 2 ↔ verdict.errors = 0 ∧ 0 < verdict.warnings := by
  unfold exitStatus
  split_ifs <;> simp <;> omega

end Verdict

/-! ## Outcomes with an error -/

/-- The outcome holds a finding that counts as an error. -/
def Errs (outcome : Except Pattern.Fault (List Finding)) : Prop :=
  ∃ found, outcome = .ok found ∧ ∃ f ∈ found, Verdict.counts .error f = true

theorem exitStatus_tally (found : List Finding) :
    (Verdict.tally found).exitStatus = 1 ↔ ∃ f ∈ found, Verdict.counts .error f = true := by
  unfold Verdict.exitStatus Verdict.tally
  rw [← List.countP_pos_iff]
  by_cases he : 0 < found.countP (Verdict.counts .error)
  · simp [he]
  · simp only [he, if_false, iff_false]
    split <;> simp

theorem errs_pure (found : List Finding) :
    Errs (pure found) ↔ ∃ f ∈ found, Verdict.counts .error f = true := by
  unfold Errs
  constructor
  · rintro ⟨_, heq, h⟩
    cases heq
    exact h
  · intro h
    exact ⟨found, rfl, h⟩

section

variable {ruleId message : Text} {topic : Int} {lines : List Int} {tip : Option Text}

theorem errs_error : Errs (pure [⟨ruleId, .error, message, lines, topic, tip, false⟩]) :=
  (errs_pure _).mpr ⟨_, List.mem_singleton_self _, rfl⟩

theorem not_errs_nil : ¬ Errs (pure []) := by
  simp [errs_pure]

theorem not_errs_warning :
    ¬ Errs (pure [⟨ruleId, .warning, message, lines, topic, tip, false⟩]) := by
  simp [errs_pure, Verdict.counts]

theorem not_errs_pass : ¬ Errs (pure [Finding.pass ruleId topic message]) := by
  simp [errs_pure, Verdict.counts, Finding.pass]

end

/-- A run that ends well fails exactly when the outcome of one of its rules
holds an error. -/
theorem findings_err_iff [Characters] {subject : Subject} {found : List Finding}
    (h : subject.findings = .ok found) :
    (∃ f ∈ found, Verdict.counts .error f = true) ↔ ∃ o ∈ subject.outcomes, Errs o := by
  obtain ⟨lists, hlists, heq⟩ := bind_eq_ok_iff.mp h
  cases heq
  constructor
  · rintro ⟨f, hf, he⟩
    obtain ⟨o, ho, fs, hfs, hin⟩ := (mem_flatten_of_mapM hlists f).mp hf
    exact ⟨o, ho, fs, hfs, f, hin, he⟩
  · rintro ⟨o, ho, fs, hfs, f, hin, he⟩
    exact ⟨f, (mem_flatten_of_mapM hlists f).mpr ⟨o, ho, fs, hfs, hin⟩, he⟩

/-! ## The strict rules -/

/-- The rules that find errors are these three of the catalog. -/
theorem strict_of_mem_catalog [Characters] {rule : Rule} (h : rule ∈ catalog)
    (hs : rule.ruleId ∈ Rules.strictRules) :
    rule = ⟨"exclusion_file", Rules.exclusionFile⟩ ∨
      rule = ⟨"base_image_tag", Rules.baseImageTag⟩ ∨
      rule = ⟨"root_user", Rules.rootUser⟩ := by
  unfold catalog at h
  simp only [List.mem_cons, List.not_mem_nil, or_false] at h
  rcases h with rfl | rfl | rfl | rfl | rfl | rfl | rfl | rfl | rfl | rfl | rfl | rfl | rfl |
    rfl | rfl | rfl | rfl | rfl | rfl | rfl
  · exact .inl rfl
  iterate 2 exact absurd hs (by simp [Rules.strictRules])
  · exact .inr (.inl rfl)
  iterate 13 exact absurd hs (by simp [Rules.strictRules])
  · exact .inr (.inr rfl)
  iterate 2 exact absurd hs (by simp [Rules.strictRules])

/-- An outcome with an error comes from a strict rule. -/
theorem strict_of_errs [Characters] {rule : Rule} {subject : Subject} (h : rule ∈ catalog)
    (he : Errs (rule.check subject)) : rule.ruleId ∈ Rules.strictRules := by
  obtain ⟨found, hfound, f, hf, hc⟩ := he
  obtain ⟨_, _, hfits⟩ := exists_fits h subject
  simp only [Verdict.counts, Bool.and_eq_true, beq_iff_eq] at hc
  exact (hfits found hfound f hf).strict hc.2

/-- The built-in rules find an error exactly when one of the strict rules
that are not disabled does. -/
theorem enabled_errs_iff [Characters] (subject : Subject) :
    (∃ rule ∈ Subject.enabledRules subject.config, Errs (rule.check subject)) ↔
      ("exclusion_file".toList ∉ subject.config.disabledRules ∧
        Errs (Rules.exclusionFile subject)) ∨
      ("base_image_tag".toList ∉ subject.config.disabledRules ∧
        Errs (Rules.baseImageTag subject)) ∨
      ("root_user".toList ∉ subject.config.disabledRules ∧ Errs (Rules.rootUser subject)) := by
  unfold Subject.enabledRules
  simp only [List.mem_filter, Bool.not_eq_true', List.contains_eq_mem, decide_eq_false_iff_not]
  constructor
  · rintro ⟨rule, ⟨hmem, hon⟩, he⟩
    rcases strict_of_mem_catalog hmem (strict_of_errs hmem he) with rfl | rfl | rfl
    · exact .inl ⟨hon, he⟩
    · exact .inr (.inl ⟨hon, he⟩)
    · exact .inr (.inr ⟨hon, he⟩)
  · rintro (⟨hon, he⟩ | ⟨hon, he⟩ | ⟨hon, he⟩)
    · exact ⟨⟨_, Rules.exclusionFile⟩, ⟨List.mem_of_getElem? (i := 0) rfl, hon⟩, he⟩
    · exact ⟨⟨_, Rules.baseImageTag⟩, ⟨List.mem_of_getElem? (i := 3) rfl, hon⟩, he⟩
    · exact ⟨⟨_, Rules.rootUser⟩, ⟨List.mem_of_getElem? (i := 17) rfl, hon⟩, he⟩

/-! ## When each of them finds an error -/

/-- There is an exclusion file, and each of its lines is blank or a comment. -/
def ExcludesNothing (content : Option Text) : Prop :=
  ∃ text, content = some text ∧ ∀ line ∈ Text.lines (Text.dropMarks text), Text.IsRemark line

theorem effectiveRules_eq_nil_iff (content : Text) :
    Exclusions.effectiveRules content = [] ↔ ∀ line ∈ Text.lines content, Text.IsRemark line := by
  unfold Exclusions.effectiveRules
  simp only [List.filterMap_eq_nil_iff, Text.significant?_eq_none_iff]

/-- A blank text has no effective rule, since a character of a line is one of
the text. -/
theorem isRemark_of_blank {content line : Text} (h : Text.strip content = [])
    (hl : line ∈ Text.lines content) : Text.IsRemark line := by
  rw [Text.strip_eq_nil_iff] at h
  exact .inl ((Text.strip_eq_nil_iff line).mpr fun c hc => h c (Text.mem_of_mem_lines hl hc))

/-- The two states that count as an error are told apart by blanks, and
together they say that no line is effective. -/
theorem classify_state_iff (config : Config) (content : Option Text) :
    ((Exclusions.classify config content).state = .empty ∨
      (Exclusions.classify config content).state = .commentOnly) ↔ ExcludesNothing content := by
  unfold ExcludesNothing
  cases content with
  | none => simp [Exclusions.classify]
  | some text =>
    simp only [Option.some.injEq, exists_eq_left']
    unfold Exclusions.classify
    dsimp only
    split
    · rename_i hblank
      rw [List.isEmpty_iff] at hblank
      simp only [true_or, true_iff]
      exact fun line hl => isRemark_of_blank hblank hl
    · rw [← effectiveRules_eq_nil_iff, ← List.length_eq_zero_iff]
      unfold Exclusions.stateOfCount
      split_ifs <;> simp_all

theorem exclusionFile_errs_iff (subject : Subject) :
    Errs (Rules.exclusionFile subject) ↔
      subject.exclusions.state = .empty ∨ subject.exclusions.state = .commentOnly := by
  unfold Rules.exclusionFile
  cases subject.exclusions.state with
  | absent => exact iff_of_false not_errs_warning (by simp)
  | empty => exact iff_of_true errs_error (.inl rfl)
  | commentOnly => exact iff_of_true errs_error (.inr rfl)
  | insufficient => exact iff_of_false not_errs_warning (by simp)
  | sufficient => exact iff_of_false not_errs_pass (by simp)

/-- The base image is not light, and its tag is `latest`, or it has no tag
where that counts the same. -/
def FloatingBase [Characters] (config : Config) (script : BuildScript) : Prop :=
  ∃ base, script.baseImage? = some base ∧
    (∀ mark ∈ config.lightweightMarkers, ¬ lower mark <:+: lower base.imageReference) ∧
    ((∃ tag, ImageReference.tag? base.imageReference = some tag ∧ lower tag = "latest".toList) ∨
      (ImageReference.tag? base.imageReference = none ∧ config.treatUntaggedAsLatest = true))

theorem isLightweight_eq_true_iff (reference : Text) (marks : List Text) :
    ImageReference.isLightweight reference marks = true ↔
      ∃ mark ∈ marks, lower mark <:+: lower reference := by
  unfold ImageReference.isLightweight
  simp [Text.holds_eq_true_iff]

theorem isFloating_eq_true_iff (config : Config) (reference : Text) :
    Rules.isFloating config reference = true ↔
      (∃ tag, ImageReference.tag? reference = some tag ∧ lower tag = "latest".toList) ∨
        (ImageReference.tag? reference = none ∧ config.treatUntaggedAsLatest = true) := by
  unfold Rules.isFloating
  cases ImageReference.tag? reference <;> simp

theorem baseImageTag_errs_iff [Characters] (subject : Subject) :
    Errs (Rules.baseImageTag subject) ↔ FloatingBase subject.config subject.script := by
  unfold Rules.baseImageTag FloatingBase
  cases subject.script.baseImage? with
  | none => exact iff_of_false not_errs_nil (by simp)
  | some base =>
    simp only [Option.some.injEq, exists_eq_left', ← isFloating_eq_true_iff]
    have hlight := isLightweight_eq_true_iff base.imageReference subject.config.lightweightMarkers
    split_ifs with h1 h2
    · obtain ⟨mark, hm, hin⟩ := hlight.mp h1
      exact iff_of_false not_errs_nil fun hnone => hnone.1 mark hm hin
    · exact iff_of_true errs_error ⟨fun mark hm hin => h1 (hlight.mpr ⟨mark, hm, hin⟩), h2⟩
    · exact iff_of_false not_errs_nil fun hnone => h2 hnone.2

/-- Some user is the root user. -/
def RunsAsRoot [Characters] (script : BuildScript) : Prop :=
  ∃ i ∈ script.instructions, i.keyword = .user ∧ i.isRoot = true

theorem rootUser_errs_iff [Characters] (subject : Subject) :
    Errs (Rules.rootUser subject) ↔ RunsAsRoot subject.script := by
  have hroots : (subject.script.ofKind .user).filter (·.isRoot) = [] ↔
      ¬ RunsAsRoot subject.script := by
    unfold BuildScript.ofKind RunsAsRoot
    simp only [List.filter_eq_nil_iff, List.mem_filter, beq_iff_eq, not_exists, not_and]
    exact ⟨fun h i hi hk => h i ⟨hi, hk⟩, fun h i hi => h i hi.1 hi.2⟩
  unfold Rules.rootUser
  dsimp only
  split_ifs with h1 h2
  · refine iff_of_true errs_error (by_contra fun hno => ?_)
    simp [hroots.mpr hno] at h1
  · exact iff_of_false not_errs_warning (hroots.mp (by simpa using h1))
  · exact iff_of_false not_errs_pass (hroots.mp (by simpa using h1))

/-! ## Declared rules -/

/-- A declared rule of the severity of an error, not disabled, matches the
text of an instruction that it looks at. -/
def BreaksDeclaredRule [Characters] (config : Config) (script : BuildScript) : Prop :=
  ∃ rule ∈ config.customRules, rule.severity = .error ∧ rule.ruleId ∉ config.disabledRules ∧
    ∃ i ∈ script.instructions, Rules.isOfKind (Rules.keywordOf rule) i = true ∧
      Pattern.search rule.pattern i.raw = .ok true

theorem customRule_errs_iff [Characters] (script : BuildScript) (rule : CustomRule) :
    Errs (Rules.customRule script rule) ↔ rule.severity = .error ∧
      ∃ i ∈ script.instructions, Rules.isOfKind (Rules.keywordOf rule) i = true ∧
        Pattern.search rule.pattern i.raw = .ok true := by
  unfold Rules.customRule Rules.matchingLines Pattern.search
  cases hread : Pattern.read rule.pattern with
  | error fault => simp [Errs, bind, Except.bind, Except.map]
  | ok pattern =>
    simp only [bind, Except.bind, pure, Except.pure, Except.map, Except.ok.injEq]
    change Errs (pure _) ↔ _
    rw [errs_pure]
    simp only [Verdict.counts, List.mem_map, List.mem_filter, Bool.and_eq_true]
    constructor
    · rintro ⟨f, ⟨line, ⟨i, ⟨hi, hm⟩, rfl⟩, rfl⟩, hc⟩
      exact ⟨by simpa using hc, i, hi, hm⟩
    · rintro ⟨hs, i, hi, hm⟩
      exact ⟨_, ⟨i.line, ⟨i, ⟨hi, hm⟩, rfl⟩, rfl⟩, by simpa using hs⟩

theorem customRules_errs_iff [Characters] {subject : Subject} {found : List Finding}
    (h : Rules.customRules subject = .ok found) :
    Errs (Rules.customRules subject) ↔ BreaksDeclaredRule subject.config subject.script := by
  obtain ⟨lists, hlists, heq⟩ := bind_eq_ok_iff.mp h
  cases heq
  have hmem := mem_flatten_of_mapM hlists
  unfold BreaksDeclaredRule
  rw [h]
  constructor
  · rintro ⟨_, heq, f, hf, hc⟩
    cases heq
    obtain ⟨rule, hrule, fs, hfs, hin⟩ := (hmem f).mp hf
    obtain ⟨hs, hi⟩ := (customRule_errs_iff _ rule).mp ⟨fs, hfs, f, hin, hc⟩
    simp only [List.mem_filter, Bool.not_eq_true', List.contains_eq_mem,
      decide_eq_false_iff_not] at hrule
    exact ⟨rule, hrule.1, hs, hrule.2, hi⟩
  · rintro ⟨rule, hrule, hs, hon, hi⟩
    obtain ⟨fs, hfs, f, hin, hc⟩ := (customRule_errs_iff _ rule).mpr ⟨hs, hi⟩
    have henabled : rule ∈ subject.config.customRules.filter fun rule =>
        !subject.config.disabledRules.contains rule.ruleId := by
      simp [hrule, hon]
    exact ⟨_, rfl, f, (hmem f).mpr ⟨rule, henabled, fs, hfs, hin⟩, hc⟩

/-! ## The law -/

/-- The outcomes of a run are those of the enabled rules and that of the
declared rules. -/
theorem outcomes_err_iff [Characters] (subject : Subject) :
    (∃ o ∈ subject.outcomes, Errs o) ↔
      (∃ rule ∈ Subject.enabledRules subject.config, Errs (rule.check subject)) ∨
        Errs (Rules.customRules subject) := by
  unfold Subject.outcomes
  constructor
  · rintro ⟨o, ho, he⟩
    rcases List.mem_append.mp ho with ho | ho
    · obtain ⟨rule, hrule, rfl⟩ := List.mem_map.mp ho
      exact .inl ⟨rule, hrule, he⟩
    · rw [List.mem_singleton.mp ho] at he
      exact .inr he
  · rintro (⟨rule, hrule, he⟩ | he)
    · exact ⟨_, List.mem_append_left _ (List.mem_map_of_mem hrule), he⟩
    · exact ⟨_, List.mem_append_right _ (List.mem_singleton_self _), he⟩

/-- A run that ends well exits with status one exactly when the exclusion file
is there and excludes nothing, the base image floats, some user is root, or a
declared rule of the severity of an error matches, each only where its rule is
not disabled. -/
theorem exit_status_is_one_exactly_on_errors [Characters] (lines : List Text)
    (content : Option Text)
    (config : Config) (analysis : Analysis) (h : analyze lines content config = .ok analysis) :
    analysis.verdict.exitStatus = 1 ↔
      ("exclusion_file".toList ∉ config.disabledRules ∧ ExcludesNothing content) ∨
      ("base_image_tag".toList ∉ config.disabledRules ∧
        FloatingBase config (BuildScript.ofLines lines)) ∨
      ("root_user".toList ∉ config.disabledRules ∧ RunsAsRoot (BuildScript.ofLines lines)) ∨
      BreaksDeclaredRule config (BuildScript.ofLines lines) := by
  unfold analyze at h
  obtain ⟨subject, hsubject, h⟩ := bind_eq_ok_iff.mp h
  obtain ⟨found, hfound, h⟩ := bind_eq_ok_iff.mp h
  cases h
  obtain ⟨facts, _, heq⟩ := bind_eq_ok_iff.mp hsubject
  cases heq
  -- The declared rules come last, and a run that ends well has come to them.
  obtain ⟨lists, hlists, _⟩ := bind_eq_ok_iff.mp hfound
  obtain ⟨declared, hdeclared⟩ := ok_of_mapM hlists
    (List.mem_append_right _ (List.mem_singleton_self _))
  rw [exitStatus_tally, findings_err_iff hfound, outcomes_err_iff, enabled_errs_iff,
    customRules_errs_iff hdeclared, exclusionFile_errs_iff, classify_state_iff,
    baseImageTag_errs_iff, rootUser_errs_iff, or_assoc, or_assoc]

open scoped Characters

/-- Of two disabled checks and a declared rule, what fails this run is the
rule, on the second line of its command. -/
theorem a_declared_rule_fails_the_run :
    ∃ analysis, analyze ["FROM a:latest".toList, "RUN b | \\".toList, "sh".toList] none
        { packageManagers := []
          buildToolPatterns := []
          disabledRules := ["base_image_tag".toList, "base_image_weight".toList]
          customRules := [⟨"no_shell", .error, "sh$", "No shell.", none⟩] } = .ok analysis ∧
      analysis.verdict.exitStatus = 1 := by
  obtain ⟨analysis, h⟩ := exists_of_isOk (show (analyze
    ["FROM a:latest".toList, "RUN b | \\".toList, "sh".toList] none
    { packageManagers := []
      buildToolPatterns := []
      disabledRules := ["base_image_tag".toList, "base_image_weight".toList]
      customRules := [⟨"no_shell", .error, "sh$", "No shell.", none⟩] }).isOk = true
    by decide +kernel)
  refine ⟨analysis, h, (exit_status_is_one_exactly_on_errors _ _ _ _ h).mpr ?_⟩
  refine .inr (.inr (.inr ⟨_, List.mem_singleton_self _, rfl, by simp, ?_⟩))
  exact ⟨_, List.mem_of_getElem? (i := 2) rfl, rfl, by decide +kernel⟩

end ImageLint
