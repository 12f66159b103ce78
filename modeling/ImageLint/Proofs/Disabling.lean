-- Disabling rules only takes their findings away. No check looks at which
-- rules are disabled, and every finding carries the name of its rule; so what
-- a run finds with more rules disabled is what it found before, without the
-- findings of those rules.
import ImageLint.Analysis
import ImageLint.Proofs.Findings
import ImageLint.Text.Names

namespace ImageLint

/-! ## A subject with other rules disabled -/

/-- The subject with exactly the given rules disabled. -/
def Subject.withDisabled (disabled : List Text) (subject : Subject) : Subject :=
  { subject with config := { subject.config with disabledRules := disabled } }

section

variable [Characters]

/-- No built-in rule looks at which rules are disabled. -/
theorem check_withDisabled (disabled : List Text) (subject : Subject) :
    ∀ rule ∈ catalog, rule.check (subject.withDisabled disabled) = rule.check subject := by
  unfold catalog
  simp only [List.forall_mem_cons]
  exact ⟨rfl, rfl, rfl, rfl, rfl, rfl, rfl, rfl, rfl, rfl, rfl, rfl, rfl, rfl, rfl, rfl, rfl, rfl,
    rfl, rfl, by simp⟩

/-- Nor does what is worked out beforehand. -/
theorem prepare_withDisabled (script : BuildScript) (exclusions : Exclusions) (config : Config)
    (disabled : List Text) :
    Subject.prepare script exclusions { config with disabledRules := disabled } =
      Subject.withDisabled disabled <$> Subject.prepare script exclusions config := by
  unfold Subject.prepare
  simp only [map_bind, map_pure]
  rfl

/-! ## The findings of a run -/

variable {disabled more : List Text}

theorem enabledRules_filter {config : Config}
    (h : ∀ ruleId, ruleId ∈ disabled ↔ ruleId ∈ config.disabledRules ∨ ruleId ∈ more) :
    Subject.enabledRules { config with disabledRules := disabled } =
      (Subject.enabledRules config).filter fun rule => rule.ruleId ∉ more := by
  unfold Subject.enabledRules
  rw [List.filter_filter]
  refine List.filter_congr fun rule _ => ?_
  rw [Bool.eq_iff_iff]
  simp [h, and_comm]

theorem customRule_ruleId (script : BuildScript) (rule : CustomRule) :
    Each (fun f => f.ruleId = rule.ruleId) (Rules.customRule script rule) := by
  unfold Rules.customRule
  refine each_bind fun lines => each_pure fun f hf => ?_
  obtain ⟨line, _, rfl⟩ := List.mem_map.mp hf
  rfl

theorem customRules_filter {subject : Subject} {found : List Finding}
    (h : ∀ ruleId, ruleId ∈ disabled ↔ ruleId ∈ subject.config.disabledRules ∨ ruleId ∈ more)
    (hfound : Rules.customRules subject = .ok found) :
    Rules.customRules (subject.withDisabled disabled) =
      .ok (found.filter fun f => f.ruleId ∉ more) := by
  have hrun := flatten_mapM_filter (fun rule => decide (rule.ruleId ∉ more))
    (fun f => decide (f.ruleId ∉ more)) ?_ hfound
  · rw [List.filter_filter] at hrun
    rw [← hrun]
    unfold Rules.customRules Subject.withDisabled
    dsimp only
    congr 2
    refine List.filter_congr fun rule _ => ?_
    rw [Bool.eq_iff_iff]
    simp [h, and_comm]
  · intro rule _ fs hfs f hf
    rw [customRule_ruleId subject.script rule fs hfs f hf]

/-- Both halves of a run lose the findings of the rules that are disabled
beside the others, and no more. -/
theorem findings_withDisabled {subject : Subject} {found : List Finding}
    (h : ∀ ruleId, ruleId ∈ disabled ↔ ruleId ∈ subject.config.disabledRules ∨ ruleId ∈ more)
    (hfound : subject.findings = .ok found) :
    (subject.withDisabled disabled).findings = .ok (found.filter fun f => f.ruleId ∉ more) := by
  rw [findings_eq] at hfound
  obtain ⟨builtIn, hbuiltIn, hfound⟩ := bind_eq_ok_iff.mp hfound
  obtain ⟨declared, hdeclared, hfound⟩ := bind_eq_ok_iff.mp hfound
  cases hfound
  have hchecks : (Subject.enabledRules (subject.withDisabled disabled).config).mapM
        (·.check (subject.withDisabled disabled)) =
      ((Subject.enabledRules subject.config).filter fun rule => rule.ruleId ∉ more).mapM
        (·.check subject) := by
    rw [show Subject.enabledRules (subject.withDisabled disabled).config = _
      from enabledRules_filter h]
    refine mapM_congr fun rule hrule => ?_
    exact check_withDisabled disabled subject rule
      (List.mem_of_mem_filter (List.mem_of_mem_filter hrule))
  have hkept := flatten_mapM_filter (fun rule => decide (rule.ruleId ∉ more))
    (fun f => decide (f.ruleId ∉ more)) ?_ hbuiltIn
  · rw [findings_eq, hchecks, hkept, customRules_filter h hdeclared, List.filter_append]
    rfl
  · intro rule hrule fs hfs f hf
    obtain ⟨_, _, hfits⟩ := exists_fits (List.mem_of_mem_filter hrule) subject
    rw [(hfits fs hfs f hf).ruleId_eq]

/-! ## The law -/

/-- A run with more rules disabled ends well where the run before did, and
finds what that found without the findings of those rules, in the same order.
So neither errors nor warnings get more. -/
theorem disabling_rules_takes_their_findings_away (script : BuildScript) (exclusions : Exclusions)
    (config : Config) (more disabled : List Text)
    (hdisabled : ∀ ruleId, ruleId ∈ disabled ↔ ruleId ∈ config.disabledRules ∨ ruleId ∈ more)
    (found : List Finding)
    (hfound : (Subject.prepare script exclusions config >>= Subject.findings) = .ok found) :
    (Subject.prepare script exclusions { config with disabledRules := disabled } >>=
        Subject.findings) = .ok (found.filter fun f => f.ruleId ∉ more) ∧
      (Verdict.tally (found.filter fun f => f.ruleId ∉ more)).errors ≤
        (Verdict.tally found).errors ∧
      (Verdict.tally (found.filter fun f => f.ruleId ∉ more)).warnings ≤
        (Verdict.tally found).warnings := by
  obtain ⟨subject, hsubject, hfound⟩ := bind_eq_ok_iff.mp hfound
  have hconfig := config_of_prepare hsubject
  refine ⟨?_, List.filter_sublist.countP_le, List.filter_sublist.countP_le⟩
  rw [prepare_withDisabled, hsubject]
  exact findings_withDisabled (hconfig ▸ hdisabled) hfound

/-- Settings with a declared rule that has the name of a built-in one. -/
def sharedName : Config :=
  { packageManagers := []
    buildToolPatterns := []
    heavyDistributions := []
    disabledRules := ["run_count"]
    customRules := [⟨"label_missing", .warning, "b", "No b.", none⟩] }

end

open scoped Characters

/-- Disabling a name that two rules share takes the findings of both away. -/
theorem disabling_a_shared_name_takes_both_away :
    ∃ found, (Subject.prepare (.ofLines ["FROM a:1", "USER b"]) { state := .absent } sharedName >>=
        Subject.findings) = .ok found ∧
      (found.filter (·.ruleId = "label_missing".toList)).length = 2 ∧
      (Subject.prepare (.ofLines ["FROM a:1", "USER b"]) { state := .absent }
        { sharedName with disabledRules := ["run_count", "label_missing"] } >>=
        Subject.findings) = .ok (found.filter fun f => f.ruleId ∉ ["label_missing".toList]) := by
  obtain ⟨found, h, htwo⟩ : ∃ found,
      (Subject.prepare (.ofLines ["FROM a:1", "USER b"]) { state := .absent } sharedName >>=
        Subject.findings) = .ok found ∧
      (found.filter (·.ruleId = "label_missing".toList)).length = 2 :=
    ⟨_, by rfl, by decide +kernel⟩
  refine ⟨found, h, htwo, ?_⟩
  exact (disabling_rules_takes_their_findings_away _ _ sharedName ["label_missing"]
    ["run_count", "label_missing"] (by simp [sharedName]) found h).1

end ImageLint
