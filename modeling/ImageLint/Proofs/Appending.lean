-- Lines added at the end of a build script never hide an error. What has been
-- read stays as it was read, whatever follows and wherever the cut falls; so
-- each rule that finds an error in the script finds one in the longer script.
import ImageLint.Proofs.Composition
import ImageLint.Proofs.ExitStatus
import ImageLint.Text.Names

namespace ImageLint

/-! ## Reading more lines -/

namespace BuildScript

variable {script longer : BuildScript}

/-- The first stage is never another one. -/
theorem baseImage?_of_isPrefix (h : script.instructions <+: longer.instructions)
    {base : Instruction} (hbase : script.baseImage? = some base) :
    longer.baseImage? = some base := by
  unfold baseImage? stages ofKind at hbase ⊢
  obtain ⟨rest, hrest⟩ := h.filter (·.keyword == .baseImage)
  rw [← hrest, List.head?_append, hbase, Option.some_or]

end BuildScript

variable {script longer : BuildScript}

theorem FloatingBase.of_isPrefix [Characters] (h : script.instructions <+: longer.instructions)
    {config : Config} (hbase : FloatingBase config script) : FloatingBase config longer := by
  obtain ⟨base, hfirst, hfloats⟩ := hbase
  exact ⟨base, BuildScript.baseImage?_of_isPrefix h hfirst, hfloats⟩

theorem RunsAsRoot.of_isPrefix [Characters] (h : script.instructions <+: longer.instructions)
    (hroot : RunsAsRoot script) : RunsAsRoot longer := by
  obtain ⟨i, hi, hroot⟩ := hroot
  exact ⟨i, h.subset hi, hroot⟩

/-! ## The built-in rules -/

/-- What the subjects of two runs have in common when lines are added: all but
the script, which begins as it did. -/
structure Subject.Grows (subject longer : Subject) : Prop where
  script : subject.script.instructions <+: longer.script.instructions
  exclusions : longer.exclusions = subject.exclusions
  config : longer.config = subject.config

namespace Rules

theorem exclusionFile_length {subject : Subject} {found : List Finding}
    (h : exclusionFile subject = .ok found) : found.length ≤ 1 := by
  unfold exclusionFile at h
  cases hstate : subject.exclusions.state
  all_goals
    rw [hstate] at h
    cases h
    exact Nat.le_refl 1

theorem baseImageTag_length [Characters] {subject : Subject} {found : List Finding}
    (h : baseImageTag subject = .ok found) : found.length ≤ 1 := by
  unfold baseImageTag at h
  cases h
  split
  · exact Nat.zero_le 1
  · dsimp only
    split_ifs <;> simp

theorem rootUser_length [Characters] {subject : Subject} {found : List Finding}
    (h : rootUser subject = .ok found) : found.length ≤ 1 := by
  unfold rootUser at h
  cases h
  split_ifs <;> simp

end Rules

theorem not_errs_iff {outcome : Except Pattern.Fault (List Finding)} {found : List Finding}
    (h : outcome = .ok found) : ¬ Errs outcome ↔ found.countP (Verdict.counts .error) = 0 := by
  subst h
  rw [List.countP_eq_zero]
  constructor
  · intro hno f hf hc
    exact hno ⟨found, rfl, f, hf, hc⟩
  · rintro hall ⟨_, heq, f, hf, hc⟩
    cases heq
    exact hall f hf hc

/-- A built-in rule finds one error at most. -/
theorem errors_le_one [Characters] {rule : Rule} (hrule : rule ∈ catalog) {subject : Subject}
    {found : List Finding} (h : rule.check subject = .ok found) :
    found.countP (Verdict.counts .error) ≤ 1 := by
  by_cases herrs : Errs (rule.check subject)
  · have hlength : found.length ≤ 1 := by
      rcases strict_of_mem_catalog hrule (strict_of_errs hrule herrs) with rfl | rfl | rfl
      · exact Rules.exclusionFile_length h
      · exact Rules.baseImageTag_length h
      · exact Rules.rootUser_length h
    exact List.countP_le_length.trans hlength
  · rw [(not_errs_iff h).mp herrs]
    exact Nat.zero_le 1

/-- A built-in rule that finds an error still finds one when lines are added. -/
theorem errs_of_grows [Characters] {rule : Rule} (hrule : rule ∈ catalog) {subject longer : Subject}
    (h : subject.Grows longer) (herrs : Errs (rule.check subject)) :
    Errs (rule.check longer) := by
  rcases strict_of_mem_catalog hrule (strict_of_errs hrule herrs) with rfl | rfl | rfl
  · rw [exclusionFile_errs_iff, h.exclusions, ← exclusionFile_errs_iff]
    exact herrs
  · rw [baseImageTag_errs_iff, h.config]
    exact ((baseImageTag_errs_iff subject).mp herrs).of_isPrefix h.script
  · rw [rootUser_errs_iff]
    exact ((rootUser_errs_iff subject).mp herrs).of_isPrefix h.script

theorem check_errors_le [Characters] {rule : Rule} (hrule : rule ∈ catalog)
    {subject longer : Subject} (h : subject.Grows longer) {found found' : List Finding}
    (hfound : rule.check subject = .ok found) (hfound' : rule.check longer = .ok found') :
    found.countP (Verdict.counts .error) ≤ found'.countP (Verdict.counts .error) := by
  by_cases herrs : Errs (rule.check subject)
  · have hone := errors_le_one hrule hfound
    have hsome : found'.countP (Verdict.counts .error) ≠ 0 := by
      intro hzero
      exact (not_errs_iff hfound').mpr hzero (errs_of_grows hrule h herrs)
    omega
  · rw [(not_errs_iff hfound).mp herrs]
    exact Nat.zero_le _

/-! ## The declared rules -/

/-- What a declared rule finds stays when lines are added. -/
theorem customRule_isPrefix [Characters] (h : script.instructions <+: longer.instructions)
    {rule : CustomRule}
    {found found' : List Finding} (hfound : Rules.customRule script rule = .ok found)
    (hfound' : Rules.customRule longer rule = .ok found') : found <+: found' := by
  unfold Rules.customRule Rules.matchingLines at hfound hfound'
  cases hread : Pattern.read rule.pattern with
  | error fault =>
    rw [hread] at hfound
    cases hfound
  | ok pattern =>
    rw [hread] at hfound hfound'
    cases hfound
    cases hfound'
    exact ((h.filter _).map _).map _

/-! ## The law -/

theorem findings_errors_le [Characters] {subject longer : Subject} (h : subject.Grows longer)
    {found found' : List Finding} (hfound : subject.findings = .ok found)
    (hfound' : longer.findings = .ok found') :
    found.countP (Verdict.counts .error) ≤ found'.countP (Verdict.counts .error) := by
  rw [findings_eq] at hfound hfound'
  rw [h.config] at hfound'
  obtain ⟨builtIn, hbuiltIn, hfound⟩ := bind_eq_ok_iff.mp hfound
  obtain ⟨declared, hdeclared, hfound⟩ := bind_eq_ok_iff.mp hfound
  obtain ⟨builtIn', hbuiltIn', hfound'⟩ := bind_eq_ok_iff.mp hfound'
  obtain ⟨declared', hdeclared', hfound'⟩ := bind_eq_ok_iff.mp hfound'
  cases hfound
  cases hfound'
  unfold Rules.customRules at hdeclared hdeclared'
  rw [h.config] at hdeclared'
  have hrules := countP_flatten_le
    (fun rule hrule _ _ => check_errors_le (List.mem_of_mem_filter hrule) h) hbuiltIn hbuiltIn'
  have hown := countP_flatten_le (p := Verdict.counts .error)
    (fun rule _ _ _ hf hf' => (customRule_isPrefix h.script hf hf').sublist.countP_le)
    hdeclared hdeclared'
  rw [List.countP_append, List.countP_append]
  omega

/-- Lines added to a build script never hide an error, wherever the script is
cut, even inside a command: of two analyses that end well, the one of more
lines counts at least as many errors, and it fails where the other fails. -/
theorem appending_lines_never_hides_an_error [Characters] (lines more : List Text)
    (content : Option Text) (config : Config) (shorter longer : Analysis)
    (hshorter : analyze lines content config = .ok shorter)
    (hlonger : analyze (lines ++ more) content config = .ok longer) :
    shorter.verdict.errors ≤ longer.verdict.errors ∧
      (shorter.verdict.exitStatus = 1 → longer.verdict.exitStatus = 1) := by
  unfold analyze at hshorter hlonger
  obtain ⟨subject, hsubject, hshorter⟩ := bind_eq_ok_iff.mp hshorter
  obtain ⟨found, hfound, hshorter⟩ := bind_eq_ok_iff.mp hshorter
  obtain ⟨subject', hsubject', hlonger⟩ := bind_eq_ok_iff.mp hlonger
  obtain ⟨found', hfound', hlonger⟩ := bind_eq_ok_iff.mp hlonger
  cases hshorter
  cases hlonger
  have hgrows : subject.Grows subject' := by
    obtain ⟨facts, _, heq⟩ := bind_eq_ok_iff.mp hsubject
    obtain ⟨facts', _, heq'⟩ := bind_eq_ok_iff.mp hsubject'
    cases heq
    cases heq'
    exact ⟨BuildScript.ofLines_isPrefix lines more, rfl, rfl⟩
  have hle := findings_errors_le hgrows hfound hfound'
  refine ⟨hle, fun hfails => ?_⟩
  rw [exitStatus_tally, ← List.countP_pos_iff] at hfails ⊢
  omega

open scoped Characters

/-- The cut falls inside a command: the line below it goes on with the command
and is no directive. -/
theorem a_cut_inside_a_command_hides_no_error :
    ∃ shorter longer,
      analyze ["FROM a:latest", "RUN b \\"] none { packageManagers := [], buildToolPatterns := [] } =
        .ok shorter ∧
      analyze (["FROM a:latest", "RUN b \\"] ++ ["USER root", "USER root"]) none
        { packageManagers := [], buildToolPatterns := [] } = .ok longer ∧
      shorter.verdict.exitStatus = 1 ∧ longer.verdict.exitStatus = 1 := by
  obtain ⟨shorter, hshorter, hfails⟩ : ∃ shorter,
      analyze ["FROM a:latest", "RUN b \\"] none { packageManagers := [], buildToolPatterns := [] } =
        .ok shorter ∧ shorter.verdict.exitStatus = 1 := ⟨_, by rfl, by decide +kernel⟩
  obtain ⟨longer, hlonger⟩ := exists_of_isOk (show (analyze
    (["FROM a:latest", "RUN b \\"] ++ ["USER root", "USER root"]) none
    { packageManagers := [], buildToolPatterns := [] }).isOk = true by decide +kernel)
  exact ⟨shorter, longer, hshorter, hlonger, hfails,
    (appending_lines_never_hides_an_error _ _ _ _ _ _ hshorter hlonger).2 hfails⟩

end ImageLint
