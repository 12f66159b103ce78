-- Numbering the lines of a build script anew, in the same order, changes the
-- line numbers of what is found and nothing else.
import Mathlib.Data.List.Basic
import Mathlib.Order.Monotone.Basic
import ImageLint.Analysis
import ImageLint.Proofs.Outcomes

namespace ImageLint

/-! ## New numbers -/

/-- The instruction with its line numbers changed by `r`. -/
def Instruction.renumber (r : Nat → Nat) (i : Instruction) : Instruction :=
  { i with line := r i.line, continues := i.continues.map r }

/-- The build script with its line numbers changed by `r`. -/
def BuildScript.renumber (r : Nat → Nat) (script : BuildScript) : BuildScript :=
  ⟨script.instructions.map (Instruction.renumber r)⟩

/-- The command with its line number changed by `r`. -/
def Command.renumber (r : Nat → Nat) (c : Command) : Command := { c with line := r c.line }

/-- The families with their line numbers changed by `r`. -/
def renumberFamilies (r : Nat → Nat) (families : List (Text × List Nat)) :
    List (Text × List Nat) :=
  families.map fun family => (family.1, family.2.map r)

/-- The facts with their line numbers changed by `r`. -/
def Facts.renumber (r : Nat → Nat) (facts : Facts) : Facts :=
  { facts with
    commands := facts.commands.map (Command.renumber r)
    families := renumberFamilies r facts.families }

/-- The subject of the checks with its line numbers changed by `r`. -/
def Subject.renumber (r : Nat → Nat) (subject : Subject) : Subject :=
  { subject with script := subject.script.renumber r, facts := subject.facts.renumber r }

/-- The finding with its line references changed by `r`. -/
def Finding.renumber (r : Nat → Nat) (f : Finding) : Finding :=
  { f with lines := f.lines.map fun n => (r n.toNat : Int) }

/-- The verdict with the line references of its findings changed by `r`. Its
counts stay. -/
def Verdict.renumber (r : Nat → Nat) (verdict : Verdict) : Verdict :=
  { verdict with findings := verdict.findings.map (Finding.renumber r) }

/-- The analysis with its line numbers changed by `r`. -/
def Analysis.renumber (r : Nat → Nat) (analysis : Analysis) : Analysis :=
  { analysis with
    script := analysis.script.renumber r
    facts := analysis.facts.renumber r
    verdict := analysis.verdict.renumber r }

variable {r : Nat → Nat}

@[simp] theorem Subject.renumber_script (subject : Subject) :
    (subject.renumber r).script = subject.script.renumber r := rfl

@[simp] theorem Subject.renumber_exclusions (subject : Subject) :
    (subject.renumber r).exclusions = subject.exclusions := rfl

@[simp] theorem Subject.renumber_config (subject : Subject) :
    (subject.renumber r).config = subject.config := rfl

@[simp] theorem Subject.renumber_facts (subject : Subject) :
    (subject.renumber r).facts = subject.facts.renumber r := rfl

@[simp] theorem Facts.renumber_commands (facts : Facts) :
    (facts.renumber r).commands = facts.commands.map (Command.renumber r) := rfl

@[simp] theorem refs_renumber (lines : List Nat) :
    (Finding.refs lines).map (fun n => (r n.toNat : Int)) = Finding.refs (lines.map r) := by
  unfold Finding.refs
  simp

/-! ## Commands -/

theorem ofKind_renumber (script : BuildScript) (keyword : Keyword) :
    (script.renumber r).ofKind keyword = (script.ofKind keyword).map (Instruction.renumber r) :=
  List.filter_map

theorem has_renumber (script : BuildScript) (keyword : Keyword) :
    (script.renumber r).has keyword = script.has keyword := List.any_map

theorem baseImage?_renumber (script : BuildScript) :
    (script.renumber r).baseImage? = script.baseImage?.map (Instruction.renumber r) := by
  unfold BuildScript.baseImage? BuildScript.stages
  rw [ofKind_renumber, List.head?_map]

theorem continuationsOf_renumber (hr : Function.Injective r) (script : BuildScript)
    (i : Instruction) :
    (script.renumber r).continuationsOf (i.renumber r) =
      (script.continuationsOf i).map (Instruction.renumber r) := by
  unfold BuildScript.continuationsOf BuildScript.renumber
  rw [List.filter_map]
  congr 2
  funext other
  simp only [Function.comp, Instruction.renumber]
  cases other.continues with
  | none => rfl
  | some n => simp [hr.eq_iff]

theorem commandText_renumber (hr : Function.Injective r) (script : BuildScript)
    (i : Instruction) :
    (script.renumber r).commandText (i.renumber r) = script.commandText i := by
  unfold BuildScript.commandText
  rw [continuationsOf_renumber hr, ← List.map_cons, List.map_map]
  rfl

theorem commands_renumber (hr : Function.Injective r) (script : BuildScript) :
    (script.renumber r).commands = script.commands.map (Command.renumber r) := by
  have hnone : ∀ i : Instruction, (i.renumber r).continues.isNone = i.continues.isNone := by
    intro i
    simp [Instruction.renumber]
  unfold BuildScript.commands
  rw [show (script.renumber r).instructions = script.instructions.map (Instruction.renumber r)
    from rfl, List.filter_map, List.map_map, List.map_map]
  rw [show ((fun i : Instruction => i.continues.isNone) ∘ Instruction.renumber r) =
    fun i => i.continues.isNone from funext hnone]
  refine List.map_congr_left fun i _ => ?_
  simp only [Function.comp, commandText_renumber hr]
  rfl

/-! ## Facts -/

theorem setFamily_renumber (name : Text) (lines : List Nat) (families : List (Text × List Nat)) :
    Facts.setFamily name (lines.map r) (renumberFamilies r families) =
      renumberFamilies r (Facts.setFamily name lines families) := by
  induction families with
  | nil => rfl
  | cons family rest ih =>
    obtain ⟨key, old⟩ := family
    simp only [renumberFamilies, List.map_cons, Facts.setFamily] at ih ⊢
    split
    · rfl
    · rw [ih, List.map_cons]

theorem buildLines_renumber [Characters] (commands : List Command) (pattern : Text) :
    Facts.buildLines (commands.map (Command.renumber r)) pattern =
      List.map r <$> Facts.buildLines commands pattern := by
  unfold Facts.buildLines
  rw [filterM_map]
  simp only [bind_map_left, map_bind, map_pure, List.map_map]
  rfl

theorem familiesOf_renumber [Characters] (commands : List Command) (managers : List PackageManager)
    (families : List (Text × List Nat)) :
    Facts.familiesOf (commands.map (Command.renumber r)) managers (renumberFamilies r families) =
      renumberFamilies r <$> Facts.familiesOf commands managers families := by
  induction managers generalizing families with
  | nil => rfl
  | cons manager rest ih =>
    simp only [Facts.familiesOf, buildLines_renumber, bind_map_left, map_bind, List.isEmpty_map]
    refine bind_congr fun lines => ?_
    split
    · exact ih families
    · rw [setFamily_renumber]
      exact ih _

theorem derive_renumber [Characters] (hr : Function.Injective r) (script : BuildScript)
    (config : Config) :
    Facts.derive (script.renumber r) config = Facts.renumber r <$> Facts.derive script config := by
  unfold Facts.derive BuildScript.stages
  simp only [commands_renumber hr, ofKind_renumber, List.length_map, map_bind, map_pure]
  rw [show ([] : List (Text × List Nat)) = renumberFamilies r [] from rfl, familiesOf_renumber,
    bind_map_left]
  rfl

theorem familyLines_renumber (facts : Facts) (name : Text) :
    (facts.renumber r).familyLines name = (facts.familyLines name).map r := by
  unfold Facts.familyLines Facts.renumber renumberFamilies
  dsimp only
  induction facts.families with
  | nil => rfl
  | cons family rest ih =>
    obtain ⟨key, lines⟩ := family
    simp only [List.map_cons, List.lookup_cons]
    split
    · rfl
    · exact ih

/-! ## The rules -/

/-- The check finds the same under the new numbers. -/
def Stable (r : Nat → Nat) (check : Check) : Prop :=
  ∀ subject, check (subject.renumber r) = List.map (Finding.renumber r) <$> check subject

/-- A finding about the whole script has no line to change. -/
theorem pure_plain {f : Finding} (h : f.lines = []) :
    (pure [f] : Except Pattern.Fault (List Finding)) =
      List.map (Finding.renumber r) <$> pure [f] := by
  obtain ⟨ruleId, severity, message, lines, topic, tip, passed⟩ := f
  cases h
  rfl

/-- A finding about some lines is about the same lines under their new numbers. -/
theorem pure_located {ruleId message : Text} {severity : Severity} {lines : List Nat} {topic : Int}
    {tip : Option Text} :
    (pure [⟨ruleId, severity, message, Finding.refs (lines.map r), topic, tip, false⟩] :
        Except Pattern.Fault (List Finding)) =
      List.map (Finding.renumber r) <$>
        pure [⟨ruleId, severity, message, Finding.refs lines, topic, tip, false⟩] := by
  simp [Finding.renumber]

theorem instructions_lines (instructions : List Instruction) :
    (instructions.map (Instruction.renumber r)).map (·.line) =
      (instructions.map (·.line)).map r := by
  simp [Instruction.renumber]

theorem commands_lines (commands : List Command) :
    (commands.map (Command.renumber r)).map (·.line) = (commands.map (·.line)).map r := by
  simp [Command.renumber]

namespace Rules

theorem exclusionFile_stable : Stable r exclusionFile := by
  intro subject
  unfold exclusionFile
  rw [Subject.renumber_exclusions]
  cases subject.exclusions.state <;> exact pure_plain rfl

theorem exclusionCoverage_stable : Stable r exclusionCoverage := by
  intro subject
  unfold exclusionCoverage
  rw [Subject.renumber_exclusions, Subject.renumber_config]
  dsimp only
  split
  · rfl
  split
  · rfl
  split <;> rfl

theorem weightFinding_renumber (reference : Text) (line : Nat) (family : Option Text) :
    Finding.renumber r (weightFinding reference line family) =
      weightFinding reference (r line) family := by
  unfold weightFinding
  split <;> rfl

theorem baseImageWeight_stable [Characters] : Stable r baseImageWeight := by
  intro subject
  unfold baseImageWeight
  rw [Subject.renumber_script, baseImage?_renumber, Subject.renumber_config]
  cases subject.script.baseImage? with
  | none => rfl
  | some base =>
    simp only [Option.map_some]
    rw [show (base.renumber r).imageReference = base.imageReference from rfl]
    split
    · rfl
    · simp only [map_bind, map_pure, List.map_cons, List.map_nil, weightFinding_renumber]
      rfl

theorem baseImageTag_stable [Characters] : Stable r baseImageTag := by
  intro subject
  unfold baseImageTag
  rw [Subject.renumber_script, baseImage?_renumber, Subject.renumber_config]
  cases subject.script.baseImage? with
  | none => rfl
  | some base =>
    simp only [Option.map_some]
    rw [show (base.renumber r).imageReference = base.imageReference from rfl]
    split
    · rfl
    split <;> rfl

/-- A check that only asks for a directive says nothing about lines. -/
theorem has_stable (keyword : Keyword) {there missing : List Finding}
    (hthere : ∀ f ∈ there, f.lines = []) (hmissing : ∀ f ∈ missing, f.lines = []) :
    Stable r fun subject => pure (if subject.script.has keyword then there else missing) := by
  have hsame : ∀ found : List Finding, (∀ f ∈ found, f.lines = []) →
      found.map (Finding.renumber r) = found := by
    intro found h
    refine (List.map_congr_left fun f hf => ?_).trans (List.map_id found)
    rw [Finding.renumber, h f hf, List.map_nil, ← h f hf]
    rfl
  intro subject
  dsimp only
  rw [Subject.renumber_script, has_renumber, map_pure]
  split
  · rw [hsame there hthere]
  · rw [hsame missing hmissing]

theorem workdirMissing_stable : Stable r workdirMissing :=
  has_stable .workdir (by simp [Finding.pass]) (by simp)

theorem labelMissing_stable : Stable r labelMissing := has_stable .label (by simp) (by simp)

theorem exposeMissing_stable : Stable r exposeMissing := has_stable .expose (by simp) (by simp)

theorem healthcheckMissing_stable : Stable r healthcheckMissing :=
  has_stable .healthcheck (by simp) (by simp)

theorem rootUser_stable [Characters] : Stable r rootUser := by
  intro subject
  have hroots : ((subject.script.ofKind .user).map (Instruction.renumber r)).filter (·.isRoot) =
      ((subject.script.ofKind .user).filter (·.isRoot)).map (Instruction.renumber r) :=
    List.filter_map
  unfold rootUser
  rw [Subject.renumber_script, ofKind_renumber]
  simp only [hroots, List.isEmpty_map, instructions_lines]
  split
  · exact pure_located
  split <;> exact pure_plain rfl

theorem unparsedLine_stable : Stable r unparsedLine := by
  intro subject
  have hmalformed : (subject.renumber r).script.instructions.filter (·.malformed) =
      (subject.script.instructions.filter (·.malformed)).map (Instruction.renumber r) :=
    List.filter_map
  unfold unparsedLine
  simp only [hmalformed, List.isEmpty_map, List.length_map, instructions_lines]
  split
  · rfl
  · exact pure_located

theorem contextCopies_renumber (script : BuildScript) :
    contextCopies (script.renumber r) = (contextCopies script).map (Instruction.renumber r) :=
  List.filter_map

theorem copyWholeContext_stable [Characters] : Stable r copyWholeContext := by
  intro subject
  have hoffending : (contextCopies (subject.script.renumber r)).filter copiesEverything =
      ((contextCopies subject.script).filter copiesEverything).map (Instruction.renumber r) := by
    rw [contextCopies_renumber]
    exact List.filter_map
  unfold copyWholeContext
  rw [Subject.renumber_script]
  simp only [hoffending, List.isEmpty_map, instructions_lines]
  split
  · exact pure_plain rfl
  · exact pure_located

theorem unnecessaryIn_renumber (patterns : List Text) (i : Instruction) :
    unnecessaryIn patterns (i.renumber r) =
      (unnecessaryIn patterns i).map fun found => (found.1.renumber r, found.2) := by
  unfold unnecessaryIn
  rw [Option.map_map]
  rfl

theorem copyUnnecessaryFiles_stable : Stable r copyUnnecessaryFiles := by
  intro subject
  have hfound : ∀ patterns, (contextCopies (subject.script.renumber r)).findSome?
        (unnecessaryIn patterns) =
      ((contextCopies subject.script).findSome? (unnecessaryIn patterns)).map
        fun found => (found.1.renumber r, found.2) := by
    intro patterns
    rw [contextCopies_renumber, List.findSome?_map, List.map_findSome?]
    congr 1
    exact funext (unnecessaryIn_renumber patterns)
  unfold copyUnnecessaryFiles
  rw [Subject.renumber_script, Subject.renumber_config]
  simp only [hfound]
  cases (contextCopies subject.script).findSome? (unnecessaryIn _) with
  | none => rfl
  | some found => rfl

theorem addInsteadOfCopy_stable [Characters] : Stable r addInsteadOfCopy := by
  intro subject
  have hkept : ∀ p : Instruction → Bool, (∀ i : Instruction, p (i.renumber r) = p i) →
      (((subject.script.ofKind .add).map (Instruction.renumber r)).filter p).map (·.line) =
        (((subject.script.ofKind .add).filter p).map (·.line)).map r := by
    intro p hp
    rw [List.filter_map, instructions_lines]
    congr 3
    exact funext hp
  unfold addInsteadOfCopy
  rw [Subject.renumber_script, ofKind_renumber]
  simp only [hkept (fun i => !i.sources.all isUrl) fun _ => rfl,
    hkept (fun i => i.sources.any isUrl) fun _ => rfl, List.isEmpty_map, map_pure, List.map_append]
  congr 2
  · split
    · rfl
    · simp [Finding.renumber]
  · split
    · rfl
    · simp [Finding.renumber]

theorem runCount_stable : Stable r runCount := by
  intro subject
  unfold runCount
  rw [Subject.renumber_script, ofKind_renumber,
    show (subject.renumber r).facts.runCount = subject.facts.runCount from rfl,
    Subject.renumber_config]
  simp only [instructions_lines]
  split
  · exact pure_located
  split <;> rfl

theorem stageNames_renumber [Characters] (script : BuildScript) :
    stageNames (script.renumber r) = stageNames script := by
  unfold stageNames BuildScript.stages
  rw [ofKind_renumber, List.filterMap_map]
  rfl

theorem multiStage_stable [Characters] : Stable r multiStage := by
  intro subject
  unfold multiStage
  rw [Subject.renumber_script, stageNames_renumber,
    show (subject.renumber r).facts.stageCount = subject.facts.stageCount from rfl,
    Subject.renumber_config]
  rw [Subject.renumber_facts, Facts.renumber_commands, filterM_map]
  dsimp only
  split
  · split <;> rfl
  · simp only [bind_map_left, map_bind, List.isEmpty_map, commands_lines]
    refine bind_congr fun builds => ?_
    split
    · exact pure_plain rfl
    · exact pure_located

theorem tempFileCleanup_stable [Characters] : Stable r tempFileCleanup := by
  intro subject
  have hbuilding : (subject.renumber r).facts.commands.filter (·.runsAtBuild) =
      (subject.facts.commands.filter (·.runsAtBuild)).map (Command.renumber r) := List.filter_map
  have hfetching : ∀ commands : List Command, (commands.map (Command.renumber r)).filter
        (fun c => subject.config.fetchIndicators.any (Text.holds · c.text)) =
      (commands.filter fun c => subject.config.fetchIndicators.any (Text.holds · c.text)).map
        (Command.renumber r) := fun _ => List.filter_map
  unfold tempFileCleanup
  rw [Subject.renumber_config, hbuilding]
  simp only [hfetching, anyM_map, List.isEmpty_map, commands_lines, map_bind]
  refine bind_congr fun cleaned => ?_
  split
  · rfl
  · exact pure_located

/-! ## The rules about packages -/

theorem calledManagers_renumber (subject : Subject) :
    calledManagers (subject.renumber r) = calledManagers subject := by
  unfold calledManagers
  rw [Subject.renumber_config, Subject.renumber_facts]
  simp only [familyLines_renumber, List.isEmpty_map]

theorem callsOf_renumber (hr : Function.Injective r) (facts : Facts) (manager : PackageManager) :
    callsOf (facts.renumber r) manager = (callsOf facts manager).map (Command.renumber r) := by
  unfold callsOf
  rw [familyLines_renumber]
  dsimp only [Facts.renumber]
  rw [List.filter_map]
  congr 2
  funext c
  rw [Function.comp, Bool.eq_iff_iff, List.contains_iff_mem, List.contains_iff_mem]
  exact List.mem_map_of_injective hr

theorem installsOf_renumber [Characters] (hr : Function.Injective r) (facts : Facts)
    (manager : PackageManager) :
    installsOf (facts.renumber r) manager =
      List.map (Command.renumber r) <$> installsOf facts manager := by
  unfold installsOf
  rw [callsOf_renumber hr, filterM_map]
  rfl

theorem forEach_renumber {managers : List PackageManager}
    {check check' : PackageManager → Except Pattern.Fault (List Finding)}
    (h : ∀ manager, check' manager = List.map (Finding.renumber r) <$> check manager) :
    forEach managers check' = List.map (Finding.renumber r) <$> forEach managers check :=
  flatten_mapM_map fun manager _ => h manager

theorem installRecommends_stable [Characters] (hr : Function.Injective r) :
    Stable r installRecommends := by
  intro subject
  unfold installRecommends
  rw [calledManagers_renumber]
  refine forEach_renumber fun manager => ?_
  cases given manager.noRecommends with
  | none => rfl
  | some flag =>
    have hlacking : ∀ commands : List Command,
        (commands.map (Command.renumber r)).filter (fun c => !Text.holds flag c.text) =
          (commands.filter fun c => !Text.holds flag c.text).map (Command.renumber r) :=
      fun _ => List.filter_map
    dsimp only
    rw [Subject.renumber_facts, installsOf_renumber hr]
    simp only [bind_map_left, map_bind, hlacking, List.isEmpty_map, commands_lines]
    refine bind_congr fun installs => ?_
    split
    · rfl
    · exact pure_located

theorem cleansCache_renumber [Characters] (facts : Facts) (manager : PackageManager) :
    cleansCache (facts.renumber r) manager = cleansCache facts manager := by
  unfold cleansCache
  simp only [Facts.renumber, anyM_map]
  rfl

theorem packageCacheCleanup_stable [Characters] (hr : Function.Injective r) :
    Stable r packageCacheCleanup := by
  intro subject
  unfold packageCacheCleanup
  rw [calledManagers_renumber]
  dsimp only
  split
  · rfl
  refine forEach_renumber fun manager => ?_
  rw [Subject.renumber_facts, installsOf_renumber hr, cleansCache_renumber]
  simp only [bind_map_left, map_bind, List.isEmpty_map, commands_lines]
  refine bind_congr fun installs => ?_
  split
  · rfl
  simp only [map_bind]
  refine bind_congr fun cleaned => ?_
  split
  · rfl
  · exact pure_located

theorem eraseDups_map (hr : Function.Injective r) (lines : List Nat) :
    (lines.map r).eraseDups = lines.eraseDups.map r := by
  induction h : lines.length using Nat.strong_induction_on generalizing lines with
  | _ n ih =>
    cases lines with
    | nil => rfl
    | cons first rest =>
      have hothers : (rest.map r).filter (fun line => !line == r first) =
          (rest.filter fun line => !line == first).map r := by
        rw [List.filter_map]
        congr 2
        funext line
        simp [hr.eq_iff, BEq.beq]
      have hlength : (rest.filter fun line => !line == first).length < n := by
        have := List.length_filter_le (fun line => !line == first) rest
        simp only [List.length_cons] at h
        omega
      rw [List.map_cons, List.eraseDups_cons, hothers, ih _ hlength _ rfl, List.eraseDups_cons,
        List.map_cons]

theorem ascending_renumber (hr : StrictMono r) (lines : List Nat) :
    ascending (lines.map r) = (ascending lines).map r := by
  unfold ascending
  rw [eraseDups_map hr.injective]
  refine (List.map_mergeSort fun a _ b _ => ?_).symm
  simp [hr.le_iff_le]

theorem any_contains_renumber (hr : Function.Injective r) (updates installs : List Command) :
    (updates.map (Command.renumber r)).any (installs.map (Command.renumber r)).contains =
      updates.any installs.contains := by
  have hcommand : Function.Injective (Command.renumber r) := by
    intro c d h
    cases c
    cases d
    simp_all [Command.renumber, hr.eq_iff]
  rw [List.any_map]
  congr 1
  funext c
  rw [Function.comp, Bool.eq_iff_iff, List.contains_iff_mem, List.contains_iff_mem]
  exact List.mem_map_of_injective hcommand

theorem updateInstallSplit_stable [Characters] (hr : StrictMono r) : Stable r updateInstallSplit
    := by
  intro subject
  unfold updateInstallSplit
  rw [calledManagers_renumber]
  refine forEach_renumber fun manager => ?_
  cases given manager.update with
  | none => rfl
  | some pattern =>
    dsimp only
    rw [Subject.renumber_facts, installsOf_renumber hr.injective, Facts.renumber_commands,
      filterM_map]
    simp only [bind_map_left, map_bind, List.isEmpty_map, ← List.map_append, commands_lines,
      ascending_renumber hr, any_contains_renumber hr.injective]
    refine bind_congr fun updates => ?_
    refine bind_congr fun installs => ?_
    split
    · rfl
    split
    · rfl
    · exact pure_located

theorem apkVirtualDeps_stable [Characters] (hr : Function.Injective r) : Stable r apkVirtualDeps
    := by
  intro subject
  unfold apkVirtualDeps
  rw [calledManagers_renumber]
  refine forEach_renumber fun manager => ?_
  rw [Subject.renumber_facts, installsOf_renumber hr]
  simp only [bind_map_left, map_bind, filterM_map, List.isEmpty_map, commands_lines]
  refine bind_congr fun installs => ?_
  refine bind_congr fun offending => ?_
  split
  · rfl
  · exact pure_located

/-! ## The declared rules -/

theorem matchingLines_renumber [Characters] (rule : CustomRule) (script : BuildScript) :
    matchingLines rule (script.renumber r) = List.map r <$> matchingLines rule script := by
  unfold matchingLines BuildScript.renumber
  simp only [map_bind, map_pure]
  refine bind_congr fun pattern => ?_
  rw [List.filter_map, instructions_lines]
  rfl

theorem customRule_renumber [Characters] (script : BuildScript) (rule : CustomRule) :
    customRule (script.renumber r) rule =
      List.map (Finding.renumber r) <$> customRule script rule := by
  unfold customRule
  rw [matchingLines_renumber]
  simp only [bind_map_left, map_bind, map_pure, List.map_map]
  rfl

theorem customRules_stable [Characters] : Stable r customRules :=
  fun subject => flatten_mapM_map fun rule _ => customRule_renumber subject.script rule

end Rules

/-! ## The whole run -/

/-- Every built-in rule finds the same under new numbers in the same order. -/
theorem catalog_stable [Characters] (hr : StrictMono r) : ∀ rule ∈ catalog, Stable r rule.check
    := by
  have hinj := hr.injective
  unfold catalog
  simp only [List.forall_mem_cons]
  exact ⟨Rules.exclusionFile_stable, Rules.exclusionCoverage_stable, Rules.baseImageWeight_stable,
    Rules.baseImageTag_stable, Rules.workdirMissing_stable, Rules.installRecommends_stable hinj,
    Rules.packageCacheCleanup_stable hinj, Rules.updateInstallSplit_stable hr,
    Rules.apkVirtualDeps_stable hinj, Rules.tempFileCleanup_stable, Rules.runCount_stable,
    Rules.multiStage_stable, Rules.copyWholeContext_stable, Rules.copyUnnecessaryFiles_stable,
    Rules.labelMissing_stable, Rules.exposeMissing_stable, Rules.healthcheckMissing_stable,
    Rules.rootUser_stable, Rules.addInsteadOfCopy_stable, Rules.unparsedLine_stable, by simp⟩

theorem outcomes_renumber [Characters] (hr : StrictMono r) (subject : Subject) :
    (subject.renumber r).outcomes =
      subject.outcomes.map fun outcome => List.map (Finding.renumber r) <$> outcome := by
  unfold Subject.outcomes Subject.enabledRules
  rw [Subject.renumber_config, List.map_append, List.map_map, List.map_singleton,
    Rules.customRules_stable]
  congr 1
  refine List.map_congr_left fun rule hrule => ?_
  exact catalog_stable hr rule (List.mem_of_mem_filter hrule) subject

theorem findings_renumber [Characters] (hr : StrictMono r) (subject : Subject) :
    (subject.renumber r).findings = List.map (Finding.renumber r) <$> subject.findings := by
  unfold Subject.findings
  rw [outcomes_renumber hr, List.mapM_map]
  exact flatten_mapM_map fun outcome _ => rfl

theorem prepare_renumber [Characters] (hr : Function.Injective r) (script : BuildScript)
    (exclusions : Exclusions) (config : Config) :
    Subject.prepare (script.renumber r) exclusions config =
      Subject.renumber r <$> Subject.prepare script exclusions config := by
  unfold Subject.prepare
  rw [derive_renumber hr]
  simp only [bind_map_left, map_bind, map_pure]
  rfl

/-- The counts do not look at line references. -/
theorem tally_renumber (findings : List Finding) :
    Verdict.tally (findings.map (Finding.renumber r)) = (Verdict.tally findings).renumber r := by
  unfold Verdict.tally Verdict.renumber
  rw [List.countP_map, List.countP_map]
  rfl

/-- Two texts that read the same but for line numbers are analysed the same
but for line numbers. -/
theorem analyze_renumber [Characters] (hr : StrictMono r) {lines lines' : List Text}
    (h : BuildScript.ofLines lines' = (BuildScript.ofLines lines).renumber r)
    (content : Option Text) (config : Config) :
    analyze lines' content config = Analysis.renumber r <$> analyze lines content config := by
  unfold analyze
  simp only [h, prepare_renumber hr.injective, bind_map_left, findings_renumber hr, map_bind,
    map_pure, tally_renumber]
  rfl

end ImageLint
