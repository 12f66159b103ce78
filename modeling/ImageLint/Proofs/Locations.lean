-- Where findings point. The line references of a built-in rule are lines of
-- directives, in order and each once; a declared rule points at the one line
-- that it matches. A note that a check passed points nowhere.
import Mathlib.Data.List.Sort
import ImageLint.Analysis
import ImageLint.Proofs.Blocks
import ImageLint.Proofs.Findings
import ImageLint.Text.Names

namespace ImageLint

/-! ## The lines of directives -/

namespace BuildScript

/-- The lines of the directives, in order. -/
def directiveLines (script : BuildScript) : List Nat :=
  (script.instructions.filter (·.continues.isNone)).map (·.line)

/-- The lines of the instructions increase, and a line that continues another
is of no kind and is not malformed. -/
structure Regular (script : BuildScript) : Prop where
  increasing : (script.instructions.map (·.line)).Pairwise (· < ·)
  plain : ∀ i ∈ script.instructions, i.continues ≠ none →
    i.keyword = .unknown ∧ i.malformed = false

theorem ofLines_regular (lines : List Text) : (ofLines lines).Regular where
  increasing := ofLines_sorted lines
  plain _ hi hc := ⟨(continuation_fields hi hc).1, (continuation_fields hi hc).2.1⟩

theorem commands_map_line (script : BuildScript) :
    script.commands.map (·.line) = script.directiveLines := by
  unfold commands directiveLines
  rw [List.map_map]
  rfl

theorem directiveLines_sublist (script : BuildScript) :
    script.directiveLines.Sublist (script.instructions.map (·.line)) :=
  List.filter_sublist.map _

variable {script : BuildScript}

theorem Regular.directiveLines_increasing (h : script.Regular) :
    script.directiveLines.Pairwise (· < ·) :=
  h.increasing.sublist script.directiveLines_sublist

/-- An instruction of some kind is a directive. -/
theorem Regular.continues_eq_none (h : script.Regular) {i : Instruction}
    (hi : i ∈ script.instructions) (hkind : i.keyword ≠ .unknown ∨ i.malformed = true) :
    i.continues = none := by
  by_contra hc
  obtain ⟨hkeyword, hmalformed⟩ := h.plain i hi hc
  rcases hkind with hkind | hkind
  · exact hkind hkeyword
  · rw [hmalformed] at hkind
    cases hkind

/-- Of instructions that are all directives, the lines are lines of
directives. -/
theorem filter_sublist_directiveLines {p : Instruction → Bool}
    (h : ∀ i ∈ script.instructions, p i = true → i.continues = none) :
    ((script.instructions.filter p).map (·.line)).Sublist script.directiveLines := by
  have hfilter : script.instructions.filter p =
      (script.instructions.filter (·.continues.isNone)).filter p := by
    rw [List.filter_filter]
    refine List.filter_congr fun i hi => ?_
    cases hp : p i with
    | false => rfl
    | true => simp [h i hi hp]
  rw [hfilter]
  exact List.filter_sublist.map _

theorem Regular.ofKind_sublist (h : script.Regular) {keyword : Keyword}
    (hkeyword : keyword ≠ .unknown) :
    ((script.ofKind keyword).map (·.line)).Sublist script.directiveLines := by
  refine filter_sublist_directiveLines fun i hi hp => ?_
  have heq : i.keyword = keyword := by simpa using hp
  exact h.continues_eq_none hi (.inl (heq ▸ hkeyword))

end BuildScript

/-! ## What a finding points at -/

/-- The finding points at some of the lines, in their order. -/
def PointsInto (lines : List Nat) (f : Finding) : Prop :=
  ∃ kept : List Nat, kept.Sublist lines ∧ f.lines = Finding.refs kept

theorem pointsInto_of_nil {lines : List Nat} {f : Finding} (h : f.lines = []) :
    PointsInto lines f := ⟨[], List.nil_sublist lines, h⟩

theorem pointsInto_of_mem {lines : List Nat} {line : Nat} (h : line ∈ lines) {f : Finding}
    (hf : f.lines = Finding.refs [line]) : PointsInto lines f :=
  ⟨[line], List.singleton_sublist.mpr h, hf⟩

theorem PointsInto.mono {lines more : List Nat} (h : lines.Sublist more) {f : Finding}
    (hf : PointsInto lines f) : PointsInto more f := by
  obtain ⟨kept, hkept, heq⟩ := hf
  exact ⟨kept, hkept.trans h, heq⟩

theorem PointsInto.exists_mem {lines : List Nat} {f : Finding} (h : PointsInto lines f) {n : Int}
    (hn : n ∈ f.lines) : ∃ line ∈ lines, n = line := by
  obtain ⟨kept, hkept, heq⟩ := h
  rw [heq] at hn
  obtain ⟨line, hline, rfl⟩ := List.mem_map.mp hn
  exact ⟨line, hkept.subset hline, rfl⟩

theorem PointsInto.increasing {lines : List Nat} (hlines : lines.Pairwise (· < ·)) {f : Finding}
    (h : PointsInto lines f) : f.lines.Pairwise (· < ·) := by
  obtain ⟨kept, hkept, heq⟩ := h
  rw [heq]
  unfold Finding.refs
  rw [List.pairwise_map]
  exact (hlines.sublist hkept).imp fun hlt => Int.ofNat_lt.mpr hlt

/-! ## The subject of a run -/

/-- The script of the subject is regular, and its commands are those of the
script. -/
structure Subject.Regular (subject : Subject) : Prop where
  script : subject.script.Regular
  commands : subject.facts.commands = subject.script.commands

theorem Subject.Regular.of_prepare [Characters] {lines : List Text} {exclusions : Exclusions}
    {config : Config} {subject : Subject}
    (h : Subject.prepare (.ofLines lines) exclusions config = .ok subject) : subject.Regular := by
  obtain ⟨facts, hfacts, heq⟩ := bind_eq_ok_iff.mp h
  cases heq
  obtain ⟨families, _, heq⟩ := bind_eq_ok_iff.mp hfacts
  cases heq
  exact ⟨BuildScript.ofLines_regular lines, rfl⟩

theorem Subject.Regular.commands_sublist {subject : Subject} (h : subject.Regular)
    {commands : List Command} (hsub : commands.Sublist subject.facts.commands) :
    (commands.map (·.line)).Sublist subject.script.directiveLines := by
  rw [h.commands] at hsub
  rw [← BuildScript.commands_map_line]
  exact hsub.map _

/-- Numbers in order, each once, stand in the order of any increasing list that
holds them. -/
theorem sublist_of_subset {lines more : List Nat} (hnodup : lines.Nodup)
    (hsorted : lines.Pairwise (· ≤ ·)) (hmore : more.Pairwise (· < ·)) (h : lines ⊆ more) :
    lines.Sublist more :=
  List.sublist_of_subperm_of_pairwise (List.subperm_of_subset hnodup h) hsorted
    (hmore.imp Nat.le_of_lt)

namespace Rules

variable {subject : Subject}

/-- Every finding of the check points at directives. -/
def PointsAtDirectives (subject : Subject) (outcome : Except Pattern.Fault (List Finding)) : Prop :=
  Each (PointsInto subject.script.directiveLines) outcome

/-! ## The rules that point nowhere -/

theorem exclusionFile_points (subject : Subject) :
    PointsAtDirectives subject (exclusionFile subject) := by
  unfold exclusionFile
  cases subject.exclusions.state
  all_goals exact each_one (pointsInto_of_nil rfl)

theorem exclusionCoverage_points (subject : Subject) :
    PointsAtDirectives subject (exclusionCoverage subject) := by
  unfold exclusionCoverage
  dsimp only
  split
  · exact each_nil
  split
  · exact each_one (pointsInto_of_nil rfl)
  split
  all_goals exact each_one (pointsInto_of_nil rfl)

theorem workdirMissing_points (subject : Subject) :
    PointsAtDirectives subject (workdirMissing subject) := by
  unfold workdirMissing
  split
  all_goals exact each_one (pointsInto_of_nil rfl)

theorem labelMissing_points (subject : Subject) :
    PointsAtDirectives subject (labelMissing subject) := by
  unfold labelMissing
  split
  · exact each_nil
  · exact each_one (pointsInto_of_nil rfl)

theorem exposeMissing_points (subject : Subject) :
    PointsAtDirectives subject (exposeMissing subject) := by
  unfold exposeMissing
  split
  · exact each_nil
  · exact each_one (pointsInto_of_nil rfl)

theorem healthcheckMissing_points (subject : Subject) :
    PointsAtDirectives subject (healthcheckMissing subject) := by
  unfold healthcheckMissing
  split
  · exact each_nil
  · exact each_one (pointsInto_of_nil rfl)

/-! ## The rules about instructions -/

theorem baseImage?_mem {script : BuildScript} (h : script.Regular) {base : Instruction}
    (hbase : script.baseImage? = some base) : base.line ∈ script.directiveLines := by
  have hmem : base ∈ script.stages := List.mem_of_head? hbase
  exact (h.ofKind_sublist (by decide)).subset (List.mem_map_of_mem hmem)

theorem baseImageWeight_points [Characters] (h : subject.Regular) :
    PointsAtDirectives subject (baseImageWeight subject) := by
  unfold baseImageWeight
  dsimp only
  split
  · exact each_one (pointsInto_of_nil rfl)
  · rename_i base hbase
    split
    · exact each_one (pointsInto_of_nil rfl)
    · refine each_bind fun family => each_one ?_
      refine pointsInto_of_mem (baseImage?_mem h.script hbase) ?_
      unfold weightFinding
      split <;> rfl

theorem baseImageTag_points [Characters] (h : subject.Regular) :
    PointsAtDirectives subject (baseImageTag subject) := by
  unfold baseImageTag
  dsimp only
  split
  · exact each_nil
  · rename_i base hbase
    split
    · exact each_nil
    split
    · exact each_one (pointsInto_of_mem (baseImage?_mem h.script hbase) rfl)
    · exact each_nil

theorem rootUser_points [Characters] (h : subject.Regular) :
    PointsAtDirectives subject (rootUser subject) := by
  unfold rootUser
  dsimp only
  split
  · have hsub := (List.filter_sublist (p := (·.isRoot)) (l := subject.script.ofKind .user)).map
      (·.line)
    exact each_one ⟨_, hsub.trans (h.script.ofKind_sublist (by decide)), rfl⟩
  split
  all_goals exact each_one (pointsInto_of_nil rfl)

theorem unparsedLine_points (h : subject.Regular) :
    PointsAtDirectives subject (unparsedLine subject) := by
  unfold unparsedLine
  dsimp only
  split
  · exact each_nil
  · refine each_one ⟨_, BuildScript.filter_sublist_directiveLines fun i hi hp => ?_, rfl⟩
    exact h.script.continues_eq_none hi (.inr hp)

theorem contextCopies_sublist {script : BuildScript} (h : script.Regular) :
    ((contextCopies script).map (·.line)).Sublist script.directiveLines := by
  refine BuildScript.filter_sublist_directiveLines fun i hi hp => ?_
  refine h.continues_eq_none hi (.inl fun hunknown => ?_)
  simp [hunknown] at hp

theorem copyWholeContext_points [Characters] (h : subject.Regular) :
    PointsAtDirectives subject (copyWholeContext subject) := by
  unfold copyWholeContext
  dsimp only
  split
  · exact each_one (pointsInto_of_nil rfl)
  · have hsub := (List.filter_sublist (p := copiesEverything)
      (l := contextCopies subject.script)).map (·.line)
    exact each_one ⟨_, hsub.trans (contextCopies_sublist h.script), rfl⟩

theorem copyUnnecessaryFiles_points (h : subject.Regular) :
    PointsAtDirectives subject (copyUnnecessaryFiles subject) := by
  unfold copyUnnecessaryFiles
  dsimp only
  split
  · exact each_nil
  · rename_i i pattern hfound
    obtain ⟨copy, hcopy, hin⟩ := List.exists_of_findSome?_eq_some hfound
    obtain ⟨_, _, heq⟩ := Option.map_eq_some_iff.mp hin
    cases heq
    have hmem := (contextCopies_sublist h.script).subset (List.mem_map_of_mem hcopy)
    exact each_one (pointsInto_of_mem hmem rfl)

theorem addInsteadOfCopy_points [Characters] (h : subject.Regular) :
    PointsAtDirectives subject (addInsteadOfCopy subject) := by
  have hsub : ∀ p : Instruction → Bool,
      (((subject.script.ofKind .add).filter p).map (·.line)).Sublist
        subject.script.directiveLines :=
    fun p => (List.filter_sublist.map _).trans (h.script.ofKind_sublist (by decide))
  unfold addInsteadOfCopy
  refine each_pure fun f hf => ?_
  rcases List.mem_append.mp hf with hf | hf
  all_goals
    split at hf
    · simp at hf
    · rw [List.mem_singleton.mp hf]
      exact ⟨_, hsub _, rfl⟩

theorem runCount_points (h : subject.Regular) :
    PointsAtDirectives subject (runCount subject) := by
  unfold runCount
  dsimp only
  split
  · exact each_one ⟨_, h.script.ofKind_sublist (by decide), rfl⟩
  split
  · exact each_one (pointsInto_of_nil rfl)
  · exact each_nil

/-! ## The rules about commands -/

theorem tempFileCleanup_points [Characters] (h : subject.Regular) :
    PointsAtDirectives subject (tempFileCleanup subject) := by
  unfold tempFileCleanup
  refine each_bind fun cleaned => ?_
  split
  · exact each_one (pointsInto_of_nil rfl)
  · exact each_one ⟨_, h.commands_sublist (List.filter_sublist.trans List.filter_sublist), rfl⟩

theorem multiStage_points [Characters] (h : subject.Regular) :
    PointsAtDirectives subject (multiStage subject) := by
  unfold multiStage
  dsimp only
  split
  · refine each_pure fun f hf => ?_
    rcases List.mem_cons.mp hf with rfl | hf
    · exact pointsInto_of_nil rfl
    · split at hf
      · simp at hf
      · rw [List.mem_singleton.mp hf]
        exact pointsInto_of_nil rfl
  · refine each_bind_ok fun builds hbuilds => ?_
    split
    · exact each_one (pointsInto_of_nil rfl)
    · exact each_one ⟨_, h.commands_sublist (sublist_of_filterM hbuilds), rfl⟩

theorem installsOf_sublist [Characters] {facts : Facts} {manager : PackageManager}
    {installs : List Command}
    (h : installsOf facts manager = .ok installs) : installs.Sublist facts.commands :=
  (sublist_of_filterM h).trans List.filter_sublist

theorem installRecommends_points [Characters] (h : subject.Regular) :
    PointsAtDirectives subject (installRecommends subject) := by
  unfold installRecommends
  refine each_forEach fun manager _ => ?_
  split
  · refine each_bind_ok fun installs hinstalls => ?_
    dsimp only
    split
    · exact each_nil
    · refine each_one ⟨_, h.commands_sublist (List.filter_sublist.trans ?_), rfl⟩
      exact installsOf_sublist hinstalls
  · exact each_nil

theorem packageCacheCleanup_points [Characters] (h : subject.Regular) :
    PointsAtDirectives subject (packageCacheCleanup subject) := by
  unfold packageCacheCleanup
  dsimp only
  split
  · exact each_one (pointsInto_of_nil rfl)
  refine each_forEach fun manager _ => each_bind_ok fun installs hinstalls => ?_
  split
  · exact each_nil
  refine each_bind fun cleaned => ?_
  split
  · exact each_nil
  · exact each_one ⟨_, h.commands_sublist (installsOf_sublist hinstalls), rfl⟩

theorem nodup_eraseDups {α : Type} [BEq α] [LawfulBEq α] (items : List α) :
    items.eraseDups.Nodup := by
  match items with
  | [] => exact List.nodup_nil
  | first :: rest =>
    rw [List.eraseDups_cons, List.nodup_cons]
    refine ⟨fun hmem => ?_, nodup_eraseDups (rest.filter fun item => !item == first)⟩
    have hkept := List.mem_filter.mp (List.mem_eraseDups.mp hmem)
    simp at hkept
termination_by items.length
decreasing_by
  exact Nat.lt_succ_of_le (List.length_filter_le _ rest)

theorem ascending_sublist {lines more : List Nat} (hmore : more.Pairwise (· < ·))
    (h : lines ⊆ more) : (ascending lines).Sublist more := by
  have hperm : (ascending lines).Perm lines.eraseDups := List.mergeSort_perm _ _
  have hsorted : (ascending lines).Pairwise (· ≤ ·) := by
    have hle := @List.pairwise_mergeSort Nat (fun a b => decide (a ≤ b))
      (fun a b c => by simpa using Nat.le_trans) (fun a b => by simpa using Nat.le_total a b)
      lines.eraseDups
    exact hle.imp of_decide_eq_true
  refine sublist_of_subset (hperm.nodup_iff.mpr (nodup_eraseDups lines)) hsorted hmore ?_
  intro line hline
  exact h (List.mem_eraseDups.mp (hperm.subset hline))

theorem updateInstallSplit_points [Characters] (h : subject.Regular) :
    PointsAtDirectives subject (updateInstallSplit subject) := by
  unfold updateInstallSplit
  refine each_forEach fun manager _ => ?_
  split
  · refine each_bind_ok fun updates hupdates => each_bind_ok fun installs hinstalls => ?_
    split
    · exact each_nil
    split
    · exact each_nil
    · refine each_one ⟨_, ascending_sublist h.script.directiveLines_increasing ?_, rfl⟩
      rw [List.map_append]
      exact List.append_subset.mpr
        ⟨(h.commands_sublist (sublist_of_filterM hupdates)).subset,
          (h.commands_sublist (installsOf_sublist hinstalls)).subset⟩
  · exact each_nil

theorem apkVirtualDeps_points [Characters] (h : subject.Regular) :
    PointsAtDirectives subject (apkVirtualDeps subject) := by
  unfold apkVirtualDeps
  refine each_forEach fun manager _ => ?_
  refine each_bind_ok fun installs hinstalls => each_bind_ok fun offending hoffending => ?_
  split
  · exact each_nil
  · have hsub := (sublist_of_filterM hoffending).trans (installsOf_sublist hinstalls)
    exact each_one ⟨_, h.commands_sublist hsub, rfl⟩

end Rules

/-- Every built-in rule points at directives. -/
theorem catalog_points [Characters] {subject : Subject} (h : subject.Regular) :
    ∀ rule ∈ catalog, Rules.PointsAtDirectives subject (rule.check subject) := by
  unfold catalog
  simp only [List.forall_mem_cons]
  exact ⟨Rules.exclusionFile_points subject, Rules.exclusionCoverage_points subject,
    Rules.baseImageWeight_points h, Rules.baseImageTag_points h,
    Rules.workdirMissing_points subject, Rules.installRecommends_points h,
    Rules.packageCacheCleanup_points h, Rules.updateInstallSplit_points h,
    Rules.apkVirtualDeps_points h, Rules.tempFileCleanup_points h, Rules.runCount_points h,
    Rules.multiStage_points h, Rules.copyWholeContext_points h,
    Rules.copyUnnecessaryFiles_points h, Rules.labelMissing_points subject,
    Rules.exposeMissing_points subject, Rules.healthcheckMissing_points subject,
    Rules.rootUser_points h, Rules.addInsteadOfCopy_points h, Rules.unparsedLine_points h, by simp⟩

/-! ## The declared rules -/

/-- A finding of a declared rule: it points at one instruction, is no note
that a check passed, and is shown in the last section of the report. -/
structure Declares (script : BuildScript) (f : Finding) : Prop where
  points : ∃ i ∈ script.instructions, f.lines = [(i.line : Int)]
  passed_eq : f.passed = false
  topic_eq : f.topic = 14

theorem customRules_declares [Characters] (subject : Subject) :
    Each (Declares subject.script) (Rules.customRules subject) := by
  refine each_flatten fun rule _ => ?_
  unfold Rules.customRule Rules.matchingLines
  refine each_bind_ok fun lines hlines => each_pure fun f hf => ?_
  obtain ⟨pattern, _, heq⟩ := bind_eq_ok_iff.mp hlines
  cases heq
  obtain ⟨line, hline, rfl⟩ := List.mem_map.mp hf
  obtain ⟨i, hi, rfl⟩ := List.mem_map.mp hline
  exact ⟨⟨i, List.mem_of_mem_filter hi, rfl⟩, rfl, rfl⟩

/-! ## The findings of a run -/

variable {subject : Subject} {f : Finding}

theorem Subject.FoundByCatalog.pointsInto [Characters] (h : subject.FoundByCatalog f)
    (hregular : subject.Regular) : PointsInto subject.script.directiveLines f := by
  obtain ⟨rule, hrule, found, hfound, hf⟩ := h
  exact catalog_points hregular rule (List.mem_of_mem_filter hrule) found hfound f hf

theorem Subject.FoundByDeclaration.declares [Characters] (h : subject.FoundByDeclaration f) :
    Declares subject.script f := by
  obtain ⟨found, hfound, hf⟩ := h
  exact customRules_declares subject found hfound f hf

theorem Subject.Regular.pointsInto [Characters] (h : subject.Regular)
    (hf : subject.FoundByCatalog f ∨ subject.FoundByDeclaration f) :
    PointsInto (subject.script.instructions.map (·.line)) f := by
  rcases hf with hf | hf
  · exact (hf.pointsInto h).mono subject.script.directiveLines_sublist
  · obtain ⟨i, hi, hlines⟩ := hf.declares.points
    exact pointsInto_of_mem (List.mem_map_of_mem hi) hlines

theorem script_of_prepare [Characters] {script : BuildScript} {exclusions : Exclusions}
    {config : Config}
    (h : Subject.prepare script exclusions config = .ok subject) : subject.script = script := by
  obtain ⟨facts, _, heq⟩ := bind_eq_ok_iff.mp h
  cases heq
  rfl

/-! ## Where the instructions stand -/

/-- Every instruction stands on a line of the script that is neither blank nor
a comment. -/
theorem exists_line_of_instruction {lines : List Text} {i : Instruction}
    (h : i ∈ (BuildScript.ofLines lines).instructions) :
    1 ≤ i.line ∧ i.line ≤ lines.length ∧
      ∃ line, lines[i.line - 1]? = some line ∧
        BuildScript.significantAt i.line line = some i.raw := by
  obtain ⟨owner, number, text, hmem, rfl⟩ := BuildScript.exists_reading h
  obtain ⟨hle, line, hget, hraw⟩ := BuildScript.mem_significantLines_iff.mp hmem
  rw [BuildScript.reading_line, BuildScript.reading_raw]
  have hlt := (List.getElem?_eq_some_iff.mp hget).1
  exact ⟨hle, by omega, line, hget, hraw⟩

/-! ## The law -/

/-- Where the findings of a run point. Line references increase, and each is
the number of a line with an instruction, which is neither blank nor a
comment. A built-in rule points at directives only and never at a line that
continues one, a declared rule points at one line, and a note that a check
passed is information that points nowhere and has no tip. -/
theorem findings_are_well_located [Characters] (lines : List Text) (content : Option Text)
    (config : Config) (analysis : Analysis) (h : analyze lines content config = .ok analysis) :
    ∀ f ∈ analysis.verdict.findings,
      f.lines.Pairwise (· < ·) ∧
      (∀ n ∈ f.lines, 1 ≤ n ∧ n ≤ lines.length ∧
        ∃ i ∈ analysis.script.instructions, n = i.line ∧
          ∃ line, lines[i.line - 1]? = some line ∧
            BuildScript.significantAt i.line line = some i.raw) ∧
      (f.passed = true → f.severity = .info ∧ f.lines = [] ∧ f.tip = none) ∧
      ((analysis.subject config).FoundByCatalog f ∨
        (analysis.subject config).FoundByDeclaration f) ∧
      ((analysis.subject config).FoundByCatalog f →
        ∀ n ∈ f.lines, ∃ i ∈ analysis.script.instructions, n = i.line ∧ i.continues = none) ∧
      ((analysis.subject config).FoundByDeclaration f → ∃ n, f.lines = [n]) := by
  obtain ⟨hsubject, hfound, _⟩ := subject_of_analyze h
  have hregular := Subject.Regular.of_prepare hsubject
  have hscript := script_of_prepare hsubject
  intro f hf
  have hsource := (mem_findings_iff hfound f).mp hf
  have hpoints := hregular.pointsInto hsource
  refine ⟨hpoints.increasing hregular.script.increasing, ?_, ?_, hsource, ?_, ?_⟩
  · intro n hn
    obtain ⟨line, hline, rfl⟩ := hpoints.exists_mem hn
    obtain ⟨i, hi, rfl⟩ := List.mem_map.mp hline
    obtain ⟨hone, hlast, hstands⟩ := exists_line_of_instruction (hscript ▸ hi)
    exact ⟨by omega, by omega, i, hi, rfl, hstands⟩
  · intro hpassed
    rcases hsource with ⟨rule, hrule, fs, hfs, hin⟩ | hsource
    · obtain ⟨_, _, hfits⟩ := exists_fits (List.mem_of_mem_filter hrule) (analysis.subject config)
      exact (hfits fs hfs f hin).quiet hpassed
    · rw [hsource.declares.passed_eq] at hpassed
      cases hpassed
  · intro hsource n hn
    obtain ⟨line, hline, rfl⟩ := (hsource.pointsInto hregular).exists_mem hn
    obtain ⟨i, hi, rfl⟩ := List.mem_map.mp hline
    obtain ⟨hmem, hnone⟩ := List.mem_filter.mp hi
    exact ⟨i, hmem, rfl, Option.isNone_iff_eq_none.mp hnone⟩
  · intro hsource
    obtain ⟨i, _, hlines⟩ := hsource.declares.points
    exact ⟨i.line, hlines⟩

open scoped Characters

/-- A declared rule may point at a line that continues a directive; here it
does so on line four, below a comment. -/
theorem a_declared_rule_points_below_a_comment :
    ∃ analysis, analyze ["USER root", "RUN b \\", "# c", "c", "USER 0"] none
        { packageManagers := []
          buildToolPatterns := []
          customRules := [⟨"no_c", .warning, "c", "No c.", none⟩] } = .ok analysis ∧
      (∃ f ∈ analysis.verdict.findings, f.lines = [4]) ∧
      (∃ f ∈ analysis.verdict.findings, f.lines = [1, 5]) ∧
      ∀ f ∈ analysis.verdict.findings, f.lines.Pairwise (· < ·) := by
  obtain ⟨analysis, h, hfour, hfive⟩ : ∃ analysis,
      analyze ["USER root", "RUN b \\", "# c", "c", "USER 0"] none
        { packageManagers := []
          buildToolPatterns := []
          customRules := [⟨"no_c", .warning, "c", "No c.", none⟩] } = .ok analysis ∧
      (∃ f ∈ analysis.verdict.findings, f.lines = [4]) ∧
      ∃ f ∈ analysis.verdict.findings, f.lines = [1, 5] :=
    ⟨_, by rfl, by decide +kernel, by decide +kernel⟩
  exact ⟨analysis, h, hfour, hfive, fun f hf => (findings_are_well_located _ _ _ _ h f hf).1⟩

end ImageLint
