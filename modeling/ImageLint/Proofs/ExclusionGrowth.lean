-- An exclusion file only gains by lines added at its end: its rules are kept and
-- more are counted, its state never falls back, and nothing that is covered
-- goes missing. What decides each state is said on the way.
import Mathlib.Data.List.Infix
import ImageLint.Proofs.ExitStatus
import ImageLint.Proofs.Lines
import ImageLint.Text.Names

namespace ImageLint

/-! ## A text and what is added below it -/

namespace Text

theorem dropMarks_append_newline (s t : Text) :
    dropMarks (s ++ '\n' :: t) = dropMarks s ++ '\n' :: t := by
  unfold dropMarks
  rw [List.dropWhile_append]
  split
  next h =>
    rw [List.isEmpty_iff.mp h]
    rfl
  next => rfl

end Text

namespace ExclusionState

/-- How far a file has come: the states in the order in which rules are added. -/
def rank : ExclusionState → Nat
  | .absent => 0
  | .empty => 1
  | .commentOnly => 2
  | .insufficient => 3
  | .sufficient => 4

end ExclusionState

namespace Exclusions

/-! ## Rules -/

/-- A line that is empty gives no rule, so the rules are those of the pieces
between line ends. -/
theorem effectiveRules_eq_pieces (s : Text) :
    effectiveRules s = (Text.splitWhere Text.isLineEnd s).filterMap Text.significant? :=
  Text.filterMap_lines rfl s

/-- The rules above and below a line end are told apart, whatever stands
around it. -/
theorem effectiveRules_append_break {c : Char} (hc : Text.isLineEnd c = true) (s t : Text) :
    effectiveRules (s ++ c :: t) = effectiveRules s ++ effectiveRules t := by
  simp only [effectiveRules_eq_pieces]
  rw [Text.splitWhere_append_cons hc, List.filterMap_append]

theorem effectiveRules_of_blank [Characters] {content : Text} (h : Text.strip content = []) :
    effectiveRules content = [] :=
  (effectiveRules_eq_nil_iff content).mpr fun _ hline => isRemark_of_blank h hline

/-- The rules that the content of a file gives: those below its byte-order marks. -/
def rulesOf (content : Text) : List Text := effectiveRules (Text.dropMarks content)

theorem rulesOf_append_newline (content more : Text) :
    rulesOf (content ++ '\n' :: more) = rulesOf content ++ effectiveRules more := by
  unfold rulesOf
  rw [Text.dropMarks_append_newline, effectiveRules_append_break rfl]

/-- Fewer names are missing where there are more rules. -/
theorem missing_sublist (catalog : List (Text × Text)) (rules more : List Text) :
    (missing catalog (rules ++ more)).Sublist (missing catalog rules) := by
  unfold missing
  refine List.Sublist.map _ (List.monotone_filter_right catalog fun entry h => ?_)
  rw [List.any_append, Bool.not_or, Bool.and_eq_true] at h
  exact h.1

/-- The names that a catalog misses, told by the parts of rules. -/
theorem missing_eq (catalog : List (Text × Text)) (rules : List Text) :
    missing catalog rules =
      (catalog.filter fun entry => decide (∀ rule ∈ rules, ¬ entry.2 <:+: rule)).map Prod.fst := by
  unfold missing
  congr 1
  refine List.filter_congr fun entry _ => ?_
  rw [Bool.eq_iff_iff]
  simp [Text.holds_eq_true_iff]

/-! ## States -/

theorem stateOfCount_eq_commentOnly_iff (minimum count : Nat) :
    stateOfCount minimum count = .commentOnly ↔ count = 0 := by
  unfold stateOfCount
  split_ifs <;> simp_all

theorem stateOfCount_eq_insufficient_iff (minimum count : Nat) :
    stateOfCount minimum count = .insufficient ↔ 0 < count ∧ count < minimum := by
  unfold stateOfCount
  split_ifs <;> simp <;> omega

theorem stateOfCount_eq_sufficient_iff (minimum count : Nat) :
    stateOfCount minimum count = .sufficient ↔ 0 < count ∧ minimum ≤ count := by
  unfold stateOfCount
  split_ifs <;> simp <;> omega

/-- A file that is not blank ranks above one that is. -/
theorem stateOfCount_rank (minimum count : Nat) :
    ExclusionState.empty.rank < (stateOfCount minimum count).rank := by
  unfold stateOfCount
  split_ifs <;> decide

/-- With more rules the state is at least as high. -/
theorem stateOfCount_mono (minimum : Nat) {count count' : Nat} (h : count ≤ count') :
    (stateOfCount minimum count).rank ≤ (stateOfCount minimum count').rank := by
  unfold stateOfCount
  split_ifs <;> simp only [ExclusionState.rank] <;> omega

section States

variable (config : Config) (content : Text)

/-- The file holds nothing but byte-order marks and then blanks. -/
def IsBlank (content : Text) : Prop := ∀ c ∈ Text.dropMarks content, Text.isBlank c = true

/-- The state that the number of rules gives a file that is not blank. -/
def stateOf (config : Config) (content : Text) : ExclusionState :=
  stateOfCount config.minExclusionRules (rulesOf content).length

theorem classify_of_blank (h : IsBlank content) :
    classify config (some content) = { state := .empty } := by
  unfold classify
  exact if_pos (by rw [(Text.strip_eq_nil_iff _).mpr h]; rfl)

/-- Coverage is looked at for sufficient files only. -/
theorem classify_of_not_blank (h : ¬ IsBlank content) :
    classify config (some content) =
      { state := stateOf config content
        count := (rulesOf content).length
        missingCritical := if stateOf config content = .sufficient then
          missing config.criticalExclusions (rulesOf content) else []
        missingAdvisory := if stateOf config content = .sufficient then
          missing config.advisoryExclusions (rulesOf content) else []
        rules := rulesOf content } := by
  have hstrip : ¬ (Text.strip (Text.dropMarks content)).isEmpty = true := by
    rw [List.isEmpty_iff]
    exact fun hnil => h ((Text.strip_eq_nil_iff _).mp hnil)
  unfold classify
  dsimp only
  rw [if_neg hstrip]
  by_cases hstate : stateOf config content = .sufficient
  · rw [if_pos hstate, if_pos hstate]
    exact if_pos (beq_iff_eq.mpr hstate)
  · rw [if_neg hstate, if_neg hstate]
    exact if_neg (by rwa [beq_iff_eq])

/-- The rules are counted in every state. -/
theorem count_classify [Characters] : (classify config (some content)).count =
    (rulesOf content).length := by
  by_cases h : IsBlank content
  · rw [classify_of_blank config content h, rulesOf,
      effectiveRules_of_blank ((Text.strip_eq_nil_iff _).mpr h)]
    rfl
  · rw [classify_of_not_blank config content h]

/-- What decides the state of a file, and what is missing from it. -/
structure Told (config : Config) (content : Text) (exclusions : Exclusions) : Prop where
  count : exclusions.count = (rulesOf content).length
  empty : exclusions.state = .empty ↔ IsBlank content
  commentOnly : exclusions.state = .commentOnly ↔ ¬ IsBlank content ∧ exclusions.count = 0
  insufficient : exclusions.state = .insufficient ↔
    0 < exclusions.count ∧ exclusions.count < config.minExclusionRules
  sufficient : exclusions.state = .sufficient ↔
    0 < exclusions.count ∧ config.minExclusionRules ≤ exclusions.count
  missing : exclusions.state = .sufficient →
    exclusions.missingCritical = (config.criticalExclusions.filter fun entry =>
      decide (∀ rule ∈ rulesOf content, ¬ entry.2 <:+: rule)).map Prod.fst ∧
    exclusions.missingAdvisory = (config.advisoryExclusions.filter fun entry =>
      decide (∀ rule ∈ rulesOf content, ¬ entry.2 <:+: rule)).map Prod.fst
  unlooked : exclusions.state ≠ .sufficient →
    exclusions.missingCritical = [] ∧ exclusions.missingAdvisory = []

theorem classify_told [Characters] : Told config content (classify config (some content)) := by
  by_cases h : IsBlank content
  · have hcount := count_classify config content
    rw [classify_of_blank config content h] at hcount ⊢
    constructor
    case count => exact hcount
    all_goals simp [h]
  · rw [classify_of_not_blank config content h]
    constructor
    case count => rfl
    case empty =>
      refine iff_of_false (fun hempty => ?_) h
      exact absurd (congrArg ExclusionState.rank hempty) (stateOfCount_rank _ _).ne'
    case commentOnly => simp [h, stateOf, stateOfCount_eq_commentOnly_iff]
    case insufficient => exact stateOfCount_eq_insufficient_iff _ _
    case sufficient => exact stateOfCount_eq_sufficient_iff _ _
    case missing =>
      intro hstate
      dsimp only at hstate ⊢
      rw [if_pos hstate, if_pos hstate, missing_eq, missing_eq]
      exact ⟨rfl, rfl⟩
    case unlooked =>
      intro hstate
      exact ⟨if_neg hstate, if_neg hstate⟩

theorem rank_classify_le (more : Text) :
    (classify config (some content)).state.rank ≤
      (classify config (some (content ++ '\n' :: more))).state.rank := by
  by_cases h' : IsBlank (content ++ '\n' :: more)
  · have h : IsBlank content := by
      intro c hc
      refine h' c ?_
      rw [Text.dropMarks_append_newline]
      exact List.mem_append_left _ hc
    rw [classify_of_blank config _ h, classify_of_blank config _ h']
  · rw [classify_of_not_blank config _ h']
    by_cases h : IsBlank content
    · rw [classify_of_blank config _ h]
      exact (stateOfCount_rank _ _).le
    · rw [classify_of_not_blank config _ h]
      refine stateOfCount_mono _ ?_
      rw [rulesOf_append_newline, List.length_append]
      omega

end States

/-! ## The law -/

/-- Lines added at the end of an exclusion file add their rules to its count,
never take its state back, and leave nothing missing that was not missing
before. -/
theorem exclusion_files_only_gain_by_added_lines [Characters] (config : Config)
    (content more : Text) :
    Told config content (classify config (some content)) ∧
      (classify config (some (content ++ '\n' :: more))).count =
        (classify config (some content)).count + (effectiveRules more).length ∧
      (classify config (some content)).state.rank ≤
        (classify config (some (content ++ '\n' :: more))).state.rank ∧
      ((classify config (some content)).state = .sufficient →
        (classify config (some (content ++ '\n' :: more))).state = .sufficient →
        (classify config (some (content ++ '\n' :: more))).missingCritical.Sublist
            (classify config (some content)).missingCritical ∧
          (classify config (some (content ++ '\n' :: more))).missingAdvisory.Sublist
            (classify config (some content)).missingAdvisory) := by
  have htold := classify_told config content
  have htold' := classify_told config (content ++ '\n' :: more)
  refine ⟨htold, ?_, rank_classify_le config content more, fun hstate hstate' => ?_⟩
  · rw [htold.count, htold'.count, rulesOf_append_newline, List.length_append]
  · obtain ⟨hcritical, hadvisory⟩ := htold.missing hstate
    obtain ⟨hcritical', hadvisory'⟩ := htold'.missing hstate'
    rw [hcritical, hcritical', hadvisory, hadvisory', rulesOf_append_newline]
    simp only [← missing_eq]
    exact ⟨missing_sublist _ _ _, missing_sublist _ _ _⟩

open scoped Characters

/-- A rule below a carriage return: the line feed before it starts no new line,
and one of the two critical names is covered now. -/
theorem a_rule_below_a_carriage_return_counts :
    (classify {} (some "dist/\n*.log\n.git\r".toList)).state = .sufficient ∧
      (classify {} (some ("dist/\n*.log\n.git\r".toList ++ '\n' :: "node_modules".toList))).state =
        .sufficient ∧
      (classify {} (some ("dist/\n*.log\n.git\r".toList ++ '\n' :: "node_modules".toList))).count =
        3 + 1 ∧
      (classify {} (some ("dist/\n*.log\n.git\r".toList ++
          '\n' :: "node_modules".toList))).missingCritical.Sublist ["node-modules".toList] := by
  obtain ⟨_, hcount, _, hmissing⟩ :=
    exclusion_files_only_gain_by_added_lines {} "dist/\n*.log\n.git\r" "node_modules"
  have hstate : (classify {} (some "dist/\n*.log\n.git\r".toList)).state = .sufficient := by
    decide +kernel
  have hstate' : (classify {} (some ("dist/\n*.log\n.git\r".toList ++
      '\n' :: "node_modules".toList))).state = .sufficient := by
    decide +kernel
  exact ⟨hstate, hstate', hcount, (hmissing hstate hstate').1⟩

end Exclusions

end ImageLint
