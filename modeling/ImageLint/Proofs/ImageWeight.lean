-- What is said of the weight of a base image. With settings that were loaded
-- there is one finding about the first stage: the image is light, it is of the
-- first heavy family whose pattern matches, or it is neither. A family without
-- a name is passed over in silence, and that is the one way to miss a heavy
-- image. The check of its tag never speaks against a light one.
import ImageLint.Proofs.Completion
import ImageLint.Proofs.ExitStatus
import ImageLint.Text.Names

namespace ImageLint

open BuildScript (ofLines)
open Pattern (Readable)

/-! ## Heavy families -/

/-- The pattern matches the text in any letter case. -/
def Pattern.FindsAnyCase [Characters] (pattern text : Text) : Prop :=
  Pattern.search pattern text { ignoreCase := true } = .ok true

/-- The first entry whose pattern matches the image has the name. -/
def FirstHeavy [Characters] (catalog : List (Text × Text)) (reference name : Text) : Prop :=
  ∃ before pattern after, catalog = before ++ (name, pattern) :: after ∧
    Pattern.FindsAnyCase pattern reference ∧
    ∀ entry ∈ before, ¬ Pattern.FindsAnyCase entry.2 reference

variable {catalog : List (Text × Text)} {reference : Text}

theorem FirstHeavy.exists_mem [Characters] {name : Text} (h : FirstHeavy catalog reference name) :
    ∃ entry ∈ catalog, Pattern.FindsAnyCase entry.2 reference := by
  obtain ⟨before, pattern, after, rfl, hfinds, _⟩ := h
  exact ⟨(name, pattern), by simp, hfinds⟩

/-- Where the first entry matches, its name is the one. -/
theorem firstHeavy_cons_of_finds [Characters] {first pattern name : Text}
    {rest : List (Text × Text)} (h : Pattern.FindsAnyCase pattern reference) :
    FirstHeavy ((first, pattern) :: rest) reference name ↔ first = name := by
  constructor
  · rintro ⟨before, pattern', after, heq, _, hbefore⟩
    cases before with
    | nil =>
      simp only [List.nil_append, List.cons.injEq, Prod.mk.injEq] at heq
      exact heq.1.1
    | cons entry before =>
      simp only [List.cons_append, List.cons.injEq] at heq
      obtain ⟨rfl, _⟩ := heq
      exact absurd h (hbefore (first, pattern) List.mem_cons_self)
  · rintro rfl
    exact ⟨[], pattern, rest, rfl, h, by simp⟩

/-- Where the first entry does not match, the others decide. -/
theorem firstHeavy_cons_of_not_finds [Characters] {first pattern name : Text}
    {rest : List (Text × Text)} (h : ¬ Pattern.FindsAnyCase pattern reference) :
    FirstHeavy ((first, pattern) :: rest) reference name ↔ FirstHeavy rest reference name := by
  constructor
  · rintro ⟨before, pattern', after, heq, hfinds, hbefore⟩
    cases before with
    | nil =>
      simp only [List.nil_append, List.cons.injEq, Prod.mk.injEq] at heq
      obtain ⟨⟨_, rfl⟩, _⟩ := heq
      exact absurd hfinds h
    | cons entry before =>
      simp only [List.cons_append, List.cons.injEq] at heq
      obtain ⟨_, rfl⟩ := heq
      rw [List.forall_mem_cons] at hbefore
      exact ⟨before, pattern', after, rfl, hfinds, hbefore.2⟩
  · rintro ⟨before, pattern', after, rfl, hfinds, hbefore⟩
    refine ⟨(first, pattern) :: before, pattern', after, rfl, hfinds, ?_⟩
    rw [List.forall_mem_cons]
    exact ⟨h, hbefore⟩

namespace Rules

/-- A pattern that can be read is searched for in any letter case, and either
matches or does not. -/
theorem search_anyCase [Characters] {pattern : Text} (h : Readable pattern) (text : Text) :
    Pattern.search pattern text { ignoreCase := true } =
        .ok (decide (Pattern.search pattern text { ignoreCase := true } = .ok true)) := by
  have hread : Readable pattern { ignoreCase := true } := Pattern.Readable.of_ascii_eq (by rfl) h
  obtain ⟨found, hfound⟩ := exists_ok_of_failsOnly (failsOnly_search hread text)
  rw [hfound]
  cases found <;> rfl

/-- The search goes through the catalog and stops at the first match. -/
theorem heavyFamily?_ok [Characters] (reference : Text) (h : ∀ entry ∈ catalog, Readable entry.2) :
    ∃ family, heavyFamily? reference catalog = .ok family ∧
      (∀ name, family = some name ↔ FirstHeavy catalog reference name) ∧
      (family = none ↔ ∀ entry ∈ catalog, ¬ Pattern.FindsAnyCase entry.2 reference) := by
  induction catalog with
  | nil =>
    refine ⟨none, rfl, fun name => ⟨nofun, ?_⟩, by simp⟩
    rintro ⟨before, pattern, after, heq, _⟩
    simp at heq
  | cons entry rest ih =>
    obtain ⟨first, pattern⟩ := entry
    rw [List.forall_mem_cons] at h
    have hsearch := search_anyCase h.1 reference
    unfold heavyFamily?
    by_cases hfinds : Pattern.FindsAnyCase pattern reference
    · have hok : Pattern.search pattern reference { ignoreCase := true } = .ok true := hfinds
      refine ⟨some first, by rw [hok]; rfl, fun name => ?_, ?_⟩
      · rw [firstHeavy_cons_of_finds hfinds, Option.some.injEq]
      · simp [hfinds]
    · obtain ⟨family, hfamily, hsome, hnone⟩ := ih h.2
      have hno : ¬ Pattern.search pattern reference { ignoreCase := true } = .ok true := hfinds
      rw [decide_eq_false hno] at hsearch
      refine ⟨family, by rw [hsearch]; exact hfamily, fun name => ?_, ?_⟩
      · rw [firstHeavy_cons_of_not_finds hfinds, hsome]
      · rw [hnone, List.forall_mem_cons]
        simp [hfinds]

end Rules

/-! ## The finding -/

/-- The image holds a mark of light images, in any letter case. -/
def IsLight (config : Config) (reference : Text) : Prop :=
  ∃ mark ∈ config.lightweightMarkers, lower mark <:+: lower reference

/-- The message about an image of a heavy family. -/
def heavyMessage (reference name : Text) : Text :=
  "Base image '" ++ reference ++ "' is a full " ++ name ++
    " image. Consider an alpine or slim variant."

/-- The finding says of a base image what its name gives away: it is light; or
else it is heavy, and of which family; or else neither. -/
structure TellsWeight [Characters] (config : Config) (base : Instruction) (finding : Finding) :
    Prop where
  light : finding.passed = true ↔ IsLight config base.imageReference
  line : ¬ IsLight config base.imageReference → finding.lines = Finding.refs [base.line]
  heavy : ¬ IsLight config base.imageReference →
    (finding.severity = .warning ↔
      ∃ entry ∈ config.heavyDistributions, Pattern.FindsAnyCase entry.2 base.imageReference)
  family : ¬ IsLight config base.imageReference → ∀ name,
    FirstHeavy config.heavyDistributions base.imageReference name →
      finding.message = heavyMessage base.imageReference name
  neither : ¬ IsLight config base.imageReference → finding.severity ≠ .warning →
    finding.severity = .info

namespace Rules

variable {config : Config} {base : Instruction}

theorem weightFinding_common (reference : Text) (line : Nat) (family : Option Text) :
    (weightFinding reference line family).passed = false ∧
      (weightFinding reference line family).lines = Finding.refs [line] := by
  unfold weightFinding
  split <;> exact ⟨rfl, rfl⟩

/-- A family with a name is a warning that names it. -/
theorem weightFinding_named (reference : Text) (line : Nat) {name : Text} (h : name ≠ []) :
    (weightFinding reference line (some name)).severity = .warning ∧
      (weightFinding reference line (some name)).message = heavyMessage reference name := by
  cases name with
  | nil => exact absurd rfl h
  | cons c rest => exact ⟨rfl, rfl⟩

/-- An image of no family, or of one without a name, is no warning. -/
theorem weightFinding_unnamed (reference : Text) (line : Nat) {family : Option Text}
    (h : family = none ∨ family = some []) :
    (weightFinding reference line family).severity = .info := by
  rcases h with rfl | rfl <;> rfl

/-- Of an image that is not light the weight is told exactly when the first
heavy family that matches has a name. -/
theorem tellsWeight_weightFinding_iff [Characters] {family : Option Text}
    (hlight : ¬ IsLight config base.imageReference) (hsome : ∀ name, family = some name ↔
      FirstHeavy config.heavyDistributions base.imageReference name)
    (hnone : family = none ↔ ∀ entry ∈ config.heavyDistributions,
      ¬ Pattern.FindsAnyCase entry.2 base.imageReference) :
    TellsWeight config base (weightFinding base.imageReference base.line family) ↔
      ¬ FirstHeavy config.heavyDistributions base.imageReference [] := by
  obtain ⟨hpassed, hlines⟩ := weightFinding_common base.imageReference base.line family
  have hlight' : (weightFinding base.imageReference base.line family).passed = true ↔
      IsLight config base.imageReference := by simp [hpassed, hlight]
  constructor
  · intro htells hunnamed
    have hfamily := (hsome []).mpr hunnamed
    have hwarning := (htells.heavy hlight).mpr hunnamed.exists_mem
    rw [weightFinding_unnamed _ base.line (.inr hfamily)] at hwarning
    cases hwarning
  · intro hnamed
    cases hfamily : family with
    | none =>
      have hinfo := weightFinding_unnamed base.imageReference base.line (.inl hfamily)
      rw [hfamily] at hinfo hlight' hlines
      refine ⟨hlight', fun _ => hlines, fun _ => ?_, fun _ name hfirst => ?_, fun _ _ => hinfo⟩
      · have hno := hnone.mp hfamily
        simp only [hinfo, reduceCtorEq, false_iff, not_exists, not_and]
        exact hno
      · have hothers := (hsome name).mpr hfirst
        rw [hfamily] at hothers
        cases hothers
    | some name =>
      have hfirst := (hsome name).mp hfamily
      have hne : name ≠ [] := by
        rintro rfl
        exact hnamed hfirst
      obtain ⟨hwarning, hmessage⟩ := weightFinding_named base.imageReference base.line hne
      rw [hfamily] at hlight' hlines
      refine ⟨hlight', fun _ => hlines, fun _ => ?_, fun _ other hother => ?_, fun _ hnot => ?_⟩
      · exact iff_of_true hwarning hfirst.exists_mem
      · have hsame := (hsome other).mpr hother
        rw [hfamily, Option.some.injEq] at hsame
        rw [hmessage, hsame]
      · exact absurd hwarning hnot

theorem tellsWeight_pass [Characters] (hlight : IsLight config base.imageReference) (message : Text)
    :
    TellsWeight config base (.pass "base_image_weight" 1 message) where
  light := iff_of_true rfl hlight
  line := fun hnot => absurd hlight hnot
  heavy := fun hnot => absurd hlight hnot
  family := fun hnot => absurd hlight hnot
  neither := fun hnot => absurd hlight hnot

end Rules

/-! ## The law -/

/-- With settings that were loaded, the weight of the base image of a script is
told in one finding. It is a pass exactly when the image is light, a warning
on the line of the image exactly when the image is not light and the first heavy
family that matches it has a name, and otherwise a note on that line. So the
weight is told in full exactly when the image is light or the first heavy family
that matches is not one without a name. An error about the tag comes with a
finding that is no pass. -/
theorem weights_are_told_exactly_when_the_first_family_has_a_name [Characters] {source : Text}
    {value : Yaml.Value} {config : Config} {lines : List Text} {base : Instruction}
    (hload : (Config.loadValue source value).result = .ok config)
    (hbase : (ofLines lines).baseImage? = some base) (exclusions : Exclusions) (facts : Facts) :
    ∃ finding found,
      Rules.baseImageWeight ⟨ofLines lines, exclusions, config, facts⟩ = .ok [finding] ∧
      Rules.baseImageTag ⟨ofLines lines, exclusions, config, facts⟩ = .ok found ∧
      (finding.passed = true ↔ IsLight config base.imageReference) ∧
      (¬ IsLight config base.imageReference → finding.lines = Finding.refs [base.line] ∧
        (finding.severity = .warning ↔ ∃ name, name ≠ [] ∧
          FirstHeavy config.heavyDistributions base.imageReference name) ∧
        (finding.severity ≠ .warning → finding.severity = .info)) ∧
      (TellsWeight config base finding ↔ IsLight config base.imageReference ∨
        ¬ FirstHeavy config.heavyDistributions base.imageReference []) ∧
      ((∃ f ∈ found, f.severity = .error) → finding.passed = false) := by
  have hchecked := Config.checked_of_loadValue hload
  have hmarks : ImageReference.isLightweight base.imageReference config.lightweightMarkers = true ↔
      IsLight config base.imageReference := isLightweight_eq_true_iff _ _
  unfold Rules.baseImageWeight Rules.baseImageTag
  simp only [hbase]
  by_cases hlight : IsLight config base.imageReference
  · rw [if_pos (hmarks.mpr hlight), if_pos (hmarks.mpr hlight)]
    refine ⟨_, _, rfl, rfl, iff_of_true rfl hlight, fun hnot => absurd hlight hnot, ?_, ?_⟩
    · exact iff_of_true (Rules.tellsWeight_pass hlight _) (.inl hlight)
    · simp
  · rw [if_neg (hmarks.not.mpr hlight), if_neg (hmarks.not.mpr hlight)]
    obtain ⟨family, hfamily, hsome, hnone⟩ :=
      Rules.heavyFamily?_ok base.imageReference hchecked.heavyDistributions
    obtain ⟨hpassed, hlines⟩ := Rules.weightFinding_common base.imageReference base.line family
    rw [hfamily]
    refine ⟨_, _, rfl, rfl, by simp [hpassed, hlight], fun _ => ⟨hlines, ?_, ?_⟩, ?_,
      fun _ => hpassed⟩
    · constructor
      · intro hwarning
        rcases family with _ | ⟨_ | ⟨c, rest⟩⟩
        · cases hwarning
        · cases hwarning
        · exact ⟨c :: rest, by simp, (hsome _).mp rfl⟩
      · rintro ⟨name, hne, hfirst⟩
        rw [(hsome name).mpr hfirst]
        exact (Rules.weightFinding_named _ _ hne).1
    · intro hnot
      rcases family with _ | ⟨_ | ⟨c, rest⟩⟩
      · rfl
      · rfl
      · exact absurd rfl hnot
    · rw [Rules.tellsWeight_weightFinding_iff hlight hsome hnone]
      simp [hlight]

/-- Settings with one heavy family, of the given name, for images of node. -/
def nodeFamily (name : Yaml.Value) : Yaml.Value :=
  .map [(.str "heavy_distributions", .map [(name, .str "node")])]

open scoped Characters

/-- A name that is a number, and an image in capitals. -/
theorem a_numbered_family_is_told :
    ∃ config base, (Config.loadValue "<config>" (nodeFamily (.int 0))).result = .ok config ∧
      (ofLines ["FROM NODE:18"]).baseImage? = some base ∧
      ∀ exclusions facts, ∃ finding,
        Rules.baseImageWeight ⟨ofLines ["FROM NODE:18"], exclusions, config, facts⟩ =
          .ok [finding] ∧
        TellsWeight config base finding := by
  obtain ⟨config, base, hload, hbase, hcatalog⟩ : ∃ config base,
      (Config.loadValue "<config>" (nodeFamily (.int 0))).result = .ok config ∧
      (ofLines ["FROM NODE:18"]).baseImage? = some base ∧
      config.heavyDistributions = [("0".toList, "node".toList)] := ⟨_, _, by rfl, by rfl, by rfl⟩
  refine ⟨config, base, hload, hbase, fun exclusions facts => ?_⟩
  obtain ⟨finding, _, hweight, _, _, _, htells, _⟩ :=
    weights_are_told_exactly_when_the_first_family_has_a_name hload hbase exclusions facts
  refine ⟨finding, hweight, htells.mpr (.inr ?_)⟩
  rintro ⟨before, pattern, after, heq, _⟩
  rw [hcatalog] at heq
  rcases before with _ | ⟨entry, before⟩ <;> simp at heq

/-- An image of a family without a name is not told to be heavy. -/
theorem a_family_without_a_name_goes_untold :
    ¬ ∀ config base, (Config.loadValue "<config>" (nodeFamily (.str []))).result = .ok config →
      (ofLines ["FROM node:18"]).baseImage? = some base →
      ∀ exclusions facts, ∃ finding,
        Rules.baseImageWeight ⟨ofLines ["FROM node:18"], exclusions, config, facts⟩ =
          .ok [finding] ∧
        TellsWeight config base finding := by
  intro h
  obtain ⟨finding, hweight, htells⟩ := h
    { heavyDistributions := [([], "node")] } (BuildScript.directive 1 "FROM node:18") (by rfl)
    (by rfl) (Exclusions.classify {} none) {}
  have hfinding : finding = Rules.weightFinding "node:18" 1 (some []) := by
    have hrun : Rules.baseImageWeight ⟨ofLines ["FROM node:18"], Exclusions.classify {} none,
        { heavyDistributions := [([], "node")] }, {}⟩ =
          .ok [Rules.weightFinding "node:18" 1 (some [])] := by rfl
    rw [hrun] at hweight
    simpa using hweight.symm
  have hdark : ¬ IsLight { heavyDistributions := [([], "node")] }
      (BuildScript.directive 1 "FROM node:18").imageReference := by
    intro hlight
    have hpassed := htells.light.mpr hlight
    rw [hfinding] at hpassed
    cases hpassed
  have hwarning := (htells.heavy hdark).mpr ⟨([], "node".toList), by simp, by rfl⟩
  rw [hfinding] at hwarning
  cases hwarning

end ImageLint
