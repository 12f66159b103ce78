-- The checks that read the arguments of a directive see its first line only.
-- They find the same as on the folded script exactly where that line says as
-- much as the whole command.
import Mathlib.Data.List.Find
import Mathlib.Data.List.Nodup
import ImageLint.Analysis
import ImageLint.Proofs.Folding
import ImageLint.Proofs.Outcomes
import ImageLint.Text.Names

namespace ImageLint

open BuildScript

/-! ## Checks on a folded script -/

/-- The checks that read the arguments of directives. -/
def argumentChecks [Characters] : List Check := [
  Rules.baseImageWeight,
  Rules.baseImageTag,
  Rules.rootUser,
  Rules.copyWholeContext,
  Rules.copyUnnecessaryFiles,
  Rules.addInsteadOfCopy,
  Rules.multiStage]

/-- The check finds the same in the lines as in the folded lines, whatever the
settings. -/
def Transparent [Characters] (lines : List Text) (check : Check) : Prop :=
  ∀ exclusions config,
    (Subject.prepare (ofLines lines) exclusions config >>= check) =
      (Subject.prepare (ofLines (fold lines)) exclusions config >>= check)

variable {lines : List Text}

/-- The facts of both scripts are the same, so only the scripts differ. -/
theorem transparent_iff [Characters] (hf : Foldable (ofLines lines)) (check : Check) :
    Transparent lines check ↔ ∀ exclusions config facts,
      Facts.derive (ofLines lines) config = .ok facts →
        check ⟨ofLines lines, exclusions, config, facts⟩ =
          check ⟨ofLines (fold lines), exclusions, config, facts⟩ := by
  have hstep : ∀ exclusions config,
      (Subject.prepare (ofLines lines) exclusions config >>= check) =
        (Subject.prepare (ofLines (fold lines)) exclusions config >>= check) ↔
      ∀ facts, Facts.derive (ofLines lines) config = .ok facts →
        check ⟨ofLines lines, exclusions, config, facts⟩ =
          check ⟨ofLines (fold lines), exclusions, config, facts⟩ := by
    intro exclusions config
    unfold Subject.prepare
    rw [derive_fold hf]
    cases Facts.derive (ofLines lines) config with
    | error fault => exact iff_of_true rfl nofun
    | ok facts =>
      constructor
      · rintro h _ ⟨⟩
        exact h
      · intro h
        exact h facts rfl
  unfold Transparent
  simp only [hstep]

/-- Without package managers nothing can keep the facts from being known. -/
theorem exists_derive [Characters] (script : BuildScript) {config : Config}
    (h : config.packageManagers = []) : ∃ facts, Facts.derive script config = .ok facts := by
  unfold Facts.derive
  rw [h]
  exact ⟨_, rfl⟩

theorem stageCount_of_derive [Characters] {script : BuildScript} {config : Config} {facts : Facts}
    (h : Facts.derive script config = .ok facts) : facts.stageCount = script.stages.length := by
  obtain ⟨families, _, heq⟩ := bind_eq_ok_iff.mp h
  cases heq
  rfl

/-! ## Lines that checks report -/

/-- Among instructions on different lines, the lines of those that satisfy a
test tell the test apart. -/
theorem filter_lines_iff {instructions : List Instruction}
    (hnodup : (instructions.map (·.line)).Nodup) (p q : Instruction → Bool) :
    (instructions.filter p).map (·.line) = (instructions.filter q).map (·.line) ↔
      ∀ i ∈ instructions, p i = q i := by
  constructor
  · intro h i hi
    have hkept : ∀ p : Instruction → Bool,
        i.line ∈ (instructions.filter p).map (·.line) ↔ p i = true := by
      intro p
      constructor
      · intro hline
        obtain ⟨other, hother, heq⟩ := List.mem_map.mp hline
        obtain ⟨hmem, hp⟩ := List.mem_filter.mp hother
        rw [List.inj_on_of_nodup_map hnodup hmem hi heq] at hp
        exact hp
      · intro hp
        exact List.mem_map_of_mem (List.mem_filter.mpr ⟨hi, hp⟩)
    rw [Bool.eq_iff_iff, ← hkept p, ← hkept q, h]
  · intro h
    rw [List.filter_congr h]

theorem refs_injective : Function.Injective Finding.refs := by
  intro a b h
  exact List.map_injective_iff.mpr (fun m n hmn => Int.ofNat.inj hmn) h

theorem lines_nodup (lines : List Text) (p : Instruction → Bool) :
    (((ofLines lines).instructions.filter p).map (·.line)).Nodup :=
  ((ofLines_sorted lines).sublist (List.filter_sublist.map _)).imp Nat.ne_of_lt

/-- Among the directives of some kinds, a test picks the same lines in the
script and in the folded one exactly when it cannot tell a directive from its
whole command. -/
theorem filter_lines_fold_iff (hf : Foldable (ofLines lines)) (kinds : Keyword → Bool)
    (hkinds : kinds .unknown = false) (test : Instruction → Bool) :
    (((ofLines lines).instructions.filter fun i => kinds i.keyword).filter test).map (·.line) =
        (((ofLines (fold lines)).instructions.filter fun i =>
          kinds i.keyword).filter test).map (·.line) ↔
      ∀ i ∈ (ofLines lines).instructions.filter (fun i => kinds i.keyword),
        test i = test ((ofLines lines).whole i) := by
  have hwhole : (fun i : Instruction => i.line) ∘ (ofLines lines).whole = (·.line) :=
    funext fun i => whole_line _ i
  rw [filter_keyword_fold hf hkinds, List.filter_map, List.map_map, hwhole]
  exact filter_lines_iff (lines_nodup lines _) _ _

/-- A transparent check finds the same when there are no package managers. -/
theorem Transparent.eq [Characters] {check : Check} (h : Transparent lines check)
    (hf : Foldable (ofLines lines)) (config : Config) (hconfig : config.packageManagers = []) :
    ∃ exclusions facts, facts.stageCount = (ofLines lines).stages.length ∧
      check ⟨ofLines lines, exclusions, config, facts⟩ =
        check ⟨ofLines (fold lines), exclusions, config, facts⟩ := by
  obtain ⟨facts, hfacts⟩ := exists_derive (ofLines lines) hconfig
  exact ⟨Exclusions.classify config none, facts, stageCount_of_derive hfacts,
    (transparent_iff hf check).mp h _ config facts hfacts⟩

/-- The lines of all findings of an outcome. -/
def linesOf (outcome : Except Pattern.Fault (List Finding)) : Except Pattern.Fault (List Int) :=
  outcome.map fun found => found.flatMap (·.lines)

theorem linesOf_refs {outcome outcome' : Except Pattern.Fault (List Finding)} {ns ns' : List Nat}
    (h : outcome = outcome') (hns : linesOf outcome = .ok (Finding.refs ns))
    (hns' : linesOf outcome' = .ok (Finding.refs ns')) : ns = ns' := by
  rw [h, hns'] at hns
  exact refs_injective (Except.ok.inj hns).symm

/-- A check whose findings are settled by the lines that they are about is
transparent exactly when those lines stay. -/
theorem transparent_iff_lines [Characters] (hf : Foldable (ofLines lines)) {check : Check}
    {reported : BuildScript → List Nat}
    (hreported : ∀ subject, linesOf (check subject) = .ok (Finding.refs (reported subject.script)))
    (hsettled : ∀ exclusions config facts,
      reported (ofLines lines) = reported (ofLines (fold lines)) →
        check ⟨ofLines lines, exclusions, config, facts⟩ =
          check ⟨ofLines (fold lines), exclusions, config, facts⟩) :
    Transparent lines check ↔ reported (ofLines lines) = reported (ofLines (fold lines)) := by
  constructor
  · intro h
    obtain ⟨exclusions, facts, _, heq⟩ := h.eq hf { packageManagers := [] } rfl
    exact linesOf_refs heq (hreported _) (hreported _)
  · intro h
    exact (transparent_iff hf _).mpr fun exclusions config facts _ =>
      hsettled exclusions config facts h

/-! ## The user -/

/-- The lines of the users that are the root user. -/
def rootLines [Characters] (script : BuildScript) : List Nat :=
  ((script.ofKind .user).filter (·.isRoot)).map (·.line)

theorem linesOf_rootUser [Characters] (subject : Subject) :
    linesOf (Rules.rootUser subject) = .ok (Finding.refs (rootLines subject.script)) := by
  unfold Rules.rootUser rootLines
  dsimp only
  split
  · exact congrArg Except.ok (List.append_nil _)
  · have hroots : (subject.script.ofKind .user).filter (·.isRoot) = [] := by simp_all
    rw [hroots]
    split <;> rfl

theorem rootUser_congr [Characters] {subject subject' : Subject}
    (hroots : rootLines subject.script = rootLines subject'.script)
    (husers : (subject.script.ofKind .user).isEmpty = (subject'.script.ofKind .user).isEmpty) :
    Rules.rootUser subject = Rules.rootUser subject' := by
  have hempty := congrArg List.isEmpty hroots
  simp only [rootLines, List.isEmpty_map] at hempty
  unfold rootLines at hroots
  unfold Rules.rootUser
  simp only [hempty, husers, hroots]

theorem transparent_rootUser_iff [Characters] (hf : Foldable (ofLines lines)) :
    Transparent lines Rules.rootUser ↔
      ∀ i ∈ (ofLines lines).ofKind .user, i.isRoot = ((ofLines lines).whole i).isRoot := by
  refine (transparent_iff_lines hf linesOf_rootUser fun exclusions config facts h =>
    rootUser_congr h ?_).trans (filter_lines_fold_iff hf (· == .user) rfl (·.isRoot))
  rw [ofKind_fold hf (by decide), List.isEmpty_map]

/-! ## Copies of the whole build context -/

/-- The kinds of instruction that copy. -/
def isCopy (keyword : Keyword) : Bool := keyword == .copy || keyword == .add

/-- The instructions that copy. -/
def copies (script : BuildScript) : List Instruction :=
  script.instructions.filter fun i => isCopy i.keyword

/-- The instruction copies the build context as a whole. -/
def copiesContext [Characters] (i : Instruction) : Bool
    := i.readsContext && Rules.copiesEverything i

theorem contextCopies_eq (script : BuildScript) :
    Rules.contextCopies script = (copies script).filter (·.readsContext) := by
  unfold Rules.contextCopies copies
  rw [List.filter_filter]
  exact List.filter_congr fun i _ => Bool.and_comm ..

theorem copies_fold (hf : Foldable (ofLines lines)) :
    copies (ofLines (fold lines)) = (copies (ofLines lines)).map (ofLines lines).whole :=
  filter_keyword_fold hf (p := isCopy) rfl

/-- The lines of the copies of the whole build context. -/
def contextLines [Characters] (script : BuildScript) : List Nat :=
  ((copies script).filter copiesContext).map (·.line)

theorem contextLines_eq [Characters] (script : BuildScript) :
    ((Rules.contextCopies script).filter Rules.copiesEverything).map (·.line) =
      contextLines script := by
  rw [contextCopies_eq, List.filter_filter, contextLines]
  congr 1
  exact List.filter_congr fun i _ => Bool.and_comm ..

theorem linesOf_copyWholeContext [Characters] (subject : Subject) :
    linesOf (Rules.copyWholeContext subject) =
      .ok (Finding.refs (contextLines subject.script)) := by
  unfold Rules.copyWholeContext
  rw [← contextLines_eq]
  dsimp only
  split
  · have hnone : (Rules.contextCopies subject.script).filter Rules.copiesEverything = [] := by
      simp_all
    rw [hnone]
    rfl
  · exact congrArg Except.ok (List.append_nil _)

theorem copyWholeContext_congr [Characters] {subject subject' : Subject}
    (h : contextLines subject.script = contextLines subject'.script) :
    Rules.copyWholeContext subject = Rules.copyWholeContext subject' := by
  have hempty := congrArg List.isEmpty h
  rw [← contextLines_eq, ← contextLines_eq, List.isEmpty_map, List.isEmpty_map] at hempty
  rw [← contextLines_eq, ← contextLines_eq] at h
  unfold Rules.copyWholeContext
  simp only [hempty, h]

theorem transparent_copyWholeContext_iff [Characters] (hf : Foldable (ofLines lines)) :
    Transparent lines Rules.copyWholeContext ↔
      ∀ i ∈ copies (ofLines lines), copiesContext i = copiesContext ((ofLines lines).whole i) :=
  (transparent_iff_lines hf linesOf_copyWholeContext fun _ _ _ h => copyWholeContext_congr h).trans
    (filter_lines_fold_iff hf isCopy rfl copiesContext)

/-! ## Files and downloads that are added -/

/-- The lines of the additions of local files. -/
def localLines [Characters] (script : BuildScript) : List Nat :=
  ((script.ofKind .add).filter fun i => !i.sources.all isUrl).map (·.line)

/-- The lines of the additions of downloads. -/
def remoteLines [Characters] (script : BuildScript) : List Nat :=
  ((script.ofKind .add).filter fun i => i.sources.any isUrl).map (·.line)

theorem addInsteadOfCopy_congr [Characters] {subject subject' : Subject}
    (hlocal : localLines subject.script = localLines subject'.script)
    (hremote : remoteLines subject.script = remoteLines subject'.script) :
    Rules.addInsteadOfCopy subject = Rules.addInsteadOfCopy subject' := by
  unfold localLines at hlocal
  unfold remoteLines at hremote
  unfold Rules.addInsteadOfCopy
  simp only [hlocal, hremote]

/-- Two findings that cannot be mistaken for each other, each left out where it
is about no line, tell which lines they are about. -/
theorem lines_of_two {one two : List Nat → Finding} (hone : Function.Injective one)
    (htwo : Function.Injective two) (hne : ∀ ns ms, one ns ≠ two ms) {ns ns' ms ms' : List Nat}
    (h : (if ns.isEmpty then [] else [one ns]) ++ (if ms.isEmpty then [] else [two ms]) =
      (if ns'.isEmpty then [] else [one ns']) ++ (if ms'.isEmpty then [] else [two ms'])) :
    ns = ns' ∧ ms = ms' := by
  have hne' : ∀ ns ms, two ns ≠ one ms := fun ns ms heq => hne ms ns heq.symm
  cases ns <;> cases ns' <;> cases ms <;> cases ms' <;>
    simp_all [hone.eq_iff, htwo.eq_iff]

theorem lines_of_addInsteadOfCopy [Characters] {subject subject' : Subject}
    (h : Rules.addInsteadOfCopy subject = Rules.addInsteadOfCopy subject') :
    localLines subject.script = localLines subject'.script ∧
      remoteLines subject.script = remoteLines subject'.script := by
  refine @lines_of_two (fun ns => ⟨_, _, _, Finding.refs ns, _, _, _⟩)
    (fun ns => ⟨_, _, _, Finding.refs ns, _, _, _⟩) ?_ ?_ ?_ _ _ _ _ (Except.ok.inj h)
  · exact fun ns ms heq => refs_injective (congrArg Finding.lines heq)
  · exact fun ns ms heq => refs_injective (congrArg Finding.lines heq)
  · intro ns ms heq
    have hmessage := congrArg Finding.message heq
    dsimp only at hmessage
    exact absurd hmessage (by decide +kernel)

theorem transparent_addInsteadOfCopy_iff [Characters] (hf : Foldable (ofLines lines)) :
    Transparent lines Rules.addInsteadOfCopy ↔
      ∀ i ∈ (ofLines lines).ofKind .add,
        i.sources.all isUrl = ((ofLines lines).whole i).sources.all isUrl ∧
          i.sources.any isUrl = ((ofLines lines).whole i).sources.any isUrl := by
  have hlocal : localLines (ofLines lines) = localLines (ofLines (fold lines)) ↔
      ∀ i ∈ (ofLines lines).ofKind .add,
        (!i.sources.all isUrl) = !((ofLines lines).whole i).sources.all isUrl :=
    filter_lines_fold_iff hf (· == .add) rfl fun i => !i.sources.all isUrl
  have hremote : remoteLines (ofLines lines) = remoteLines (ofLines (fold lines)) ↔
      ∀ i ∈ (ofLines lines).ofKind .add,
        i.sources.any isUrl = ((ofLines lines).whole i).sources.any isUrl :=
    filter_lines_fold_iff hf (· == .add) rfl fun i => i.sources.any isUrl
  have hboth : Transparent lines Rules.addInsteadOfCopy ↔
      localLines (ofLines lines) = localLines (ofLines (fold lines)) ∧
        remoteLines (ofLines lines) = remoteLines (ofLines (fold lines)) := by
    constructor
    · intro h
      obtain ⟨exclusions, facts, _, heq⟩ := h.eq hf { packageManagers := [] } rfl
      exact lines_of_addInsteadOfCopy heq
    · rintro ⟨hl, hr⟩
      exact (transparent_iff hf _).mpr fun exclusions config facts _ =>
        addInsteadOfCopy_congr hl hr
  rw [hboth, hlocal, hremote, ← forall₂_and]
  simp only [Bool.not_inj_iff]

/-! ## The base image -/

theorem baseImage?_fold (hf : Foldable (ofLines lines)) :
    (ofLines (fold lines)).baseImage? = (ofLines lines).baseImage?.map (ofLines lines).whole := by
  unfold baseImage? stages
  rw [ofKind_fold hf (by decide), List.head?_map]

theorem weightFinding_injective {reference reference' : Text} {line : Nat}
    (h : Rules.weightFinding reference line none = Rules.weightFinding reference' line none) :
    reference = reference' := by
  have hmessage := congrArg Finding.message h
  exact List.append_cancel_left (List.append_cancel_right hmessage)

theorem transparent_baseImageWeight_iff [Characters] (hf : Foldable (ofLines lines)) :
    Transparent lines Rules.baseImageWeight ↔
      ∀ base ∈ (ofLines lines).baseImage?,
        base.imageReference = ((ofLines lines).whole base).imageReference := by
  constructor
  · intro h base hbase
    obtain ⟨exclusions, facts, _, heq⟩ := h.eq hf
      { packageManagers := [], lightweightMarkers := [], heavyDistributions := [] } rfl
    unfold Rules.baseImageWeight at heq
    rw [baseImage?_fold hf, hbase, Option.map_some] at heq
    simp only [whole_line] at heq
    exact weightFinding_injective (List.head_eq_of_cons_eq (Except.ok.inj heq))
  · intro h
    refine (transparent_iff hf _).mpr fun exclusions config facts _ => ?_
    unfold Rules.baseImageWeight
    rw [baseImage?_fold hf]
    cases hbase : (ofLines lines).baseImage? with
    | none => rfl
    | some base =>
      simp only [Option.map_some, whole_line, h base hbase]

theorem transparent_baseImageTag [Characters] (hf : Foldable (ofLines lines))
    (h : ∀ base ∈ (ofLines lines).baseImage?,
      base.imageReference = ((ofLines lines).whole base).imageReference) :
    Transparent lines Rules.baseImageTag := by
  refine (transparent_iff hf _).mpr fun exclusions config facts _ => ?_
  unfold Rules.baseImageTag
  rw [baseImage?_fold hf]
  cases hbase : (ofLines lines).baseImage? with
  | none => rfl
  | some base => simp only [Option.map_some, whole_line, h base hbase]

/-! ## Stages -/

/-- The names of the stages, read from their whole commands. -/
def wholeStageNames [Characters] (script : BuildScript) : List Text :=
  (script.stages.filterMap fun i => (script.whole i).stageName?).filter (!·.isEmpty)

theorem stageNames_fold [Characters] (hf : Foldable (ofLines lines)) :
    Rules.stageNames (ofLines (fold lines)) = wholeStageNames (ofLines lines) := by
  unfold Rules.stageNames wholeStageNames stages
  rw [ofKind_fold hf (by decide), List.filterMap_map]
  rfl

/-- What is said of the stages of a build with several of them. -/
def stageNotes (names : List Text) : List Finding :=
  if names.isEmpty then []
  else [.pass "multi_stage" 6
    ("Named build stage(s) detected: " ++ Text.joinWith ", " names ++ ".")]

theorem multiStage_of_le [Characters] {subject : Subject} (h : 2 ≤ subject.facts.stageCount) :
    Rules.multiStage subject = pure (.pass "multi_stage" 6
      ("Multi-stage build in use (" ++ Text.ofNat subject.facts.stageCount ++ " stages).") ::
        stageNotes (Rules.stageNames subject.script)) := by
  unfold Rules.multiStage
  dsimp only
  rw [if_pos h]
  rfl

theorem joinWith_ne_nil (separator : Text) {first : Text} (h : first ≠ []) (rest : List Text) :
    Text.joinWith separator (first :: rest) ≠ [] := by
  unfold Text.joinWith
  cases rest with
  | nil => simpa using h
  | cons second rest =>
    rw [List.intercalate_cons_cons]
    simp [h]

/-- The notes tell no more of the names than their list in one text. -/
theorem stageNotes_eq_iff {names names' : List Text} (h : ∀ name ∈ names, name ≠ [])
    (h' : ∀ name ∈ names', name ≠ []) :
    stageNotes names = stageNotes names' ↔
      Text.joinWith ", " names = Text.joinWith ", " names' := by
  constructor
  · intro heq
    cases names with
    | nil =>
      cases names' with
      | nil => rfl
      | cons first rest => cases heq
    | cons first rest =>
      cases names' with
      | nil => cases heq
      | cons first' rest' =>
        have hmessage := congrArg Finding.message (List.head_eq_of_cons_eq heq)
        exact List.append_cancel_left (List.append_cancel_right hmessage)
  · intro heq
    cases names with
    | nil =>
      cases names' with
      | nil => rfl
      | cons first rest =>
        exact absurd heq.symm (joinWith_ne_nil _ (h' first List.mem_cons_self) rest)
    | cons first rest =>
      cases names' with
      | nil => exact absurd heq (joinWith_ne_nil _ (h first List.mem_cons_self) rest)
      | cons first' rest' =>
        unfold stageNotes
        rw [heq]
        rfl

theorem transparent_multiStage_iff [Characters] (hf : Foldable (ofLines lines)) :
    Transparent lines Rules.multiStage ↔
      (2 ≤ (ofLines lines).stages.length →
        Text.joinWith ", " (Rules.stageNames (ofLines lines)) =
          Text.joinWith ", " (wholeStageNames (ofLines lines))) := by
  have hnotes : stageNotes (Rules.stageNames (ofLines lines)) =
      stageNotes (Rules.stageNames (ofLines (fold lines))) ↔
      Text.joinWith ", " (Rules.stageNames (ofLines lines)) =
        Text.joinWith ", " (wholeStageNames (ofLines lines)) := by
    rw [stageNames_fold hf]
    refine stageNotes_eq_iff ?_ ?_
    · intro name hname
      simpa using (List.mem_filter.mp hname).2
    · intro name hname
      simpa using (List.mem_filter.mp hname).2
  rw [← hnotes]
  constructor
  · intro h hstages
    obtain ⟨exclusions, facts, hcount, heq⟩ := h.eq hf { packageManagers := [] } rfl
    rw [multiStage_of_le (hcount ▸ hstages), multiStage_of_le (hcount ▸ hstages)] at heq
    exact List.tail_eq_of_cons_eq (Except.ok.inj heq)
  · intro h
    refine (transparent_iff hf _).mpr fun exclusions config facts hfacts => ?_
    have hcount := stageCount_of_derive hfacts
    by_cases hstages : 2 ≤ facts.stageCount
    · rw [multiStage_of_le hstages, multiStage_of_le hstages, h (hcount ▸ hstages)]
    · unfold Rules.multiStage
      dsimp only
      rw [if_neg hstages, if_neg hstages]

/-! ## The first copy that holds a text -/

section FirstHit

/-- The text that a copy is read as holds `part`. -/
def holdsAt (read : Instruction → Option Text) (part : Text) (i : Instruction) : Bool :=
  (read i).any (Text.holds part)

/-- A copy above line `n` holds `part`. -/
def HeldAbove (read : Instruction → Option Text) (among : List Instruction) (part : Text)
    (n : Nat) : Prop :=
  ∃ i ∈ among, i.line < n ∧ holdsAt read part i = true

/-- The first of the parts that a copy holds, with the line of the copy. -/
def hit (read : Instruction → Option Text) (parts : List Text) (i : Instruction) :
    Option (Nat × Text) :=
  (parts.find? fun part => holdsAt read part i).map fun part => (i.line, part)

variable {read read' : Instruction → Option Text} {among : List Instruction}

theorem holdsAt_iff (part : Text) (i : Instruction) :
    holdsAt read part i = true ↔ ∃ text, read i = some text ∧ part <:+: text := by
  unfold holdsAt
  rw [Option.any_eq_true]
  simp only [Text.holds_eq_true_iff]

theorem HeldAbove.mono {part : Text} {m n : Nat} (h : HeldAbove read among part m)
    (hmn : m ≤ n) : HeldAbove read among part n := by
  obtain ⟨i, hi, hlt, hholds⟩ := h
  exact ⟨i, hi, by omega, hholds⟩

theorem HeldAbove.of_part {part text : Text} {n : Nat} (h : HeldAbove read among text n)
    (hpart : part <:+: text) : HeldAbove read among part n := by
  obtain ⟨i, hi, hlt, hholds⟩ := h
  obtain ⟨whole, hread, htext⟩ := (holdsAt_iff text i).mp hholds
  exact ⟨i, hi, hlt, (holdsAt_iff part i).mpr ⟨whole, hread, hpart.trans htext⟩⟩

theorem heldAbove_succ (hnodup : (among.map (·.line)).Nodup) {c : Instruction} (hc : c ∈ among)
    (part : Text) :
    HeldAbove read among part (c.line + 1) ↔
      HeldAbove read among part c.line ∨ holdsAt read part c = true := by
  constructor
  · rintro ⟨i, hi, hlt, hholds⟩
    by_cases heq : i.line = c.line
    · rw [List.inj_on_of_nodup_map hnodup hi hc heq] at hholds
      exact .inr hholds
    · exact .inl ⟨i, hi, by omega, hholds⟩
  · rintro (h | h)
    · exact h.mono (by omega)
    · exact ⟨c, hc, by omega, h⟩

theorem heldAbove_cons (c : Instruction) (part : Text) (n : Nat) :
    HeldAbove read (c :: among) part n ↔
      (c.line < n ∧ holdsAt read part c = true) ∨ HeldAbove read among part n := by
  unfold HeldAbove
  simp only [List.mem_cons, exists_eq_or_imp]

/-- Where the lines ascend, the first copy that holds a part is the one from
which on the part is held. -/
theorem heldAbove_iff_hit (hsorted : (among.map (·.line)).Pairwise (· < ·)) (part : Text)
    (n : Nat) :
    HeldAbove read among part n ↔
      ∃ m, (among.findSome? (hit read [part])).map Prod.fst = some m ∧ m < n := by
  induction among with
  | nil => simp [HeldAbove]
  | cons c rest ih =>
    obtain ⟨hfirst, hrest⟩ := List.pairwise_cons.mp hsorted
    rw [heldAbove_cons, List.findSome?_cons]
    cases hholds : holdsAt read part c with
    | true =>
      have hhit : hit read [part] c = some (c.line, part) := by simp [hit, hholds]
      rw [hhit]
      constructor
      · rintro (⟨hlt, _⟩ | ⟨i, hi, hlt, _⟩)
        · exact ⟨c.line, rfl, hlt⟩
        · exact ⟨c.line, rfl, Nat.lt_trans (hfirst i.line (List.mem_map_of_mem hi)) hlt⟩
      · rintro ⟨m, hm, hlt⟩
        cases hm
        exact .inl ⟨hlt, rfl⟩
    | false =>
      have hhit : hit read [part] c = none := by simp [hit, hholds]
      rw [hhit, ← ih hrest]
      simp

/-- Parts that are held from the same lines on are hit first in the same copy. -/
theorem findSome?_hit_eq (hsorted : (among.map (·.line)).Pairwise (· < ·)) {parts : List Text}
    (h : ∀ part ∈ parts, ∀ n, HeldAbove read among part n ↔ HeldAbove read' among part n) :
    among.findSome? (hit read parts) = among.findSome? (hit read' parts) := by
  induction among with
  | nil => rfl
  | cons c rest ih =>
    have hnodup := hsorted.imp Nat.ne_of_lt
    obtain ⟨hfirst, hrest⟩ := List.pairwise_cons.mp hsorted
    have hnone : ∀ read : Instruction → Option Text, ∀ part,
        ¬ HeldAbove read (c :: rest) part c.line := by
      rintro read part ⟨i, hi, hlt, _⟩
      rcases List.mem_cons.mp hi with rfl | hi
      · omega
      · exact Nat.lt_asymm hlt (hfirst i.line (List.mem_map_of_mem hi))
    have hsame : ∀ part ∈ parts, holdsAt read part c = holdsAt read' part c := by
      intro part hpart
      have hiff := h part hpart (c.line + 1)
      rw [heldAbove_succ hnodup List.mem_cons_self, heldAbove_succ hnodup List.mem_cons_self,
        or_iff_right (hnone read part), or_iff_right (hnone read' part)] at hiff
      exact Bool.eq_iff_iff.mpr hiff
    have hhit : hit read parts c = hit read' parts c := by
      unfold hit
      rw [List.find?_congr hsame]
    rw [List.findSome?_cons, List.findSome?_cons, hhit]
    cases hfound : hit read' parts c with
    | some found => rfl
    | none =>
      refine ih hrest fun part hpart n => ?_
      have hmiss : holdsAt read' part c = false := by
        simpa using List.find?_eq_none.mp (Option.map_eq_none_iff.mp hfound) part hpart
      have hiff := h part hpart n
      rw [heldAbove_cons, heldAbove_cons, hsame part hpart, hmiss] at hiff
      simpa using hiff

/-- A text that a copy is read as, and that no copy above holds, is what the
copy is read as the other way too. -/
theorem read_eq_of_not_heldAbove (hnodup : (among.map (·.line)).Nodup)
    (h : ∀ part n, HeldAbove read among part n ↔ HeldAbove read' among part n) {c : Instruction}
    (hc : c ∈ among) {text : Text} (hread : read c = some text)
    (hnot : ¬ HeldAbove read among text c.line) : read' c = some text := by
  have hsame : ∀ part, text <:+: part →
      (holdsAt read part c = true ↔ holdsAt read' part c = true) := by
    intro part hpart
    have hnew : ¬ HeldAbove read among part c.line := fun habove => hnot (habove.of_part hpart)
    have hnew' : ¬ HeldAbove read' among part c.line := fun habove => hnew ((h _ _).mpr habove)
    have hiff := h part (c.line + 1)
    rw [heldAbove_succ hnodup hc, heldAbove_succ hnodup hc, or_iff_right hnew,
      or_iff_right hnew'] at hiff
    exact hiff
  have hself : holdsAt read text c = true :=
    (holdsAt_iff text c).mpr ⟨text, hread, List.infix_rfl⟩
  obtain ⟨text', hread', hinfix⟩ := (holdsAt_iff text c).mp ((hsame text List.infix_rfl).mp hself)
  have hback : holdsAt read text' c = true :=
    (hsame text' hinfix).mpr ((holdsAt_iff text' c).mpr ⟨text', hread', List.infix_rfl⟩)
  obtain ⟨text'', hread'', hinfix'⟩ := (holdsAt_iff text' c).mp hback
  rw [hread] at hread''
  cases hread''
  rw [hread', hinfix.eq_of_length (Nat.le_antisymm hinfix.length_le hinfix'.length_le)]

/-- Two ways of reading the copies hold the same parts from the same lines on
exactly when every copy that they read differently is read as texts that a
copy above holds. -/
theorem heldAbove_congr_iff (hnodup : (among.map (·.line)).Nodup) :
    (∀ part n, HeldAbove read among part n ↔ HeldAbove read' among part n) ↔
      ∀ c ∈ among, read c = read' c ∨
        (∀ text ∈ read c, HeldAbove read among text c.line) ∧
          ∀ text ∈ read' c, HeldAbove read among text c.line := by
  constructor
  · intro h c hc
    by_cases hdiffer : read c = read' c
    · exact .inl hdiffer
    refine .inr ⟨fun text htext => ?_, fun text htext => ?_⟩
    · by_contra hnot
      exact hdiffer (htext.trans (read_eq_of_not_heldAbove hnodup h hc htext hnot).symm)
    · by_contra hnot
      have hback := read_eq_of_not_heldAbove hnodup (fun part n => (h part n).symm) hc htext
        fun habove => hnot ((h _ _).mpr habove)
      exact hdiffer (hback.trans htext.symm)
  · intro h part n
    induction n using Nat.strong_induction_on with
    | _ n ih =>
      constructor
      · rintro ⟨i, hi, hlt, hholds⟩
        obtain ⟨text, hread, hpart⟩ := (holdsAt_iff part i).mp hholds
        rcases h i hi with heq | habove
        · exact ⟨i, hi, hlt, (holdsAt_iff part i).mpr ⟨text, heq ▸ hread, hpart⟩⟩
        · have hheld := (habove.1 text hread).of_part hpart
          exact ((ih i.line hlt).mp hheld).mono (Nat.le_of_lt hlt)
      · rintro ⟨i, hi, hlt, hholds⟩
        obtain ⟨text, hread, hpart⟩ := (holdsAt_iff part i).mp hholds
        rcases h i hi with heq | habove
        · exact ⟨i, hi, hlt, (holdsAt_iff part i).mpr ⟨text, heq ▸ hread, hpart⟩⟩
        · exact ((habove.2 text hread).of_part hpart).mono (Nat.le_of_lt hlt)

end FirstHit

/-! ## Files that the image does not need -/

/-- The text that unnecessary files are looked for in: the argument of a copy
from the build context. -/
def searched (i : Instruction) : Option Text := if i.readsContext then some i.argument else none

theorem unnecessary_hit (script : BuildScript) (patterns : List Text) :
    ((Rules.contextCopies script).findSome? (Rules.unnecessaryIn patterns)).map
        (fun found => (found.1.line, found.2)) =
      (copies script).findSome? (hit searched patterns) := by
  rw [contextCopies_eq, List.map_findSome?, ← List.head?_filterMap, List.filterMap_filter,
    List.head?_filterMap]
  congr 1
  funext i
  unfold hit searched holdsAt Rules.unnecessaryIn
  cases hreads : i.readsContext with
  | true => simp [Function.comp_def, hreads]
  | false =>
    have hnone : patterns.find? (fun _ => false) = none := by simp
    simp [hreads, hnone]

theorem linesOf_copyUnnecessaryFiles (subject : Subject) :
    linesOf (Rules.copyUnnecessaryFiles subject) =
      .ok (Finding.refs (((copies subject.script).findSome?
        (hit searched subject.config.unnecessaryCopyPatterns)).map Prod.fst).toList) := by
  unfold Rules.copyUnnecessaryFiles
  rw [← unnecessary_hit]
  dsimp only
  cases (Rules.contextCopies subject.script).findSome? _ with
  | none => rfl
  | some found => rfl

theorem copyUnnecessaryFiles_congr {subject subject' : Subject}
    (hconfig : subject.config = subject'.config)
    (h : (copies subject.script).findSome? (hit searched subject.config.unnecessaryCopyPatterns) =
      (copies subject'.script).findSome?
        (hit searched subject.config.unnecessaryCopyPatterns)) :
    Rules.copyUnnecessaryFiles subject = Rules.copyUnnecessaryFiles subject' := by
  rw [← unnecessary_hit, ← unnecessary_hit] at h
  unfold Rules.copyUnnecessaryFiles
  rw [← hconfig]
  dsimp only
  generalize (Rules.contextCopies subject.script).findSome? _ = found at h ⊢
  generalize (Rules.contextCopies subject'.script).findSome? _ = found' at h ⊢
  cases found with
  | none =>
    cases found' with
    | none => rfl
    | some _ => cases h
  | some first =>
    obtain ⟨i, pattern⟩ := first
    cases found' with
    | none => cases h
    | some first' =>
      obtain ⟨i', pattern'⟩ := first'
      simp only [Option.map_some, Option.some.injEq, Prod.mk.injEq] at h
      simp only [h.1, h.2]

theorem hit_fold (hf : Foldable (ofLines lines)) (patterns : List Text) :
    (copies (ofLines (fold lines))).findSome? (hit searched patterns) =
      (copies (ofLines lines)).findSome?
        (hit (fun i => searched ((ofLines lines).whole i)) patterns) := by
  rw [copies_fold hf, List.findSome?_map]
  congr 1
  funext i
  unfold hit
  rw [Function.comp, whole_line]
  rfl

theorem copies_sorted (lines : List Text) :
    ((copies (ofLines lines)).map (·.line)).Pairwise (· < ·) :=
  (ofLines_sorted lines).sublist (List.filter_sublist.map _)

theorem transparent_copyUnnecessaryFiles_iff [Characters] (hf : Foldable (ofLines lines)) :
    Transparent lines Rules.copyUnnecessaryFiles ↔
      ∀ i ∈ copies (ofLines lines), searched i = searched ((ofLines lines).whole i) ∨
        (∀ text ∈ searched i, HeldAbove searched (copies (ofLines lines)) text i.line) ∧
          ∀ text ∈ searched ((ofLines lines).whole i),
            HeldAbove searched (copies (ofLines lines)) text i.line := by
  have hnodup : ((copies (ofLines lines)).map (·.line)).Nodup := lines_nodup lines _
  rw [← heldAbove_congr_iff hnodup]
  constructor
  · intro h part n
    obtain ⟨exclusions, facts, _, heq⟩ := h.eq hf
      { packageManagers := [], unnecessaryCopyPatterns := [part] } rfl
    have hlines := linesOf_refs heq (linesOf_copyUnnecessaryFiles _)
      (linesOf_copyUnnecessaryFiles _)
    dsimp only at hlines
    rw [hit_fold hf] at hlines
    have hfirst := congrArg List.head? hlines
    rw [Option.head?_toList, Option.head?_toList] at hfirst
    rw [heldAbove_iff_hit (copies_sorted lines), heldAbove_iff_hit (copies_sorted lines), hfirst]
  · intro h
    refine (transparent_iff hf _).mpr fun exclusions config facts _ =>
      copyUnnecessaryFiles_congr rfl ?_
    rw [hit_fold hf]
    exact findSome?_hit_eq (copies_sorted lines) fun part _ => h part

/-! ## The law -/

/-- The first line of a directive says as much as its whole command to the
checks that read its arguments: which image the build starts from, how its
stages are named, who is the root user, and what is copied and added. -/
structure ReadsInFull [Characters] (script : BuildScript) : Prop where
  base : ∀ base ∈ script.baseImage?, base.imageReference = (script.whole base).imageReference
  stages : 2 ≤ script.stages.length →
    Text.joinWith ", " (Rules.stageNames script) = Text.joinWith ", " (wholeStageNames script)
  users : ∀ i ∈ script.ofKind .user, i.isRoot = (script.whole i).isRoot
  contexts : ∀ i ∈ copies script, copiesContext i = copiesContext (script.whole i)
  /-- A copy that reads differently goes unseen behind a copy above it. -/
  texts : ∀ i ∈ copies script, searched i = searched (script.whole i) ∨
    (∀ text ∈ searched i, HeldAbove searched (copies script) text i.line) ∧
      ∀ text ∈ searched (script.whole i), HeldAbove searched (copies script) text i.line
  additions : ∀ i ∈ script.ofKind .add,
    i.sources.all isUrl = (script.whole i).sources.all isUrl ∧
      i.sources.any isUrl = (script.whole i).sources.any isUrl

instance (read : Instruction → Option Text) (among : List Instruction) (part : Text) (n : Nat) :
    Decidable (HeldAbove read among part n) :=
  inferInstanceAs (Decidable (∃ i ∈ among, i.line < n ∧ holdsAt read part i = true))

instance [Characters] (script : BuildScript) : Decidable (ReadsInFull script) :=
  decidable_of_iff (_ ∧ _ ∧ _ ∧ _ ∧ _ ∧ _)
    ⟨fun ⟨base, stages, users, contexts, texts, additions⟩ =>
      ⟨base, stages, users, contexts, texts, additions⟩,
    fun h => ⟨h.base, h.stages, h.users, h.contexts, h.texts, h.additions⟩⟩

/-- Whatever the settings, the checks that read arguments find the same in a
script and in the folded one exactly when its first lines read in full. -/
theorem folding_is_unseen_exactly_when_first_lines_read_in_full [Characters] (lines : List Text)
    (hf : Foldable (ofLines lines)) :
    (∀ check ∈ argumentChecks, Transparent lines check) ↔ ReadsInFull (ofLines lines) := by
  unfold argumentChecks
  simp only [List.forall_mem_cons, transparent_baseImageWeight_iff hf,
    transparent_rootUser_iff hf, transparent_copyWholeContext_iff hf,
    transparent_copyUnnecessaryFiles_iff hf, transparent_addInsteadOfCopy_iff hf,
    transparent_multiStage_iff hf]
  constructor
  · rintro ⟨hbase, _, husers, hcontexts, htexts, hadditions, hstages, _⟩
    exact ⟨hbase, hstages, husers, hcontexts, htexts, hadditions⟩
  · intro h
    exact ⟨h.base, transparent_baseImageTag hf h.base, h.users, h.contexts, h.texts, h.additions,
      h.stages, by simp⟩

open scoped Characters

/-- The name of a stage on a line of its own is not missed when it is the only
stage. -/
theorem a_lone_stage_may_be_named_below :
    Foldable (ofLines ["FROM node:18 \\", "AS build", "USER app"]) ∧
      ∀ check ∈ argumentChecks, Transparent ["FROM node:18 \\", "AS build", "USER app"] check :=
  ⟨by decide +kernel, (folding_is_unseen_exactly_when_first_lines_read_in_full _
    (by decide +kernel)).mpr (by decide +kernel)⟩

/-- A flag on the first line hides the base image below it: the tag of the
image goes unseen. -/
theorem a_flag_on_the_first_line_hides_the_base_image :
    Foldable (ofLines ["FROM --platform=linux/amd64 \\", "node:latest"]) ∧
      ¬ ∀ check ∈ argumentChecks,
        Transparent ["FROM --platform=linux/amd64 \\", "node:latest"] check := by
  refine ⟨by decide +kernel, fun h => ?_⟩
  have htag := h Rules.baseImageTag (by simp [argumentChecks])
    (Exclusions.classify {} none) {}
  have hcount := congrArg (fun outcome => outcome.toOption.map List.length) htag
  exact absurd hcount (by decide +kernel)

end ImageLint
