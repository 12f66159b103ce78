-- How a script is laid out has no say in the built-in checks. Blanks around a
-- line are dropped, and so are the letter case of the word that opens a
-- directive and the blanks after it. Only the text that an instruction was
-- read from still shows them, and no built-in check reads it.
import Mathlib.Data.List.Forall2
import ImageLint.Proofs.Composition
import ImageLint.Proofs.FirstLines
import ImageLint.Text.Names

namespace ImageLint

/-! ## Letter case -/

namespace Text

/-- The texts have the same characters but for the case of ASCII letters. -/
def SameLetters (s t : Text) : Prop := s.map Char.toUpper = t.map Char.toUpper

/-- Only the small ASCII letters have a capital, and it stands 32 places
before them. -/
theorem toUpper_cases (c : Char) :
    c.toUpper = c ∨ (97 ≤ c.toNat ∧ c.toNat ≤ 122 ∧ c.toUpper.toNat = c.toNat - 32) := by
  by_cases h : 'a'.val ≤ c.val ∧ c.val ≤ 'z'.val
  · have hlow : 97 ≤ c.toNat := UInt32.le_iff_toNat_le.mp h.1
    have hhigh : c.toNat ≤ 122 := UInt32.le_iff_toNat_le.mp h.2
    have hupper : c.toUpper.toNat = (c.val + ('A'.val - 'a'.val)).toNat := by
      unfold Char.toUpper
      rw [dif_pos h]
      rfl
    have hdistance : ('A'.val - 'a'.val).toNat = 2 ^ 32 - 32 := rfl
    have hval : c.val.toNat = c.toNat := rfl
    rw [UInt32.toNat_add, hdistance, hval] at hupper
    exact .inr ⟨hlow, hhigh, by omega⟩
  · exact .inl (dif_neg h)

theorem upperChar_toUpper (c : Char) : Unicode.upperChar c.toUpper = Unicode.upperChar c := by
  rcases toUpper_cases c with hsame | ⟨_, _, hupper⟩
  · rw [hsame]
  rcases toUpper_cases c.toUpper with hcapital | ⟨hsmall, _⟩
  · unfold Unicode.upperChar
    rw [if_pos (by omega), if_pos (by omega), hcapital]
  · omega

theorem isBlank_toUpper (c : Char) : isBlank c.toUpper = isBlank c := by
  have hletter : ∀ c : Char, 65 ≤ c.toNat → c.toNat ≤ 122 → isBlank c = false := by
    intro c hlow hhigh
    unfold isBlank
    simp only [Bool.or_eq_false_iff, Bool.and_eq_false_iff, decide_eq_false_iff_not,
      beq_eq_false_iff_ne]
    omega
  rcases toUpper_cases c with hsame | ⟨_, _, hupper⟩
  · rw [hsame]
  · rw [hletter c (by omega) (by omega), hletter c.toUpper (by omega) (by omega)]

theorem SameLetters.upper_eq {s t : Text} (h : SameLetters s t) : upper s = upper t := by
  have hupper : ∀ s : Text, upper (s.map Char.toUpper) = upper s := by
    intro s
    unfold upper
    rw [List.flatMap_map]
    exact congrArg (s.flatMap ·) (funext upperChar_toUpper)
  rw [← hupper s, ← hupper t, h]

/-! ## Blanks around a text -/

/-- The line is the text with blanks around it. -/
def Padded (text line : Text) : Prop :=
  ∃ before after, (∀ c ∈ before, isBlank c = true) ∧ (∀ c ∈ after, isBlank c = true) ∧
    line = before ++ text ++ after

theorem padded_of_all (before text after : Text) (hbefore : before.all isBlank = true)
    (hafter : after.all isBlank = true) : Padded text (before ++ text ++ after) :=
  ⟨before, after, List.all_eq_true.mp hbefore, List.all_eq_true.mp hafter, rfl⟩

theorem Padded.strip_eq {text line : Text} (h : Padded text line) : strip line = strip text := by
  obtain ⟨before, after, hbefore, hafter, rfl⟩ := h
  have hgone : stripEnd after = [] := List.rdropWhile_eq_nil_iff.mpr hafter
  unfold strip stripStart
  rw [List.append_assoc, List.dropWhile_append_of_pos hbefore, List.dropWhile_append]
  split
  · rename_i hblank
    rw [List.dropWhile_eq_nil_iff.mpr hafter, List.isEmpty_iff.mp hblank]
  · rw [stripEnd_append, hgone]
    rfl

theorem Padded.significant?_eq {text line : Text} (h : Padded text line) :
    significant? line = significant? text := by
  rw [Text.significant?_eq, Text.significant?_eq, h.strip_eq]

end Text

namespace BuildScript

open Text

/-! ## Layouts -/

theorem IsWord.of_sameLetters {token token' : Text} (h : IsWord token)
    (hsame : SameLetters token token') : IsWord token' := by
  constructor
  · rintro rfl
    exact h.1 (List.map_eq_nil_iff.mp hsame)
  · intro c hc
    have hmem : c.toUpper ∈ token.map Char.toUpper := by
      rw [hsame]
      exact List.mem_map_of_mem hc
    obtain ⟨d, hd, hupper⟩ := List.mem_map.mp hmem
    rw [← isBlank_toUpper c, ← hupper, isBlank_toUpper]
    exact h.2 d hd

/-- The word opens an instruction, in any letter case. -/
def Opens (token : Text) : Prop := Keyword.ofToken token ≠ .unknown ∨ Keyword.isOther token = true

theorem Opens.of_sameLetters {token token' : Text} (h : Opens token)
    (hsame : SameLetters token token') : Opens token' := by
  unfold Opens Keyword.ofToken Keyword.isOther at h ⊢
  rw [← hsame.upper_eq]
  exact h

/-- No instruction is opened by what opens a comment. -/
theorem Opens.head_ne {token : Text} (h : Opens token) : token.head? ≠ some '#' := by
  intro hhash
  obtain ⟨rest, rfl⟩ := List.head?_eq_some_iff.mp hhash
  rcases h with hkind | hother
  · exact hkind rfl
  · have hnone : Keyword.isOther ('#' :: rest) = false := rfl
    rw [hnone] at hother
    cases hother

/-- The two texts are one directive with its argument, but for the letter case
of the opening word and the blanks after it. -/
def Respelled (text text' : Text) : Prop :=
  ∃ token token' gap gap' argument, IsWord token ∧ Opens token ∧ SameLetters token token' ∧
    IsGap gap ∧ IsGap gap' ∧ Bare argument ∧
    text = token ++ gap ++ argument ∧ text' = token' ++ gap' ++ argument

/-- A directive, and no continuation, stands on the line. -/
def IsDirective (lines : List Text) (number : Nat) : Prop :=
  ∃ i ∈ (ofLines lines).instructions, i.line = number ∧ i.continues = none

/-- The second list of lines is another layout of the first: each line has the
same text with other blanks around it, or the same directive with its opening
word in another letter case and other blanks after it too. -/
structure Relaid (lines lines' : List Text) : Prop where
  length : lines.length = lines'.length
  unmarked : ∀ line ∈ lines, line.head? ≠ some byteOrderMark
  unmarked' : ∀ line ∈ lines', line.head? ≠ some byteOrderMark
  lines : ∀ k line line', lines[k]? = some line → lines'[k]? = some line' →
    ∃ text text', Padded text line ∧ Padded text' line' ∧
      (text = text' ∨ (IsDirective lines (k + 1) ∧ Respelled text text'))

/-! ## The lines that are read -/

theorem Respelled.significant?_eq {text text' : Text} (h : Respelled text text') :
    significant? text = some text ∧ significant? text' = some text' := by
  have hsome : ∀ {token gap argument : Text}, IsWord token → Opens token → Bare argument →
      significant? (token ++ gap ++ argument) = some (token ++ gap ++ argument) := by
    intro token gap argument hword hopens hargument
    have hbare : Bare (token ++ gap ++ argument) := hword.bare.around gap hargument
    refine significant?_of_strip hbare ?_ hbare.strip_eq
    rw [List.append_assoc, List.head?_append_of_ne_nil _ hword.1]
    exact hopens.head_ne
  obtain ⟨token, token', gap, gap', argument, hword, hopens, hsame, _, _, hargument, rfl, rfl⟩ := h
  exact ⟨hsome hword hopens hargument,
    hsome (hword.of_sameLetters hsame) (hopens.of_sameLetters hsame) hargument⟩

/-- The two numbered texts are the same, or the same directive but for its
spelling. -/
def SameEntry (isDirective : Nat → Prop) (entry entry' : Nat × Text) : Prop :=
  entry.1 = entry'.1 ∧ (entry.2 = entry'.2 ∨ (isDirective entry.1 ∧ Respelled entry.2 entry'.2))

/-- One line: it is read in both layouts or in neither. -/
theorem readAt_relaid {isDirective : Nat → Prop} {number : Nat} {line line' text text' : Text}
    (hmark : line.head? ≠ some byteOrderMark) (hmark' : line'.head? ≠ some byteOrderMark)
    (hpad : Padded text line) (hpad' : Padded text' line')
    (h : text = text' ∨ (isDirective number ∧ Respelled text text')) :
    Option.Rel (SameEntry isDirective) (readAt (line, number)) (readAt (line', number)) := by
  unfold readAt
  rw [significantAt_of_unmarked hmark, significantAt_of_unmarked hmark', hpad.significant?_eq,
    hpad'.significant?_eq]
  rcases h with rfl | ⟨hdirective, hrespelled⟩
  · cases significant? text with
    | none => exact .none
    | some kept => exact .some ⟨rfl, .inl rfl⟩
  · rw [hrespelled.significant?_eq.1, hrespelled.significant?_eq.2]
    exact .some ⟨rfl, .inr ⟨hdirective, hrespelled⟩⟩

/-- All lines: the same of them are read in both layouts. -/
theorem Relaid.significantLines {lines lines' : List Text} (h : Relaid lines lines') :
    List.Forall₂ (SameEntry (IsDirective lines)) (significantLines lines)
      (significantLines lines') := by
  rw [significantLines_readAt, significantLines_readAt]
  have hrelated : List.Forall₂ (fun entry entry' : Text × Nat =>
      Option.Rel (SameEntry (IsDirective lines)) (readAt entry) (readAt entry'))
      (lines.zipIdx 1) (lines'.zipIdx 1) := by
    refine List.forall₂_iff_get.mpr ⟨by simp [h.length], fun k hk hk' => ?_⟩
    rw [List.length_zipIdx] at hk hk'
    simp only [List.get_eq_getElem, List.getElem_zipIdx]
    obtain ⟨text, text', hpad, hpad', hsame⟩ := h.lines k lines[k] lines'[k]
      (List.getElem?_eq_getElem hk) (List.getElem?_eq_getElem hk')
    rw [Nat.add_comm k 1] at hsame
    exact readAt_relaid (h.unmarked _ (List.getElem_mem hk)) (h.unmarked' _ (List.getElem_mem hk'))
      hpad hpad' hsame
  exact List.rel_filterMap (fun _ _ hentry => hentry) hrelated

end BuildScript

/-! ## Instructions without their texts -/

/-- The instruction without the text that it was read from. -/
def Instruction.withoutRaw (i : Instruction) : Instruction := { i with raw := [] }

namespace BuildScript

open Text

/-- One directive: the spelling of its opening word and the blanks after it
show in its text only, and it goes on in the next line or does not. -/
theorem directive_respelled {text text' : Text} (h : Respelled text text') (number : Nat) :
    (directive number text).withoutRaw = (directive number text').withoutRaw ∧
      isOpen text = isOpen text' := by
  obtain ⟨token, token', gap, gap', argument, hword, hopens, hsame, hgap, hgap', hargument, rfl,
    rfl⟩ := h
  have hkind : Keyword.ofToken token = Keyword.ofToken token' := by
    unfold Keyword.ofToken
    rw [hsame.upper_eq]
  have hknown : ∀ {token : Text}, Opens token →
      (Keyword.ofToken token == .unknown && !Keyword.isOther token) = false := by
    rintro token (hkind | hother)
    · simp [hkind]
    · simp [hother]
  constructor
  · rw [directive_parts number hword hgap hargument,
      directive_parts number (hword.of_sameLetters hsame) hgap' hargument]
    unfold opened
    rw [hknown hopens, hknown (hopens.of_sameLetters hsame), hkind]
    rfl
  · rw [isOpen_append _ hargument.nonempty, isOpen_append _ hargument.nonempty]

/-- All lines: where only directives are spelled otherwise, the instructions
are the same but for their texts. -/
theorem instructionsFrom_relaid {owner : Option Nat} {significant significant' : List (Nat × Text)}
    (h : List.Forall₂ (fun (i : Instruction) entry =>
        SameEntry (fun _ => i.continues = none) (i.line, i.raw) entry)
      (instructionsFrom owner significant) significant') :
    (instructionsFrom owner significant).map Instruction.withoutRaw =
      (instructionsFrom owner significant').map Instruction.withoutRaw := by
  induction significant generalizing owner significant' with
  | nil =>
    cases h
    rfl
  | cons first rest ih =>
    obtain ⟨number, text⟩ := first
    rw [instructionsFrom_cons] at h
    cases h with
    | cons hfirst hrest =>
      rename_i entry rest'
      obtain ⟨number', text'⟩ := entry
      obtain ⟨hnumber, htext⟩ := hfirst
      simp only [reading_line, reading_raw, reading_continues] at hnumber htext
      subst hnumber
      rw [instructionsFrom_cons, instructionsFrom_cons, List.map_cons, List.map_cons]
      rcases htext with rfl | ⟨rfl, hrespelled⟩
      · rw [ih hrest]
      · obtain ⟨hsame, hopen⟩ := directive_respelled hrespelled number
        have hnext : nextOwner none number text' = nextOwner none number text := by
          unfold nextOwner
          rw [hopen]
        rw [ih hrest, hnext]
        exact congrArg (· :: _) hsame

/-- Another layout reads as the same instructions but for their texts. -/
theorem Relaid.instructions {lines lines' : List Text} (h : Relaid lines lines') :
    (ofLines lines).instructions.map Instruction.withoutRaw =
      (ofLines lines').instructions.map Instruction.withoutRaw := by
  have hlines := h.significantLines
  rw [← instructionsFrom_map none (BuildScript.significantLines lines),
    List.forall₂_map_left_iff] at hlines
  refine instructionsFrom_relaid (((List.forall₂_and_left _ _).mpr
    ⟨fun i hi => hi, hlines⟩).imp fun i entry ⟨hi, hnumber, htext⟩ => ⟨hnumber, ?_⟩)
  rcases htext with hsame | ⟨⟨other, hother, hline, hstarts⟩, hrespelled⟩
  · exact .inl hsame
  · -- the directive on the line is the instruction itself
    have hnodup : ((ofLines lines).instructions.map (·.line)).Nodup :=
      (ofLines_sorted lines).imp Nat.ne_of_lt
    have heq := List.inj_on_of_nodup_map hnodup hother hi hline
    rw [heq] at hstarts
    exact .inr ⟨hstarts, hrespelled⟩

end BuildScript

/-! ## Checks that do not read the texts -/

/-- The script without the texts that it was read from. -/
def BuildScript.withoutRaw (script : BuildScript) : BuildScript :=
  ⟨script.instructions.map Instruction.withoutRaw⟩

/-- The subject of the checks without the texts that its script was read from. -/
def Subject.withoutRaw (subject : Subject) : Subject :=
  { subject with script := subject.script.withoutRaw }

@[simp] theorem Subject.withoutRaw_script (subject : Subject) :
    subject.withoutRaw.script = subject.script.withoutRaw := rfl

@[simp] theorem Subject.withoutRaw_config (subject : Subject) :
    subject.withoutRaw.config = subject.config := rfl

@[simp] theorem Subject.withoutRaw_facts (subject : Subject) :
    subject.withoutRaw.facts = subject.facts := rfl

/-- The check finds the same when the texts are gone. -/
def IgnoresRaw (check : Check) : Prop := ∀ subject, check subject.withoutRaw = check subject

namespace BuildScript

theorem ofKind_withoutRaw (script : BuildScript) (keyword : Keyword) :
    script.withoutRaw.ofKind keyword = (script.ofKind keyword).map Instruction.withoutRaw :=
  List.filter_map

theorem has_withoutRaw (script : BuildScript) (keyword : Keyword) :
    script.withoutRaw.has keyword = script.has keyword := List.any_map

theorem baseImage?_withoutRaw (script : BuildScript) :
    script.withoutRaw.baseImage? = script.baseImage?.map Instruction.withoutRaw := by
  unfold baseImage? stages
  rw [ofKind_withoutRaw, List.head?_map]

theorem map_line_withoutRaw (instructions : List Instruction) :
    (instructions.map Instruction.withoutRaw).map (·.line) = instructions.map (·.line) := by
  rw [List.map_map]
  rfl

/-- A test that does not read the texts picks the same lines. -/
theorem picked_withoutRaw (instructions : List Instruction) {p : Instruction → Bool}
    (hp : ∀ i : Instruction, p i.withoutRaw = p i) :
    ((instructions.map Instruction.withoutRaw).filter p).map (·.line) =
      (instructions.filter p).map (·.line) := by
  rw [List.filter_map, map_line_withoutRaw]
  exact congrArg (List.map _) (List.filter_congr fun i _ => hp i)

theorem commandText_withoutRaw (script : BuildScript) (i : Instruction) :
    script.withoutRaw.commandText i.withoutRaw = script.commandText i := by
  have hcontinued : script.withoutRaw.continuationsOf i.withoutRaw =
      (script.continuationsOf i).map Instruction.withoutRaw := List.filter_map
  unfold commandText
  rw [hcontinued, ← List.map_cons, List.map_map]
  rfl

theorem commands_withoutRaw (script : BuildScript) :
    script.withoutRaw.commands = script.commands := by
  have hdirectives : script.withoutRaw.instructions.filter (·.continues.isNone) =
      (script.instructions.filter (·.continues.isNone)).map Instruction.withoutRaw :=
    List.filter_map
  unfold commands
  rw [hdirectives, List.map_map]
  refine List.map_congr_left fun i _ => ?_
  rw [Function.comp, commandText_withoutRaw]
  rfl

end BuildScript

open BuildScript

theorem derive_withoutRaw [Characters] (script : BuildScript) (config : Config) :
    Facts.derive script.withoutRaw config = Facts.derive script config := by
  unfold Facts.derive stages
  simp only [commands_withoutRaw, ofKind_withoutRaw, List.length_map]

namespace Rules

theorem baseImageWeight_ignoresRaw [Characters] : IgnoresRaw baseImageWeight := by
  intro subject
  unfold baseImageWeight
  rw [Subject.withoutRaw_script, Subject.withoutRaw_config, baseImage?_withoutRaw]
  cases subject.script.baseImage? <;> rfl

theorem baseImageTag_ignoresRaw [Characters] : IgnoresRaw baseImageTag := by
  intro subject
  unfold baseImageTag
  rw [Subject.withoutRaw_script, Subject.withoutRaw_config, baseImage?_withoutRaw]
  cases subject.script.baseImage? <;> rfl

/-- A check that only asks for a directive. -/
theorem has_ignoresRaw (keyword : Keyword) (there missing : List Finding) :
    IgnoresRaw fun subject => pure (if subject.script.has keyword then there else missing) := by
  intro subject
  dsimp only
  rw [Subject.withoutRaw_script, has_withoutRaw]

theorem rootUser_ignoresRaw [Characters] : IgnoresRaw rootUser := by
  intro subject
  refine rootUser_congr ?_ ?_
  · unfold rootLines
    rw [Subject.withoutRaw_script, ofKind_withoutRaw]
    exact picked_withoutRaw _ fun _ => rfl
  · rw [Subject.withoutRaw_script, ofKind_withoutRaw, List.isEmpty_map]

theorem unparsedLine_ignoresRaw : IgnoresRaw unparsedLine := by
  intro subject
  have hmalformed : subject.withoutRaw.script.instructions.filter (·.malformed) =
      (subject.script.instructions.filter (·.malformed)).map Instruction.withoutRaw :=
    List.filter_map
  unfold unparsedLine
  simp only [hmalformed, List.isEmpty_map, List.length_map, map_line_withoutRaw]

theorem copyWholeContext_ignoresRaw [Characters] : IgnoresRaw copyWholeContext := by
  intro subject
  refine copyWholeContext_congr ?_
  have hcopies : copies subject.script.withoutRaw =
      (copies subject.script).map Instruction.withoutRaw := List.filter_map
  unfold contextLines
  rw [Subject.withoutRaw_script, hcopies]
  exact picked_withoutRaw _ fun _ => rfl

theorem copyUnnecessaryFiles_ignoresRaw : IgnoresRaw copyUnnecessaryFiles := by
  intro subject
  have hcopies : contextCopies subject.script.withoutRaw =
      (contextCopies subject.script).map Instruction.withoutRaw := List.filter_map
  have hfound : ∀ patterns, (contextCopies subject.script.withoutRaw).findSome?
        (unnecessaryIn patterns) =
      ((contextCopies subject.script).findSome? (unnecessaryIn patterns)).map
        fun found => (found.1.withoutRaw, found.2) := by
    intro patterns
    rw [hcopies, List.findSome?_map, List.map_findSome?]
    refine congrArg (fun f => List.findSome? f _) (funext fun i => ?_)
    unfold unnecessaryIn
    rw [Function.comp, Function.comp, Option.map_map]
    rfl
  unfold copyUnnecessaryFiles
  rw [Subject.withoutRaw_script, Subject.withoutRaw_config]
  simp only [hfound]
  cases (contextCopies subject.script).findSome? (unnecessaryIn _) <;> rfl

theorem addInsteadOfCopy_ignoresRaw [Characters] : IgnoresRaw addInsteadOfCopy := by
  intro subject
  refine addInsteadOfCopy_congr ?_ ?_
  · unfold localLines
    rw [Subject.withoutRaw_script, ofKind_withoutRaw]
    exact picked_withoutRaw _ fun _ => rfl
  · unfold remoteLines
    rw [Subject.withoutRaw_script, ofKind_withoutRaw]
    exact picked_withoutRaw _ fun _ => rfl

theorem runCount_ignoresRaw : IgnoresRaw runCount := by
  intro subject
  unfold runCount
  rw [Subject.withoutRaw_script, ofKind_withoutRaw, map_line_withoutRaw]
  rfl

theorem multiStage_ignoresRaw [Characters] : IgnoresRaw multiStage := by
  intro subject
  have hnames : stageNames subject.script.withoutRaw = stageNames subject.script := by
    unfold stageNames stages
    rw [ofKind_withoutRaw, List.filterMap_map]
    rfl
  unfold multiStage
  rw [Subject.withoutRaw_script, Subject.withoutRaw_config, Subject.withoutRaw_facts, hnames]

end Rules

open Rules in
/-- No built-in rule reads the texts. -/
theorem catalog_ignoresRaw [Characters] : ∀ rule ∈ catalog, IgnoresRaw rule.check := by
  unfold catalog
  simp only [List.forall_mem_cons]
  -- the checks of the exclusion file and of commands do not look at the instructions
  exact ⟨fun _ => rfl, fun _ => rfl, baseImageWeight_ignoresRaw, baseImageTag_ignoresRaw,
    has_ignoresRaw .workdir _ _, fun _ => rfl, fun _ => rfl, fun _ => rfl, fun _ => rfl,
    fun _ => rfl, runCount_ignoresRaw, multiStage_ignoresRaw, copyWholeContext_ignoresRaw,
    copyUnnecessaryFiles_ignoresRaw, has_ignoresRaw .label _ _, has_ignoresRaw .expose _ _,
    has_ignoresRaw .healthcheck _ _, rootUser_ignoresRaw, addInsteadOfCopy_ignoresRaw,
    unparsedLine_ignoresRaw, by simp⟩

/-- A check that does not read the texts finds the same in two scripts that
differ in nothing else. -/
theorem IgnoresRaw.bind_prepare [Characters] {check : Check} (h : IgnoresRaw check)
    {script script' : BuildScript}
    (hsame : script.withoutRaw = script'.withoutRaw) (exclusions : Exclusions) (config : Config) :
    (Subject.prepare script exclusions config >>= check) =
      (Subject.prepare script' exclusions config >>= check) := by
  have hbare : ∀ script : BuildScript, (Subject.prepare script exclusions config >>= check) =
      (Subject.prepare script.withoutRaw exclusions config >>= check) := by
    intro script
    unfold Subject.prepare
    rw [derive_withoutRaw]
    cases Facts.derive script config with
    | error fault => rfl
    | ok facts => exact (h ⟨script, exclusions, config, facts⟩).symm
  rw [hbare script, hbare script', hsame]

/-! ## The law -/

/-- The lines of a script may have other blanks around them, and directives
with an argument may have their opening words in another letter case and other
blanks after them: the instructions are the same but for the texts they were
read from, and every built-in rule finds the same, whatever the settings and
the exclusion file. -/
theorem layout_leaves_built_in_rules_alone [Characters] (lines lines' : List Text)
    (h : Relaid lines lines') :
    (ofLines lines).instructions.map Instruction.withoutRaw =
      (ofLines lines').instructions.map Instruction.withoutRaw ∧
    ∀ rule ∈ catalog, ∀ content config,
      (Subject.prepare (ofLines lines) (.classify config content) config >>= rule.check) =
        (Subject.prepare (ofLines lines') (.classify config content) config >>= rule.check) := by
  have hinstructions := h.instructions
  refine ⟨hinstructions, fun rule hrule content config => ?_⟩
  exact (catalog_ignoresRaw rule hrule).bind_prepare (congrArg BuildScript.mk hinstructions) _ _

open scoped Characters

/-- Blanks are put around a command and its continuation, and an opening word
with a letter beyond ASCII is written in other ASCII letters and with a tab
after it. -/
theorem a_relaid_script_is_checked_alike :
    Relaid ["RUN a \\", "  b", "uſer root"] [" RUN a \\  ", "b", "UſER\troot "] ∧
      ∀ rule ∈ catalog, ∀ content config,
        (Subject.prepare (ofLines ["RUN a \\", "  b", "uſer root"]) (.classify config content)
            config >>= rule.check) =
          (Subject.prepare (ofLines [" RUN a \\  ", "b", "UſER\troot "])
            (.classify config content) config >>= rule.check) := by
  have hargument : Text.Bare "root".toList :=
    ⟨by decide, by rintro c ⟨⟩; decide, by rintro c ⟨⟩; decide⟩
  have hrespelled : Respelled "uſer root".toList "UſER\troot".toList :=
    ⟨"uſer".toList, "UſER".toList, " ".toList, "\t".toList, "root".toList, by decide,
      .inl (by decide), by unfold Text.SameLetters; decide, by decide, by decide, hargument, rfl, rfl⟩
  have hrelaid : Relaid ["RUN a \\", "  b", "uſer root"]
      [" RUN a \\  ", "b", "UſER\troot "] := by
    refine ⟨rfl, by decide, by decide, fun k line line' hline hline' => ?_⟩
    match k, hline, hline' with
    | 0, rfl, rfl =>
      exact ⟨"RUN a \\".toList, _, Text.padded_of_all [] _ [] rfl rfl,
        Text.padded_of_all " ".toList _ "  ".toList rfl rfl, .inl rfl⟩
    | 1, rfl, rfl =>
      exact ⟨"b".toList, _, Text.padded_of_all "  ".toList _ [] rfl rfl,
        Text.padded_of_all [] _ [] rfl rfl, .inl rfl⟩
    | 2, rfl, rfl =>
      exact ⟨"uſer root".toList, _, Text.padded_of_all [] _ [] rfl rfl,
        Text.padded_of_all [] _ " ".toList rfl rfl,
        .inr ⟨by unfold IsDirective; decide +kernel, hrespelled⟩⟩
  exact ⟨hrelaid, (layout_leaves_built_in_rules_alone _ _ hrelaid).2⟩

end ImageLint
