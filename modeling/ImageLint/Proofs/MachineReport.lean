-- The report for other programs loses nothing: what it tells can be read
-- back from its text, and only a tip without text counts as none.
import Mathlib.Data.List.Forall2
import ImageLint.Proofs.JsonReading
import ImageLint.Report.Machine
import ImageLint.Text.Names

namespace ImageLint

/-! ## Reading the report -/

namespace Json

/-- The value of an integer. -/
def asInt? : Json → Option Int
  | .int value => some value
  | _ => none

/-- The truth value. -/
def asBool? : Json → Option Bool
  | .bool value => some value
  | _ => none

/-- The items of an array, each read in the same way. -/
def asList? {α : Type} (read : Json → Option α) : Json → Option (List α)
  | .arr items => items.mapM read
  | _ => none

/-- A field of an object, read in some way. -/
def readField? {α : Type} (name : Text) (read : Json → Option α) (value : Json) : Option α :=
  (value.field? name).bind read

end Json

/-- The finding with no tip in place of a tip without text. -/
def Finding.withoutEmptyTip (finding : Finding) : Finding :=
  { finding with tip := finding.tip.filter (!·.isEmpty) }

/-- The verdict with no tip in place of each tip without text. -/
def Verdict.withoutEmptyTips (verdict : Verdict) : Verdict :=
  { verdict with findings := verdict.findings.map Finding.withoutEmptyTip }

namespace Report

open Json (readField? asInt? asBool? asText? asList?)

/-- The tip of a finding. A field that is missing stands for no tip. -/
def tipOf? (value : Json) : Option (Option Text) :=
  match value.field? "tip" with
  | none => some none
  | some tip => tip.asText?.map some

/-- The finding that a value tells of. -/
def findingOf? (value : Json) : Option Finding := do
  return {
    ruleId := ← value.readField? "rule_id" asText?
    severity := ← value.readField? "severity" fun name => name.asText?.bind Severity.ofName?
    message := ← value.readField? "message" asText?
    lines := ← value.readField? "line_refs" (asList? asInt?)
    topic := ← value.readField? "section" asInt?
    tip := ← tipOf? value
    passed := ← value.readField? "passed" asBool? }

/-- What a value tells, each part read from the field with its name. -/
def Contents.ofJson? (value : Json) : Option Contents := do
  let exclusions ← value.field? "exclusions"
  let summary ← value.field? "summary"
  return {
    scriptName := ← value.readField? "build_script" asText?
    exclusionName := ← value.readField? "ignore_file" asText?
    state := ← exclusions.readField? "state" fun name => name.asText?.bind ExclusionState.ofName?
    ruleCount := ← exclusions.readField? "effective_rule_count" asInt?
    missingCritical := ← exclusions.readField? "missing_critical" (asList? asText?)
    missingAdvisory := ← exclusions.readField? "missing_advisory" (asList? asText?)
    findings := ← value.readField? "findings" (asList? findingOf?)
    errors := ← summary.readField? "errors" asInt?
    warnings := ← summary.readField? "warnings" asInt?
    exitStatus := ← summary.readField? "exit_status" asInt? }

/-- The contents with no tip in place of each tip without text. -/
def Contents.withoutEmptyTips (contents : Contents) : Contents :=
  { contents with findings := contents.findings.map Finding.withoutEmptyTip }

/-! ## Each part is read back -/

theorem asList?_arr {α β : Type} (write : α → Json) (read : Json → Option β) (f : α → β)
    (h : ∀ a, read (write a) = some (f a)) (items : List α) :
    asList? read (.arr (items.map write)) = some (items.map f) := by
  show (items.map write).mapM read = some (items.map f)
  induction items with
  | nil => rfl
  | cons a items ih =>
    rw [List.map_cons, List.mapM_cons, h, ih]
    rfl

theorem asList?_textsJson (texts : List Text) : asList? asText? (textsJson texts) = some texts := by
  have h := asList?_arr .str asText? id (fun _ => rfl) texts
  rwa [List.map_id] at h

theorem asList?_ints (numbers : List Int) :
    asList? asInt? (.arr (numbers.map .int)) = some numbers := by
  have h := asList?_arr .int asInt? id (fun _ => rfl) numbers
  rwa [List.map_id] at h

theorem ofName?_severity (severity : Severity) :
    Severity.ofName? severity.name = some severity := by
  cases severity <;> rfl

theorem ofName?_state (state : ExclusionState) :
    ExclusionState.ofName? state.name = some state := by
  cases state <;> rfl

/-- The field of the tip is missing exactly if there is no tip with some
text. -/
theorem field?_tip_findingJson (finding : Finding) :
    (findingJson finding).field? "tip" = (finding.withoutEmptyTip.tip).map .str := by
  obtain ⟨ruleId, severity, message, lines, topic, tip, passed⟩ := finding
  rcases tip with _ | _ | ⟨c, tip⟩ <;> rfl

theorem findingOf?_findingJson (finding : Finding) :
    findingOf? (findingJson finding) = some finding.withoutEmptyTip := by
  have hseverity : ((findingJson finding).readField? "severity" fun name =>
      name.asText?.bind Severity.ofName?) = some finding.severity := ofName?_severity _
  have hlines : (findingJson finding).readField? "line_refs" (asList? asInt?) =
      some finding.lines := asList?_ints _
  have htip : tipOf? (findingJson finding) = some finding.withoutEmptyTip.tip := by
    rw [tipOf?, field?_tip_findingJson]
    cases finding.withoutEmptyTip.tip <;> rfl
  rw [findingOf?, hseverity, hlines, htip]
  rfl

theorem Contents.ofJson?_json (contents : Contents) :
    Contents.ofJson? contents.json = some contents.withoutEmptyTips := by
  have hstate : (contents.exclusionsJson.readField? "state" fun name =>
      name.asText?.bind ExclusionState.ofName?) = some contents.state := ofName?_state _
  have hcritical : contents.exclusionsJson.readField? "missing_critical" (asList? asText?) =
      some contents.missingCritical := asList?_textsJson _
  have hadvisory : contents.exclusionsJson.readField? "missing_advisory" (asList? asText?) =
      some contents.missingAdvisory := asList?_textsJson _
  have hfindings : contents.json.readField? "findings" (asList? findingOf?) =
      some (contents.findings.map Finding.withoutEmptyTip) :=
    asList?_arr findingJson findingOf? _ findingOf?_findingJson _
  have hexclusions : contents.json.field? "exclusions" = some contents.exclusionsJson := rfl
  have hsummary : contents.json.field? "summary" = some contents.summaryJson := rfl
  simp only [Contents.ofJson?, hexclusions, hsummary, Option.bind_eq_bind, Option.bind_some, hstate,
    hcritical, hadvisory, hfindings]
  rfl

/-! ## The whole report is read back -/

theorem plain_arr {α : Type} {write : α → Json} (h : ∀ a, (write a).Plain) (items : List α) :
    (Json.arr (items.map write)).Plain := by
  refine .arr fun item hitem => ?_
  obtain ⟨a, _, rfl⟩ := List.mem_map.mp hitem
  exact h a

theorem plain_tipField (tip : Option Text) : ∀ field ∈ tipField tip, field.2.Plain := by
  rcases tip with _ | _ | ⟨c, tip⟩
  · simp [tipField]
  · simp [tipField]
  · simpa [tipField] using Json.Plain.str (c :: tip)

theorem plain_findingJson (finding : Finding) : (findingJson finding).Plain := by
  obtain ⟨ruleId, severity, message, lines, topic, tip, passed⟩ := finding
  refine .obj ?_ ?_
  · have hnames : ∀ more : List Text, more = [] ∨ more = ["tip".toList] →
        (["rule_id".toList, "severity".toList, "message".toList, "line_refs".toList,
          "section".toList, "passed".toList] ++ more).Nodup := by
      rintro more (rfl | rfl) <;> decide
    rw [List.map_append]
    refine hnames _ ?_
    rcases tip with _ | _ | ⟨c, tip⟩ <;> simp [tipField]
  · rw [List.forall_mem_append]
    refine ⟨?_, plain_tipField tip⟩
    simp [Json.Plain.str, Json.Plain.int, Json.Plain.bool, plain_arr Json.Plain.int]

theorem Contents.plain_exclusionsJson (contents : Contents) : contents.exclusionsJson.Plain := by
  refine .obj ?_ ?_
  · show ["state".toList, "effective_rule_count".toList, "missing_critical".toList,
      "missing_advisory".toList].Nodup
    decide
  · simp [Json.Plain.str, Json.Plain.int, textsJson, plain_arr Json.Plain.str]

theorem Contents.plain_summaryJson (contents : Contents) : contents.summaryJson.Plain := by
  refine .obj ?_ ?_
  · show ["errors".toList, "warnings".toList, "exit_status".toList].Nodup
    decide
  · simp [Json.Plain.int]

theorem Contents.plain_json (contents : Contents) : contents.json.Plain := by
  refine .obj ?_ ?_
  · show ["build_script".toList, "ignore_file".toList, "exclusions".toList, "findings".toList,
      "summary".toList].Nodup
    decide
  · simp [Json.Plain.str, contents.plain_exclusionsJson, plain_arr plain_findingJson,
      contents.plain_summaryJson]

section

variable [Characters]

/-- The text is read as the value that was written, also with blanks behind
it. -/
theorem Contents.parse?_text (contents : Contents) (blanks : Text)
    (h : ∀ c ∈ blanks, Json.isSpace c = true) :
    Json.parse? (contents.text ++ blanks) = some contents.json :=
  Json.parse?_renderAt Json.indented_blank contents.plain_json h

/-- What can be read in a text is all that the contents tell: each part in the
field with its name, the findings one by one in order, and a tip in every
finding that has one with some text, and in no other. -/
def Contents.ReadFrom (contents : Contents) (text : Text) : Prop :=
  ∃ value items, Json.parse? text = some value ∧
    Contents.ofJson? value = some contents.withoutEmptyTips ∧
    value.field? "findings" = some (.arr items) ∧
    List.Forall₂ (fun item finding =>
      item.field? "tip" = none ↔ finding.tip = none ∨ finding.tip = some []) items contents.findings

theorem Contents.readFrom_text (contents : Contents) : contents.ReadFrom contents.text := by
  have hparse := contents.parse?_text [] (by simp)
  rw [List.append_nil] at hparse
  refine ⟨contents.json, contents.findings.map findingJson, hparse, contents.ofJson?_json, rfl, ?_⟩
  rw [List.forall₂_map_left_iff]
  refine List.forall₂_same.mpr fun finding _ => ?_
  rw [field?_tip_findingJson, Option.map_eq_none_iff]
  obtain ⟨ruleId, severity, message, lines, topic, tip, passed⟩ := finding
  rcases tip with _ | _ | ⟨c, tip⟩ <;> simp [Finding.withoutEmptyTip]

/-- Contents with one text tell the same, up to tips without text. -/
theorem Contents.eq_of_text {contents other : Contents} (h : contents.text = other.text) :
    contents.withoutEmptyTips = other.withoutEmptyTips := by
  obtain ⟨value, _, hparse, hread, _⟩ := contents.readFrom_text
  obtain ⟨_, _, hparse', hread', _⟩ := other.readFrom_text
  rw [h] at hparse
  obtain rfl := Option.some.inj (hparse.symm.trans hparse')
  exact Option.some.inj (hread.symm.trans hread')

/-- Nothing is lost in the report: whatever it is to tell, and in particular of
a run, is read back from its text, and two runs with one report have the same
names, exclusions and verdict, but that a tip without text counts as none. -/
theorem the_machine_report_loses_nothing :
    (∀ contents : Contents, contents.ReadFrom contents.text) ∧
    (∀ scriptName exclusionName exclusions verdict,
      (Contents.ReadFrom
        { scriptName := scriptName
          exclusionName := exclusionName
          state := exclusions.state
          ruleCount := exclusions.count
          missingCritical := exclusions.missingCritical
          missingAdvisory := exclusions.missingAdvisory
          findings := verdict.findings
          errors := verdict.errors
          warnings := verdict.warnings
          exitStatus := verdict.exitStatus }
        (machine scriptName exclusionName exclusions verdict))) ∧
    (∀ scriptName exclusionName exclusions verdict scriptName' exclusionName' exclusions' verdict',
      machine scriptName exclusionName exclusions verdict =
          machine scriptName' exclusionName' exclusions' verdict' →
        scriptName = scriptName' ∧ exclusionName = exclusionName' ∧
        exclusions.state = exclusions'.state ∧ exclusions.count = exclusions'.count ∧
        exclusions.missingCritical = exclusions'.missingCritical ∧
        exclusions.missingAdvisory = exclusions'.missingAdvisory ∧
        verdict.withoutEmptyTips = verdict'.withoutEmptyTips) := by
  refine ⟨Contents.readFrom_text, fun _ _ _ _ => Contents.readFrom_text _, ?_⟩
  intro scriptName exclusionName exclusions verdict scriptName' exclusionName' exclusions' verdict' h
  have hsame := Contents.eq_of_text h
  simp only [Contents.withoutEmptyTips, Contents.ofRun, Contents.mk.injEq, Int.natCast_inj] at hsame
  obtain ⟨hscript, hexclusion, hstate, hcount, hcritical, hadvisory, hfindings, herrors, hwarnings,
    _⟩ := hsame
  refine ⟨hscript, hexclusion, hstate, hcount, hcritical, hadvisory, ?_⟩
  simp only [Verdict.withoutEmptyTips, hfindings, herrors, hwarnings]

/-- A note with a tip that has no text. -/
def emptyTip : Finding := { ruleId := "a", severity := .info, message := "b", tip := some [] }

end

open scoped Characters

/-- A tip without text makes no difference to the report. -/
theorem an_empty_tip_is_read_as_none :
    machine "c" "d" { state := .absent } (Verdict.tally [emptyTip]) =
      machine "c" "d" { state := .absent } (Verdict.tally [{ emptyTip with tip := none }]) ∧
    (Verdict.tally [emptyTip]).withoutEmptyTips =
      (Verdict.tally [{ emptyTip with tip := none }]).withoutEmptyTips := by
  have hsame : machine "c" "d" { state := .absent } (Verdict.tally [emptyTip]) =
      machine "c" "d" { state := .absent } (Verdict.tally [{ emptyTip with tip := none }]) := rfl
  exact ⟨hsame, (the_machine_report_loses_nothing.2.2 _ _ _ _ _ _ _ _ hsame).2.2.2.2.2.2⟩

end Report

end ImageLint
