-- Byte-order marks never change an outcome. Reading a file drops one mark,
-- reading a build script drops all that its first line starts with, and an
-- exclusion file is classified without those it starts with: however many a
-- text starts with, what is found is what is found without them.
import ImageLint.Analysis
import ImageLint.Proofs.Encoding
import ImageLint.Proofs.Lines
import ImageLint.Proofs.ReadFiles
import ImageLint.Text.Names

namespace ImageLint

/-! ## Marked texts -/

namespace Text

/-- The text that is so many byte-order marks. -/
def marks (count : Nat) : Text := List.replicate count byteOrderMark

theorem marks_succ_append (count : Nat) (s : Text) :
    marks (count + 1) ++ s = byteOrderMark :: (marks count ++ s) := rfl

theorem dropMarks_mark (s : Text) : dropMarks (byteOrderMark :: s) = dropMarks s :=
  List.dropWhile_cons_of_pos (by simp)

theorem dropMarks_marks (count : Nat) (s : Text) : dropMarks (marks count ++ s) = dropMarks s := by
  induction count with
  | zero => rfl
  | succ count ih => rw [marks_succ_append, dropMarks_mark, ih]

theorem unifyLineEnds_mark (s : Text) :
    unifyLineEnds (byteOrderMark :: s) = byteOrderMark :: unifyLineEnds s := by
  rw [unifyLineEnds]
  · rfl
  · intro rest h
    exact absurd h (by decide)

theorem unifyLineEnds_marks (count : Nat) (s : Text) :
    unifyLineEnds (marks count ++ s) = marks count ++ unifyLineEnds s := by
  induction count with
  | zero => rfl
  | succ count ih => rw [marks_succ_append, marks_succ_append, unifyLineEnds_mark, ih]

/-- The mark that reading a file drops is one of those that are dropped
later. -/
theorem dropMarks_ofFile (s : Text) :
    dropMarks (ofFile (encode s)) = dropMarks (unifyLineEnds s) := by
  rw [ofFile_encode]
  split
  next h =>
    obtain ⟨rest, rfl⟩ := List.head?_eq_some_iff.mp h
    rw [List.tail_cons, unifyLineEnds_mark, dropMarks_mark]
  next => rfl

theorem dropMarks_ofFile_marks (count : Nat) (s : Text) :
    dropMarks (ofFile (encode (marks count ++ s))) = dropMarks (ofFile (encode s)) := by
  rw [dropMarks_ofFile, dropMarks_ofFile, unifyLineEnds_marks, dropMarks_marks]

end Text

/-! ## Build scripts -/

namespace BuildScript

theorem ofLines_first_marks (count : Nat) (first : Text) (rest : List Text) :
    ofLines ((Text.marks count ++ first) :: rest) = ofLines (first :: rest) := by
  simp only [ofLines, significantLines, dropMarks, Text.dropMarks_marks]

theorem ofLines_mark (s : Text) :
    ofLines (Text.lines (Text.byteOrderMark :: s)) = ofLines (Text.lines s) := by
  rw [Text.lines_cons (by decide)]
  cases Text.lines s with
  | nil => decide
  | cons first rest => exact ofLines_first_marks 1 first rest

/-- A build script is that of its text without the marks it starts with. -/
theorem ofLines_dropMarks (s : Text) :
    ofLines (Text.lines (Text.dropMarks s)) = ofLines (Text.lines s) := by
  induction s with
  | nil => rfl
  | cons c rest ih =>
    by_cases hc : c = Text.byteOrderMark
    · rw [hc, Text.dropMarks_mark, ih, ofLines_mark]
    · rw [Text.dropMarks_eq_self (by simpa using hc)]

theorem ofLines_congr {s t : Text} (h : Text.dropMarks s = Text.dropMarks t) :
    ofLines (Text.lines s) = ofLines (Text.lines t) := by
  rw [← ofLines_dropMarks s, h, ofLines_dropMarks t]

end BuildScript

/-! ## Exclusion files -/

theorem Exclusions.classify_congr (config : Config) {s t : Text}
    (h : Text.dropMarks s = Text.dropMarks t) :
    classify config (some s) = classify config (some t) := by
  unfold classify
  dsimp only
  rw [h]

/-! ## Analyses -/

/-- An analysis sees the lines as a build script and the content as the
exclusions in it. -/
theorem analyze_congr [Characters] {lines lines' : List Text} {content content' : Option Text}
    {config : Config} (hlines : BuildScript.ofLines lines = BuildScript.ofLines lines')
    (hcontent : Exclusions.classify config content = Exclusions.classify config content') :
    analyze lines content config = analyze lines' content' config := by
  unfold analyze
  rw [hlines, hcontent]

/-- A file with this text, in UTF-8, stands at the path. -/
def Files.Holds (files : Files) (path : Path) (text : Text) : Prop :=
  files.find path = .ok (.file (Text.encode text))

theorem Files.Holds.reads {files : Files} {path : Path} {text : Text}
    (h : files.Holds path text) : Run.ReadsAs files path (Text.ofFile (Text.encode text)) :=
  ⟨_, h, rfl⟩

/-- Byte-order marks change nothing. A build script and an exclusion file that
start with any number of them are read as the instructions and the exclusions
that they are without them, and their analysis is the same; so it is for marks
in the first of the lines and in the content that are handed over directly. -/
theorem byte_order_marks_change_nothing [Characters] (config : Config) (k m : Nat) :
    (∀ (script exclusions : Text) (marked plain : Files)
        (markedScript markedExclusions plainScript plainExclusions : Path),
      marked.Holds markedScript (Text.marks k ++ script) →
      marked.Holds markedExclusions (Text.marks m ++ exclusions) →
      plain.Holds plainScript script → plain.Holds plainExclusions exclusions →
      ∃ markedLines markedContent plainLines plainContent,
        Source.readLines marked markedScript = .ok markedLines ∧
        Source.readOptionalText marked markedExclusions = .ok (some markedContent) ∧
        Source.readLines plain plainScript = .ok plainLines ∧
        Source.readOptionalText plain plainExclusions = .ok (some plainContent) ∧
        BuildScript.ofLines markedLines = BuildScript.ofLines plainLines ∧
        Exclusions.classify config (some markedContent) =
          Exclusions.classify config (some plainContent) ∧
        analyze markedLines (some markedContent) config =
          analyze plainLines (some plainContent) config) ∧
    (∀ (first : Text) (rest : List Text),
      BuildScript.ofLines ((Text.marks k ++ first) :: rest) = BuildScript.ofLines (first :: rest)) ∧
    (∀ content : Text,
      Exclusions.classify config (some (Text.marks m ++ content)) =
        Exclusions.classify config (some content)) ∧
    ∀ (first : Text) (rest : List Text) (content : Text),
      analyze ((Text.marks k ++ first) :: rest) (some (Text.marks m ++ content)) config =
        analyze (first :: rest) (some content) config := by
  have hclassify : ∀ content : Text,
      Exclusions.classify config (some (Text.marks m ++ content)) =
        Exclusions.classify config (some content) := fun content =>
    Exclusions.classify_congr config (Text.dropMarks_marks m content)
  refine ⟨?_, BuildScript.ofLines_first_marks k, hclassify, fun first rest content =>
    analyze_congr (BuildScript.ofLines_first_marks k first rest) (hclassify content)⟩
  intro script exclusions marked plain _ _ _ _ hscript hexclusions hplain hplainExclusions
  have hlines := BuildScript.ofLines_congr (Text.dropMarks_ofFile_marks k script)
  have hcontent := Exclusions.classify_congr config (Text.dropMarks_ofFile_marks m exclusions)
  exact ⟨_, _, _, _, Run.readLines_eq_ok_iff.mpr ⟨_, hscript.reads, rfl⟩,
    hexclusions.reads.readOptionalText,
    Run.readLines_eq_ok_iff.mpr ⟨_, hplain.reads, rfl⟩,
    hplainExclusions.reads.readOptionalText, hlines, hcontent,
    analyze_congr hlines hcontent⟩

open scoped Characters

/-- A script whose first line is empty but for marks, and an exclusion file of
marks alone. -/
theorem marks_before_a_line_end_change_nothing :
    let script : Text := "\r\nUSER root"
    let marked := Files.ofList
      [(.ofText "a", .ok (.file (Text.encode (Text.marks 2 ++ script)))),
        (.ofText "b", .ok (.file (Text.encode (Text.marks 3 ++ []))))]
    let plain := Files.ofList
      [(.ofText "a", .ok (.file (Text.encode script))), (.ofText "b", .ok (.file []))]
    ∃ markedLines markedContent plainLines plainContent,
      Source.readLines marked (.ofText "a") = .ok markedLines ∧
      Source.readOptionalText marked (.ofText "b") = .ok (some markedContent) ∧
      Source.readLines plain (.ofText "a") = .ok plainLines ∧
      Source.readOptionalText plain (.ofText "b") = .ok (some plainContent) ∧
      BuildScript.ofLines markedLines = BuildScript.ofLines plainLines ∧
      Exclusions.classify {} (some markedContent) = Exclusions.classify {} (some plainContent) ∧
      analyze markedLines (some markedContent) {} = analyze plainLines (some plainContent) {} :=
  (byte_order_marks_change_nothing {} 2 3).1 "\r\nUSER root" [] _ _ _ _ _ _ rfl rfl rfl rfl

end ImageLint
