-- A blank line or a comment that is put into a build script moves the lines
-- below it, and that is all it does.
import ImageLint.Proofs.Blocks
import ImageLint.Proofs.Renumbering
import ImageLint.Text.Names

namespace ImageLint

/-- The number of line `n` once a line has been put in after line `k`. -/
def movedBelow (k n : Nat) : Nat := if n ≤ k then n else n + 1

theorem movedBelow_strictMono (k : Nat) : StrictMono (movedBelow k) := by
  intro m n h
  unfold movedBelow
  split <;> split <;> omega

namespace BuildScript

variable {r : Nat → Nat}

/-! ## Reading under new numbers -/

theorem directive_renumber (number : Nat) (line : Text) :
    directive (r number) line = (directive number line).renumber r := by
  unfold directive
  dsimp only
  split
  · split <;> rfl
  · split <;> rfl

theorem reading_renumber (owner : Option Nat) (number : Nat) (line : Text) :
    reading (owner.map r) (r number) line = (reading owner number line).renumber r := by
  cases owner with
  | none => exact directive_renumber number line
  | some first => rfl

theorem nextOwner_renumber (owner : Option Nat) (number : Nat) (line : Text) :
    nextOwner (owner.map r) (r number) line = (nextOwner owner number line).map r := by
  unfold nextOwner
  split
  · cases owner <;> rfl
  · rfl

theorem instructionsFrom_renumber (owner : Option Nat) (significant : List (Nat × Text)) :
    instructionsFrom (owner.map r) (significant.map (Prod.map r id)) =
      (instructionsFrom owner significant).map (Instruction.renumber r) := by
  induction significant generalizing owner with
  | nil => rfl
  | cons first rest ih =>
    obtain ⟨number, line⟩ := first
    rw [List.map_cons, Prod.map_apply, id_eq, instructionsFrom_cons, reading_renumber,
      nextOwner_renumber, ih, instructionsFrom_cons, List.map_cons]

/-- Lines that are significant alike under their old and new numbers are read
alike. -/
theorem filterMap_renumber {entries : List (Text × Nat)}
    (h : ∀ entry ∈ entries, significantAt (r entry.2) entry.1 = significantAt entry.2 entry.1) :
    (entries.map (Prod.map id r)).filterMap readAt =
      (entries.filterMap readAt).map (Prod.map r id) := by
  rw [List.filterMap_map, List.map_filterMap]
  refine List.filterMap_congr fun entry hentry => ?_
  simp only [readAt, Function.comp, Prod.map_fst, Prod.map_snd, id_eq, h entry hentry,
    Option.map_map]
  rfl

/-! ## A line put in -/

theorem zipIdx_take_movedBelow (lines : List Text) (k : Nat) :
    ((lines.take k).zipIdx 1).map (Prod.map id (movedBelow k)) = (lines.take k).zipIdx 1 := by
  refine (List.map_congr_left ?_).trans (List.map_id _)
  rintro ⟨line, number⟩ h
  have hlt := List.snd_lt_of_mem_zipIdx h
  have hle := List.length_take_le k lines
  simp only [Prod.map_apply, id_eq, movedBelow, Prod.mk.injEq, true_and]
  rw [if_pos (by omega)]

theorem zipIdx_drop_movedBelow (lines : List Text) (k : Nat) :
    ((lines.drop k).zipIdx (1 + k)).map (Prod.map id (movedBelow k)) =
      (lines.drop k).zipIdx (1 + k + 1) := by
  rw [List.zipIdx_succ]
  refine List.map_congr_left ?_
  rintro ⟨line, number⟩ h
  have hle := List.le_snd_of_mem_zipIdx h
  simp only [Prod.map_apply, id_eq, movedBelow]
  rw [if_neg (by omega)]

theorem significantLines_insert (lines : List Text) {k : Nat} (hk : 1 ≤ k)
    (hlen : k ≤ lines.length) {line : Text} (hline : Text.IsRemark line) :
    significantLines (lines.take k ++ line :: lines.drop k) =
      (significantLines lines).map (Prod.map (movedBelow k) id) := by
  have hlength : (lines.take k).length = k := List.length_take_of_le hlen
  have hnone : readAt (line, 1 + k) = none := by
    rw [readAt, significantAt, if_neg (by omega), (Text.significant?_eq_none_iff line).mpr hline]
    rfl
  -- only the first line is read in a way of its own, and it stays the first
  have hone : ∀ n, movedBelow k n = 1 ↔ n = 1 := by
    intro n
    unfold movedBelow
    split <;> omega
  have hsame : ∀ entry ∈ lines.zipIdx 1,
      significantAt (movedBelow k entry.2) entry.1 = significantAt entry.2 entry.1 := by
    intro entry _
    simp only [significantAt, hone]
  have hwhole : lines.zipIdx 1 = (lines.take k).zipIdx 1 ++ (lines.drop k).zipIdx (1 + k) := by
    conv_lhs => rw [← List.take_append_drop k lines, List.zipIdx_append, hlength]
  calc significantLines (lines.take k ++ line :: lines.drop k)
      = ((lines.take k).zipIdx 1 ++ (line, 1 + k) :: (lines.drop k).zipIdx (1 + k + 1)).filterMap
          readAt := by
        rw [significantLines_readAt, List.zipIdx_append, hlength, List.zipIdx_cons]
    _ = ((lines.take k).zipIdx 1 ++ (lines.drop k).zipIdx (1 + k + 1)).filterMap readAt := by
        rw [List.filterMap_append, List.filterMap_cons_none hnone, List.filterMap_append]
    _ = ((lines.zipIdx 1).map (Prod.map id (movedBelow k))).filterMap readAt := by
        rw [hwhole, List.map_append, zipIdx_take_movedBelow, zipIdx_drop_movedBelow]
    _ = (significantLines lines).map (Prod.map (movedBelow k) id) := by
        rw [filterMap_renumber hsame, ← significantLines_readAt]

theorem ofLines_insert (lines : List Text) {k : Nat} (hk : 1 ≤ k) (hlen : k ≤ lines.length)
    {line : Text} (hline : Text.IsRemark line) :
    ofLines (lines.take k ++ line :: lines.drop k) = (ofLines lines).renumber (movedBelow k) := by
  unfold ofLines renumber
  rw [significantLines_insert lines hk hlen hline]
  congr 1
  exact instructionsFrom_renumber none (significantLines lines)

end BuildScript

/-! ## The law -/

section

variable [Characters]

/-- A blank line or a comment put in after line `k` only moves the lines below
it: the script reads the same, the analysis ends in the same fault or finds
the same, and the counts and the exit status stay. -/
theorem a_remark_only_moves_the_lines_below_it (lines : List Text) (k : Nat) (hk : 1 ≤ k)
    (hlen : k ≤ lines.length) (line : Text) (hline : Text.IsRemark line)
    (content : Option Text) (config : Config) :
    (BuildScript.ofLines (lines.take k ++ line :: lines.drop k)).instructions =
      (BuildScript.ofLines lines).instructions.map (fun i =>
        { i with line := movedBelow k i.line, continues := i.continues.map (movedBelow k) }) ∧
    (∀ fault, analyze (lines.take k ++ line :: lines.drop k) content config = .error fault ↔
      analyze lines content config = .error fault) ∧
    ∀ analysis, analyze lines content config = .ok analysis →
      ∃ moved, analyze (lines.take k ++ line :: lines.drop k) content config = .ok moved ∧
        moved.verdict.findings = analysis.verdict.findings.map (fun f =>
          { f with lines := f.lines.map fun n => (movedBelow k n.toNat : Int) }) ∧
        moved.verdict.errors = analysis.verdict.errors ∧
        moved.verdict.warnings = analysis.verdict.warnings ∧
        moved.verdict.exitStatus = analysis.verdict.exitStatus := by
  have hread := BuildScript.ofLines_insert lines hk hlen hline
  have hrun := analyze_renumber (movedBelow_strictMono k) hread content config
  refine ⟨congrArg BuildScript.instructions hread, ?_, ?_⟩
  · intro fault
    rw [hrun]
    cases analyze lines content config with
    | error fault' => rfl
    | ok analysis => exact iff_of_false nofun nofun
  · intro analysis h
    rw [h] at hrun
    exact ⟨analysis.renumber (movedBelow k), hrun, rfl, rfl, rfl, rfl⟩

end

open scoped Characters

/-- A comment inside a command does not end it. -/
theorem a_comment_inside_a_command_moves_its_end :
    (BuildScript.ofLines ["RUN a \\", "# note", "b"]).instructions =
      (BuildScript.ofLines ["RUN a \\", "b"]).instructions.map fun i =>
        { i with line := movedBelow 1 i.line, continues := i.continues.map (movedBelow 1) } :=
  (a_remark_only_moves_the_lines_below_it ["RUN a \\", "b"] 1 (by decide) (by decide) "# note"
    (.inr ⟨" note".toList, by decide⟩) none {}).1

end ImageLint
