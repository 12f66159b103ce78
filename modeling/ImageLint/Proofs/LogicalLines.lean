-- A command over several lines reads as the one line that they make up when
-- they are joined. So the checks that look at commands cannot tell the two
-- spellings apart.
import ImageLint.Proofs.FirstLines
import ImageLint.Text.Names

namespace ImageLint

namespace BuildScript

/-! ## One directive -/

/-- The command of a directive. -/
def commandOf (script : BuildScript) (i : Instruction) : Command :=
  { line := i.line, keyword := i.keyword, text := script.commandText i, malformed := i.malformed }

theorem commandOf_mem {script : BuildScript} {i : Instruction} (h : i ∈ script.instructions)
    (hc : i.continues = none) : script.commandOf i ∈ script.commands := by
  have hdirective : i ∈ script.instructions.filter (·.continues.isNone) :=
    List.mem_filter.mpr ⟨h, by rw [hc]; rfl⟩
  exact List.mem_map_of_mem hdirective

/-- No two commands start on the same line. -/
theorem command_eq_of_line {lines : List Text} {c other : Command}
    (h : c ∈ (ofLines lines).commands) (hother : other ∈ (ofLines lines).commands)
    (hline : other.line = c.line) : other = c := by
  have hnodup : ((ofLines lines).commands.map (·.line)).Nodup := by
    unfold commands
    rw [List.map_map]
    exact lines_nodup lines _
  exact List.inj_on_of_nodup_map hnodup hother h hline

/-- A directive that stands alone in a script is its only command. -/
theorem commands_singleton {i : Instruction} (h : i.continues = none) :
    commands ⟨[i]⟩ =
      [{ line := i.line
         keyword := i.keyword
         text := joinKept [dropBackslash i.argument]
         malformed := i.malformed }] := by
  have hnone : continuationsOf ⟨[i]⟩ i = [] := by simp [continuationsOf, h]
  unfold commands
  rw [List.filter_cons_of_pos (by rw [h]; rfl), List.filter_nil, List.map_singleton,
    commandText_of_not_continued hnone]

/-- The lines of a command, joined and read alone, make up the command. -/
theorem commands_joined {lines : List Text} {i : Instruction} (hi : Folds lines i) :
    commands ⟨[directive i.line ((ofLines lines).joined i)]⟩ = [(ofLines lines).commandOf i] := by
  rw [directive_joined hi, commands_singleton (by exact hi.starts)]
  dsimp only
  rw [joinKept_commandText hi]
  rfl

/-- A directive on one line that does not go on is that line. -/
theorem commands_unbroken {lines : List Text} {i : Instruction}
    (h : i ∈ (ofLines lines).instructions) (hc : i.continues = none)
    (hnone : (ofLines lines).continuationsOf i = []) (hclosed : isOpen i.raw = false) :
    commands ⟨[directive i.line ((ofLines lines).joined i)]⟩ = [(ofLines lines).commandOf i] := by
  have hbare := (raw_bare h).1
  have hjoined : (ofLines lines).joined i = i.raw := by
    unfold joined
    rw [hnone, List.map_singleton, dropBackslash_eq_self hbare hclosed]
    exact joinKept_singleton hbare.nonempty
  rw [hjoined, directive_eq h hc, commands_singleton hc, ← commandText_of_not_continued hnone]
  rfl

end BuildScript

open BuildScript

/-! ## The checks that look at commands -/

section

variable [Characters]

/-- The checks that read commands, and no directive by itself. -/
def commandChecks : List Check := [
  Rules.installRecommends,
  Rules.packageCacheCleanup,
  Rules.updateInstallSplit,
  Rules.apkVirtualDeps,
  Rules.tempFileCleanup]

variable {lines : List Text}

theorem transparent_of_commandChecks (hf : Foldable (ofLines lines)) :
    ∀ check ∈ commandChecks, Transparent lines check := by
  unfold commandChecks
  simp only [List.forall_mem_cons, transparent_iff hf]
  -- none of them reads the script, and the facts are the same
  exact ⟨fun _ _ _ _ => rfl, fun _ _ _ _ => rfl, fun _ _ _ _ => rfl, fun _ _ _ _ => rfl,
    fun _ _ _ _ => rfl, by simp⟩

/-! ## The law -/

/-- A command reads as its logical line. Take a directive that no line
continues and that does not go on, or one that is continued, has text after
its opening word, and ends with a line that does not go on. Its lines, joined
into one and read alone, make up the same command as in the script. So on a
script whose continued directives are all of this kind, the checks that read
commands find the same when every command stands on one line; and so does the
check for stages of their own, where it reads commands. -/
theorem commands_read_as_their_logical_lines (lines : List Text) :
    (∀ i ∈ (ofLines lines).instructions, i.continues = none →
      ((ofLines lines).continuationsOf i = [] ∧ isOpen i.raw = false ∨
        (ofLines lines).continuationsOf i ≠ [] ∧ i.raw.dropWhile (!Text.isBlank ·) ≠ [] ∧
          ∀ last, ((ofLines lines).continuationsOf i).getLast? = some last →
            isOpen last.raw = false) →
      ∃ c ∈ (ofLines lines).commands, c.line = i.line ∧
        (∀ other ∈ (ofLines lines).commands, other.line = i.line → other = c) ∧
        commands ⟨[directive i.line (Text.joinWith [' ']
          (((i :: (ofLines lines).continuationsOf i).map (dropBackslash ·.raw)).filter
            (!·.isEmpty)))]⟩ = [c]) ∧
    (Foldable (ofLines lines) →
      (ofLines (fold lines)).commands = (ofLines lines).commands ∧
      (∀ check ∈ commandChecks, Transparent lines check) ∧
      ((ofLines lines).stages.length < 2 → Transparent lines Rules.multiStage)) := by
  refine ⟨fun i h hc hends => ?_, fun hf => ?_⟩
  · have hmem := commandOf_mem h hc
    refine ⟨_, hmem, rfl, fun other hother hline => command_eq_of_line hmem hother hline, ?_⟩
    rcases hends with ⟨hnone, hclosed⟩ | ⟨hsome, hspoken, hclosed⟩
    · exact commands_unbroken h hc hnone hclosed
    · have hlast : ((ofLines lines).continuationsOf i).getLast?.any (isOpen ·.raw) = false := by
        cases hl : ((ofLines lines).continuationsOf i).getLast? with
        | none => rfl
        | some last => exact hclosed last hl
      exact commands_joined ⟨h, hc, by simpa [isContinued] using hsome, hspoken, hlast⟩
  · refine ⟨commands_fold hf, transparent_of_commandChecks hf, fun hlone => ?_⟩
    exact (transparent_multiStage_iff hf).mpr fun hmany => absurd hmany (by omega)

end

open scoped Characters

/-- The opening word may stand alone with its backslash, and lines of no more
than a backslash or a comment may come between. -/
theorem a_broken_command_reads_as_one_line :
    (∃ c ∈ (ofLines ["RUN \\", "a \\\\", "# b", "\\", "c"]).commands, c.line = 1 ∧
      commands ⟨[directive 1 "RUN a \\ c"]⟩ = [c]) ∧
    Transparent ["RUN \\", "a \\\\", "# b", "\\", "c"] Rules.tempFileCleanup := by
  have hlaw := commands_read_as_their_logical_lines ["RUN \\", "a \\\\", "# b", "\\", "c"]
  obtain ⟨c, hmem, hline, _, halone⟩ := hlaw.1 (directive 1 "RUN \\") (by decide +kernel)
    (by decide +kernel) (.inr ⟨by decide +kernel, by decide +kernel,
      by rintro last ⟨⟩; decide +kernel⟩)
  obtain ⟨_, hchecks, _⟩ := hlaw.2 (by decide +kernel)
  exact ⟨⟨c, hmem, hline, halone⟩, hchecks Rules.tempFileCleanup (by simp [commandChecks])⟩

end ImageLint
