-- A build script is read part by part. What has been read stays as it was
-- read, whatever follows. Where the first part ends with a line that does not
-- go on, the second part reads as it does alone, further down.
import ImageLint.Proofs.Insertion

namespace ImageLint

namespace BuildScript

/-! ## The owner at the cut -/

/-- Of what was read before, only the owner after it counts for the lines that
follow. -/
theorem instructionsFrom_append (earlier : List Instruction) (before after : List (Nat × Text)) :
    instructionsFrom (ownerAfter earlier) (before ++ after) =
      instructionsFrom (ownerAfter earlier) before ++
        instructionsFrom
          (ownerAfter (earlier ++ instructionsFrom (ownerAfter earlier) before)) after := by
  induction before generalizing earlier with
  | nil => simp [instructionsFrom]
  | cons first rest ih =>
    obtain ⟨number, line⟩ := first
    rw [List.cons_append, instructionsFrom_cons, instructionsFrom_cons, ← ownerAfter_append, ih,
      List.append_assoc, List.singleton_append, List.cons_append]

theorem significantLines_append (lines more : List Text) :
    significantLines (lines ++ more) =
      significantLines lines ++ (more.zipIdx (1 + lines.length)).filterMap readAt := by
  rw [significantLines_readAt, significantLines_readAt, List.zipIdx_append, List.filterMap_append]

theorem ofLines_append (lines more : List Text) :
    (ofLines (lines ++ more)).instructions =
      (ofLines lines).instructions ++
        instructionsFrom (ownerAfter (ofLines lines).instructions)
          ((more.zipIdx (1 + lines.length)).filterMap readAt) := by
  unfold ofLines
  rw [significantLines_append]
  exact instructionsFrom_append [] _ _

/-- The instructions of a build script stay when lines are added to it. -/
theorem ofLines_isPrefix (lines more : List Text) :
    (ofLines lines).instructions <+: (ofLines (lines ++ more)).instructions := by
  rw [ofLines_append]
  exact List.prefix_append _ _

/-- The last instruction of the script, if there is one, does not go on. -/
def EndsClosed (script : BuildScript) : Prop :=
  ∀ last, script.instructions.getLast? = some last → isOpen last.raw = false

theorem EndsClosed.ownerAfter {script : BuildScript} (h : script.EndsClosed) :
    ownerAfter script.instructions = none := by
  unfold BuildScript.ownerAfter
  cases hlast : script.instructions.getLast? with
  | none => rfl
  | some last => rw [Option.any_some, h last hlast, if_neg Bool.false_ne_true]

/-! ## The second part -/

/-- The first of the lines, if there is one, does not start with a byte-order
mark. -/
def StartsUnmarked (lines : List Text) : Prop :=
  ∀ first, lines.head? = some first → first.head? ≠ some Text.byteOrderMark

/-- Further down, lines that do not start with a mark are read alike. -/
theorem readAt_shifted {more : List Text} (h : StartsUnmarked more) (shift : Nat) :
    (more.zipIdx (1 + shift)).filterMap readAt =
      (significantLines more).map (Prod.map (· + shift) id) := by
  have hsame : ∀ entry ∈ more.zipIdx 1,
      significantAt (entry.2 + shift) entry.1 = significantAt entry.2 entry.1 := by
    rintro ⟨line, number⟩ hentry
    obtain ⟨hle, hget⟩ := List.mem_zipIdx_iff_le_and_getElem?_sub.mp hentry
    dsimp only at hle hget ⊢
    by_cases hone : number = 1
    · subst hone
      have hmark := h line (by rw [List.head?_eq_getElem?]; exact hget)
      rw [significantAt_of_unmarked hmark, significantAt_of_unmarked hmark]
    · rw [significantAt_of_ne_one (by omega), significantAt_of_ne_one hone]
  rw [significantLines_readAt, ← filterMap_renumber hsame, List.map_snd_add_zipIdx_eq_zipIdx,
    Nat.add_comm]

/-- Where the first part does not go on, the second part reads as it does
alone, moved down by the length of the first. -/
theorem ofLines_append_of_closed {lines more : List Text} (hclosed : (ofLines lines).EndsClosed)
    (hmark : lines = [] ∨ StartsUnmarked more) :
    (ofLines (lines ++ more)).instructions =
      (ofLines lines).instructions ++
        (ofLines more).instructions.map (Instruction.renumber (· + lines.length)) := by
  rcases hmark with rfl | hmark
  · have hid : Instruction.renumber (· + ([] : List Text).length) = id := by
      funext i
      simp [Instruction.renumber]
    rw [hid, List.map_id]
    rfl
  · rw [ofLines_append, hclosed.ownerAfter, readAt_shifted hmark]
    congr 1
    exact instructionsFrom_renumber none (significantLines more)

end BuildScript

/-! ## Commands -/

/-- The block with its line numbers changed by `r`. -/
def Block.renumber (r : Nat → Nat) (block : Block) : Block :=
  ⟨block.directive.renumber r, block.continuations.map (Instruction.renumber r)⟩

variable {r : Nat → Nat}

theorem Block.command_renumber (block : Block) :
    (block.renumber r).command = block.command.renumber r := by
  have hinstructions : (block.renumber r).instructions =
      block.instructions.map (Instruction.renumber r) := rfl
  have htext : (block.renumber r).text = block.text := by
    unfold Block.text
    rw [hinstructions, List.map_map]
    rfl
  unfold Block.command
  rw [htext]
  rfl

namespace BuildScript

theorem cut_renumber (instructions : List Instruction) :
    cut (instructions.map (Instruction.renumber r)) =
      ((cut instructions).1.map (Instruction.renumber r),
        (cut instructions).2.map (Block.renumber r)) := by
  induction instructions with
  | nil => rfl
  | cons i rest ih =>
    have hsome : (i.renumber r).continues.isSome = i.continues.isSome := by
      simp [Instruction.renumber]
    rw [List.map_cons, cut, cut, ih, hsome]
    split <;> rfl

/-- Instructions that start with a directive add their blocks to the blocks of
those before them. -/
theorem cut_append {after : List Instruction} (h : (cut after).1 = [])
    (before : List Instruction) :
    cut (before ++ after) = ((cut before).1, (cut before).2 ++ (cut after).2) := by
  induction before with
  | nil => exact Prod.ext h rfl
  | cons i rest ih =>
    rw [List.cons_append, cut, cut, ih]
    split <;> rfl

theorem commands_append_of_closed {lines more : List Text} (hclosed : (ofLines lines).EndsClosed)
    (hmark : lines = [] ∨ StartsUnmarked more) :
    (ofLines (lines ++ more)).commands =
      (ofLines lines).commands ++
        (ofLines more).commands.map (Command.renumber (· + lines.length)) := by
  have hlead : (cut ((ofLines more).instructions.map
      (Instruction.renumber (· + lines.length)))).1 = [] := by
    rw [cut_renumber, cut_ofLines, List.map_nil]
  rw [commands_eq, commands_eq, commands_eq, blocks, ofLines_append_of_closed hclosed hmark,
    cut_append hlead, cut_renumber, List.map_append, List.map_map, List.map_map]
  congr 1
  exact List.map_congr_left fun block _ => block.command_renumber

end BuildScript

open BuildScript

/-! ## The law -/

/-- A build script is read part by part. The instructions of the first part
come first, whatever follows them. When the last of them does not go on, and
the second part does not start with a byte-order mark that only the first line
of a script may have, the rest are the instructions of the second part, moved
down by the length of the first; and so are the commands. -/
theorem scripts_are_read_part_by_part (lines more : List Text) :
    (ofLines lines).instructions <+: (ofLines (lines ++ more)).instructions ∧
    ((∀ last, (ofLines lines).instructions.getLast? = some last → isOpen last.raw = false) →
      (lines = [] ∨
        ∀ first, more.head? = some first → first.head? ≠ some Text.byteOrderMark) →
      (ofLines (lines ++ more)).instructions =
        (ofLines lines).instructions ++ (ofLines more).instructions.map (fun i =>
          { i with
            line := i.line + lines.length
            continues := i.continues.map (· + lines.length) }) ∧
      (ofLines (lines ++ more)).commands =
        (ofLines lines).commands ++ (ofLines more).commands.map (fun c =>
          { c with line := c.line + lines.length })) := by
  refine ⟨ofLines_isPrefix lines more, fun hclosed hmark => ?_⟩
  exact ⟨ofLines_append_of_closed hclosed hmark, commands_append_of_closed hclosed hmark⟩

/-- The first part ends with a comment below a command over two lines, and the
second part starts with another such command. -/
theorem a_command_below_a_comment_moves_down :
    (ofLines (["RUN a \\", "b", "# \\"] ++ ["USER \\", "root"])).commands =
      (ofLines ["RUN a \\", "b", "# \\"]).commands ++
        (ofLines ["USER \\", "root"]).commands.map (fun c => { c with line := c.line + 3 }) :=
  ((scripts_are_read_part_by_part ["RUN a \\", "b", "# \\"] ["USER \\", "root"]).2
    (by rintro last ⟨⟩; decide) (.inr (by rintro first ⟨⟩; decide))).2

end ImageLint
