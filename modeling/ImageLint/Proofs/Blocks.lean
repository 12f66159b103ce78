-- How the lines of a build script become instructions: exactly the
-- significant lines, in order, and each continuation belongs to the directive
-- before it. So the instructions fall into blocks, one for each command.
import ImageLint.BuildScript
import ImageLint.Proofs.Text

namespace ImageLint

namespace BuildScript

/-! ## One line -/

/-- The instruction on a significant line, `owner` being the directive that
the line continues, if it does. -/
def reading (owner : Option Nat) (number : Nat) (line : Text) : Instruction :=
  match owner with
  | some first => continuation first number line
  | none => directive number line

theorem instructionsFrom_cons (owner : Option Nat) (number : Nat) (line : Text)
    (rest : List (Nat × Text)) :
    instructionsFrom owner ((number, line) :: rest) =
      reading owner number line :: instructionsFrom (nextOwner owner number line) rest := rfl

theorem directive_fields (number : Nat) (line : Text) :
    (directive number line).line = number ∧ (directive number line).raw = line ∧
      (directive number line).continues = none := by
  unfold directive
  dsimp only
  split
  · split <;> exact ⟨rfl, rfl, rfl⟩
  · split <;> exact ⟨rfl, rfl, rfl⟩

@[simp] theorem reading_line (owner : Option Nat) (number : Nat) (line : Text) :
    (reading owner number line).line = number := by
  cases owner with
  | none => exact (directive_fields number line).1
  | some first => rfl

@[simp] theorem reading_raw (owner : Option Nat) (number : Nat) (line : Text) :
    (reading owner number line).raw = line := by
  cases owner with
  | none => exact (directive_fields number line).2.1
  | some first => rfl

@[simp] theorem reading_continues (owner : Option Nat) (number : Nat) (line : Text) :
    (reading owner number line).continues = owner := by
  cases owner with
  | none => exact (directive_fields number line).2.2
  | some first => rfl

/-! ## The lines that are read -/

/-- Every significant line becomes one instruction, with its number and text. -/
theorem instructionsFrom_map (owner : Option Nat) (significant : List (Nat × Text)) :
    (instructionsFrom owner significant).map (fun i => (i.line, i.raw)) = significant := by
  induction significant generalizing owner with
  | nil => rfl
  | cons first rest ih =>
    obtain ⟨number, line⟩ := first
    rw [instructionsFrom_cons, List.map_cons, ih, reading_line, reading_raw]

theorem exists_reading {owner : Option Nat} {significant : List (Nat × Text)} {i : Instruction}
    (h : i ∈ instructionsFrom owner significant) :
    ∃ owner' number line, (number, line) ∈ significant ∧ i = reading owner' number line := by
  induction significant generalizing owner with
  | nil => simp [instructionsFrom] at h
  | cons first rest ih =>
    obtain ⟨number, line⟩ := first
    rw [instructionsFrom_cons] at h
    rcases List.mem_cons.mp h with rfl | h
    · exact ⟨owner, number, line, List.mem_cons_self, rfl⟩
    · obtain ⟨owner', number', line', hmem, hi⟩ := ih h
      exact ⟨owner', number', line', List.mem_cons_of_mem _ hmem, hi⟩

/-- The significant text of the line with the given number. -/
def significantAt (number : Nat) (line : Text) : Option Text :=
  Text.significant? (if number = 1 then Text.dropMarks line else line)

theorem significantAt_of_ne_one {number : Nat} (h : number ≠ 1) (line : Text) :
    significantAt number line = Text.significant? line := by
  rw [significantAt, if_neg h]

theorem significantAt_of_unmarked {line : Text} (h : line.head? ≠ some Text.byteOrderMark)
    (number : Nat) : significantAt number line = Text.significant? line := by
  rw [significantAt, Text.dropMarks_eq_self h, ite_self]

/-- A numbered line that is significant, as it is read. -/
def readAt (entry : Text × Nat) : Option (Nat × Text) :=
  (significantAt entry.2 entry.1).map fun text => (entry.2, text)

theorem significantLines_readAt (lines : List Text) :
    significantLines lines = (lines.zipIdx 1).filterMap readAt := by
  cases lines with
  | nil => rfl
  | cons first rest =>
    unfold significantLines dropMarks
    rw [List.zipIdx_cons, List.zipIdx_cons, List.filterMap_cons, List.filterMap_cons]
    have hrest : (rest.zipIdx (1 + 1)).filterMap (fun entry =>
          (Text.significant? entry.1).map fun text => (entry.2, text)) =
        (rest.zipIdx (1 + 1)).filterMap readAt := by
      refine List.filterMap_congr fun entry hentry => ?_
      have hle := List.le_snd_of_mem_zipIdx hentry
      rw [readAt, significantAt, if_neg (by omega)]
    rw [← hrest]
    rfl

/-- What is read is the significant texts of the lines that have one, each
with the number of its line. -/
theorem mem_significantLines_iff {lines : List Text} {number : Nat} {text : Text} :
    (number, text) ∈ significantLines lines ↔
      1 ≤ number ∧ ∃ line, lines[number - 1]? = some line ∧
        significantAt number line = some text := by
  rw [significantLines_readAt, List.mem_filterMap]
  constructor
  · rintro ⟨⟨line, n⟩, hmem, hread⟩
    obtain ⟨raw, hraw, heq⟩ := Option.map_eq_some_iff.mp hread
    cases heq
    obtain ⟨hle, hget⟩ := List.mem_zipIdx_iff_le_and_getElem?_sub.mp hmem
    exact ⟨hle, line, hget, hraw⟩
  · rintro ⟨hle, line, hget, hraw⟩
    refine ⟨(line, number), List.mem_zipIdx_iff_le_and_getElem?_sub.mpr ⟨hle, hget⟩, ?_⟩
    exact Option.map_eq_some_iff.mpr ⟨text, hraw, rfl⟩

theorem significantLines_eq (lines : List Text) :
    significantLines lines =
      ((((dropMarks lines).map Text.strip).zipIdx 1).filter fun entry =>
        !entry.1.isEmpty && !Text.startsWith entry.1 "#").map Prod.swap := by
  unfold significantLines
  rw [List.zipIdx_map, List.filter_map, List.map_map, ← List.filterMap_eq_map,
    List.filterMap_filter]
  congr 1
  funext ⟨line, number⟩
  simp only [Text.significant?_eq, Function.comp, Prod.map, id_eq, Prod.swap_prod_mk]
  split <;> simp_all

theorem significantLines_sublist (lines : List Text) :
    ((significantLines lines).map Prod.fst).Sublist (List.range' 1 lines.length) := by
  have hlength : ((dropMarks lines).map Text.strip).length = lines.length := by
    cases lines <;> simp [dropMarks]
  rw [significantLines_eq, List.map_map, ← hlength, ← List.zipIdx_map_snd]
  exact List.filter_sublist.map _

theorem instructions_sublist (lines : List Text) :
    ((ofLines lines).instructions.map (·.line)).Sublist (List.range' 1 lines.length) := by
  have hsub := significantLines_sublist lines
  rw [← instructionsFrom_map none (significantLines lines), List.map_map] at hsub
  exact hsub

theorem ofLines_sorted (lines : List Text) :
    ((ofLines lines).instructions.map (·.line)).Pairwise (· < ·) :=
  List.Pairwise.sublist (instructions_sublist lines) List.pairwise_lt_range'

/-! ## The directive that a line continues -/

/-- The directive that the line after these instructions continues: the
nearest one, when the last instruction goes on. -/
def ownerAfter (before : List Instruction) : Option Nat :=
  if before.getLast?.any (isOpen ·.raw) then
    (before.reverse.find? (·.continues.isNone)).map (·.line)
  else none

/-- One step: what the reader carries to the next line is the owner after the
instruction it has just read. -/
theorem ownerAfter_append (before : List Instruction) (number : Nat) (line : Text) :
    ownerAfter (before ++ [reading (ownerAfter before) number line]) =
      nextOwner (ownerAfter before) number line := by
  generalize hi : reading (ownerAfter before) number line = i
  have hline : i.line = number := by rw [← hi, reading_line]
  have hraw : i.raw = line := by rw [← hi, reading_raw]
  have hcont : i.continues = ownerAfter before := by rw [← hi, reading_continues]
  unfold nextOwner
  rw [ownerAfter]
  simp only [List.getLast?_append, List.getLast?_singleton, Option.some_or, Option.any_some, hraw,
    List.reverse_append, List.reverse_cons, List.reverse_nil, List.nil_append,
    List.singleton_append, List.find?_cons]
  split
  · cases ho : ownerAfter before with
    | none => simp [hcont, ho, hline]
    | some first =>
      simp only [hcont, ho, Option.isNone_some, Option.getD_some]
      unfold ownerAfter at ho
      split at ho
      · exact ho
      · cases ho
  · rfl

/-- A whole run: every instruction continues the owner after those before it. -/
theorem continues_eq_ownerAfter (before : List Instruction) (significant : List (Nat × Text))
    {j : Nat} {i : Instruction}
    (h : (instructionsFrom (ownerAfter before) significant)[j]? = some i) :
    i.continues =
      ownerAfter (before ++ (instructionsFrom (ownerAfter before) significant).take j) := by
  induction significant generalizing before j with
  | nil => simp [instructionsFrom] at h
  | cons first rest ih =>
    obtain ⟨number, line⟩ := first
    rw [instructionsFrom_cons] at h ⊢
    cases j with
    | zero =>
      simp only [List.getElem?_cons_zero, Option.some.injEq] at h
      rw [← h, reading_continues, List.take_zero, List.append_nil]
    | succ j =>
      rw [List.getElem?_cons_succ, ← ownerAfter_append] at h
      have hrest := ih _ h
      rw [List.take_succ_cons, ← ownerAfter_append, List.append_cons]
      exact hrest

theorem ofLines_continues {lines : List Text} {j : Nat} {i : Instruction}
    (h : (ofLines lines).instructions[j]? = some i) :
    i.continues = ownerAfter ((ofLines lines).instructions.take j) :=
  continues_eq_ownerAfter [] (significantLines lines) h

/-- The first instruction continues nothing, so any other has a directive
somewhere before it. -/
theorem exists_directive_before {lines : List Text} {j : Nat}
    (hj : 0 < j) (hlt : j < (ofLines lines).instructions.length) :
    ∃ i ∈ (ofLines lines).instructions.take j, i.continues = none := by
  have h0 : 0 < (ofLines lines).instructions.length := by omega
  refine ⟨(ofLines lines).instructions[0], ?_, ?_⟩
  · exact List.mem_take_iff_getElem.mpr ⟨0, by omega, rfl⟩
  · exact ofLines_continues (List.getElem?_eq_getElem h0)

/-- An instruction is a directive exactly when it comes first or the one
before it does not go on. -/
theorem continues_eq_none_iff {lines : List Text} {j : Nat} {i : Instruction}
    (h : (ofLines lines).instructions[j]? = some i) :
    i.continues = none ↔ j = 0 ∨
      ∃ prev, (ofLines lines).instructions[j - 1]? = some prev ∧ isOpen prev.raw = false := by
  rw [ofLines_continues h]
  have hlt : j < (ofLines lines).instructions.length := (List.getElem?_eq_some_iff.mp h).1
  rcases Nat.eq_zero_or_pos j with rfl | hj
  · simp [ownerAfter]
  have hlast : ((ofLines lines).instructions.take j).getLast? =
      some (ofLines lines).instructions[j - 1] := by
    rw [List.getLast?_take, if_neg (by omega), List.getElem?_eq_getElem (by omega)]
    rfl
  have hget : (ofLines lines).instructions[j - 1]? =
      some (ofLines lines).instructions[j - 1] := List.getElem?_eq_getElem (by omega)
  obtain ⟨d, hd, hnone⟩ := exists_directive_before hj hlt
  unfold ownerAfter
  rw [hlast, Option.any_some, hget]
  by_cases hopen : isOpen (ofLines lines).instructions[j - 1].raw = true
  · have hne : j ≠ 0 := by omega
    simp only [hopen, if_true, Option.map_eq_none_iff, List.find?_eq_none, List.mem_reverse,
      Option.some.injEq, exists_eq_left', hne, false_or]
    exact iff_of_false (fun hall => hall d hd (by simp [hnone])) (by simp)
  · simp [hopen]

/-- A continuation belongs to the nearest directive before it. -/
theorem nearest_directive {lines : List Text} {j : Nat} {i : Instruction}
    (h : (ofLines lines).instructions[j]? = some i) (hc : i.continues ≠ none) :
    ∃ earlier owner between,
      (ofLines lines).instructions.take j = earlier ++ owner :: between ∧
      owner.continues = none ∧ (∀ c ∈ between, c.continues ≠ none) ∧
      i.continues = some owner.line := by
  rw [ofLines_continues h] at hc ⊢
  unfold ownerAfter at hc ⊢
  split at hc
  · rename_i hopen
    rw [if_pos hopen]
    cases hfind : ((ofLines lines).instructions.take j).reverse.find? (·.continues.isNone) with
    | none => exact absurd (by rw [hfind]; rfl) hc
    | some owner =>
      obtain ⟨hnone, later, earlier, hsplit, hlater⟩ := List.find?_eq_some_iff_append.mp hfind
      refine ⟨earlier.reverse, owner, later.reverse, ?_, by simpa using hnone, ?_, rfl⟩
      · rw [← List.reverse_reverse ((ofLines lines).instructions.take j), hsplit]
        simp
      · intro c hmem hcn
        have := hlater c (List.mem_reverse.mp hmem)
        simp [hcn] at this
  · exact absurd rfl hc

/-- A continuation is of no kind, and its argument is its whole line. -/
theorem continuation_fields {lines : List Text} {i : Instruction}
    (h : i ∈ (ofLines lines).instructions) (hc : i.continues ≠ none) :
    i.keyword = .unknown ∧ i.malformed = false ∧ i.argument = i.raw := by
  obtain ⟨owner, number, line, _, rfl⟩ := exists_reading h
  rw [reading_continues] at hc
  cases owner with
  | none => exact absurd rfl hc
  | some first => exact ⟨rfl, rfl, rfl⟩

end BuildScript

/-! ## Blocks -/

/-- A directive with the lines that continue it. -/
structure Block where
  directive : Instruction
  continuations : List Instruction

namespace Block

/-- The instructions of the block, in order. -/
def instructions (block : Block) : List Instruction := block.directive :: block.continuations

/-- The arguments of the block without backslashes, with single blanks
between those that are not empty. -/
def text (block : Block) : Text :=
  Text.joinWith [' '] <|
    (block.instructions.map (BuildScript.dropBackslash ·.argument)).filter (!·.isEmpty)

/-- The command that the block makes up. -/
def command (block : Block) : Command :=
  { line := block.directive.line
    keyword := block.directive.keyword
    text := block.text
    malformed := block.directive.malformed }

/-- The block starts with a directive, and the other lines continue it. -/
structure Owned (block : Block) : Prop where
  starts : block.directive.continues = none
  continued : ∀ c ∈ block.continuations, c.continues = some block.directive.line

end Block

namespace BuildScript

/-- Cuts instructions before each directive: the continuations that stand
before the first one, and the blocks. -/
def cut : List Instruction → List Instruction × List Block
  | [] => ([], [])
  | i :: rest =>
    if i.continues.isSome then (i :: (cut rest).1, (cut rest).2)
    else ([], ⟨i, (cut rest).1⟩ :: (cut rest).2)

/-- The blocks of a build script. -/
def blocks (script : BuildScript) : List Block := (cut script.instructions).2

/-- Nothing is lost when instructions are cut. -/
theorem cut_flatten (instructions : List Instruction) :
    (cut instructions).1 ++ (cut instructions).2.flatMap Block.instructions = instructions := by
  induction instructions with
  | nil => rfl
  | cons i rest ih =>
    unfold cut
    split
    · rw [List.cons_append, ih]
    · rw [List.nil_append, List.flatMap_cons, Block.instructions, List.cons_append, ih]

/-- Every block that the reader makes is owned by its directive. The lines
before the first block are still owned by the directive read before them. -/
theorem cut_owned (owner : Option Nat) (significant : List (Nat × Text)) :
    (∀ c ∈ (cut (instructionsFrom owner significant)).1,
      c.continues = owner ∧ c.continues ≠ none) ∧
    ∀ block ∈ (cut (instructionsFrom owner significant)).2, block.Owned := by
  induction significant generalizing owner with
  | nil => simp [instructionsFrom, cut]
  | cons first rest ih =>
    obtain ⟨number, line⟩ := first
    obtain ⟨hlead, howned⟩ := ih (nextOwner owner number line)
    rw [instructionsFrom_cons, cut, reading_continues]
    cases owner with
    | some first =>
      refine ⟨?_, howned⟩
      intro c hc
      rcases List.mem_cons.mp hc with rfl | hc
      · exact ⟨reading_continues .., by simp⟩
      · obtain ⟨heq, hne⟩ := hlead c hc
        unfold nextOwner at heq
        split at heq
        · exact ⟨heq, hne⟩
        · exact absurd heq hne
    | none =>
      refine ⟨by simp, ?_⟩
      intro block hblock
      rcases List.mem_cons.mp hblock with rfl | hblock
      · refine ⟨reading_continues .., ?_⟩
        intro c hc
        obtain ⟨heq, hne⟩ := hlead c hc
        unfold nextOwner at heq
        split at heq
        · rw [heq, reading_line]
          rfl
        · exact absurd heq hne
      · exact howned block hblock

theorem blocks_owned (lines : List Text) : ∀ block ∈ (ofLines lines).blocks, block.Owned :=
  (cut_owned none (significantLines lines)).2

/-- No line of a build script stands before its first directive. -/
theorem cut_ofLines (lines : List Text) : (cut (ofLines lines).instructions).1 = [] := by
  refine List.eq_nil_iff_forall_not_mem.mpr fun c hc => ?_
  obtain ⟨heq, hne⟩ := (cut_owned none (significantLines lines)).1 c hc
  exact hne heq

/-- The blocks of a build script hold all of its instructions. -/
theorem blocks_flatten (lines : List Text) :
    (ofLines lines).blocks.flatMap Block.instructions = (ofLines lines).instructions := by
  have hflat := cut_flatten (ofLines lines).instructions
  rw [cut_ofLines, List.nil_append] at hflat
  exact hflat

/-! ## Commands -/

theorem owned_filter_self {block : Block} (h : block.Owned) :
    block.instructions.filter (·.continues == some block.directive.line) =
      block.continuations := by
  unfold Block.instructions
  rw [List.filter_cons_of_neg (by simp [h.starts]), List.filter_eq_self]
  intro c hc
  simp [h.continued c hc]

theorem owned_filter_ne {block : Block} (h : block.Owned) {number : Nat}
    (hne : block.directive.line ≠ number) :
    block.instructions.filter (·.continues == some number) = [] := by
  unfold Block.instructions
  rw [List.filter_cons_of_neg (by simp [h.starts]), List.filter_eq_nil_iff]
  intro c hc
  simp [h.continued c hc, hne]

theorem owned_filter_directive {block : Block} (h : block.Owned) :
    block.instructions.filter (·.continues.isNone) = [block.directive] := by
  unfold Block.instructions
  rw [List.filter_cons_of_pos (by simp [h.starts]), List.filter_eq_nil_iff.mpr]
  intro c hc
  simp [h.continued c hc]

/-- Where the directives stand on different lines, looking for the lines that
continue one of them finds the rest of its block. -/
theorem filter_continues {blocks : List Block} (howned : ∀ block ∈ blocks, block.Owned)
    (hlines : (blocks.map (·.directive.line)).Nodup) {block : Block} (h : block ∈ blocks) :
    (blocks.flatMap Block.instructions).filter (·.continues == some block.directive.line) =
      block.continuations := by
  induction blocks with
  | nil => simp at h
  | cons first rest ih =>
    rw [List.flatMap_cons, List.filter_append]
    simp only [List.map_cons, List.nodup_cons, List.mem_map, not_exists, not_and] at hlines
    have hfirst := howned first List.mem_cons_self
    have hrest : ∀ b ∈ rest, b.Owned := fun b hb => howned b (List.mem_cons_of_mem _ hb)
    rcases List.mem_cons.mp h with rfl | h
    · rw [owned_filter_self hfirst, List.append_right_eq_self, List.filter_flatMap,
        List.flatMap_eq_nil_iff]
      exact fun b hb => owned_filter_ne (hrest b hb) (hlines.1 b hb)
    · rw [owned_filter_ne hfirst fun heq => hlines.1 block h heq.symm, List.nil_append]
      exact ih hrest hlines.2 h

theorem filter_directives {blocks : List Block} (howned : ∀ block ∈ blocks, block.Owned) :
    (blocks.flatMap Block.instructions).filter (·.continues.isNone) =
      blocks.map (·.directive) := by
  induction blocks with
  | nil => rfl
  | cons first rest ih =>
    rw [List.flatMap_cons, List.filter_append, owned_filter_directive (howned _ List.mem_cons_self),
      ih fun b hb => howned b (List.mem_cons_of_mem _ hb), List.map_cons, List.singleton_append]

theorem directives_eq (lines : List Text) :
    (ofLines lines).instructions.filter (·.continues.isNone) =
      (ofLines lines).blocks.map (·.directive) := by
  rw [← blocks_flatten lines]
  exact filter_directives (blocks_owned lines)

theorem directive_lines_nodup (lines : List Text) :
    ((ofLines lines).blocks.map (·.directive.line)).Nodup := by
  have hmap : (ofLines lines).blocks.map (·.directive.line) =
      ((ofLines lines).instructions.filter (·.continues.isNone)).map (·.line) := by
    rw [directives_eq, List.map_map]
    rfl
  rw [hmap]
  exact ((ofLines_sorted lines).sublist (List.filter_sublist.map _)).imp Nat.ne_of_lt

theorem continuationsOf_directive {lines : List Text} {block : Block}
    (h : block ∈ (ofLines lines).blocks) :
    (ofLines lines).continuationsOf block.directive = block.continuations := by
  unfold continuationsOf
  rw [← blocks_flatten lines]
  exact filter_continues (blocks_owned lines) (directive_lines_nodup lines) h

theorem commandText_directive {lines : List Text} {block : Block}
    (h : block ∈ (ofLines lines).blocks) :
    (ofLines lines).commandText block.directive = block.text := by
  unfold commandText Block.text Block.instructions
  rw [continuationsOf_directive h]

/-- Each block makes up one command, and there is no other. -/
theorem commands_eq (lines : List Text) :
    (ofLines lines).commands = (ofLines lines).blocks.map Block.command := by
  unfold commands
  rw [directives_eq, List.map_map]
  refine List.map_congr_left fun block h => ?_
  unfold Block.command
  rw [Function.comp, commandText_directive h]

/-! ## The law -/

/-- Reading records exactly the significant lines, in order. An instruction is
a directive exactly when it comes first or the instruction before it does not
go on; otherwise it is a plain line that continues the nearest directive
before it. So the line numbers increase, and the commands are the blocks of a
directive and all of its continuations. -/
theorem reading_records_the_significant_lines (lines : List Text) :
    (ofLines lines).instructions.map (fun i => (i.line, i.raw)) =
      ((((dropMarks lines).map Text.strip).zipIdx 1).filter fun entry =>
        !entry.1.isEmpty && !Text.startsWith entry.1 "#").map Prod.swap ∧
    (∀ j i, (ofLines lines).instructions[j]? = some i →
      (i.continues = none ↔ j = 0 ∨
        ∃ prev, (ofLines lines).instructions[j - 1]? = some prev ∧ isOpen prev.raw = false) ∧
      (i.continues ≠ none →
        i.keyword = .unknown ∧ i.malformed = false ∧ i.argument = i.raw ∧
        ∃ earlier owner between,
          (ofLines lines).instructions.take j = earlier ++ owner :: between ∧
          owner.continues = none ∧ (∀ c ∈ between, c.continues ≠ none) ∧
          i.continues = some owner.line)) ∧
    ((ofLines lines).instructions.map (·.line)).Pairwise (· < ·) ∧
    (ofLines lines).blocks.flatMap Block.instructions = (ofLines lines).instructions ∧
    (∀ block ∈ (ofLines lines).blocks, block.directive.continues = none ∧
      ∀ c ∈ block.continuations, c.continues = some block.directive.line) ∧
    (ofLines lines).commands = (ofLines lines).blocks.map fun block =>
      { line := block.directive.line
        keyword := block.directive.keyword
        text := Text.joinWith [' '] <|
          (block.instructions.map (dropBackslash ·.argument)).filter (!·.isEmpty)
        malformed := block.directive.malformed } := by
  refine ⟨?_, ?_, ofLines_sorted lines, blocks_flatten lines, ?_, commands_eq lines⟩
  · rw [← significantLines_eq]
    exact instructionsFrom_map none (significantLines lines)
  · intro j i h
    refine ⟨continues_eq_none_iff h, fun hc => ?_⟩
    obtain ⟨hkeyword, hmalformed, hargument⟩ := continuation_fields (List.mem_of_getElem? h) hc
    exact ⟨hkeyword, hmalformed, hargument, nearest_directive h hc⟩
  · intro block h
    exact ⟨(blocks_owned lines block h).starts, (blocks_owned lines block h).continued⟩

end BuildScript

end ImageLint
