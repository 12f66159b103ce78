-- A copy names what it reads in words or as an array of strings in brackets.
-- Every array is read back as it was written, and words that could stand in
-- either form say the same in both: the checks of copies find the same,
-- whatever script the copy stands in.
import ImageLint.Proofs.Arguments
import ImageLint.Proofs.FirstLines
import ImageLint.Proofs.StageOptions
import ImageLint.Text.Names

namespace ImageLint

open BuildScript

/-! ## Copies that say the same -/

/-- The instructions are of one kind and on one line. Where they are copies,
they have the same arguments, and both read the build context or neither does. -/
structure SaysSame [Characters] (i i' : Instruction) : Prop where
  line : i.line = i'.line
  keyword : i.keyword = i'.keyword
  arguments : isCopy i.keyword = true → i.arguments = i'.arguments
  context : isCopy i.keyword = true → i.readsContext = i'.readsContext

theorem SaysSame.refl [Characters] (i : Instruction) : SaysSame i i
    := ⟨rfl, rfl, fun _ => rfl, fun _ => rfl⟩

theorem SaysSame.sources [Characters] {i i' : Instruction} (h : SaysSame i i')
    (hcopy : isCopy i.keyword = true) : i.sources = i'.sources := by
  unfold Instruction.sources
  rw [h.arguments hcopy]

/-- A test that cannot tell apart what says the same picks the same lines. -/
theorem filter_lines_congr [Characters] {instructions instructions' : List Instruction}
    (h : List.Forall₂ SaysSame instructions instructions') {test : Instruction → Bool}
    (htest : ∀ i i', SaysSame i i' → test i = test i') :
    (instructions.filter test).map (·.line) = (instructions'.filter test).map (·.line) := by
  induction h with
  | nil => rfl
  | @cons i i' rest rest' hsame _ ih =>
    rw [List.filter_cons, List.filter_cons, htest i i' hsame]
    split
    · rw [List.map_cons, List.map_cons, hsame.line, ih]
    · exact ih

/-- Where a test asks for a kind of copy, only what copies say counts. -/
theorem SaysSame.and_kind [Characters] {i i' : Instruction} (h : SaysSame i i')
    {kinds : Keyword → Bool} (hkinds : ∀ kind, kinds kind = true → isCopy kind = true) {b b' : Bool}
    (hb : isCopy i.keyword = true → b = b') :
    (b && kinds i.keyword) = (b' && kinds i'.keyword) := by
  rw [← h.keyword]
  by_cases hkind : kinds i.keyword = true
  · rw [hb (hkinds _ hkind)]
  · simp [hkind]

/-- The checks of copies find the same in both scripts. -/
def CopiesAlike [Characters] (lines lines' : List Text) : Prop :=
  ∀ exclusions config facts facts',
    Rules.copyWholeContext ⟨ofLines lines, exclusions, config, facts⟩ =
      Rules.copyWholeContext ⟨ofLines lines', exclusions, config, facts'⟩ ∧
    Rules.addInsteadOfCopy ⟨ofLines lines, exclusions, config, facts⟩ =
      Rules.addInsteadOfCopy ⟨ofLines lines', exclusions, config, facts'⟩

theorem copiesAlike_of_saysSame [Characters] {lines lines' : List Text}
    (h : List.Forall₂ SaysSame (ofLines lines).instructions (ofLines lines').instructions) :
    CopiesAlike lines lines' := by
  have hadd : ∀ kind : Keyword, (kind == .add) = true → isCopy kind = true := by
    intro kind hkind
    simp [isCopy, hkind]
  intro exclusions config facts facts'
  constructor
  · apply copyWholeContext_congr
    unfold contextLines copies
    rw [List.filter_filter, List.filter_filter]
    refine filter_lines_congr h fun i i' hsame => hsame.and_kind (fun _ h => h) ?_
    intro hcopy
    unfold copiesContext Rules.copiesEverything
    rw [hsame.arguments hcopy, hsame.context hcopy, hsame.sources hcopy]
  · apply addInsteadOfCopy_congr
    · unfold localLines ofKind
      rw [List.filter_filter, List.filter_filter]
      refine filter_lines_congr h fun i i' hsame => hsame.and_kind hadd ?_
      intro hcopy
      rw [hsame.sources hcopy]
    · unfold remoteLines ofKind
      rw [List.filter_filter, List.filter_filter]
      refine filter_lines_congr h fun i i' hsame => hsame.and_kind hadd ?_
      intro hcopy
      rw [hsame.sources hcopy]

/-! ## A line in the place of another -/

/-- The word opens a copy. -/
structure OpensCopy (token : Text) : Prop where
  word : IsWord token
  copies : isCopy (Keyword.ofToken token) = true

instance (token : Text) : Decidable (OpensCopy token) :=
  decidable_of_iff (_ ∧ _) ⟨fun h => ⟨h.1, h.2⟩, fun h => ⟨h.word, h.copies⟩⟩

/-- The line of a copy. -/
def copyLine (token argument : Text) : Text := token ++ [' '] ++ argument

namespace OpensCopy

variable {token argument argument' : Text} (h : OpensCopy token)
include h

theorem known : Keyword.ofToken token ≠ .unknown := by
  intro hunknown
  have hcopies := h.copies
  rw [hunknown] at hcopies
  cases hcopies

theorem significantAt (ha : Text.Bare argument) (number : Nat) :
    BuildScript.significantAt number (copyLine token argument) =
      some (copyLine token argument) :=
  significantAt_opened h.word h.known ha number

theorem directive_eq (ha : Text.Bare argument) (number : Nat) :
    directive number (copyLine token argument) =
      { keyword := Keyword.ofToken token
        argument := argument
        line := number
        raw := copyLine token argument } := by
  have hgap : IsGap [' '] := by decide
  unfold copyLine
  rw [directive_parts number h.word hgap ha, opened_eq rfl h.known]

theorem ofLines_eq (ha : Text.Bare argument) :
    (ofLines [copyLine token argument]).instructions =
      [{ keyword := Keyword.ofToken token
         argument := argument
         line := 1
         raw := copyLine token argument }] :=
  ofLines_opened h.word rfl h.known ha

/-- The line of a copy may be replaced by one with a text that says the same and
goes on where the first one does. -/
theorem copiesAlike [Characters] (ha : Text.Bare argument) (ha' : Text.Bare argument')
    (hopen : isOpen argument = isOpen argument')
    (hsame : ∀ i i' : Instruction, i.argument = argument → i'.argument = argument' →
      i.arguments = i'.arguments)
    (hstage : NamesStage argument ↔ NamesStage argument') (before after : List Text) :
    CopiesAlike (before ++ copyLine token argument :: after)
      (before ++ copyLine token argument' :: after) := by
  apply copiesAlike_of_saysSame
  rw [ofLines_around (h.significantAt ha), ofLines_around (h.significantAt ha')]
  generalize ownerAfter (ofLines before).instructions = owner
  have hreading : ∀ number, SaysSame (reading owner number (copyLine token argument))
      (reading owner number (copyLine token argument')) := by
    intro number
    cases owner with
    | some first =>
      -- a line that continues another is no copy
      exact ⟨rfl, rfl, nofun, nofun⟩
    | none =>
      unfold reading
      rw [h.directive_eq ha, h.directive_eq ha']
      refine ⟨rfl, rfl, fun _ => hsame _ _ rfl rfl, fun _ => ?_⟩
      rw [Bool.eq_iff_iff, Instruction.readsContext_iff, Instruction.readsContext_iff]
      exact not_congr hstage
  have hnext : ∀ number, nextOwner owner number (copyLine token argument) =
      nextOwner owner number (copyLine token argument') := by
    intro number
    unfold nextOwner copyLine
    rw [isOpen_append _ ha.nonempty, isOpen_append _ ha'.nonempty, hopen]
  rw [hnext]
  refine List.rel_append (List.forall₂_same.mpr fun i _ => .refl i) (.cons (hreading _) ?_)
  exact List.forall₂_same.mpr fun i _ => .refl i

end OpensCopy

/-! ## A line that does not go on -/

namespace BuildScript

/-- What a line continues had been opened before, or is one of the lines that
were read. -/
theorem owner_of_continues {owner : Option Nat} {significant : List (Nat × Text)}
    {i : Instruction} {n : Nat} (h : i ∈ instructionsFrom owner significant)
    (hc : i.continues = some n) : owner = some n ∨ n ∈ significant.map Prod.fst := by
  induction significant generalizing owner with
  | nil => cases h
  | cons first rest ih =>
    obtain ⟨number, line⟩ := first
    rw [instructionsFrom_cons, List.mem_cons] at h
    rcases h with rfl | h
    · rw [reading_continues] at hc
      exact .inl hc
    · rcases ih h with hnext | hmem
      · unfold nextOwner at hnext
        split at hnext
        · cases owner with
          | none => simp_all
          | some first => exact .inl hnext
        · cases hnext
      · exact .inr (List.mem_cons_of_mem _ hmem)

/-- No line continues a first line that does not go on. -/
theorem continuationsOf_first {line text : Text}
    (h : ∀ number, significantAt number line = some text) (hclosed : isOpen text = false)
    (more : List Text) {i : Instruction} (hi : i.line = 1) :
    (ofLines (line :: more)).continuationsOf i = [] := by
  have hread : (ofLines (line :: more)).instructions =
      reading none 1 text ::
        instructionsFrom (nextOwner none 1 text) ((more.zipIdx 2).filterMap readAt) :=
    ofLines_around h [] more
  have hnext : nextOwner none 1 text = none := by
    unfold nextOwner
    rw [if_neg (by simp [hclosed])]
  unfold continuationsOf
  rw [List.filter_eq_nil_iff]
  intro j hj hcontinues
  rw [hi, beq_iff_eq] at hcontinues
  rw [hread, hnext, List.mem_cons] at hj
  rcases hj with rfl | hj
  · rw [reading_continues] at hcontinues
    cases hcontinues
  · rcases owner_of_continues hj hcontinues with howner | hmem
    · cases howner
    · -- the lines below have greater numbers
      obtain ⟨⟨number, text⟩, hfound, rfl⟩ := List.mem_map.mp hmem
      obtain ⟨⟨line, place⟩, hentry, hreadAt⟩ := List.mem_filterMap.mp hfound
      have hnumber := readAt_number hreadAt
      have hplace := (List.mem_zipIdx_iff_le_and_getElem?_sub.mp hentry).1
      dsimp only at hnumber hplace
      omega

end BuildScript

/-! ## Brackets -/

/-- The texts as an array of strings in brackets. -/
def inBrackets (items : List Text) : Text := Json.renderLine (.arr (items.map .str))

theorem exists_inBrackets (items : List Text) :
    ∃ middle, inBrackets items = '[' :: (middle ++ [']']) := by
  unfold inBrackets Json.renderLine
  cases items with
  | nil => exact ⟨[], by rw [List.map_nil, Json.renderAt]; rfl⟩
  | cons item items =>
    rw [List.map_cons, Json.renderAt]
    exact ⟨_, rfl⟩

theorem bare_inBrackets (items : List Text) : Text.Bare (inBrackets items) := by
  obtain ⟨middle, heq⟩ := exists_inBrackets items
  rw [heq]
  refine ⟨by simp, ?_, ?_⟩
  · intro c hc
    cases hc
    rfl
  · intro c hc
    rw [← List.cons_append, List.getLast?_concat] at hc
    cases hc
    rfl

theorem isOpen_inBrackets (items : List Text) : isOpen (inBrackets items) = false := by
  obtain ⟨middle, heq⟩ := exists_inBrackets items
  rw [heq, ← List.cons_append, isOpen_append _ (by simp)]
  rfl

/-- Only an array of strings has texts. -/
theorem asTexts?_eq_some_iff {value : Json} {items : List Text} :
    Json.asTexts? value = some items ↔ value = .arr (items.map .str) := by
  have heach : ∀ {item : Json} {text : Text}, Json.asText? item = some text ↔ item = .str text := by
    intro item text
    cases item <;> simp [Json.asText?]
  cases value with
  | arr values =>
    rw [Json.asTexts?, Json.arr.injEq]
    induction values generalizing items with
    | nil => cases items <;> simp
    | cons first rest ih => cases items <;> simp [Option.bind_eq_some_iff, heach, ih]
  | _ => simp [Json.asTexts?]

/-- An array of strings is read back item by item. -/
theorem bracketed?_inBrackets [Characters] (items : List Text) :
    Instruction.bracketed? (inBrackets items) = some items := by
  have hblank : ∀ depth, (Json.oneLine depth).Blank := fun _ =>
    ⟨by simp [Json.oneLine], by simp [Json.oneLine, Json.isSpace], by simp [Json.oneLine]⟩
  have hplain : Json.Plain (.arr (items.map .str)) := by
    refine .arr fun item hitem => ?_
    obtain ⟨text, _, rfl⟩ := List.mem_map.mp hitem
    exact .str text
  have hparse : Json.parse? (inBrackets items) = some (.arr (items.map .str)) := by
    have hnone : ∀ c ∈ ([] : Text), Json.isSpace c = true := by simp
    have hread := Json.parse?_renderAt hblank hplain hnone
    rwa [List.append_nil] at hread
  have hstart : Text.startsWith (inBrackets items) "[" = true := by
    obtain ⟨middle, heq⟩ := exists_inBrackets items
    rw [heq]
    rfl
  unfold Instruction.bracketed?
  rw [if_pos hstart, hparse]
  exact asTexts?_eq_some_iff.mpr rfl

theorem arguments_inBrackets [Characters] {items : List Text} {i : Instruction}
    (h : i.argument = inBrackets items) : i.arguments = items := by
  apply Instruction.arguments_of_bracketed?_eq_some
  rw [h, (bare_inBrackets items).strip_eq]
  exact bracketed?_inBrackets items

/-! ## Words -/

/-- The words may be the arguments of a copy as they stand: none of them is an
option, the first opens no bracket, and the line does not go on. -/
structure CopyWords (words : List Text) : Prop where
  nonempty : words ≠ []
  word : ∀ word ∈ words, IsWord word
  unflagged : ∀ word ∈ words, Instruction.isFlag word = false
  unbracketed : ∀ word ∈ words.head?, word.head? ≠ some '['
  closed : ∀ word ∈ words.getLast?, isOpen word = false

instance (words : List Text) : Decidable (CopyWords words) :=
  decidable_of_iff (_ ∧ _ ∧ _ ∧ _ ∧ _) ⟨fun ⟨h₁, h₂, h₃, h₄, h₅⟩ => ⟨h₁, h₂, h₃, h₄, h₅⟩,
    fun h => ⟨h.nonempty, h.word, h.unflagged, h.unbracketed, h.closed⟩⟩

/-- The words with a blank between them. -/
def inWords (words : List Text) : Text := Text.joinWith [' '] words

namespace CopyWords

variable {words : List Text} (h : CopyWords words)
include h

theorem bare : Text.Bare (inWords words) :=
  Text.bare_joinWith [' '] h.nonempty fun word hword => (h.word word hword).bare

theorem isOpen_eq : isOpen (inWords words) = false := by
  obtain ⟨front, last, rfl⟩ := (List.eq_nil_or_concat' words).resolve_left h.nonempty
  obtain ⟨before, heq⟩ := Text.exists_joinWith_concat [' '] front last
  have hlast : last ≠ [] := (h.word last (by simp)).1
  unfold inWords
  rw [heq, isOpen_append _ hlast]
  exact h.closed last (by simp)

/-- The words are read back as they are. -/
theorem arguments_eq [Characters] {i : Instruction} (hi : i.argument = inWords words) :
    i.arguments = words := by
  have hshell : Instruction.bracketed? (Text.strip i.argument) = none := by
    rw [hi, h.bare.strip_eq]
    apply Instruction.bracketed?_eq_none
    obtain ⟨first, rest, rfl⟩ := List.exists_cons_of_ne_nil h.nonempty
    unfold inWords
    rw [Text.head?_joinWith _ (h.word first (by simp)).1]
    exact h.unbracketed first (by simp)
  rw [Instruction.arguments_of_bracketed?_eq_none hshell, hi, inWords, Text.words_joinWith,
    Text.flatMap_words h.word]
  exact Instruction.filter_isFlag_eq_self h.unflagged

end CopyWords

theorem namesStage_inWords_iff [Characters] (words : List Text) :
    NamesStage (inWords words) ↔ NamesStage (inBrackets words) :=
  (namesStage_joinWith words).trans (namesStage_renderLine words).symm

/-! ## The law -/

/-- Any texts at all, written in brackets after the word for a copy, make up one
instruction of that kind. It gives back the texts as its arguments, continues
nothing, and is not continued by the lines below it. Texts that are words, none
of them an option, are also read back from a line with blanks between them, when
the first opens no bracket and the last does not end with a backslash: both
lines have the same arguments and sources, and in every script the checks of
copies find the same for both. -/
theorem copies_say_the_same_in_words_and_in_brackets [Characters] {token : Text}
    (h : OpensCopy token) :
    (∀ items, ∃ i, (ofLines [copyLine token (inBrackets items)]).instructions = [i] ∧
      i.keyword = Keyword.ofToken token ∧ i.arguments = items ∧ i.continues = none ∧
      ∀ more, (ofLines (copyLine token (inBrackets items) :: more)).continuationsOf i = []) ∧
    ∀ words, CopyWords words → ∃ i j,
      (ofLines [copyLine token (inWords words)]).instructions = [i] ∧
      (ofLines [copyLine token (inBrackets words)]).instructions = [j] ∧
      i.keyword = Keyword.ofToken token ∧ j.keyword = Keyword.ofToken token ∧
      i.arguments = words ∧ j.arguments = words ∧ i.sources = j.sources ∧
      ∀ before after, CopiesAlike (before ++ copyLine token (inWords words) :: after)
        (before ++ copyLine token (inBrackets words) :: after) := by
  constructor
  · intro items
    have hbare := bare_inBrackets items
    refine ⟨_, h.ofLines_eq hbare, rfl, arguments_inBrackets rfl, rfl, fun more => ?_⟩
    apply continuationsOf_first (h.significantAt hbare)
    · unfold copyLine
      rw [isOpen_append _ hbare.nonempty]
      exact isOpen_inBrackets items
    · rfl
  · intro words hwords
    have hbare := bare_inBrackets words
    have hsame : ∀ i j : Instruction, i.argument = inWords words →
        j.argument = inBrackets words → i.arguments = j.arguments := by
      intro i j hi hj
      rw [hwords.arguments_eq hi, arguments_inBrackets hj]
    refine ⟨_, _, h.ofLines_eq hwords.bare, h.ofLines_eq hbare, rfl, rfl,
      hwords.arguments_eq rfl, arguments_inBrackets rfl, ?_, ?_⟩
    · unfold Instruction.sources
      rw [hwords.arguments_eq rfl, arguments_inBrackets rfl]
    · apply h.copiesAlike hwords.bare hbare
      · rw [hwords.isOpen_eq, isOpen_inBrackets]
      · exact hsame
      · exact namesStage_inWords_iff words

open scoped Characters

/-- An item with a blank and a quote, one that looks like an option, and one that
ends with a backslash; and words that add a download. -/
theorem an_addition_in_brackets_is_read_back :
    copyLine "ADD".toList (inBrackets ["a \"b\"", "--c", "d\\"]) =
      "ADD [\"a \\\"b\\\"\", \"--c\", \"d\\\\\"]".toList ∧
    (∃ i, (ofLines ["ADD [\"a \\\"b\\\"\", \"--c\", \"d\\\\\"]".toList]).instructions = [i] ∧
      i.keyword = .add ∧ i.arguments = ["a \"b\"".toList, "--c".toList, "d\\".toList]) ∧
    ∀ before after, CopiesAlike (before ++ "ADD http://a b".toList :: after)
      (before ++ "ADD [\"http://a\", \"b\"]".toList :: after) := by
  have hopens : OpensCopy "ADD".toList := by decide
  obtain ⟨hback, hwords⟩ := copies_say_the_same_in_words_and_in_brackets hopens
  refine ⟨by decide, ?_, ?_⟩
  · obtain ⟨i, hread, hkind, hitems, _⟩ := hback ["a \"b\"", "--c", "d\\"]
    exact ⟨i, hread, hkind, hitems⟩
  · obtain ⟨_, _, _, _, _, _, _, _, _, halike⟩ := hwords ["http://a", "b"] (by decide)
    exact halike

end ImageLint
