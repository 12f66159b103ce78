-- A line that names a base image gives back what it was built from: options
-- are passed over, the port of a registry is not taken for a tag, a digest goes
-- before a tag, and the name of the stage comes last.
import ImageLint.ImageReference
import ImageLint.Proofs.Arguments
import ImageLint.Proofs.Layout
import ImageLint.Text.Names

namespace ImageLint

open BuildScript (IsWord ofLines)

/-! ## Cuts -/

namespace Text

theorem cutAt_eq_none {c : Char} {s : Text} (h : c ∉ s) : cutAt c s = none := by
  have hall : s.dropWhile (· != c) = [] := by
    rw [List.dropWhile_eq_nil_iff]
    intro d hd
    simpa using fun hdc : d = c => h (hdc ▸ hd)
  unfold cutAt
  rw [hall]

theorem cutAt_append_cons {c : Char} {s : Text} (h : c ∉ s) (t : Text) :
    cutAt c (s ++ c :: t) = some (s, t) := by
  have hbefore : ∀ d ∈ s, (d != c) = true := by
    intro d hd
    simpa using fun hdc : d = c => h (hdc ▸ hd)
  unfold cutAt
  rw [List.dropWhile_append_of_pos hbefore, List.takeWhile_append_of_pos hbefore]
  simp

/-- What is added without the character stays behind the last one. -/
theorem afterLast_append {c : Char} {t : Text} (h : c ∉ t) (s : Text) :
    afterLast c (s ++ t) = afterLast c s ++ t := by
  have hafter : ∀ d ∈ t.reverse, (d != c) = true := by
    intro d hd
    simpa using fun hdc : d = c => h (hdc ▸ List.mem_reverse.mp hd)
  unfold afterLast
  rw [List.reverse_append, List.takeWhile_append_of_pos hafter, List.reverse_append,
    List.reverse_reverse]

/-! ## The word before the name of a stage -/

theorem eq_or_small_of_toUpper {c d : Char} (h : c.toUpper = d) :
    c = d ∨ c.toNat = d.toNat + 32 := by
  rcases toUpper_cases c with hsame | ⟨hlow, _, hupper⟩
  · exact .inl (hsame.symm.trans h)
  · rw [h] at hupper
    exact .inr (by omega)

/-- The word in any letter case. -/
theorem mem_of_sameLetters_as {word : Text} (h : SameLetters "AS" word) :
    word ∈ (["AS", "As", "aS", "as"] : List Text) := by
  have hchar : ∀ {c d : Char}, c.toNat = d.toNat → c = d := fun heq =>
    Char.toNat_inj.mp heq
  obtain ⟨a, b, rfl, ha, hb⟩ : ∃ a b, word = [a, b] ∧ a.toUpper = 'A' ∧ b.toUpper = 'S' := by
    unfold SameLetters at h
    rcases word with _ | ⟨a, _ | ⟨b, _ | ⟨c, rest⟩⟩⟩ <;> simp at h
    exact ⟨a, b, rfl, h.1.symm, h.2.symm⟩
  rcases eq_or_small_of_toUpper ha with rfl | ha
  · rcases eq_or_small_of_toUpper hb with rfl | hb
    · decide
    · rw [hchar (d := 's') hb]
      decide
  · rw [hchar (d := 'a') ha]
    rcases eq_or_small_of_toUpper hb with rfl | hb
    · decide
    · rw [hchar (d := 's') hb]
      decide

instance (s t : Text) : Decidable (SameLetters s t) :=
  inferInstanceAs (Decidable (s.map Char.toUpper = t.map Char.toUpper))

end Text

/-- A word that is no option does not become one by what stands behind it,
unless that starts with a dash. -/
theorem Instruction.not_isFlag_append {word rest : Text} (hne : word ≠ [])
    (hword : isFlag word = false) (hrest : rest.head? ≠ some '-') :
    isFlag (word ++ rest) = false := by
  unfold isFlag Text.startsWith at *
  rcases word with _ | ⟨c, _ | ⟨d, more⟩⟩
  · exact absurd rfl hne
  · cases rest with
    | nil => exact hword
    | cons e rest =>
      have hdash : '-' ≠ e := fun heq => hrest (by rw [heq]; rfl)
      simp [List.isPrefixOf, hdash]
  · simpa [List.isPrefixOf] using hword

/-! ## Lines that name a base image -/

/-- What a line that names a base image is built from. -/
structure BaseLine where
  flags : List Text := []
  /-- The name of the image, with the host and port of a registry before it. -/
  repository : Text
  tag : Option Text := none
  digest : Option Text := none
  /-- The word that introduces the name of the stage, and the name. -/
  stage : Option (Text × Text) := none
  flags_ok : ∀ flag ∈ flags, IsWord flag ∧ Instruction.isFlag flag = true := by decide
  repository_word : IsWord repository := by decide
  repository_unflagged : Instruction.isFlag repository = false := by decide
  repository_unbracketed : repository.head? ≠ some '[' := by decide
  repository_undigested : '@' ∉ repository := by decide
  /-- The last component has no colon, though a host before it may have one. -/
  repository_untagged : ':' ∉ Text.afterLast '/' repository := by decide
  tag_ok : ∀ text ∈ tag, IsWord text ∧ '/' ∉ text ∧ '@' ∉ text := by decide
  digest_ok : ∀ text ∈ digest, IsWord text := by decide
  stage_ok : ∀ part ∈ stage, Text.SameLetters "AS" part.1 ∧ IsWord part.2 ∧
    Instruction.isFlag part.2 = false := by decide

namespace BaseLine

/-- A part that may be missing, with the mark that stands before it. -/
def marked (mark : Char) : Option Text → Text
  | none => []
  | some text => mark :: text

/-- The image as it is named in the line. -/
def reference (line : BaseLine) : Text :=
  line.repository ++ marked ':' line.tag ++ marked '@' line.digest

/-- The words that name the stage. -/
def stageWords (line : BaseLine) : List Text :=
  match line.stage with
  | none => []
  | some (word, name) => [word, name]

/-- The line as it is written. -/
def text (line : BaseLine) : Text :=
  Text.joinWith [' '] ("FROM" :: (line.flags ++ line.reference :: line.stageWords))

variable (line : BaseLine)

/-! ## The image -/

theorem isWord_reference : IsWord line.reference := by
  have hmarked : ∀ {mark : Char} {part : Option Text}, Text.isBlank mark = false →
      (∀ text ∈ part, IsWord text) → ∀ c ∈ marked mark part, Text.isBlank c = false := by
    intro mark part hmark hpart c hc
    cases part with
    | none => simp [marked] at hc
    | some text =>
      rcases List.mem_cons.mp hc with rfl | hc
      · exact hmark
      · exact (hpart text rfl).2 c hc
  constructor
  · simp [reference, line.repository_word.1]
  · intro c hc
    rcases List.mem_append.mp hc with hc | hc
    · rcases List.mem_append.mp hc with hc | hc
      · exact line.repository_word.2 c hc
      · exact hmarked (by decide) (fun text ht => (line.tag_ok text ht).1) c hc
    · exact hmarked (by decide) line.digest_ok c hc

/-- The mark of a tag or a digest does not make a flag of the name before it. -/
theorem not_isFlag_reference : Instruction.isFlag line.reference = false := by
  unfold reference
  rw [List.append_assoc]
  apply Instruction.not_isFlag_append line.repository_word.1 line.repository_unflagged
  cases line.tag <;> cases line.digest <;> simp [marked]

theorem tag?_reference : ImageReference.tag? line.reference = line.digest.or line.tag := by
  have hundigested : '@' ∉ line.repository ++ marked ':' line.tag := by
    have hname := line.repository_undigested
    cases htag : line.tag with
    | none => simpa [marked] using hname
    | some text =>
      have htext := (line.tag_ok text htag).2.2
      simp [marked, hname, htext]
  unfold ImageReference.tag? reference
  cases line.digest with
  | some digest => rw [marked, Text.cutAt_append_cons hundigested, Option.some_or]
  | none =>
    rw [marked, List.append_nil, Text.cutAt_eq_none hundigested, Option.none_or]
    -- No slash comes after the name, so the tag is cut from its last component.
    cases htag : line.tag with
    | none =>
      rw [marked, List.append_nil, Text.cutAt_eq_none line.repository_untagged]
      rfl
    | some text =>
      have hslash : '/' ∉ ':' :: text := by simp [(line.tag_ok text htag).2.1]
      rw [marked, Text.afterLast_append hslash, Text.cutAt_append_cons line.repository_untagged]
      rfl

/-! ## The stage -/

/-- The word that introduces the name of a stage, in any letter case, is no
option, and small letters make `as` of it. -/
theorem introduces_of_sameLetters {word : Text} (h : Text.SameLetters "AS" word) :
    IsWord word ∧ Instruction.isFlag word = false ∧ lower word = "as".toList := by
  have hall : ∀ word ∈ (["AS", "As", "aS", "as"] : List Text),
      IsWord word ∧ Instruction.isFlag word = false ∧ lower word = "as".toList := by
    decide
  exact hall word (Text.mem_of_sameLetters_as h)

theorem stageWords_ok :
    ∀ word ∈ line.stageWords, IsWord word ∧ Instruction.isFlag word = false := by
  intro word hword
  unfold stageWords at hword
  cases hstage : line.stage with
  | none => simp [hstage] at hword
  | some part =>
    obtain ⟨hsame, hname⟩ := line.stage_ok part hstage
    obtain ⟨hintroduces, hunflagged, _⟩ := introduces_of_sameLetters hsame
    simp only [hstage, List.mem_cons, List.not_mem_nil, or_false] at hword
    rcases hword with rfl | rfl
    · exact ⟨hintroduces, hunflagged⟩
    · exact hname

/-! ## The line -/

/-- What follows the opening word. -/
def argument : Text := Text.joinWith [' '] (line.flags ++ line.reference :: line.stageWords)

theorem text_eq : line.text = "FROM".toList ++ [' '] ++ line.argument := by
  unfold text argument Text.joinWith
  cases line.flags with
  | nil => rw [List.nil_append, List.intercalate_cons_cons]
  | cons flag flags => rw [List.cons_append, List.intercalate_cons_cons]

theorem isWord_of_mem_argument :
    ∀ word ∈ line.flags ++ line.reference :: line.stageWords, IsWord word := by
  intro word hword
  rcases List.mem_append.mp hword with hword | hword
  · exact (line.flags_ok word hword).1
  · rcases List.mem_cons.mp hword with rfl | hword
    · exact line.isWord_reference
    · exact (line.stageWords_ok word hword).1

theorem bare_argument : Text.Bare line.argument := by
  apply Text.bare_joinWith
  · simp
  · intro word hword
    exact (line.isWord_of_mem_argument word hword).bare

/-- The argument starts with an option or with the name of the image, and so
with no bracket. -/
theorem head?_argument [Characters] : line.argument.head? ≠ some '[' := by
  unfold argument
  cases hflags : line.flags with
  | nil =>
    rw [List.nil_append, Text.head?_joinWith _ line.isWord_reference.1]
    unfold reference
    rw [List.append_assoc, List.head?_append_of_ne_nil _ line.repository_word.1]
    exact line.repository_unbracketed
  | cons flag flags =>
    obtain ⟨hword, hflag⟩ := line.flags_ok flag (by simp [hflags])
    rw [List.cons_append, Text.head?_joinWith _ hword.1, Instruction.head?_of_isFlag hflag]
    decide

/-- The arguments are the image and the words that name the stage. -/
theorem arguments_eq [Characters] {i : Instruction} (h : i.argument = line.argument) :
    i.arguments = line.reference :: line.stageWords := by
  have hshell : Instruction.bracketed? (Text.strip i.argument) = none := by
    rw [h, line.bare_argument.strip_eq]
    exact Instruction.bracketed?_eq_none line.head?_argument
  rw [Instruction.arguments_of_bracketed?_eq_none hshell, h, argument, Text.words_joinWith,
    Text.flatMap_words line.isWord_of_mem_argument, List.filter_append,
    Instruction.filter_isFlag_eq_nil fun flag hflag => (line.flags_ok flag hflag).2,
    List.nil_append]
  apply Instruction.filter_isFlag_eq_self
  intro word hword
  rcases List.mem_cons.mp hword with rfl | hword
  · exact line.not_isFlag_reference
  · exact (line.stageWords_ok word hword).2

theorem stageName?_eq [Characters] {i : Instruction} (h : i.argument = line.argument) :
    i.stageName? = line.stage.map Prod.snd := by
  unfold Instruction.stageName?
  rw [line.arguments_eq h, stageWords]
  cases hstage : line.stage with
  | none => rfl
  | some part =>
    obtain ⟨_, _, hlower⟩ := introduces_of_sameLetters (line.stage_ok part hstage).1
    simp [hlower]

end BaseLine

/-! ## The law -/

/-- A line that is built from options, the name of an image with a tag and a
digest that may be missing, and the name of a stage that may be missing, is
read as one instruction for a base image. Its reference is the whole name, its
tag is the digest or else the tag, and its stage is the one named. -/
theorem base_image_lines_give_back_their_parts [Characters] (line : BaseLine) :
    ∃ i, (ofLines [line.text]).instructions = [i] ∧ i.keyword = .baseImage ∧
      i.imageReference = line.reference ∧
      ImageReference.tag? i.imageReference = line.digest.or line.tag ∧
      i.stageName? = line.stage.map Prod.snd := by
  have hword : IsWord "FROM".toList := by decide
  have hread := BuildScript.ofLines_opened hword rfl (by decide) line.bare_argument
  rw [← line.text_eq] at hread
  refine ⟨_, hread, rfl, ?_⟩
  have hreference : ∀ i : Instruction, i.argument = line.argument →
      i.imageReference = line.reference := by
    intro i hi
    unfold Instruction.imageReference
    rw [line.arguments_eq hi]
    rfl
  rw [hreference _ rfl]
  exact ⟨rfl, line.tag?_reference, line.stageName?_eq rfl⟩

/-- A registry with a port, a tag with a colon of its own, a digest, and a stage
that ends with a backslash. -/
def registryLine : BaseLine where
  flags := ["--platform=linux/amd64"]
  repository := "host:5000/team/app"
  tag := some "1.2:3".toList
  digest := some "sha256:ab/c@d".toList
  stage := some ("aS".toList, "build\\".toList)

open scoped Characters

theorem a_registry_line_gives_back_its_parts :
    registryLine.text =
      "FROM --platform=linux/amd64 host:5000/team/app:1.2:3@sha256:ab/c@d aS build\\".toList ∧
    ∃ i, (ofLines [registryLine.text]).instructions = [i] ∧ i.keyword = .baseImage ∧
      i.imageReference = "host:5000/team/app:1.2:3@sha256:ab/c@d".toList ∧
      ImageReference.tag? i.imageReference = some "sha256:ab/c@d".toList ∧
      i.stageName? = some "build\\".toList :=
  ⟨by decide, base_image_lines_give_back_their_parts registryLine⟩

end ImageLint
