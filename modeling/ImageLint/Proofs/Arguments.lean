-- The arguments of an instruction. Outside brackets they are the words of its
-- text that are no options, so blanks around the words and between them do not
-- count; and a line of its own becomes one instruction with that text.
import ImageLint.Proofs.Composition
import ImageLint.Proofs.Folding
import ImageLint.Proofs.Lines

namespace ImageLint

namespace Text

open BuildScript (IsWord)

/-! ## Words -/

/-- A blank stands between words and belongs to none. -/
theorem words_append_cons {c : Char} (hc : isBlank c = true) (s t : Text) :
    words (s ++ c :: t) = words s ++ words t := by
  unfold words
  rw [splitWhere_append_cons hc, List.filter_append]

theorem words_of_isWord {word : Text} (h : IsWord word) : words word = [word] := by
  unfold words
  rw [splitWhere_eq_singleton h.2]
  simp [h.1]

theorem words_of_blanks {blanks : Text} (h : ∀ c ∈ blanks, isBlank c = true) :
    words blanks = [] := by
  induction blanks with
  | nil => rfl
  | cons c rest ih =>
    rw [List.forall_mem_cons] at h
    exact (words_append_cons h.1 [] rest).trans (ih h.2)

theorem words_blanks_append {blanks : Text} (h : ∀ c ∈ blanks, isBlank c = true) (s : Text) :
    words (blanks ++ s) = words s := by
  induction blanks with
  | nil => rfl
  | cons c rest ih =>
    rw [List.forall_mem_cons] at h
    exact (words_append_cons h.1 [] (rest ++ s)).trans (ih h.2)

theorem words_append_blanks {blanks : Text} (h : ∀ c ∈ blanks, isBlank c = true) (s : Text) :
    words (s ++ blanks) = words s := by
  cases blanks with
  | nil => rw [List.append_nil]
  | cons c rest =>
    rw [List.forall_mem_cons] at h
    rw [words_append_cons h.1, words_of_blanks h.2, List.append_nil]

/-- Blanks at the ends of a text are not seen in its words. -/
theorem words_strip (s : Text) : words (strip s) = words s := by
  have hstart : words (stripStart s) = words s := by
    conv_rhs => rw [← List.takeWhile_append_dropWhile (p := isBlank) (l := s)]
    exact (words_blanks_append (fun c hc => List.mem_takeWhile_imp hc) _).symm
  have hend : ∀ t : Text, words (stripEnd t) = words t := by
    intro t
    conv_rhs => rw [← List.rdropWhile_append_rtakeWhile (p := isBlank) (l := t)]
    exact (words_append_blanks (fun c hc => List.mem_rtakeWhile_imp hc) _).symm
  rw [strip, hend, hstart]

/-- A join starts as its first piece does. -/
theorem head?_joinWith (separator : Text) {first : Text} (h : first ≠ []) (rest : List Text) :
    (joinWith separator (first :: rest)).head? = first.head? := by
  unfold joinWith
  cases rest with
  | nil => rw [List.intercalate_singleton]
  | cons second rest =>
    rw [List.intercalate_cons_cons, List.append_assoc, List.head?_append_of_ne_nil _ h]

/-- The words of texts that are joined by blanks are those of each text. -/
theorem words_joinWith (pieces : List Text) :
    words (joinWith [' '] pieces) = pieces.flatMap words := by
  refine flatMap_of_joinWith rfl (fun s t => ?_) pieces
  rw [List.append_assoc, List.singleton_append, words_append_cons (by rfl)]

theorem flatMap_words {pieces : List Text} (h : ∀ piece ∈ pieces, IsWord piece) :
    pieces.flatMap words = pieces :=
  flatMap_eq_self fun piece hpiece => words_of_isWord (h piece hpiece)

/-! ## What stands before a word -/

/-- The first piece starts the text. -/
theorem prefix_of_splitWhere_eq {p : Char → Bool} {s piece : Text} {pieces : List Text}
    (h : splitWhere p s = piece :: pieces) : piece <+: s := by
  induction s generalizing piece pieces with
  | nil =>
    cases h
    exact List.nil_prefix
  | cons c rest ih =>
    by_cases hc : p c = true
    · rw [splitWhere_cons_of_pos hc] at h
      cases h
      exact List.nil_prefix
    · obtain ⟨first, more, hrest, hcons⟩ := exists_splitWhere_cons hc rest
      rw [hcons] at h
      cases h
      exact List.cons_prefix_cons.mpr ⟨rfl, ih hrest⟩

/-- Every piece but the first follows a character that was cut out. -/
theorem exists_before_piece {p : Char → Bool} {s piece : Text}
    (h : piece ∈ (splitWhere p s).tail) : ∃ c, p c = true ∧ c :: piece <:+: s := by
  induction s with
  | nil => cases h
  | cons c rest ih =>
    have hlater : piece ∈ (splitWhere p rest).tail →
        ∃ d, p d = true ∧ d :: piece <:+: c :: rest := by
      intro hmem
      obtain ⟨d, hd, hpart⟩ := ih hmem
      exact ⟨d, hd, List.infix_cons hpart⟩
    by_cases hc : p c = true
    · obtain ⟨first, more, hrest⟩ := List.exists_cons_of_ne_nil (splitWhere_ne_nil p rest)
      rw [splitWhere_cons_of_pos hc, List.tail_cons, hrest] at h
      rcases List.mem_cons.mp h with rfl | hmem
      · have hstart := prefix_of_splitWhere_eq hrest
        exact ⟨c, hc, (List.cons_prefix_cons.mpr ⟨rfl, hstart⟩).isInfix⟩
      · apply hlater
        rw [hrest]
        exact hmem
    · obtain ⟨first, more, hrest, hcons⟩ := exists_splitWhere_cons hc rest
      apply hlater
      rw [hcons] at h
      rw [hrest]
      exact h

theorem flatten_splitWhere (p : Char → Bool) (s : Text) :
    (splitWhere p s).flatten = s.filter (!p ·) := by
  induction s with
  | nil => rfl
  | cons c rest ih =>
    by_cases hc : p c = true
    · rw [splitWhere_cons_of_pos hc]
      simp [hc, ih]
    · obtain ⟨first, more, hrest, hcons⟩ := exists_splitWhere_cons hc rest
      rw [hrest] at ih
      rw [hcons]
      simp [hc, ← ih]

theorem isWord_of_mem_words {s word : Text} (h : word ∈ words s) : IsWord word := by
  obtain ⟨hmem, hne⟩ := List.mem_filter.mp h
  exact ⟨by simpa using hne, mem_splitWhere hmem⟩

/-- The words hold every character but the blanks. -/
theorem flatten_words (s : Text) : (words s).flatten = s.filter (!isBlank ·) := by
  unfold words
  rw [List.flatten_filter_not_isEmpty, flatten_splitWhere]

/-- A word follows a blank, if one is put in front of the text. -/
theorem exists_before_word {s word : Text} (h : word ∈ words s) :
    ∃ c, isBlank c = true ∧ c :: word <:+: ' ' :: s :=
  exists_before_piece (List.mem_of_mem_filter h)

end Text

namespace Instruction

/-! ## The arguments -/

/-- What starts with no bracket is not in the bracketed form. -/
theorem bracketed?_eq_none [Characters] {argument : Text} (h : argument.head? ≠ some '[') :
    bracketed? argument = none := by
  unfold bracketed?
  rw [if_neg]
  cases argument with
  | nil => simp [Text.startsWith]
  | cons c rest =>
    simp only [Text.startsWith]
    intro hstart
    simp at hstart h
    exact h hstart.symm

/-- The arguments are read off the text alone. -/
theorem arguments_congr [Characters] {i i' : Instruction} (h : i.argument = i'.argument) :
    i.arguments = i'.arguments := by
  unfold arguments
  rw [h]

/-- Outside brackets the arguments are the words that are no options. -/
theorem arguments_of_bracketed?_eq_none [Characters] {i : Instruction}
    (h : bracketed? (Text.strip i.argument) = none) :
    i.arguments = (Text.words i.argument).filter (!isFlag ·) := by
  unfold arguments
  dsimp only
  rw [h, Text.words_strip]

/-- Inside brackets the arguments are the items. -/
theorem arguments_of_bracketed?_eq_some [Characters] {i : Instruction} {items : List Text}
    (h : bracketed? (Text.strip i.argument) = some items) : i.arguments = items := by
  unfold arguments
  dsimp only
  rw [h]

theorem head?_of_isFlag {word : Text} (h : isFlag word = true) : word.head? = some '-' := by
  obtain ⟨rest, rfl⟩ := List.isPrefixOf_iff_prefix.mp h
  rfl

theorem filter_isFlag_eq_nil {flags : List Text} (h : ∀ flag ∈ flags, isFlag flag = true) :
    flags.filter (!isFlag ·) = [] := by
  rw [List.filter_eq_nil_iff]
  intro flag hflag
  simp [h flag hflag]

theorem filter_isFlag_eq_self {words : List Text} (h : ∀ word ∈ words, isFlag word = false) :
    words.filter (!isFlag ·) = words := by
  rw [List.filter_eq_self]
  intro word hword
  simp [h word hword]

end Instruction

namespace BuildScript

open Text

/-! ## A line of its own -/

/-- A word that opens a kind of instruction leaves what follows as its argument. -/
theorem opened_eq {token : Text} {kind : Keyword} (hkind : Keyword.ofToken token = kind)
    (hknown : kind ≠ .unknown) (number : Nat) (argument line : Text) :
    opened number token argument line =
      { keyword := kind, argument := argument, line := number, raw := line } := by
  unfold opened
  rw [hkind, if_neg (by simp [hknown])]

/-- A directive is significant as it is written, on the first line too. -/
theorem significantAt_opened {token argument : Text} (ht : IsWord token)
    (hknown : Keyword.ofToken token ≠ .unknown) (ha : Bare argument) (number : Nat) :
    significantAt number (token ++ [' '] ++ argument) = some (token ++ [' '] ++ argument) := by
  have hbare : Bare (token ++ [' '] ++ argument) := ht.bare.around [' '] ha
  have hhead : (token ++ [' '] ++ argument).head? = token.head? := by
    rw [List.append_assoc, List.head?_append_of_ne_nil _ ht.1]
  have hhash : token.head? ≠ some '#' := by
    intro hhash
    obtain ⟨rest, rfl⟩ := List.head?_eq_some_iff.mp hhash
    exact hknown rfl
  have hmark : token.head? ≠ some byteOrderMark := by
    intro hmark
    obtain ⟨rest, rfl⟩ := List.head?_eq_some_iff.mp hmark
    exact hknown rfl
  rw [significantAt_of_unmarked (by rw [hhead]; exact hmark)]
  exact significant?_of_strip hbare (by rw [hhead]; exact hhash) hbare.strip_eq

/-- A line that is significant wherever it stands becomes one instruction
between those before it and those after it. -/
theorem ofLines_around {line text : Text} (h : ∀ number, significantAt number line = some text)
    (before after : List Text) :
    (ofLines (before ++ line :: after)).instructions =
      (ofLines before).instructions ++
        reading (ownerAfter (ofLines before).instructions) (1 + before.length) text ::
          instructionsFrom
            (nextOwner (ownerAfter (ofLines before).instructions) (1 + before.length) text)
            ((after.zipIdx (1 + before.length + 1)).filterMap readAt) := by
  have hread : readAt (line, 1 + before.length) = some (1 + before.length, text) := by
    unfold readAt
    rw [h]
    rfl
  rw [ofLines_append, List.zipIdx_cons, List.filterMap_cons_some hread, instructionsFrom_cons]

/-- A directive that stands alone becomes one instruction. -/
theorem ofLines_opened {token argument : Text} {kind : Keyword} (ht : IsWord token)
    (hkind : Keyword.ofToken token = kind) (hknown : kind ≠ .unknown) (ha : Bare argument) :
    (ofLines [token ++ [' '] ++ argument]).instructions =
      [{ keyword := kind, argument := argument, line := 1, raw := token ++ [' '] ++ argument }] := by
  have hgap : IsGap [' '] := by decide
  have hline := ofLines_around
    (significantAt_opened ht (by rw [hkind]; exact hknown) ha) [] []
  rw [← opened_eq hkind hknown 1 argument (token ++ [' '] ++ argument),
    ← directive_parts 1 ht hgap ha]
  exact hline

end BuildScript

end ImageLint
