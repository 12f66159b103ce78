-- Options in front of the text of a copy. They leave its arguments as they were
-- when these are words. Brackets are only seen at the start of the text, so any
-- option in front of them makes the array be read as words, and never do the
-- words come out as the items.
import ImageLint.Proofs.CopyForms
import ImageLint.Proofs.JsonListings
import ImageLint.Text.Names

namespace ImageLint

open BuildScript

/-! ## Brackets behind an option -/

namespace Instruction

open Json

/-- An array of strings in brackets is empty, or its items are written one after
the other. -/
theorem exists_of_bracketed? [Characters] {argument : Text} {items : List Text}
    (h : bracketed? argument = some items) :
    ∃ blanks behind, argument = '[' :: (blanks ++ behind) ∧
      (∀ c ∈ blanks, Text.isBlank c = true) ∧
      ((items = [] ∧ ∃ after, behind = ']' :: after ∧ ∀ c ∈ after, Text.isBlank c = true) ∨
        ∃ text, behind = '"' :: text ∧ Listing items text) := by
  unfold bracketed? at h
  split at h
  · rename_i hstart
    obtain ⟨inside, rfl⟩ := List.isPrefixOf_iff_prefix.mp hstart
    obtain ⟨value, hparse, htexts⟩ := Option.bind_eq_some_iff.mp h
    obtain rfl := asTexts?_eq_some_iff.mp htexts
    obtain ⟨rest, hread, hrest⟩ := exists_rest_of_parse? hparse
    obtain ⟨blanks, hblanks, hinside⟩ := exists_skipSpaces inside
    refine ⟨blanks, skipSpaces inside, congrArg ('[' :: ·) hinside, hblanks, ?_⟩
    change readValue _ ('[' :: inside) = _ at hread
    rw [readValue] at hread
    split at hread
    · rename_i after heq
      obtain ⟨hnil, rfl⟩ : items = [] ∧ after = rest := by simpa using hread
      exact .inl ⟨hnil, after, heq, hrest⟩
    · obtain ⟨⟨values, rest'⟩, hitems, heq⟩ := Option.map_eq_some_iff.mp hread
      cases heq
      exact .inr (exists_listing hitems hrest)
  · cases h

end Instruction

/-- Whatever array of strings stands in brackets, its words are not its items. -/
theorem ne_words_of_bracketed? [Characters] {argument : Text} {items : List Text}
    (h : Instruction.bracketed? argument = some items) :
    items ≠ (Text.words argument).filter (!Instruction.isFlag ·) := by
  intro heq
  -- as words the items have no blanks
  have hitems : ∀ item ∈ items, ∀ c ∈ item, Text.isBlank c = false := by
    intro item hitem
    rw [heq] at hitem
    exact (Text.isWord_of_mem_words (List.mem_of_mem_filter hitem)).2
  obtain ⟨blanks, behind, rfl, hblanks, hbehind⟩ := Instruction.exists_of_bracketed? h
  -- so the array is written with more than the characters of its items
  have hlonger : items.flatten.length <
      (('[' :: (blanks ++ behind)).filter (!Text.isBlank ·)).length := by
    rw [List.filter_cons_of_pos (by rfl), List.length_cons, List.filter_append, List.length_append]
    rcases hbehind with ⟨rfl, _⟩ | ⟨text, rfl, hlisting⟩
    · simp
    · have hlength := hlisting.length_le hitems
      rw [List.filter_cons_of_pos (by rfl), List.length_cons]
      omega
  -- and none of its words is an option
  have hdashes : Text.BindsDashes (' ' :: '[' :: (blanks ++ behind)) := by
    have hstart : Text.BindsDashes [' '] := Text.bindsDashes_of_blanks (by simp; rfl)
    have hgap : Text.BindsDashes blanks := Text.bindsDashes_of_blanks hblanks
    have hinside : Text.BindsDashes (blanks ++ behind) := by
      rcases hbehind with ⟨_, after, rfl, hafter⟩ | ⟨text, rfl, hlisting⟩
      · rw [Text.bindsDashes_append_cons_iff rfl (by decide)]
        exact ⟨hgap, Text.bindsDashes_of_blanks hafter⟩
      · rw [Text.bindsDashes_append_cons_iff rfl (by decide)]
        exact ⟨hgap, hlisting.bindsDashes hitems⟩
    exact (Text.bindsDashes_append_cons_iff rfl (by decide) [' '] _).mpr ⟨hstart, hinside⟩
  have hwords := Instruction.filter_isFlag_eq_self (Text.not_isFlag_of_bindsDashes hdashes)
  rw [heq, hwords, Text.flatten_words] at hlonger
  exact Nat.lt_irrefl _ hlonger

/-! ## Options in front of a text -/

/-- Each of the words is an option. -/
def AreFlags (flags : List Text) : Prop :=
  ∀ flag ∈ flags, IsWord flag ∧ Instruction.isFlag flag = true

instance (flags : List Text) : Decidable (AreFlags flags) :=
  inferInstanceAs (Decidable (∀ flag ∈ flags, _))

/-- The text with the options in front of it. -/
def withFlags (flags : List Text) (argument : Text) : Text :=
  Text.joinWith [' '] (flags ++ [argument])

/-- The instruction with the options in front of its text. -/
def Instruction.withFlags (flags : List Text) (i : Instruction) : Instruction :=
  { i with argument := ImageLint.withFlags flags i.argument }

theorem withFlags_nil (argument : Text) : withFlags [] argument = argument := by
  simp [withFlags, Text.joinWith]

theorem namesStage_withFlags_iff (flags : List Text) (argument : Text) :
    NamesStage (withFlags flags argument) ↔
      (∃ flag ∈ flags, NamesStage flag) ∨ NamesStage argument := by
  unfold withFlags
  rw [namesStage_joinWith]
  simp [or_and_right, exists_or]

theorem Instruction.readsContext_withFlags_iff (flags : List Text) (i : Instruction) :
    (i.withFlags flags).readsContext = true ↔
      i.readsContext = true ∧ ∀ flag ∈ flags, ¬ NamesStage flag := by
  rw [Instruction.readsContext_iff, Instruction.readsContext_iff]
  change ¬ NamesStage (ImageLint.withFlags flags i.argument) ↔ _
  rw [namesStage_withFlags_iff]
  constructor
  · intro hnone
    exact ⟨fun hi => hnone (.inr hi), fun flag hflag hstage => hnone (.inl ⟨flag, hflag, hstage⟩)⟩
  · rintro ⟨hi, hflags⟩ (⟨flag, hflag, hstage⟩ | hstage)
    · exact hflags flag hflag hstage
    · exact hi hstage

theorem isOpen_withFlags (flags : List Text) {argument : Text} (h : argument ≠ []) :
    isOpen (withFlags flags argument) = isOpen argument := by
  obtain ⟨before, heq⟩ := Text.exists_joinWith_concat [' '] flags argument
  unfold withFlags
  rw [heq, isOpen_append _ h]

/-- A text that starts with something else than a blank still starts with it when
it is stripped, if anything is left. -/
theorem head?_strip_ne {s : Text} {c d : Char} (h : s.head? = some c)
    (hc : Text.isBlank c = false) (hd : c ≠ d) : (Text.strip s).head? ≠ some d := by
  have hbare : Text.StartsBare s := by
    intro e he
    rw [h] at he
    cases he
    exact hc
  unfold Text.strip
  rw [Text.stripStart_eq_self hbare]
  intro hhead
  obtain ⟨rest, hrest⟩ := List.head?_eq_some_iff.mp hhead
  obtain ⟨more, heq⟩ := Text.stripEnd_isPrefix s
  rw [← heq, hrest] at h
  exact hd (Option.some.inj h).symm

namespace AreFlags

variable {flags : List Text} (h : AreFlags flags)
include h

theorem bare {argument : Text} (ha : Text.Bare argument) :
    Text.Bare (withFlags flags argument) := by
  apply Text.bare_joinWith
  · simp
  · intro piece hpiece
    rcases List.mem_append.mp hpiece with hflag | hlast
    · exact (h piece hflag).1.bare
    · rw [List.mem_singleton.mp hlast]
      exact ha

/-- Behind an option no bracket is seen. -/
theorem bracketed?_eq_none [Characters] (hne : flags ≠ []) (argument : Text) :
    Instruction.bracketed? (Text.strip (withFlags flags argument)) = none := by
  obtain ⟨flag, rest, rfl⟩ := List.exists_cons_of_ne_nil hne
  obtain ⟨hword, hflag⟩ := h flag (by simp)
  apply Instruction.bracketed?_eq_none
  refine head?_strip_ne (c := '-') ?_ rfl (by decide)
  unfold withFlags
  rw [List.cons_append, Text.head?_joinWith _ hword.1]
  exact Instruction.head?_of_isFlag hflag

/-- Behind an option the arguments are the words that are no options. -/
theorem arguments_eq [Characters] (hne : flags ≠ []) (i : Instruction) :
    (i.withFlags flags).arguments = (Text.words i.argument).filter (!Instruction.isFlag ·) := by
  have hflags : flags.flatMap Text.words = flags := Text.flatMap_words fun flag hflag =>
    (h flag hflag).1
  have hgone := Instruction.filter_isFlag_eq_nil fun flag hflag => (h flag hflag).2
  have hshell : Instruction.bracketed? (Text.strip (i.withFlags flags).argument) = none :=
    h.bracketed?_eq_none hne i.argument
  rw [Instruction.arguments_of_bracketed?_eq_none hshell]
  change (Text.words (Text.joinWith [' '] (flags ++ [i.argument]))).filter _ = _
  rw [Text.words_joinWith, List.flatMap_append, hflags, List.filter_append, hgone]
  simp

theorem arguments_eq_iff [Characters] (i : Instruction) :
    (i.withFlags flags).arguments = i.arguments ↔
      flags = [] ∨ Instruction.bracketed? (Text.strip i.argument) = none := by
  by_cases hne : flags = []
  · subst hne
    unfold Instruction.withFlags
    rw [withFlags_nil]
    simp
  · rw [h.arguments_eq hne]
    cases hbracketed : Instruction.bracketed? (Text.strip i.argument) with
    | none =>
      rw [Instruction.arguments_of_bracketed?_eq_none hbracketed]
      simp
    | some items =>
      have hwords := ne_words_of_bracketed? hbracketed
      rw [Text.words_strip] at hwords
      rw [Instruction.arguments_of_bracketed?_eq_some hbracketed]
      simp [hne, hwords.symm]

end AreFlags

/-! ## The law -/

/-- Options in front of the text of an instruction leave its arguments alone
exactly when there are none or the text is no array of strings in brackets:
behind an option the arguments are always words. Outside brackets the sources
stay too. The instruction goes on reading the build context exactly when none of
the options names a stage; then, outside brackets, the checks of copies find the
same with the options as without them, in every script. -/
theorem flags_leave_arguments_alone_exactly_outside_brackets [Characters] {flags : List Text}
    (h : AreFlags flags) :
    (∀ i : Instruction,
      ((i.withFlags flags).arguments = i.arguments ↔
        flags = [] ∨ Instruction.bracketed? (Text.strip i.argument) = none) ∧
      (flags ≠ [] → (i.withFlags flags).arguments =
        (Text.words i.argument).filter (!Instruction.isFlag ·)) ∧
      (Instruction.bracketed? (Text.strip i.argument) = none →
        (i.withFlags flags).sources = i.sources) ∧
      ((i.withFlags flags).readsContext = true ↔
        i.readsContext = true ∧ ∀ flag ∈ flags, ¬ NamesStage flag)) ∧
    ∀ token argument, OpensCopy token → Text.Bare argument →
      Instruction.bracketed? argument = none → (∀ flag ∈ flags, ¬ NamesStage flag) →
      ∀ before after, CopiesAlike (before ++ copyLine token argument :: after)
        (before ++ copyLine token (withFlags flags argument) :: after) := by
  constructor
  · intro i
    refine ⟨h.arguments_eq_iff i, fun hne => h.arguments_eq hne i, fun hwords => ?_,
      Instruction.readsContext_withFlags_iff flags i⟩
    unfold Instruction.sources
    rw [(h.arguments_eq_iff i).mpr (.inr hwords)]
  · intro token argument hopens hbare hwords hstages
    apply hopens.copiesAlike hbare (h.bare hbare)
    · exact (isOpen_withFlags flags hbare.nonempty).symm
    · intro i j hi hj
      have hwords' : Instruction.bracketed? (Text.strip i.argument) = none := by
        rw [hi, hbare.strip_eq]
        exact hwords
      have hflagged : (i.withFlags flags).argument = j.argument := by
        rw [hj, ← hi]
        rfl
      rw [← (h.arguments_eq_iff i).mpr (.inr hwords')]
      exact Instruction.arguments_congr hflagged
    · rw [namesStage_withFlags_iff]
      constructor
      · exact .inr
      · rintro (⟨flag, hflag, hstage⟩ | hstage)
        · exact absurd hstage (hstages flag hflag)
        · exact hstage

open scoped Characters

/-- Two options in front of words. -/
theorem two_options_leave_the_whole_context_alone :
    withFlags ["--chown=app", "--link"] ". /app" = "--chown=app --link . /app".toList ∧
    CopiesAlike ["COPY . /app"] ["COPY --chown=app --link . /app"] := by
  have hflags : AreFlags ["--chown=app", "--link"] := by decide
  have hstages : ∀ flag ∈ ["--chown=app".toList, "--link".toList], ¬ NamesStage flag := by
    decide +kernel
  have hbare : Text.Bare ". /app".toList :=
    ⟨by decide, by rintro c ⟨⟩; rfl, by rintro c ⟨⟩; rfl⟩
  obtain ⟨_, halike⟩ := flags_leave_arguments_alone_exactly_outside_brackets hflags
  exact ⟨by decide, halike "COPY" ". /app" (by decide) hbare (by rfl) hstages [] []⟩

/-- An option in front of brackets takes the items apart, and hides that the
whole build context is copied. -/
theorem an_option_hides_the_brackets :
    (¬ ∀ (i : Instruction) (flags : List Text), AreFlags flags →
      (i.withFlags flags).arguments = i.arguments) ∧
    ¬ CopiesAlike ["COPY [\".\", \"/app\"]"] ["COPY --chown=app [\".\", \"/app\"]"] := by
  constructor
  · intro h
    have hsame := h ⟨.copy, "[\"a b\", \"/c\"]", 1, [], none, false⟩ ["--chown=app"] (by decide)
    revert hsame
    decide +kernel
  · intro h
    have hlines := linesOf_refs (h (Exclusions.classify {} none) {} {} {}).1
      (linesOf_copyWholeContext _) (linesOf_copyWholeContext _)
    revert hlines
    decide +kernel

end ImageLint
