-- How an array of strings may be written: whatever text is read as one is made
-- up of brackets, blanks, commas and strings in quotes. A string is written with
-- at least as many characters as it has, and with blanks only if it has blanks.
-- So the words of such a text hold more characters than the strings together.
import ImageLint.Proofs.Arguments
import ImageLint.Proofs.StageOptions

namespace ImageLint

namespace Text

/-! ## Dashes behind blanks -/

/-- No dash follows a blank. -/
def BindsDashes (s : Text) : Prop := ∀ c, isBlank c = true → ¬ [c, '-'] <:+: s

/-- What is neither a blank nor a dash keeps its two sides apart. -/
theorem bindsDashes_append_cons_iff {c : Char} (hc : isBlank c = false) (hdash : c ≠ '-')
    (s t : Text) : BindsDashes (s ++ c :: t) ↔ BindsDashes s ∧ BindsDashes t := by
  have hsides : ∀ d, isBlank d = true →
      ([d, '-'] <:+: s ++ c :: t ↔ [d, '-'] <:+: s ∨ [d, '-'] <:+: t) := by
    intro d hd
    have hne : c ≠ d := by
      rintro rfl
      rw [hd] at hc
      cases hc
    exact infix_append_cons_iff (by simp [hne, hdash])
  constructor
  · intro h
    constructor
    · intro d hd hpart
      exact h d hd ((hsides d hd).mpr (.inl hpart))
    · intro d hd hpart
      exact h d hd ((hsides d hd).mpr (.inr hpart))
  · rintro ⟨hs, ht⟩ d hd hpart
    rcases (hsides d hd).mp hpart with hpart | hpart
    · exact hs d hd hpart
    · exact ht d hd hpart

theorem bindsDashes_of_blanks {s : Text} (h : ∀ c ∈ s, isBlank c = true) : BindsDashes s := by
  intro c _ hpart
  cases h '-' (hpart.subset (by simp))

theorem bindsDashes_of_unbroken {s : Text} (h : ∀ c ∈ s, isBlank c = false) : BindsDashes s := by
  intro c hc hpart
  have hnot := h c (hpart.subset (by simp))
  rw [hc] at hnot
  cases hnot

/-- No word is an option, if no dash follows a blank and none starts the text. -/
theorem not_isFlag_of_bindsDashes {s : Text} (h : BindsDashes (' ' :: s)) :
    ∀ word ∈ words s, Instruction.isFlag word = false := by
  intro word hword
  by_contra hflag
  have hhead := Instruction.head?_of_isFlag (by simpa using hflag)
  obtain ⟨rest, rfl⟩ := List.head?_eq_some_iff.mp hhead
  obtain ⟨c, hc, hpart⟩ := exists_before_word hword
  have hpair : [c, '-'] <:+: c :: '-' :: rest := ⟨[], rest, rfl⟩
  exact h c hc (hpair.trans hpart)

end Text

namespace Json

/-! ## How strings are written -/

theorem isBlank_of_isSpace {c : Char} (h : isSpace c = true) : Text.isBlank c = true := by
  simp only [isSpace, Bool.or_eq_true, beq_iff_eq] at h
  rcases h with ((rfl | rfl) | rfl) | rfl <;> rfl

theorem exists_skipSpaces (s : Text) :
    ∃ blanks, (∀ c ∈ blanks, Text.isBlank c = true) ∧ s = blanks ++ skipSpaces s := by
  refine ⟨s.takeWhile isSpace, fun c hc => ?_, List.takeWhile_append_dropWhile.symm⟩
  exact isBlank_of_isSpace (List.mem_takeWhile_imp hc)

/-- A character of ASCII that can be seen is no blank. -/
theorem not_isBlank_of_visible {c : Char} (h : 33 ≤ c.toNat) (hascii : c.toNat < 128) :
    Text.isBlank c = false := by
  simp only [Text.isBlank, Bool.or_eq_false_iff, Bool.and_eq_false_iff, decide_eq_false_iff_not,
    beq_eq_false_iff_ne, ne_eq]
  omega

theorem not_isBlank_of_hexValue? {c : Char} {n : Nat} (h : Text.hexValue? c = some n) :
    Text.isBlank c = false := by
  have hvisible : 48 ≤ c.toNat ∧ c.toNat ≤ 102 := by
    unfold Text.hexValue? at h
    split_ifs at h with hdigit hsmall hlarge
    · have hrange : 48 ≤ c.toNat ∧ c.toNat ≤ 57 := by
        simpa [Char.isDigit, UInt32.le_iff_toNat_le] using hdigit
      omega
    · have hrange : 97 ≤ c.toNat ∧ c.toNat ≤ 102 := by
        simpa [Char.le_def, UInt32.le_iff_toNat_le] using hsmall
      omega
    · have hrange : 65 ≤ c.toNat ∧ c.toNat ≤ 70 := by
        simpa [Char.le_def, UInt32.le_iff_toNat_le] using hlarge
      omega
  exact not_isBlank_of_visible (by omega) (by omega)

theorem not_isBlank_of_escaped? {c char : Char} (h : escaped? c = some char) :
    Text.isBlank c = false := by
  by_contra hblank
  have hall : ['"', '\\', '/', 'b', 'f', 'n', 'r', 't'].all (!Text.isBlank ·) = true := by decide
  have hnot : ∀ d ∈ ['"', '\\', '/', 'b', 'f', 'n', 'r', 't'], c ≠ d := by
    rintro d hd rfl
    exact hblank (by simpa using List.all_eq_true.mp hall c hd)
  simp only [List.forall_mem_cons] at hnot
  simp [escaped?, hnot] at h

/-- The characters may be how the units of a string are written: the units are
not more, and a blank among the characters is a unit of its own. -/
structure Writes (body : Text) (units : List Nat) : Prop where
  length_le : units.length ≤ body.length
  blank : ∀ c ∈ body, Text.isBlank c = true → c.toNat ∈ units

theorem Writes.append {piece body : Text} {n : Nat} {units : List Nat} (h : Writes body units)
    (hne : piece ≠ []) (hpiece : ∀ c ∈ piece, Text.isBlank c = true → c.toNat = n) :
    Writes (piece ++ body) (n :: units) where
  length_le := by
    have hlength := h.length_le
    have hpos := List.length_pos_iff.mpr hne
    rw [List.length_cons, List.length_append]
    omega
  blank := by
    intro c hc hblank
    rcases List.mem_append.mp hc with hc | hc
    · rw [hpiece c hc hblank]
      exact List.mem_cons_self
    · exact List.mem_cons_of_mem _ (h.blank c hc hblank)

/-- What is read as the units of a string ends at a quote. -/
theorem exists_writes {s rest : Text} {units : List Nat} (h : readUnits s = some (units, rest)) :
    ∃ body, s = body ++ '"' :: rest ∧ Writes body units := by
  fun_induction readUnits s generalizing units with
  | case1 => cases h
  | case2 more =>
    cases h
    exact ⟨[], rfl, Nat.le_refl 0, by simp⟩
  | case3 a b c d more ih =>
    simp only [Option.bind_eq_bind, Option.bind_eq_some_iff, Option.pure_def] at h
    obtain ⟨n, hn, ⟨units', rest'⟩, hmore, heq⟩ := h
    cases heq
    obtain ⟨body, rfl, hbody⟩ := ih hmore
    refine ⟨['\\', 'u', a, b, c, d] ++ body, rfl, hbody.append (by simp) ?_⟩
    simp only [unit?, Option.bind_eq_bind, Option.bind_eq_some_iff] at hn
    obtain ⟨_, ha, _, hb, _, hc, _, hd, _⟩ := hn
    simp [not_isBlank_of_hexValue? ha, not_isBlank_of_hexValue? hb, not_isBlank_of_hexValue? hc,
      not_isBlank_of_hexValue? hd, show Text.isBlank '\\' = false from rfl,
      show Text.isBlank 'u' = false from rfl]
  | case4 c more hnot ih =>
    simp only [Option.bind_eq_bind, Option.bind_eq_some_iff, Option.pure_def] at h
    obtain ⟨char, hchar, ⟨units', rest'⟩, hmore, heq⟩ := h
    cases heq
    obtain ⟨body, rfl, hbody⟩ := ih hmore
    refine ⟨['\\', c] ++ body, rfl, hbody.append (by simp) ?_⟩
    simp [not_isBlank_of_escaped? hchar, show Text.isBlank '\\' = false from rfl]
  | case5 => cases h
  | case6 c more _ _ _ _ ih =>
    simp only [Option.bind_eq_bind, Option.bind_eq_some_iff, Option.pure_def] at h
    obtain ⟨⟨units', rest'⟩, hmore, heq⟩ := h
    cases heq
    obtain ⟨body, rfl, hbody⟩ := ih hmore
    exact ⟨[c] ++ body, rfl, hbody.append (by simp) (by simp)⟩

/-- A character is lost in no pair of units. -/
theorem mem_joinUnits [Characters] {c : Char} {units : List Nat} (h : c.toNat ∈ units) :
    c ∈ joinUnits units := by
  have hown : Text.unitChar c.toNat = c := unitChar_toNat c
  fun_induction joinUnits units with
  | case1 => cases h
  | case2 unit =>
    rw [List.mem_singleton] at h
    rw [← h, hown]
    exact List.mem_singleton_self c
  | case3 unit next rest hpair ih =>
    -- a character is no half of a pair
    have hvalid := toNat_valid c
    simp only [Text.isHighUnit, Text.isLowUnit, Bool.and_eq_true, decide_eq_true_eq] at hpair
    simp only [List.mem_cons] at h
    rcases h with rfl | rfl | hrest
    · omega
    · omega
    · exact List.mem_cons_of_mem _ (ih hrest)
  | case4 unit next rest hpair ih =>
    rcases List.mem_cons.mp h with rfl | hrest
    · rw [hown]
      exact List.mem_cons_self
    · exact List.mem_cons_of_mem _ (ih hrest)

theorem length_joinUnits_le [Characters] (units : List Nat) :
    (joinUnits units).length ≤ units.length := by
  fun_induction joinUnits units with
  | case1 => simp
  | case2 unit => simp
  | case3 unit next rest hpair ih => simp; omega
  | case4 unit next rest hpair ih => simpa using ih

/-- The characters may be how a text is written between its quotes: they are not
fewer, and where the text has no blank they have none. -/
structure Literal (item body : Text) : Prop where
  length_le : item.length ≤ body.length
  unbroken : (∀ c ∈ item, Text.isBlank c = false) → ∀ c ∈ body, Text.isBlank c = false

theorem exists_literal [Characters] {s item rest : Text} (h : readChars s = some (item, rest)) :
    ∃ body, s = body ++ '"' :: rest ∧ Literal item body := by
  obtain ⟨⟨units, rest'⟩, hunits, heq⟩ := Option.map_eq_some_iff.mp h
  cases heq
  obtain ⟨body, rfl, hbody⟩ := exists_writes hunits
  refine ⟨body, rfl, (length_joinUnits_le units).trans hbody.length_le, ?_⟩
  intro hitem c hc
  by_contra hblank
  have hmem := mem_joinUnits (hbody.blank c hc (by simpa using hblank))
  exact hblank (hitem c hmem)

/-! ## How arrays of strings are written -/

theorem readUnsigned_ne_str {negative : Bool} {s item rest : Text} :
    readUnsigned negative s ≠ some (.str item, rest) := by
  unfold readUnsigned
  intro h
  obtain ⟨⟨whole, more⟩, _, h⟩ := Option.bind_eq_some_iff.mp h
  dsimp only at h
  split at h <;> cases h

theorem readAtom_ne_str {s item rest : Text} : readAtom s ≠ some (.str item, rest) := by
  unfold readAtom
  split_ifs
  iterate 6 nofun
  split
  · exact readUnsigned_ne_str
  · exact readUnsigned_ne_str

/-- Only what stands between quotes is read as a string. -/
theorem exists_literal_of_readValue [Characters] {fuel : Nat} {s item rest : Text}
    (h : readValue fuel s = some (.str item, rest)) :
    ∃ body, s = '"' :: (body ++ '"' :: rest) ∧ Literal item body := by
  unfold readValue at h
  split at h
  · cases h
  · obtain ⟨⟨chars, rest'⟩, hchars, heq⟩ := Option.map_eq_some_iff.mp h
    cases heq
    obtain ⟨body, rfl, hbody⟩ := exists_literal hchars
    exact ⟨body, rfl, hbody⟩
  · split at h
    · cases h
    · obtain ⟨_, _, heq⟩ := Option.map_eq_some_iff.mp h
      cases heq
  · split at h
    · cases h
    · obtain ⟨_, _, heq⟩ := Option.map_eq_some_iff.mp h
      cases heq
  · exact absurd h readAtom_ne_str

/-- How the items of an array may be written, from behind the first quote to the
end of the text. -/
inductive Listing : List Text → Text → Prop
  | last {item body before after : Text} (literal : Literal item body)
      (blanks : ∀ c ∈ before, Text.isBlank c = true) (trail : ∀ c ∈ after, Text.isBlank c = true) :
      Listing [item] (body ++ '"' :: (before ++ ']' :: after))
  | more {item body before after text : Text} {items : List Text} (literal : Literal item body)
      (blanks : ∀ c ∈ before, Text.isBlank c = true) (gap : ∀ c ∈ after, Text.isBlank c = true)
      (others : Listing items text) :
      Listing (item :: items) (body ++ '"' :: (before ++ ',' :: (after ++ '"' :: text)))

/-- The items of an array of strings are written one after the other. -/
theorem exists_listing [Characters] {fuel : Nat} {items : List Text} {s rest : Text}
    (h : readItems fuel s = some (items.map .str, rest))
    (hrest : ∀ c ∈ rest, Text.isBlank c = true) : ∃ text, s = '"' :: text ∧ Listing items text := by
  induction fuel generalizing items s with
  | zero =>
    rw [readItems] at h
    cases h
  | succ fuel ih =>
    rw [readItems] at h
    obtain ⟨⟨value, behind⟩, hvalue, h⟩ := Option.bind_eq_some_iff.mp h
    obtain ⟨before, hbefore, hbehind⟩ := exists_skipSpaces behind
    dsimp only at h
    split at h
    · rename_i further hskip
      obtain ⟨⟨values, rest'⟩, hvalues, heq⟩ := Option.bind_eq_some_iff.mp h
      obtain ⟨after, hafter, hfurther⟩ := exists_skipSpaces further
      cases items with
      | nil => cases heq
      | cons item items =>
        cases heq
        obtain ⟨text, htext, hlisting⟩ := ih hvalues
        obtain ⟨body, rfl, hbody⟩ := exists_literal_of_readValue hvalue
        refine ⟨_, rfl, ?_⟩
        rw [hbehind, hskip, hfurther, htext]
        exact .more hbody hbefore hafter hlisting
    · rename_i further hskip
      cases items with
      | nil => cases h
      | cons item items =>
        obtain ⟨⟨rfl, rfl⟩, rfl⟩ : (value = .str item ∧ items = []) ∧ further = rest := by
          simpa using h
        obtain ⟨body, rfl, hbody⟩ := exists_literal_of_readValue hvalue
        refine ⟨_, rfl, ?_⟩
        rw [hbehind, hskip]
        exact .last hbody hbefore hrest
    · cases h

/-- A whole text is one value with blanks around it. -/
theorem exists_rest_of_parse? [Characters] {s : Text} {value : Json} (h : parse? s = some value) :
    ∃ rest, readValue (s.length + 1) (skipSpaces s) = some (value, rest) ∧
      ∀ c ∈ rest, Text.isBlank c = true := by
  unfold parse? at h
  split at h
  · rename_i value rest hread
    split at h
    · rename_i hempty
      cases h
      obtain ⟨blanks, hblanks, heq⟩ := exists_skipSpaces rest
      rw [List.isEmpty_iff.mp hempty, List.append_nil] at heq
      exact ⟨rest, hread, heq ▸ hblanks⟩
    · cases h
  · cases h

namespace Listing

variable {items : List Text} {text : Text} (h : Listing items text)
  (hitems : ∀ item ∈ items, ∀ c ∈ item, Text.isBlank c = false)
include h hitems

/-- Items without blanks are not longer than what is written without blanks. -/
theorem length_le : items.flatten.length ≤ (text.filter (!Text.isBlank ·)).length := by
  have hfilter : ∀ {item body : Text}, Literal item body → (∀ c ∈ item, Text.isBlank c = false) →
      item.length ≤ (body.filter (!Text.isBlank ·)).length := by
    intro item body hbody hitem
    rw [List.filter_eq_self.mpr fun c hc => by simp [hbody.unbroken hitem c hc]]
    exact hbody.length_le
  induction h with
  | @last item body before after literal blanks _ =>
    have hbody := hfilter literal (hitems item (by simp))
    rw [List.flatten_singleton, List.filter_append, List.length_append]
    omega
  | @more item body before after text items literal blanks gap others ih =>
    rw [List.forall_mem_cons] at hitems
    have hbody := hfilter literal hitems.1
    have hothers := ih hitems.2
    have hsuffix : text <:+ '"' :: (before ++ ',' :: (after ++ '"' :: text)) :=
      ⟨'"' :: (before ++ ',' :: (after ++ ['"'])), by simp⟩
    have hbehind := (hsuffix.filter (!Text.isBlank ·)).length_le
    rw [List.flatten_cons, List.length_append, List.filter_append, List.length_append]
    omega

theorem bindsDashes : Text.BindsDashes text := by
  induction h with
  | @last item body before after literal blanks trail =>
    have hbody := literal.unbroken (hitems item (by simp))
    rw [Text.bindsDashes_append_cons_iff rfl (by decide),
      Text.bindsDashes_append_cons_iff rfl (by decide)]
    exact ⟨Text.bindsDashes_of_unbroken hbody, Text.bindsDashes_of_blanks blanks,
      Text.bindsDashes_of_blanks trail⟩
  | @more item body before after text items literal blanks gap others ih =>
    rw [List.forall_mem_cons] at hitems
    have hbody := literal.unbroken hitems.1
    rw [Text.bindsDashes_append_cons_iff rfl (by decide),
      Text.bindsDashes_append_cons_iff rfl (by decide),
      Text.bindsDashes_append_cons_iff rfl (by decide)]
    exact ⟨Text.bindsDashes_of_unbroken hbody, Text.bindsDashes_of_blanks blanks,
      Text.bindsDashes_of_blanks gap, ih hitems.2⟩

end Listing

end Json

end ImageLint
