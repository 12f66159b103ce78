-- The laws of stripping: what is left has no blank at its ends, and only
-- blanks are lost. The lines that a reader skips are told apart here too.
import Mathlib.Data.List.DropRight
import ImageLint.Text.Lines

namespace ImageLint.Text

/-! ## Blanks at the ends -/

/-- The text has no blank at its start. -/
def StartsBare (s : Text) : Prop := ∀ c, s.head? = some c → isBlank c = false

/-- The text has no blank at its end. -/
def EndsBare (s : Text) : Prop := ∀ c, s.getLast? = some c → isBlank c = false

theorem stripStart_eq_self {s : Text} (h : StartsBare s) : stripStart s = s := by
  unfold stripStart
  cases s with
  | nil => rfl
  | cons c rest => rw [List.dropWhile_cons_of_neg (by simp [h c rfl])]

theorem stripEnd_eq_self {s : Text} (h : EndsBare s) : stripEnd s = s := by
  refine List.rdropWhile_eq_self_iff.mpr fun hs => ?_
  simp [h (s.getLast hs) (List.getLast?_eq_some_getLast hs)]

theorem startsBare_stripStart (s : Text) : StartsBare (stripStart s) := by
  intro c hc
  have hnot := List.head?_dropWhile_not isBlank s
  unfold stripStart at hc
  rw [hc] at hnot
  simpa using hnot

theorem endsBare_stripEnd (s : Text) : EndsBare (stripEnd s) := by
  intro c hc
  rw [stripEnd, List.getLast?_reverse] at hc
  exact startsBare_stripStart s.reverse c hc

theorem startsBare_of_isPrefix {s t : Text} (hp : s <+: t) (h : StartsBare t) : StartsBare s := by
  intro c hc
  obtain ⟨rest, rfl⟩ := hp
  exact h c (by simp [hc])

theorem endsBare_of_isSuffix {s t : Text} (hp : s <:+ t) (h : EndsBare t) : EndsBare s := by
  intro c hc
  obtain ⟨before, rfl⟩ := hp
  exact h c (by simp [hc])

theorem stripEnd_isPrefix (s : Text) : stripEnd s <+: s := List.rdropWhile_prefix isBlank s

/-- Stripping only takes away at the ends. -/
theorem strip_isInfix (s : Text) : strip s <:+: s :=
  (stripEnd_isPrefix (stripStart s)).isInfix.trans (List.dropWhile_suffix isBlank).isInfix

theorem startsBare_strip (s : Text) : StartsBare (strip s) :=
  startsBare_of_isPrefix (stripEnd_isPrefix _) (startsBare_stripStart s)

theorem endsBare_strip (s : Text) : EndsBare (strip s) := endsBare_stripEnd _

theorem strip_eq_self {s : Text} (hs : StartsBare s) (he : EndsBare s) : strip s = s := by
  unfold strip
  rw [stripStart_eq_self hs, stripEnd_eq_self he]

theorem strip_eq_nil_iff (s : Text) : strip s = [] ↔ ∀ c ∈ s, isBlank c = true := by
  unfold strip
  constructor
  · intro h c hc
    have hall : ∀ x ∈ stripStart s, isBlank x = true := List.rdropWhile_eq_nil_iff.mp h
    have hnil : stripStart s = [] := by
      rcases hd : stripStart s with _ | ⟨d, rest⟩
      · rfl
      · have hbare := startsBare_stripStart s d (by simp [hd])
        rw [hall d (by simp [hd])] at hbare
        cases hbare
    exact List.dropWhile_eq_nil_iff.mp hnil c hc
  · intro h
    have hnil : stripStart s = [] := List.dropWhile_eq_nil_iff.mpr h
    rw [hnil]
    rfl

theorem stripEnd_append (s t : Text) :
    stripEnd (s ++ t) = if (stripEnd t).isEmpty then stripEnd s else s ++ stripEnd t := by
  unfold stripEnd
  rw [List.reverse_append, List.dropWhile_append]
  simp only [List.isEmpty_reverse]
  split <;> simp

theorem startsBare_append {s : Text} (hs : StartsBare s) (hne : s ≠ []) (t : Text) :
    StartsBare (s ++ t) := by
  intro c hc
  rw [List.head?_append_of_ne_nil _ hne] at hc
  exact hs c hc

theorem endsBare_append (s : Text) {t : Text} (ht : EndsBare t) (hne : t ≠ []) :
    EndsBare (s ++ t) := by
  intro c hc
  rw [List.getLast?_append_of_ne_nil _ hne] at hc
  exact ht c hc

/-! ## Joins -/

/-- The text is not empty and has no blank at its ends. -/
structure Bare (s : Text) : Prop where
  nonempty : s ≠ []
  starts : StartsBare s
  ends : EndsBare s

theorem Bare.around {s t : Text} (hs : Bare s) (between : Text) (ht : Bare t) :
    Bare (s ++ between ++ t) where
  nonempty := by simp [hs.nonempty]
  starts := by
    rw [List.append_assoc]
    exact startsBare_append hs.starts hs.nonempty _
  ends := endsBare_append _ ht.ends ht.nonempty

theorem bare_joinWith (separator : Text) {pieces : List Text} (hne : pieces ≠ [])
    (h : ∀ piece ∈ pieces, Bare piece) : Bare (joinWith separator pieces) := by
  induction pieces with
  | nil => exact absurd rfl hne
  | cons first rest ih =>
    have hfirst := h first List.mem_cons_self
    unfold joinWith at ih ⊢
    cases rest with
    | nil =>
      rw [List.intercalate_singleton]
      exact hfirst
    | cons second rest =>
      rw [List.intercalate_cons_cons]
      exact hfirst.around separator (ih (by simp) fun p hp => h p (List.mem_cons_of_mem _ hp))

/-- A join ends with its last piece. -/
theorem exists_joinWith_concat (separator : Text) (pieces : List Text) (last : Text) :
    ∃ before, joinWith separator (pieces ++ [last]) = before ++ last := by
  unfold joinWith
  induction pieces with
  | nil => exact ⟨[], by simp⟩
  | cons first rest ih =>
    obtain ⟨before, hb⟩ := ih
    cases rest with
    | nil => exact ⟨first ++ separator, by simp⟩
    | cons second rest =>
      refine ⟨first ++ separator ++ before, ?_⟩
      rw [List.cons_append, List.cons_append, List.intercalate_cons_cons, ← List.cons_append, hb]
      simp

theorem Bare.strip_eq {s : Text} (h : Bare s) : strip s = s := strip_eq_self h.starts h.ends

/-! ## Byte-order marks -/

theorem dropMarks_eq_self {s : Text} (h : s.head? ≠ some byteOrderMark) : dropMarks s = s := by
  cases s with
  | nil => rfl
  | cons c rest => exact List.dropWhile_cons_of_neg (by simpa using h)

/-! ## Lines that are skipped -/

/-- The line is blank or a comment. -/
def IsRemark (line : Text) : Prop := strip line = [] ∨ ∃ rest, strip line = '#' :: rest

theorem significant?_eq_none_iff (line : Text) : significant? line = none ↔ IsRemark line := by
  unfold significant? IsRemark
  split <;> simp_all

theorem significant?_eq_some_iff (line text : Text) :
    significant? line = some text ↔ ¬ IsRemark line ∧ strip line = text := by
  unfold significant? IsRemark
  split <;> simp_all

/-- What is significant of a line has no blank at its ends and is no comment. -/
theorem bare_of_significant? {line text : Text} (h : significant? line = some text) :
    Bare text ∧ text.head? ≠ some '#' := by
  obtain ⟨hremark, rfl⟩ := (significant?_eq_some_iff line text).mp h
  refine ⟨⟨fun hnil => hremark (.inl hnil), startsBare_strip _, endsBare_strip _⟩, fun hhash => ?_⟩
  obtain ⟨rest, hrest⟩ := List.head?_eq_some_iff.mp hhash
  exact hremark (.inr ⟨rest, hrest⟩)

/-- A text with no blank at its ends is significant as it is, unless it is a
comment. -/
theorem significant?_of_strip {line text : Text} (hbare : Bare text)
    (hhash : text.head? ≠ some '#') (hstrip : strip line = text) :
    significant? line = some text := by
  refine (significant?_eq_some_iff line text).mpr ⟨?_, hstrip⟩
  rintro (hnil | ⟨rest, hcomment⟩)
  · exact hbare.nonempty (hstrip.symm.trans hnil)
  · rw [← hstrip, hcomment] at hhash
    exact hhash rfl

theorem significant?_eq (line : Text) :
    significant? line =
      if !(strip line).isEmpty && !startsWith (strip line) "#" then some (strip line)
      else none := by
  unfold significant?
  rcases strip line with _ | ⟨c, rest⟩
  · rfl
  · by_cases hc : c = '#'
    · subst hc
      simp [startsWith]
    · simp [startsWith, hc, Ne.symm hc]

theorem lines_eq_nil_iff (s : Text) : lines s = [] ↔ s = [] := by
  fun_cases lines s <;> simp_all

/-- A character of a line is a character of the text. -/
theorem mem_of_mem_lines {s line : Text} {c : Char} (hl : line ∈ lines s) (hc : c ∈ line) :
    c ∈ s := by
  induction s using lines.induct generalizing line with
  | case1 => simp [lines] at hl
  | case2 rest ih =>
    rw [lines] at hl
    rcases List.mem_cons.mp hl with rfl | hl
    · simp at hc
    · exact List.mem_cons_of_mem _ (List.mem_cons_of_mem _ (ih hl hc))
  | case3 d rest hcr hend ih =>
    rw [lines, if_pos hend] at hl
    · rcases List.mem_cons.mp hl with rfl | hl
      · simp at hc
      · exact List.mem_cons_of_mem _ (ih hl hc)
    · exact hcr
  | case4 d rest hcr hend hnil ih =>
    rw [lines, if_neg hend, hnil] at hl
    · simp only [List.mem_singleton] at hl
      subst hl
      simp only [List.mem_singleton] at hc
      simp [hc]
    · exact hcr
  | case5 d rest hcr hend first more hcons ih =>
    rw [lines, if_neg hend, hcons] at hl
    · rcases List.mem_cons.mp hl with rfl | hl
      · rcases List.mem_cons.mp hc with rfl | hc
        · simp
        · exact List.mem_cons_of_mem _ (ih (by simp [hcons]) hc)
      · exact List.mem_cons_of_mem _ (ih (by simp [hcons, hl]) hc)
    · exact hcr

/-! ## Texts that hold another -/

theorem holds_eq_true_iff (part s : Text) : holds part s = true ↔ part <:+: s := by
  induction s with
  | nil => simp [holds]
  | cons c rest ih =>
    simp only [holds, Bool.or_eq_true, List.isPrefixOf_iff_prefix, ih, List.infix_cons_iff]

end ImageLint.Text
