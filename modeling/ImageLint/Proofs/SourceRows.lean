-- The rows of a file and the lines of its script. Rows end at line feeds alone,
-- and the reader ends lines at other characters too. So the number of an
-- instruction is that of its row and one more for each such line end before
-- it, and the two agree exactly when only remarks follow the first of them.
import Mathlib.Data.List.Infix
import ImageLint.Proofs.ByteOrderMarks
import ImageLint.Proofs.Locations

namespace ImageLint

namespace Text

/-! ## Spans -/

/-- A part of a text, with what stands before it and after it. -/
structure Span (text : Text) where
  before : Text
  part : Text
  after : Text
  whole : before ++ part ++ after = text

/-- A line end that is no line feed. -/
def isOtherBreak (c : Char) : Bool := isLineEnd c && c != '\n'

theorem countP_isLineEnd (s : Text) :
    s.countP isLineEnd = s.count '\n' + s.countP isOtherBreak := by
  induction s with
  | nil => rfl
  | cons c rest ih =>
    by_cases hc : c = '\n'
    · subst hc
      rw [List.countP_cons_of_pos (by rfl), List.count_cons_self,
        List.countP_cons_of_neg (by decide), ih]
      omega
    · have hbreak : isOtherBreak c = isLineEnd c := by simp [isOtherBreak, hc]
      rw [List.countP_cons, List.count_cons_of_ne hc, List.countP_cons, hbreak, ih]
      omega

namespace Span

variable {text : Text}

/-- The row that a span starts in. Rows are counted from one and end at line
feeds alone. -/
def row (span : Span text) : Nat := 1 + span.before.count '\n'

/-- The number of the line that a span starts in, with all line ends counted. -/
def number (span : Span text) : Nat := 1 + span.before.countP isLineEnd

/-- How many line ends that are no line feeds come before a span. -/
def otherBreaks (span : Span text) : Nat := span.before.countP isOtherBreak

theorem number_eq (span : Span text) : span.number = span.row + span.otherBreaks := by
  rw [number, row, otherBreaks, countP_isLineEnd]
  omega

theorem before_isPrefix (span : Span text) : span.before <+: text :=
  ⟨span.part ++ span.after, by rw [← List.append_assoc, span.whole]⟩

/-- The span as a part of a longer text. -/
def below (above : Text) (span : Span text) : Span (above ++ text) where
  before := above ++ span.before
  part := span.part
  after := span.after
  whole := by rw [List.append_assoc above, List.append_assoc above, span.whole]

/-! ## Lines as spans -/

/-- The span is a line: it holds no line end, and around it are line ends or
the ends of the text. -/
structure IsLine (span : Span text) : Prop where
  unbroken : ∀ c ∈ span.part, isLineEnd c = false
  starts : ∀ c, span.before.getLast? = some c → isLineEnd c = true
  ends : ∀ c, span.after.head? = some c → isLineEnd c = true

theorem IsLine.below {span : Span text} (h : span.IsLine) (above : Text)
    (habove : span.before = [] → ∀ c, above.getLast? = some c → isLineEnd c = true) :
    (span.below above).IsLine where
  unbroken := h.unbroken
  starts := by
    intro c hc
    by_cases hnil : span.before = []
    · have hlast : above.getLast? = some c := by simpa [Span.below, hnil] using hc
      exact habove hnil c hlast
    · rw [Span.below, List.getLast?_append_of_ne_nil _ hnil] at hc
      exact h.starts c hc
  ends := h.ends

/-- The first line has no line end before it, and every other has one. -/
theorem IsLine.countP_eq_zero_iff {span : Span text} (h : span.IsLine) :
    span.before.countP isLineEnd = 0 ↔ span.before = [] := by
  rw [List.countP_eq_zero]
  constructor
  · intro hnone
    rcases List.eq_nil_or_concat span.before with hnil | ⟨above, c, hconcat⟩
    · exact hnil
    · have hlast : span.before.getLast? = some c := by rw [hconcat]; simp
      exact absurd (h.starts c hlast) (hnone c (List.mem_of_getLast? hlast))
  · intro hnil c hc
    rw [hnil] at hc
    cases hc

/-- A line is the piece with as many pieces before it as there are line ends. -/
theorem IsLine.getElem? {span : Span text} (h : span.IsLine) :
    (splitWhere isLineEnd text)[span.before.countP isLineEnd]? = some span.part := by
  obtain ⟨before, part, after, rfl⟩ := span
  obtain ⟨hunbroken, hstarts, hends⟩ := h
  dsimp only at hunbroken hstarts hends ⊢
  have hfirst : (splitWhere isLineEnd (part ++ after))[0]? = some part := by
    cases after with
    | nil => rw [List.append_nil, splitWhere_eq_singleton hunbroken]; rfl
    | cons c rest =>
      rw [splitWhere_append_cons (hends c rfl), splitWhere_eq_singleton hunbroken]
      rfl
  rcases List.eq_nil_or_concat before with rfl | ⟨above, c, rfl⟩
  · exact hfirst
  · have hc : isLineEnd c = true := hstarts c (by simp)
    have hindex : (above.concat c).countP isLineEnd = (splitWhere isLineEnd above).length := by
      rw [List.concat_eq_append, List.countP_append, length_splitWhere,
        List.countP_cons_of_pos hc]
      rfl
    rw [hindex, List.append_assoc, List.concat_append, splitWhere_append_cons hc,
      List.getElem?_append_right (Nat.le_refl _), Nat.sub_self, hfirst]

/-- Every piece between line ends is a line. -/
theorem exists_isLine {k : Nat} {piece : Text}
    (h : (splitWhere isLineEnd text)[k]? = some piece) :
    ∃ span : Span text, span.IsLine ∧ span.part = piece ∧ span.before.countP isLineEnd = k := by
  induction text generalizing k piece with
  | nil =>
    obtain ⟨rfl, rfl⟩ : k = 0 ∧ piece = [] := by
      cases k <;> simp_all [splitWhere]
    exact ⟨⟨[], [], [], rfl⟩, ⟨by simp, by simp, by simp⟩, rfl, rfl⟩
  | cons c rest ih =>
    by_cases hc : isLineEnd c = true
    · rw [splitWhere_cons_of_pos hc] at h
      cases k with
      | zero =>
        cases h
        exact ⟨⟨[], [], c :: rest, rfl⟩, ⟨by simp, by simp, by simpa using hc⟩, rfl, rfl⟩
      | succ k =>
        obtain ⟨span, hline, hpart, rfl⟩ := ih h
        refine ⟨span.below [c], hline.below [c] (fun _ => by simpa using hc), hpart, ?_⟩
        exact List.countP_cons_of_pos hc
    · obtain ⟨first, more, hrest, hcons⟩ := exists_splitWhere_cons hc rest
      rw [hcons] at h
      cases k with
      | zero =>
        -- The line that `c` starts goes on as the first line of the rest.
        cases h
        obtain ⟨span, hline, rfl, hcount⟩ := ih (k := 0) (by rw [hrest]; rfl)
        have hnil := hline.countP_eq_zero_iff.mp hcount
        have hwhole : span.part ++ span.after = rest := by
          have := span.whole
          rwa [hnil] at this
        refine ⟨⟨[], c :: span.part, span.after, congrArg (c :: ·) hwhole⟩, ?_, rfl, rfl⟩
        exact ⟨List.forall_mem_cons.mpr ⟨by simpa using hc, hline.unbroken⟩, by simp, hline.ends⟩
      | succ k =>
        obtain ⟨span, hline, hpart, hcount⟩ := ih (k := k + 1) (by rw [hrest]; exact h)
        refine ⟨span.below [c], hline.below [c] fun hnil => ?_, hpart, ?_⟩
        · rw [hline.countP_eq_zero_iff.mpr hnil] at hcount
          cases hcount
        · exact (List.countP_cons_of_neg hc).trans hcount

/-! ## The order of lines -/

/-- Of two lines the later one has more line ends before it. -/
theorem IsLine.number_lt {span later : Span text} (h : later.IsLine)
    (hlength : span.before.length < later.before.length) : span.number < later.number := by
  obtain ⟨between, hbetween⟩ := List.prefix_of_prefix_length_le span.before_isPrefix
    later.before_isPrefix hlength.le
  have hne : between ≠ [] := by
    rintro rfl
    rw [← hbetween, List.append_nil] at hlength
    omega
  have hlast : later.before.getLast? = some (between.getLast hne) := by
    rw [← hbetween, List.getLast?_append_of_ne_nil _ hne, List.getLast?_eq_some_getLast hne]
  have hpos : 0 < between.countP isLineEnd :=
    List.countP_pos_iff.mpr ⟨_, List.getLast_mem hne, h.starts _ hlast⟩
  rw [number, number, ← hbetween, List.countP_append]
  omega

theorem length_lt {span later : Span text} (h : span.number < later.number) :
    span.before.length < later.before.length := by
  by_contra hle
  have hshorter := List.prefix_of_prefix_length_le later.before_isPrefix span.before_isPrefix
    (Nat.le_of_not_lt hle)
  have hcount := hshorter.sublist.countP_le (p := isLineEnd)
  rw [number, number] at h
  omega

/-- A line is told by its number. -/
theorem IsLine.before_eq {span other : Span text} (h : span.IsLine) (hother : other.IsLine)
    (hnumber : span.number = other.number) : span.before = other.before := by
  have hlength : span.before.length = other.before.length := by
    rcases Nat.lt_trichotomy span.before.length other.before.length with hlt | heq | hgt
    · exact absurd hnumber (hother.number_lt hlt).ne
    · exact heq
    · exact absurd hnumber (h.number_lt hgt).ne'
  exact (List.prefix_of_prefix_length_le span.before_isPrefix other.before_isPrefix
    hlength.le).eq_of_length hlength

/-- The text of a line as a script reads it: the first line is read without the
byte-order marks it starts with. -/
def content (span : Span text) : Text :=
  if span.before = [] then dropMarks span.part else span.part

theorem IsLine.significantAt_eq {span : Span text} (h : span.IsLine) :
    BuildScript.significantAt span.number span.part = significant? span.content := by
  have hfirst : span.number = 1 ↔ span.before = [] := by
    rw [← h.countP_eq_zero_iff, number]
    omega
  unfold BuildScript.significantAt content
  simp only [hfirst]

/-- What is read of a line stands in it. -/
theorem isInfix_part {span : Span text} {raw : Text} (h : significant? span.content = some raw) :
    raw <:+: span.part := by
  obtain ⟨-, rfl⟩ := (significant?_eq_some_iff _ _).mp h
  refine (strip_isInfix _).trans ?_
  unfold content
  split
  · exact (List.dropWhile_suffix _).isInfix
  · exact List.infix_rfl

end Span

/-! ## Files without carriage returns -/

theorem not_mem_unifyLineEnds (s : Text) : '\r' ∉ unifyLineEnds s := by
  fun_induction unifyLineEnds s with
  | case1 => simp
  | case2 rest ih => simp [ih]
  | case3 c rest hcr ih =>
    rw [List.mem_cons, not_or]
    refine ⟨?_, ih⟩
    split
    · decide
    next hc => exact fun h => hc (by simp [← h])

theorem not_mem_ofFile (bytes : List UInt8) : '\r' ∉ ofFile bytes := not_mem_unifyLineEnds _

/-- The lines that are not empty are the pieces that are not, at the same
places. -/
theorem getElem?_lines_iff {text line : Text} (hcr : '\r' ∉ text) (hne : line ≠ []) (k : Nat) :
    (lines text)[k]? = some line ↔ (splitWhere isLineEnd text)[k]? = some line := by
  rcases splitWhere_isLineEnd hcr with h | h
  · rw [h]
  · rw [h, List.getElem?_append]
    split
    · rfl
    next hk =>
      rw [List.getElem?_eq_none (by omega)]
      refine iff_of_false (by simp) fun hlast => ?_
      exact hne (List.mem_singleton.mp (List.mem_of_getElem? hlast))

/-! ## Other line ends -/

/-- Below a line end that is no line feed nothing stands but remarks. -/
def OnlyRemarksFollow (text : Text) : Prop :=
  ∀ c after, c :: after <:+ text → isOtherBreak c = true → ∀ line ∈ lines after, IsRemark line

instance (text : Text) : Decidable (OnlyRemarksFollow text) :=
  decidable_of_iff (∀ tail ∈ text.tails, tail.head?.any isOtherBreak = true →
      ∀ line ∈ lines tail.tail, significant? line = none) <| by
    simp only [List.mem_tails, significant?_eq_none_iff]
    constructor
    · intro h c after hsuffix hc
      exact h (c :: after) hsuffix hc
    · intro h tail hsuffix hc
      cases tail with
      | nil => cases hc
      | cons c after => exact h c after hsuffix hc

theorem isLineEnd_of_isOtherBreak {c : Char} (h : isOtherBreak c = true) : isLineEnd c = true := by
  unfold isOtherBreak at h
  rw [Bool.and_eq_true] at h
  exact h.1

theorem ne_nil_of_not_isRemark {line : Text} (h : ¬ IsRemark line) : line ≠ [] := by
  rintro rfl
  exact h (.inl rfl)

/-- A line is a line of what follows any character before it. -/
theorem Span.IsLine.exists_suffix {text : Text} {span : Span text} (hline : span.IsLine)
    (hcr : '\r' ∉ text) (hne : span.part ≠ []) {c : Char} (hc : c ∈ span.before) :
    ∃ after, c :: after <:+ text ∧ span.part ∈ lines after := by
  obtain ⟨above, between, hbefore⟩ := List.append_of_mem hc
  let rest : Span (between ++ span.part ++ span.after) := ⟨between, span.part, span.after, rfl⟩
  have hrest : rest.IsLine := by
    refine ⟨hline.unbroken, fun d hd => hline.starts d ?_, hline.ends⟩
    have hlast : between.getLast? = some d := hd
    rw [hbefore, List.getLast?_append_of_ne_nil _ (by simp)]
    simp [List.getLast?_cons, hlast]
  have hsuffix : c :: (between ++ span.part ++ span.after) <:+ text := by
    refine ⟨above, Eq.trans ?_ span.whole⟩
    rw [hbefore]
    simp
  have hcr' : '\r' ∉ between ++ span.part ++ span.after := fun h =>
    hcr (hsuffix.subset (List.mem_cons_of_mem _ h))
  exact ⟨_, hsuffix, List.mem_of_getElem? ((getElem?_lines_iff hcr' hne _).mpr hrest.getElem?)⟩

/-- Where only remarks follow other line ends, a line with something to read
has none before it. -/
theorem Span.IsLine.otherBreaks_eq_zero {text : Text} {span : Span text} (hline : span.IsLine)
    (hcr : '\r' ∉ text) (hfollow : OnlyRemarksFollow text) {raw : Text}
    (hread : significant? span.content = some raw) : span.otherBreaks = 0 := by
  by_contra hne
  obtain ⟨c, hmem, hc⟩ := List.countP_pos_iff.mp (Nat.pos_of_ne_zero hne)
  have hcontent : span.content = span.part := if_neg (List.ne_nil_of_mem hmem)
  rw [hcontent] at hread
  have hremark := ((significant?_eq_some_iff _ _).mp hread).1
  obtain ⟨after, hsuffix, hbelow⟩ :=
    hline.exists_suffix hcr (ne_nil_of_not_isRemark hremark) hmem
  exact hremark (hfollow c after hsuffix hc _ hbelow)

/-- A line below such a line end is a line of the text. -/
theorem exists_span_below {text after line : Text} {c : Char} (hcr : '\r' ∉ text)
    (hsuffix : c :: after <:+ text) (hc : isOtherBreak c = true) (hmem : line ∈ lines after)
    (hremark : ¬ IsRemark line) :
    ∃ span : Span text, span.IsLine ∧ span.content = line ∧ 0 < span.otherBreaks := by
  obtain ⟨k, hk⟩ := List.mem_iff_getElem?.mp hmem
  have hcr' : '\r' ∉ after := fun h => hcr (hsuffix.subset (List.mem_cons_of_mem _ h))
  rw [getElem?_lines_iff hcr' (ne_nil_of_not_isRemark hremark)] at hk
  obtain ⟨span, hline, hpart, -⟩ := Span.exists_isLine hk
  obtain ⟨above, habove⟩ := hsuffix
  rw [List.append_cons] at habove
  subst habove
  refine ⟨span.below (above ++ [c]), hline.below _ fun _ d hd => ?_, ?_, ?_⟩
  · rw [List.getLast?_concat, Option.some.injEq] at hd
    exact hd ▸ isLineEnd_of_isOtherBreak hc
  · exact (if_neg (by simp [Span.below])).trans hpart
  · exact List.countP_pos_iff.mpr ⟨c, by simp [Span.below], hc⟩

end Text

namespace BuildScript

/-! ## Where a script is read from -/

/-- The significant lines of a text are its lines, as spans, with something to
read. -/
theorem mem_significantLines_iff_span {text : Text} (hcr : '\r' ∉ text) {number : Nat} {raw : Text} :
    (number, raw) ∈ significantLines (Text.lines text) ↔
      ∃ span : Text.Span text, span.IsLine ∧ span.number = number ∧
        Text.significant? span.content = some raw := by
  have hne : ∀ n (line : Text), significantAt n line = some raw → line ≠ [] := by
    rintro n _ hread rfl
    unfold significantAt at hread
    split at hread <;> cases hread
  rw [mem_significantLines_iff]
  constructor
  · rintro ⟨hle, line, hget, hread⟩
    rw [Text.getElem?_lines_iff hcr (hne number line hread)] at hget
    obtain ⟨span, hline, rfl, hcount⟩ := Text.Span.exists_isLine hget
    have hnumber : span.number = number := by
      rw [Text.Span.number, hcount]
      omega
    refine ⟨span, hline, hnumber, ?_⟩
    rw [← hline.significantAt_eq, hnumber]
    exact hread
  · rintro ⟨span, hline, rfl, hread⟩
    rw [← hline.significantAt_eq] at hread
    refine ⟨Nat.le_add_right _ _, span.part, ?_, hread⟩
    rw [Text.getElem?_lines_iff hcr (hne _ _ hread), Text.Span.number, Nat.add_sub_cancel_left]
    exact hline.getElem?

/-- The instruction is read from the span: from a line of the text, of which
stripping leaves the text of the instruction. -/
structure ReadFrom {text : Text} (i : Instruction) (span : Text.Span text) : Prop where
  isLine : span.IsLine
  reads : Text.significant? span.content = some i.raw

/-- The spans that a script is read from: one for each instruction, in the
order of the text. -/
structure Reads (text : Text) (script : BuildScript) (spans : List (Text.Span text)) : Prop where
  each : List.Forall₂ ReadFrom script.instructions spans
  ordered : spans.Pairwise fun span later => span.before.length < later.before.length

section Reading

variable {text : Text} {spans : List (Text.Span text)}

/-- Numbers given to the spans are the lines of the instructions. -/
theorem forall₂_line_iff {instructions : List Instruction} {f : Text.Span text → Nat} :
    List.Forall₂ (fun i span => i.line = f span) instructions spans ↔
      instructions.map (·.line) = spans.map f := by
  rw [← List.forall₂_eq_eq_eq, List.forall₂_map_left_iff, List.forall₂_map_right_iff]

/-- A line with something to read has its instruction. -/
theorem mem_lines_of_span (hcr : '\r' ∉ text) {span : Text.Span text} {raw : Text}
    (hline : span.IsLine) (hread : Text.significant? span.content = some raw) :
    span.number ∈ (ofLines (Text.lines text)).instructions.map (·.line) := by
  have hmem := (mem_significantLines_iff_span hcr).mpr ⟨span, hline, rfl, hread⟩
  rw [← instructionsFrom_map none (significantLines (Text.lines text))] at hmem
  obtain ⟨i, hi, heq⟩ := List.mem_map.mp hmem
  exact List.mem_map.mpr ⟨i, hi, congrArg Prod.fst heq⟩

theorem exists_span {i : Instruction} (hcr : '\r' ∉ text)
    (h : i ∈ (ofLines (Text.lines text)).instructions) :
    ∃ span : Text.Span text, ReadFrom i span ∧ i.line = span.number := by
  obtain ⟨owner, number, line, hmem, rfl⟩ := exists_reading h
  obtain ⟨span, hline, hnumber, hread⟩ := (mem_significantLines_iff_span hcr).mp hmem
  rw [reading_line]
  exact ⟨span, ⟨hline, by rw [reading_raw, hread]⟩, hnumber.symm⟩

theorem exists_forall₂ {α β : Type} {R : α → β → Prop} {items : List α}
    (h : ∀ a ∈ items, ∃ b, R a b) : ∃ others, List.Forall₂ R items others := by
  induction items with
  | nil => exact ⟨[], .nil⟩
  | cons a rest ih =>
    rw [List.forall_mem_cons] at h
    obtain ⟨b, hb⟩ := h.1
    obtain ⟨others, hothers⟩ := ih h.2
    exact ⟨b :: others, .cons hb hothers⟩

/-- Every instruction is read from a line, and the lines are in order. -/
theorem exists_reads (hcr : '\r' ∉ text) :
    ∃ spans, Reads text (ofLines (Text.lines text)) spans := by
  obtain ⟨spans, hspans⟩ := exists_forall₂ fun i hi => exists_span hcr hi
  refine ⟨spans, hspans.imp fun _ _ h => h.1, ?_⟩
  have hlines := forall₂_line_iff.mp (hspans.imp fun _ _ h => h.2)
  have hsorted := ofLines_sorted (Text.lines text)
  rw [hlines, List.pairwise_map] at hsorted
  exact hsorted.imp Text.Span.length_lt

theorem Reads.readable {script : BuildScript} (h : Reads text script spans) :
    ∀ span ∈ spans, span.IsLine ∧ ∃ raw, Text.significant? span.content = some raw := by
  have hboth := h.each.flip.imp fun span i hi =>
    (⟨⟨hi.isLine, i.raw, hi.reads⟩, hi⟩ :
      (span.IsLine ∧ ∃ raw, Text.significant? span.content = some raw) ∧ ReadFrom i span)
  exact ((List.forall₂_and_left _ _).mp hboth).1

/-- The lines that a script is read from leave out none that has something to
read, so the number of an instruction is that of the line it is read from. -/
theorem Reads.lines_eq (hcr : '\r' ∉ text) (h : Reads text (ofLines (Text.lines text)) spans) :
    (ofLines (Text.lines text)).instructions.map (·.line) = spans.map (·.number) := by
  have hsorted : (spans.map (·.number)).Pairwise (· < ·) := by
    rw [List.pairwise_map]
    exact h.ordered.imp_of_mem fun _ hlater hlt => (h.readable _ hlater).1.number_lt hlt
  have hsubset : spans.map (·.number) ⊆
      (ofLines (Text.lines text)).instructions.map (·.line) := by
    intro number hnumber
    obtain ⟨span, hspan, rfl⟩ := List.mem_map.mp hnumber
    obtain ⟨hline, raw, hraw⟩ := h.readable span hspan
    exact mem_lines_of_span hcr hline hraw
  have hsublist := sublist_of_subset (hsorted.imp Nat.ne_of_lt) (hsorted.imp Nat.le_of_lt)
    (ofLines_sorted _) hsubset
  refine (hsublist.eq_of_length ?_).symm
  rw [List.length_map, List.length_map, h.each.length_eq]

/-- The instructions are numbered as the rows of the spans that they are read
from, and no row holds two of them. -/
structure CountsRows (script : BuildScript) (spans : List (Text.Span text)) : Prop where
  numbered : List.Forall₂ (fun i span => i.line = span.row) script.instructions spans
  apart : spans.Pairwise fun span later => span.row ≠ later.row

theorem Reads.countsRows_iff (hcr : '\r' ∉ text)
    (h : Reads text (ofLines (Text.lines text)) spans) :
    CountsRows (ofLines (Text.lines text)) spans ↔ ∀ span ∈ spans, span.otherBreaks = 0 := by
  have hlines := h.lines_eq hcr
  have hrow : (∀ span ∈ spans, span.number = span.row) ↔
      ∀ span ∈ spans, span.otherBreaks = 0 := by
    refine forall₂_congr fun span _ => ?_
    rw [span.number_eq]
    omega
  rw [← hrow, ← List.map_inj_left, ← hlines]
  constructor
  · intro hcounts
    exact forall₂_line_iff.mp hcounts.numbered
  · intro heq
    refine ⟨forall₂_line_iff.mpr heq, ?_⟩
    have hsorted := ofLines_sorted (Text.lines text)
    rw [heq, List.pairwise_map] at hsorted
    exact hsorted.imp Nat.ne_of_lt

theorem Reads.onlyRemarksFollow_iff (hcr : '\r' ∉ text)
    (h : Reads text (ofLines (Text.lines text)) spans) :
    (∀ span ∈ spans, span.otherBreaks = 0) ↔ text.OnlyRemarksFollow := by
  constructor
  · intro hnone c after hsuffix hc line hmem
    by_contra hremark
    obtain ⟨span, hline, hcontent, hbreak⟩ := Text.exists_span_below hcr hsuffix hc hmem hremark
    have hread : Text.significant? span.content = some (Text.strip line) := by
      rw [hcontent]
      exact (Text.significant?_eq_some_iff _ _).mpr ⟨hremark, rfl⟩
    have hnumber := mem_lines_of_span hcr hline hread
    rw [h.lines_eq hcr] at hnumber
    obtain ⟨read, hmemread, heq⟩ := List.mem_map.mp hnumber
    have hbefore := (h.readable read hmemread).1.before_eq hline heq
    have hzero := hnone read hmemread
    rw [Text.Span.otherBreaks, hbefore] at hzero
    exact hbreak.ne' hzero
  · intro hfollow span hspan
    obtain ⟨hline, raw, hraw⟩ := h.readable span hspan
    exact hline.otherBreaks_eq_zero hcr hfollow hraw

end Reading

end BuildScript

/-! ## The law -/

open BuildScript

/-- The lines of a script are the rows of its file exactly when only remarks
follow other line ends. The instructions of a file that can be read are read
from lines of its text, in order. Whatever these are, each holds the text of its
instruction, whose number is that of the row and one more for each line end
before it that is no line feed; and all are numbered as their rows, with no row
for two of them, exactly when below such a line end nothing stands but remarks. -/
theorem lines_are_rows_exactly_when_only_remarks_follow_other_breaks (files : Files) (path : Path)
    (bytes : List UInt8) (h : files.find path = .ok (.file bytes)) :
    ∃ lines, Source.readLines files path = .ok lines ∧
      (∃ spans, Reads (Text.ofFile bytes) (ofLines lines) spans) ∧
      ∀ spans, Reads (Text.ofFile bytes) (ofLines lines) spans →
        List.Forall₂ (fun i span => i.raw <:+: span.part ∧ i.line = span.row + span.otherBreaks)
          (ofLines lines).instructions spans ∧
        (CountsRows (ofLines lines) spans ↔ (Text.ofFile bytes).OnlyRemarksFollow) := by
  have hcr := Text.not_mem_ofFile bytes
  refine ⟨_, Run.readLines_eq_ok_iff.mpr ⟨_, ⟨bytes, h, rfl⟩, rfl⟩, exists_reads hcr, ?_⟩
  intro spans hreads
  refine ⟨?_, (hreads.countsRows_iff hcr).trans (hreads.onlyRemarksFollow_iff hcr)⟩
  have hnumbers := forall₂_line_iff.mpr (hreads.lines_eq hcr)
  refine hreads.each.mp (fun i span hi hline => ?_) hnumbers
  exact ⟨Text.Span.isInfix_part hi.reads, by rw [hline, span.number_eq]⟩

/-- A page break at the end of a row, with a comment below it. -/
theorem a_page_break_above_a_comment_moves_nothing :
    let bytes := Text.encode (Text.byteOrderMark :: "\r\n USER root\x0c\r# end".toList)
    let files := Files.ofList [(.ofText "Dockerfile", .ok (.file bytes))]
    ∃ lines spans, Source.readLines files (.ofText "Dockerfile") = .ok lines ∧
      Reads (Text.ofFile bytes) (ofLines lines) spans ∧ CountsRows (ofLines lines) spans ∧
      (ofLines lines).instructions.map (fun i => (i.line, i.raw)) = [(2, "USER root".toList)] := by
  intro bytes files
  obtain ⟨lines, hlines, ⟨spans, hspans⟩, hcounts⟩ :=
    lines_are_rows_exactly_when_only_remarks_follow_other_breaks files (.ofText "Dockerfile") bytes
      rfl
  have hfollow : (Text.ofFile bytes).OnlyRemarksFollow := by decide +kernel
  refine ⟨lines, spans, hlines, hspans, (hcounts spans hspans).2.mpr hfollow, ?_⟩
  have hread : Source.readLines files (.ofText "Dockerfile") =
      .ok [[], " USER root".toList, [], "# end".toList] := by decide +kernel
  obtain rfl := Except.ok.inj (hlines.symm.trans hread)
  decide +kernel

/-- A page break between two rows. The user below it is said to stand on line 4,
and no row but the third holds its text. -/
theorem a_page_break_moves_the_lines_below_it :
    let bytes := Text.encode "FROM node:18\n\x0c\nUSER root\n"
    let files := Files.ofList [(.ofText "Dockerfile", .ok (.file bytes))]
    ∃ lines, Source.readLines files (.ofText "Dockerfile") = .ok lines ∧
      ¬ ∀ i ∈ (ofLines lines).instructions,
        ∃ span : Text.Span (Text.ofFile bytes), span.part = i.raw ∧ i.line = span.row := by
  intro bytes files
  have htext : Text.ofFile bytes = "FROM node:18\n\x0c\nUSER root\n".toList := by decide +kernel
  refine ⟨Text.lines (Text.ofFile bytes), by rfl, fun hall => ?_⟩
  have huser : ∃ i ∈ (ofLines (Text.lines (Text.ofFile bytes))).instructions,
      i.line = 4 ∧ i.raw = "USER root".toList := by decide +kernel
  obtain ⟨i, hi, hline, hraw⟩ := huser
  obtain ⟨span, hpart, hrow⟩ := hall i hi
  -- All three line feeds would stand before the text, but one ends the file.
  have hcount : span.before.count '\n' = 3 := by
    rw [hline, Text.Span.row] at hrow
    omega
  have hne : span.part ++ span.after ≠ [] := by simp [hpart, hraw]
  have hwhole := span.whole
  rw [List.append_assoc] at hwhole
  have hlast : (span.part ++ span.after).getLast? = some '\n' := by
    rw [← List.getLast?_append_of_ne_nil span.before hne, hwhole, htext]
    rfl
  have htotal : (span.before ++ (span.part ++ span.after)).count '\n' = 3 := by
    rw [hwhole, htext]
    decide
  rw [List.count_append, hcount] at htotal
  have hpos := List.count_pos_iff.mpr (List.mem_of_getLast? hlast)
  omega

end ImageLint
