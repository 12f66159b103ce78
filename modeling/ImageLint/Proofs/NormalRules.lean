-- The rules of an exclusion file are its normal form. They are read line by
-- line, however lines are ended; each of them is a plain line, and a file with
-- just these lines has the same rules again.
import ImageLint.Proofs.ExclusionGrowth

namespace ImageLint

/-! ## Line ends -/

namespace Text

/-- The text with every line feed written as `ending`. -/
def withLineFeedsAs (ending s : Text) : Text :=
  s.flatMap fun c => if c = '\n' then ending else [c]

theorem withLineFeedsAs_self (s : Text) : withLineFeedsAs ['\n'] s = s := by
  have hself : ∀ c : Char, (if c = '\n' then ['\n'] else [c]) = [c] := by
    intro c
    split
    next h => rw [h]
    next => rfl
  unfold withLineFeedsAs
  simp only [hself]
  exact List.flatMap_singleton' s

/-- A join whose first piece is longer by a character. -/
theorem joinWith_cons_cons (separator : Text) (c : Char) (piece : Text) (pieces : List Text) :
    joinWith separator ((c :: piece) :: pieces) = c :: joinWith separator (piece :: pieces) := by
  unfold joinWith
  cases pieces with
  | nil => rw [List.intercalate_singleton, List.intercalate_singleton]
  | cons second rest =>
    rw [List.intercalate_cons_cons, List.intercalate_cons_cons, List.cons_append, List.cons_append]

/-- Line feeds stand between the pieces that they cut a text into. -/
theorem withLineFeedsAs_eq_joinWith (ending s : Text) :
    withLineFeedsAs ending s = joinWith ending (splitWhere (· == '\n') s) := by
  induction s with
  | nil => rfl
  | cons c rest ih =>
    have hcons : withLineFeedsAs ending (c :: rest) =
        (if c = '\n' then ending else [c]) ++ withLineFeedsAs ending rest := rfl
    rw [hcons, ih]
    by_cases hc : c = '\n'
    · obtain ⟨piece, pieces, hrest⟩ := List.exists_cons_of_ne_nil (splitWhere_ne_nil (· == '\n') rest)
      rw [if_pos hc, splitWhere_cons_of_pos (by simpa using hc), hrest]
      unfold joinWith
      rw [List.intercalate_cons_cons, List.nil_append]
    · obtain ⟨piece, pieces, hrest, hcut⟩ :=
        exists_splitWhere_cons (p := (· == '\n')) (by simpa using hc) rest
      rw [if_neg hc, hcut, hrest, joinWith_cons_cons]
      rfl

end Text

namespace Exclusions

/-- The text ends at least one line and holds nothing else. -/
structure IsEnding (ending : Text) : Prop where
  nonempty : ending ≠ []
  ends : ∀ c ∈ ending, Text.isLineEnd c = true

theorem isEnding_singleton {c : Char} (h : Text.isLineEnd c = true) : IsEnding [c] :=
  ⟨List.cons_ne_nil c [], List.forall_mem_singleton.mpr h⟩

theorem IsEnding.cons {c : Char} {ending : Text} (hc : Text.isLineEnd c = true)
    (h : IsEnding ending) : IsEnding (c :: ending) :=
  ⟨List.cons_ne_nil c ending, List.forall_mem_cons.mpr ⟨hc, h.ends⟩⟩

theorem effectiveRules_breaks_append {breaks : Text} (h : ∀ c ∈ breaks, Text.isLineEnd c = true)
    (s : Text) : effectiveRules (breaks ++ s) = effectiveRules s := by
  induction breaks with
  | nil => rfl
  | cons c rest ih =>
    rw [List.forall_mem_cons] at h
    exact (effectiveRules_append_break h.1 [] (rest ++ s)).trans (ih h.2)

theorem effectiveRules_append_ending {ending : Text} (h : IsEnding ending) (s t : Text) :
    effectiveRules (s ++ ending ++ t) = effectiveRules s ++ effectiveRules t := by
  obtain ⟨c, rest, rfl⟩ := List.exists_cons_of_ne_nil h.nonempty
  have hends := List.forall_mem_cons.mp h.ends
  rw [List.append_assoc, List.cons_append, effectiveRules_append_break hends.1,
    effectiveRules_breaks_append hends.2]

/-- Texts with line ends between them give the rules of each. -/
theorem effectiveRules_joinWith {ending : Text} (h : IsEnding ending) (parts : List Text) :
    effectiveRules (Text.joinWith ending parts) = parts.flatMap effectiveRules :=
  Text.flatMap_of_joinWith rfl (effectiveRules_append_ending h) parts

/-- It does not matter which line end stands for a line feed. -/
theorem effectiveRules_withLineFeedsAs {ending : Text} (h : IsEnding ending) (s : Text) :
    effectiveRules (Text.withLineFeedsAs ending s) = effectiveRules s := by
  have hfeed : IsEnding ['\n'] := isEnding_singleton rfl
  calc effectiveRules (Text.withLineFeedsAs ending s)
      = (Text.splitWhere (· == '\n') s).flatMap effectiveRules := by
        rw [Text.withLineFeedsAs_eq_joinWith, effectiveRules_joinWith h]
    _ = effectiveRules (Text.withLineFeedsAs ['\n'] s) := by
        rw [Text.withLineFeedsAs_eq_joinWith, effectiveRules_joinWith hfeed]
    _ = effectiveRules s := by rw [Text.withLineFeedsAs_self]

/-! ## Rules -/

/-- A rule as it is kept: a line that is not blank, has no blank at its ends
and is no comment. -/
structure IsRule (rule : Text) : Prop where
  nonempty : rule ≠ []
  stripped : Text.strip rule = rule
  uncommented : rule.head? ≠ some '#'
  unbroken : ∀ c ∈ rule, Text.isLineEnd c = false

theorem isRule_of_mem {content rule : Text} (h : rule ∈ effectiveRules content) : IsRule rule := by
  rw [effectiveRules_eq_pieces] at h
  obtain ⟨piece, hpiece, hread⟩ := List.mem_filterMap.mp h
  obtain ⟨hbare, hhash⟩ := Text.bare_of_significant? hread
  have hstrip : Text.strip piece = rule := ((Text.significant?_eq_some_iff piece rule).mp hread).2
  have hwithin : rule <:+: piece := hstrip ▸ Text.strip_isInfix piece
  exact ⟨hbare.nonempty, hbare.strip_eq, hhash, fun c hc =>
    Text.mem_splitWhere hpiece c (hwithin.subset hc)⟩

theorem IsRule.bare {rule : Text} (h : IsRule rule) : Text.Bare rule where
  nonempty := h.nonempty
  starts := h.stripped ▸ Text.startsBare_strip rule
  ends := h.stripped ▸ Text.endsBare_strip rule

/-- A rule by itself is the one rule of its text. -/
theorem IsRule.effectiveRules_eq {rule : Text} (h : IsRule rule) : effectiveRules rule = [rule] := by
  rw [effectiveRules_eq_pieces, Text.splitWhere_eq_singleton h.unbroken]
  exact List.filterMap_cons_some (Text.significant?_of_strip h.bare h.uncommented h.stripped)

theorem effectiveRules_of_isRule {rules : List Text} (h : ∀ rule ∈ rules, IsRule rule) :
    effectiveRules (Text.joinWith ['\n'] rules) = rules := by
  rw [effectiveRules_joinWith (isEnding_singleton rfl)]
  exact Text.flatMap_eq_self fun rule hrule => (h rule hrule).effectiveRules_eq

/-! ## The law -/

/-- The rules of a file are a normal form of it, line by line. Those of two
texts with a line feed between them are the rules of the first and then of the
second; it changes nothing to write line feeds as carriage returns, with or
without a line feed; what is read is rules; and the lists of rules are just
those that are read back from their own lines. -/
theorem rules_are_a_normal_form (a b : Text) :
    effectiveRules (a ++ '\n' :: b) = effectiveRules a ++ effectiveRules b ∧
      effectiveRules (Text.withLineFeedsAs ['\r', '\n'] a) = effectiveRules a ∧
      effectiveRules (Text.withLineFeedsAs ['\r'] a) = effectiveRules a ∧
      (∀ rule ∈ effectiveRules a, IsRule rule) ∧
      effectiveRules (Text.joinWith ['\n'] (effectiveRules a)) = effectiveRules a ∧
      ∀ rules : List Text, (∀ rule ∈ rules, IsRule rule) ↔
        effectiveRules (Text.joinWith ['\n'] rules) = rules := by
  refine ⟨effectiveRules_append_break (by rfl) a b,
    effectiveRules_withLineFeedsAs (.cons rfl (isEnding_singleton rfl)) a,
    effectiveRules_withLineFeedsAs (isEnding_singleton rfl) a, fun rule => isRule_of_mem,
    effectiveRules_of_isRule fun rule => isRule_of_mem, fun rules => ?_⟩
  constructor
  · exact effectiveRules_of_isRule
  · intro hread rule hrule
    rw [← hread] at hrule
    exact isRule_of_mem hrule

/-- A file whose lines end in three ways, the last with a carriage return that
the line feed below belongs to. -/
theorem a_file_of_mixed_line_ends_is_read_back :
    let content : Text := " dist/\t\r\n# logs\x0b*.log\r"
    let rules := ["dist/".toList, "*.log".toList]
    effectiveRules content = rules ∧ IsRule "*.log".toList ∧
      effectiveRules (content ++ '\n' :: "\u2028.git".toList) = rules ++ [".git".toList] ∧
      effectiveRules (Text.joinWith ['\n'] rules) = rules := by
  intro content rules
  obtain ⟨hbelow, _, _, hrules, hback, _⟩ := rules_are_a_normal_form content "\u2028.git"
  have hread : effectiveRules content = rules := by decide +kernel
  have hmore : effectiveRules "\u2028.git".toList = [".git".toList] := by decide +kernel
  rw [hread] at hbelow hrules hback
  rw [hmore] at hbelow
  exact ⟨hread, hrules _ (by simp [rules]), hbelow, hback⟩

end Exclusions

end ImageLint
