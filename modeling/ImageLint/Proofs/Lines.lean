-- Texts cut at chosen characters and joined again, and the lines of a text told
-- by such a cut: lines are the pieces between line ends, but that a carriage
-- return and its line feed end one line together, and that no empty line comes
-- last.
import ImageLint.Proofs.Text

namespace ImageLint.Text

/-! ## Pieces -/

theorem splitWhere_ne_nil (p : Char → Bool) (s : Text) : splitWhere p s ≠ [] := by
  fun_cases splitWhere p s <;> simp

theorem splitWhere_cons_of_pos {p : Char → Bool} {c : Char} (hc : p c = true) (rest : Text) :
    splitWhere p (c :: rest) = [] :: splitWhere p rest := by
  rw [splitWhere, if_pos hc]

/-- A character that is not cut out belongs to the first piece. -/
theorem exists_splitWhere_cons {p : Char → Bool} {c : Char} (hc : ¬ p c = true) (rest : Text) :
    ∃ piece pieces, splitWhere p rest = piece :: pieces ∧
      splitWhere p (c :: rest) = (c :: piece) :: pieces := by
  obtain ⟨piece, pieces, hrest⟩ := List.exists_cons_of_ne_nil (splitWhere_ne_nil p rest)
  refine ⟨piece, pieces, hrest, ?_⟩
  rw [splitWhere, if_neg hc, hrest]

/-- A text is cut at each character that satisfies the test. -/
theorem splitWhere_append_cons {p : Char → Bool} {c : Char} (hc : p c = true) (s t : Text) :
    splitWhere p (s ++ c :: t) = splitWhere p s ++ splitWhere p t := by
  induction s with
  | nil => exact splitWhere_cons_of_pos hc t
  | cons d rest ih =>
    rw [List.cons_append]
    by_cases hd : p d = true
    · rw [splitWhere_cons_of_pos hd, splitWhere_cons_of_pos hd, ih, List.cons_append]
    · obtain ⟨piece, pieces, hrest, hcons⟩ := exists_splitWhere_cons hd rest
      obtain ⟨piece', pieces', hrest', hcons'⟩ := exists_splitWhere_cons hd (rest ++ c :: t)
      rw [ih, hrest, List.cons_append, List.cons.injEq] at hrest'
      rw [hcons, hcons', ← hrest'.1, ← hrest'.2, List.cons_append]

theorem splitWhere_eq_singleton {p : Char → Bool} {s : Text} (h : ∀ c ∈ s, p c = false) :
    splitWhere p s = [s] := by
  induction s with
  | nil => rfl
  | cons c rest ih =>
    rw [List.forall_mem_cons] at h
    simp [splitWhere, h.1, ih h.2]

/-- No piece holds a character that is cut out. -/
theorem mem_splitWhere {p : Char → Bool} {s piece : Text} (h : piece ∈ splitWhere p s) :
    ∀ c ∈ piece, p c = false := by
  induction s generalizing piece with
  | nil => simp_all [splitWhere]
  | cons c rest ih =>
    by_cases hc : p c = true
    · rw [splitWhere_cons_of_pos hc] at h
      rcases List.mem_cons.mp h with rfl | hmem
      · simp
      · exact ih hmem
    · obtain ⟨first, more, hrest, hcons⟩ := exists_splitWhere_cons hc rest
      rw [hcons] at h
      rw [hrest] at ih
      rcases List.mem_cons.mp h with rfl | hmem
      · rw [List.forall_mem_cons]
        exact ⟨by simpa using hc, ih List.mem_cons_self⟩
      · exact ih (List.mem_cons_of_mem _ hmem)

/-- There is one more piece than there are characters that are cut out. -/
theorem length_splitWhere (p : Char → Bool) (s : Text) :
    (splitWhere p s).length = s.countP p + 1 := by
  induction s with
  | nil => rfl
  | cons c rest ih =>
    by_cases hc : p c = true
    · rw [splitWhere_cons_of_pos hc, List.length_cons, ih, List.countP_cons_of_pos hc]
    · obtain ⟨piece, pieces, hrest, hcons⟩ := exists_splitWhere_cons hc rest
      rw [hrest] at ih
      rw [hcons, List.countP_cons_of_neg hc, ← ih]
      rfl

/-! ## Joins -/

section Joins

variable {α : Type} {read : Text → List α}

/-- What reads two joined texts one after the other reads any join piece by
piece. -/
theorem flatMap_of_joinWith {separator : Text} (hnil : read [] = [])
    (happend : ∀ s t, read (s ++ separator ++ t) = read s ++ read t) (pieces : List Text) :
    read (joinWith separator pieces) = pieces.flatMap read := by
  unfold joinWith
  induction pieces with
  | nil => exact hnil
  | cons first rest ih =>
    cases rest with
    | nil => rw [List.intercalate_singleton, List.flatMap_cons, List.flatMap_nil, List.append_nil]
    | cons second rest =>
      rw [List.intercalate_cons_cons, happend, ih]
      rfl

theorem flatMap_eq_self {read : Text → List Text} {pieces : List Text}
    (h : ∀ piece ∈ pieces, read piece = [piece]) : pieces.flatMap read = pieces :=
  (List.flatMap_congr h).trans (List.flatMap_singleton' pieces)

end Joins

/-! ## Lines -/

/-- A character that ends no line stands in the first line. -/
theorem lines_cons {c : Char} (h : isLineEnd c = false) (s : Text) :
    lines (c :: s) = (c :: (lines s).headD []) :: (lines s).tail := by
  rw [lines.eq_3 c s, if_neg (by simp [h])]
  · cases lines s <;> rfl
  · intro rest hc _
    subst hc
    exact absurd h (by decide)

/-- A line end that goes with no character after it closes the first line. -/
theorem lines_cons_of_isLineEnd {c : Char} (h : isLineEnd c = true) (hcr : c ≠ '\r') (s : Text) :
    lines (c :: s) = [] :: lines s := by
  rw [lines.eq_3 c s fun _ hc _ => hcr hc, if_pos h]

/-- Without carriage returns the lines are the pieces between line ends, but
for an empty one at the end. -/
theorem splitWhere_isLineEnd {s : Text} (h : '\r' ∉ s) :
    splitWhere isLineEnd s = lines s ∨ splitWhere isLineEnd s = lines s ++ [[]] := by
  induction s with
  | nil => exact .inr rfl
  | cons c rest ih =>
    rw [List.mem_cons, not_or] at h
    by_cases hc : isLineEnd c = true
    · rw [splitWhere_cons_of_pos hc, lines_cons_of_isLineEnd hc (Ne.symm h.1)]
      rcases ih h.2 with ih | ih
      · exact .inl (by rw [ih])
      · exact .inr (by rw [ih, List.cons_append])
    · obtain ⟨piece, pieces, hrest, hcons⟩ := exists_splitWhere_cons hc rest
      rw [hcons, lines_cons (by simpa using hc)]
      rcases ih h.2 with ih | ih
      · rw [hrest] at ih
        exact .inl (by rw [← ih]; rfl)
      · rw [hrest] at ih
        rcases hlines : lines rest with _ | ⟨first, more⟩
        · -- Nothing follows, and the piece is the last line and not empty.
          rw [hlines] at ih
          obtain ⟨rfl, rfl⟩ := List.cons.inj ih
          exact .inl rfl
        · rw [hlines, List.cons_append] at ih
          obtain ⟨rfl, rfl⟩ := List.cons.inj ih
          exact .inr rfl

section WithoutEmptyLines

variable {α : Type} {f : Text → Option α} (hf : f [] = none)

include hf

/-- Lists that start alike and differ in empty pieces below are picked from
alike; an empty first piece may be missing. -/
theorem filterMap_eq_of_first {pieces others : List Text}
    (hfirst : pieces.headD [] = others.headD [])
    (hmore : pieces.tail.filterMap f = others.tail.filterMap f) :
    pieces.filterMap f = others.filterMap f := by
  have hsplit : ∀ l : List Text, l.filterMap f = (l.headD [] :: l.tail).filterMap f := by
    intro l
    cases l with
    | nil => exact (List.filterMap_cons_none hf).symm
    | cons first more => rfl
  rw [hsplit pieces, hsplit others, List.filterMap_cons, List.filterMap_cons, hfirst, hmore]

/-- The first line is the first piece; below it the two differ in empty lines
only. -/
theorem lines_eq_pieces (s : Text) :
    (lines s).headD [] = (splitWhere isLineEnd s).headD [] ∧
      (lines s).tail.filterMap f = (splitWhere isLineEnd s).tail.filterMap f := by
  induction s using lines.induct with
  | case1 => exact ⟨rfl, rfl⟩
  | case2 rest ih =>
    rw [lines, splitWhere_cons_of_pos (by rfl), splitWhere_cons_of_pos (by rfl)]
    refine ⟨rfl, ?_⟩
    rw [List.tail_cons, List.tail_cons, List.filterMap_cons_none hf]
    exact filterMap_eq_of_first hf ih.1 ih.2
  | case3 c rest hcr hend ih =>
    rw [lines.eq_3 c rest hcr, if_pos hend, splitWhere_cons_of_pos hend]
    exact ⟨rfl, filterMap_eq_of_first hf ih.1 ih.2⟩
  | case4 c rest hcr hend hnil ih =>
    obtain rfl := (lines_eq_nil_iff rest).mp hnil
    rw [lines_cons (by simpa using hend), splitWhere_eq_singleton (by simpa using hend)]
    exact ⟨rfl, rfl⟩
  | case5 c rest hcr hend first more hcons ih =>
    obtain ⟨piece, pieces, hrest, hcut⟩ := exists_splitWhere_cons hend rest
    rw [hcons, hrest] at ih
    rw [lines_cons (by simpa using hend), hcons, hcut]
    exact ⟨congrArg (c :: ·) ih.1, ih.2⟩

/-- Where empty lines do not count, the lines of a text are its pieces between
line ends. -/
theorem filterMap_lines (s : Text) :
    (lines s).filterMap f = (splitWhere isLineEnd s).filterMap f := by
  obtain ⟨hfirst, hmore⟩ := lines_eq_pieces hf s
  exact filterMap_eq_of_first hf hfirst hmore

end WithoutEmptyLines

end ImageLint.Text
