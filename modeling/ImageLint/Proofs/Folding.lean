-- A build script with every command on one line: how it is folded, and that
-- it reads as the directives of the script, each with its whole command.
import ImageLint.Facts
import ImageLint.Proofs.Blocks

namespace ImageLint.BuildScript

open Text

/-! ## Backslashes -/

theorem isOpen_iff (line : Text) : isOpen line = true ↔ line.getLast? = some '\\' := by
  unfold isOpen Text.endsWith
  rw [List.isSuffixOf_iff_suffix, List.getLast?_eq_some_iff]
  exact ⟨fun ⟨before, h⟩ => ⟨before, h.symm⟩, fun ⟨before, h⟩ => ⟨before, h.symm⟩⟩

theorem isOpen_append (s : Text) {t : Text} (hne : t ≠ []) : isOpen (s ++ t) = isOpen t := by
  rw [Bool.eq_iff_iff, isOpen_iff, isOpen_iff, List.getLast?_append_of_ne_nil _ hne]

theorem dropBackslash_eq (s : Text) :
    dropBackslash s = if isOpen (strip s) then stripEnd (strip s).dropLast else strip s := rfl

theorem startsBare_dropBackslash (s : Text) : StartsBare (dropBackslash s) := by
  rw [dropBackslash_eq]
  split
  · exact startsBare_of_isPrefix ((stripEnd_isPrefix _).trans (List.dropLast_prefix _))
      (startsBare_strip s)
  · exact startsBare_strip s

theorem endsBare_dropBackslash (s : Text) : EndsBare (dropBackslash s) := by
  rw [dropBackslash_eq]
  split
  · exact endsBare_stripEnd _
  · exact endsBare_strip s

theorem dropBackslash_eq_self {s : Text} (h : Bare s) (hopen : isOpen s = false) :
    dropBackslash s = s := by
  rw [dropBackslash_eq, h.strip_eq, hopen]
  rfl

theorem dropBackslash_concat {s : Text} (h : Bare (s ++ ['\\'])) :
    dropBackslash (s ++ ['\\']) = stripEnd s := by
  rw [dropBackslash_eq, h.strip_eq, if_pos ((isOpen_iff _).mpr (by simp)), List.dropLast_concat]

/-- The backslash goes from the end of the argument. When it was all of the
argument, the blanks before it go too. -/
theorem dropBackslash_opened {token gap argument : Text} (ht : Bare token)
    (hgap : ∀ c ∈ gap, isBlank c = true) (ha : Bare argument) :
    dropBackslash (token ++ gap ++ argument) =
      if (dropBackslash argument).isEmpty then token
      else token ++ gap ++ dropBackslash argument := by
  have hwhole := ht.around gap ha
  have hopen := isOpen_append (token ++ gap) ha.nonempty
  cases h : isOpen argument with
  | false =>
    rw [dropBackslash_eq_self ha h, dropBackslash_eq_self hwhole (hopen.trans h), if_neg]
    simp [ha.nonempty]
  | true =>
    obtain ⟨before, rfl⟩ := List.getLast?_eq_some_iff.mp ((isOpen_iff argument).mp h)
    have hgone : stripEnd gap = [] := List.rdropWhile_eq_nil_iff.mpr hgap
    rw [← List.append_assoc] at hwhole ⊢
    rw [dropBackslash_concat hwhole, dropBackslash_concat ha, stripEnd_append, stripEnd_append,
      hgone, List.isEmpty_nil, if_pos rfl, stripEnd_eq_self ht.ends]

/-! ## One command -/

/-- The instruction on a line that starts with `token` and goes on with
`argument`. -/
def opened (number : Nat) (token argument line : Text) : Instruction :=
  if Keyword.ofToken token == .unknown && !Keyword.isOther token then
    { keyword := .unknown, argument := line, line := number, raw := line, malformed := true }
  else
    { keyword := Keyword.ofToken token, argument := argument, line := number, raw := line }

/-- The text is a word: it has characters, and none of them is blank. -/
def IsWord (s : Text) : Prop := s ≠ [] ∧ ∀ c ∈ s, isBlank c = false

/-- The text is a gap between words: it has characters, and all are blank. -/
def IsGap (s : Text) : Prop := s ≠ [] ∧ ∀ c ∈ s, isBlank c = true

instance (s : Text) : Decidable (IsWord s) :=
  decidable_of_iff (s ≠ [] ∧ s.all (!isBlank ·) = true) (by simp [IsWord])

instance (s : Text) : Decidable (IsGap s) :=
  decidable_of_iff (s ≠ [] ∧ s.all isBlank = true) (by simp [IsGap])

theorem IsWord.bare {s : Text} (h : IsWord s) : Bare s where
  nonempty := h.1
  starts c hc := h.2 c (List.mem_of_head? hc)
  ends c hc := h.2 c (List.mem_of_getLast? hc)

/-- A line that has text after its opening word is the word, a gap and the
text. -/
theorem exists_parts {line : Text} (h : Bare line)
    (hrest : line.dropWhile (!isBlank ·) ≠ []) :
    ∃ token gap argument, line = token ++ gap ++ argument ∧ IsWord token ∧ IsGap gap ∧
      Bare argument := by
  obtain ⟨first, more, hcons⟩ := List.exists_cons_of_ne_nil h.nonempty
  have hfirst : isBlank first = false := h.starts first (by rw [hcons]; rfl)
  have hline : line.takeWhile (!isBlank ·) ++ line.dropWhile (!isBlank ·) = line :=
    List.takeWhile_append_dropWhile
  obtain ⟨blank, after, hafter⟩ := List.exists_cons_of_ne_nil hrest
  have hblank : isBlank blank = true := by
    have hnot := List.head?_dropWhile_not (!isBlank ·) line
    rw [hafter] at hnot
    simpa using hnot
  have hends := endsBare_of_isSuffix (List.dropWhile_suffix (!isBlank ·)) h.ends
  refine ⟨line.takeWhile (!isBlank ·), (line.dropWhile (!isBlank ·)).takeWhile isBlank,
    (line.dropWhile (!isBlank ·)).dropWhile isBlank, ?_, ⟨?_, ?_⟩, ⟨?_, ?_⟩, ?_, ?_, ?_⟩
  · rw [List.append_assoc, List.takeWhile_append_dropWhile, hline]
  · rw [hcons, List.takeWhile_cons_of_pos (by simp [hfirst])]
    exact List.cons_ne_nil _ _
  · intro c hc
    simpa using List.mem_takeWhile_imp hc
  · rw [hafter, List.takeWhile_cons_of_pos hblank]
    exact List.cons_ne_nil _ _
  · intro c hc
    exact List.mem_takeWhile_imp hc
  · -- a line of the word and blanks only would end with a blank
    intro hnil
    have hall := List.dropWhile_eq_nil_iff.mp hnil _ (List.getLast_mem hrest)
    rw [hends _ (List.getLast?_eq_some_getLast hrest)] at hall
    cases hall
  · exact startsBare_stripStart _
  · exact endsBare_of_isSuffix (List.dropWhile_suffix _) hends

theorem directive_parts (number : Nat) {token gap argument : Text} (ht : IsWord token)
    (hgap : IsGap gap) (ha : Bare argument) :
    directive number (token ++ gap ++ argument) =
      opened number token argument (token ++ gap ++ argument) := by
  obtain ⟨blank, blanks, rfl⟩ := List.exists_cons_of_ne_nil hgap.1
  have hblank : isBlank blank = true := hgap.2 blank List.mem_cons_self
  have htake : (token ++ blank :: blanks ++ argument).takeWhile (!isBlank ·) = token := by
    rw [List.append_assoc, List.takeWhile_append_of_pos (by simpa using ht.2)]
    simp [hblank]
  have hdrop : (token ++ blank :: blanks ++ argument).dropWhile (!isBlank ·) =
      blank :: blanks ++ argument := by
    rw [List.append_assoc, List.dropWhile_append_of_pos (by simpa using ht.2)]
    simp [hblank]
  have hstrip : strip (blank :: blanks ++ argument) = argument := by
    unfold strip stripStart
    rw [List.dropWhile_append_of_pos hgap.2]
    exact ha.strip_eq
  have hsome : argument.isEmpty = false := by simp [ha.nonempty]
  unfold directive opened
  simp only [htake, hdrop, hstrip, hsome]
  cases hk : Keyword.ofToken token <;> cases ho : Keyword.isOther token <;> rfl

/-- The pieces that are not empty, with single blanks between them. -/
def joinKept (pieces : List Text) : Text := joinWith [' '] (pieces.filter (!·.isEmpty))

theorem joinKept_singleton {piece : Text} (h : piece ≠ []) : joinKept [piece] = piece := by
  simp [joinKept, joinWith, h]

theorem bare_joinKept {pieces : List Text} {last : Text} (hlast : Bare last)
    (h : ∀ piece ∈ pieces, StartsBare piece ∧ EndsBare piece) :
    Bare (joinKept (pieces ++ [last])) := by
  have hkept : last ∈ (pieces ++ [last]).filter (!·.isEmpty) := by simp [hlast.nonempty]
  refine bare_joinWith _ (List.ne_nil_of_mem hkept) fun piece hp => ?_
  obtain ⟨hmem, hne⟩ := List.mem_filter.mp hp
  rcases List.mem_append.mp hmem with hmem | hmem
  · exact ⟨by simpa using hne, (h piece hmem).1, (h piece hmem).2⟩
  · rw [List.mem_singleton.mp hmem]
    exact hlast

theorem isOpen_joinKept (pieces : List Text) {last : Text} (hlast : last ≠ []) :
    isOpen (joinKept (pieces ++ [last])) = isOpen last := by
  have hkept : [last].filter (!·.isEmpty) = [last] := by simp [hlast]
  unfold joinKept
  rw [List.filter_append, hkept]
  obtain ⟨before, hb⟩ := exists_joinWith_concat [' '] (pieces.filter (!·.isEmpty)) last
  rw [hb, isOpen_append _ hlast]

theorem joinKept_cons {first : Text} (hfirst : first ≠ []) {rest : List Text}
    (hrest : rest.filter (!·.isEmpty) ≠ []) :
    joinKept (first :: rest) = first ++ [' '] ++ joinKept rest := by
  obtain ⟨second, more, hcons⟩ := List.exists_cons_of_ne_nil hrest
  unfold joinKept joinWith
  rw [List.filter_cons_of_pos (by simp [hfirst]), hcons, List.intercalate_cons_cons]

/-- Joining the lines of a command, the opening word stays in front of the
joined arguments. -/
theorem joinKept_opened {token gap argument : Text} (ht : IsWord token) (hgap : IsGap gap)
    (ha : Bare argument) {rest : List Text} (hrest : rest.filter (!·.isEmpty) ≠ []) :
    ∃ gap', IsGap gap' ∧
      joinKept (dropBackslash (token ++ gap ++ argument) :: rest) =
        token ++ gap' ++ joinKept (dropBackslash argument :: rest) := by
  rw [dropBackslash_opened ht.bare hgap.2 ha]
  by_cases hgone : dropBackslash argument = []
  · refine ⟨[' '], ⟨by simp, fun c hc => ?_⟩, ?_⟩
    · rw [List.mem_singleton.mp hc]
      rfl
    rw [hgone, List.isEmpty_nil, if_pos rfl, joinKept_cons ht.1 hrest]
    rfl
  · have hkept : (dropBackslash argument).isEmpty = false := by simp [hgone]
    refine ⟨gap, hgap, ?_⟩
    rw [hkept, if_neg (by simp), joinKept_cons (by simp [hgone]) hrest,
      joinKept_cons hgone hrest]
    simp

/-! ## Folding -/

/-- Some line continues the directive. -/
def isContinued (script : BuildScript) (i : Instruction) : Bool :=
  !(script.continuationsOf i).isEmpty

/-- The lines of a command, without backslashes and with single blanks between
those that are not empty. -/
def joined (script : BuildScript) (i : Instruction) : Text :=
  joinKept ((i :: script.continuationsOf i).map (dropBackslash ·.raw))

/-- The directive as it reads when its whole command stands on one line. -/
def whole (script : BuildScript) (i : Instruction) : Instruction :=
  if script.isContinued i then
    { i with argument := script.commandText i, raw := script.joined i }
  else i

/-- What stands on a line when every command is on one line. -/
def foldedLine (script : BuildScript) (number : Nat) (line : Text) : Text :=
  match script.instructions.find? (·.line == number) with
  | none => line
  | some i =>
    if i.continues.isSome then []
    else if script.isContinued i then script.joined i
    else line

/-- The lines with every command on its first line. The lines that continued
it stay, empty, and so every line keeps its number. -/
def fold (lines : List Text) : List Text :=
  (lines.zipIdx 1).map fun entry => foldedLine (ofLines lines) entry.2 entry.1

/-- Every directive that is continued has text after its opening word, and the
last of its lines does not go on. On the first line it does not open with a
byte-order mark, which would be lost when the folded line is read. -/
structure Foldable (script : BuildScript) : Prop where
  spoken : ∀ i ∈ script.instructions, i.continues = none → script.isContinued i = true →
    i.raw.dropWhile (!isBlank ·) ≠ []
  closed : ∀ i ∈ script.instructions, i.continues = none →
    (script.continuationsOf i).getLast?.any (isOpen ·.raw) = false
  unmarked : ∀ i ∈ script.instructions, i.line = 1 → i.continues = none →
    script.isContinued i = true → (script.joined i).head? ≠ some byteOrderMark

instance (script : BuildScript) : Decidable (Foldable script) :=
  decidable_of_iff (_ ∧ _ ∧ _)
    ⟨fun ⟨spoken, closed, unmarked⟩ => ⟨spoken, closed, unmarked⟩,
      fun h => ⟨h.spoken, h.closed, h.unmarked⟩⟩

/-! ## One directive -/

/-- A directive that is continued, has text after its opening word, and ends
with a line that does not go on. -/
structure Folds (lines : List Text) (i : Instruction) : Prop where
  mem : i ∈ (ofLines lines).instructions
  starts : i.continues = none
  continued : (ofLines lines).isContinued i = true
  spoken : i.raw.dropWhile (!isBlank ·) ≠ []
  closed : ((ofLines lines).continuationsOf i).getLast?.any (isOpen ·.raw) = false

theorem Foldable.folds {lines : List Text} (hf : Foldable (ofLines lines)) {i : Instruction}
    (h : i ∈ (ofLines lines).instructions) (hc : i.continues = none)
    (hcontinued : (ofLines lines).isContinued i = true) : Folds lines i :=
  ⟨h, hc, hcontinued, hf.spoken i h hc hcontinued, hf.closed i h hc⟩

theorem bare_of_mem_significantLines {lines : List Text} {number : Nat} {line : Text}
    (h : (number, line) ∈ significantLines lines) : Bare line ∧ line.head? ≠ some '#' := by
  obtain ⟨entry, _, hsome⟩ := List.mem_filterMap.mp h
  obtain ⟨text, htext, heq⟩ := Option.map_eq_some_iff.mp hsome
  cases heq
  exact bare_of_significant? htext

theorem raw_bare {lines : List Text} {i : Instruction} (h : i ∈ (ofLines lines).instructions) :
    Bare i.raw ∧ i.raw.head? ≠ some '#' := by
  obtain ⟨owner, number, line, hmem, rfl⟩ := exists_reading h
  rw [reading_raw]
  exact bare_of_mem_significantLines hmem

theorem directive_eq {lines : List Text} {i : Instruction}
    (h : i ∈ (ofLines lines).instructions) (hc : i.continues = none) :
    directive i.line i.raw = i := by
  obtain ⟨owner, number, line, _, rfl⟩ := exists_reading h
  rw [reading_continues] at hc
  cases hc
  rw [reading_line, reading_raw]
  rfl

/-- The lines that continue a directive are pieces without blanks at their
ends, the last of which is kept as it is. -/
theorem continued_pieces {lines : List Text} {i : Instruction} (hi : Folds lines i) :
    ∃ front last, Bare last ∧ isOpen last = false ∧
      (∀ piece ∈ front, StartsBare piece ∧ EndsBare piece) ∧
      (ofLines lines).joined i = joinKept (dropBackslash i.raw :: (front ++ [last])) ∧
      (ofLines lines).commandText i = joinKept (dropBackslash i.argument :: (front ++ [last])) := by
  have hne : (ofLines lines).continuationsOf i ≠ [] := by
    simpa [isContinued] using hi.continued
  have hfrom : ∀ c ∈ (ofLines lines).continuationsOf i,
      c ∈ (ofLines lines).instructions ∧ c.continues ≠ none := by
    intro c hmem
    obtain ⟨hmem, heq⟩ := List.mem_filter.mp hmem
    exact ⟨hmem, by rw [eq_of_beq heq]; nofun⟩
  obtain ⟨front, last, hsplit⟩ :
      ∃ front last, (ofLines lines).continuationsOf i = front ++ [last] :=
    ⟨_, _, (List.dropLast_append_getLast hne).symm⟩
  have hlast := hfrom last (by simp [hsplit])
  have hclosed : isOpen last.raw = false := by simpa [hsplit] using hi.closed
  have hkept := dropBackslash_eq_self (raw_bare hlast.1).1 hclosed
  have harguments : ((ofLines lines).continuationsOf i).map (dropBackslash ·.argument) =
      ((ofLines lines).continuationsOf i).map (dropBackslash ·.raw) :=
    List.map_congr_left fun c hmem => by
      rw [(continuation_fields (hfrom c hmem).1 (hfrom c hmem).2).2.2]
  have hpieces : ((ofLines lines).continuationsOf i).map (dropBackslash ·.raw) =
      front.map (dropBackslash ·.raw) ++ [last.raw] := by
    rw [hsplit, List.map_append, List.map_singleton, hkept]
  refine ⟨front.map (dropBackslash ·.raw), last.raw, (raw_bare hlast.1).1, hclosed, ?_, ?_, ?_⟩
  · intro piece hp
    obtain ⟨c, _, rfl⟩ := List.mem_map.mp hp
    exact ⟨startsBare_dropBackslash _, endsBare_dropBackslash _⟩
  · rw [← hpieces]
    rfl
  · rw [← hpieces, ← harguments]
    rfl

/-- The joined lines of a command are a text of their own that does not go on. -/
theorem joined_closed {front : List Text} {last : Text} (hlast : Bare last)
    (hopen : isOpen last = false) (hfront : ∀ piece ∈ front, StartsBare piece ∧ EndsBare piece)
    (s : Text) :
    Bare (joinKept (dropBackslash s :: (front ++ [last]))) ∧
      isOpen (joinKept (dropBackslash s :: (front ++ [last]))) = false := by
  rw [← List.cons_append]
  refine ⟨bare_joinKept hlast ?_, by rw [isOpen_joinKept _ hlast.nonempty, hopen]⟩
  intro piece hp
  rcases List.mem_cons.mp hp with rfl | hp
  · exact ⟨startsBare_dropBackslash s, endsBare_dropBackslash s⟩
  · exact hfront piece hp

/-- The joined lines of a command: its opening word, a gap and the joined
arguments. -/
theorem joined_parts {lines : List Text} {i : Instruction} (hi : Folds lines i) :
    ∃ token gap argument gap' argument', IsWord token ∧ IsGap gap ∧ Bare argument ∧
      i.raw = token ++ gap ++ argument ∧ IsGap gap' ∧ Bare argument' ∧
      (ofLines lines).joined i = token ++ gap' ++ argument' ∧
      (i.argument = argument → (ofLines lines).commandText i = argument') ∧
      (i.argument = i.raw → (ofLines lines).commandText i = (ofLines lines).joined i) := by
  obtain ⟨token, gap, argument, hraw, ht, hgap, ha⟩ :=
    exists_parts (raw_bare hi.mem).1 hi.spoken
  obtain ⟨front, last, hlast, hopen, hfront, hjoined, htext⟩ := continued_pieces hi
  have hrest : (front ++ [last]).filter (!·.isEmpty) ≠ [] :=
    List.ne_nil_of_mem (a := last) (by simp [hlast.nonempty])
  obtain ⟨gap', hgap', hopened⟩ := joinKept_opened ht hgap ha hrest
  refine ⟨token, gap, argument, gap', _, ht, hgap, ha, hraw, hgap',
    (joined_closed hlast hopen hfront argument).1, ?_, ?_, ?_⟩
  · rw [hjoined, hraw, hopened]
  · intro heq
    rw [htext, heq]
  · intro heq
    rw [htext, heq, hjoined]

theorem joined_bare {lines : List Text} {i : Instruction} (hi : Folds lines i) :
    Bare ((ofLines lines).joined i) ∧ ((ofLines lines).joined i).head? ≠ some '#' := by
  obtain ⟨token, gap, argument, gap', argument', ht, _, _, hraw, _, ha', hjoined, _⟩ :=
    joined_parts hi
  have hhash := (raw_bare hi.mem).2
  rw [hraw, List.append_assoc, List.head?_append_of_ne_nil _ ht.1] at hhash
  rw [hjoined]
  refine ⟨ht.bare.around gap' ha', ?_⟩
  rw [List.append_assoc, List.head?_append_of_ne_nil _ ht.1]
  exact hhash

/-- A command on one line reads as its directive with the whole command for
its argument. -/
theorem directive_joined {lines : List Text} {i : Instruction} (hi : Folds lines i) :
    directive i.line ((ofLines lines).joined i) =
      { i with argument := (ofLines lines).commandText i, raw := (ofLines lines).joined i } := by
  obtain ⟨token, gap, argument, gap', argument', ht, hgap, ha, hraw, hgap', ha', hjoined, htext,
    hsame⟩ := joined_parts hi
  have hread : i = opened i.line token argument i.raw := by
    rw [hraw, ← directive_parts i.line ht hgap ha, ← hraw, directive_eq hi.mem hi.starts]
  have hwhole : directive i.line ((ofLines lines).joined i) =
      opened i.line token argument' ((ofLines lines).joined i) := by
    rw [hjoined]
    exact directive_parts _ ht hgap' ha'
  rw [hwhole, hi.starts]
  unfold opened at hread ⊢
  split at hread
  · -- a line that is no instruction is its own argument, and so is the joined one
    rw [if_pos (by assumption), hsame (congrArg Instruction.argument hread),
      congrArg Instruction.keyword hread, congrArg Instruction.malformed hread]
  · rw [if_neg (by assumption), htext (congrArg Instruction.argument hread),
      congrArg Instruction.keyword hread, congrArg Instruction.malformed hread]

/-! ## The folded script -/

theorem directive_whole {lines : List Text} (hf : Foldable (ofLines lines)) {i : Instruction}
    (h : i ∈ (ofLines lines).instructions) (hc : i.continues = none) :
    directive i.line ((ofLines lines).whole i).raw = (ofLines lines).whole i := by
  unfold whole
  split
  · exact directive_joined (hf.folds h hc (by assumption))
  · exact directive_eq h hc

theorem zipIdx_map_zipIdx (f : Text × Nat → Text) (lines : List Text) (start : Nat) :
    ((lines.zipIdx start).map f).zipIdx start =
      (lines.zipIdx start).map fun entry => (f entry, entry.2) := by
  induction lines generalizing start with
  | nil => rfl
  | cons first rest ih => rw [List.zipIdx_cons, List.map_cons, List.zipIdx_cons, ih, List.map_cons]

theorem readAt_number {entry : Text × Nat} {found : Nat × Text} (h : readAt entry = some found) :
    found.1 = entry.2 := by
  obtain ⟨text, _, rfl⟩ := Option.map_eq_some_iff.mp h
  rfl

theorem find?_readAt {entries : List (Text × Nat)} (hnodup : (entries.map Prod.snd).Nodup)
    {entry : Text × Nat} (h : entry ∈ entries) :
    (entries.filterMap readAt).find? (·.1 == entry.2) = readAt entry := by
  induction entries with
  | nil => simp at h
  | cons first rest ih =>
    simp only [List.map_cons, List.nodup_cons] at hnodup
    rcases List.mem_cons.mp h with rfl | h
    · cases hread : readAt entry with
      | none =>
        rw [List.filterMap_cons_none hread, List.find?_eq_none]
        intro found hfound heq
        obtain ⟨other, hother, hsome⟩ := List.mem_filterMap.mp hfound
        refine hnodup.1 ?_
        rw [← eq_of_beq heq, readAt_number hsome]
        exact List.mem_map_of_mem hother
      | some found =>
        rw [List.filterMap_cons_some hread, List.find?_cons_of_pos]
        simp [readAt_number hread]
    · have hne : first.2 ≠ entry.2 := fun heq => hnodup.1 (heq ▸ List.mem_map_of_mem h)
      cases hread : readAt first with
      | none => rw [List.filterMap_cons_none hread, ih hnodup.2 h]
      | some found =>
        rw [List.filterMap_cons_some hread, List.find?_cons_of_neg, ih hnodup.2 h]
        simp [readAt_number hread, hne]

/-- A line is read exactly where there is an instruction with its number. -/
theorem readAt_eq {lines : List Text} {entry : Text × Nat} (h : entry ∈ lines.zipIdx 1) :
    readAt entry =
      ((ofLines lines).instructions.find? (·.line == entry.2)).map fun i => (i.line, i.raw) := by
  have hnodup : ((lines.zipIdx 1).map Prod.snd).Nodup := by
    rw [List.zipIdx_map_snd]
    exact List.nodup_range'
  rw [← find?_readAt hnodup h, ← significantLines_readAt,
    ← instructionsFrom_map none (significantLines lines), List.find?_map]
  rfl

/-- Looking every number up finds every instruction once, in order. -/
theorem filterMap_find? {numbers : List Nat} (hnodup : numbers.Nodup)
    {instructions : List Instruction} (h : (instructions.map (·.line)).Sublist numbers) :
    numbers.filterMap (fun n => instructions.find? (·.line == n)) = instructions := by
  induction numbers generalizing instructions with
  | nil =>
    rw [List.sublist_nil, List.map_eq_nil_iff] at h
    rw [h]
    rfl
  | cons number rest ih =>
    obtain ⟨hnot, hrest⟩ := List.nodup_cons.mp hnodup
    rcases List.sublist_cons_iff.mp h with h | ⟨lines, hlines, h⟩
    · have hnone : instructions.find? (·.line == number) = none := by
        refine List.find?_eq_none.mpr fun i hi heq => hnot ?_
        exact eq_of_beq heq ▸ h.subset (List.mem_map_of_mem hi)
      simp only [List.filterMap_cons, hnone]
      exact ih hrest h
    · obtain ⟨i, more, rfl, rfl, rfl⟩ := List.map_eq_cons_iff.mp hlines
      have hmore : rest.filterMap (fun n => (i :: more).find? (·.line == n)) =
          rest.filterMap fun n => more.find? (·.line == n) := by
        refine List.filterMap_congr fun n hn => List.find?_cons_of_neg ?_
        simp only [beq_iff_eq]
        exact fun heq => hnot (heq ▸ hn)
      rw [List.filterMap_cons_some (b := i) (by simp), hmore, ih hrest h]

theorem significantAt_bare {number : Nat} {text : Text}
    (h : Bare text ∧ text.head? ≠ some '#') (hmark : number = 1 → text.head? ≠ some byteOrderMark) :
    significantAt number text = some text := by
  have hsome := significant?_of_strip h.1 h.2 h.1.strip_eq
  by_cases hone : number = 1
  · rw [significantAt_of_unmarked (hmark hone), hsome]
  · rw [significantAt_of_ne_one hone, hsome]

/-- A line that is folded is read as the whole command of its directive. -/
theorem readAt_foldedLine {lines : List Text} (hf : Foldable (ofLines lines))
    {entry : Text × Nat} (h : entry ∈ lines.zipIdx 1) :
    readAt (foldedLine (ofLines lines) entry.2 entry.1, entry.2) =
      (((ofLines lines).instructions.find? (·.line == entry.2)).filter (·.continues.isNone)).map
        fun i => (i.line, ((ofLines lines).whole i).raw) := by
  have hread := readAt_eq h
  unfold foldedLine
  cases hfind : (ofLines lines).instructions.find? (·.line == entry.2) with
  | none =>
    rw [hfind] at hread
    exact hread
  | some i =>
    have hmem := List.mem_of_find?_eq_some hfind
    have hline : i.line = entry.2 := by simpa using List.find?_some hfind
    rw [hfind] at hread
    dsimp only
    cases hc : i.continues with
    | some first =>
      rw [Option.filter_some_neg (by simp [hc]), Option.isSome_some, if_pos rfl]
      unfold readAt significantAt
      dsimp only
      split <;> rfl
    | none =>
      rw [Option.filter_some_pos (by simp [hc]), Option.map_some, Option.isSome_none,
        if_neg Bool.false_ne_true]
      by_cases hcontinued : (ofLines lines).isContinued i = true
      · rw [if_pos hcontinued, whole, if_pos hcontinued, readAt,
          significantAt_bare (joined_bare (hf.folds hmem hc hcontinued))
            fun hone => hf.unmarked i hmem (hline.trans hone) hc hcontinued, hline]
        rfl
      · rw [if_neg hcontinued, whole, if_neg hcontinued]
        exact hread

/-- The lines that are left significant are the directives with their whole
commands. -/
theorem significantLines_fold {lines : List Text} (hf : Foldable (ofLines lines)) :
    significantLines (fold lines) =
      ((ofLines lines).instructions.filter (·.continues.isNone)).map fun i =>
        (i.line, ((ofLines lines).whole i).raw) := by
  have hall := filterMap_find? (List.nodup_range' (s := 1) (n := lines.length))
    (instructions_sublist lines)
  calc significantLines (fold lines)
      = (lines.zipIdx 1).filterMap fun entry =>
          readAt (foldedLine (ofLines lines) entry.2 entry.1, entry.2) := by
        rw [significantLines_readAt, fold, zipIdx_map_zipIdx, List.filterMap_map]
        rfl
    _ = (lines.zipIdx 1).filterMap fun entry =>
          (((ofLines lines).instructions.find? (·.line == entry.2)).filter
            (·.continues.isNone)).map fun i => (i.line, ((ofLines lines).whole i).raw) :=
        List.filterMap_congr fun entry h => readAt_foldedLine hf h
    _ = (((List.range' 1 lines.length).filterMap fun n =>
          (ofLines lines).instructions.find? (·.line == n)).filter (·.continues.isNone)).map
            fun i => (i.line, ((ofLines lines).whole i).raw) := by
        rw [← List.zipIdx_map_snd 1 lines, List.filterMap_map, List.filter_filterMap,
          List.map_filterMap]
        rfl
    _ = _ := by rw [hall]

/-- A directive that no line continues does not go on, unless it is the last
instruction. -/
theorem isOpen_eq_false {lines : List Text} {i other : Instruction}
    (h : i ∈ (ofLines lines).instructions) (hc : i.continues = none)
    (hcontinued : (ofLines lines).isContinued i = false)
    (hother : other ∈ (ofLines lines).instructions) (hlt : i.line < other.line) :
    isOpen i.raw = false := by
  obtain ⟨j, hj, rfl⟩ := List.getElem_of_mem h
  obtain ⟨k, hk, rfl⟩ := List.getElem_of_mem hother
  have hsorted := List.pairwise_iff_getElem.mp (List.pairwise_map.mp (ofLines_sorted lines))
  have hjk : j < k := by
    rcases Nat.lt_trichotomy j k with hjk | rfl | hkj
    · exact hjk
    · omega
    · have := hsorted k j hk hj hkj
      omega
  have hnext : (ofLines lines).instructions[j + 1]? =
      some (ofLines lines).instructions[j + 1] := List.getElem?_eq_getElem (by omega)
  by_contra hnot
  have hopen : isOpen (ofLines lines).instructions[j].raw = true := by simpa using hnot
  have hnextOwner := ofLines_continues hnext
  rw [← List.take_append_getElem hj, ownerAfter] at hnextOwner
  simp only [List.getLast?_append, List.getLast?_singleton, Option.some_or, Option.any_some,
    hopen, if_true, List.reverse_append, List.reverse_singleton,
    List.singleton_append, List.find?_cons, hc, Option.isNone_none, Option.map_some] at hnextOwner
  have hmem : (ofLines lines).instructions[j + 1] ∈
      (ofLines lines).continuationsOf (ofLines lines).instructions[j] :=
    List.mem_filter.mpr ⟨List.getElem_mem _, by simp [hnextOwner]⟩
  simp only [isContinued, Bool.not_eq_false', List.isEmpty_iff] at hcontinued
  rw [hcontinued] at hmem
  simp at hmem

/-- A directive does not go on when it is read as a whole, unless it is the
last instruction. -/
theorem isOpen_whole {lines : List Text} (hf : Foldable (ofLines lines)) {i other : Instruction}
    (h : i ∈ (ofLines lines).instructions) (hc : i.continues = none)
    (hother : other ∈ (ofLines lines).instructions) (hlt : i.line < other.line) :
    isOpen ((ofLines lines).whole i).raw = false := by
  unfold whole
  split
  · obtain ⟨front, last, hlast, hopen, hfront, hjoined, _⟩ :=
      continued_pieces (hf.folds h hc (by assumption))
    rw [hjoined]
    exact (joined_closed hlast hopen hfront i.raw).2
  · exact isOpen_eq_false h hc (by simp_all) hother hlt

/-- Lines that do not go on are directives, each of its own. -/
theorem instructionsFrom_closed {significant : List (Nat × Text)}
    (h : significant.Pairwise fun entry _ => isOpen entry.2 = false) :
    instructionsFrom none significant = significant.map fun entry => directive entry.1 entry.2 := by
  induction significant with
  | nil => rfl
  | cons first rest ih =>
    obtain ⟨number, line⟩ := first
    obtain ⟨hfirst, hrest⟩ := List.pairwise_cons.mp h
    rw [instructionsFrom_cons, List.map_cons]
    cases rest with
    | nil => rfl
    | cons second rest =>
      rw [nextOwner, hfirst second List.mem_cons_self, if_neg Bool.false_ne_true, ih hrest]
      rfl

/-- A folded script reads as the directives of the script, each with its whole
command. -/
theorem ofLines_fold {lines : List Text} (hf : Foldable (ofLines lines)) :
    (ofLines (fold lines)).instructions =
      ((ofLines lines).instructions.filter (·.continues.isNone)).map (ofLines lines).whole := by
  have hdirective : ∀ i ∈ (ofLines lines).instructions.filter (·.continues.isNone),
      i ∈ (ofLines lines).instructions ∧ i.continues = none := by
    intro i hi
    obtain ⟨hmem, hnone⟩ := List.mem_filter.mp hi
    exact ⟨hmem, by simpa using hnone⟩
  rw [ofLines, significantLines_fold hf, instructionsFrom_closed]
  · rw [List.map_map]
    refine List.map_congr_left fun i hi => ?_
    exact directive_whole hf (hdirective i hi).1 (hdirective i hi).2
  · rw [List.pairwise_map]
    have hsorted : ((ofLines lines).instructions.filter (·.continues.isNone)).Pairwise
        fun i other => i.line < other.line :=
      (List.pairwise_map.mp (ofLines_sorted lines)).sublist List.filter_sublist
    refine hsorted.imp_of_mem fun hi hother hlt => ?_
    exact isOpen_whole hf (hdirective _ hi).1 (hdirective _ hi).2 (hdirective _ hother).1 hlt

/-! ## Views of the folded script -/

@[simp] theorem whole_line (script : BuildScript) (i : Instruction) :
    (script.whole i).line = i.line := by
  unfold whole
  split <;> rfl

@[simp] theorem whole_keyword (script : BuildScript) (i : Instruction) :
    (script.whole i).keyword = i.keyword := by
  unfold whole
  split <;> rfl

@[simp] theorem whole_continues (script : BuildScript) (i : Instruction) :
    (script.whole i).continues = i.continues := by
  unfold whole
  split <;> rfl

@[simp] theorem whole_malformed (script : BuildScript) (i : Instruction) :
    (script.whole i).malformed = i.malformed := by
  unfold whole
  split <;> rfl

/-- The instructions of some kinds, none of them the kind of continuations,
are the same in the folded script, each with its whole command. -/
theorem filter_keyword_fold {lines : List Text} (hf : Foldable (ofLines lines))
    {p : Keyword → Bool} (hp : p .unknown = false) :
    (ofLines (fold lines)).instructions.filter (fun i => p i.keyword) =
      ((ofLines lines).instructions.filter fun i => p i.keyword).map (ofLines lines).whole := by
  rw [ofLines_fold hf, List.filter_map, List.filter_filter]
  congr 1
  refine List.filter_congr fun i hi => ?_
  simp only [Function.comp, whole_keyword]
  cases hc : i.continues with
  | none => simp
  | some first =>
    rw [(continuation_fields hi (by simp [hc])).1, hp]
    rfl

theorem ofKind_fold {lines : List Text} (hf : Foldable (ofLines lines)) {keyword : Keyword}
    (hk : keyword ≠ .unknown) :
    (ofLines (fold lines)).ofKind keyword =
      ((ofLines lines).ofKind keyword).map (ofLines lines).whole :=
  filter_keyword_fold (p := (· == keyword)) hf (by simpa using hk.symm)

/-- The text of a command is a text of its own that does not go on. -/
theorem joinKept_commandText {lines : List Text} {i : Instruction} (hi : Folds lines i) :
    joinKept [dropBackslash ((ofLines lines).commandText i)] = (ofLines lines).commandText i := by
  obtain ⟨front, last, hlast, hopen, hfront, _, htext⟩ := continued_pieces hi
  obtain ⟨hbare, hclosed⟩ := joined_closed hlast hopen hfront i.argument
  rw [htext, dropBackslash_eq_self hbare hclosed]
  exact joinKept_singleton hbare.nonempty

/-- The text of a command on one line is its argument. -/
theorem commandText_of_not_continued {script : BuildScript} {i : Instruction}
    (h : script.continuationsOf i = []) :
    script.commandText i = joinKept [dropBackslash i.argument] := by
  unfold commandText joinKept
  rw [h]
  rfl

/-- The whole command of a directive, read alone, is the text of its command. -/
theorem joinKept_whole {lines : List Text} (hf : Foldable (ofLines lines)) {i : Instruction}
    (h : i ∈ (ofLines lines).instructions) (hc : i.continues = none) :
    joinKept [dropBackslash ((ofLines lines).whole i).argument] =
      (ofLines lines).commandText i := by
  unfold whole
  split
  · exact joinKept_commandText (hf.folds h hc (by assumption))
  · exact (commandText_of_not_continued (by simp_all [isContinued])).symm

/-- The commands do not change when they are folded. -/
theorem commands_fold {lines : List Text} (hf : Foldable (ofLines lines)) :
    (ofLines (fold lines)).commands = (ofLines lines).commands := by
  have hnone : ∀ i ∈ (ofLines (fold lines)).instructions, i.continues = none := by
    intro i hi
    rw [ofLines_fold hf] at hi
    obtain ⟨d, hd, rfl⟩ := List.mem_map.mp hi
    simpa using (List.mem_filter.mp hd).2
  have halone : ∀ i, (ofLines (fold lines)).continuationsOf i = [] := by
    intro i
    refine List.filter_eq_nil_iff.mpr fun c hmem => ?_
    simp [hnone c hmem]
  unfold commands
  rw [List.filter_eq_self.mpr fun i hi => by simp [hnone i hi], ofLines_fold hf, List.map_map]
  refine List.map_congr_left fun i hi => ?_
  obtain ⟨hmem, hc⟩ := List.mem_filter.mp hi
  rw [← joinKept_whole hf hmem (by simpa using hc)]
  simp only [Function.comp, commandText, halone, whole_line, whole_keyword, whole_malformed]
  rfl

variable [Characters]

/-- Nothing that the checks share changes when the commands are folded. -/
theorem derive_fold {lines : List Text} (hf : Foldable (ofLines lines)) (config : Config) :
    Facts.derive (ofLines (fold lines)) config = Facts.derive (ofLines lines) config := by
  unfold Facts.derive stages
  rw [commands_fold hf, ofKind_fold hf (by decide), ofKind_fold hf (by decide), List.length_map,
    List.length_map]

end ImageLint.BuildScript
