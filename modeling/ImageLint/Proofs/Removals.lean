-- The pattern of a removal: a word `rm`, a blank and anything before what a given
-- pattern matches. A pattern that can be read alone is read there as it is alone,
-- its first alternative behind the start of the removal, unless it turns flags on
-- for the whole of it: then it is refused, and for that only.
import ImageLint.Proofs.PatternNesting
import ImageLint.Rules.Commands

namespace ImageLint.Pattern

/-! ## Steps that succeed -/

theorem run_bind_ok {α β : Type} {m : Reading α} {k : α → Reading β} {c c' : Cursor} {a : α}
    (h : m.run c = .ok (a, c')) : (m >>= k).run c = (k a).run c' := by
  rw [StateT.run_bind, h]
  rfl

/-- The next token is a backslash with nothing after it. -/
def Cursor.Dangling (c : Cursor) : Prop := c.rest.head?.map (·.text) = some ['\\']

theorem run_refuseDangling {c : Cursor} (h : ¬ c.Dangling) :
    refuseDangling.run c = .ok ((), c) := by
  unfold Cursor.Dangling at h
  unfold refuseDangling
  cases hc : c.rest.head? with
  | none =>
    simp only [StateT.run_bind, StateT.run_get, pure_bind, hc]
    rfl
  | some token =>
    have htext : token.text ≠ ['\\'] := by simpa [hc] using h
    simp only [StateT.run_bind, StateT.run_get, pure_bind, hc, beq_iff_eq, htext, if_false]
    rfl

theorem not_dangling_of_run {c : Cursor} {r : Unit × Cursor} (h : refuseDangling.run c = .ok r) :
    ¬ c.Dangling := by
  intro hc
  obtain ⟨token, htoken, htext⟩ := Option.map_eq_some_iff.mp hc
  unfold refuseDangling at h
  simp only [StateT.run_bind, StateT.run_get, pure_bind, htoken, beq_iff_eq, htext, if_true] at h
  cases h

/-- A token is read when what follows it can be looked at. -/
theorem run_next {c : Cursor} {token : Token} (h : ¬ c.Dangling) :
    next.run { c with rest := token :: c.rest } = .ok (some token.text, c) := by
  change (refuseDangling.run c >>= fun r => .ok (some token.text, r.2)) = _
  rw [run_refuseDangling h]
  rfl

theorem run_peek (c : Cursor) (token : Token) :
    peek.run { c with rest := token :: c.rest } =
      .ok (some token.text, { c with rest := token :: c.rest }) := rfl

theorem run_accept {c : Cursor} {x : Char} {i : Nat} (h : ¬ c.Dangling) :
    (accept x).run { c with rest := ⟨[x], i⟩ :: c.rest } = .ok (true, c) := by
  unfold accept
  rw [run_bind_ok (run_peek c _), if_pos (by simp), run_bind_ok (run_next h)]
  rfl

/-- A token that is neither a bar, a parenthesis nor a sign of repetition is a
part, read in one step of the sequence. -/
theorem run_readSequence_part {fuel : Nat} {items : List Tree} {token : Token} {c : Cursor}
    (h : [['|'], [')'], ['*'], ['+'], ['?'], ['\x7b'], ['(']].contains token.text = false)
    (hc : ¬ c.Dangling) :
    (readSequence (fuel + 1) .whole items).run { c with rest := token :: c.rest } =
      (readPart token.text >>= fun part => readSequence fuel .whole (part :: items)).run c := by
  simp only [List.contains_eq_mem, List.mem_cons, List.not_mem_nil, or_false,
    decide_eq_false_iff_not, not_or] at h
  obtain ⟨hbar, hclose, hstar, hplus, hmark, hbrace, hopen⟩ := h
  rw [readSequence, run_bind_ok (run_peek c token)]
  dsimp only [Option.getD_some]
  rw [if_neg (by simp [hbar, hclose]), run_bind_ok rfl, run_bind_ok (run_next hc)]
  split
  · rename_i x hx
    rw [hx] at hstar hplus hmark hbrace hopen
    simp only [List.cons.injEq, and_true] at hstar hplus hmark hbrace hopen
    simp [Setting.whole, hstar, hplus, hmark, hbrace, hopen, hx]
  · rfl

/-- A star repeats the part before it. -/
theorem run_readSequence_star {fuel i : Nat} {items : List Tree} {c : Cursor}
    (hc : ¬ c.Dangling) :
    (readSequence (fuel + 1) .whole items).run { c with rest := ⟨['*'], i⟩ :: c.rest } =
      (repeatLast i ⟨0, none⟩ items >>= readSequence fuel .whole).run c := by
  rw [readSequence, run_bind_ok (run_peek c _)]
  dsimp only [Option.getD_some]
  rw [if_neg (by decide), run_bind_ok rfl, run_bind_ok (run_next hc)]
  rfl

/-! ## The pattern of a removal -/

/-- The tokens of a removal before those of the pattern. -/
def removalTokens : List Token :=
  [⟨['\\', 'b'], 0⟩, ⟨['r'], 2⟩, ⟨['m'], 3⟩, ⟨['\\', 's'], 4⟩, ⟨['.'], 6⟩, ⟨['*'], 7⟩, ⟨['?'], 8⟩]

/-- The parts of a removal before those of the pattern, the last one first. -/
def removalParts : List Tree :=
  [.repetition .shortest 0 none .any, .set false [.category .space false], .char 'm'.toNat,
    .char 'r'.toNat, .anchor .boundary]

/-- Anything, in as few characters as will do. -/
theorem run_repeatLast_anything {opening i : Nat} {items : List Tree} {c : Cursor}
    (hc : ¬ c.Dangling) :
    (repeatLast opening ⟨0, none⟩ (.any :: items)).run { c with rest := ⟨['?'], i⟩ :: c.rest } =
      .ok (.repetition .shortest 0 none .any :: items, c) := by
  have hgreed : readGreed.run { c with rest := ⟨['?'], i⟩ :: c.rest } = .ok (.shortest, c) := by
    unfold readGreed
    rw [run_bind_ok (run_accept hc), if_pos rfl]
    rfl
  unfold repeatLast
  dsimp only
  rw [if_neg (by decide), if_neg (by decide), run_bind_ok hgreed]
  rfl

theorem readSequence_removal (fuel : Nat) {c : Cursor} (h : ¬ c.Dangling) :
    (readSequence (fuel + 6) .whole []).run { c with rest := removalTokens ++ c.rest } =
      (readSequence fuel .whole removalParts).run c := by
  calc (readSequence (fuel + 6) .whole []).run { c with rest := removalTokens ++ c.rest }
      = (readSequence (fuel + 5) .whole [.anchor .boundary]).run
          { c with rest := removalTokens.drop 1 ++ c.rest } :=
        run_readSequence_part (c := { c with rest := removalTokens.drop 1 ++ c.rest }) rfl nofun
    _ = (readSequence (fuel + 4) .whole (removalParts.drop 3)).run
          { c with rest := removalTokens.drop 2 ++ c.rest } :=
        run_readSequence_part (c := { c with rest := removalTokens.drop 2 ++ c.rest }) rfl nofun
    _ = (readSequence (fuel + 3) .whole (removalParts.drop 2)).run
          { c with rest := removalTokens.drop 3 ++ c.rest } :=
        run_readSequence_part (c := { c with rest := removalTokens.drop 3 ++ c.rest }) rfl nofun
    _ = (readSequence (fuel + 2) .whole (removalParts.drop 1)).run
          { c with rest := removalTokens.drop 4 ++ c.rest } :=
        run_readSequence_part (c := { c with rest := removalTokens.drop 4 ++ c.rest }) rfl nofun
    _ = (readSequence (fuel + 1) .whole (.any :: removalParts.drop 1)).run
          { c with rest := removalTokens.drop 5 ++ c.rest } :=
        run_readSequence_part (c := { c with rest := removalTokens.drop 5 ++ c.rest }) rfl nofun
    _ = (repeatLast 7 ⟨0, none⟩ (.any :: removalParts.drop 1) >>= readSequence fuel .whole).run
          { c with rest := removalTokens.drop 6 ++ c.rest } :=
        run_readSequence_star (c := { c with rest := removalTokens.drop 6 ++ c.rest }) nofun
    _ = (readSequence fuel .whole removalParts).run c := run_bind_ok (run_repeatLast_anything h)

/-! ## Reading behind it -/

/-- The flags are those that a pattern starts with: all are off. -/
def Unset (whole whole' : WholeFlags) : Prop := whole = {} ∧ whole' = {}

theorem agree_of_unset (whole whole' : WholeFlags) (h : Unset whole whole') :
    whole.Agree whole' :=
  agree_of_eq (h.1.trans h.2.symm)

/-- The second tree has the parts of a removal before its first alternative, and
else is the first tree. -/
def Behind (tree tree' : Tree) : Prop :=
  ∃ first first', Under removalParts first first' ∧ Joined first first' tree tree'

theorem refusal?_ofList {template : Bool} (parts : List Tree) :
    refusal? template (.ofList parts) = none ↔ ∀ part ∈ parts, refusal? template part = none := by
  induction parts using Tree.ofList.induct with
  | case1 => simp [Tree.ofList, refusal?]
  | case2 part => simp [Tree.ofList]
  | case3 part parts hne ih =>
    rw [Tree.ofList, refusal?, Option.or_eq_none_iff, ih, List.forall_mem_cons]
    exact hne

/-- The parts of a removal are refused for nothing. -/
theorem Behind.refusal? {tree tree' : Tree} (h : Behind tree tree')
    (htree : refusal? false tree = none) : refusal? false tree' = none := by
  obtain ⟨_, _, ⟨parts, -, rfl, rfl⟩, hjoined⟩ := h
  have hparts : Pattern.refusal? false (.ofList parts) = none →
      Pattern.refusal? false (.ofList (removalParts.reverse ++ parts)) = none := by
    rw [refusal?_ofList, refusal?_ofList, List.forall_mem_append]
    exact fun hparts => ⟨by decide, hparts⟩
  rcases hjoined with ⟨rfl, rfl⟩ | ⟨rest, rfl, rfl⟩
  · exact hparts htree
  · rw [Pattern.refusal?, Option.or_eq_none_iff] at htree ⊢
    exact ⟨hparts htree.1, htree.2⟩

/-- Flags are on for the whole pattern, and are what the other one is refused for. -/
def flagged (c : Cursor) (cause : Cause) : Prop := c.whole ≠ {} ∧ cause = .flagsNotAtStart

/-- Behind the start of a removal a pattern is read as it is alone, unless it
turns flags on. -/
theorem follows_removal (size : Nat) :
    Follows Unset flagged Behind
      (readSequence (size + 7) .whole [] >>= moreAlternatives (size + 7) .whole >>= finish)
      (readSequence (size + 37) .whole removalParts >>=
        moreAlternatives (size + 43) .whole >>= finish) := by
  have hread := readsOn (size + 7) Unset agree_of_unset
  have hraised := readsOn (size + 7) Raised agree_of_raised
  have hbegun : Begun Unset flagged .whole [] removalParts :=
    ⟨nofun, fun _ _ => ⟨nofun, fun _ c hc => ⟨hc, rfl⟩⟩⟩
  have hsequence := hread.sequence (size + 37) (by omega) .whole [] removalParts flagged hbegun
  have halternatives : Follows Unset flagged Behind
      (readSequence (size + 7) .whole [] >>= moreAlternatives (size + 7) .whole)
      (readSequence (size + 37) .whole removalParts >>= moreAlternatives (size + 43) .whole) := by
    refine follows_bind_excused hsequence (fun first first' hunder => ?_) ?_
    · have hle : size + 7 ≤ size + 43 := by omega
      have hmore := hread.moreAlternatives agree_of_unset hle .whole first first'
      refine follows_mono (follows_of_never hmore) fun _ _ hjoined => ?_
      exact ⟨first, first', hunder, hjoined⟩
    · intro first c tree c' cause hrun hflagged
      have hmore := hraised.moreAlternatives agree_of_raised (Nat.le_refl _) .whole first first
      exact ⟨raised_of_follows hmore hrun hflagged.1, hflagged.2⟩
  refine follows_bind_excused halternatives (fun tree tree' hbehind => ?_) ?_
  · refine follows_mono (follows_of_never (follows_finish agree_of_unset ?_)) ?_
    · rintro _ _ ⟨-, rfl⟩
      exact hbehind.refusal?
    · rintro _ _ ⟨rfl, rfl⟩
      exact hbehind
  · intro tree c r c' cause hrun hflagged
    have hfinish : Follows Raised never _ (finish tree) (finish tree) :=
      follows_finish agree_of_raised fun _ _ _ => id
    exact ⟨raised_of_follows hfinish hrun hflagged.1, hflagged.2⟩

/-! ## Reading it -/

theorem map_text_tokenize (i j : Nat) (source : Text) :
    (tokenize i source).map (·.text) = (tokenize j source).map (·.text) := by
  induction i, source using tokenize.induct generalizing j with
  | case1 i => simp [tokenize]
  | case2 i c rest ih => simp [tokenize, ih (j + 2)]
  | case3 i c rest hescape ih =>
    rw [tokenize.eq_3 _ _ _ hescape, tokenize.eq_3 _ _ _ hescape]
    simp [ih (j + 1)]

variable [Characters]

/-- The place in a removal where the tokens of the pattern start. -/
def Cursor.removal (pattern : Text) : Cursor :=
  { Cursor.start Characters.named? (Rules.removalOf pattern) {} with rest := tokenize 9 pattern }

theorem Cursor.Alike.removal (pattern : Text) :
    (Cursor.start Characters.named? pattern {}).Alike Unset (.removal pattern) :=
  ⟨fun _ _ => id, map_text_tokenize _ _ _, rfl, rfl, rfl, rfl, rfl, rfl⟩

/-- A removal is read as its pattern is, behind the parts it starts with. -/
theorem run_readWhole_removal {pattern : Text}
    (h : ¬ (Cursor.start Characters.named? pattern {}).Dangling) :
    (readWhole (4 * (Rules.removalOf pattern).length + 8)).run
        (.start Characters.named? (Rules.removalOf pattern) {}) =
      (readSequence (4 * pattern.length + 37) .whole removalParts >>=
        moreAlternatives (4 * pattern.length + 43) .whole >>= finish).run (.removal pattern) := by
  -- The start is nine characters long, and reading it takes six steps.
  have hlength : 4 * (Rules.removalOf pattern).length + 8 = 4 * pattern.length + 43 + 1 := by
    change 4 * (pattern.length + 9) + 8 = _
    omega
  have hdangling : ¬ (Cursor.removal pattern).Dangling := by
    rwa [Cursor.Dangling, ← (Cursor.Alike.removal pattern).head]
  have hstart : ¬ (Cursor.start Characters.named? (Rules.removalOf pattern) {}).Dangling := by
    nofun
  rw [hlength, readWhole_eq, run_bind_ok (run_refuseDangling hstart), readAlternatives_succ]
  simp only [StateT.run_bind]
  rw [← readSequence_removal _ hdangling]
  rfl

theorem read_of_run_error {source : Text} {flags : Flags} {fault : Fault}
    (h : (readWhole (4 * source.length + 8)).run (.start Characters.named? source flags) =
      .error fault) :
    Pattern.read source flags = .error { fault with source := source } := by
  unfold Pattern.read readNaming
  rw [h]
  rfl

theorem read_of_run {source : Text} {flags : Flags} {tree : Tree} {c : Cursor}
    (h : (readWhole (4 * source.length + 8)).run (.start Characters.named? source flags) =
      .ok (tree, c)) :
    Pattern.read source flags = .ok ⟨tree, c.whole.flags⟩ := by
  unfold Pattern.read readNaming
  rw [h]
  rfl

/-- The text, read as a pattern, turns flags on for the whole of it. -/
def SetsFlags (source : Text) : Prop :=
  ∃ tree c,
    (readWhole (4 * source.length + 8)).run (.start Characters.named? source {}) = .ok (tree, c) ∧
    c.whole ≠ {}

/-- A pattern that can be read alone is refused behind the start of a removal
exactly when it turns flags on. -/
theorem read_removal {source : Text} {pattern : Pattern} (h : Pattern.read source = .ok pattern) :
    (SetsFlags source ∧ ∃ fault, Pattern.read (Rules.removalOf source) = .error fault ∧
        fault.cause = .flagsNotAtStart) ∨
      (¬ SetsFlags source ∧ pattern.flags = {} ∧
        ∃ tree, Pattern.read (Rules.removalOf source) = .ok ⟨tree, {}⟩ ∧
          Behind pattern.tree tree) := by
  obtain ⟨⟨tree, c⟩, hrun⟩ := exists_readNaming_iff.mp ⟨pattern, h⟩
  rw [read_of_run hrun] at h
  cases h
  have hsets : SetsFlags source ↔ c.whole ≠ {} := by
    unfold SetsFlags
    rw [hrun]
    constructor
    · rintro ⟨_, _, ⟨⟩, hc⟩
      exact hc
    · exact fun hc => ⟨tree, c, rfl, hc⟩
  rw [readWhole_eq] at hrun
  obtain ⟨_, _, hstart, hrest⟩ := run_bind_ok_iff.mp hrun
  have hdangling := not_dangling_of_run hstart
  rw [run_refuseDangling hdangling] at hstart
  cases hstart
  rw [readAlternatives_succ] at hrest
  rcases follows_removal (4 * source.length) _ _ (.removal source) tree c hrest with
    ⟨tree', c', hread, hbehind, halike⟩ | ⟨fault, hrefused, hflagged⟩
  · rw [← run_readWhole_removal hdangling] at hread
    refine .inr ⟨fun hset => hsets.mp hset halike.whole.1, ?_, tree', ?_, hbehind⟩
    · exact congrArg WholeFlags.flags halike.whole.1
    · rw [read_of_run hread, halike.whole.2]
  · rw [← run_readWhole_removal hdangling] at hrefused
    exact .inl ⟨hsets.mpr hflagged.1, _, read_of_run_error hrefused, hflagged.2⟩

/-- A pattern that turns flags on is the one that cannot be read in a removal. -/
theorem setsFlags_iff {source : Text} (hreadable : Readable source) :
    SetsFlags source ↔ ¬ Readable (Rules.removalOf source) := by
  obtain ⟨pattern, hread⟩ := hreadable
  rcases read_removal hread with ⟨hsets, _, hfault, _⟩ | ⟨hsets, _, _, hread', _⟩
  · refine iff_of_true hsets ?_
    rintro ⟨_, hread'⟩
    rw [hfault] at hread'
    cases hread'
  · exact iff_of_false hsets fun hunread => hunread ⟨_, hread'⟩

/-- Behind the start of a removal a pattern that can be read is refused for its
form only. -/
theorem Readable.removal {pattern : Text} (h : Readable pattern) {fault : Fault}
    (hfault : Pattern.read (Rules.removalOf pattern) = .error fault) :
    fault.cause.kind = .malformed := by
  obtain ⟨_, hread⟩ := h
  rcases read_removal hread with ⟨_, refused, hrefused, hcause⟩ | ⟨_, _, _, hread', _⟩
  · rw [hrefused] at hfault
    cases hfault
    rw [hcause]
    rfl
  · rw [hread'] at hfault
    cases hfault

end ImageLint.Pattern
