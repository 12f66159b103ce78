-- The readers of nested parts read on in step, however deep they may go. So a
-- pattern that can be read can be read with letter case ignored, and behind other
-- parts it is read as it is alone, unless it turns flags on for the whole of it.
import ImageLint.Proofs.PatternReading

namespace ImageLint.Pattern

variable {α β γ δ : Type} {W : WholeFlags → WholeFlags → Prop} {excused : Cursor → Cause → Prop}
  {R : α → β → Prop} {S : γ → δ → Prop}

/-! ## Flags that last -/

/-- The flags that reading looks at are the same. -/
structure WholeFlags.Agree (whole whole' : WholeFlags) : Prop where
  verbose : whole.verbose = whole'.verbose
  unicode : whole.unicode = whole'.unicode
  template : whole.template = whole'.template
  ascii : whole.flags.ascii = whole'.flags.ascii

/-- The flags are the same, and some of them are on. -/
def Raised (whole whole' : WholeFlags) : Prop := whole = whole' ∧ whole ≠ {}

theorem lasting_agree : Lasting WholeFlags.Agree := by
  intro whole whole' letters h
  exact
    { verbose := congrArg (· || letters.contains 'x') h.verbose
      unicode := congrArg (· || letters.contains 'u') h.unicode
      template := congrArg (· || letters.contains 't') h.template
      ascii := congrArg (· || letters.contains 'a') h.ascii }

theorem agree_of_eq {whole whole' : WholeFlags} (h : whole = whole') : whole.Agree whole' := by
  subst h
  exact ⟨rfl, rfl, rfl, rfl⟩

theorem agree_of_raised (whole whole' : WholeFlags) (h : Raised whole whole') :
    whole.Agree whole' :=
  agree_of_eq h.1

theorem lasting_raised : Lasting Raised := by
  rintro whole _ letters ⟨rfl, hraised⟩
  refine ⟨rfl, fun hnone => hraised ?_⟩
  simp only [WholeFlags.turnOn, WholeFlags.mk.injEq, Flags.mk.injEq, Bool.or_eq_false_iff] at hnone
  obtain ⟨⟨hcase, hlines, hdot, hascii⟩, hverbose, hunicode, htemplate⟩ := hnone
  rcases whole with ⟨⟨_, _, _, _⟩, _, _, _⟩
  simp_all

/-- Where flags that are on stay related, a step leaves flags on. -/
theorem raised_of_follows {m : Reading α} {m' : Reading β} (h : Follows Raised never R m m')
    {c c' : Cursor} {a : α} (hrun : m.run c = .ok (a, c')) (hc : c.whole ≠ {}) :
    c'.whole ≠ {} := by
  obtain ⟨_, _, _, _, halike⟩ :=
    exists_of_follows h ⟨fun _ _ => id, rfl, rfl, rfl, rfl, rfl, rfl, hc⟩ hrun
  exact halike.whole.2

/-- Behind an opening both readings go on alike. Flags for the whole pattern are
apart: the places after them are alike only where the relation lasts. -/
theorem follows_opening {opening opening' : Nat} {k : Opening → Reading γ}
    {k' : Opening → Reading δ}
    (hplain : ∀ opened, opened.IsPlain → Follows W excused S (k opened) (k' opened))
    (hflags : ∀ c d, c.whole ≠ {} → (Lasting W → c.Alike W d) →
      KeepsUp W excused S (k .flags) (k' .flags) c d) :
    Follows W excused S (readOpening opening >>= k) (readOpening opening' >>= k') := by
  intro c d hcd r c'' hrun
  obtain ⟨opened, c', hopen, hrest⟩ := run_bind_ok_iff.mp hrun
  have hlasting : Lasting fun _ _ => True := fun _ _ _ _ => trivial
  obtain ⟨_, d', hopen', ⟨rfl, hopened⟩, hcd'⟩ := exists_of_follows
    (follows_readOpening hlasting opening opening') { hcd with whole := trivial } hopen
  have hc := whole_readOpening hopen
  have hd := whole_readOpening hopen'
  rw [StateT.run_bind, hopen']
  by_cases heq : opened = .flags
  · subst heq
    refine hflags c' d' (hc.1 rfl) (fun hW => ?_) r c'' hrest
    obtain ⟨_, _, hagain, -, halike⟩ :=
      exists_of_follows (follows_readOpening hW opening opening') hcd hopen
    rw [hopen'] at hagain
    cases hagain
    exact halike
  · have hwhole : W c'.whole d'.whole := by
      rw [hc.2 heq, hd.2 heq]
      exact hcd.whole
    exact hplain opened (hopened heq) c' d' { hcd' with whole := hwhole } r c'' hrest

/-! ## Sequences and alternatives -/

theorem steady_readPart (token : Text) : SteadyPart W excused (readPart token) := by
  unfold readPart
  split
  · exact steady_readSet
  · exact follows_pure ⟨rfl, rfl⟩
  · exact follows_pure ⟨rfl, rfl⟩
  · exact follows_pure ⟨rfl, rfl⟩
  · exact steady_treeEscape _
  · exact follows_pure ⟨rfl, rfl⟩

/-- The second tree is the sequence of the first one with more parts before it,
`below` having the last of them first. -/
def Under (below : List Tree) (tree tree' : Tree) : Prop :=
  ∃ parts, (∀ part ∈ parts, part.IsSingle) ∧ tree = .ofList parts ∧
    tree' = .ofList (below.reverse ++ parts)

/-- Flags for the whole pattern at the start of a sequence do not part two
readings of it: alone it is read under a relation that lasts, and behind other
parts it may be refused for them. -/
structure BearsFlags (W : WholeFlags → WholeFlags → Prop) (excused : Cursor → Cause → Prop)
    (below : List Tree) : Prop where
  alone : below = [] → Lasting W
  behind : below ≠ [] → ∀ c : Cursor, c.whole ≠ {} → excused c .flagsNotAtStart

/-- What is asked of a sequence of which `items` have been read: they have no
alternatives, and while there are none flags may follow. -/
structure Begun (W : WholeFlags → WholeFlags → Prop) (excused : Cursor → Cause → Prop)
    (setting : Setting) (items below : List Tree) : Prop where
  single : ∀ item ∈ items, item.IsSingle
  flags : setting.first = true → items = [] → BearsFlags W excused below

theorem Begun.push {setting : Setting} {items below : List Tree}
    (h : Begun W excused setting items below) {part : Tree} (hpart : part.IsSingle) :
    Begun W excused setting (part :: items) below where
  single := List.forall_mem_cons.mpr ⟨hpart, h.single⟩
  flags := nofun

theorem Begun.pushTail {setting : Setting} {items below : List Tree}
    (h : Begun W excused setting items below) {part : Tree} (hpart : part.IsSingle) :
    Begun W excused setting (part :: items.tail) below where
  single := by
    refine List.forall_mem_cons.mpr ⟨hpart, fun item hitem => ?_⟩
    exact h.single item (List.mem_of_mem_tail hitem)
  flags := nofun

/-- What holds of the readers of nested parts when they may go as deep as
`fuel`: with a higher bound they read the same. A sequence is also read the
same behind other parts, except that flags for the whole pattern are refused
there. -/
structure ReadsOn (W : WholeFlags → WholeFlags → Prop) (fuel : Nat) : Prop where
  alternatives : ∀ fuel' ≥ fuel, ∀ setting, (setting.first = true → Lasting W) →
    Follows W never (· = ·) (readAlternatives fuel setting) (readAlternatives fuel' setting)
  sequence : ∀ fuel' ≥ fuel, ∀ setting items below excused, Begun W excused setting items below →
    Follows W excused (Under below) (readSequence fuel setting items)
      (readSequence fuel' setting (items ++ below))
  group : ∀ fuel' ≥ fuel, ∀ setting items below excused opening opening',
    Begun W excused setting items below →
    Follows W excused (Under below) (readGroup fuel setting items opening)
      (readGroup fuel' setting (items ++ below) opening')

theorem ReadsOn.sequence_eq {fuel : Nat} (h : ReadsOn W fuel) {fuel' : Nat}
    (hle : fuel ≤ fuel') (setting : Setting) (hfirst : setting.first = true → Lasting W) :
    Follows W never (· = ·) (readSequence fuel setting []) (readSequence fuel' setting []) := by
  have hbegun : Begun W never setting [] [] :=
    ⟨nofun, fun hstart _ => ⟨fun _ => hfirst hstart, fun hnil => absurd rfl hnil⟩⟩
  refine follows_mono (h.sequence fuel' hle setting [] [] never hbegun) ?_
  rintro a b ⟨parts, -, rfl, rfl⟩
  rfl

/-- The alternatives after the first one, which has been read. -/
def moreAlternatives (fuel : Nat) (setting : Setting) (first : Tree) : Reading Tree := do
  if ← accept '|' then
    let whole := (← get).whole
    let verbose := if setting.top then whole.verbose else setting.verbose
    let rest ← readAlternatives fuel { setting with first := false, verbose := verbose }
    return .alternate first rest
  else return first

theorem readAlternatives_succ (fuel : Nat) (setting : Setting) :
    readAlternatives (fuel + 1) setting =
      readSequence fuel setting [] >>= moreAlternatives fuel setting := by
  rw [readAlternatives]
  rfl

/-- Two patterns have these first alternatives, and the same others. -/
def Joined (first first' tree tree' : Tree) : Prop :=
  (tree = first ∧ tree' = first') ∨
    ∃ rest, tree = .alternate first rest ∧ tree' = .alternate first' rest

section Nested

variable {fuel fuel' : Nat}

theorem ReadsOn.moreAlternatives (h : ReadsOn W fuel) (hW : ∀ w w', W w w' → w.Agree w')
    (hle : fuel ≤ fuel') (setting : Setting) (first first' : Tree) :
    Follows W never (Joined first first') (moreAlternatives fuel setting first)
      (moreAlternatives fuel' setting first') := by
  unfold Pattern.moreAlternatives
  refine follows_then (steady_accept _) fun more => follows_ite (fun _ => ?_) fun _ => ?_
  · refine follows_bind follows_get fun c d hcd => ?_
    dsimp only
    rw [(hW _ _ hcd.whole).verbose]
    refine follows_then (h.alternatives fuel' hle _ nofun) fun rest => follows_pure ?_
    exact .inr ⟨rest, rfl, rfl⟩
  · exact follows_pure (.inl ⟨rfl, rfl⟩)

theorem ReadsOn.alternatives_succ (h : ReadsOn W fuel) (hW : ∀ w w', W w w' → w.Agree w')
    (hle : fuel ≤ fuel') (setting : Setting) (hfirst : setting.first = true → Lasting W) :
    Follows W never (· = ·) (readAlternatives (fuel + 1) setting)
      (readAlternatives (fuel' + 1) setting) := by
  rw [readAlternatives_succ, readAlternatives_succ]
  refine follows_then (h.sequence_eq hle setting hfirst) fun first => ?_
  refine follows_mono (h.moreAlternatives hW hle setting first first) ?_
  rintro _ _ (⟨rfl, rfl⟩ | ⟨rest, rfl, rfl⟩)
  · rfl
  · rfl

theorem ReadsOn.sequence_succ (h : ReadsOn W fuel) (hle : fuel ≤ fuel') {setting : Setting}
    {items below : List Tree} (hbegun : Begun W excused setting items below) :
    Follows W excused (Under below) (readSequence (fuel + 1) setting items)
      (readSequence (fuel' + 1) setting (items ++ below)) := by
  have hgo : ∀ {items}, Begun W excused setting items below →
      Follows W excused (Under below) (readSequence fuel setting items)
        (readSequence fuel' setting (items ++ below)) :=
    fun hbegun => h.sequence fuel' hle setting _ below excused hbegun
  have hpart : ∀ token, Follows W excused (Under below)
      (do readSequence fuel setting ((← readPart token) :: items))
      (do readSequence fuel' setting ((← readPart token) :: (items ++ below))) := by
    intro token
    refine follows_bind (steady_readPart token) ?_
    rintro part _ ⟨rfl, hsingle⟩
    exact hgo (hbegun.push hsingle)
  unfold readSequence
  refine follows_then steady_peek fun token => ?_
  refine follows_ite (fun _ => follows_pure ?_) fun _ => ?_
  · exact ⟨items.reverse, by simpa using hbegun.single, rfl, by simp⟩
  refine follows_bind follows_get fun c d hcd => ?_
  refine follows_then steady_next fun _ => ?_
  split
  · refine follows_ite (fun _ => hgo hbegun) fun _ => follows_ite (fun _ => ?_) fun _ => ?_
    · refine follows_bind follows_get fun c d hcd => ?_
      rw [hcd.length]
      exact follows_then (steady_skipLine _) fun _ => hgo hbegun
    refine follows_ite (fun _ => ?_) fun _ => follows_ite (fun _ => ?_) fun _ => hpart _
    · refine follows_then (steady_readBounds _) fun bounds => ?_
      cases bounds with
      | none => exact hgo (hbegun.push rfl)
      | some bounds =>
        refine follows_bind (follows_repeatLast _ _ bounds items below) ?_
        rintro _ _ ⟨rfl, part, hsingle, rfl⟩
        exact hgo (hbegun.pushTail hsingle)
    · exact h.group fuel' hle setting items below excused _ _ hbegun
  · exact hpart _

theorem ReadsOn.group_succ (h : ReadsOn W fuel) (hraised : ReadsOn Raised fuel)
    (hW : ∀ w w', W w w' → w.Agree w') (hle : fuel ≤ fuel') {setting : Setting}
    {items below : List Tree} (opening opening' : Nat)
    (hbegun : Begun W excused setting items below) :
    Follows W excused (Under below) (readGroup (fuel + 1) setting items opening)
      (readGroup (fuel' + 1) setting (items ++ below) opening') := by
  have hgo : ∀ {items}, Begun W excused setting items below →
      Follows W excused (Under below) (readSequence fuel setting items)
        (readSequence fuel' setting (items ++ below)) :=
    fun hbegun => h.sequence fuel' hle setting _ below excused hbegun
  unfold readGroup
  refine follows_opening (fun opened hplain => ?_) fun c d hc halike => ?_
  · cases opened with
    | nothing => exact hgo hbegun
    | part tree => exact hgo (hbegun.push hplain)
    | flags => exact hplain.elim
    | look behind negated =>
      refine follows_bind follows_get fun c d hcd => ?_
      rw [hcd.beforeLookBehind]
      refine follows_when (follows_modify fun c d hcd => ?_) ?_
      · exact { hcd with
          beforeLookBehind := congrArg (fun widths => some widths.length) hcd.widths }
      refine follows_then (h.alternatives fuel' hle _ nofun) fun body => ?_
      refine follows_then (follows_modify fun c d hcd => { hcd with beforeLookBehind := rfl })
        fun _ => ?_
      refine follows_then (follows_closeParenthesis _ _) fun _ => ?_
      refine follows_bind follows_get fun c d hcd => ?_
      rw [hcd.groupWidth?]
      cases behind with
      | false => exact hgo (hbegun.push rfl)
      | true => exact hgo (hbegun.push rfl)
    | condition number =>
      refine follows_then (h.sequence_eq hle _ nofun) fun present => ?_
      refine follows_then (steady_accept _) fun other => ?_
      have hclose : ∀ absent, Follows W excused (Under below)
          (do
            closeParenthesis opening
            readSequence fuel setting (.conditional number present absent :: items))
          (do
            closeParenthesis opening'
            readSequence fuel' setting (.conditional number present absent :: (items ++ below))) :=
        fun absent => follows_then (follows_closeParenthesis _ _) fun _ => hgo (hbegun.push rfl)
      refine follows_ite (fun _ => ?_) fun _ => hclose .empty
      refine follows_then (h.sequence_eq hle _ nofun) fun absent => ?_
      refine follows_then steady_peek fun token => ?_
      exact follows_unless (stops_fail _ _) fun _ => hclose absent
    | group name captures atomic on off =>
      refine follows_choice (steady_map some (steady_openGroup name)) (follows_pure rfl)
        fun number => ?_
      refine follows_then (h.alternatives fuel' hle _ nofun) fun body => ?_
      refine follows_then (follows_closeParenthesis _ _) fun _ => ?_
      have hsingle : Tree.IsSingle
          (if atomic then .atomic body else .group number (.ofLetters on off) body) := by
        cases atomic with
        | false => rfl
        | true => rfl
      cases number with
      | none => exact hgo (hbegun.push hsingle)
      | some number =>
        exact follows_then (steady_closeGroup number body) fun _ => hgo (hbegun.push hsingle)
  · -- Flags for the whole pattern: they stand at the start, or the first reading stops.
    dsimp only
    by_cases hstart : (!setting.first || !items.isEmpty) = true
    · rw [if_pos hstart]
      intro a c' hrun
      exact absurd hrun ((stops_failAt _ _).bind _ _ _)
    rw [if_neg hstart]
    obtain ⟨hfirst, rfl⟩ : setting.first = true ∧ items = [] := by simpa using hstart
    have hbears := hbegun.flags hfirst rfl
    cases below with
    | nil =>
      have hlasting := hbears.alone rfl
      rw [if_neg (by simpa using hfirst)]
      refine follows_bind follows_get (fun c d hcd => ?_) c d (halike hlasting)
      rw [(hW _ _ hcd.whole).verbose]
      exact h.sequence fuel' hle _ [] [] excused ⟨hbegun.single, fun _ _ => hbears⟩
    | cons part below =>
      rw [if_pos (by simp)]
      intro tree c' hrun
      refine .inr ⟨_, rfl, hbears.behind nofun c' ?_⟩
      obtain ⟨_, _, hget, hrest⟩ := run_bind_ok_iff.mp hrun
      cases hget
      refine raised_of_follows (hraised.sequence_eq (Nat.le_refl _) _ ?_) hrest hc
      exact fun _ => lasting_raised

end Nested

/-- The readers of nested parts read on however deep they may go. -/
theorem readsOn (fuel : Nat) : ∀ W, (∀ w w', W w w' → w.Agree w') → ReadsOn W fuel := by
  induction fuel with
  | zero =>
    intro W _
    refine ⟨?_, ?_, ?_⟩
    · intro _ _ setting _
      exact follows_of_stops (stops_fail _ _)
    · intro _ _ setting items below excused _
      exact follows_of_stops (stops_fail _ _)
    · intro _ _ setting items below excused opening opening' _
      exact follows_of_stops (stops_fail _ _)
  | succ fuel ih =>
    intro W hW
    have hraised := ih Raised agree_of_raised
    refine ⟨?_, ?_, ?_⟩
    all_goals
      intro fuel' hle
      obtain ⟨deeper, rfl⟩ : ∃ deeper, fuel' = deeper + 1 := ⟨fuel' - 1, by omega⟩
    · exact (ih W hW).alternatives_succ hW (by omega)
    · exact fun _ _ _ _ => (ih W hW).sequence_succ (by omega)
    · exact fun _ _ _ _ => (ih W hW).group_succ hraised hW (by omega)

/-! ## Whole patterns -/

/-- The setting of a whole pattern. -/
def Setting.whole : Setting := { top := true, first := true, verbose := false }

/-- What is looked at when all alternatives of a pattern have been read. -/
def finish (tree : Tree) : Reading Tree := do
  let cursor ← get
  if cursor.whole.flags.ascii && cursor.whole.unicode then throw { cause := .alphabetsInConflict }
  if !cursor.rest.isEmpty then fail .unbalancedParenthesis
  if let some (number, position) := cursor.conditions.find? (·.1 ≥ cursor.nextGroup) then
    failAt (.invalidReference number) position
  if let some cause := refusal? cursor.whole.template tree then throw { cause := cause }
  return tree

theorem readWhole_eq (fuel : Nat) :
    readWhole fuel = refuseDangling >>= fun _ => readAlternatives fuel .whole >>= finish := rfl

theorem find?_condition_eq_none_iff (conditions : List (Nat × Nat)) (limit : Nat) :
    conditions.find? (·.1 ≥ limit) = none ↔ ∀ number ∈ conditions.map Prod.fst, number < limit := by
  simp

/-- Two patterns are finished alike, when the second one is refused for nothing
that the first one is not refused for. -/
theorem follows_finish {tree tree' : Tree} (hW : ∀ w w', W w w' → w.Agree w')
    (h : ∀ w w', W w w' → refusal? w'.template tree = none → refusal? w'.template tree' = none) :
    Follows W never (fun finished finished' => finished = tree ∧ finished' = tree') (finish tree)
      (finish tree') := by
  unfold finish
  refine follows_bind follows_get fun c d hcd => ?_
  have hagree := hW _ _ hcd.whole
  rw [hagree.ascii, hagree.unicode, hagree.template]
  refine follows_unless (stops_throw _) fun _ => ?_
  rw [show c.rest.isEmpty = d.rest.isEmpty by rw [← List.isEmpty_map, hcd.tokens, List.isEmpty_map]]
  refine follows_unless (stops_fail _ _) fun _ => ?_
  cases hc : c.conditions.find? (·.1 ≥ c.nextGroup) with
  | some condition => exact follows_of_stops ((stops_failAt _ _).bind _)
  | none =>
    have hd : d.conditions.find? (·.1 ≥ d.nextGroup) = none := by
      rw [find?_condition_eq_none_iff, ← hcd.conditions, ← hcd.nextGroup]
      exact (find?_condition_eq_none_iff _ _).mp hc
    rw [hd]
    dsimp only
    cases hrefused : refusal? d.whole.template tree with
    | some cause => exact follows_of_stops ((stops_throw _).bind _)
    | none =>
      rw [h _ _ hcd.whole hrefused]
      exact follows_pure ⟨rfl, rfl⟩

/-- Whether a text can be read is seen from the place before its first token. -/
theorem exists_readNaming_iff {named? : Text → Option Char} {source : Text} {flags : Flags} :
    (∃ pattern, readNaming named? source flags = .ok pattern) ↔
      ∃ r, (readWhole (4 * source.length + 8)).run (.start named? source flags) = .ok r := by
  unfold readNaming
  cases (readWhole (4 * source.length + 8)).run (.start named? source flags) with
  | error fault => exact iff_of_false nofun nofun
  | ok r => exact iff_of_true ⟨_, rfl⟩ ⟨_, rfl⟩

/-- A text that can be read is read as well where more characters have names, and
under other flags that agree on the alphabet: letter case and lines matter to the
search alone. -/
theorem exists_readNaming_of {named? more? : Text → Option Char} {source : Text}
    {flags flags' : Flags} (hnames : ∀ name x, named? name = some x → more? name = some x)
    (hascii : flags.ascii = flags'.ascii)
    (h : ∃ pattern, readNaming named? source flags = .ok pattern) :
    ∃ pattern, readNaming more? source flags' = .ok pattern := by
  obtain ⟨⟨tree, cursor⟩, hrun⟩ := exists_readNaming_iff.mp h
  have hread := readsOn (4 * source.length + 8) WholeFlags.Agree fun _ _ => id
  have hsteady : Follows WholeFlags.Agree never (fun _ _ => True)
      (readWhole (4 * source.length + 8)) (readWhole (4 * source.length + 8)) := by
    rw [readWhole_eq]
    refine follows_then steady_refuseDangling fun _ => ?_
    refine follows_then (hread.alternatives _ (Nat.le_refl _) _ fun _ => lasting_agree)
      fun tree => ?_
    exact follows_mono (follows_finish (fun _ _ => id) fun _ _ _ => id) fun _ _ _ => trivial
  have halike : (Cursor.start named? source flags).Alike WholeFlags.Agree
      (.start more? source flags') :=
    ⟨hnames, rfl, rfl, rfl, rfl, rfl, rfl, rfl, rfl, hascii⟩
  obtain ⟨tree', cursor', hrun', _⟩ := exists_of_follows hsteady halike hrun
  exact exists_readNaming_iff.mpr ⟨(tree', cursor'), hrun'⟩

section

variable [Characters] {source : Text} {flags flags' : Flags}

/-- The text can be read as a pattern. -/
def Readable (source : Text) (flags : Flags := {}) : Prop :=
  ∃ pattern, Pattern.read source flags = .ok pattern

theorem Readable.of_ascii_eq (hascii : flags.ascii = flags'.ascii) (h : Readable source flags) :
    Readable source flags' :=
  exists_readNaming_of (fun _ _ => id) hascii h

/-- A text that can be read where no character has a name can be read. -/
theorem readable_of_unnamed (h : (readNaming (fun _ => none) source flags).isOk = true) :
    Readable source flags :=
  exists_readNaming_of (fun _ _ h => by cases h) rfl (exists_of_isOk h)

end

end ImageLint.Pattern
