-- What a removal finds. A configured pattern is written behind the start of a
-- removal just as it stands. What its first alternative matches is found there
-- behind a command `rm`, on the line of that command, and so it should be with the
-- others. But those are alternatives to the whole removal, so that they are found
-- without any command; and a pattern that turns flags on is not read at all.
import ImageLint.Proofs.CheckedSettings
import ImageLint.Proofs.Removals
import ImageLint.Text.Names

namespace ImageLint.Pattern

/-! ## Places in a text -/

/-- The place after the first `i` characters of the text. -/
def spotAt (text : Text) (i : Nat) : Spot := ⟨(text.take i).reverse, text.drop i, []⟩

/-- The pattern matches the text from the place after its first `i` characters. -/
def matchesAt (pattern : Pattern) (text : Text) (i : Nat) : Bool :=
  (run pattern.flags pattern.tree (spotAt text i) some).isSome

theorem matchesFrom_eq_true_iff {flags : Flags} {tree : Tree} {before after : Text} :
    matchesFrom flags tree before after = true ↔ ∃ i ≤ after.length,
      (run flags tree ⟨(after.take i).reverse ++ before, after.drop i, []⟩ some).isSome := by
  induction after generalizing before with
  | nil => simp [matchesFrom]
  | cons c after ih =>
    rw [matchesFrom, Bool.or_eq_true, ih]
    constructor
    · rintro (hhere | ⟨i, hi, hlater⟩)
      · exact ⟨0, Nat.zero_le _, by simpa using hhere⟩
      · exact ⟨i + 1, by simpa using hi, by simpa using hlater⟩
    · rintro ⟨i, hi, hfound⟩
      cases i with
      | zero => exact .inl (by simpa using hfound)
      | succ i => exact .inr ⟨i, by simpa using hi, by simpa using hfound⟩

theorem matchesIn_eq_true_iff {pattern : Pattern} {text : Text} :
    pattern.matchesIn text = true ↔ ∃ i ≤ text.length, pattern.matchesAt text i = true := by
  simp only [matchesIn, matchesFrom_eq_true_iff, List.append_nil, matchesAt, spotAt]

/-- A pattern matches where one of its alternatives does. -/
theorem isSome_run_iff_alternatives {flags : Flags} {tree : Tree} {spot : Spot} {rest : Rest} :
    (run flags tree spot rest).isSome ↔
      ∃ alternative ∈ tree.alternatives, (run flags alternative spot rest).isSome := by
  induction tree with
  | alternate first second _ ih =>
    simp only [Tree.alternatives, List.mem_cons, exists_eq_or_imp]
    rw [← ih, run]
    cases run flags first spot rest with
    | none => simp
    | some found => simp
  | _ => simp [Tree.alternatives]

theorem run_ofList_cons {flags : Flags} (part : Tree) (parts : List Tree) (spot : Spot)
    (rest : Rest) :
    run flags (.ofList (part :: parts)) spot rest =
      run flags part spot fun spot => run flags (.ofList parts) spot rest := by
  cases parts with
  | nil => simp [Tree.ofList, run]
  | cons next parts => rw [Tree.ofList, run]; simp

theorem isSingle_ofList {parts : List Tree} (h : ∀ part ∈ parts, part.IsSingle) :
    (Tree.ofList parts).IsSingle := by
  match parts with
  | [] => rfl
  | [part] => exact h part (List.mem_singleton_self _)
  | _ :: _ :: _ => rfl

/-! ## One character after the other -/

theorem step_spotAt (p : Char → Bool) (text : Text) (i : Nat) :
    (spotAt text i).step p = (text[i]?.filter p).map fun _ => spotAt text (i + 1) := by
  unfold spotAt Spot.step
  dsimp only
  cases hc : text[i]? with
  | none =>
    rw [List.getElem?_eq_none_iff] at hc
    rw [List.drop_eq_nil_of_le hc]
    rfl
  | some c =>
    obtain ⟨hi, rfl⟩ := List.getElem?_eq_some_iff.mp hc
    have htake : (text.take (i + 1)).reverse = text[i] :: (text.take i).reverse := by
      rw [List.take_succ_eq_append_getElem hi, List.reverse_concat]
    rw [List.drop_eq_getElem_cons hi, htake]
    cases hp : p text[i] with
    | false => simp [Option.filter, hp]
    | true => simp [Option.filter, hp]

theorem isSome_step_bind {p : Char → Bool} {text : Text} {i : Nat} {rest : Rest} :
    (((spotAt text i).step p).bind rest).isSome ↔
      (∃ c, text[i]? = some c ∧ p c = true) ∧ (rest (spotAt text (i + 1))).isSome := by
  rw [step_spotAt]
  cases text[i]? with
  | none => simp
  | some c =>
    cases hp : p c with
    | false => simp [Option.filter, hp]
    | true => simp [Option.filter, hp]

/-- The text has no line feed from `i` up to `j`. -/
def OneLine (text : Text) (i j : Nat) : Prop := '\n' ∉ (text.take j).drop i

theorem oneLine_self (text : Text) (i : Nat) : OneLine text i i := by
  simp [OneLine]

theorem oneLine_iff_of_lt {text : Text} {i j : Nat} (hij : i < j) (hj : j ≤ text.length) :
    OneLine text i j ↔ (∃ c, text[i]? = some c ∧ c ≠ '\n') ∧ OneLine text (i + 1) j := by
  have hi : i < (text.take j).length := by
    rw [List.length_take]
    omega
  have hget : text[i]? = some (text.take j)[i] := by
    rw [← List.getElem?_eq_getElem hi, List.getElem?_take_of_lt hij]
  rw [OneLine, List.drop_eq_getElem_cons hi, List.mem_cons, not_or, hget, OneLine]
  simp [eq_comm]

/-- As few characters as will do, on one line: some number of them, the rest
matching behind. -/
theorem isSome_repeatBody_any {rest : Rest} {text : Text} (rounds done i : Nat) (last : Option Nat)
    (hi : i ≤ text.length) (hrounds : text.length - i < rounds)
    (hlast : last ≠ some (text.length - i)) :
    (repeatBody (run {} .any) true 0 none rounds done last (spotAt text i) rest).isSome ↔
      ∃ j, i ≤ j ∧ j ≤ text.length ∧ OneLine text i j ∧ (rest (spotAt text j)).isSome := by
  induction rounds generalizing done i last with
  | zero => omega
  | succ rounds ih =>
    have hsize : (spotAt text i).after.length = text.length - i := List.length_drop
    have hagain : (last != some (text.length - i)) = true := by simpa using hlast
    rw [repeatBody, if_neg (Nat.not_lt_zero _)]
    dsimp only
    rw [if_pos rfl, Option.isSome_or, Bool.or_eq_true, hsize, hagain]
    simp only [moreAllowed, Bool.and_self, if_true]
    rw [run, isSome_step_bind]
    constructor
    · rintro (hhere | ⟨hc, hlater⟩)
      · exact ⟨i, Nat.le_refl _, hi, oneLine_self text i, hhere⟩
      · have hlt : i < text.length := by
          obtain ⟨c, hget, -⟩ := hc
          exact (List.getElem?_eq_some_iff.mp hget).1
        obtain ⟨j, hij, hj, hline, hfound⟩ := (ih (done + 1) (i + 1) _ hlt (by omega)
          (by simp; omega)).mp hlater
        refine ⟨j, by omega, hj, (oneLine_iff_of_lt hij hj).mpr ⟨?_, hline⟩, hfound⟩
        simpa using hc
    · rintro ⟨j, hij, hj, hline, hfound⟩
      rcases Nat.eq_or_lt_of_le hij with rfl | hlt
      · exact .inl hfound
      · obtain ⟨hc, hline⟩ := (oneLine_iff_of_lt hlt hj).mp hline
        refine .inr ⟨by simpa using hc, ?_⟩
        exact (ih (done + 1) (i + 1) _ (by omega) (by omega) (by simp; omega)).mpr
          ⟨j, hlt, hj, hline, hfound⟩

/-! ## Removals -/

/-- A command `rm` at `i` removes something, and `j` is behind it on its line:
the word stands on its own and a blank follows it. -/
structure RemovalAt (text : Text) (i j : Nat) : Prop where
  word : text[i]? = some 'r' ∧ text[i + 1]? = some 'm'
  alone : ∀ c, (text.take i).getLast? = some c → Unicode.isWord c = false
  blank : ∃ c, text[i + 2]? = some c ∧ Text.isBlank c = true
  behind : i + 3 ≤ j
  inside : j ≤ text.length
  line : OneLine text (i + 3) j

theorem atBoundary_spotAt {text : Text} {i : Nat} {c : Char} (hc : text[i]? = some c)
    (hword : Unicode.isWord c = true) :
    (spotAt text i).atBoundary false = true ↔
      ∀ c, (text.take i).getLast? = some c → Unicode.isWord c = false := by
  have hafter : (spotAt text i).after.head? = some c := by
    rw [← hc]
    exact List.head?_drop
  unfold Spot.atBoundary
  dsimp only [Category.has]
  rw [hafter]
  change _ ↔ ∀ c, (text.take i).getLast? = some c → _
  rw [show (spotAt text i).before.head? = (text.take i).getLast? from List.head?_reverse]
  cases (text.take i).getLast? with
  | none => simp [hword]
  | some b => simp [hword]

theorem isSome_run_char {text : Text} {i : Nat} {rest : Rest} (c : Char) :
    (run {} (.char c.toNat) (spotAt text i) rest).isSome ↔
      text[i]? = some c ∧ (rest (spotAt text (i + 1))).isSome := by
  rw [run, isSome_step_bind]
  simp [charMatches, Char.toNat_inj]

theorem isSome_run_blank {text : Text} {i : Nat} {rest : Rest} :
    (run {} (.set false [.category .space false]) (spotAt text i) rest).isSome ↔
      (∃ c, text[i]? = some c ∧ Text.isBlank c = true) ∧ (rest (spotAt text (i + 1))).isSome := by
  rw [run, isSome_step_bind]
  simp [setMatches, SetItem.has, Category.has]

theorem isSome_run_anything {text : Text} {i : Nat} {rest : Rest} (hi : i ≤ text.length) :
    (run {} (.repetition .shortest 0 none .any) (spotAt text i) rest).isSome ↔
      ∃ j, i ≤ j ∧ j ≤ text.length ∧ OneLine text i j ∧ (rest (spotAt text j)).isSome := by
  have hsize : (spotAt text i).after.length = text.length - i := List.length_drop
  exact isSome_repeatBody_any _ 0 i none hi (by omega) nofun

/-- Parts behind the start of a removal match where there is a removal, and the
parts match behind it. -/
theorem isSome_run_removal {parts : List Tree} {text : Text} {i : Nat} :
    (run {} (.ofList (removalParts.reverse ++ parts)) (spotAt text i) some).isSome ↔
      ∃ j, RemovalAt text i j ∧ (run {} (.ofList parts) (spotAt text j) some).isSome := by
  have hparts : removalParts.reverse ++ parts =
      .anchor .boundary :: .char 'r'.toNat :: .char 'm'.toNat ::
        .set false [.category .space false] :: .repetition .shortest 0 none .any :: parts := rfl
  have hanchor : ∀ rest, (run {} (.anchor .boundary) (spotAt text i) rest).isSome ↔
      (spotAt text i).atBoundary false = true ∧ (rest (spotAt text i)).isSome := by
    intro rest
    rw [run, Spot.satisfies]
    cases (spotAt text i).atBoundary false with
    | false => simp
    | true => simp
  rw [hparts]
  simp only [run_ofList_cons]
  rw [hanchor, isSome_run_char, isSome_run_char, isSome_run_blank]
  constructor
  · rintro ⟨hboundary, hr, hm, hblank, hrest⟩
    have hi : i + 3 ≤ text.length := by
      obtain ⟨c, hget, -⟩ := hblank
      exact (List.getElem?_eq_some_iff.mp hget).1
    have halone := (atBoundary_spotAt hr rfl).mp hboundary
    obtain ⟨j, hj, hinside, hline, hfound⟩ := (isSome_run_anything hi).mp hrest
    exact ⟨j, ⟨⟨hr, hm⟩, halone, hblank, hj, hinside, hline⟩, hfound⟩
  · rintro ⟨j, hremoval, hfound⟩
    refine ⟨(atBoundary_spotAt hremoval.word.1 rfl).mpr hremoval.alone, hremoval.word.1,
      hremoval.word.2, hremoval.blank, ?_⟩
    exact (isSome_run_anything (Nat.le_trans hremoval.behind hremoval.inside)).mpr
      ⟨j, hremoval.behind, hremoval.inside, hremoval.line, hfound⟩

/-! ## What is found -/

/-- The text removes what the pattern written as `source` matches: behind a
command `rm`, on its line. -/
def Removes [Characters] (source text : Text) : Prop :=
  ∃ pattern, Pattern.read source = .ok pattern ∧
    ∃ i j, RemovalAt text i j ∧ pattern.matchesAt text j = true

/-- An alternative of the pattern other than the first one matches the text,
wherever that may be. -/
def Strays [Characters] (source text : Text) : Prop :=
  ∃ pattern, Pattern.read source = .ok pattern ∧
    ∃ later ∈ pattern.tree.alternatives.tail,
      Pattern.matchesIn ⟨later, pattern.flags⟩ text = true

theorem Behind.alternatives {tree tree' : Tree} (h : Behind tree tree') :
    ∃ parts later, tree.alternatives = .ofList parts :: later ∧
      tree'.alternatives = .ofList (removalParts.reverse ++ parts) :: later := by
  obtain ⟨_, _, ⟨parts, hsingle, rfl, rfl⟩, hjoined⟩ := h
  rcases hjoined with ⟨rfl, rfl⟩ | ⟨rest, rfl, rfl⟩
  · refine ⟨parts, [], isSingle_ofList hsingle, isSingle_ofList ?_⟩
    refine List.forall_mem_append.mpr ⟨?_, hsingle⟩
    simp [removalParts, Tree.IsSingle, Tree.alternatives]
  · exact ⟨parts, rest.alternatives, rfl, rfl⟩

/-- A pattern is found where one of its alternatives is. -/
theorem matchesIn_iff_alternatives {tree : Tree} {flags : Flags} {text : Text} :
    Pattern.matchesIn ⟨tree, flags⟩ text = true ↔
      ∃ alternative ∈ tree.alternatives, Pattern.matchesIn ⟨alternative, flags⟩ text = true := by
  simp only [matchesIn_eq_true_iff, matchesAt]
  constructor
  · rintro ⟨i, hi, hmatch⟩
    obtain ⟨alternative, hmem, hmatch⟩ := isSome_run_iff_alternatives.mp hmatch
    exact ⟨alternative, hmem, i, hi, hmatch⟩
  · rintro ⟨alternative, hmem, i, hi, hmatch⟩
    exact ⟨i, hi, isSome_run_iff_alternatives.mpr ⟨alternative, hmem, hmatch⟩⟩

theorem matchesIn_removal {parts : List Tree} {text : Text} :
    Pattern.matchesIn ⟨.ofList (removalParts.reverse ++ parts), {}⟩ text = true ↔
      ∃ i j, RemovalAt text i j ∧ Pattern.matchesAt ⟨.ofList parts, {}⟩ text j = true := by
  rw [matchesIn_eq_true_iff]
  constructor
  · rintro ⟨i, -, hmatch⟩
    exact ⟨i, isSome_run_removal.mp hmatch⟩
  · rintro ⟨i, j, hremoval, hmatch⟩
    have hi : i < text.length := (List.getElem?_eq_some_iff.mp hremoval.word.1).1
    exact ⟨i, Nat.le_of_lt hi, isSome_run_removal.mpr ⟨j, hremoval, hmatch⟩⟩

section Read

variable {source : Text} {tree : Tree} {flags : Flags}

theorem removes_iff [Characters] (hread : Pattern.read source = .ok ⟨tree, flags⟩) {text : Text} :
    Removes source text ↔ ∃ alternative ∈ tree.alternatives, ∃ i j, RemovalAt text i j ∧
      Pattern.matchesAt ⟨alternative, flags⟩ text j = true := by
  unfold Removes
  rw [hread]
  constructor
  · rintro ⟨_, ⟨⟩, i, j, hremoval, hmatch⟩
    obtain ⟨alternative, hmem, hmatch⟩ := isSome_run_iff_alternatives.mp hmatch
    exact ⟨alternative, hmem, i, j, hremoval, hmatch⟩
  · rintro ⟨alternative, hmem, i, j, hremoval, hmatch⟩
    refine ⟨_, rfl, i, j, hremoval, ?_⟩
    exact isSome_run_iff_alternatives.mpr ⟨alternative, hmem, hmatch⟩

theorem strays_iff [Characters] (hread : Pattern.read source = .ok ⟨tree, flags⟩) {text : Text} :
    Strays source text ↔ ∃ later ∈ tree.alternatives.tail,
      Pattern.matchesIn ⟨later, flags⟩ text = true := by
  unfold Strays
  rw [hread]
  constructor
  · rintro ⟨_, ⟨⟩, hlater⟩
    exact hlater
  · exact fun hlater => ⟨_, rfl, hlater⟩

end Read

/-- A removal is found where the text removes what the pattern matches, and
wherever the pattern strays. -/
theorem search_removal [Characters] {source : Text} (hreadable : Readable source)
    (hflags : ¬ SetsFlags source) (text : Text) :
    ∃ found, Pattern.search (Rules.removalOf source) text = .ok found ∧
      (found = true ↔ Removes source text ∨ Strays source text) := by
  obtain ⟨⟨tree, flags⟩, hread⟩ := hreadable
  rcases read_removal hread with ⟨hsets, _⟩ | ⟨_, rfl, tree', hread', hbehind⟩
  · exact absurd hsets hflags
  obtain ⟨parts, later, htree, htree'⟩ := hbehind.alternatives
  refine ⟨Pattern.matchesIn ⟨tree', {}⟩ text, by rw [search, hread']; rfl, ?_⟩
  rw [matchesIn_iff_alternatives, htree', removes_iff hread, strays_iff hread, htree,
    List.tail_cons]
  simp only [List.mem_cons, exists_eq_or_imp]
  rw [matchesIn_removal, or_assoc]
  -- What a later alternative matches behind a removal, it matches somewhere.
  refine or_congr_right (or_iff_right_of_imp ?_).symm
  rintro ⟨alternative, hmem, i, j, hremoval, hmatch⟩
  exact ⟨alternative, hmem, matchesIn_eq_true_iff.mpr ⟨j, hremoval.inside, hmatch⟩⟩

/-- A pattern that has one alternative only never strays. -/
theorem not_strays_of_isSingle [Characters] {source : Text} {pattern : Pattern}
    (hread : Pattern.read source = .ok pattern) (hsingle : pattern.tree.IsSingle) (text : Text) :
    ¬ Strays source text := by
  rw [strays_iff hread, hsingle]
  rintro ⟨_, ⟨⟩, _⟩

theorem not_removes_nil [Characters] (source : Text) : ¬ Removes source [] := by
  rintro ⟨_, _, i, j, hremoval, _⟩
  exact absurd hremoval.word.1 (by simp)

end ImageLint.Pattern

namespace ImageLint

open Pattern (Readable Removes SetsFlags Strays)

/-! ## The patterns of a configuration -/

theorem Rules.removesTemp_iff [Characters] {patterns : List Text}
    (hreadable : ∀ p ∈ patterns, Readable p)
    (hflags : ∀ p ∈ patterns, ¬ SetsFlags p) (text : Text) :
    ∃ found, Rules.removesTemp text patterns = .ok found ∧
      (found = true ↔ ∃ p ∈ patterns, Removes p text ∨ Strays p text) :=
  exists_anyM_iff fun p hp => Pattern.search_removal (hreadable p hp) (hflags p hp) text

/-- Where nothing is found in the empty text, every pattern has been read, so that
none turns flags on. -/
theorem Rules.not_setsFlags_of_removesTemp [Characters] {patterns : List Text}
    (hreadable : ∀ p ∈ patterns, Readable p)
    (h : Rules.removesTemp [] patterns = .ok false) : ∀ p ∈ patterns, ¬ SetsFlags p := by
  intro p hp
  have hsearch := forall_of_anyM_eq_false h p hp
  rw [Pattern.setsFlags_iff (hreadable p hp)]
  refine fun hunread => hunread ?_
  unfold Pattern.search at hsearch
  cases hread : Pattern.read (Rules.removalOf p) with
  | error fault =>
    rw [hread] at hsearch
    cases hsearch
  | ok pattern => exact ⟨pattern, hread⟩

/-- The texts said to remove something are those that remove what some pattern
matches, exactly when no pattern turns flags on for the whole of it, and none has
an alternative beside its first one that is found where nothing is removed. -/
theorem patterns_keep_their_meaning_exactly_when_none_strays [Characters] {source : Text}
    {value : Yaml.Value}
    {config : Config} (hload : (Config.loadValue source value).result = .ok config) :
    (∀ text, ∃ found, Rules.removesTemp text config.tempCleanupPatterns = .ok found ∧
        (found = true ↔ ∃ p ∈ config.tempCleanupPatterns, Removes p text)) ↔
      ∀ p ∈ config.tempCleanupPatterns, ¬ SetsFlags p ∧
        ∀ text, Strays p text → ∃ q ∈ config.tempCleanupPatterns, Removes q text := by
  have hreadable := (Config.checked_of_loadValue hload).tempCleanupPatterns
  constructor
  · intro hlaw p hp
    have hflags : ∀ p ∈ config.tempCleanupPatterns, ¬ SetsFlags p := by
      obtain ⟨found, hfound, hiff⟩ := hlaw []
      have hnothing : found = false := by
        rw [← Bool.not_eq_true, hiff]
        rintro ⟨q, _, hremoves⟩
        exact Pattern.not_removes_nil q hremoves
      subst hnothing
      exact Rules.not_setsFlags_of_removesTemp hreadable hfound
    refine ⟨hflags p hp, fun text hstrays => ?_⟩
    obtain ⟨found, hfound, hiff⟩ := hlaw text
    obtain ⟨found', hfound', hiff'⟩ := Rules.removesTemp_iff hreadable hflags text
    rw [hfound] at hfound'
    cases hfound'
    exact hiff.mp (hiff'.mpr ⟨p, hp, .inr hstrays⟩)
  · intro hkeep text
    have hflags := fun p hp => (hkeep p hp).1
    obtain ⟨found, hfound, hiff⟩ := Rules.removesTemp_iff hreadable hflags text
    refine ⟨found, hfound, hiff.trans ⟨?_, ?_⟩⟩
    · rintro ⟨p, hp, hremoves | hstrays⟩
      · exact ⟨p, hp, hremoves⟩
      · exact (hkeep p hp).2 text hstrays
    · rintro ⟨p, hp, hremoves⟩
      exact ⟨p, hp, .inl hremoves⟩

/-- A pattern with alternatives inside a group. -/
def groupedCleanup : Yaml.Value :=
  .map [(.str "temp_cleanup_patterns", .list [.str "(?:tmp|log)$"])]

/-- A pattern with an alternative that no group holds. -/
def barredCleanup : Yaml.Value :=
  .map [(.str "temp_cleanup_patterns", .list [.str "/tmp/|cache"])]

open scoped Characters

/-- Alternatives inside a group do not stray, so the pattern keeps its meaning. -/
theorem a_bar_inside_a_group_keeps_to_removals :
    ∃ config, (Config.loadValue "<config>" groupedCleanup).result = .ok config ∧
      config.tempCleanupPatterns = ["(?:tmp|log)$".toList] ∧
      ∀ text, ∃ found, Rules.removesTemp text config.tempCleanupPatterns = .ok found ∧
        (found = true ↔ ∃ p ∈ config.tempCleanupPatterns, Removes p text) := by
  have hload : (Config.loadValue "<config>" groupedCleanup).result = .ok
      { tempCleanupPatterns := ["(?:tmp|log)$"] } := by rfl
  refine ⟨_, hload, rfl, (patterns_keep_their_meaning_exactly_when_none_strays hload).mpr ?_⟩
  intro p hp
  obtain rfl := List.mem_singleton.mp hp
  obtain ⟨pattern, hread, hsingle⟩ : ∃ pattern,
      Pattern.read "(?:tmp|log)$" = .ok pattern ∧ pattern.tree.IsSingle := ⟨_, rfl, rfl⟩
  have hremoval : Readable (Rules.removalOf "(?:tmp|log)$") := ⟨_, rfl⟩
  refine ⟨?_, fun text hstrays => absurd hstrays ?_⟩
  · rw [Pattern.setsFlags_iff ⟨pattern, hread⟩]
    exact fun hunread => hunread hremoval
  · exact Pattern.not_strays_of_isSingle hread hsingle text

/-- The bar divides the whole removal: `cache` alone is taken for one. -/
theorem a_bar_outside_a_group_is_found_without_a_removal :
    ¬ ∀ config, (Config.loadValue "<config>" barredCleanup).result = .ok config →
      ∀ text, ∃ found, Rules.removesTemp text config.tempCleanupPatterns = .ok found ∧
        (found = true ↔ ∃ p ∈ config.tempCleanupPatterns, Removes p text) := by
  intro hlaw
  have hload : (Config.loadValue "<config>" barredCleanup).result = .ok
      { tempCleanupPatterns := ["/tmp/|cache"] } := by rfl
  obtain ⟨found, hfound, hiff⟩ := hlaw _ hload "pip install --cache-dir x"
  have htrue : Rules.removesTemp "pip install --cache-dir x" ["/tmp/|cache".toList] = .ok true := by
    rfl
  obtain rfl : true = found := Except.ok.inj (htrue.symm.trans hfound)
  obtain ⟨_, _, _, _, i, _, hremoval, _⟩ := hiff.mp rfl
  have hi := (List.getElem?_eq_some_iff.mp hremoval.word.1).1
  have hnone : ∀ i < ("pip install --cache-dir x" : Text).length,
      ¬ (("pip install --cache-dir x" : Text)[i]? = some 'r' ∧
        ("pip install --cache-dir x" : Text)[i + 1]? = some 'm') := by decide
  exact hnone i hi hremoval.word

end ImageLint
