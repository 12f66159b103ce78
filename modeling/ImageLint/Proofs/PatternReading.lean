-- How a pattern is read depends on its tokens and on what is known of its
-- groups, and on nothing else: neither on where in a longer pattern it stands,
-- nor on whether letter case is ignored. Here this is shown of every step that
-- reads one part or one opening; of all these steps the flags for the whole pattern
-- alone change its flags.
import ImageLint.Pattern.Search
import ImageLint.Proofs.Outcomes

namespace ImageLint.Pattern

/-! ## Two readings side by side -/

/-- Two places from which reading goes on in the same way: the same tokens
follow, the same is known of the groups, the second one knows at least the names
of characters that the first one knows, and `W` relates the flags set for the
whole pattern. -/
structure Cursor.Alike (W : WholeFlags → WholeFlags → Prop) (c d : Cursor) : Prop where
  named : ∀ name x, c.named? name = some x → d.named? name = some x
  tokens : c.rest.map (·.text) = d.rest.map (·.text)
  names : c.names = d.names
  widths : c.widths = d.widths
  beforeLookBehind : c.beforeLookBehind = d.beforeLookBehind
  conditions : c.conditions.map Prod.fst = d.conditions.map Prod.fst
  whole : W c.whole d.whole

/-- Where the first step succeeds from `c`, the second one succeeds from `d`,
with a result that `R` relates and at a place alike, unless it stops for a cause
that is excused where the first one ends. -/
def KeepsUp {α β : Type} (W : WholeFlags → WholeFlags → Prop) (excused : Cursor → Cause → Prop)
    (R : α → β → Prop) (m : Reading α) (m' : Reading β) (c d : Cursor) : Prop :=
  ∀ a c', m.run c = .ok (a, c') →
    (∃ b d', m'.run d = .ok (b, d') ∧ R a b ∧ c'.Alike W d') ∨
      ∃ fault, m'.run d = .error fault ∧ excused c' fault.cause

/-- The second step keeps up with the first one from all places alike. -/
def Follows {α β : Type} (W : WholeFlags → WholeFlags → Prop) (excused : Cursor → Cause → Prop)
    (R : α → β → Prop) (m : Reading α) (m' : Reading β) : Prop :=
  ∀ c d, c.Alike W d → KeepsUp W excused R m m' c d

/-- No cause is excused. -/
def never (_ : Cursor) (_ : Cause) : Prop := False

/-- The step gives the same result from places alike. -/
abbrev Steady {α : Type} (W : WholeFlags → WholeFlags → Prop) (excused : Cursor → Cause → Prop)
    (m : Reading α) : Prop :=
  Follows W excused (· = ·) m m

/-- The step never succeeds. -/
def Stops {α : Type} (m : Reading α) : Prop := ∀ c r, m.run c ≠ .ok r

variable {α β γ δ : Type} {W : WholeFlags → WholeFlags → Prop} {excused : Cursor → Cause → Prop}
  {R : α → β → Prop} {S : γ → δ → Prop}

theorem run_bind_ok_iff {m : Reading α} {k : α → Reading β} {c : Cursor} {r : β × Cursor} :
    (m >>= k).run c = .ok r ↔ ∃ a c', m.run c = .ok (a, c') ∧ (k a).run c' = .ok r := by
  rw [StateT.run_bind, bind_eq_ok_iff]
  exact Prod.exists

/-- Without an excuse the second step succeeds. -/
theorem exists_of_follows {m : Reading α} {m' : Reading β} (h : Follows W never R m m')
    {c d c' : Cursor} {a : α} (hcd : c.Alike W d) (hrun : m.run c = .ok (a, c')) :
    ∃ b d', m'.run d = .ok (b, d') ∧ R a b ∧ c'.Alike W d' := by
  rcases h c d hcd a c' hrun with hfollows | ⟨_, _, hfalse⟩
  · exact hfollows
  · exact hfalse.elim

theorem follows_pure {a : α} {b : β} (h : R a b) : Follows W excused R (pure a) (pure b) := by
  intro c d hcd a' c' hrun
  cases hrun
  exact .inl ⟨b, d, rfl, h, hcd⟩

/-- What excuses the first step has to excuse the whole. -/
theorem follows_bind_excused {before : Cursor → Cause → Prop} {m : Reading α} {m' : Reading β}
    {k : α → Reading γ} {k' : β → Reading δ} (hm : Follows W before R m m')
    (hk : ∀ a b, R a b → Follows W excused S (k a) (k' b))
    (hlasts : ∀ a c r c' cause, (k a).run c = .ok (r, c') → before c cause → excused c' cause) :
    Follows W excused S (m >>= k) (m' >>= k') := by
  intro c d hcd r c'' hrun
  obtain ⟨a, c', hfirst, hrest⟩ := run_bind_ok_iff.mp hrun
  rcases hm c d hcd a c' hfirst with ⟨b, d', hfirst', hab, hcd'⟩ | ⟨fault, hfault, hexcused⟩
  · rw [StateT.run_bind, hfirst']
    exact hk a b hab c' d' hcd' r c'' hrest
  · refine .inr ⟨fault, ?_, hlasts a c' r c'' _ hrest hexcused⟩
    rw [StateT.run_bind, hfault]
    rfl

theorem follows_bind {m : Reading α} {m' : Reading β} {k : α → Reading γ} {k' : β → Reading δ}
    (hm : Follows W never R m m') (hk : ∀ a b, R a b → Follows W excused S (k a) (k' b)) :
    Follows W excused S (m >>= k) (m' >>= k') :=
  follows_bind_excused hm hk fun _ _ _ _ _ _ => False.elim

/-- After steps with the same result both readings go on with that result. -/
theorem follows_then {m m' : Reading α} {k : α → Reading γ} {k' : α → Reading δ}
    (hm : Follows W never (· = ·) m m') (hk : ∀ a, Follows W excused S (k a) (k' a)) :
    Follows W excused S (m >>= k) (m' >>= k') := by
  refine follows_bind hm fun a b hab => ?_
  subst hab
  exact hk a

theorem follows_of_stops {m : Reading α} {m' : Reading β} (h : Stops m) :
    Follows W excused R m m' := by
  intro c d _ a c' hrun
  exact absurd hrun (h c (a, c'))

theorem stops_fail (cause : Cause) (back : Nat) : Stops (fail cause back : Reading α) := by
  intro c r h
  cases h

theorem stops_failAt (cause : Cause) (position : Nat) :
    Stops (failAt cause position : Reading α) := by
  intro c r h
  cases h

theorem Stops.bind {m : Reading α} (h : Stops m) (k : α → Reading γ) : Stops (m >>= k) := by
  intro c r hrun
  obtain ⟨a, c', hfirst, _⟩ := run_bind_ok_iff.mp hrun
  exact h c (a, c') hfirst

/-- A test that stops both readings, or neither. -/
theorem follows_unless {p : Prop} [Decidable p] {stop : Reading α} {m : Reading γ}
    {other m' : Reading δ} {k : α → Reading γ} (hstop : Stops stop)
    (h : ¬ p → Follows W excused S m m') :
    Follows W excused S (if p then stop >>= k else m) (if p then other else m') := by
  split
  · exact follows_of_stops (hstop.bind k)
  · exact h ‹_›

theorem follows_ite {p : Prop} [Decidable p] {m n : Reading α} {m' n' : Reading β}
    (h : p → Follows W excused R m m') (h' : ¬ p → Follows W excused R n n') :
    Follows W excused R (if p then m else n) (if p then m' else n') := by
  split
  · exact h ‹_›
  · exact h' ‹_›

/-- Whichever of two steps comes first, both readings go on in the same way. -/
theorem follows_choice {p : Prop} [Decidable p] {m n : Reading α} {k : α → Reading γ}
    {k' : α → Reading δ} (hm : Steady W never m) (hn : Steady W never n)
    (hk : ∀ a, Follows W excused S (k a) (k' a)) :
    Follows W excused S (if p then m >>= k else n >>= k) (if p then m >>= k' else n >>= k') :=
  follows_ite (fun _ => follows_then hm hk) fun _ => follows_then hn hk

/-- A step that both readings take or leave out. -/
theorem follows_when {p : Prop} [Decidable p] {step step' : Reading PUnit}
    {k : PUnit → Reading γ} {k' : PUnit → Reading δ} (hstep : Follows W never (· = ·) step step')
    (hk : Follows W excused S (k ()) (k' ())) :
    Follows W excused S (if p then step >>= k else k ()) (if p then step' >>= k' else k' ()) :=
  follows_ite (fun _ => follows_then hstep fun _ => hk) fun _ => hk

theorem steady_map (f : α → β) {m : Reading α} (h : Steady W never m) :
    Steady W excused (f <$> m) := by
  rw [map_eq_pure_bind]
  exact follows_then h fun _ => follows_pure rfl

theorem follows_mono {m : Reading α} {m' : Reading β} {R' : α → β → Prop}
    (h : Follows W excused R m m') (hR : ∀ a b, R a b → R' a b) : Follows W excused R' m m' := by
  intro c d hcd a c' hrun
  rcases h c d hcd a c' hrun with ⟨b, d', hrun', hab, hcd'⟩ | hfault
  · exact .inl ⟨b, d', hrun', hR a b hab, hcd'⟩
  · exact .inr hfault

theorem follows_of_never {m : Reading α} {m' : Reading β} (h : Follows W never R m m') :
    Follows W excused R m m' := by
  intro c d hcd a c' hrun
  exact .inl (exists_of_follows h hcd hrun)

theorem follows_get : Follows W excused (Cursor.Alike W) (get : Reading Cursor) get := by
  intro c d hcd a c' hrun
  cases hrun
  exact .inl ⟨d, d, rfl, hcd, hcd⟩

theorem follows_set {c d : Cursor} (h : c.Alike W d) :
    Follows W excused (· = ·) (set c : Reading PUnit) (set d) := by
  intro _ _ _ a c' hrun
  cases hrun
  exact .inl ⟨(), d, rfl, rfl, h⟩

theorem follows_modify {f g : Cursor → Cursor} (h : ∀ c d, c.Alike W d → (f c).Alike W (g d)) :
    Follows W excused (· = ·) (modify f : Reading PUnit) (modify g) := by
  intro c d hcd a c' hrun
  cases hrun
  exact .inl ⟨(), g d, rfl, rfl, h c d hcd⟩

/-! ## Tokens -/

namespace Cursor.Alike

variable {c d : Cursor}

theorem head (h : c.Alike W d) : c.rest.head?.map (·.text) = d.rest.head?.map (·.text) := by
  rw [← List.head?_map, h.tokens, List.head?_map]

theorem length (h : c.Alike W d) : c.rest.length = d.rest.length := by
  simpa using congrArg List.length h.tokens

theorem tail (h : c.Alike W d) :
    Alike W { c with rest := c.rest.tail } { d with rest := d.rest.tail } :=
  { h with tokens := by rw [List.map_tail, h.tokens, List.map_tail] }

theorem nextGroup (h : c.Alike W d) : c.nextGroup = d.nextGroup := by
  rw [Cursor.nextGroup, h.widths, Cursor.nextGroup]

theorem groupWidth? (h : c.Alike W d) : c.groupWidth? = d.groupWidth? := by
  funext number
  rw [Cursor.groupWidth?, h.widths, Cursor.groupWidth?]

end Cursor.Alike

theorem steady_refuseDangling : Steady W excused refuseDangling := by
  unfold refuseDangling
  refine follows_bind follows_get fun c d hcd => ?_
  have hhead := hcd.head
  cases hc : c.rest.head? with
  | none =>
    cases hd : d.rest.head? with
    | none => exact follows_pure rfl
    | some u => simp [hc, hd] at hhead
  | some t =>
    cases hd : d.rest.head? with
    | none => simp [hc, hd] at hhead
    | some u =>
      simp only [hc, hd, Option.map_some, Option.some.injEq] at hhead
      dsimp only
      rw [hhead]
      exact follows_ite (fun _ => follows_of_stops (stops_failAt _ _)) fun _ => follows_pure rfl

theorem steady_peek : Steady W excused peek := by
  unfold peek
  refine follows_bind follows_get fun c d hcd => ?_
  exact follows_pure hcd.head

theorem steady_next : Steady W excused next := by
  unfold next
  refine follows_then steady_peek fun token => ?_
  refine follows_then (follows_modify fun c d => Cursor.Alike.tail) fun _ => ?_
  refine follows_then steady_refuseDangling fun _ => ?_
  exact follows_pure rfl

theorem steady_accept (c : Char) : Steady W excused (accept c) := by
  unfold accept
  refine follows_then steady_peek fun token => follows_ite (fun _ => ?_) fun _ => follows_pure rfl
  exact follows_then steady_next fun _ => follows_pure rfl

theorem steady_takeWhile (p : Char → Bool) (count : Nat) :
    Steady W excused (takeWhile p count) := by
  induction count generalizing excused with
  | zero => exact follows_pure rfl
  | succ count ih =>
    unfold takeWhile
    refine follows_then steady_peek fun token => ?_
    split
    · refine follows_ite (fun _ => ?_) fun _ => follows_pure rfl
      exact follows_then steady_next fun _ => follows_then ih fun _ => follows_pure rfl
    · exact follows_pure rfl

theorem steady_takeAll (p : Char → Bool) : Steady W excused (takeAll p) := by
  unfold takeAll
  refine follows_bind follows_get fun c d hcd => ?_
  rw [hcd.length]
  exact steady_takeWhile p _

theorem steady_untilTerminator (terminator : Char) (what : Text) (count : Nat) (name : Text) :
    Steady W excused (untilTerminator terminator what count name) := by
  induction count generalizing name with
  | zero => exact follows_of_stops (stops_fail _ _)
  | succ count ih =>
    unfold untilTerminator
    refine follows_then steady_next fun token => ?_
    cases token with
    | none =>
      dsimp only
      split
      · exact follows_of_stops (stops_fail _ _)
      · exact follows_of_stops (stops_fail _ _)
    | some token =>
      refine follows_ite (fun _ => ?_) fun _ => ih _
      exact follows_ite (fun _ => follows_of_stops (stops_fail _ _)) fun _ => follows_pure rfl

theorem steady_takeName (terminator : Char) (what : Text) :
    Steady W excused (takeName terminator what) := by
  unfold takeName
  refine follows_bind follows_get fun c d hcd => ?_
  rw [hcd.length]
  exact steady_untilTerminator terminator what _ []

/-! ## Escapes -/

theorem steady_hexEscape (start : Text) (count : Nat) :
    Steady W excused (hexEscape start count) := by
  unfold hexEscape
  refine follows_then (steady_takeWhile isHex count) fun digits => ?_
  refine follows_unless (stops_fail _ _) fun _ => ?_
  exact follows_unless (stops_fail _ _) fun _ => follows_pure rfl

theorem steady_namedEscape : Steady W excused namedEscape := by
  unfold namedEscape
  refine follows_then (steady_accept _) fun accepted => ?_
  refine follows_unless (stops_fail _ _) fun _ => ?_
  refine follows_then (steady_takeName _ _) fun name => ?_
  refine follows_bind follows_get fun c d hcd => ?_
  cases hname : c.named? name with
  | none => exact follows_of_stops (stops_fail _ _)
  | some x =>
    rw [hcd.named name x hname]
    exact follows_pure rfl

theorem steady_codeEscape? (c : Char) : Steady W excused (codeEscape? c) := by
  unfold codeEscape?
  refine follows_ite (fun _ => ?_) fun _ => follows_ite (fun _ => ?_) fun _ =>
    follows_ite (fun _ => ?_) fun _ => follows_ite (fun _ => ?_) fun _ => follows_pure rfl
  · exact follows_then (steady_hexEscape _ _) fun _ => follows_pure rfl
  · exact follows_then (steady_hexEscape _ _) fun _ => follows_pure rfl
  · exact follows_then (steady_hexEscape _ _) fun _ => follows_pure rfl
  · exact follows_then steady_namedEscape fun _ => follows_pure rfl

theorem steady_plainEscape (c : Char) : Steady W excused (plainEscape c) := by
  unfold plainEscape
  exact follows_unless (stops_fail _ _) fun _ => follows_pure rfl

theorem steady_setEscape (c : Char) : Steady W excused (setEscape c) := by
  unfold setEscape
  split
  · exact follows_pure rfl
  split
  · exact follows_pure rfl
  refine follows_then (steady_codeEscape? c) fun code => ?_
  cases code with
  | some code => exact follows_pure rfl
  | none =>
    refine follows_ite (fun _ => ?_) fun _ => ?_
    · refine follows_then (steady_takeWhile isOctal 2) fun digits => ?_
      exact follows_unless (stops_fail _ _) fun _ => follows_pure rfl
    · refine follows_unless (stops_fail _ _) fun _ => ?_
      exact follows_then (steady_plainEscape c) fun _ => follows_pure rfl

theorem steady_checkLookBehindGroup (number : Nat) :
    Steady W excused (checkLookBehindGroup number) := by
  unfold checkLookBehindGroup
  refine follows_bind follows_get fun c d hcd => ?_
  rw [hcd.beforeLookBehind, hcd.groupWidth?]
  split
  · refine follows_unless (stops_fail _ _) fun _ => ?_
    exact follows_ite (fun _ => follows_of_stops (stops_fail _ _)) fun _ => follows_pure rfl
  · exact follows_pure rfl

/-! ## Parts -/

/-- The alternatives of a pattern. -/
def Tree.alternatives : Tree → List Tree
  | .alternate first rest => first :: rest.alternatives
  | tree => [tree]

/-- The pattern is the only alternative it has. -/
def Tree.IsSingle (tree : Tree) : Prop := tree.alternatives = [tree]

/-- The step gives the same part from places alike, one without alternatives. -/
abbrev SteadyPart (W : WholeFlags → WholeFlags → Prop) (excused : Cursor → Cause → Prop)
    (m : Reading Tree) : Prop :=
  Follows W excused (fun part part' => part = part' ∧ part.IsSingle) m m

theorem steady_groupReference (escape : Text) :
    SteadyPart W excused (groupReference escape) := by
  unfold groupReference
  refine follows_bind follows_get fun c d hcd => ?_
  rw [hcd.nextGroup, hcd.groupWidth?]
  refine follows_unless (stops_fail _ _) fun _ => ?_
  refine follows_unless (stops_fail _ _) fun _ => ?_
  exact follows_then (steady_checkLookBehindGroup _) fun _ => follows_pure ⟨rfl, rfl⟩

theorem steady_digitEscape (c : Char) : SteadyPart W excused (digitEscape c) := by
  unfold digitEscape
  refine follows_then (steady_takeWhile Char.isDigit 1) fun digits => ?_
  split
  · refine follows_ite (fun _ => ?_) fun _ => steady_groupReference _
    refine follows_then (steady_takeWhile isOctal 1) fun more => ?_
    split
    · exact follows_unless (stops_fail _ _) fun _ => follows_pure ⟨rfl, rfl⟩
    · exact steady_groupReference _
  · exact steady_groupReference _

theorem steady_treeEscape (c : Char) : SteadyPart W excused (treeEscape c) := by
  unfold treeEscape
  split
  · exact follows_pure ⟨rfl, rfl⟩
  split
  · exact follows_pure ⟨rfl, rfl⟩
  split
  · exact follows_pure ⟨rfl, rfl⟩
  refine follows_then (steady_codeEscape? c) fun code => ?_
  cases code with
  | some code => exact follows_pure ⟨rfl, rfl⟩
  | none =>
    refine follows_ite (fun _ => ?_) fun _ => ?_
    · exact follows_then (steady_takeWhile isOctal 2) fun _ => follows_pure ⟨rfl, rfl⟩
    refine follows_ite (fun _ => steady_digitEscape c) fun _ => ?_
    exact follows_then (steady_plainEscape c) fun _ => follows_pure ⟨rfl, rfl⟩

/-! ## Sets -/

theorem steady_setMember (token : Text) : Steady W excused (setMember token) := by
  unfold setMember
  split
  · exact steady_setEscape _
  · exact follows_pure rfl

theorem steady_rangeOf (low high : Text) (first last : SetItem) :
    Steady W excused (rangeOf low high first last) := by
  unfold rangeOf
  split
  · exact follows_unless (stops_fail _ _) fun _ => follows_pure rfl
  · exact follows_of_stops (stops_fail _ _)

theorem follows_setMembers (opening opening' count : Nat) (items : List SetItem) :
    Follows W excused (· = ·) (setMembers opening count items)
      (setMembers opening' count items) := by
  induction count generalizing items with
  | zero => exact follows_of_stops (stops_failAt _ _)
  | succ count ih =>
    unfold setMembers
    refine follows_then steady_next fun token => ?_
    cases token with
    | none => exact follows_of_stops (stops_failAt _ _)
    | some token =>
      refine follows_ite (fun _ => follows_pure rfl) fun _ => ?_
      refine follows_then (steady_setMember token) fun item => ?_
      refine follows_then (steady_accept _) fun accepted => follows_ite (fun _ => ?_) fun _ => ih _
      refine follows_then steady_next fun last => ?_
      cases last with
      | none => exact follows_of_stops (stops_failAt _ _)
      | some last =>
        refine follows_ite (fun _ => follows_pure rfl) fun _ => ?_
        refine follows_then (steady_setMember last) fun end' => ?_
        exact follows_then (steady_rangeOf _ _ _ _) fun _ => ih _

theorem isSingle_setTree (negated : Bool) (items : List SetItem) :
    (setTree negated items).IsSingle := by
  unfold setTree
  split
  · rfl
  · rfl

theorem steady_readSet : SteadyPart W excused readSet := by
  unfold readSet
  refine follows_bind follows_get fun c d hcd => ?_
  rw [hcd.length]
  refine follows_then (steady_accept _) fun negated => ?_
  exact follows_then (follows_setMembers _ _ _ _) fun items =>
    follows_pure ⟨rfl, isSingle_setTree negated items⟩

/-! ## Repetitions -/

theorem stops_throw (fault : Fault) : Stops (throw fault : Reading α) := by
  intro c r h
  cases h

theorem steady_bound? (digits : Text) : Steady W excused (bound? digits) := by
  unfold bound?
  refine follows_ite (fun _ => follows_pure rfl) fun _ => ?_
  refine follows_unless (stops_throw _) fun _ => ?_
  exact follows_unless (stops_throw _) fun _ => follows_pure rfl

theorem steady_readBraces : Steady W excused readBraces := by
  unfold readBraces
  refine follows_bind follows_get fun c d hcd => ?_
  refine follows_then steady_peek fun token => follows_ite (fun _ => follows_pure rfl) fun _ => ?_
  refine follows_then (steady_takeAll _) fun low => ?_
  refine follows_then (steady_accept _) fun comma => ?_
  refine follows_choice (steady_takeAll _) (follows_pure rfl) fun high => ?_
  refine follows_then (steady_accept _) fun closed => follows_ite (fun _ => ?_) fun _ => ?_
  · exact follows_then (follows_set hcd) fun _ => follows_pure rfl
  refine follows_then (steady_bound? low) fun least => ?_
  refine follows_then (steady_bound? high) fun most => ?_
  cases most with
  | none => exact follows_pure rfl
  | some most => exact follows_unless (stops_failAt _ _) fun _ => follows_pure rfl

theorem steady_readBounds (c : Char) : Steady W excused (readBounds c) := by
  unfold readBounds
  split
  · exact follows_pure rfl
  · exact follows_pure rfl
  · exact follows_pure rfl
  · exact steady_readBraces

theorem steady_readGreed : Steady W excused readGreed := by
  unfold readGreed
  refine follows_then (steady_accept _) fun shortest => ?_
  refine follows_ite (fun _ => follows_pure rfl) fun _ => ?_
  refine follows_then (steady_accept _) fun possessive => ?_
  exact follows_ite (fun _ => follows_pure rfl) fun _ => follows_pure rfl

/-- What a repetition sign repeats is the last part, whatever lies below it. -/
theorem follows_repeatLast (opening opening' : Nat) (bounds : Bounds) (items below : List Tree) :
    Follows W excused
      (fun repeated repeated' => repeated' = repeated ++ below ∧
        ∃ part, part.IsSingle ∧ repeated = part :: items.tail)
      (repeatLast opening bounds items) (repeatLast opening' bounds (items ++ below)) := by
  cases items with
  | nil => exact follows_of_stops (stops_failAt _ _)
  | cons item items =>
    rw [List.cons_append]
    unfold repeatLast
    refine follows_unless (stops_failAt _ _) fun _ => ?_
    refine follows_unless (stops_failAt _ _) fun _ => ?_
    exact follows_then steady_readGreed fun greed =>
      follows_pure ⟨rfl, .repetition greed _ _ item, rfl, rfl⟩

/-! ## Flags -/

theorem stops_refuseFlag (token : Text) (otherwise : Cause) :
    Stops (refuseFlag token otherwise : Reading α) := stops_fail _ _

/-- The letters turned on are all those met, the first of which names no locale. -/
theorem follows_flagsOn (count : Nat) (letters token : Text) :
    Follows W excused (fun on on' => on = on' ∧ letters ++ token ⊆ on.1 ∧ token ≠ ['L'])
      (flagsOn count letters token) (flagsOn count letters token) := by
  induction count generalizing letters token with
  | zero => exact follows_of_stops (stops_fail _ _)
  | succ count ih =>
    unfold flagsOn
    refine follows_unless (stops_fail _ _) fun hlocale => ?_
    have htoken : token ≠ ['L'] := by simpa using hlocale
    refine follows_unless (stops_fail _ _) fun _ => ?_
    refine follows_then steady_next fun following => ?_
    cases following with
    | none => exact follows_of_stops (stops_fail _ _)
    | some following =>
      refine follows_ite (fun _ => follows_pure ⟨rfl, List.Subset.refl _, htoken⟩) fun _ => ?_
      refine follows_unless (stops_refuseFlag _ _) fun _ => follows_mono (ih _ _) ?_
      intro on on' h
      exact ⟨h.1, List.Subset.trans (List.subset_append_left _ _) h.2.1, htoken⟩

theorem steady_flagsOff (count : Nat) (letters token : Text) :
    Steady W excused (flagsOff count letters token) := by
  induction count generalizing letters token with
  | zero => exact follows_of_stops (stops_fail _ _)
  | succ count ih =>
    unfold flagsOff
    refine follows_unless (stops_fail _ _) fun _ => ?_
    refine follows_then steady_next fun following => ?_
    cases following with
    | none => exact follows_of_stops (stops_fail _ _)
    | some following =>
      refine follows_ite (fun _ => follows_pure rfl) fun _ => ?_
      exact follows_unless (stops_refuseFlag _ _) fun _ => ih _ _

/-- Flags that `W` relates stay related when the same letters are turned on. -/
def Lasting (W : WholeFlags → WholeFlags → Prop) : Prop :=
  ∀ whole whole' letters, W whole whole' → W (whole.turnOn letters) (whole'.turnOn letters)

/-- The token starts flags, those turned on or those turned off. -/
def startsFlags (token : Text) : Bool := isFlagLetter token || token == ['-']

/-- The letters turned on, and the token that ends them: none when the first
one is the sign before those turned off. -/
def firstFlags (count : Nat) (token : Text) : Reading (Text × Text) :=
  if token == ['-'] then pure ([], token) else flagsOn count [] token

/-- The flags of a group, when those turned on have been read. -/
def groupFlags (count : Nat) (on ending : Text) : Reading (Option (Text × Text)) := do
  if on.contains 't' then fail .wholePatternFlagOn 1
  let off ← if ending == ['-'] then do
      let some token ← next | fail .missingFlag
      if !isFlagLetter token then refuseFlag token .missingFlag
      flagsOff count [] token
    else pure []
  if off.contains 't' then fail .wholePatternFlagOff 1
  if on.any off.contains then fail .flagOnAndOff 1
  return some (on, off)

theorem readFlags_eq (token : Text) :
    readFlags token = (do
      let count := (← get).rest.length + 1
      let on ← firstFlags count token
      if on.2 == [')'] then
        modify fun cursor => { cursor with whole := cursor.whole.turnOn on.1 }
        return none
      else groupFlags count on.1 on.2) := by
  unfold readFlags firstFlags groupFlags
  refine bind_congr fun cursor => ?_
  cases token == ['-'] with
  | true => rfl
  | false => rfl

/-- Where a parenthesis ends the letters, the first one is among them. -/
theorem follows_firstFlags (count : Nat) (token : Text) :
    Follows W excused
      (fun on on' => on = on' ∧ (on.2 = [')'] → token ≠ ['-'] ∧ token ≠ ['L'] ∧ token ⊆ on.1))
      (firstFlags count token) (firstFlags count token) := by
  unfold firstFlags
  refine follows_ite (fun htoken => follows_pure ⟨rfl, ?_⟩) fun htoken => ?_
  · intro hclosed
    change token = [')'] at hclosed
    simp [hclosed] at htoken
  · refine follows_mono (follows_flagsOn count [] token) fun _ _ h => ⟨h.1, fun _ => ?_⟩
    exact ⟨by simpa using htoken, h.2.2, h.2.1⟩

theorem follows_groupFlags (count : Nat) (on ending : Text) :
    Follows W excused (fun flags flags' => flags = flags' ∧ flags ≠ none)
      (groupFlags count on ending) (groupFlags count on ending) := by
  unfold groupFlags
  refine follows_unless (stops_fail _ _) fun _ => ?_
  have hclose : ∀ off : Text, Follows W excused (fun flags flags' => flags = flags' ∧ flags ≠ none)
      (do
        if off.contains 't' then fail .wholePatternFlagOff 1
        if on.any off.contains then fail .flagOnAndOff 1
        return some (on, off))
      (do
        if off.contains 't' then fail .wholePatternFlagOff 1
        if on.any off.contains then fail .flagOnAndOff 1
        return some (on, off)) := by
    intro off
    refine follows_unless (stops_fail _ _) fun _ => ?_
    exact follows_unless (stops_fail _ _) fun _ => follows_pure ⟨rfl, nofun⟩
  refine follows_ite (fun _ => ?_) fun _ => hclose []
  refine follows_then steady_next fun following => ?_
  cases following with
  | none => exact follows_of_stops ((stops_fail _ _).bind _)
  | some following =>
    refine follows_unless (stops_refuseFlag _ _) fun _ => ?_
    exact follows_then (steady_flagsOff _ _ _) hclose

theorem steady_readFlags (hW : Lasting W) (token : Text) :
    Steady W excused (readFlags token) := by
  rw [readFlags_eq]
  refine follows_bind follows_get fun c d hcd => ?_
  rw [hcd.length]
  refine follows_then (follows_mono (follows_firstFlags _ _) fun _ _ h => h.1) fun on => ?_
  refine follows_ite (fun _ => ?_) fun _ => follows_mono (follows_groupFlags _ _ _) fun _ _ h => h.1
  refine follows_then (follows_modify fun c d hcd => ?_) fun _ => follows_pure rfl
  exact { hcd with whole := hW _ _ _ hcd.whole }

/-- A letter of a flag, when it is turned on, leaves some flag on. -/
theorem turnOn_ne {token letters : Text} (whole : WholeFlags) (htoken : isFlagLetter token)
    (hlocale : token ≠ ['L']) (h : token ⊆ letters) : whole.turnOn letters ≠ {} := by
  obtain ⟨letter, hletter, heq⟩ := List.any_eq_true.mp htoken
  obtain rfl : letter.toList = token := by simpa using heq
  simp only [List.mem_cons, List.not_mem_nil, or_false] at hletter
  intro hnone
  rcases hletter with rfl | rfl | rfl | rfl | rfl | rfl | rfl | rfl <;>
    simp_all [WholeFlags.turnOn]

/-- What a step gives and does to the flags, when it follows itself whatever
the flags. -/
theorem result_of_follows {m : Reading α} {m' : Reading β} (h : ∀ W, Follows W never R m m')
    {c c' : Cursor} {a : α} (hrun : m.run c = .ok (a, c')) :
    (∃ b, R a b) ∧ c'.whole = c.whole := by
  have halike : c.Alike (fun whole _ => whole = c.whole) c :=
    ⟨fun _ _ => id, rfl, rfl, rfl, rfl, rfl, rfl⟩
  obtain ⟨b, _, _, hab, hkept⟩ := exists_of_follows (h _) halike hrun
  exact ⟨⟨b, hab⟩, hkept.whole⟩

/-- Flags for the whole pattern turn one on; those of a group leave them be. -/
theorem whole_readFlags {token : Text} {c c' : Cursor} {flags : Option (Text × Text)}
    (htoken : startsFlags token = true) (hrun : (readFlags token).run c = .ok (flags, c')) :
    (flags = none → c'.whole ≠ {}) ∧ (flags ≠ none → c'.whole = c.whole) := by
  rw [readFlags_eq] at hrun
  obtain ⟨_, _, hget, hrun⟩ := run_bind_ok_iff.mp hrun
  cases hget
  obtain ⟨on, c₁, hon, hrun⟩ := run_bind_ok_iff.mp hrun
  obtain ⟨⟨_, _, hletters⟩, hwhole⟩ := result_of_follows (fun _ => follows_firstFlags _ _) hon
  split at hrun
  · rename_i hclosed
    cases hrun
    refine ⟨fun _ => ?_, fun h => absurd rfl h⟩
    obtain ⟨hsign, hlocale, hsub⟩ := hletters (by simpa using hclosed)
    exact turnOn_ne _ (by simpa [startsFlags, hsign] using htoken) hlocale hsub
  · obtain ⟨⟨_, _, hsome⟩, hkept⟩ := result_of_follows (fun _ => follows_groupFlags _ _ _) hrun
    exact ⟨fun h => absurd h hsome, fun _ => hkept.trans hwhole⟩

/-! ## Groups -/

theorem steady_openGroup (name : Option Text) : Steady W excused (openGroup name) := by
  unfold openGroup
  refine follows_bind follows_get fun c d hcd => ?_
  rw [hcd.nextGroup, hcd.names]
  have hopen (add : List (Text × Nat) → List (Text × Nat)) : Steady W excused (do
      modify fun cursor : Cursor =>
        { cursor with
          widths := none :: cursor.widths
          names := add cursor.names }
      return d.nextGroup) := by
    refine follows_then (follows_modify fun c d hcd => ?_) fun _ => follows_pure rfl
    exact { hcd with
      widths := congrArg (none :: ·) hcd.widths
      names := congrArg add hcd.names }
  cases name with
  | none => exact hopen id
  | some name =>
    dsimp only
    split
    · exact follows_of_stops ((stops_fail _ _).bind _)
    · exact hopen ((name, d.nextGroup) :: ·)

theorem steady_closeGroup (number : Nat) (body : Tree) :
    Steady W excused (closeGroup number body) := by
  unfold closeGroup
  refine follows_modify fun c d hcd => { hcd with widths := ?_ }
  dsimp only
  rw [hcd.widths, hcd.groupWidth?]

theorem steady_checkName (name : Text) : Steady W excused (checkName name) := by
  unfold checkName
  exact follows_ite (fun _ => follows_of_stops (stops_fail _ _)) fun _ => follows_pure rfl

theorem steady_namedReference : SteadyPart W excused namedReference := by
  unfold namedReference
  refine follows_then (steady_takeName _ _) fun name => ?_
  refine follows_then (steady_checkName name) fun _ => ?_
  refine follows_bind follows_get fun c d hcd => ?_
  rw [hcd.names]
  split
  · refine follows_bind follows_get fun c d hcd => ?_
    rw [hcd.groupWidth?]
    refine follows_unless (stops_fail _ _) fun _ => ?_
    exact follows_then (steady_checkLookBehindGroup _) fun _ => follows_pure ⟨rfl, rfl⟩
  · exact follows_of_stops (stops_fail _ _)

theorem lookup_isSome (number : Nat) (conditions : List (Nat × Nat)) :
    (conditions.lookup number).isSome = (conditions.map Prod.fst).contains number := by
  induction conditions with
  | nil => rfl
  | cons condition rest ih =>
    rw [List.lookup_cons, List.map_cons, List.contains_cons, ← ih]
    cases number == condition.1 <;> rfl

/-- A condition is noted once, under its number. -/
theorem Cursor.Alike.addCondition {c d : Cursor} (h : c.Alike W d) (number back : Nat) :
    Alike W
      (if (c.conditions.lookup number).isSome then c
        else { c with conditions := c.conditions ++ [(number, c.position - back - 1)] })
      (if (d.conditions.lookup number).isSome then d
        else { d with conditions := d.conditions ++ [(number, d.position - back - 1)] }) := by
  rw [lookup_isSome, h.conditions, ← lookup_isSome]
  split
  · exact h
  · exact { h with conditions := by simp [h.conditions] }

theorem steady_conditionGroup : Steady W excused conditionGroup := by
  unfold conditionGroup
  refine follows_then (steady_takeName _ _) fun name => ?_
  refine follows_ite (fun _ => ?_) fun _ => ?_
  · refine follows_bind follows_get fun c d hcd => ?_
    rw [hcd.names]
    split
    · exact follows_then (steady_checkLookBehindGroup _) fun _ => follows_pure rfl
    · exact follows_of_stops ((stops_fail _ _).bind _)
  · dsimp only
    split
    · refine follows_unless (stops_fail _ _) fun _ => ?_
      refine follows_unless (stops_fail _ _) fun _ => ?_
      refine follows_then (follows_modify fun c d hcd => hcd.addCondition _ _) fun _ => ?_
      exact follows_then (steady_checkLookBehindGroup _) fun _ => follows_pure rfl
    · exact follows_of_stops ((stops_fail _ _).bind _)

theorem follows_skipComment (opening opening' count : Nat) :
    Follows W excused (· = ·) (skipComment opening count) (skipComment opening' count) := by
  induction count with
  | zero => exact follows_of_stops (stops_failAt _ _)
  | succ count ih =>
    unfold skipComment
    refine follows_then steady_next fun token => ?_
    cases token with
    | none => exact follows_of_stops (stops_failAt _ _)
    | some token => exact follows_ite (fun _ => ih) fun _ => follows_pure rfl

theorem steady_skipLine (count : Nat) : Steady W excused (skipLine count) := by
  induction count with
  | zero => exact follows_pure rfl
  | succ count ih =>
    unfold skipLine
    refine follows_then steady_next fun token => ?_
    cases token with
    | none => exact follows_pure rfl
    | some token => exact follows_ite (fun _ => ih) fun _ => follows_pure rfl

theorem follows_closeParenthesis (opening opening' : Nat) :
    Follows W excused (· = ·) (closeParenthesis opening) (closeParenthesis opening') := by
  unfold closeParenthesis
  refine follows_then (steady_accept _) fun closed => ?_
  exact follows_ite (fun _ => follows_of_stops (stops_failAt _ _)) fun _ => follows_pure rfl

/-- The opening sets no flags, and a part that it completes has no alternatives. -/
def Opening.IsPlain : Opening → Prop
  | .part tree => tree.IsSingle
  | .flags => False
  | _ => True

/-- The step opens the same from places alike, and something plain. -/
abbrev SteadyOpening (W : WholeFlags → WholeFlags → Prop) (excused : Cursor → Cause → Prop)
    (m : Reading Opening) : Prop :=
  Follows W excused (fun opened opened' => opened = opened' ∧ opened.IsPlain) m m

theorem steady_readNamedOpening : SteadyOpening W excused readNamedOpening := by
  unfold readNamedOpening
  refine follows_then (steady_accept _) fun named => follows_ite (fun _ => ?_) fun _ => ?_
  · refine follows_then (steady_takeName _ _) fun name => ?_
    exact follows_then (steady_checkName name) fun _ => follows_pure ⟨rfl, trivial⟩
  refine follows_then (steady_accept _) fun recalled => follows_ite (fun _ => ?_) fun _ => ?_
  · refine follows_bind steady_namedReference fun part _ hpart => ?_
    exact follows_pure ⟨congrArg Opening.part hpart.1, hpart.2⟩
  refine follows_then steady_next fun token => ?_
  cases token with
  | none => exact follows_of_stops (stops_fail _ _)
  | some token => exact follows_of_stops (stops_fail _ _)

theorem steady_readLookBehind : SteadyOpening W excused readLookBehind := by
  unfold readLookBehind
  refine follows_then steady_next fun token => ?_
  cases token with
  | none => exact follows_of_stops (stops_fail _ _)
  | some token =>
    refine follows_ite (fun _ => follows_pure ⟨rfl, trivial⟩) fun _ => ?_
    refine follows_ite (fun _ => follows_pure ⟨rfl, trivial⟩) fun _ => ?_
    exact follows_of_stops (stops_fail _ _)

/-- What a parenthesis opens when a question mark and no flags follow it. -/
def plainOpening (opening : Nat) (token : Text) : Reading Opening := do
  match token with
  | ['P'] => readNamedOpening
  | [':'] => return .group none false false [] []
  | ['#'] =>
    skipComment opening ((← get).rest.length + 1)
    return .nothing
  | ['='] => return .look false false
  | ['!'] => return .look false true
  | ['<'] => readLookBehind
  | ['('] => return .condition (← conditionGroup)
  | ['>'] => return .group none false true [] []
  | _ => fail (.unknownExtension token) (token.length + 1)

/-- What a parenthesis opens when a question mark and flags follow it. -/
def flagsOpening (token : Text) : Reading Opening := do
  match ← readFlags token with
  | none => return .flags
  | some (on, off) => return .group none false false on off

theorem readOpening_eq (opening : Nat) :
    readOpening opening = (do
      if !(← accept '?') then return .group none true false [] []
      let some token ← next | fail .unexpectedEnd
      if startsFlags token then flagsOpening token else plainOpening opening token) := by
  unfold readOpening
  refine bind_congr fun special => ?_
  cases special with
  | false => rfl
  | true =>
    refine bind_congr fun token => ?_
    cases token with
    | none => rfl
    | some token =>
      dsimp only
      split
      case h_9 =>
        rw [plainOpening.eq_9]
        · rfl
        all_goals assumption
      all_goals rfl

theorem follows_plainOpening (opening opening' : Nat) (token : Text) :
    Follows W excused (fun opened opened' => opened = opened' ∧ opened.IsPlain)
      (plainOpening opening token) (plainOpening opening' token) := by
  unfold plainOpening
  split
  · exact steady_readNamedOpening
  · exact follows_pure ⟨rfl, trivial⟩
  · refine follows_bind follows_get fun c d hcd => ?_
    rw [hcd.length]
    exact follows_then (follows_skipComment _ _ _) fun _ => follows_pure ⟨rfl, trivial⟩
  · exact follows_pure ⟨rfl, trivial⟩
  · exact follows_pure ⟨rfl, trivial⟩
  · exact steady_readLookBehind
  · exact follows_then steady_conditionGroup fun _ => follows_pure ⟨rfl, trivial⟩
  · exact follows_pure ⟨rfl, trivial⟩
  · exact follows_of_stops (stops_fail _ _)

theorem follows_readOpening (hW : Lasting W) (opening opening' : Nat) :
    Follows W excused (fun opened opened' => opened = opened' ∧ (opened ≠ .flags → opened.IsPlain))
      (readOpening opening) (readOpening opening') := by
  rw [readOpening_eq, readOpening_eq]
  refine follows_then (steady_accept _) fun special => ?_
  refine follows_ite (fun _ => follows_pure ⟨rfl, fun _ => trivial⟩) fun _ => ?_
  refine follows_then steady_next fun token => ?_
  cases token with
  | none => exact follows_of_stops (stops_fail _ _)
  | some token =>
    refine follows_ite (fun _ => ?_) fun _ => ?_
    · unfold flagsOpening
      refine follows_then (steady_readFlags hW _) fun flags => ?_
      cases flags with
      | none => exact follows_pure ⟨rfl, fun h => absurd rfl h⟩
      | some flags => exact follows_pure ⟨rfl, fun _ => trivial⟩
    · exact follows_mono (follows_plainOpening _ _ _) fun _ _ h => ⟨h.1, fun _ => h.2⟩

/-- Of all openings, flags for the whole pattern alone change its flags, and
leave some of them on. -/
theorem whole_readOpening {opening : Nat} {c c' : Cursor} {opened : Opening}
    (hrun : (readOpening opening).run c = .ok (opened, c')) :
    (opened = .flags → c'.whole ≠ {}) ∧ (opened ≠ .flags → c'.whole = c.whole) := by
  rw [readOpening_eq] at hrun
  obtain ⟨special, c₁, haccept, hrun⟩ := run_bind_ok_iff.mp hrun
  obtain ⟨-, hwhole⟩ := result_of_follows (fun _ => steady_accept _) haccept
  split at hrun
  · cases hrun
    exact ⟨nofun, fun _ => hwhole⟩
  obtain ⟨token, c₂, hnext, hrun⟩ := run_bind_ok_iff.mp hrun
  obtain ⟨-, hwhole'⟩ := result_of_follows (fun _ => steady_next) hnext
  rw [hwhole] at hwhole'
  cases token with
  | none => exact absurd hrun (stops_fail _ _ _ _)
  | some token =>
    dsimp only at hrun
    split at hrun
    · rename_i htoken
      obtain ⟨flags, c₃, hflags, hrun⟩ := run_bind_ok_iff.mp hrun
      have hread := whole_readFlags htoken hflags
      rw [hwhole'] at hread
      cases flags with
      | none =>
        cases hrun
        exact ⟨fun _ => hread.1 rfl, fun h => absurd rfl h⟩
      | some flags =>
        cases hrun
        exact ⟨nofun, fun _ => hread.2 nofun⟩
    · obtain ⟨⟨_, _, hplain⟩, hkept⟩ :=
        result_of_follows (fun _ => follows_plainOpening _ opening _) hrun
      refine ⟨?_, fun _ => hkept.trans hwhole'⟩
      rintro rfl
      exact hplain.elim

end ImageLint.Pattern
