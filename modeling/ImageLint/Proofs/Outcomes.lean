-- How outcomes are put together: a run that ends well has ended well at
-- every step, and its findings are those of its steps.
import ImageLint.Facts

namespace ImageLint

variable {α β ε : Type}

theorem bind_eq_ok_iff {x : Except ε α} {next : α → Except ε β} {b : β} :
    (x >>= next) = .ok b ↔ ∃ a, x = .ok a ∧ next a = .ok b := by
  cases x <;> simp [bind, Except.bind]

theorem mapError_eq_ok_iff {ε' : Type} {x : Except ε α} {f : ε → ε'} {a : α} :
    x.mapError f = .ok a ↔ x = .ok a := by
  cases x with
  | error _ => exact ⟨nofun, nofun⟩
  | ok _ =>
    constructor
    all_goals
      rintro ⟨⟩
      rfl

theorem exists_of_isOk {x : Except ε α} (h : x.isOk = true) : ∃ a, x = .ok a := by
  cases x with
  | error _ => cases h
  | ok a => exact ⟨a, rfl⟩

/-- What the steps of a run found, taken together, is what each of them found. -/
theorem mem_flatten_of_mapM {g : α → Except ε (List β)} {steps : List α} {found : List (List β)}
    (h : steps.mapM g = .ok found) (b : β) :
    b ∈ found.flatten ↔ ∃ a ∈ steps, ∃ bs, g a = .ok bs ∧ b ∈ bs := by
  induction steps generalizing found with
  | nil =>
    simp only [List.mapM_nil, pure, Except.pure, Except.ok.injEq] at h
    simp [← h]
  | cons a rest ih =>
    rw [List.mapM_cons, bind_eq_ok_iff] at h
    obtain ⟨bs, hbs, h⟩ := h
    rw [bind_eq_ok_iff] at h
    obtain ⟨more, hmore, h⟩ := h
    simp only [pure, Except.pure, Except.ok.injEq] at h
    subst h
    simp [ih hmore, hbs]

/-- What a run found is in order if what each step found is, and what a step
found comes before what later steps found. -/
theorem pairwise_flatten_of_mapM {g : α → Except ε (List β)} {R : β → β → Prop} {steps : List α}
    {found : List (List β)} (h : steps.mapM g = .ok found)
    (hwithin : ∀ a ∈ steps, ∀ bs, g a = .ok bs → bs.Pairwise R)
    (hacross : steps.Pairwise fun a a' => ∀ bs bs', g a = .ok bs → g a' = .ok bs' →
      ∀ b ∈ bs, ∀ b' ∈ bs', R b b') :
    found.flatten.Pairwise R := by
  induction steps generalizing found with
  | nil =>
    cases h
    exact List.Pairwise.nil
  | cons a rest ih =>
    rw [List.mapM_cons] at h
    obtain ⟨bs, hbs, h⟩ := bind_eq_ok_iff.mp h
    obtain ⟨more, hmore, h⟩ := bind_eq_ok_iff.mp h
    cases h
    obtain ⟨hfirst, hrest⟩ := List.pairwise_cons.mp hacross
    obtain ⟨hown, hlater⟩ := List.forall_mem_cons.mp hwithin
    refine List.pairwise_append.mpr ⟨hown bs hbs, ih hmore hlater hrest, fun b hb b' hb' => ?_⟩
    obtain ⟨a', ha', bs', hbs', hin⟩ := (mem_flatten_of_mapM hmore b').mp hb'
    exact hfirst a' ha' bs bs' hbs hbs' b hb b' hin

/-- Every step of a run that ends well has an outcome. -/
theorem ok_of_mapM {g : α → Except ε β} {steps : List α} {found : List β}
    (h : steps.mapM g = .ok found) {a : α} (ha : a ∈ steps) : ∃ b, g a = .ok b := by
  induction steps generalizing found with
  | nil => simp at ha
  | cons first rest ih =>
    rw [List.mapM_cons, bind_eq_ok_iff] at h
    obtain ⟨b, hb, h⟩ := h
    rw [bind_eq_ok_iff] at h
    obtain ⟨more, hmore, _⟩ := h
    rcases List.mem_cons.mp ha with rfl | ha
    · exact ⟨b, hb⟩
    · exact ih hmore ha

/-- What a run that ends well gives, some step has given. -/
theorem exists_of_mem_mapM {g : α → Except ε β} {steps : List α} {found : List β}
    (h : steps.mapM g = .ok found) {b : β} (hb : b ∈ found) : ∃ a ∈ steps, g a = .ok b := by
  induction steps generalizing found with
  | nil =>
    cases h
    simp at hb
  | cons first rest ih =>
    rw [List.mapM_cons] at h
    obtain ⟨c, hc, h⟩ := bind_eq_ok_iff.mp h
    obtain ⟨more, hmore, h⟩ := bind_eq_ok_iff.mp h
    cases h
    rcases List.mem_cons.mp hb with rfl | hb
    · exact ⟨first, List.mem_cons_self, hc⟩
    · obtain ⟨a, ha, hga⟩ := ih hmore hb
      exact ⟨a, List.mem_cons_of_mem first ha, hga⟩

theorem mapM_congr {g g' : α → Except ε β} {steps : List α} (h : ∀ a ∈ steps, g a = g' a) :
    steps.mapM g = steps.mapM g' := by
  have hmap : (steps.map g).mapM id = (steps.map g').mapM id := by
    rw [List.map_congr_left h]
  rw [List.mapM_map, List.mapM_map] at hmap
  exact hmap

/-! ## Outcomes over mapped lists -/

theorem filterAuxM_map (g : α → β) (p : β → Except ε Bool) (items acc : List α) :
    (items.map g).filterAuxM p (acc.map g) =
      List.map g <$> items.filterAuxM (fun a => p (g a)) acc := by
  induction items generalizing acc with
  | nil => rfl
  | cons a rest ih =>
    simp only [List.map_cons, List.filterAuxM, map_bind]
    congr 1
    funext keep
    cases keep
    · exact ih acc
    · exact ih (a :: acc)

theorem filterM_map (g : α → β) (p : β → Except ε Bool) (items : List α) :
    (items.map g).filterM p = List.map g <$> items.filterM (fun a => p (g a)) := by
  unfold List.filterM
  have haux := filterAuxM_map g p items []
  rw [List.map_nil] at haux
  rw [haux]
  simp

/-- What a filter keeps stands behind what was kept before, last first. -/
theorem sublist_of_filterAuxM {p : α → Except ε Bool} {items acc kept : List α}
    (h : items.filterAuxM p acc = .ok kept) :
    ∃ found : List α, found.Sublist items ∧ kept = found.reverse ++ acc := by
  induction items generalizing acc with
  | nil =>
    cases h
    exact ⟨[], List.Sublist.refl [], rfl⟩
  | cons a rest ih =>
    obtain ⟨keep, _, h⟩ := bind_eq_ok_iff.mp h
    obtain ⟨found, hsub, heq⟩ := ih h
    cases keep with
    | false => exact ⟨found, hsub.cons a, heq⟩
    | true => exact ⟨a :: found, hsub.cons_cons a, by simpa using heq⟩

theorem sublist_of_filterM {p : α → Except ε Bool} {items kept : List α}
    (h : items.filterM p = .ok kept) : kept.Sublist items := by
  obtain ⟨reversed, haux, heq⟩ := bind_eq_ok_iff.mp h
  obtain ⟨found, hsub, rfl⟩ := sublist_of_filterAuxM haux
  cases heq
  simpa using hsub

theorem anyM_map (g : α → β) (p : β → Except ε Bool) (items : List α) :
    (items.map g).anyM p = items.anyM fun a => p (g a) := by
  induction items with
  | nil => rfl
  | cons a rest ih =>
    simp only [List.map_cons, List.anyM]
    congr 1
    funext found
    cases found
    · exact ih
    · rfl

/-! ## What a search has seen -/

theorem exists_of_anyM_eq_true {p : α → Except ε Bool} {items : List α}
    (h : items.anyM p = .ok true) : ∃ a ∈ items, p a = .ok true := by
  induction items with
  | nil => cases h
  | cons a rest ih =>
    obtain ⟨found, hfound, h⟩ := bind_eq_ok_iff.mp h
    cases found with
    | true => exact ⟨a, List.mem_cons_self, hfound⟩
    | false =>
      obtain ⟨b, hb, hpb⟩ := ih h
      exact ⟨b, List.mem_cons_of_mem a hb, hpb⟩

theorem forall_of_anyM_eq_false {p : α → Except ε Bool} {items : List α}
    (h : items.anyM p = .ok false) : ∀ a ∈ items, p a = .ok false := by
  induction items with
  | nil => simp
  | cons a rest ih =>
    obtain ⟨found, hfound, h⟩ := bind_eq_ok_iff.mp h
    cases found with
    | true => cases h
    | false => exact List.forall_mem_cons.mpr ⟨hfound, ih h⟩

/-- A search that can look at every item finds one exactly when there is one. -/
theorem exists_anyM_iff {p : α → Except ε Bool} {Q : α → Prop} {items : List α}
    (h : ∀ a ∈ items, ∃ found, p a = .ok found ∧ (found = true ↔ Q a)) :
    ∃ found, items.anyM p = .ok found ∧ (found = true ↔ ∃ a ∈ items, Q a) := by
  induction items with
  | nil => exact ⟨false, rfl, by simp⟩
  | cons a rest ih =>
    obtain ⟨⟨found, hfound, hQ⟩, hrest⟩ := List.forall_mem_cons.mp h
    cases found with
    | true =>
      refine ⟨true, bind_eq_ok_iff.mpr ⟨true, hfound, rfl⟩, fun _ => ?_, fun _ => rfl⟩
      exact ⟨a, List.mem_cons_self, hQ.mp rfl⟩
    | false =>
      have hnot : ¬ Q a := fun hQa => nomatch hQ.mpr hQa
      obtain ⟨found, hsearch, hiff⟩ := ih hrest
      refine ⟨found, bind_eq_ok_iff.mpr ⟨false, hfound, hsearch⟩, ?_⟩
      rw [hiff]
      simp [hnot]

/-- A search that looks at more than one which has found something, and finds
what that found, does not end empty-handed. -/
theorem anyM_ne_false {p q : α → Except ε Bool} {items more : List α} (hsub : items ⊆ more)
    (himp : ∀ a ∈ items, p a = .ok true → q a ≠ .ok false) (h : items.anyM p = .ok true) :
    more.anyM q ≠ .ok false := by
  intro hnone
  obtain ⟨a, ha, hpa⟩ := exists_of_anyM_eq_true h
  exact himp a ha hpa (forall_of_anyM_eq_false hnone a (hsub ha))

theorem mem_of_filterAuxM {p : α → Except ε Bool} {items acc kept : List α}
    (h : items.filterAuxM p acc = .ok kept) (a : α) :
    a ∈ kept ↔ a ∈ acc ∨ a ∈ items ∧ p a = .ok true := by
  induction items generalizing acc with
  | nil =>
    cases h
    simp
  | cons b rest ih =>
    obtain ⟨keep, hkeep, h⟩ := bind_eq_ok_iff.mp h
    rw [ih h]
    cases keep with
    | false => grind
    | true => grind

/-- What is kept is what the test was true of. -/
theorem mem_of_filterM {p : α → Except ε Bool} {items kept : List α}
    (h : items.filterM p = .ok kept) (a : α) : a ∈ kept ↔ a ∈ items ∧ p a = .ok true := by
  obtain ⟨reversed, haux, heq⟩ := bind_eq_ok_iff.mp h
  cases heq
  rw [List.mem_reverse, mem_of_filterAuxM haux]
  simp

/-- The test has an answer for whatever a filter has looked at. -/
theorem ok_of_filterM {p : α → Except ε Bool} {items kept : List α}
    (h : items.filterM p = .ok kept) {a : α} (ha : a ∈ items) : ∃ b, p a = .ok b := by
  obtain ⟨reversed, haux, _⟩ := bind_eq_ok_iff.mp h
  clear h
  generalize ([] : List α) = acc at haux
  induction items generalizing acc with
  | nil => simp at ha
  | cons b rest ih =>
    obtain ⟨keep, hkeep, haux⟩ := bind_eq_ok_iff.mp haux
    rcases List.mem_cons.mp ha with rfl | ha
    · exact ⟨keep, hkeep⟩
    · exact ih ha _ haux

theorem filter_of_filterAuxM {p : α → Except ε Bool} {q : α → Bool} {items acc kept : List α}
    (hq : ∀ a b, p a = .ok b → q a = b) (h : items.filterAuxM p acc = .ok kept) :
    kept = (items.filter q).reverse ++ acc := by
  induction items generalizing acc with
  | nil =>
    cases h
    rfl
  | cons a rest ih =>
    obtain ⟨keep, hkeep, h⟩ := bind_eq_ok_iff.mp h
    have hqa := hq a keep hkeep
    rw [ih h]
    cases keep with
    | false =>
      rw [List.filter_cons_of_neg (by simp [hqa])]
      rfl
    | true =>
      rw [List.filter_cons_of_pos hqa]
      simp

/-- What is kept is what a plain test keeps that has the answers of the test. -/
theorem filter_of_filterM {p : α → Except ε Bool} {q : α → Bool} {items kept : List α}
    (hq : ∀ a b, p a = .ok b → q a = b) (h : items.filterM p = .ok kept) :
    kept = items.filter q := by
  obtain ⟨reversed, haux, heq⟩ := bind_eq_ok_iff.mp h
  cases heq
  rw [filter_of_filterAuxM hq haux]
  simp

theorem filterAuxM_guard (g : α → Bool) (p : α → Except ε Bool) (items acc : List α) :
    items.filterAuxM (fun a => if g a then p a else pure false) acc =
      (items.filter g).filterAuxM p acc := by
  induction items generalizing acc with
  | nil => rfl
  | cons a rest ih =>
    cases hg : g a with
    | false =>
      rw [List.filter_cons_of_neg (by simp [hg])]
      simp only [List.filterAuxM, hg, Bool.false_eq_true, if_false, pure_bind]
      exact ih acc
    | true =>
      rw [List.filter_cons_of_pos hg]
      simp only [List.filterAuxM, hg, if_true]
      refine bind_congr fun keep => ?_
      exact ih _

/-- A filter that tests some of the items only is a filter of those items. -/
theorem filterM_guard (g : α → Bool) (p : α → Except ε Bool) (items : List α) :
    items.filterM (fun a => if g a then p a else pure false) = (items.filter g).filterM p := by
  unfold List.filterM
  rw [filterAuxM_guard]

/-! ## Findings that change in one way -/

/-- Steps that all change what they find in one way change what the whole run
finds in that way. -/
theorem flatten_mapM_map {g g' : α → Except ε (List β)} {f : β → β} {steps : List α}
    (h : ∀ a ∈ steps, g' a = List.map f <$> g a) :
    (do return (← steps.mapM g').flatten : Except ε (List β)) =
      List.map f <$> (do return (← steps.mapM g).flatten) := by
  have hmap : steps.mapM g' = List.map (List.map f) <$> steps.mapM g := by
    induction steps with
    | nil => rfl
    | cons a rest ih =>
      rw [List.mapM_cons, List.mapM_cons, h a List.mem_cons_self,
        ih fun b hb => h b (List.mem_cons_of_mem _ hb)]
      simp
  rw [hmap]
  simp

/-! ## Two runs over the same steps -/

/-- Steps that are left out take what they found with them, when what a step
finds tells whether the step is kept. -/
theorem flatten_mapM_filter {g : α → Except ε (List β)} (keep : α → Bool)
    (kept : β → Bool) {steps : List α} {found : List β}
    (h : ∀ a ∈ steps, ∀ bs, g a = .ok bs → ∀ b ∈ bs, kept b = keep a)
    (hrun : (do return (← steps.mapM g).flatten : Except ε (List β)) = .ok found) :
    (do return (← (steps.filter keep).mapM g).flatten : Except ε (List β)) =
      .ok (found.filter kept) := by
  obtain ⟨lists, hlists, heq⟩ := bind_eq_ok_iff.mp hrun
  cases heq
  clear hrun
  induction steps generalizing lists with
  | nil =>
    cases hlists
    rfl
  | cons a rest ih =>
    rw [List.mapM_cons] at hlists
    obtain ⟨bs, hbs, hlists⟩ := bind_eq_ok_iff.mp hlists
    obtain ⟨more, hmore, hlists⟩ := bind_eq_ok_iff.mp hlists
    cases hlists
    have hone := h a List.mem_cons_self bs hbs
    have hrest := ih (fun b hb => h b (List.mem_cons_of_mem _ hb)) more hmore
    rw [List.flatten_cons, List.filter_append]
    cases hkeep : keep a with
    | true =>
      have hall : bs.filter kept = bs := by
        rw [List.filter_eq_self]
        intro b hb
        rw [hone b hb, hkeep]
      obtain ⟨lists, hlists, heq⟩ := bind_eq_ok_iff.mp hrest
      simp only [pure, Except.pure, Except.ok.injEq] at heq
      rw [List.filter_cons_of_pos hkeep, List.mapM_cons, hbs, hlists, hall, ← heq]
      rfl
    | false =>
      have hnone : bs.filter kept = [] := by
        rw [List.filter_eq_nil_iff]
        intro b hb
        rw [hone b hb, hkeep]
        simp
      rw [List.filter_cons_of_neg (by simp [hkeep]), hnone, List.nil_append]
      exact hrest

/-- Where no step counts for more in the first run than in the second, neither
does the whole run. -/
theorem countP_flatten_le {g g' : α → Except ε (List β)} {p : β → Bool} {steps : List α}
    {found found' : List β}
    (h : ∀ a ∈ steps, ∀ bs bs', g a = .ok bs → g' a = .ok bs' → bs.countP p ≤ bs'.countP p)
    (hrun : (do return (← steps.mapM g).flatten : Except ε (List β)) = .ok found)
    (hrun' : (do return (← steps.mapM g').flatten : Except ε (List β)) = .ok found') :
    found.countP p ≤ found'.countP p := by
  obtain ⟨lists, hlists, heq⟩ := bind_eq_ok_iff.mp hrun
  obtain ⟨lists', hlists', heq'⟩ := bind_eq_ok_iff.mp hrun'
  cases heq
  cases heq'
  clear hrun hrun'
  induction steps generalizing lists lists' with
  | nil =>
    cases hlists
    cases hlists'
    exact Nat.le_refl _
  | cons a rest ih =>
    rw [List.mapM_cons] at hlists hlists'
    obtain ⟨bs, hbs, hlists⟩ := bind_eq_ok_iff.mp hlists
    obtain ⟨more, hmore, hlists⟩ := bind_eq_ok_iff.mp hlists
    obtain ⟨bs', hbs', hlists'⟩ := bind_eq_ok_iff.mp hlists'
    obtain ⟨more', hmore', hlists'⟩ := bind_eq_ok_iff.mp hlists'
    cases hlists
    cases hlists'
    rw [List.flatten_cons, List.flatten_cons, List.countP_append, List.countP_append]
    have hone := h a List.mem_cons_self bs bs' hbs hbs'
    have hrest := ih (fun b hb => h b (List.mem_cons_of_mem _ hb)) more hmore more' hmore'
    omega

/-- A run of fewer steps, each of which counts for no more than in the other
run, counts for no more. -/
theorem countP_flatten_sublist_le {g g' : α → Except ε (List β)} {p : β → Bool}
    {fewer steps : List α} {found found' : List β} (hsub : fewer.Sublist steps)
    (h : ∀ a ∈ fewer, ∀ bs bs', g a = .ok bs → g' a = .ok bs' → bs.countP p ≤ bs'.countP p)
    (hrun : (do return (← fewer.mapM g).flatten : Except ε (List β)) = .ok found)
    (hrun' : (do return (← steps.mapM g').flatten : Except ε (List β)) = .ok found') :
    found.countP p ≤ found'.countP p := by
  obtain ⟨lists', hlists', heq'⟩ := bind_eq_ok_iff.mp hrun'
  cases heq'
  clear hrun'
  induction hsub generalizing found lists' with
  | slnil =>
    cases hrun
    exact Nat.zero_le _
  | cons a _ ih =>
    rw [List.mapM_cons] at hlists'
    obtain ⟨bs', _, hlists'⟩ := bind_eq_ok_iff.mp hlists'
    obtain ⟨more', hmore', hlists'⟩ := bind_eq_ok_iff.mp hlists'
    cases hlists'
    rw [List.flatten_cons, List.countP_append]
    have hrest := ih h hrun more' hmore'
    omega
  | cons_cons a _ ih =>
    obtain ⟨lists, hlists, heq⟩ := bind_eq_ok_iff.mp hrun
    cases heq
    rw [List.mapM_cons] at hlists hlists'
    obtain ⟨bs, hbs, hlists⟩ := bind_eq_ok_iff.mp hlists
    obtain ⟨more, hmore, hlists⟩ := bind_eq_ok_iff.mp hlists
    obtain ⟨bs', hbs', hlists'⟩ := bind_eq_ok_iff.mp hlists'
    obtain ⟨more', hmore', hlists'⟩ := bind_eq_ok_iff.mp hlists'
    cases hlists
    cases hlists'
    rw [List.flatten_cons, List.flatten_cons, List.countP_append, List.countP_append]
    have hone := h a List.mem_cons_self bs bs' hbs hbs'
    have hrest := ih (fun b hb => h b (List.mem_cons_of_mem _ hb))
      (bind_eq_ok_iff.mpr ⟨more, hmore, rfl⟩) more' hmore'
    omega

/-! ## What a run can fail for -/

/-- The step ends well, or fails for a reason that `E` allows. -/
def FailsOnly (E : ε → Prop) (x : Except ε α) : Prop := ∀ e, x = .error e → E e

section

variable {E : ε → Prop}

theorem failsOnly_pure (a : α) : FailsOnly E (pure a : Except ε α) := nofun

theorem failsOnly_bind {x : Except ε α} {next : α → Except ε β} (hx : FailsOnly E x)
    (hnext : ∀ a, FailsOnly E (next a)) : FailsOnly E (x >>= next) := by
  intro e he
  cases x with
  | ok a => exact hnext a e he
  | error _ =>
    cases he
    exact hx e rfl

theorem failsOnly_ite {p : Prop} [Decidable p] {x y : Except ε α} (hx : FailsOnly E x)
    (hy : FailsOnly E y) : FailsOnly E (if p then x else y) := by
  split
  · exact hx
  · exact hy

theorem exists_ok_of_failsOnly {x : Except ε α} (h : FailsOnly (fun _ => False) x) :
    ∃ a, x = .ok a := by
  cases x with
  | ok a => exact ⟨a, rfl⟩
  | error e => exact (h e rfl).elim

theorem failsOnly_mapM {g : α → Except ε β} {steps : List α}
    (h : ∀ a ∈ steps, FailsOnly E (g a)) : FailsOnly E (steps.mapM g) := by
  induction steps with
  | nil => exact failsOnly_pure _
  | cons a rest ih =>
    rw [List.forall_mem_cons] at h
    rw [List.mapM_cons]
    exact failsOnly_bind h.1 fun _ => failsOnly_bind (ih h.2) fun _ => failsOnly_pure _

theorem failsOnly_anyM {p : α → Except ε Bool} {items : List α}
    (h : ∀ a ∈ items, FailsOnly E (p a)) : FailsOnly E (items.anyM p) := by
  induction items with
  | nil => exact failsOnly_pure _
  | cons a rest ih =>
    rw [List.forall_mem_cons] at h
    refine failsOnly_bind h.1 fun found => ?_
    cases found with
    | true => exact failsOnly_pure _
    | false => exact ih h.2

theorem failsOnly_filterAuxM {p : α → Except ε Bool} {items acc : List α}
    (h : ∀ a ∈ items, FailsOnly E (p a)) : FailsOnly E (items.filterAuxM p acc) := by
  induction items generalizing acc with
  | nil => exact failsOnly_pure _
  | cons a rest ih =>
    rw [List.forall_mem_cons] at h
    exact failsOnly_bind h.1 fun _ => ih h.2

theorem failsOnly_filterM {p : α → Except ε Bool} {items : List α}
    (h : ∀ a ∈ items, FailsOnly E (p a)) : FailsOnly E (items.filterM p) :=
  failsOnly_bind (failsOnly_filterAuxM h) fun _ => failsOnly_pure _

end

/-! ## What holds of every finding -/

/-- Every finding of the outcome satisfies `P`. -/
def Each (P : Finding → Prop) (outcome : Except Pattern.Fault (List Finding)) : Prop :=
  ∀ found, outcome = .ok found → ∀ f ∈ found, P f

variable {P : Finding → Prop}

theorem each_pure {found : List Finding} (h : ∀ f ∈ found, P f) : Each P (pure found) := by
  intro found' hf
  cases hf
  exact h

theorem each_bind {x : Except Pattern.Fault α} {next : α → Except Pattern.Fault (List Finding)}
    (h : ∀ a, Each P (next a)) : Each P (x >>= next) := by
  intro found hf
  obtain ⟨a, _, ha⟩ := bind_eq_ok_iff.mp hf
  exact h a found ha

/-- What a step found may be used of the steps after it. -/
theorem each_bind_ok {x : Except Pattern.Fault α}
    {next : α → Except Pattern.Fault (List Finding)}
    (h : ∀ a, x = .ok a → Each P (next a)) : Each P (x >>= next) := by
  intro found hf
  obtain ⟨a, ha, hnext⟩ := bind_eq_ok_iff.mp hf
  exact h a ha found hnext

theorem each_flatten {g : α → Except Pattern.Fault (List Finding)} {steps : List α}
    (h : ∀ a ∈ steps, Each P (g a)) : Each P (do return (← steps.mapM g).flatten) := by
  intro found hf
  obtain ⟨lists, hlists, heq⟩ := bind_eq_ok_iff.mp hf
  cases heq
  intro f hmem
  obtain ⟨a, ha, fs, hfs, hin⟩ := (mem_flatten_of_mapM hlists f).mp hmem
  exact h a ha fs hfs f hin

end ImageLint
