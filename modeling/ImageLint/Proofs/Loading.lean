-- Loading a configuration value ends in one of three ways: with settings, with
-- a problem that is reported, or with a failure that escapes every check. What
-- a value must satisfy is a list of demands, in the order in which they are
-- looked at, and the first one that it does not meet decides the ending. Three
-- kinds of demand escape: a cleanup that is a lone value, a value whose text
-- would have an integer of too many digits, and a pattern that is well formed
-- but more than the matcher can do.
import ImageLint.Config.Load
import ImageLint.Proofs.Outcomes
import ImageLint.Text.Names

namespace ImageLint.Config

open Yaml (Value)

variable {α β : Type}

/-! ## Endings -/

/-- How loading ends. -/
inductive Ending where
  | loaded
  | refused
  | escaped
  deriving DecidableEq, Repr

namespace Ending

/-- The ending of one step and what comes after it. -/
def andThen : Ending → Ending → Ending
  | .loaded, later => later
  | ending, _ => ending

theorem andThen_loaded (ending : Ending) : ending.andThen loaded = ending := by
  cases ending <;> rfl

theorem andThen_assoc (a b c : Ending) : (a.andThen b).andThen c = a.andThen (b.andThen c) := by
  cases a <;> rfl

end Ending

/-- How a loader ended. A problem counts as reported when it names the source. -/
def endingOf (source : Text) : Loading α → Ending
  | .ok _ => .loaded
  | .error (.refused named _) => if named = source then .refused else .escaped
  | .error _ => .escaped

section Endings

variable {source : Text}

theorem endingOf_refuse (problem : ConfigProblem) :
    endingOf source (refuse source problem : Loading α) = .refused := by
  simp [endingOf, refuse]

/-- A step decides the ending unless it succeeds. -/
theorem endingOf_bind {x : Loading α} {next : α → Loading β} {later : Ending}
    (h : ∀ a, x = .ok a → endingOf source (next a) = later) :
    endingOf source (x >>= next) = (endingOf source x).andThen later := by
  cases x with
  | ok a => exact h a rfl
  | error failure =>
    change endingOf source (.error failure : Loading β) = _
    cases failure with
    | refused named problem =>
      simp only [endingOf]
      split <;> rfl
    | notIterable typeName => rfl
    | unwritable => rfl
    | unsupported fault => rfl

/-- Whatever does not escape has given settings or reported a problem. -/
theorem endingOf_ne_escaped_iff {x : Loading α} :
    endingOf source x ≠ .escaped ↔
      (∃ a, x = .ok a) ∨ ∃ problem, x = .error (.refused source problem) := by
  cases x with
  | ok a => simp [endingOf]
  | error failure =>
    cases failure with
    | refused named problem => simp [endingOf]
    | notIterable typeName => simp [endingOf]
    | unwritable => simp [endingOf]
    | unsupported fault => simp [endingOf]

end Endings

/-! ## Demands -/

/-- A value that is neither a text nor a collection. -/
def isLone : Value → Bool
  | .null | .bool _ | .int _ | .float _ | .date _ | .moment _ => true
  | .str _ | .bytes _ | .list _ | .pair .. | .set _ | .map _ => false

/-- What a configuration value has to satisfy. -/
inductive Demand where
  /-- A value has the shape that its place asks for. -/
  | shape (fits : Bool)
  /-- A value has a text. -/
  | written (value : Value)
  /-- A text is a pattern. -/
  | pattern (text : Text)
  /-- A value is a text or a collection. -/
  | items (value : Value)

/-! ## What each key demands -/

/-- The entries of a mapping. -/
def entriesOf : Value → List (Value × Value)
  | .map entries => entries
  | _ => []

/-- The items of a list. -/
def itemsOf : Value → List Value
  | .list items => items
  | _ => []

def isMap : Value → Bool
  | .map _ => true
  | _ => false

def isList : Value → Bool
  | .list _ => true
  | _ => false

def isCount : Value → Bool
  | .int (.ofNat _) => true
  | _ => false

def isSwitch : Value → Bool
  | .bool _ => true
  | _ => false

/-- The value under a name, if the value is a mapping that has it. -/
def field? (name : Text) (value : Value) : Option Value := Value.entry? name (entriesOf value)

/-- The value under a name, if it is there and not empty. -/
def given? (name : Text) (value : Value) : Option Value :=
  (field? name value).filter Value.isTruthy

/-- The names of a mapping with their texts, each name once. -/
def catalogOf (value : Value) : List (Text × Text) :=
  (entriesOf value).foldl
    (fun catalog entry => loadCatalog.setText entry.1.text entry.2.text catalog) []

/-- The cleanup of a package manager. Without one there is nothing to go through. -/
def cleanupOf (settings : Value) : Value := (field? "cleanup" settings).getD (.list [])

/-- What the cleanup of a package manager consists of. -/
def cleanupParts (settings : Value) : List Value :=
  (cleanupItems (cleanupOf settings)).toOption.getD []

/-- The commands of a package manager, apart from its cleanup. -/
def familyCommands (settings : Value) : List Value :=
  (field? "detect" settings).toList ++ (field? "install" settings).toList ++
    (given? "update" settings).toList

/-- The texts that a package manager is looked for with. Those that are empty
are not looked at. -/
def familyPatterns (settings : Value) : List Text :=
  List.filter (!·.isEmpty) ((familyCommands settings ++ cleanupParts settings).map Value.text)

/-- The demands on a package manager. Its name is asked for first, even to say that
a command is missing. -/
def familyDemands (name settings : Value) : List Demand :=
  .written name ::
    .shape ((field? "detect" settings).isSome && (field? "install" settings).isSome) ::
    (familyCommands settings).map .written ++
    .items (cleanupOf settings) :: (cleanupParts settings).map .written ++
    (given? "no_recommends" settings).toList.map .written ++
    (familyPatterns settings).map .pattern

/-- What a declared rule gives for its severity. -/
def severityOf (rule : Value) : Value := (field? "severity" rule).getD (.str "WARNING")

/-- The severity that a declared rule names. -/
def severityNameOf (rule : Value) : Text := upper (severityOf rule).text

/-- What a declared rule reports. -/
def messageOf (rule : Value) : Value := (field? "message" rule).getD (.str "Custom rule matched.")

/-- The demands on a declared rule. Its name is asked for to say that the severity
is not known, or else with its pattern. -/
def ruleDemands (rule : Value) : List Demand :=
  .shape ((field? "id" rule).isSome && (field? "pattern" rule).isSome) ::
    .written (severityOf rule) ::
    match Severity.ofName? (severityNameOf rule) with
    | none => (field? "id" rule).toList.map .written ++ [.shape false]
    | some _ =>
      ((field? "pattern" rule).toList ++ (field? "id" rule).toList).map .written ++
      (field? "pattern" rule).toList.map (fun pattern => .pattern pattern.text) ++
      .written (messageOf rule) :: (given? "keyword" rule).toList.map .written

/-- The demands on names with texts. -/
def catalogDemands (value : Value) : List Demand :=
  .shape (isMap value) :: (entriesOf value).flatMap fun entry => [.written entry.1, .written entry.2]

/-- The demands on a list of texts. -/
def textsDemands (value : Value) : List Demand :=
  .shape (isList value) :: (itemsOf value).map .written

/-- The demands of a key on its value, in the order in which they are looked at. -/
def Key.demands (key : Key) (value : Value) : List Demand :=
  match key with
  | .runThreshold | .minExclusionRules => [.shape (isCount value)]
  | .criticalExclusions | .advisoryExclusions => catalogDemands value
  | .heavyDistributions =>
    catalogDemands value ++ (catalogOf value).map fun entry => .pattern entry.2
  | .lightweightMarkers | .fetchIndicators | .unnecessaryCopyPatterns | .disabledRules =>
    textsDemands value
  | .tempCleanupPatterns | .buildToolPatterns =>
    textsDemands value ++ ((itemsOf value).map Value.text).map .pattern
  | .treatUntaggedAsLatest => [.shape (isSwitch value)]
  | .apkBuildDeps => [.written value, .pattern value.text]
  | .packageManagers =>
    .shape (isMap value) :: (entriesOf value).flatMap fun entry => familyDemands entry.1 entry.2
  | .customRules => .shape (isList value) :: (itemsOf value).flatMap ruleDemands

/-- The demands on an entry of a configuration. A key that is not known demands
nothing. -/
def entryDemands (entry : Value × Value) : List Demand :=
  match Key.ofValue? entry.1 with
  | some key => key.demands entry.2
  | none => []

/-- The demands on a configuration value. -/
def demands (value : Value) : List Demand :=
  .shape (isMap value) :: (entriesOf value).flatMap entryDemands

/-! ## What loading gives -/

theorem textOf_eq_ok_iff {value : Value} {text : Text} :
    textOf value = .ok text ↔ value.hasText = true ∧ value.text = text := by
  unfold textOf
  split <;> simp_all

/-- A traversal that goes through gives what each item is said to give. -/
theorem eq_map_of_mapM {f : α → Loading β} {g : α → β} (hf : ∀ a b, f a = .ok b → b = g a)
    {items : List α} {found : List β} (h : items.mapM f = .ok found) : found = items.map g := by
  induction items generalizing found with
  | nil =>
    cases h
    rfl
  | cons item items ih =>
    rw [List.mapM_cons] at h
    obtain ⟨first, hfirst, h⟩ := bind_eq_ok_iff.mp h
    obtain ⟨rest, hrest, h⟩ := bind_eq_ok_iff.mp h
    cases h
    rw [List.map_cons, ← hf item first hfirst, ← ih hrest]

theorem eq_map_text {values : List Value} {texts : List Text}
    (h : values.mapM textOf = .ok texts) : texts = values.map Value.text :=
  eq_map_of_mapM (fun _ _ htext => (textOf_eq_ok_iff.mp htext).2.symm) h

theorem eq_of_optionalText {value : Option Value} {text : Option Text}
    (h : optionalText value = .ok text) : text = (value.filter Value.isTruthy).map Value.text := by
  cases value with
  | none =>
    cases h
    rfl
  | some value =>
    simp only [optionalText] at h
    split at h
    · next htruthy =>
      obtain ⟨text, htext, h⟩ := bind_eq_ok_iff.mp h
      cases h
      rw [Option.filter_some, if_pos htruthy, Option.map_some, (textOf_eq_ok_iff.mp htext).2]
    · next htruthy =>
      cases h
      rw [Option.filter_some, if_neg htruthy, Option.map_none]

section

variable {source key : Text}

theorem eq_of_loadTexts {value : Value} {texts : List Text}
    (h : loadTexts source key value = .ok texts) : texts = (itemsOf value).map Value.text := by
  cases value with
  | list items => exact eq_map_text h
  | _ => cases h

theorem eq_of_loadCatalog {value : Value} {catalog : List (Text × Text)}
    (h : loadCatalog source key value = .ok catalog) : catalog = catalogOf value := by
  cases value with
  | map entries =>
    obtain ⟨texts, htexts, h⟩ := bind_eq_ok_iff.mp h
    cases h
    have hmap := eq_map_of_mapM (g := fun entry : Value × Value => (entry.1.text, entry.2.text))
      (fun entry text h => by
        obtain ⟨name, hname, h⟩ := bind_eq_ok_iff.mp h
        obtain ⟨value, hvalue, h⟩ := bind_eq_ok_iff.mp h
        cases h
        rw [(textOf_eq_ok_iff.mp hname).2, (textOf_eq_ok_iff.mp hvalue).2]) htexts
    rw [hmap, List.foldl_map]
    rfl
  | _ => cases h

theorem eq_of_loadCleanup {settings : Value} {texts : List Text}
    (h : loadCleanup (cleanupOf settings) = .ok texts) :
    texts = (cleanupParts settings).map Value.text := by
  obtain ⟨parts, hparts, h⟩ := bind_eq_ok_iff.mp h
  rw [cleanupParts, hparts]
  exact eq_map_text h

end

/-! ## How demands end -/

section

variable [Characters]

/-- How loading ends for a demand that is looked at: it goes on when the demand
is met. -/
def Demand.ending : Demand → Ending
  | .shape fits => if fits then .loaded else .refused
  | .written value => if value.hasText then .loaded else .escaped
  | .pattern text =>
    match Pattern.read text with
    | .ok _ => .loaded
    | .error fault => if fault.cause.kind = .malformed then .refused else .escaped
  | .items value => if isLone value then .escaped else .loaded

/-- How loading ends for demands looked at one after the other. -/
def verdict (demands : List Demand) : Ending :=
  demands.foldr (fun demand later => demand.ending.andThen later) .loaded

theorem verdict_cons (demand : Demand) (demands : List Demand) :
    verdict (demand :: demands) = demand.ending.andThen (verdict demands) := rfl

theorem verdict_append (demands more : List Demand) :
    verdict (demands ++ more) = (verdict demands).andThen (verdict more) := by
  induction demands with
  | nil => rfl
  | cons demand demands ih =>
    rw [List.cons_append, verdict_cons, ih, verdict_cons, Ending.andThen_assoc]

/-- The first demand that is not met decides. -/
theorem verdict_eq_escaped_iff (demands : List Demand) :
    verdict demands = .escaped ↔
      ∃ before demand after, demands = before ++ demand :: after ∧
        (∀ d ∈ before, d.ending = .loaded) ∧ demand.ending = .escaped := by
  constructor
  · intro h
    induction demands with
    | nil => cases h
    | cons demand demands ih =>
      rw [verdict_cons] at h
      cases hending : demand.ending with
      | loaded =>
        rw [hending] at h
        obtain ⟨before, last, after, rfl, hbefore, hlast⟩ := ih h
        exact ⟨demand :: before, last, after, rfl, by simpa [hending] using hbefore, hlast⟩
      | refused =>
        rw [hending] at h
        cases h
      | escaped => exact ⟨[], demand, demands, rfl, by simp, hending⟩
  · rintro ⟨before, demand, after, rfl, hbefore, hdemand⟩
    have hmet : verdict before = .loaded := by
      induction before with
      | nil => rfl
      | cons first before ih =>
        rw [List.forall_mem_cons] at hbefore
        rw [verdict_cons, hbefore.1]
        exact ih hbefore.2
    rw [verdict_append, hmet, verdict_cons, hdemand]
    rfl

/-! ## Loaders and their demands -/

/-- The loader ends as the demands say. -/
def Heeds (source : Text) (x : Loading α) (demands : List Demand) : Prop :=
  endingOf source x = verdict demands

section Loaders

variable {source : Text} {demands more : List Demand}

theorem heeds_pure (a : α) : Heeds source (pure a) [] := rfl

theorem heeds_refuse (problem : ConfigProblem) :
    Heeds source (refuse source problem : Loading α) (.shape false :: demands) :=
  endingOf_refuse problem

theorem heeds_bind {x : Loading α} {next : α → Loading β} (hx : Heeds source x demands)
    (hnext : ∀ a, x = .ok a → Heeds source (next a) more) :
    Heeds source (x >>= next) (demands ++ more) := by
  unfold Heeds at *
  rw [endingOf_bind hnext, hx, verdict_append]

/-- A step with a single demand. -/
theorem heeds_step {x : Loading α} {next : α → Loading β} {demand : Demand}
    (hx : Heeds source x [demand]) (hnext : ∀ a, x = .ok a → Heeds source (next a) more) :
    Heeds source (x >>= next) (demand :: more) :=
  heeds_bind hx hnext

/-- A loader that puts what another one gives in its place. -/
theorem heeds_then_pure {x : Loading α} {f : α → β} (hx : Heeds source x demands) :
    Heeds source (x >>= fun a => pure (f a)) demands := by
  have h := heeds_bind hx fun a _ => heeds_pure (f a)
  rwa [List.append_nil] at h

theorem heeds_met {x : Loading α} {fits : Bool} (hfits : fits = true)
    (hx : Heeds source x demands) : Heeds source x (.shape fits :: demands) := by
  subst hfits
  exact hx

theorem heeds_forM {f : α → Loading PUnit} {g : α → List Demand} {items : List α}
    (h : ∀ a ∈ items, Heeds source (f a) (g a)) :
    Heeds source (items.forM f) (items.flatMap g) := by
  induction items with
  | nil => exact heeds_pure _
  | cons a items ih =>
    rw [List.forall_mem_cons] at h
    rw [List.forM, List.flatMap_cons]
    exact heeds_bind h.1 fun _ _ => ih h.2

theorem heeds_mapM {f : α → Loading β} {g : α → List Demand} {items : List α}
    (h : ∀ a ∈ items, Heeds source (f a) (g a)) :
    Heeds source (items.mapM f) (items.flatMap g) := by
  induction items with
  | nil => exact heeds_pure _
  | cons a items ih =>
    rw [List.forall_mem_cons] at h
    rw [List.mapM_cons, List.flatMap_cons]
    exact heeds_bind h.1 fun _ _ => heeds_then_pure (ih h.2)

theorem heeds_textOf (value : Value) : Heeds source (textOf value) [.written value] := by
  unfold Heeds textOf
  rw [verdict_cons, verdict, List.foldr_nil, Ending.andThen_loaded, Demand.ending]
  split <;> rfl

theorem heeds_texts (values : List Value) :
    Heeds source (values.mapM textOf) (values.map .written) := by
  rw [List.map_eq_flatMap]
  exact heeds_mapM fun value _ => heeds_textOf value

theorem heeds_optionalText (value : Option Value) :
    Heeds source (optionalText value) ((value.filter Value.isTruthy).toList.map .written) := by
  cases value with
  | none => exact heeds_pure _
  | some value =>
    simp only [optionalText, Option.filter_some]
    split
    · exact heeds_then_pure (heeds_textOf value)
    · exact heeds_pure _

theorem heeds_checkPattern (key pattern : Text) :
    Heeds source (checkPattern source key pattern) [.pattern pattern] := by
  unfold Heeds checkPattern
  rw [verdict_cons, verdict, List.foldr_nil, Ending.andThen_loaded, Demand.ending]
  cases Pattern.read pattern with
  | ok _ => rfl
  | error fault =>
    dsimp only
    cases fault.cause.kind with
    | malformed => exact endingOf_refuse _
    | overflow => rfl
    | digits => rfl
    | conflict => rfl

theorem heeds_checkPatterns (key : Text) (text : α → Text) (items : List α) :
    Heeds source (items.forM fun a => checkPattern source key (text a))
      (items.map fun a => .pattern (text a)) := by
  rw [List.map_eq_flatMap]
  exact heeds_forM fun a _ => heeds_checkPattern key (text a)

end Loaders

/-! ## The loaders -/

section Loaders

variable {source : Text}

theorem heeds_loadCount (key : Text) (value : Value) :
    Heeds source (loadCount source key value) [.shape (isCount value)] := by
  cases value with
  | int count =>
    cases count with
    | ofNat => exact heeds_pure _
    | negSucc => exact heeds_refuse _
  | _ => exact heeds_refuse _

theorem heeds_loadSwitch (key : Text) (value : Value) :
    Heeds source (loadSwitch source key value) [.shape (isSwitch value)] := by
  cases value with
  | bool => exact heeds_pure _
  | _ => exact heeds_refuse _

theorem heeds_loadTexts (key : Text) (value : Value) :
    Heeds source (loadTexts source key value) (textsDemands value) := by
  cases value with
  | list items => exact heeds_met rfl (heeds_texts items)
  | _ => exact heeds_refuse _

theorem heeds_loadCatalog (key : Text) (value : Value) :
    Heeds source (loadCatalog source key value) (catalogDemands value) := by
  cases value with
  | map entries =>
    refine heeds_met rfl (heeds_then_pure (heeds_mapM fun entry _ => ?_))
    exact heeds_bind (heeds_textOf entry.1) fun name _ => heeds_then_pure (heeds_textOf entry.2)
  | _ => exact heeds_refuse _

theorem heeds_loadPatterns (key : Text) (value : Value) :
    Heeds source (loadPatterns source key value)
      (textsDemands value ++ ((itemsOf value).map Value.text).map .pattern) := by
  refine heeds_bind (heeds_loadTexts key value) fun texts htexts => ?_
  rw [eq_of_loadTexts htexts]
  exact heeds_then_pure (heeds_checkPatterns key id _)

theorem heeds_cleanupItems (value : Value) :
    Heeds source (cleanupItems value) [.items value] := by
  cases value <;> rfl

theorem heeds_loadCleanup (settings : Value) :
    Heeds source (loadCleanup (cleanupOf settings))
      (.items (cleanupOf settings) :: (cleanupParts settings).map .written) := by
  refine heeds_bind (heeds_cleanupItems _) fun parts hparts => ?_
  rw [cleanupParts, hparts]
  exact heeds_texts parts

/-- A package manager that lacks a command is refused under its name. -/
theorem heeds_refuseFamily (name : Value) {demands : List Demand} :
    Heeds source (refuseFamily source name : Loading α) (.written name :: .shape false :: demands) :=
  heeds_bind (heeds_textOf name) fun _ _ => heeds_refuse _

theorem heeds_loadFamily (name settings : Value) :
    Heeds source (loadFamily source name settings) (familyDemands name settings) := by
  cases settings with
  | map entries =>
    cases hdetect : field? "detect" (.map entries) with
    | none =>
      have hentry : Value.entry? "detect" entries = none := hdetect
      simp only [loadFamily, hentry, familyDemands, hdetect, List.cons_append]
      exact heeds_refuseFamily name
    | some detect =>
      cases hinstall : field? "install" (.map entries) with
      | none =>
        have hentry : Value.entry? "detect" entries = some detect := hdetect
        have hentry' : Value.entry? "install" entries = none := hinstall
        simp only [loadFamily, hentry, hentry', familyDemands, hdetect, hinstall, List.cons_append]
        exact heeds_refuseFamily name
      | some install =>
        have hentry : Value.entry? "detect" entries = some detect := hdetect
        have hentry' : Value.entry? "install" entries = some install := hinstall
        have hdemands : familyDemands name (.map entries) =
            [.written name] ++ .shape true :: ([.written detect] ++ ([.written install] ++
              ((given? "update" (.map entries)).toList.map .written ++
                ((.items (cleanupOf (.map entries)) ::
                    (cleanupParts (.map entries)).map .written) ++
                  ((given? "no_recommends" (.map entries)).toList.map .written ++
                    (familyPatterns (.map entries)).map .pattern))))) := by
          simp only [familyDemands, familyCommands, hdetect, hinstall, Option.toList_some,
            Option.isSome_some, Bool.and_self, List.map_cons, List.append_assoc,
            List.cons_append, List.nil_append]
        rw [hdemands]
        simp only [loadFamily, hentry, hentry']
        refine heeds_bind (heeds_textOf name) fun _ _ => heeds_met rfl ?_
        refine heeds_bind (heeds_textOf detect) fun _ hdetect' => ?_
        refine heeds_bind (heeds_textOf install) fun _ hinstall' => ?_
        refine heeds_bind (heeds_optionalText _) fun update hupdate => ?_
        refine heeds_bind (heeds_loadCleanup (.map entries)) fun cleanup hcleanup => ?_
        refine heeds_bind (heeds_optionalText _) fun _ _ => ?_
        obtain ⟨-, rfl⟩ := textOf_eq_ok_iff.mp hdetect'
        obtain ⟨-, rfl⟩ := textOf_eq_ok_iff.mp hinstall'
        obtain rfl := eq_of_optionalText hupdate
        obtain rfl := @eq_of_loadCleanup (.map entries) _ hcleanup
        have hpatterns : familyPatterns (.map entries) = List.filter (!·.isEmpty)
            ([detect.text, install.text] ++
              ((given? "update" (.map entries)).map Value.text).toList ++
              (cleanupParts (.map entries)).map Value.text) := by
          simp only [familyPatterns, familyCommands, hdetect, hinstall, Option.toList_some,
            Option.toList_map, List.map_append, List.map_cons, List.cons_append,
            List.nil_append]
        rw [hpatterns]
        exact heeds_then_pure (heeds_checkPatterns _ id _)
  | _ => exact heeds_refuseFamily name

theorem heeds_loadRule (rule : Value) :
    Heeds source (loadRule source rule) (ruleDemands rule) := by
  cases rule with
  | map entries =>
    cases hid : field? "id" (.map entries) with
    | none =>
      have hentry : Value.entry? "id" entries = none := hid
      simp only [loadRule, hentry, ruleDemands, hid]
      exact heeds_refuse _
    | some id =>
      cases hpattern : field? "pattern" (.map entries) with
      | none =>
        have hentry : Value.entry? "id" entries = some id := hid
        have hentry' : Value.entry? "pattern" entries = none := hpattern
        simp only [loadRule, hentry, hentry', ruleDemands, hid, hpattern]
        exact heeds_refuse _
      | some pattern =>
        have hentry : Value.entry? "id" entries = some id := hid
        have hentry' : Value.entry? "pattern" entries = some pattern := hpattern
        simp only [loadRule, hentry, hentry', ruleDemands, hid, hpattern]
        refine heeds_met rfl ?_
        refine heeds_step (heeds_textOf _) fun severity hseverity => ?_
        have hname : severityNameOf (.map entries) = upper severity :=
          congrArg upper (textOf_eq_ok_iff.mp hseverity).2
        rw [hname]
        cases Severity.ofName? (upper severity) with
        | none => exact heeds_bind (heeds_textOf id) fun _ _ => heeds_refuse _
        | some severity =>
          refine heeds_step (heeds_textOf pattern) fun _ hpattern' => ?_
          obtain ⟨-, rfl⟩ := textOf_eq_ok_iff.mp hpattern'
          refine heeds_step (heeds_textOf id) fun _ _ => ?_
          refine heeds_step (heeds_checkPattern _ _) fun _ _ => ?_
          exact heeds_step (heeds_textOf _) fun _ _ =>
            heeds_then_pure (heeds_optionalText _)
  | _ => exact heeds_refuse _

theorem heeds_loadKey (config : Config) (key : Key) (value : Value) :
    Heeds source (loadKey source config key value) (key.demands value) := by
  cases key with
  | runThreshold | minExclusionRules => exact heeds_then_pure (heeds_loadCount _ value)
  | criticalExclusions | advisoryExclusions => exact heeds_then_pure (heeds_loadCatalog _ value)
  | lightweightMarkers | fetchIndicators | unnecessaryCopyPatterns | disabledRules =>
    exact heeds_then_pure (heeds_loadTexts _ value)
  | heavyDistributions =>
    refine heeds_bind (heeds_loadCatalog _ value) fun catalog hcatalog => ?_
    rw [eq_of_loadCatalog hcatalog]
    exact heeds_then_pure (heeds_checkPatterns _ Prod.snd _)
  | treatUntaggedAsLatest => exact heeds_then_pure (heeds_loadSwitch _ value)
  | packageManagers =>
    refine heeds_then_pure ?_
    cases value with
    | map entries => exact heeds_met rfl (heeds_mapM fun entry _ => heeds_loadFamily _ _)
    | _ => exact heeds_refuse _
  | apkBuildDeps =>
    refine heeds_bind (heeds_textOf value) fun pattern hpattern => ?_
    rw [← (textOf_eq_ok_iff.mp hpattern).2]
    exact heeds_then_pure (heeds_checkPattern _ _)
  | tempCleanupPatterns | buildToolPatterns => exact heeds_then_pure (heeds_loadPatterns _ value)
  | customRules =>
    refine heeds_then_pure ?_
    cases value with
    | list items => exact heeds_met rfl (heeds_mapM fun rule _ => heeds_loadRule rule)
    | _ => exact heeds_refuse _

theorem result_loadEntries_cons (config : Config) (name value : Value)
    (entries : List (Value × Value)) :
    (loadEntries source config ((name, value) :: entries)).result =
      match Key.ofValue? name with
      | none => (loadEntries source config entries).result
      | some key => loadKey source config key value >>= fun config =>
        (loadEntries source config entries).result := by
  rw [loadEntries]
  cases Key.ofValue? name with
  | none => rfl
  | some key =>
    dsimp only
    cases loadKey source config key value with
    | error failure => rfl
    | ok config => rfl

theorem heeds_loadEntries (config : Config) (entries : List (Value × Value)) :
    Heeds source (loadEntries source config entries).result (entries.flatMap entryDemands) := by
  induction entries generalizing config with
  | nil => exact heeds_pure _
  | cons entry entries ih =>
    obtain ⟨name, value⟩ := entry
    rw [result_loadEntries_cons, List.flatMap_cons, entryDemands]
    cases Key.ofValue? name with
    | none => exact ih config
    | some key => exact heeds_bind (heeds_loadKey config key value) fun config _ => ih config

theorem heeds_loadValue (value : Value) :
    Heeds source (loadValue source value).result (demands value) := by
  cases value with
  | map entries => exact heeds_met rfl (heeds_loadEntries {} entries)
  | _ => exact heeds_refuse _

end Loaders

/-! ## What was checked of what is loaded -/

section

variable {source : Text}

/-- The patterns of a package manager that is loaded were checked. -/
theorem checks_of_loadFamily {name settings : Value} {manager : PackageManager}
    (h : loadFamily source name settings = .ok manager) :
    ∃ key, (([manager.detect, manager.install] ++ manager.update.toList ++ manager.cleanup).filter
      (!·.isEmpty)).forM (checkPattern source key) = .ok () := by
  have hrefused : refuseFamily source name ≠ .ok manager := by
    intro h
    obtain ⟨_, _, h⟩ := bind_eq_ok_iff.mp h
    cases h
  unfold loadFamily at h
  split at h
  · split at h
    · split at h
      · iterate 6 obtain ⟨_, _, h⟩ := bind_eq_ok_iff.mp h
        obtain ⟨_, hcheck, h⟩ := bind_eq_ok_iff.mp h
        cases h
        exact ⟨_, hcheck⟩
      · exact absurd h hrefused
    · exact absurd h hrefused
  · exact absurd h hrefused

/-- What a declared rule that is loaded was checked for, and its keyword. -/
structure RuleLoaded (source : Text) (item : Value) (rule : CustomRule) : Prop where
  pattern : ∃ key, checkPattern source key rule.pattern = .ok ()
  severity : Severity.ofName? (severityNameOf item) = some rule.severity
  keyword : rule.keyword = (given? "keyword" item).map fun word => upper word.text

theorem ruleLoaded {item : Value} {rule : CustomRule} (h : loadRule source item = .ok rule) :
    RuleLoaded source item rule := by
  unfold loadRule at h
  split at h
  · split at h
    · split at h
      · obtain ⟨_, hname, h⟩ := bind_eq_ok_iff.mp h
        obtain ⟨-, rfl⟩ := textOf_eq_ok_iff.mp hname
        dsimp only at h
        split at h
        · next hseverity =>
          iterate 2 obtain ⟨_, _, h⟩ := bind_eq_ok_iff.mp h
          obtain ⟨_, hcheck, h⟩ := bind_eq_ok_iff.mp h
          obtain ⟨_, _, h⟩ := bind_eq_ok_iff.mp h
          obtain ⟨_, hkeyword, h⟩ := bind_eq_ok_iff.mp h
          cases h
          refine ⟨⟨_, hcheck⟩, hseverity, ?_⟩
          rw [eq_of_optionalText hkeyword, Option.map_map]
          rfl
        · obtain ⟨_, _, h⟩ := bind_eq_ok_iff.mp h
          cases h
      · cases h
    · cases h
  · cases h

end

/-! ## The law -/

/-- Loading gives settings or reports a problem, unless the first demand that
the value does not meet is one that escapes. -/
theorem loading_reports_its_problems_unless_a_demand_escapes (source : Text) (value : Value) :
    ((∃ config, (loadValue source value).result = .ok config) ∨
        ∃ problem, (loadValue source value).result = .error (.refused source problem)) ↔
      ¬ ∃ before demand after, demands value = before ++ demand :: after ∧
        (∀ d ∈ before, d.ending = .loaded) ∧ demand.ending = .escaped := by
  have hending : endingOf source (loadValue source value).result = verdict (demands value) :=
    heeds_loadValue value
  rw [← verdict_eq_escaped_iff, ← hending]
  exact endingOf_ne_escaped_iff.symm

/-- A package manager with a number for its cleanup. -/
def loneCleanup : Value :=
  .map [(.str "package_managers", .map [(.str "x", .map [
    (.str "detect", .str "a"), (.str "install", .str "b"), (.str "cleanup", .int 5)])])]

end

open scoped Characters

theorem a_number_for_a_cleanup_escapes :
    ¬ ((∃ config, (loadValue "<config>" loneCleanup).result = .ok config) ∨
      ∃ problem, (loadValue "<config>" loneCleanup).result =
        .error (.refused "<config>" problem)) := by
  have hresult : (loadValue "<config>" loneCleanup).result = .error (.notIterable "int") := by rfl
  rw [hresult]
  simp

end ImageLint.Config
