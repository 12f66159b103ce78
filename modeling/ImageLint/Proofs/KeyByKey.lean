-- Loading goes key by key. Each setting is what its own key gives, or its default
-- where the key is missing; no key looks at another, and a key that is not known
-- changes nothing. So the order of the entries does not matter, and two mappings
-- that set different keys can be put together.
import Mathlib.Logic.Function.Basic
import ImageLint.Proofs.Loading
import ImageLint.Proofs.Outcomes
import ImageLint.Text.Names

namespace ImageLint

open Yaml (Value)

namespace Config

/-! ## The setting of a key -/

/-- What a key sets. -/
def Key.Setting : Key → Type
  | .runThreshold | .minExclusionRules => Nat
  | .criticalExclusions | .advisoryExclusions | .heavyDistributions => List (Text × Text)
  | .treatUntaggedAsLatest => Bool
  | .packageManagers => List PackageManager
  | .apkBuildDeps => Text
  | .customRules => List CustomRule
  | .lightweightMarkers | .fetchIndicators | .tempCleanupPatterns | .buildToolPatterns
  | .unnecessaryCopyPatterns | .disabledRules => List Text

/-- The setting of a key. -/
def setting (config : Config) : (key : Key) → key.Setting
  | .runThreshold => config.runThreshold
  | .minExclusionRules => config.minExclusionRules
  | .criticalExclusions => config.criticalExclusions
  | .advisoryExclusions => config.advisoryExclusions
  | .lightweightMarkers => config.lightweightMarkers
  | .heavyDistributions => config.heavyDistributions
  | .treatUntaggedAsLatest => config.treatUntaggedAsLatest
  | .packageManagers => config.packageManagers
  | .apkBuildDeps => config.apkBuildDeps
  | .fetchIndicators => config.fetchIndicators
  | .tempCleanupPatterns => config.tempCleanupPatterns
  | .buildToolPatterns => config.buildToolPatterns
  | .unnecessaryCopyPatterns => config.unnecessaryCopyPatterns
  | .disabledRules => config.disabledRules
  | .customRules => config.customRules

/-- The settings made up of one for each key. -/
def ofSettings (settings : (key : Key) → key.Setting) : Config where
  runThreshold := settings .runThreshold
  minExclusionRules := settings .minExclusionRules
  criticalExclusions := settings .criticalExclusions
  advisoryExclusions := settings .advisoryExclusions
  lightweightMarkers := settings .lightweightMarkers
  heavyDistributions := settings .heavyDistributions
  treatUntaggedAsLatest := settings .treatUntaggedAsLatest
  packageManagers := settings .packageManagers
  apkBuildDeps := settings .apkBuildDeps
  fetchIndicators := settings .fetchIndicators
  tempCleanupPatterns := settings .tempCleanupPatterns
  buildToolPatterns := settings .buildToolPatterns
  unnecessaryCopyPatterns := settings .unnecessaryCopyPatterns
  disabledRules := settings .disabledRules
  customRules := settings .customRules

theorem setting_ofSettings (settings : (key : Key) → key.Setting) :
    (ofSettings settings).setting = settings := by
  funext key
  cases key <;> rfl

/-- Settings are told apart by their keys. -/
theorem ext_setting {config config' : Config}
    (h : ∀ key, config.setting key = config'.setting key) : config = config' :=
  congrArg ofSettings (funext h)

/-- The settings with that of one key put in place. -/
def put (config : Config) (key : Key) (s : key.Setting) : Config :=
  ofSettings (Function.update config.setting key s)

theorem setting_put_self (config : Config) (key : Key) (s : key.Setting) :
    (config.put key s).setting key = s := by
  rw [put, setting_ofSettings, Function.update_self]

theorem setting_put_of_ne (config : Config) {key other : Key} (h : other ≠ key)
    (s : key.Setting) : (config.put key s).setting other = config.setting other := by
  rw [put, setting_ofSettings, Function.update_of_ne h]

/-- What a key makes of its value: the value checked and converted, or what is
wrong with it. Nothing else is looked at. -/
def Key.load [Characters] (source : Text) (value : Value) : (key : Key) → Loading key.Setting
  | .runThreshold => loadCount source (name .runThreshold) value
  | .minExclusionRules => loadCount source (name .minExclusionRules) value
  | .criticalExclusions => loadCatalog source (name .criticalExclusions) value
  | .advisoryExclusions => loadCatalog source (name .advisoryExclusions) value
  | .lightweightMarkers => loadTexts source (name .lightweightMarkers) value
  | .heavyDistributions => do
    let catalog ← loadCatalog source (name .heavyDistributions) value
    catalog.forM fun entry => checkPattern source (name .heavyDistributions) entry.2
    return catalog
  | .treatUntaggedAsLatest => loadSwitch source (name .treatUntaggedAsLatest) value
  | .packageManagers => loadFamilies source value
  | .apkBuildDeps => do
    let pattern ← textOf value
    checkPattern source (name .apkBuildDeps) pattern
    return pattern
  | .fetchIndicators => loadTexts source (name .fetchIndicators) value
  | .tempCleanupPatterns => loadPatterns source (name .tempCleanupPatterns) value
  | .buildToolPatterns => loadPatterns source (name .buildToolPatterns) value
  | .unnecessaryCopyPatterns => loadTexts source (name .unnecessaryCopyPatterns) value
  | .disabledRules => Text.distinct <$> loadTexts source (name .disabledRules) value
  | .customRules => loadRules source value

/-- Loading a key puts what it makes of its value in place. -/
theorem loadKey_eq [Characters] (source : Text) (config : Config) (key : Key) (value : Value) :
    loadKey source config key value =
      key.load source value >>= fun setting => pure (config.put key setting) := by
  cases key with
  | heavyDistributions =>
    unfold loadKey Key.load
    cases loadCatalog source Key.heavyDistributions.name value with
    | error failure => rfl
    | ok catalog =>
      dsimp only [bind, Except.bind]
      cases catalog.forM fun entry => checkPattern source Key.heavyDistributions.name entry.2 with
      | error failure => rfl
      | ok _ => rfl
  | apkBuildDeps =>
    unfold loadKey Key.load
    cases textOf value with
    | error failure => rfl
    | ok pattern =>
      dsimp only [bind, Except.bind]
      cases checkPattern source Key.apkBuildDeps.name pattern <;> rfl
  | disabledRules =>
    unfold loadKey Key.load
    cases loadTexts source Key.disabledRules.name value <;> rfl
  | _ => rfl

/-! ## The keys of a mapping -/

/-- The keys that a mapping sets. -/
def knownKeys (entries : List (Value × Value)) : List Key :=
  entries.filterMap fun entry => Key.ofValue? entry.1

/-- No key is set twice. -/
def KeysOnce (entries : List (Value × Value)) : Prop := (knownKeys entries).Nodup

instance (entries : List (Value × Value)) : Decidable (KeysOnce entries) :=
  inferInstanceAs (Decidable (knownKeys entries).Nodup)

theorem Key.ofValue?_eq_some_iff {name : Value} {key : Key} :
    Key.ofValue? name = some key ↔ name = .str key.name := by
  cases name with
  | str text =>
    simp only [Key.ofValue?, Value.str.injEq]
    constructor
    · intro h
      have hname := List.find?_some h
      exact (beq_iff_eq.mp hname).symm
    · rintro rfl
      cases key <;> rfl
  | _ => simp [Key.ofValue?]

theorem sameKey_str_iff {name : Value} {text : Text} :
    Value.sameKey name (.str text) = true ↔ name = .str text := by
  cases name with
  | str other => simp [Value.sameKey, Value.asInteger?]
  | float number =>
    cases hnumber : number.toInt? <;> simp [Value.sameKey, Value.asInteger?, hnumber]
  | _ => simp [Value.sameKey, Value.asInteger?]

/-- Names that are the same name the same key. -/
theorem Key.ofValue?_of_sameKey {name other : Value} (h : Value.sameKey name other = true) :
    Key.ofValue? name = Key.ofValue? other := by
  cases other with
  | str text => rw [sameKey_str_iff.mp h]
  | float number =>
    cases name with
    | str text =>
      cases hnumber : number.toInt? <;> simp [Value.sameKey, Value.asInteger?, hnumber] at h
    | _ => rfl
  | _ =>
    cases name with
    | str text => simp [Value.sameKey, Value.asInteger?] at h
    | _ => rfl

theorem sameKey_of_ofValue? {name other : Value} {key : Key} (h : Key.ofValue? name = some key)
    (h' : Key.ofValue? other = some key) : Value.sameKey name other = true := by
  rw [Key.ofValue?_eq_some_iff] at h h'
  rw [h', sameKey_str_iff, h]

theorem entry?_cons (key : Key) (name value : Value) (entries : List (Value × Value)) :
    Value.entry? key.name ((name, value) :: entries) =
      if Key.ofValue? name = some key then some value else Value.entry? key.name entries := by
  unfold Value.entry?
  rw [List.find?_cons]
  by_cases h : name = .str key.name
  · rw [if_pos (Key.ofValue?_eq_some_iff.mpr h)]
    simp only [sameKey_str_iff.mpr h]
    rfl
  · rw [if_neg (fun hkey => h (Key.ofValue?_eq_some_iff.mp hkey))]
    have hother : Value.sameKey name (.str key.name) = false := by
      rw [← Bool.not_eq_true, sameKey_str_iff]
      exact h
    simp only [hother]

theorem keysOnce_cons {name value : Value} {entries : List (Value × Value)} :
    KeysOnce ((name, value) :: entries) ↔
      (∀ key, Key.ofValue? name = some key → key ∉ knownKeys entries) ∧ KeysOnce entries := by
  unfold KeysOnce knownKeys
  cases hname : Key.ofValue? name with
  | none => simp [hname]
  | some key => simp [hname]

/-- A key has a value where the mapping sets it. -/
theorem entry?_eq_none_iff {key : Key} {entries : List (Value × Value)} :
    Value.entry? key.name entries = none ↔ key ∉ knownKeys entries := by
  induction entries with
  | nil => simp [Value.entry?, knownKeys]
  | cons entry entries ih =>
    obtain ⟨name, value⟩ := entry
    rw [entry?_cons, knownKeys, List.filterMap_cons]
    by_cases h : Key.ofValue? name = some key
    · simp [h]
    · rw [if_neg h, ih]
      cases hname : Key.ofValue? name with
      | none => rfl
      | some other =>
        have hne : key ≠ other := fun heq => h (heq ▸ hname)
        simp [knownKeys, hne]

/-- Where no key is set twice, a key has the one value that stands under its
name. -/
theorem entry?_eq_some_iff {key : Key} {value : Value} {entries : List (Value × Value)}
    (h : KeysOnce entries) :
    Value.entry? key.name entries = some value ↔ (.str key.name, value) ∈ entries := by
  induction entries with
  | nil => simp [Value.entry?]
  | cons entry entries ih =>
    obtain ⟨name, first⟩ := entry
    obtain ⟨hfresh, honce⟩ := keysOnce_cons.mp h
    rw [entry?_cons, List.mem_cons, Prod.mk.injEq]
    by_cases hname : Key.ofValue? name = some key
    · have hnot : (Value.str key.name, value) ∉ entries := by
        rw [← ih honce, entry?_eq_none_iff.mpr (hfresh key hname)]
        simp
      rw [if_pos hname, Key.ofValue?_eq_some_iff.mp hname]
      simp [hnot, eq_comm]
    · have hne : Value.str key.name ≠ name := fun heq =>
        hname (Key.ofValue?_eq_some_iff.mpr heq.symm)
      rw [if_neg hname, ih honce]
      simp [hne]

/-! ## Loading -/

/-- What becomes of a key: its setting is what its value gives, or, without a
value, what it was before. -/
def Takes [Characters] (source : Text) (before : Config) (entries : List (Value × Value))
    (after : Config) (key : Key) : Prop :=
  match Value.entry? key.name entries with
  | some value => key.load source value = .ok (after.setting key)
  | none => after.setting key = before.setting key

section Loading

variable {source : Text} {entries : List (Value × Value)}

/-- One entry gives its key its setting and leaves the others to the rest. -/
theorem takes_cons_iff [Characters] {before after : Config} {key other : Key} {name value : Value}
    {s : key.Setting} (hname : Key.ofValue? name = some key) (hfresh : key ∉ knownKeys entries)
    (hload : key.load source value = .ok s) :
    Takes source before ((name, value) :: entries) after other ↔
      Takes source (before.put key s) entries after other := by
  unfold Takes
  rw [entry?_cons]
  by_cases h : other = key
  · subst h
    rw [if_pos hname, entry?_eq_none_iff.mpr hfresh]
    dsimp only
    rw [hload, setting_put_self, Except.ok.injEq, eq_comm]
  · rw [if_neg (by rw [hname]; exact fun heq => h (Option.some.inj heq).symm)]
    cases Value.entry? other.name entries with
    | none => rw [setting_put_of_ne before h]
    | some value => rfl

/-- Entries are loaded when every key can make something of its value, and each
key then has its own setting. -/
theorem loadEntries_eq_ok_iff [Characters] {before after : Config} (honce : KeysOnce entries) :
    (loadEntries source before entries).result = .ok after ↔
      ∀ key, Takes source before entries after key := by
  induction entries generalizing before with
  | nil =>
    constructor
    · intro h key
      cases h
      rfl
    · intro h
      exact congrArg Except.ok (ext_setting fun key => (h key).symm)
  | cons entry entries ih =>
    obtain ⟨name, value⟩ := entry
    obtain ⟨hfresh, honce⟩ := keysOnce_cons.mp honce
    rw [result_loadEntries_cons]
    cases hname : Key.ofValue? name with
    | none =>
      dsimp only
      rw [ih honce]
      refine forall_congr' fun key => ?_
      unfold Takes
      rw [entry?_cons, if_neg (by rw [hname]; exact nofun)]
    | some key =>
      dsimp only
      rw [loadKey_eq, bind_assoc]
      simp only [pure_bind]
      cases hload : key.load source value with
      | error failure =>
        refine iff_of_false nofun fun h => ?_
        have hkey := h key
        rw [Takes, entry?_cons, if_pos hname] at hkey
        exact absurd (hload.symm.trans hkey) nofun
      | ok s =>
        refine Iff.trans (ih honce) (forall_congr' fun other => ?_)
        exact (takes_cons_iff hname (hfresh key hname) hload).symm

/-- Keys that are not known are passed over. -/
theorem result_loadEntries_known [Characters] (before : Config) :
    (loadEntries source before
        (entries.filter fun entry => (Key.ofValue? entry.1).isSome)).result =
      (loadEntries source before entries).result := by
  induction entries generalizing before with
  | nil => rfl
  | cons entry entries ih =>
    obtain ⟨name, value⟩ := entry
    cases hname : Key.ofValue? name with
    | none =>
      rw [List.filter_cons_of_neg (by simp [hname]), ih, result_loadEntries_cons, hname]
    | some key =>
      rw [List.filter_cons_of_pos (by simp [hname]), result_loadEntries_cons,
        result_loadEntries_cons, hname]
      exact bind_congr fun config => ih config

end Loading

/-! ## Mappings put together -/

/-- An entry that is set is the value of its key from then on. -/
theorem entry?_setEntry (key : Key) (name value : Value) (entries : List (Value × Value)) :
    Value.entry? key.name (Value.setEntry name value entries) =
      if Key.ofValue? name = some key then some value else Value.entry? key.name entries := by
  induction entries with
  | nil => exact entry?_cons key name value []
  | cons entry entries ih =>
    obtain ⟨old, oldValue⟩ := entry
    unfold Value.setEntry
    by_cases hsame : Value.sameKey old name = true
    · rw [if_pos hsame, entry?_cons, entry?_cons, Key.ofValue?_of_sameKey hsame]
      split <;> rfl
    · rw [if_neg hsame, entry?_cons, ih, entry?_cons]
      split
      next hold => rw [if_neg fun hname => hsame (sameKey_of_ofValue? hold hname)]
      next => rfl

/-- A new entry sets a key that was not set, and an old one is set again in its
place. -/
theorem keysOnce_setEntry (name value : Value) {entries : List (Value × Value)}
    (h : KeysOnce entries) : KeysOnce (Value.setEntry name value entries) := by
  induction entries with
  | nil =>
    rw [Value.setEntry, keysOnce_cons]
    exact ⟨fun _ _ => List.not_mem_nil, h⟩
  | cons entry entries ih =>
    obtain ⟨old, oldValue⟩ := entry
    obtain ⟨hfresh, honce⟩ := keysOnce_cons.mp h
    unfold Value.setEntry
    by_cases hsame : Value.sameKey old name = true
    · rw [if_pos hsame, keysOnce_cons]
      exact ⟨hfresh, honce⟩
    · rw [if_neg hsame, keysOnce_cons]
      refine ⟨fun key hold => ?_, ih honce⟩
      rw [← entry?_eq_none_iff, entry?_setEntry,
        if_neg fun hname => hsame (sameKey_of_ofValue? hold hname), entry?_eq_none_iff]
      exact hfresh key hold

/-- Entries set one after the other: the value of a key is the one they give it,
or the one it had. -/
theorem entry?_foldl_setEntry (key : Key) {entries : List (Value × Value)}
    (h : KeysOnce entries) (map : List (Value × Value)) :
    Value.entry? key.name
        (entries.foldl (fun map entry => Value.setEntry entry.1 entry.2 map) map) =
      (Value.entry? key.name entries).or (Value.entry? key.name map) := by
  induction entries generalizing map with
  | nil => rfl
  | cons entry entries ih =>
    obtain ⟨name, value⟩ := entry
    obtain ⟨hfresh, honce⟩ := keysOnce_cons.mp h
    rw [List.foldl_cons, ih honce, entry?_setEntry, entry?_cons]
    by_cases hname : Key.ofValue? name = some key
    · rw [if_pos hname, if_pos hname, entry?_eq_none_iff.mpr (hfresh key hname)]
      rfl
    · rw [if_neg hname, if_neg hname]

theorem keysOnce_foldl_setEntry {map : List (Value × Value)} (h : KeysOnce map)
    (entries : List (Value × Value)) :
    KeysOnce (entries.foldl (fun map entry => Value.setEntry entry.1 entry.2 map) map) := by
  induction entries generalizing map with
  | nil => exact h
  | cons entry entries ih => exact ih (keysOnce_setEntry entry.1 entry.2 h)

/-- A mapping that is built entry by entry sets no key twice. -/
theorem keysOnce_ofEntries (entries : List (Value × Value)) :
    KeysOnce (Value.ofEntries entries) := by
  have hnone : KeysOnce [] := List.nodup_nil
  exact keysOnce_foldl_setEntry hnone entries

/-- In two mappings put together a key has the value of the second, or else that
of the first. -/
theorem entry?_ofEntries_append (key : Key) {entries more : List (Value × Value)}
    (h : KeysOnce entries) (hmore : KeysOnce more) :
    Value.entry? key.name (Value.ofEntries (entries ++ more)) =
      (Value.entry? key.name more).or (Value.entry? key.name entries) := by
  unfold Value.ofEntries
  rw [List.foldl_append, entry?_foldl_setEntry key hmore, entry?_foldl_setEntry key h]
  cases Value.entry? key.name more <;> cases Value.entry? key.name entries <;> rfl

/-! ## The law -/

theorem KeysOnce.perm {entries entries' : List (Value × Value)} (h : KeysOnce entries)
    (hperm : entries.Perm entries') : KeysOnce entries' :=
  (hperm.filterMap _).nodup_iff.mp h

theorem entry?_perm (key : Key) {entries entries' : List (Value × Value)} (h : KeysOnce entries)
    (hperm : entries.Perm entries') :
    Value.entry? key.name entries = Value.entry? key.name entries' := by
  refine Option.ext fun value => ?_
  rw [entry?_eq_some_iff h, entry?_eq_some_iff (h.perm hperm)]
  exact hperm.mem_iff

/-- A mapping is loaded key by key. It is accepted when each of its known keys
can make something of its own value; that is then the setting of the key, and
every other setting is the default. Keys that are not known and the order of
the entries do not matter. Two mappings that are accepted are accepted together,
and each sets its own keys; where both set one, the later mapping does. -/
theorem settings_are_loaded_key_by_key [Characters] (source : Text) {entries : List (Value × Value)}
    (honce : KeysOnce entries) :
    (∀ config, (loadValue source (.map entries)).result = .ok config ↔
      ∀ key, match Value.entry? key.name entries with
        | some value => key.load source value = .ok (config.setting key)
        | none => config.setting key = ({} : Config).setting key) ∧
    (loadValue source
        (.map (entries.filter fun entry => (Key.ofValue? entry.1).isSome))).result =
      (loadValue source (.map entries)).result ∧
    (∀ entries', entries.Perm entries' → ∀ config,
      (loadValue source (.map entries)).result = .ok config ↔
        (loadValue source (.map entries')).result = .ok config) ∧
    (∀ more, KeysOnce more →
      ∀ config config', (loadValue source (.map entries)).result = .ok config →
        (loadValue source (.map more)).result = .ok config' →
        ∃ united,
          (loadValue source (.map (Value.ofEntries (entries ++ more)))).result = .ok united ∧
          ∀ key, united.setting key =
            if key ∈ knownKeys more then config'.setting key else config.setting key) := by
  refine ⟨fun config => loadEntries_eq_ok_iff honce, result_loadEntries_known {},
    fun entries' hperm config => ?_, fun more hmore config config' hload hload' => ?_⟩
  · refine (loadEntries_eq_ok_iff honce).trans (Iff.trans ?_
      (loadEntries_eq_ok_iff (honce.perm hperm)).symm)
    refine forall_congr' fun key => ?_
    rw [Takes, entry?_perm key honce hperm, Takes]
  · refine ⟨ofSettings fun key =>
      if key ∈ knownKeys more then config'.setting key else config.setting key, ?_, fun key => by
        rw [setting_ofSettings]⟩
    refine (loadEntries_eq_ok_iff (keysOnce_ofEntries _)).mpr fun key => ?_
    have htakes := (loadEntries_eq_ok_iff honce).mp hload key
    have htakes' := (loadEntries_eq_ok_iff hmore).mp hload' key
    unfold Takes at *
    rw [entry?_ofEntries_append key honce hmore, setting_ofSettings]
    by_cases hkey : key ∈ knownKeys more
    · rw [if_pos hkey]
      cases hvalue : Value.entry? key.name more with
      | none => exact absurd hkey (entry?_eq_none_iff.mp hvalue)
      | some value =>
        rw [hvalue] at htakes'
        exact htakes'
    · rw [if_neg hkey, entry?_eq_none_iff.mpr hkey]
      exact htakes

/-- A threshold, a key that is a number, and a list of rules. -/
def threeEntries : List (Value × Value) := [
  (.str "run_threshold", .int 10), (.int 7, .null),
  (.str "disabled_rules", .list [.str "label_missing", .bool true, .str "label_missing"])]

open scoped Characters

theorem three_entries_load_in_either_order :
    KeysOnce threeEntries ∧ ∃ config,
      (loadValue "<config>" (.map threeEntries)).result = .ok config ∧
        (loadValue "<config>" (.map threeEntries.reverse)).result = .ok config ∧
        config.disabledRules = ["label_missing".toList, "True".toList] ∧
        config.minExclusionRules = 3 := by
  have honce : KeysOnce threeEntries := by decide
  obtain ⟨hloaded, _, horder, _⟩ := settings_are_loaded_key_by_key "<config>" honce
  have hload : (loadValue "<config>" (.map threeEntries)).result = .ok
      { runThreshold := 10, disabledRules := ["label_missing", "True"] } := rfl
  have horder' := (horder threeEntries.reverse (List.reverse_perm _).symm _).mp hload
  exact ⟨honce, _, hload, horder', rfl, (hloaded _).mp hload .minExclusionRules⟩

end Config

end ImageLint
