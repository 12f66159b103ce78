-- Every text that a rule searches with was read as a pattern when the settings
-- were loaded, or is one of the defaults. Loading takes one key after the
-- other, and each key leaves settings that are checked.
import ImageLint.Proofs.Loading
import ImageLint.Proofs.PatternNesting

namespace ImageLint

open Yaml (Value)
open Pattern (Readable)

variable [Characters]

/-! ## Checked settings -/

/-- All patterns of a package manager can be read. -/
structure PackageManager.Checked (manager : PackageManager) : Prop where
  detect : Readable manager.detect
  install : Readable manager.install
  update : ∀ pattern ∈ manager.update, Readable pattern
  cleanup : ∀ pattern ∈ manager.cleanup, Readable pattern

/-- The pattern of a declared rule can be read, and its severity is the one
that an item of the configuration names. -/
structure CustomRule.Checked (entries : List (Value × Value)) (rule : CustomRule) : Prop where
  pattern : Readable rule.pattern
  severity : ∃ entry ∈ entries, Config.Key.ofValue? entry.1 = some .customRules ∧
    ∃ item ∈ Config.itemsOf entry.2,
      Severity.ofName? (Config.severityNameOf item) = some rule.severity

/-- All patterns of the settings can be read, and all severities are named in
the entries they were loaded from. -/
structure Config.Checked (entries : List (Value × Value)) (config : Config) : Prop where
  packageManagers : ∀ manager ∈ config.packageManagers, manager.Checked
  heavyDistributions : ∀ entry ∈ config.heavyDistributions, Readable entry.2
  apkBuildDeps : Readable config.apkBuildDeps
  tempCleanupPatterns : ∀ pattern ∈ config.tempCleanupPatterns, Readable pattern
  buildToolPatterns : ∀ pattern ∈ config.buildToolPatterns, Readable pattern
  customRules : ∀ rule ∈ config.customRules, rule.Checked entries

theorem PackageManager.checked_of_unnamed {manager : PackageManager}
    (h : ∀ pattern ∈ [manager.detect, manager.install] ++ manager.update.toList ++ manager.cleanup,
      (Pattern.readNaming (fun _ => none) pattern).isOk = true) : manager.Checked where
  detect := Pattern.readable_of_unnamed (h _ (by simp))
  install := Pattern.readable_of_unnamed (h _ (by simp))
  update pattern hpattern := Pattern.readable_of_unnamed (h pattern (by simp_all))
  cleanup pattern hpattern := Pattern.readable_of_unnamed (h pattern (by simp_all))

/-- The default settings are checked: none of their patterns names a character. -/
theorem Config.checked_default (entries : List (Value × Value)) : Config.Checked entries {} where
  packageManagers := by
    simp only [List.forall_mem_cons]
    refine ⟨?_, ?_, ?_, ?_, by simp⟩
    all_goals exact PackageManager.checked_of_unnamed (by decide +kernel)
  heavyDistributions := by
    have h : ∀ entry ∈ ({} : Config).heavyDistributions,
        (Pattern.readNaming (fun _ => none) entry.2).isOk = true := by decide +kernel
    exact fun entry hentry => Pattern.readable_of_unnamed (h entry hentry)
  apkBuildDeps := Pattern.readable_of_unnamed (by decide +kernel)
  tempCleanupPatterns := by
    have h : ∀ pattern ∈ ({} : Config).tempCleanupPatterns,
        (Pattern.readNaming (fun _ => none) pattern).isOk = true := by decide +kernel
    exact fun pattern hpattern => Pattern.readable_of_unnamed (h pattern hpattern)
  buildToolPatterns := by
    have h : ∀ pattern ∈ ({} : Config).buildToolPatterns,
        (Pattern.readNaming (fun _ => none) pattern).isOk = true := by decide +kernel
    exact fun pattern hpattern => Pattern.readable_of_unnamed (h pattern hpattern)
  customRules := by simp

namespace Config

variable {source : Text}

/-! ## Checks -/

theorem readable_of_checkPattern {key pattern : Text} {u : Unit}
    (h : checkPattern source key pattern = .ok u) : Readable pattern := by
  unfold checkPattern at h
  cases hread : Pattern.read pattern with
  | ok read => exact ⟨read, hread⟩
  | error fault =>
    rw [hread] at h
    dsimp only at h
    split at h
    · cases h
    · cases h

theorem readable_of_checkPatterns {α : Type} {key : Text} {text : α → Text} {items : List α}
    {u : PUnit} (h : items.forM (fun a => checkPattern source key (text a)) = .ok u) :
    ∀ a ∈ items, Readable (text a) := by
  induction items with
  | nil => simp
  | cons a items ih =>
    obtain ⟨_, hfirst, hrest⟩ := bind_eq_ok_iff.mp h
    rw [List.forall_mem_cons]
    exact ⟨readable_of_checkPattern hfirst, ih hrest⟩

theorem readable_loadPatterns {key : Text} {value : Value} {patterns : List Text}
    (h : loadPatterns source key value = .ok patterns) : ∀ p ∈ patterns, Readable p := by
  obtain ⟨texts, _, h⟩ := bind_eq_ok_iff.mp h
  obtain ⟨_, hcheck, h⟩ := bind_eq_ok_iff.mp h
  cases h
  exact readable_of_checkPatterns hcheck

/-- An empty text goes unchecked, but it can be read. -/
theorem readable_nil : Readable [] := Pattern.readable_of_unnamed (by decide +kernel)

theorem readable_of_checkGiven {key : Text} {patterns : List Text} {u : PUnit}
    (h : (patterns.filter (!·.isEmpty)).forM (checkPattern source key) = .ok u) :
    ∀ p ∈ patterns, Readable p := by
  intro p hp
  cases p with
  | nil => exact readable_nil
  | cons c rest =>
    refine readable_of_checkPatterns h (c :: rest) ?_
    rw [List.mem_filter]
    exact ⟨hp, rfl⟩

/-! ## Loaders -/

theorem checked_loadFamily {name settings : Value} {manager : PackageManager}
    (h : loadFamily source name settings = .ok manager) : manager.Checked := by
  obtain ⟨_, hcheck⟩ := checks_of_loadFamily h
  have hread := readable_of_checkGiven hcheck
  simp only [List.forall_mem_append, List.forall_mem_cons] at hread
  obtain ⟨⟨⟨hdetect, hinstall, _⟩, hupdate⟩, hcleanup⟩ := hread
  exact ⟨hdetect, hinstall, by simpa using hupdate, hcleanup⟩

theorem checked_loadFamilies {value : Value} {managers : List PackageManager}
    (h : loadFamilies source value = .ok managers) : ∀ manager ∈ managers, manager.Checked := by
  intro manager hmanager
  cases value with
  | map entries =>
    obtain ⟨entry, _, hload⟩ := exists_of_mem_mapM h hmanager
    exact checked_loadFamily hload
  | _ => cases h

theorem checked_loadRules {value : Value} {rules : List CustomRule}
    (h : loadRules source value = .ok rules) : ∀ rule ∈ rules, Readable rule.pattern ∧
      ∃ item ∈ itemsOf value, Severity.ofName? (severityNameOf item) = some rule.severity := by
  intro rule hrule
  cases value with
  | list items =>
    obtain ⟨item, hitem, hload⟩ := exists_of_mem_mapM h hrule
    have hloaded := ruleLoaded hload
    obtain ⟨_, hcheck⟩ := hloaded.pattern
    exact ⟨readable_of_checkPattern hcheck, item, hitem, hloaded.severity⟩
  | _ => cases h

/-! ## Keys and entries -/

variable {entries : List (Value × Value)} {config loaded : Config}

/-- A key that is loaded leaves checked settings. -/
theorem Checked.loadKey (hchecked : config.Checked entries) {name value : Value} {key : Key}
    (hentry : (name, value) ∈ entries) (hkey : Key.ofValue? name = some key)
    (h : loadKey source config key value = .ok loaded) : loaded.Checked entries := by
  cases key with
  | runThreshold | minExclusionRules | criticalExclusions | advisoryExclusions
  | lightweightMarkers | treatUntaggedAsLatest | fetchIndicators | unnecessaryCopyPatterns
  | disabledRules =>
    -- No rule searches with the texts of these keys.
    obtain ⟨_, _, h⟩ := bind_eq_ok_iff.mp h
    cases h
    exact { hchecked with }
  | heavyDistributions =>
    obtain ⟨catalog, _, h⟩ := bind_eq_ok_iff.mp h
    obtain ⟨_, hcheck, h⟩ := bind_eq_ok_iff.mp h
    cases h
    exact { hchecked with heavyDistributions := readable_of_checkPatterns hcheck }
  | packageManagers =>
    obtain ⟨managers, hload, h⟩ := bind_eq_ok_iff.mp h
    cases h
    exact { hchecked with packageManagers := checked_loadFamilies hload }
  | apkBuildDeps =>
    obtain ⟨pattern, _, h⟩ := bind_eq_ok_iff.mp h
    obtain ⟨_, hcheck, h⟩ := bind_eq_ok_iff.mp h
    cases h
    exact { hchecked with apkBuildDeps := readable_of_checkPattern hcheck }
  | tempCleanupPatterns =>
    obtain ⟨patterns, hload, h⟩ := bind_eq_ok_iff.mp h
    cases h
    exact { hchecked with tempCleanupPatterns := readable_loadPatterns hload }
  | buildToolPatterns =>
    obtain ⟨patterns, hload, h⟩ := bind_eq_ok_iff.mp h
    cases h
    exact { hchecked with buildToolPatterns := readable_loadPatterns hload }
  | customRules =>
    obtain ⟨rules, hload, h⟩ := bind_eq_ok_iff.mp h
    cases h
    refine { hchecked with customRules := fun rule hrule => ?_ }
    obtain ⟨hpattern, hseverity⟩ := checked_loadRules hload rule hrule
    exact ⟨hpattern, (name, value), hentry, hkey, hseverity⟩

/-- Settings stay checked however many entries are loaded. -/
theorem Checked.loadEntries {rest : List (Value × Value)} (hchecked : config.Checked entries)
    (hrest : rest ⊆ entries) (h : (loadEntries source config rest).result = .ok loaded) :
    loaded.Checked entries := by
  induction rest generalizing config with
  | nil =>
    cases h
    exact hchecked
  | cons entry rest ih =>
    obtain ⟨name, value⟩ := entry
    rw [List.cons_subset] at hrest
    rw [result_loadEntries_cons] at h
    cases hname : Key.ofValue? name with
    | none =>
      rw [hname] at h
      exact ih hchecked hrest.2 h
    | some key =>
      rw [hname] at h
      obtain ⟨next, hkey, h⟩ := bind_eq_ok_iff.mp h
      exact ih (hchecked.loadKey hrest.1 hname hkey) hrest.2 h

theorem checked_of_loadValue {value : Value}
    (h : (loadValue source value).result = .ok config) : config.Checked (entriesOf value) := by
  cases value with
  | map entries => exact (checked_default entries).loadEntries (List.Subset.refl entries) h
  | _ => cases h

end Config

end ImageLint
