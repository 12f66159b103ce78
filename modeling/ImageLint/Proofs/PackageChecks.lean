-- What the checks of package managers report. Where the names of the package
-- managers are all different, each check looks at one family after the other
-- and reports it, at most once, for what its own commands do.
import ImageLint.Proofs.Families
import ImageLint.Proofs.Locations
import ImageLint.Text.Names

namespace ImageLint

open BuildScript Rules

/-! ## The commands of a family -/

namespace PackageManager

/-- Those of the commands that call the package manager and install. -/
def installs [Characters] (manager : PackageManager) (commands : List Command) : List Command :=
  (manager.calls commands).filter fun c => Pattern.finds manager.install c.text

/-- Those of the commands that refresh the package index. They need not call
the package manager otherwise. -/
def updates [Characters] (manager : PackageManager) (commands : List Command) : List Command :=
  commands.filter fun c => (given manager.update).any (Pattern.finds · c.text)

/-- The installing commands that lack the flag for leaving out recommended
packages, where there is such a flag. -/
def lacking [Characters] (manager : PackageManager) (commands : List Command) : List Command :=
  (manager.installs commands).filter fun c =>
    (given manager.noRecommends).any fun flag => !Text.holds flag c.text

end PackageManager

variable {lines : List Text} {exclusions : Exclusions} {config : Config} {subject : Subject}
  {manager : PackageManager}

/-- The commands of the subject are those of the script, and each family has
its own. -/
structure Subject.OwnFamilies [Characters] (subject : Subject) (lines : List Text) : Prop where
  commands : subject.facts.commands = (ofLines lines).commands
  called : ∀ manager ∈ subject.config.packageManagers,
    manager ∈ calledManagers subject ↔ manager.calls (ofLines lines).buildCommands ≠ []
  calls : ∀ manager ∈ subject.config.packageManagers,
    callsOf subject.facts manager = manager.calls (ofLines lines).buildCommands

theorem Subject.OwnFamilies.of_prepare [Characters]
    (hnames : (config.packageManagers.map (·.name)).Nodup)
    (h : Subject.prepare (ofLines lines) exclusions config = .ok subject) :
    subject.OwnFamilies lines := by
  obtain ⟨facts, hfacts, heq⟩ := bind_eq_ok_iff.mp h
  cases heq
  refine ⟨commands_of_derive hfacts, fun manager hmem => ?_, fun manager hmem =>
    callsOf_of_nodup hnames hfacts hmem⟩
  have hlines := familyLines_eq_nil_iff hnames hfacts hmem
  simp only [calledManagers, List.mem_filter, hmem, true_and, Bool.not_eq_true',
    List.isEmpty_eq_false_iff, ne_eq, hlines]

namespace Subject.OwnFamilies

theorem installs [Characters] (h : subject.OwnFamilies lines)
    (hmem : manager ∈ subject.config.packageManagers)
    {installs : List Command} (hinstalls : installsOf subject.facts manager = .ok installs) :
    installs = manager.installs (ofLines lines).buildCommands := by
  rw [filter_finds_of_filterM hinstalls, h.calls manager hmem]
  rfl

theorem updates [Characters] (h : subject.OwnFamilies lines) {pattern : Text}
    (hpattern : given manager.update = some pattern) {updates : List Command}
    (hupdates : (subject.facts.commands.filterM fun c =>
      if c.runsAtBuild then Pattern.search pattern c.text else pure false) = .ok updates) :
    updates = manager.updates (ofLines lines).buildCommands := by
  rw [filterM_guard, h.commands] at hupdates
  rw [filter_finds_of_filterM hupdates]
  unfold PackageManager.updates
  rw [hpattern]
  rfl

theorem cleansCache [Characters] (h : subject.OwnFamilies lines) {cleaned : Bool}
    (hcleaned : Rules.cleansCache subject.facts manager = .ok cleaned) :
    cleaned = true ↔ ∃ pattern ∈ manager.cleanup, ∃ c ∈ (ofLines lines).commands,
      Pattern.finds pattern c.text = true := by
  unfold Rules.cleansCache at hcleaned
  rw [h.commands] at hcleaned
  cases cleaned with
  | true =>
    obtain ⟨pattern, hpattern, hsome⟩ := exists_of_anyM_eq_true hcleaned
    obtain ⟨c, hc, hfound⟩ := exists_of_anyM_eq_true hsome
    exact iff_of_true rfl ⟨pattern, hpattern, c, hc, Pattern.finds_of_search hfound⟩
  | false =>
    refine iff_of_false (by simp) ?_
    rintro ⟨pattern, hpattern, c, hc, hfinds⟩
    have hnone := forall_of_anyM_eq_false (forall_of_anyM_eq_false hcleaned pattern hpattern) c hc
    rw [Pattern.finds_of_search hnone] at hfinds
    cases hfinds

end Subject.OwnFamilies

/-! ## One family after the other -/

/-- One step: a family is reported once when it is at fault, and not at all
otherwise. -/
def ReportsOnce (atFault : Prop) (about : Finding → Prop) (found : List Finding) : Prop :=
  (atFault ∧ ∃ f, found = [f] ∧ about f) ∨ (¬ atFault ∧ found = [])

theorem reportsOnce_nil {atFault : Prop} {about : Finding → Prop} (h : ¬ atFault) :
    ReportsOnce atFault about [] := .inr ⟨h, rfl⟩

theorem reportsOnce_one {atFault : Prop} {about : Finding → Prop} {f : Finding} (h : atFault)
    (habout : about f) : ReportsOnce atFault about [f] := .inl ⟨h, f, rfl, habout⟩

/-- A whole run: the findings are about the families at fault, in order. -/
theorem forall₂_of_forEach {managers : List PackageManager}
    {check : PackageManager → Except Pattern.Fault (List Finding)} {found : List Finding}
    {atFault : PackageManager → Prop} [DecidablePred atFault]
    {about : PackageManager → Finding → Prop}
    (hstep : ∀ m ∈ managers, ∀ reported, check m = .ok reported →
      ReportsOnce (atFault m) (about m) reported)
    (h : forEach managers check = .ok found) :
    List.Forall₂ about (managers.filter fun m => atFault m) found := by
  obtain ⟨lists, hlists, heq⟩ := bind_eq_ok_iff.mp h
  cases heq
  clear h
  induction managers generalizing lists with
  | nil =>
    cases hlists
    exact .nil
  | cons m rest ih =>
    rw [List.mapM_cons] at hlists
    obtain ⟨reported, hreported, hlists⟩ := bind_eq_ok_iff.mp hlists
    obtain ⟨more, hmore, hlists⟩ := bind_eq_ok_iff.mp hlists
    cases hlists
    obtain ⟨hown, hlater⟩ := List.forall_mem_cons.mp hstep
    have hrest := ih hlater more hmore
    rcases hown reported hreported with ⟨hfault, f, rfl, habout⟩ | ⟨hfault, rfl⟩
    · rw [List.filter_cons_of_pos (by simpa using hfault)]
      exact .cons habout hrest
    · rw [List.filter_cons_of_neg (by simpa using hfault)]
      exact hrest

/-- A family that is at fault only when it is called is not missed when the
families that are not called are passed over. -/
theorem filter_calledManagers [Characters] (h : subject.OwnFamilies lines)
    {atFault : PackageManager → Prop} [DecidablePred atFault]
    (hcalled : ∀ m, atFault m → m.calls (ofLines lines).buildCommands ≠ []) :
    (calledManagers subject).filter (fun m => atFault m) =
      subject.config.packageManagers.filter fun m => atFault m := by
  unfold calledManagers
  rw [List.filter_filter]
  refine List.filter_congr fun m hm => ?_
  by_cases hfault : atFault m
  · have hmem := (h.called m hm).mpr (hcalled m hfault)
    have hkept := (List.mem_filter.mp hmem).2
    simp only [hfault, hkept, decide_true, Bool.and_self]
  · simp [hfault]

theorem calls_of_installs [Characters] {commands : List Command}
    (h : manager.installs commands ≠ []) :
    manager.calls commands ≠ [] := by
  intro hnone
  apply h
  unfold PackageManager.installs
  rw [hnone]
  rfl

/-! ## The checks -/

/-- The finding is a warning of the rule that names the package manager. -/
structure WarnsOf (ruleId : Text) (manager : PackageManager) (f : Finding) : Prop where
  ruleId_eq : f.ruleId = ruleId
  severity_eq : f.severity = .warning
  passed_eq : f.passed = false
  named : manager.name <+: f.message

/-- The package manager has a flag for leaving out recommended packages, and
one of its installs lacks it. -/
def LacksFlag [Characters] (commands : List Command) (manager : PackageManager) : Prop :=
  ∃ flag ∈ given manager.noRecommends,
    ∃ c ∈ manager.installs commands, Text.holds flag c.text = false

/-- The package manager is called and has a pattern for refreshing the index;
it does refresh it and does install, and no command does both. -/
def SplitsUpdate [Characters] (commands : List Command) (manager : PackageManager) : Prop :=
  manager.calls commands ≠ [] ∧ given manager.update ≠ none ∧ manager.updates commands ≠ [] ∧
    manager.installs commands ≠ [] ∧ ∀ c ∈ manager.updates commands, c ∉ manager.installs commands

/-- The package manager installs, and no command of the script cleans up. -/
def LeavesCache [Characters] (script : BuildScript) (manager : PackageManager) : Prop :=
  manager.installs script.buildCommands ≠ [] ∧
    ∀ pattern ∈ manager.cleanup, ∀ c ∈ script.commands, Pattern.finds pattern c.text = false

instance [Characters] (commands : List Command) : DecidablePred (LacksFlag commands)
    := fun manager =>
  inferInstanceAs (Decidable (∃ flag ∈ given manager.noRecommends,
    ∃ c ∈ manager.installs commands, Text.holds flag c.text = false))

instance [Characters] (commands : List Command) : DecidablePred (SplitsUpdate commands)
    := fun manager =>
  inferInstanceAs (Decidable (manager.calls commands ≠ [] ∧ given manager.update ≠ none ∧
    manager.updates commands ≠ [] ∧ manager.installs commands ≠ [] ∧
    ∀ c ∈ manager.updates commands, c ∉ manager.installs commands))

instance [Characters] (script : BuildScript) : DecidablePred (LeavesCache script) := fun manager =>
  inferInstanceAs (Decidable (manager.installs script.buildCommands ≠ [] ∧
    ∀ pattern ∈ manager.cleanup, ∀ c ∈ script.commands, Pattern.finds pattern c.text = false))

theorem lacksFlag_iff [Characters] {commands : List Command} :
    LacksFlag commands manager ↔ manager.lacking commands ≠ [] := by
  unfold LacksFlag PackageManager.lacking
  cases given manager.noRecommends with
  | none => simp
  | some flag => simp

namespace Rules

theorem installRecommends_reports [Characters] (h : subject.OwnFamilies lines)
    {found : List Finding} (hfound : installRecommends subject = .ok found) :
    List.Forall₂ (fun m f => WarnsOf "install_recommends" m f ∧
        f.lines = Finding.refs ((m.lacking (ofLines lines).buildCommands).map (·.line)))
      (subject.config.packageManagers.filter fun m => LacksFlag (ofLines lines).buildCommands m)
      found := by
  rw [← filter_calledManagers h fun m hm => ?called]
  case called =>
    obtain ⟨flag, _, c, hc, _⟩ := hm
    exact calls_of_installs (List.ne_nil_of_mem hc)
  refine forall₂_of_forEach (fun m hm reported hreported => ?_) hfound
  have hmem := List.mem_of_mem_filter hm
  cases hflag : given m.noRecommends with
  | none =>
    rw [hflag] at hreported
    cases hreported
    refine reportsOnce_nil fun hlacks => ?_
    obtain ⟨flag, hgiven, _⟩ := hlacks
    rw [hflag] at hgiven
    cases hgiven
  | some flag =>
    rw [hflag] at hreported
    obtain ⟨installs, hinstalls, hreported⟩ := bind_eq_ok_iff.mp hreported
    have hoffending : installs.filter (fun c => !Text.holds flag c.text) =
        m.lacking (ofLines lines).buildCommands := by
      unfold PackageManager.lacking
      rw [h.installs hmem hinstalls, hflag]
      rfl
    dsimp only at hreported
    rw [hoffending] at hreported
    by_cases hnone : m.lacking (ofLines lines).buildCommands = []
    · rw [hnone] at hreported
      cases hreported
      exact reportsOnce_nil fun hlacks => lacksFlag_iff.mp hlacks hnone
    · rw [if_neg (by simpa using hnone)] at hreported
      cases hreported
      refine reportsOnce_one (lacksFlag_iff.mpr hnone) ⟨⟨rfl, rfl, rfl, ?_⟩, rfl⟩
      simp only [List.append_assoc, List.prefix_append]

theorem mem_ascending (lines : List Nat) (n : Nat) : n ∈ ascending lines ↔ n ∈ lines :=
  (List.mergeSort_perm lines.eraseDups _).mem_iff.trans List.mem_eraseDups

/-- Lines of commands that run while the image is built, in ascending order. -/
theorem ascending_increasing (lines : List Text) {commands : List Command}
    (h : commands ⊆ (ofLines lines).buildCommands) :
    (ascending (commands.map (·.line))).Pairwise (· < ·) := by
  have hincreasing := (ofLines_regular lines).directiveLines_increasing
  refine hincreasing.sublist (ascending_sublist hincreasing ?_)
  rw [← commands_map_line]
  exact List.map_subset _ (List.Subset.trans h List.filter_sublist.subset)

theorem updateInstallSplit_reports [Characters] (h : subject.OwnFamilies lines)
    {found : List Finding} (hfound : updateInstallSplit subject = .ok found) :
    List.Forall₂ (fun m f => WarnsOf "update_install_split" m f ∧
        ∃ refs, f.lines = Finding.refs refs ∧ refs.Pairwise (· < ·) ∧
          ∀ n, n ∈ refs ↔ ∃ c ∈ m.updates (ofLines lines).buildCommands ++
            m.installs (ofLines lines).buildCommands, c.line = n)
      (subject.config.packageManagers.filter fun m => SplitsUpdate (ofLines lines).buildCommands m)
      found := by
  rw [← filter_calledManagers h fun m hm => hm.1]
  refine forall₂_of_forEach (fun m hm reported hreported => ?_) hfound
  have hmem := List.mem_of_mem_filter hm
  have hcalled := (h.called m hmem).mp hm
  cases hpattern : given m.update with
  | none =>
    rw [hpattern] at hreported
    cases hreported
    exact reportsOnce_nil fun hsplits => hsplits.2.1 hpattern
  | some pattern =>
    rw [hpattern] at hreported
    obtain ⟨updates, hupdates, hreported⟩ := bind_eq_ok_iff.mp hreported
    obtain ⟨installs, hinstalls, hreported⟩ := bind_eq_ok_iff.mp hreported
    rw [h.updates hpattern hupdates, h.installs hmem hinstalls] at hreported
    by_cases hnone : m.updates (ofLines lines).buildCommands = [] ∨
        m.installs (ofLines lines).buildCommands = []
    · rw [if_pos (by simpa using hnone)] at hreported
      cases hreported
      refine reportsOnce_nil fun hsplits => ?_
      rcases hnone with hupdate | hinstall
      · exact hsplits.2.2.1 hupdate
      · exact hsplits.2.2.2.1 hinstall
    rw [if_neg (by simpa using hnone)] at hreported
    by_cases hshared : ∃ c ∈ m.updates (ofLines lines).buildCommands,
        c ∈ m.installs (ofLines lines).buildCommands
    · rw [if_pos (by simpa using hshared)] at hreported
      cases hreported
      refine reportsOnce_nil fun hsplits => ?_
      obtain ⟨c, hupdate, hinstall⟩ := hshared
      exact hsplits.2.2.2.2 c hupdate hinstall
    · rw [if_neg (by simpa using hshared)] at hreported
      cases hreported
      rw [not_or] at hnone
      refine reportsOnce_one ⟨hcalled, by simp [hpattern], hnone.1, hnone.2, fun c hu hi =>
        hshared ⟨c, hu, hi⟩⟩ ⟨⟨rfl, rfl, rfl, List.prefix_append _ _⟩, _, rfl, ?_, fun n => ?_⟩
      · refine ascending_increasing lines (List.append_subset.mpr ⟨?_, ?_⟩)
        · exact List.filter_sublist.subset
        · exact (List.filter_sublist.trans List.filter_sublist).subset
      · exact (mem_ascending _ n).trans List.mem_map

theorem packageCacheCleanup_reports [Characters] (h : subject.OwnFamilies lines)
    {found : List Finding}
    (hfound : packageCacheCleanup subject = .ok found) (hcalled : calledManagers subject ≠ []) :
    List.Forall₂ (fun m f => WarnsOf "package_cache_cleanup" m f ∧
        f.lines = Finding.refs ((m.installs (ofLines lines).buildCommands).map (·.line)))
      (subject.config.packageManagers.filter fun m => LeavesCache (ofLines lines) m) found := by
  unfold packageCacheCleanup at hfound
  rw [if_neg (by simpa using hcalled)] at hfound
  rw [← filter_calledManagers h fun m hm => calls_of_installs hm.1]
  refine forall₂_of_forEach (fun m hm reported hreported => ?_) hfound
  have hmem := List.mem_of_mem_filter hm
  obtain ⟨installs, hinstalls, hreported⟩ := bind_eq_ok_iff.mp hreported
  rw [h.installs hmem hinstalls] at hreported
  by_cases hnone : m.installs (ofLines lines).buildCommands = []
  · rw [if_pos (by simpa using hnone)] at hreported
    cases hreported
    exact reportsOnce_nil fun hleaves => hleaves.1 hnone
  rw [if_neg (by simpa using hnone)] at hreported
  obtain ⟨cleaned, hcleaned, hreported⟩ := bind_eq_ok_iff.mp hreported
  have hcleans := h.cleansCache hcleaned
  cases cleaned with
  | true =>
    cases hreported
    obtain ⟨pattern, hpattern, c, hc, hfinds⟩ := hcleans.mp rfl
    refine reportsOnce_nil fun hleaves => ?_
    rw [hleaves.2 pattern hpattern c hc] at hfinds
    cases hfinds
  | false =>
    cases hreported
    refine reportsOnce_one ⟨hnone, fun pattern hpattern c hc => ?_⟩
      ⟨⟨rfl, rfl, rfl, List.prefix_append _ _⟩, rfl⟩
    by_contra hfinds
    exact absurd (hcleans.mpr ⟨pattern, hpattern, c, hc, by simpa using hfinds⟩) (by simp)

end Rules

/-! ## The law -/

/-- Where the patterns of the package managers can be read, the checks of
package managers come to an end. -/
def PackageChecksReturn [Characters] (lines : List Text) (exclusions : Exclusions)
    (config : Config) : Prop :=
  (∀ manager ∈ config.packageManagers, manager.Checked) →
    ∃ subject, Subject.prepare (ofLines lines) exclusions config = .ok subject ∧
      ∀ check ∈ [installRecommends, updateInstallSplit, packageCacheCleanup],
        ∃ found, check subject = .ok found

theorem package_checks_return [Characters] (lines : List Text) (exclusions : Exclusions)
    (config : Config) : PackageChecksReturn lines exclusions config := by
  intro hchecked
  have hderive : FailsOnly (fun _ => False) (Facts.derive (ofLines lines) config) :=
    failsOnly_bind (failsOnly_familiesOf _ hchecked _) fun _ => failsOnly_pure _
  obtain ⟨facts, hfacts⟩ := exists_ok_of_failsOnly hderive
  refine ⟨⟨ofLines lines, exclusions, config, facts⟩, bind_eq_ok_iff.mpr ⟨facts, hfacts, rfl⟩, ?_⟩
  -- the checks are the same with all other settings at their defaults
  let plain : Subject :=
    ⟨ofLines lines, exclusions, { packageManagers := config.packageManagers }, facts⟩
  have hplain : plain.config.Checked [] :=
    { Config.checked_default [] with packageManagers := hchecked }
  have hrecommends : ∃ found, installRecommends plain = .ok found :=
    exists_ok_of_failsOnly (failsOnly_installRecommends hplain)
  have hsplit : ∃ found, updateInstallSplit plain = .ok found :=
    exists_ok_of_failsOnly (failsOnly_updateInstallSplit hplain)
  have hcleanup : ∃ found, packageCacheCleanup plain = .ok found :=
    exists_ok_of_failsOnly (failsOnly_packageCacheCleanup hplain)
  simp only [List.forall_mem_cons]
  exact ⟨hrecommends, hsplit, hcleanup, by simp⟩

/-- Where the names of the package managers are all different, a package
manager is called exactly when its pattern finds a command that runs while the
image is built, and each check goes through the package managers in the order
of the settings and has one finding for each that is at fault:
- one of its installs lacks the flag against recommended packages, with the
  lines of the installs that do;
- it is called, refreshes its index and installs, but never in one command,
  with the lines of both in ascending order;
- it installs, and no command at all cleans up, with the lines of its installs,
  or, where none is called, a note in place of all findings.
With patterns that can be read, the checks do come to an end. -/
theorem package_checks_report_family_by_family [Characters] (lines : List Text)
    (exclusions : Exclusions) (config : Config)
    (hnames : (config.packageManagers.map (·.name)).Nodup) :
    PackageChecksReturn lines exclusions config ∧
    ∀ subject, Subject.prepare (ofLines lines) exclusions config = .ok subject →
      (∀ manager ∈ config.packageManagers, manager ∈ calledManagers subject ↔
        ∃ c ∈ (ofLines lines).buildCommands, Pattern.finds manager.detect c.text = true) ∧
      (∀ found, installRecommends subject = .ok found →
        List.Forall₂ (fun m f => WarnsOf "install_recommends" m f ∧
            f.lines = Finding.refs ((m.lacking (ofLines lines).buildCommands).map (·.line)))
          (config.packageManagers.filter fun m => LacksFlag (ofLines lines).buildCommands m)
          found) ∧
      (∀ found, updateInstallSplit subject = .ok found →
        List.Forall₂ (fun m f => WarnsOf "update_install_split" m f ∧
            ∃ refs, f.lines = Finding.refs refs ∧ refs.Pairwise (· < ·) ∧
              ∀ n, n ∈ refs ↔ ∃ c ∈ m.updates (ofLines lines).buildCommands ++
                m.installs (ofLines lines).buildCommands, c.line = n)
          (config.packageManagers.filter fun m => SplitsUpdate (ofLines lines).buildCommands m)
          found) ∧
      ∀ found, packageCacheCleanup subject = .ok found →
        (calledManagers subject = [] → found =
          [.pass "package_cache_cleanup" 3 "No package manager operations detected."]) ∧
        (calledManagers subject ≠ [] →
          List.Forall₂ (fun m f => WarnsOf "package_cache_cleanup" m f ∧
              f.lines = Finding.refs ((m.installs (ofLines lines).buildCommands).map (·.line)))
            (config.packageManagers.filter fun m => LeavesCache (ofLines lines) m) found) := by
  refine ⟨package_checks_return lines exclusions config, fun subject hsubject => ?_⟩
  have hown := Subject.OwnFamilies.of_prepare hnames hsubject
  obtain rfl := config_of_prepare hsubject
  refine ⟨fun manager hmem => ?_, fun found => installRecommends_reports hown,
    fun found => updateInstallSplit_reports hown, fun found hfound => ⟨fun hnone => ?_,
    packageCacheCleanup_reports hown hfound⟩⟩
  · rw [hown.called manager hmem]
    unfold PackageManager.calls
    simp [List.filter_eq_nil_iff]
  · unfold packageCacheCleanup at hfound
    rw [hnone] at hfound
    cases hfound
    rfl

/-- Two package managers install, and nothing cleans up. -/
def twoInstalls : List Text := ["RUN apt-get update", "RUN apt-get install a", "RUN yum install b"]

open scoped Characters

/-- Two package managers that leave their caches are reported one after the
other, each with the lines of its own installs. -/
theorem each_family_answers_for_its_own_installs :
    ∃ subject found, Subject.prepare (ofLines twoInstalls) (.classify {} none) {} = .ok subject ∧
      packageCacheCleanup subject = .ok found ∧
      List.Forall₂ (fun m f => WarnsOf "package_cache_cleanup" m f ∧
          f.lines = Finding.refs ((m.installs (ofLines twoInstalls).buildCommands).map (·.line)))
        (({} : Config).packageManagers.filter fun m => LeavesCache (ofLines twoInstalls) m) found ∧
      (({} : Config).packageManagers.filter fun m => LeavesCache (ofLines twoInstalls) m).map
          (fun m => (m.name, (m.installs (ofLines twoInstalls).buildCommands).map (·.line))) =
        [("apt".toList, [2]), ("yum".toList, [3])] := by
  obtain ⟨hends, hlaw⟩ := package_checks_report_family_by_family twoInstalls (.classify {} none) {}
    (by decide)
  obtain ⟨subject, hsubject, hreturn⟩ := hends (Config.checked_default []).packageManagers
  obtain ⟨found, hfound⟩ := hreturn packageCacheCleanup (by simp)
  obtain ⟨hcalled, _, _, hcleanup⟩ := hlaw subject hsubject
  refine ⟨subject, found, hsubject, hfound, (hcleanup found hfound).2 fun hnone => ?_,
    by decide +kernel⟩
  have happt := (hcalled _ List.mem_cons_self).mpr (by decide +kernel)
  rw [hnone] at happt
  cases happt

end ImageLint
