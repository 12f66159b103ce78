-- What runs in the container has no say in the checks of what runs while the
-- image is built. Two scripts that are built by the same commands are alike
-- to these checks, whatever else stands around the commands.
import ImageLint.Proofs.Families
import ImageLint.Text.Names

namespace ImageLint

/-! ## Families -/

theorem buildLines_filter [Characters] (commands : List Command) (pattern : Text) :
    Facts.buildLines (commands.filter (·.runsAtBuild)) pattern =
      Facts.buildLines commands pattern := by
  unfold Facts.buildLines
  simp only [filterM_guard, List.filter_filter, Bool.and_self]

/-- Families are looked for among the commands that run while the image is
built, and nowhere else. -/
theorem familiesOf_filter [Characters] (commands : List Command) (managers : List PackageManager)
    (families : List (Text × List Nat)) :
    Facts.familiesOf (commands.filter (·.runsAtBuild)) managers families =
      Facts.familiesOf commands managers families := by
  induction managers generalizing families with
  | nil => rfl
  | cons manager rest ih =>
    rw [Facts.familiesOf, Facts.familiesOf, buildLines_filter]
    refine bind_congr fun lines => ?_
    exact ih _

theorem map_families_derive [Characters] (script : BuildScript) (config : Config) :
    (Facts.derive script config).map (·.families) =
      Facts.familiesOf script.buildCommands config.packageManagers [] := by
  unfold BuildScript.buildCommands Facts.derive
  dsimp only
  rw [familiesOf_filter]
  cases Facts.familiesOf script.commands config.packageManagers [] <;> rfl

theorem map_families_congr [Characters] {script script' : BuildScript}
    (h : script.buildCommands = script'.buildCommands) (config : Config) :
    (Facts.derive script config).map (·.families) =
      (Facts.derive script' config).map (·.families) := by
  rw [map_families_derive, map_families_derive, h]

/-! ## Subjects that are built alike -/

/-- The two subjects are built alike: they have the same settings, the same
commands run while the image is built, and the same of these count as calls of
each package manager. -/
structure Subject.BuiltAlike (subject subject' : Subject) : Prop where
  config : subject.config = subject'.config
  commands : subject.facts.commands.filter (·.runsAtBuild) =
    subject'.facts.commands.filter (·.runsAtBuild)
  families : subject.facts.families = subject'.facts.families
  calls : ∀ manager, Rules.callsOf subject.facts manager = Rules.callsOf subject'.facts manager

theorem Subject.BuiltAlike.of_derive [Characters] {lines lines' : List Text} {config : Config}
    {facts facts' : Facts}
    (h : (BuildScript.ofLines lines).buildCommands = (BuildScript.ofLines lines').buildCommands)
    (hfacts : Facts.derive (.ofLines lines) config = .ok facts)
    (hfacts' : Facts.derive (.ofLines lines') config = .ok facts')
    (exclusions exclusions' : Exclusions) :
    Subject.BuiltAlike ⟨.ofLines lines, exclusions, config, facts⟩
      ⟨.ofLines lines', exclusions', config, facts'⟩ where
  config := rfl
  commands := by
    dsimp only
    rw [commands_of_derive hfacts, commands_of_derive hfacts']
    exact h
  families := by
    have hmap := map_families_congr h config
    rw [hfacts, hfacts'] at hmap
    exact Except.ok.inj hmap
  calls := by
    intro manager
    dsimp only
    rw [callsOf_derive hfacts, callsOf_derive hfacts', h]

namespace Rules

variable {subject subject' : Subject}

theorem calledManagers_congr (h : subject.BuiltAlike subject') :
    calledManagers subject = calledManagers subject' := by
  unfold calledManagers Facts.familyLines
  rw [h.config, h.families]

theorem installsOf_congr [Characters] (h : subject.BuiltAlike subject') (manager : PackageManager) :
    installsOf subject.facts manager = installsOf subject'.facts manager := by
  unfold installsOf
  rw [h.calls]

theorem installRecommends_congr [Characters] (h : subject.BuiltAlike subject') :
    installRecommends subject = installRecommends subject' := by
  unfold installRecommends
  simp only [calledManagers_congr h, installsOf_congr h]

theorem updateInstallSplit_congr [Characters] (h : subject.BuiltAlike subject') :
    updateInstallSplit subject = updateInstallSplit subject' := by
  unfold updateInstallSplit
  simp only [calledManagers_congr h, installsOf_congr h, filterM_guard, h.commands]

theorem apkVirtualDeps_congr [Characters] (h : subject.BuiltAlike subject') :
    apkVirtualDeps subject = apkVirtualDeps subject' := by
  unfold apkVirtualDeps
  simp only [calledManagers_congr h, installsOf_congr h, h.config]

theorem tempFileCleanup_congr [Characters] (h : subject.BuiltAlike subject') :
    tempFileCleanup subject = tempFileCleanup subject' := by
  unfold tempFileCleanup
  rw [h.config, h.commands]

end Rules

/-- The checks of what runs while the image is built. The check that caches
are cleaned is not one of them: any command may clean a cache. -/
def buildChecks [Characters] : List Check := [
  Rules.installRecommends,
  Rules.updateInstallSplit,
  Rules.apkVirtualDeps,
  Rules.tempFileCleanup]

theorem buildChecks_congr [Characters] {subject subject' : Subject}
    (h : subject.BuiltAlike subject') :
    ∀ check ∈ buildChecks, check subject = check subject' := by
  unfold buildChecks
  simp only [List.forall_mem_cons]
  exact ⟨Rules.installRecommends_congr h, Rules.updateInstallSplit_congr h,
    Rules.apkVirtualDeps_congr h, Rules.tempFileCleanup_congr h, by simp⟩

/-! ## The law -/

open BuildScript

/-- Two scripts with the same commands that run while the image is built, on
the same lines, have the same families, and each check of these commands finds
the same in both or stops with the same fault. All other directives may differ
in number, place and text, and so may the exclusion files. -/
theorem run_time_directives_leave_build_checks_alone [Characters] (lines lines' : List Text)
    (config : Config) (h : (ofLines lines).commands.filter (·.runsAtBuild) =
      (ofLines lines').commands.filter (·.runsAtBuild)) :
    (Facts.derive (ofLines lines) config).map (·.families) =
      (Facts.derive (ofLines lines') config).map (·.families) ∧
    ∀ check ∈ buildChecks, ∀ exclusions exclusions',
      (Subject.prepare (ofLines lines) exclusions config >>= check) =
        (Subject.prepare (ofLines lines') exclusions' config >>= check) := by
  have hfamilies := map_families_congr h config
  refine ⟨hfamilies, fun check hcheck exclusions exclusions' => ?_⟩
  cases hfacts : Facts.derive (ofLines lines) config with
  | error fault =>
    -- both runs stop before any check
    cases hfacts' : Facts.derive (ofLines lines') config with
    | error fault' =>
      rw [hfacts, hfacts'] at hfamilies
      cases hfamilies
      unfold Subject.prepare
      rw [hfacts, hfacts']
      rfl
    | ok facts' =>
      rw [hfacts, hfacts'] at hfamilies
      cases hfamilies
  | ok facts =>
    cases hfacts' : Facts.derive (ofLines lines') config with
    | error fault' =>
      rw [hfacts, hfacts'] at hfamilies
      cases hfamilies
    | ok facts' =>
      have halike := Subject.BuiltAlike.of_derive h hfacts hfacts' exclusions exclusions'
      unfold Subject.prepare
      rw [hfacts, hfacts']
      exact buildChecks_congr halike check hcheck

open scoped Characters

/-- A removal that runs in the container goes unseen, and so does a download
there: what counts is the download while the image is built. -/
theorem a_removal_in_the_container_goes_unseen :
    (ofLines ["FROM a", "RUN curl b", "CMD rm -rf /tmp/b"]).commands.filter (·.runsAtBuild) =
        (ofLines ["", "RUN curl b", "COPY c d", "HEALTHCHECK CMD curl e"]).commands.filter
          (·.runsAtBuild) ∧
      (Subject.prepare (ofLines ["FROM a", "RUN curl b", "CMD rm -rf /tmp/b"])
          (.classify {} none) {} >>= Rules.tempFileCleanup) =
        (Subject.prepare (ofLines ["", "RUN curl b", "COPY c d", "HEALTHCHECK CMD curl e"])
          (.classify {} none) {} >>= Rules.tempFileCleanup) := by
  have hbuilt : (ofLines ["FROM a", "RUN curl b", "CMD rm -rf /tmp/b"]).commands.filter
        (·.runsAtBuild) =
      (ofLines ["", "RUN curl b", "COPY c d", "HEALTHCHECK CMD curl e"]).commands.filter
        (·.runsAtBuild) := by decide +kernel
  exact ⟨hbuilt, (run_time_directives_leave_build_checks_alone _ _ {} hbuilt).2
    Rules.tempFileCleanup (by simp [buildChecks]) _ _⟩

end ImageLint
