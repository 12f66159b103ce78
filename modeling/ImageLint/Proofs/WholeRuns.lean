-- How a whole run ends. The exit status is zero or two only after an analysis
-- without errors whose report is printed: whatever cannot be looked up, loaded,
-- read, analysed or printed ends in one, and then nothing is printed.
import ImageLint.Run
import ImageLint.Proofs.ExitStatus
import ImageLint.Proofs.MachineReport
import ImageLint.Proofs.ReadFiles
import ImageLint.Report.Ansi
import ImageLint.Yaml.Document

namespace ImageLint

namespace Run

/-! ## Steps and the log -/

section

variable {ε α β : Type}

/-- The step ends with the result, whatever the log holds. -/
def Ends (step : Session α) (result : Except Stop α) : Prop :=
  ∀ records, (step.run.run records).1 = result

theorem ends_pure (a : α) : Ends (pure a) (.ok a) := fun _ => rfl

theorem ends_log (level part message : Text) : Ends (log level part message) (.ok ()) :=
  fun _ => rfl

theorem ends_orStop (stop : ε → Stop) (result : Except ε α) :
    Ends (orStop stop result) (result.mapError stop) := by
  cases result <;> exact fun _ => rfl

theorem run_bind (step : Session α) (next : α → Session β) (records : List LogRecord) :
    (step >>= next).run.run records =
      match step.run.run records with
      | (.ok a, records) => (next a).run.run records
      | (.error stop, records) => (.error stop, records) := by
  simp only [ExceptT.run, StateT.run, bind, ExceptT.bind, ExceptT.mk, StateT.bind,
    ExceptT.bindCont]
  rcases step records with ⟨_ | _, _⟩ <;> rfl

/-- What comes after a step goes on with its value, and nothing comes after one
that stops the run. -/
theorem ends_bind_of {step : Session α} {next : α → Session β} {result : Except Stop α}
    {final : Except Stop β} (hstep : Ends step result)
    (hok : ∀ a, result = .ok a → Ends (next a) final)
    (herror : ∀ stop, result = .error stop → final = .error stop) : Ends (step >>= next) final := by
  intro records
  have hfirst := hstep records
  rw [run_bind]
  generalize step.run.run records = first at hfirst
  obtain ⟨stop | a, more⟩ := first
  · exact (herror stop hfirst.symm).symm
  · exact hok a hfirst.symm more

theorem ends_bind {step : Session α} {next : α → Session β} {result : Except Stop α}
    {after : α → Except Stop β} (hstep : Ends step result) (hnext : ∀ a, Ends (next a) (after a)) :
    Ends (step >>= next) (result >>= after) := by
  refine ends_bind_of hstep ?_ ?_
  · rintro a rfl
    exact hnext a
  · rintro stop rfl
    rfl

theorem ends_then {step : Session α} {next : α → Session β} {a : α} {result : Except Stop β}
    (hstep : Ends step (.ok a)) (hnext : Ends (next a) result) : Ends (step >>= next) result := by
  refine ends_bind_of hstep ?_ nofun
  rintro _ ⟨⟩
  exact hnext

/-- What only logs and hands on the value of a step ends as the step does. -/
theorem ends_keep {step : Session α} {next : α → Session α} {result : Except Stop α}
    (hstep : Ends step result) (hnext : ∀ a, Ends (next a) (.ok a)) :
    Ends (step >>= next) result := by
  refine ends_bind_of hstep ?_ ?_
  · rintro a rfl
    exact hnext a
  · rintro stop rfl
    rfl

/-- A loop whose rounds only log. -/
theorem ends_forIn {items : List α} {body : α → PUnit → Session (ForInStep PUnit)}
    (h : ∀ a, Ends (body a ⟨⟩) (.ok (.yield ⟨⟩))) : Ends (forIn items ⟨⟩ body) (.ok ⟨⟩) := by
  induction items with
  | nil => exact ends_pure _
  | cons a items ih =>
    rw [List.forIn_cons]
    exact ends_then (h a) ih

end

/-! ## What each step ends with -/

theorem ends_scriptLines (files : Files) (path : Path) :
    Ends (scriptLines files path) ((Source.readLines files path).mapError stopOfSource) :=
  ends_keep (ends_orStop _ _) fun lines => ends_then (ends_log _ _ _) (ends_pure lines)

theorem ends_exclusionContent (files : Files) (path : Path) :
    Ends (exclusionContent files path)
      ((Source.readOptionalText files path).mapError stopOfSource) := by
  refine ends_keep (ends_orStop _ _) fun content => ?_
  dsimp only
  split
  · exact ends_then (ends_log _ _ _) (ends_pure content)
  · exact ends_pure content

section

variable [Characters]

/-- The settings before the command line overrides some, unless they do not
load. -/
def foundSettings (environment : Environment) (options : Options) : Except Stop Config := do
  match ← (settingsFile? environment.files options).mapError stopOfLookup with
  | none => return {}
  | some path =>
    (Config.loadFile environment.load environment.files path).result.mapError Stop.ofSettings

/-- The settings of a run, unless they do not load. -/
def loadSettings (environment : Environment) (options : Options) : Except Stop Config := do
  let config ← foundSettings environment options
  return config.withOverrides (overrides options)

/-- The analysis that a run comes to, unless something stops it. -/
def analysisOf (environment : Environment) (options : Options) : Except Stop Analysis := do
  let config ← loadSettings environment options
  let lines ← (Source.readLines environment.files options.script).mapError stopOfSource
  let content ← (Source.readOptionalText environment.files (exclusionFile options)).mapError
    stopOfSource
  (analyze lines content config).mapError stopOfFault

theorem ends_readSettings (environment : Environment) (path : Path) :
    Ends (readSettings environment path)
      ((Config.loadFile environment.load environment.files path).result.mapError
        Stop.ofSettings) := by
  -- What follows the note that a file was loaded is the same without it.
  have hload : Ends (do
      for key in (Config.loadFile environment.load environment.files path).unknownKeys do
        log "WARNING" "config" (Config.unknownKeyMessage path.text key)
      orStop Stop.ofSettings (Config.loadFile environment.load environment.files path).result) _ :=
    ends_then (ends_forIn fun key => ends_then (ends_log _ _ _) (ends_pure _)) (ends_orStop _ _)
  unfold readSettings
  dsimp only
  split
  · exact ends_then (ends_log _ _ _) hload
  · exact hload

theorem ends_settings (environment : Environment) (options : Options) :
    Ends (settings environment options) (loadSettings environment options) := by
  unfold settings loadSettings foundSettings
  rw [bind_assoc]
  refine ends_bind (ends_orStop _ _) fun path? => ?_
  cases path? with
  | none => exact ends_pure _
  | some path => exact ends_bind (ends_readSettings environment path) fun config => ends_pure _

theorem ends_logAnalysis (script exclusionFile : Path) (config : Config) (result : Analysis) :
    Ends (logAnalysis script exclusionFile config result) (.ok ()) := by
  have hrest : Ends (do
      detail "engine" (familyDetail result.facts)
      for rule in catalog do
        if config.disabledRules.contains rule.ruleId then
          detail "engine" ("Rule " ++ rule.ruleId ++ " disabled")
      detail "engine" (verdictDetail script result.verdict)) (.ok ()) := by
    refine ends_then (ends_log _ _ _) (ends_then (ends_forIn fun rule => ?_) (ends_log _ _ _))
    split
    · exact ends_then (ends_log _ _ _) (ends_pure _)
    · exact ends_pure _
  refine ends_then (ends_log _ _ _) ?_
  dsimp only
  split
  · exact ends_then (ends_log _ _ _) hrest
  · exact hrest

/-- A check ends with the report of the analysis and the status of its
verdict. -/
theorem ends_check (environment : Environment) (options : Options) :
    Ends (check environment options) (do
      let result ← analysisOf environment options
      return (result.verdict.exitStatus, report environment.terminal options result)) := by
  unfold analysisOf
  simp only [bind_assoc]
  exact ends_bind (ends_settings environment options) fun config =>
    ends_bind (ends_scriptLines environment.files options.script) fun lines =>
    ends_bind (ends_exclusionContent environment.files (exclusionFile options)) fun content =>
    ends_bind (ends_orStop stopOfFault (analyze lines content config)) fun result =>
    ends_then (ends_logAnalysis _ _ _ _) (ends_pure _)

theorem session_eq_check {options : Options} (hexplain : options.explain = none)
    (environment : Environment) : session environment options = check environment options := by
  unfold session
  rw [hexplain]

theorem exists_session_run {options : Options} (hexplain : options.explain = none)
    (environment : Environment) : ∃ records, (session environment options).run.run [] = (do
      let result ← analysisOf environment options
      return (result.verdict.exitStatus, report environment.terminal options result), records) := by
  rw [session_eq_check hexplain]
  exact ⟨_, Prod.ext (ends_check environment options []) rfl⟩

end

/-! ## Analyses that are done -/

section

variable [Characters] {environment : Environment} {options : Options} {config : Config}
variable {result : Analysis}

/-- The settings that load for a run: from the file that is named, else from
the one in the build context, else the usual ones. -/
inductive SettingsLoad (environment : Environment) (options : Options) : Config → Prop
  | given {path : Path} {config : Config} (named : options.configFile = some path)
      (loads : (Config.loadFile environment.load environment.files path).result = .ok config) :
      SettingsLoad environment options config
  | discovered {config : Config} (unnamed : options.configFile = none)
      (there : IsThere environment.files (options.context.child Config.fileName))
      (loads : (Config.loadFile environment.load environment.files
        (options.context.child Config.fileName)).result = .ok config) :
      SettingsLoad environment options config
  | usual (unnamed : options.configFile = none)
      (absent : IsAbsent environment.files (options.context.child Config.fileName)) :
      SettingsLoad environment options {}

/-- The settings load, the build script and the exclusion file can be read, and
the analysis of them is done. -/
inductive Completes (environment : Environment) (options : Options) (result : Analysis) : Prop
  | intro {config : Config} {script : Text} {content : Option Text}
      (loads : SettingsLoad environment options config)
      (reads : ReadsAs environment.files options.script script)
      (excludes : ExclusionsRead environment.files (exclusionFile options) content)
      (done : analyze (Text.lines script) content (config.withOverrides (overrides options)) =
        .ok result)

/-- Looking for the files that may be absent tells whether they are. -/
structure LookupsAnswer (files : Files) (options : Options) : Prop where
  settings : options.configFile = none → Answers files (options.context.child Config.fileName)
  exclusions : Answers files (exclusionFile options)

theorem foundSettings_eq_ok_iff :
    foundSettings environment options = .ok config ↔ SettingsLoad environment options config ∧
      (options.configFile = none →
        Answers environment.files (options.context.child Config.fileName)) := by
  unfold foundSettings settingsFile? Config.find?
  cases hnamed : options.configFile with
  | some path =>
    simp only [bind_eq_ok_iff, mapError_eq_ok_iff]
    constructor
    · rintro ⟨_, ⟨⟩, hloads⟩
      exact ⟨.given hnamed (mapError_eq_ok_iff.mp hloads), nofun⟩
    · rintro ⟨⟨hpath, hloads⟩ | ⟨hnone, _⟩ | ⟨hnone, _⟩, _⟩
      · obtain rfl : path = _ := Option.some.inj (hnamed.symm.trans hpath)
        exact ⟨_, rfl, mapError_eq_ok_iff.mpr hloads⟩
      · cases hnamed.symm.trans hnone
      · cases hnamed.symm.trans hnone
  | none =>
    simp only [bind_eq_ok_iff, mapError_eq_ok_iff]
    constructor
    · rintro ⟨path?, ⟨_ | _, hfile, ⟨⟩⟩, hloads⟩
      · obtain ⟨habsent, hanswers⟩ := isFile_eq_false_iff.mp hfile
        cases hloads
        exact ⟨.usual hnamed habsent, fun _ => hanswers⟩
      · have hthere := isFile_eq_true_iff.mp hfile
        refine ⟨.discovered hnamed hthere (mapError_eq_ok_iff.mp hloads), fun _ e he => ?_⟩
        obtain ⟨entry, hfind, _⟩ := hthere
        cases hfind.symm.trans he
    · rintro ⟨⟨hpath, _⟩ | ⟨_, hthere, hloads⟩ | ⟨_, habsent⟩, hanswers⟩
      · cases hnamed.symm.trans hpath
      · exact ⟨_, ⟨true, isFile_eq_true_iff.mpr hthere, rfl⟩, mapError_eq_ok_iff.mpr hloads⟩
      · exact ⟨_, ⟨false, isFile_eq_false_iff.mpr ⟨habsent, hanswers trivial⟩, rfl⟩, rfl⟩

theorem analysisOf_eq_ok_iff :
    analysisOf environment options = .ok result ↔
      Completes environment options result ∧ LookupsAnswer environment.files options := by
  simp only [analysisOf, loadSettings, bind_eq_ok_iff, mapError_eq_ok_iff, foundSettings_eq_ok_iff,
    readLines_eq_ok_iff, readOptionalText_eq_ok_iff]
  constructor
  · rintro ⟨_, ⟨config, ⟨hloads, hsettings⟩, ⟨⟩⟩, _, ⟨script, hreads, rfl⟩, content,
      ⟨hexcludes, hexclusions⟩, hdone⟩
    exact ⟨.intro hloads hreads hexcludes hdone, hsettings, hexclusions⟩
  · rintro ⟨⟨hloads, hreads, hexcludes, hdone⟩, hsettings, hexclusions⟩
    exact ⟨_, ⟨_, ⟨hloads, hsettings⟩, rfl⟩, _, ⟨_, hreads, rfl⟩, _, ⟨hexcludes, hexclusions⟩,
      hdone⟩

end

/-! ## Reports that are printed -/

theorem print_eq_ok_iff {terminal : Report.Terminal} {text output : Text} :
    print terminal text = .ok output ↔
      terminal.refusal? (printed terminal text) = none ∧ printed terminal text = output := by
  unfold print
  cases terminal.refusal? (printed terminal text) with
  | none => simp [pure, Except.pure]
  | some reason => simp [throw, throwThe, MonadExceptOf.throw]

section

variable [Characters] {environment : Environment} {options : Options} {result : Analysis}

/-- The report of an analysis can be printed. -/
def Prints (terminal : Report.Terminal) (options : Options) (result : Analysis) : Prop :=
  terminal.refusal? (printed terminal (report terminal options result)) = none

/-- Everything loads and can be read, the analysis is done, and its report is
printed. -/
structure Reports (environment : Environment) (options : Options) (result : Analysis) : Prop where
  completes : Completes environment options result
  answers : LookupsAnswer environment.files options
  prints : Prints environment.terminal options result

/-- The analysis that a run comes to, unless something stops it or the report
cannot be printed. -/
def reportedOf (environment : Environment) (options : Options) : Except Stop Analysis := do
  let result ← analysisOf environment options
  let _ ← (print environment.terminal (report environment.terminal options result)).mapError
    Stop.broken
  return result

theorem reportedOf_eq_ok_iff :
    reportedOf environment options = .ok result ↔ Reports environment options result := by
  simp only [reportedOf, bind_eq_ok_iff, mapError_eq_ok_iff, analysisOf_eq_ok_iff, print_eq_ok_iff]
  constructor
  · rintro ⟨_, ⟨hcompletes, hanswers⟩, _, ⟨hprints, _⟩, ⟨⟩⟩
    exact ⟨hcompletes, hanswers, hprints⟩
  · rintro ⟨hcompletes, hanswers, hprints⟩
    exact ⟨_, ⟨hcompletes, hanswers⟩, _, ⟨hprints, rfl⟩, rfl⟩

/-- A run that reports an analysis prints the report and ends with the status
of its verdict. -/
theorem outcome_of_ok (hexplain : options.explain = none)
    (h : reportedOf environment options = .ok result) :
    (outcome environment options).status = result.verdict.exitStatus ∧
      (outcome environment options).output =
        printed environment.terminal (report environment.terminal options result) := by
  obtain ⟨records, hrun⟩ := exists_session_run hexplain environment
  obtain ⟨analysed, hanalysed, h⟩ := bind_eq_ok_iff.mp h
  obtain ⟨output, hprint, ⟨⟩⟩ := bind_eq_ok_iff.mp h
  have hprinted := mapError_eq_ok_iff.mp hprint
  rw [hanalysed] at hrun
  unfold outcome run
  rw [hrun]
  dsimp only [bind, Except.bind, pure, Except.pure]
  rw [hprinted]
  exact ⟨rfl, (print_eq_ok_iff.mp hprinted).2.symm⟩

/-- A run that is stopped before its report is printed fails and prints
nothing. -/
theorem outcome_of_error {stop : Stop} (hexplain : options.explain = none)
    (h : reportedOf environment options = .error stop) :
    (outcome environment options).status = 1 ∧ (outcome environment options).output = [] := by
  obtain ⟨records, hrun⟩ := exists_session_run hexplain environment
  unfold reportedOf at h
  unfold outcome run
  rw [hrun]
  cases hanalysed : analysisOf environment options with
  | error early => cases early <;> exact ⟨rfl, rfl⟩
  | ok analysed =>
    rw [hanalysed] at h
    dsimp only [bind, Except.bind, pure, Except.pure] at h ⊢
    cases hprint : print environment.terminal (report environment.terminal options analysed) with
    | error breakdown => exact ⟨rfl, rfl⟩
    | ok output =>
      rw [hprint] at h
      cases h

end

/-! ## Plain texts on a terminal -/

/-- A terminal that leaves texts without control sequences as they are and
refuses no text of ASCII. -/
structure PrintsAscii (terminal : Report.Terminal) : Prop where
  shows : ∀ text, Report.escape ∉ text → terminal.shown text = text
  accepts : ∀ text : Text, (∀ c ∈ text, c.toNat < 0x80) → terminal.refusal? text = none

theorem toNat_lt_of_isWritten {c : Char} (h : Json.isWritten c = true) : c.toNat < 0x80 := by
  simp only [Json.isWritten, Json.isSpace, Bool.or_eq_true, beq_iff_eq, Bool.and_eq_true,
    decide_eq_true_eq] at h
  rcases h with ((((rfl | rfl) | rfl) | rfl) | h)
  all_goals first | decide | omega

theorem isWritten_of_mem_contents {contents : Report.Contents} {c : Char}
    (h : c ∈ contents.text ++ ['\n']) : Json.isWritten c = true := by
  have hwritten : contents.text.all Json.isWritten = true :=
    Json.all_isWritten_renderAt Json.indented_blank contents.plain_json 0
  rcases List.mem_append.mp h with h | h
  · exact List.all_eq_true.mp hwritten c h
  · rw [List.mem_singleton.mp h]
    decide

section

variable {terminal : Report.Terminal}

theorem printed_contents (hascii : PrintsAscii terminal) (contents : Report.Contents) :
    printed terminal contents.text = contents.text ++ ['\n'] :=
  hascii.shows _ fun hescape => absurd (isWritten_of_mem_contents hescape) (by decide)

theorem report_json {options : Options} (result : Analysis) (hjson : options.json = true) :
    report terminal options result = (Report.Contents.ofRun options.script.text
      (exclusionFile options).text result.exclusions result.verdict).text := by
  unfold report
  rw [hjson]
  rfl

theorem prints_json [Characters] {options : Options} (hascii : PrintsAscii terminal)
    (result : Analysis) (hjson : options.json = true) : Prints terminal options result := by
  unfold Prints
  rw [report_json result hjson, printed_contents hascii]
  exact hascii.accepts _ fun c hc => toNat_lt_of_isWritten (isWritten_of_mem_contents hc)

/-- The status that a report for other programs tells. -/
def toldStatus? (value : Json) : Option Json :=
  (value.field? "summary").bind (Json.field? "exit_status")

theorem toldStatus?_report [Characters] {options : Options} (hascii : PrintsAscii terminal)
    (result : Analysis) (hjson : options.json = true) :
    ∃ value, Json.parse? (printed terminal (report terminal options result)) = some value ∧
      toldStatus? value = some (.int result.verdict.exitStatus) := by
  rw [report_json result hjson, printed_contents hascii]
  exact ⟨_, Report.Contents.parse?_text _ ['\n'] (by simp [Json.isSpace]), rfl⟩

end

/-! ## How a whole run ends -/

/-- The exit status after an analysis, or without one. -/
def statusOf : Except Stop Analysis → Nat
  | .ok result => result.verdict.exitStatus
  | .error _ => 1

section

variable (ended : Except Stop Analysis)

theorem statusOf_eq_zero_iff : statusOf ended = 0 ↔
    ∃ result, ended = .ok result ∧ result.verdict.errors = 0 ∧ result.verdict.warnings = 0 := by
  cases ended <;> simp [statusOf, Verdict.exitStatus_eq_zero_iff]

theorem statusOf_eq_two_iff : statusOf ended = 2 ↔
    ∃ result, ended = .ok result ∧ result.verdict.errors = 0 ∧ 0 < result.verdict.warnings := by
  cases ended <;> simp [statusOf, Verdict.exitStatus_eq_two_iff]

theorem statusOf_eq_one (hzero : statusOf ended ≠ 0) (htwo : statusOf ended ≠ 2) :
    statusOf ended = 1 := by
  cases ended with
  | error stop => rfl
  | ok result =>
    simp only [statusOf, ne_eq, Verdict.exitStatus_eq_zero_iff, Verdict.exitStatus_eq_two_iff,
      Verdict.exitStatus_eq_one_iff] at hzero htwo ⊢
    omega

end

section

variable [Characters]

/-- The run ends by the analysis that it comes to, if there is one: with zero
when that has neither errors nor warnings, with two when it has warnings only,
and else with one. Without an analysis nothing is printed. -/
structure EndsBy (environment : Environment) (options : Options) (comesTo : Analysis → Prop) :
    Prop where
  clean : (outcome environment options).status = 0 ↔ ∃ result, comesTo result ∧
    result.verdict.errors = 0 ∧ result.verdict.warnings = 0
  warned : (outcome environment options).status = 2 ↔ ∃ result, comesTo result ∧
    result.verdict.errors = 0 ∧ 0 < result.verdict.warnings
  failed : (outcome environment options).status ≠ 0 → (outcome environment options).status ≠ 2 →
    (outcome environment options).status = 1
  silent : (¬ ∃ result, comesTo result) → (outcome environment options).output = []

/-- What is printed tells the exit status. -/
def TellsStatus (outcome : Outcome) : Prop :=
  ∃ value, Json.parse? outcome.output = some value ∧
    toldStatus? value = some (.int outcome.status)

/-- The run ends by the analysis whose report it prints. The report for other
programs tells the exit status and is printed after every analysis. -/
structure EndsByReport (environment : Environment) (options : Options) : Prop extends
    EndsBy environment options (Reports environment options) where
  shows : ∀ result, Reports environment options result → (outcome environment options).output =
    printed environment.terminal (report environment.terminal options result)
  tells : options.json = true → ∀ result, Reports environment options result →
    TellsStatus (outcome environment options)
  reports : options.json = true → ∀ result, Completes environment options result →
    LookupsAnswer environment.files options → Reports environment options result

/-- The run ends by the analysis that its files come to, in the same way in both
forms of the report and with or without details, and the report for other
programs tells the exit status. -/
structure EndsAsPromised (environment : Environment) (options : Options) : Prop extends
    EndsBy environment options (Completes environment options) where
  alike : ∀ json verbose,
    (outcome environment { options with json := json, verbose := verbose }).status =
      (outcome environment options).status
  tells : options.json = true → (outcome environment options).output ≠ [] →
    TellsStatus (outcome environment options)

/-- An analysis without errors is not hindered: the look-ups before it answer,
and the report for people can be printed, with details and without. -/
def Unhindered (environment : Environment) (options : Options) : Prop :=
  ∀ result, Completes environment options result → result.verdict.errors = 0 →
    LookupsAnswer environment.files options ∧
      ∀ verbose, Prints environment.terminal { options with json := false, verbose := verbose }
        result

variable {environment : Environment} {options : Options}

theorem status_eq_statusOf (hexplain : options.explain = none) :
    (outcome environment options).status = statusOf (reportedOf environment options) := by
  cases h : reportedOf environment options with
  | ok result => exact (outcome_of_ok hexplain h).1
  | error stop => exact (outcome_of_error hexplain h).1

theorem endsBy_reports (hexplain : options.explain = none) :
    EndsBy environment options (Reports environment options) := by
  refine ⟨?_, ?_, ?_, fun hnone => ?_⟩
  · rw [status_eq_statusOf hexplain]
    simpa only [← reportedOf_eq_ok_iff] using statusOf_eq_zero_iff _
  · rw [status_eq_statusOf hexplain]
    simpa only [← reportedOf_eq_ok_iff] using statusOf_eq_two_iff _
  · rw [status_eq_statusOf hexplain]
    exact statusOf_eq_one _
  · cases h : reportedOf environment options with
    | ok result => exact absurd ⟨result, reportedOf_eq_ok_iff.mp h⟩ hnone
    | error stop => exact (outcome_of_error hexplain h).2

theorem endsByReport (hexplain : options.explain = none)
    (hascii : PrintsAscii environment.terminal) : EndsByReport environment options where
  toEndsBy := endsBy_reports hexplain
  shows result h := (outcome_of_ok hexplain (reportedOf_eq_ok_iff.mpr h)).2
  tells hjson result h := by
    obtain ⟨hstatus, houtput⟩ := outcome_of_ok hexplain (reportedOf_eq_ok_iff.mpr h)
    rw [TellsStatus, hstatus, houtput]
    exact toldStatus?_report hascii result hjson
  reports hjson result hcompletes hanswers :=
    ⟨hcompletes, hanswers, prints_json hascii result hjson⟩

/-! ## When a run ends as promised -/

variable {result : Analysis}

theorem SettingsLoad.inForm {config : Config} (h : SettingsLoad environment options config)
    (json verbose : Bool) :
    SettingsLoad environment { options with json := json, verbose := verbose } config := by
  rcases h with ⟨hnamed, hloads⟩ | ⟨hunnamed, hthere, hloads⟩ | ⟨hunnamed, habsent⟩
  · exact .given hnamed hloads
  · exact .discovered hunnamed hthere hloads
  · exact .usual hunnamed habsent

/-- What the files come to does not depend on the form of the report. -/
theorem Completes.inForm (h : Completes environment options result) (json verbose : Bool) :
    Completes environment { options with json := json, verbose := verbose } result := by
  obtain ⟨hloads, hreads, hexcludes, hdone⟩ := h
  exact .intro (hloads.inForm json verbose) hreads hexcludes hdone

theorem completes_of_inForm {json verbose : Bool}
    (h : Completes environment { options with json := json, verbose := verbose } result) :
    Completes environment options result := h.inForm options.json options.verbose

theorem Completes.unique {other : Analysis} (h : Completes environment options result)
    (hother : Completes environment options other)
    (hanswers : LookupsAnswer environment.files options) : result = other :=
  Except.ok.inj ((analysisOf_eq_ok_iff.mpr ⟨h, hanswers⟩).symm.trans
    (analysisOf_eq_ok_iff.mpr ⟨hother, hanswers⟩))

/-- A run that does not fail has reported what its files come to. -/
theorem Completes.reports (h : Completes environment options result)
    (hexplain : options.explain = none) (hstatus : (outcome environment options).status = 0 ∨
      (outcome environment options).status = 2) : Reports environment options result := by
  obtain ⟨reported, hreports⟩ : ∃ reported, Reports environment options reported := by
    rcases hstatus with hzero | htwo
    · obtain ⟨reported, hreports, _⟩ := (endsBy_reports hexplain).clean.mp hzero
      exact ⟨reported, hreports⟩
    · obtain ⟨reported, hreports, _⟩ := (endsBy_reports hexplain).warned.mp htwo
      exact ⟨reported, hreports⟩
  rwa [h.unique hreports.completes hreports.answers]

theorem EndsBy.status_eq {options' : Options} {comesTo : Analysis → Prop}
    (h : EndsBy environment options comesTo) (h' : EndsBy environment options' comesTo) :
    (outcome environment options).status = (outcome environment options').status := by
  have hzero := h.clean.trans h'.clean.symm
  have htwo := h.warned.trans h'.warned.symm
  have hone := h.failed
  have hone' := h'.failed
  omega

theorem EndsAsPromised.unhindered (h : EndsAsPromised environment options)
    (hexplain : options.explain = none) : Unhindered environment options := by
  intro result hcompletes herrors
  have hstatus : (outcome environment options).status = 0 ∨
      (outcome environment options).status = 2 := by
    rcases Nat.eq_zero_or_pos result.verdict.warnings with hnone | hsome
    · exact .inl (h.clean.mpr ⟨result, hcompletes, herrors, hnone⟩)
    · exact .inr (h.warned.mpr ⟨result, hcompletes, herrors, hsome⟩)
  refine ⟨(hcompletes.reports hexplain hstatus).answers, fun verbose => ?_⟩
  rw [← h.alike false verbose] at hstatus
  exact ((hcompletes.inForm false verbose).reports hexplain hstatus).prints

/-- Without hindrance an analysis without errors is reported in each form. -/
theorem Unhindered.reports (h : Unhindered environment options)
    (hascii : PrintsAscii environment.terminal) (hcompletes : Completes environment options result)
    (herrors : result.verdict.errors = 0) (json verbose : Bool) :
    Reports environment { options with json := json, verbose := verbose } result := by
  obtain ⟨hanswers, hprints⟩ := h result hcompletes herrors
  refine ⟨hcompletes.inForm json verbose, ⟨hanswers.settings, hanswers.exclusions⟩, ?_⟩
  cases json with
  | false => exact hprints verbose
  | true => exact prints_json hascii result rfl

theorem Unhindered.endsBy (h : Unhindered environment options) (hexplain : options.explain = none)
    (hascii : PrintsAscii environment.terminal) (json verbose : Bool) :
    EndsBy environment { options with json := json, verbose := verbose }
      (Completes environment options) := by
  have hreported : EndsBy environment { options with json := json, verbose := verbose }
    (Reports environment { options with json := json, verbose := verbose }) :=
    endsBy_reports hexplain
  have hiff : ∀ p : Analysis → Prop, (∃ result,
      Reports environment { options with json := json, verbose := verbose } result ∧
        result.verdict.errors = 0 ∧ p result) ↔
      ∃ result, Completes environment options result ∧ result.verdict.errors = 0 ∧ p result := by
    intro p
    constructor
    · rintro ⟨result, hreports, herrors, hp⟩
      exact ⟨result, completes_of_inForm hreports.completes, herrors, hp⟩
    · rintro ⟨result, hcompletes, herrors, hp⟩
      exact ⟨result, h.reports hascii hcompletes herrors json verbose, herrors, hp⟩
  constructor
  · exact hreported.clean.trans (hiff _)
  · exact hreported.warned.trans (hiff _)
  · exact hreported.failed
  · exact fun hnone => hreported.silent fun ⟨result, hreports⟩ =>
      hnone ⟨result, completes_of_inForm hreports.completes⟩

theorem Unhindered.endsAsPromised (h : Unhindered environment options)
    (hexplain : options.explain = none) (hascii : PrintsAscii environment.terminal) :
    EndsAsPromised environment options where
  toEndsBy := h.endsBy hexplain hascii options.json options.verbose
  alike json verbose := (h.endsBy hexplain hascii json verbose).status_eq
    (h.endsBy hexplain hascii options.json options.verbose)
  tells hjson houtput := by
    have hends := endsByReport hexplain hascii
    by_cases hreports : ∃ result, Reports environment options result
    · obtain ⟨result, hreports⟩ := hreports
      exact hends.tells hjson result hreports
    · exact absurd (hends.silent hreports) houtput

/-- A run ends by the analysis whose report it prints. It ends by the one that
its files come to, in the same way in each form of the report, exactly if an
analysis without errors is not hindered: every look for a file that may be
absent must answer, and the report for people must be fit to print. -/
theorem a_run_ends_as_promised_exactly_when_unhindered (environment : Environment)
    (options : Options) (hexplain : options.explain = none)
    (hascii : PrintsAscii environment.terminal) :
    EndsByReport environment options ∧
      (EndsAsPromised environment options ↔ Unhindered environment options) :=
  ⟨endsByReport hexplain hascii, fun h => h.unhindered hexplain,
    fun h => h.endsAsPromised hexplain hascii⟩

end

/-! ## A terminal without decorations -/

/-- A text without control sequences is printed as it is. -/
theorem plainFrom_of_not_mem {text : Text} (h : Report.escape ∉ text) :
    Report.Ansi.plainFrom 0 text = text := by
  induction text with
  | nil => rfl
  | cons c text ih =>
    rw [List.mem_cons, not_or] at h
    rw [Report.Ansi.plainFrom, if_neg (by simpa using Ne.symm h.1), ih h.2]

theorem refusal?_of_ascii {text : Text} (h : ∀ c ∈ text, c.toNat < 0x80) :
    Report.Ansi.refusal? text = none := by
  have hnone : ∀ c ∈ text, (!Characters.isPrivateHalf c) = true := fun c hc => by
    have hlow : ¬ Characters.firstHalf ≤ c.toNat := by
      have := h c hc
      unfold Characters.firstHalf
      omega
    simp [Characters.isPrivateHalf, hlow]
  unfold Report.Ansi.refusal?
  simp [List.takeWhile_eq_self_iff.mpr hnone]

theorem printsAscii_terminal (columns : Int) : PrintsAscii (Report.Ansi.terminal columns) where
  shows _ := plainFrom_of_not_mem
  accepts _ := refusal?_of_ascii

open scoped Characters

/-- A build script of one line, and what is found of one other file. The
terminal refuses nothing. -/
def loneScript (other : Path × Except FileError Entry) : Environment where
  files := Files.ofList [other, (.ofText "Dockerfile", .ok (.file [70, 82, 79, 77, 32, 97]))]
  load := Yaml.Value.ofText
  terminal := { Report.Ansi.terminal 80 with refusal? := fun _ => none }

theorem exists_analyze_lone : ∃ result,
    analyze ["FROM a"] none (({} : Config).withOverrides {}) = .ok result ∧
      result.verdict.errors = 0 ∧ 0 < result.verdict.warnings :=
  ⟨_, by rfl, by decide +kernel, by decide +kernel⟩

/-- A lone base image has warnings only, and the report tells so. -/
theorem a_lone_base_image_ends_with_two :
    let environment := loneScript (.ofText "other", .error .missing)
    (outcome environment { json := true }).status = 2 ∧
      TellsStatus (outcome environment { json := true }) ∧
      EndsAsPromised environment { json := true } := by
  intro environment
  obtain ⟨result, hdone, herrors, hwarnings⟩ := exists_analyze_lone
  have hsettings := isFile_eq_false_iff.mp
    (show environment.files.isFile (({} : Options).context.child Config.fileName) = .ok false
      from rfl)
  have hexclusions := isFile_eq_false_iff.mp
    (show environment.files.isFile (exclusionFile {}) = .ok false from rfl)
  have hcompletes : Completes environment { json := true } result :=
    .intro (.usual rfl hsettings.1) ⟨_, rfl, rfl⟩ (.absent hexclusions.1) hdone
  have hanswers : LookupsAnswer environment.files { json := true } :=
    ⟨fun _ => hsettings.2, hexclusions.2⟩
  obtain ⟨hends, hpromised⟩ := a_run_ends_as_promised_exactly_when_unhindered environment
    { json := true } rfl { printsAscii_terminal 80 with accepts := fun _ _ => rfl }
  have hreports := hends.reports rfl result hcompletes hanswers
  exact ⟨hends.warned.mpr ⟨result, hreports, herrors, hwarnings⟩,
    hends.tells rfl result hreports, hpromised.mpr fun _ _ _ => ⟨hanswers, fun _ => rfl⟩⟩

/-- A name that is longer than any file may have. -/
def longName : Path := ⟨[], [List.replicate 300 'a']⟩

/-- A look for an exclusion file that no file system can hold breaks a run,
although the file is absent and the build script has warnings only. -/
theorem a_name_without_a_file_breaks_a_run :
    ¬ EndsAsPromised (loneScript (longName, .error .nameTooLong))
      { exclusionFile := some longName } := by
  intro hends
  obtain ⟨result, hdone, herrors, hwarnings⟩ := exists_analyze_lone
  have hsettings := isFile_eq_false_iff.mp
    (show (loneScript (longName, .error .nameTooLong)).files.isFile
      (({} : Options).context.child Config.fileName) = .ok false from rfl)
  have hfind : (loneScript (longName, .error .nameTooLong)).files.find longName =
      .error .nameTooLong := by
    simp [loneScript, Files.ofList, List.lookup_cons]
  have hcompletes : Completes (loneScript (longName, .error .nameTooLong))
      { exclusionFile := some longName } result :=
    .intro (.usual rfl hsettings.1) ⟨_, rfl, rfl⟩
      (.absent (.unnameable hfind rfl)) hdone
  have htwo := hends.warned.mpr ⟨result, hcompletes, herrors, hwarnings⟩
  obtain ⟨_, hreports, _⟩ := (endsBy_reports rfl).warned.mp htwo
  exact absurd (hreports.answers.exclusions .nameTooLong hfind) (by decide)

end Run

end ImageLint
