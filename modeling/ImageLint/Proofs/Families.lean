-- Which commands are taken for calls of a package manager. They are kept
-- under the name of the package manager, where one takes the place of another
-- of the same name. So the families are kept apart exactly when no two of one
-- name are looked for with patterns that tell some command apart.
import Mathlib.Data.List.Nodup
import ImageLint.Proofs.Completion
import ImageLint.Proofs.LogicalLines
import ImageLint.Text.Names

namespace ImageLint

/-! ## Searches -/

/-- The pattern can be read, and it matches somewhere in the text. -/
def Pattern.finds [Characters] (pattern text : Text) : Bool :=
  match Pattern.search pattern text with
  | .ok found => found
  | .error _ => false

theorem Pattern.finds_of_search [Characters] {pattern text : Text} {found : Bool}
    (h : Pattern.search pattern text = .ok found) : Pattern.finds pattern text = found := by
  unfold Pattern.finds
  rw [h]

/-- A search that goes through all commands keeps those that the pattern finds. -/
theorem filter_finds_of_filterM [Characters] {pattern : Text} {commands found : List Command}
    (h : (commands.filterM fun c => Pattern.search pattern c.text) = .ok found) :
    found = commands.filter fun c => Pattern.finds pattern c.text :=
  filter_of_filterM (fun _ _ hc => Pattern.finds_of_search hc) h

/-! ## Calls -/

/-- The commands that run while the image is built, in order. -/
def BuildScript.buildCommands (script : BuildScript) : List Command :=
  script.commands.filter (·.runsAtBuild)

/-- Those of the commands that the pattern of the package manager finds. -/
def PackageManager.calls [Characters] (manager : PackageManager) (commands : List Command) :
    List Command :=
  commands.filter fun c => Pattern.finds manager.detect c.text

/-- Of the package managers of one name, the last that is called. -/
def lastCalled [Characters] (commands : List Command) (managers : List PackageManager) (name : Text)
    :
    Option PackageManager :=
  (managers.filter fun m => m.name == name && !(m.calls commands).isEmpty).getLast?

theorem lastCalled_cons [Characters] (commands : List Command) (manager : PackageManager)
    (rest : List PackageManager) (name : Text) :
    lastCalled commands (manager :: rest) name =
      (lastCalled commands rest name).or
        (if manager.name == name && !(manager.calls commands).isEmpty then some manager
          else none) := by
  unfold lastCalled
  rw [List.filter_cons]
  split
  · rw [List.getLast?_cons]
    cases (rest.filter _).getLast? <;> rfl
  · rw [Option.or_none]

theorem of_lastCalled_eq_some [Characters] {commands : List Command}
    {managers : List PackageManager}
    {name : Text} {last : PackageManager} (h : lastCalled commands managers name = some last) :
    last ∈ managers ∧ last.name = name ∧ last.calls commands ≠ [] := by
  obtain ⟨hmem, hlast⟩ := List.mem_filter.mp (List.mem_of_getLast? h)
  simp only [Bool.and_eq_true, beq_iff_eq, Bool.not_eq_true', List.isEmpty_eq_false_iff] at hlast
  exact ⟨hmem, hlast.1, hlast.2⟩

theorem calls_eq_nil_of_lastCalled [Characters] {commands : List Command}
    {managers : List PackageManager} {manager : PackageManager} (hmem : manager ∈ managers)
    (h : lastCalled commands managers manager.name = none) : manager.calls commands = [] := by
  have hnone := List.filter_eq_nil_iff.mp (List.getLast?_eq_none_iff.mp h) manager hmem
  simpa using hnone

/-! ## The families of a run -/

theorem lookup_setFamily (name key : Text) (lines : List Nat) (families : List (Text × List Nat)) :
    (Facts.setFamily key lines families).lookup name =
      if name == key then some lines else families.lookup name := by
  induction families with
  | nil =>
    rw [Facts.setFamily, List.lookup_cons]
    split <;> simp_all
  | cons family rest ih =>
    obtain ⟨other, old⟩ := family
    rw [Facts.setFamily]
    by_cases hother : other = key
    · subst hother
      simp only [beq_self_eq_true, if_true, List.lookup_cons]
      split <;> simp_all
    · have hne : (other == key) = false := by simp [hother]
      rw [hne, if_neg (by simp), List.lookup_cons, List.lookup_cons, ih]
      by_cases hname : name = other
      · subst hname
        simp [hother]
      · have hmiss : (name == other) = false := beq_eq_false_iff_ne.mpr hname
        simp only [hmiss]

theorem buildLines_eq [Characters] {commands : List Command} {manager : PackageManager}
    {lines : List Nat} (h : Facts.buildLines commands manager.detect = .ok lines) :
    lines = (manager.calls (commands.filter (·.runsAtBuild))).map (·.line) := by
  obtain ⟨found, hfound, heq⟩ := bind_eq_ok_iff.mp h
  cases heq
  rw [filterM_guard] at hfound
  rw [filter_finds_of_filterM hfound]
  rfl

/-- One package manager after the other is looked for. What is kept under a
name in the end are the calls of the last one of that name that is called. -/
theorem lookup_familiesOf [Characters] {commands : List Command} {managers : List PackageManager}
    {families families' : List (Text × List Nat)}
    (h : Facts.familiesOf commands managers families = .ok families') (name : Text) :
    families'.lookup name =
      ((lastCalled (commands.filter (·.runsAtBuild)) managers name).map fun m =>
        (m.calls (commands.filter (·.runsAtBuild))).map (·.line)).or (families.lookup name) := by
  induction managers generalizing families with
  | nil =>
    cases h
    rfl
  | cons manager rest ih =>
    rw [Facts.familiesOf] at h
    obtain ⟨lines, hlines, h⟩ := bind_eq_ok_iff.mp h
    have hcalls := buildLines_eq hlines
    rw [ih h, lastCalled_cons]
    cases lastCalled (commands.filter (·.runsAtBuild)) rest name with
    | some last => rfl
    | none =>
      have hempty : lines.isEmpty =
          (manager.calls (commands.filter (·.runsAtBuild))).isEmpty := by
        rw [hcalls, List.isEmpty_map]
      rw [hempty, Option.none_or, Option.map_none, Option.none_or]
      cases hnone : (manager.calls (commands.filter (·.runsAtBuild))).isEmpty with
      | true => simp
      | false =>
        rw [if_neg (by simp), lookup_setFamily, hcalls]
        by_cases hname : manager.name = name
        · simp [hname]
        · simp [hname, Ne.symm hname]

theorem familyLines_of_derive [Characters] {script : BuildScript} {config : Config} {facts : Facts}
    (h : Facts.derive script config = .ok facts) (name : Text) :
    facts.familyLines name =
      ((lastCalled script.buildCommands config.packageManagers name).map fun m =>
        (m.calls script.buildCommands).map (·.line)).getD [] := by
  obtain ⟨families, hfamilies, heq⟩ := bind_eq_ok_iff.mp h
  cases heq
  unfold Facts.familyLines BuildScript.buildCommands
  rw [lookup_familiesOf hfamilies, List.lookup_nil, Option.or_none]

theorem commands_of_derive [Characters] {script : BuildScript} {config : Config} {facts : Facts}
    (h : Facts.derive script config = .ok facts) : facts.commands = script.commands := by
  obtain ⟨families, _, heq⟩ := bind_eq_ok_iff.mp h
  cases heq
  rfl

/-- Among commands on different lines, looking the lines of some of them up
finds these again. -/
theorem filter_contains_line {commands : List Command}
    (hlines : ∀ c ∈ commands, ∀ other ∈ commands, other.line = c.line → other = c)
    (q : Command → Bool) :
    commands.filter (fun c => ((commands.filter q).map (·.line)).contains c.line) =
      commands.filter q := by
  refine List.filter_congr fun c hc => ?_
  rw [Bool.eq_iff_iff, List.contains_iff_mem, List.mem_map]
  constructor
  · rintro ⟨other, hother, hline⟩
    obtain ⟨hmem, hq⟩ := List.mem_filter.mp hother
    rw [hlines c hc other hmem hline] at hq
    exact hq
  · intro hq
    exact ⟨c, List.mem_filter.mpr ⟨hc, hq⟩, rfl⟩

/-- The commands that count as calls of a package manager are the calls of the
last one of its name that is called. -/
theorem callsOf_derive [Characters] {lines : List Text} {config : Config} {facts : Facts}
    (h : Facts.derive (.ofLines lines) config = .ok facts) (manager : PackageManager) :
    Rules.callsOf facts manager =
      ((lastCalled (BuildScript.ofLines lines).buildCommands config.packageManagers
        manager.name).map (·.calls (BuildScript.ofLines lines).buildCommands)).getD [] := by
  unfold Rules.callsOf
  rw [familyLines_of_derive h, commands_of_derive h]
  cases lastCalled _ _ manager.name with
  | none => simp
  | some last =>
    have hcalls : last.calls (BuildScript.ofLines lines).buildCommands =
        (BuildScript.ofLines lines).commands.filter fun c =>
          Pattern.finds last.detect c.text && c.runsAtBuild := List.filter_filter
    dsimp only [Option.map_some, Option.getD_some]
    rw [hcalls]
    exact filter_contains_line (fun c hc other hother => BuildScript.command_eq_of_line hc hother) _

/-- Where the names are all different, a package manager that is called is the
last of its name that is. -/
theorem lastCalled_of_nodup [Characters] {commands : List Command} {managers : List PackageManager}
    (hnames : (managers.map (·.name)).Nodup) {manager : PackageManager}
    (hmem : manager ∈ managers) :
    lastCalled commands managers manager.name =
      if manager.calls commands = [] then none else some manager := by
  cases hlast : lastCalled commands managers manager.name with
  | none => rw [if_pos (calls_eq_nil_of_lastCalled hmem hlast)]
  | some last =>
    obtain ⟨hin, hname, hcalled⟩ := of_lastCalled_eq_some hlast
    rw [List.inj_on_of_nodup_map hnames hin hmem hname] at hcalled ⊢
    rw [if_neg hcalled]

/-- Where the names are all different, the commands that count as calls of a
package manager are its own. -/
theorem callsOf_of_nodup [Characters] {lines : List Text} {config : Config} {facts : Facts}
    (hnames : (config.packageManagers.map (·.name)).Nodup)
    (h : Facts.derive (.ofLines lines) config = .ok facts) {manager : PackageManager}
    (hmem : manager ∈ config.packageManagers) :
    Rules.callsOf facts manager = manager.calls (BuildScript.ofLines lines).buildCommands := by
  rw [callsOf_derive h, lastCalled_of_nodup hnames hmem]
  split
  · rename_i hnone
    exact hnone.symm
  · rfl

/-- Where the names are all different, no line is kept under the name of a
package manager exactly when it is not called. -/
theorem familyLines_eq_nil_iff [Characters] {script : BuildScript} {config : Config} {facts : Facts}
    (hnames : (config.packageManagers.map (·.name)).Nodup)
    (h : Facts.derive script config = .ok facts) {manager : PackageManager}
    (hmem : manager ∈ config.packageManagers) :
    facts.familyLines manager.name = [] ↔ manager.calls script.buildCommands = [] := by
  rw [familyLines_of_derive h, lastCalled_of_nodup hnames hmem]
  split
  · simp_all
  · simp

/-! ## Texts of commands -/

namespace BuildScript

/-- The text of a command has no blanks at its ends. -/
theorem strip_commandText (script : BuildScript) (i : Instruction) :
    Text.strip (script.commandText i) = script.commandText i := by
  unfold commandText
  generalize hpieces : ((i :: script.continuationsOf i).map (dropBackslash ·.argument)).filter
    (!·.isEmpty) = pieces
  by_cases hnil : pieces = []
  · subst hnil
    rfl
  · refine (Text.bare_joinWith [' '] hnil fun piece hpiece => ?_).strip_eq
    rw [← hpieces] at hpiece
    obtain ⟨hmem, hne⟩ := List.mem_filter.mp hpiece
    obtain ⟨j, _, rfl⟩ := List.mem_map.mp hmem
    exact ⟨by simpa using hne, startsBare_dropBackslash _, endsBare_dropBackslash _⟩

theorem strip_of_mem_buildCommands {script : BuildScript} {c : Command}
    (h : c ∈ script.buildCommands) : Text.strip c.text = c.text := by
  obtain ⟨hmem, _⟩ := List.mem_filter.mp h
  obtain ⟨i, _, rfl⟩ := List.mem_map.mp hmem
  exact strip_commandText script i

/-- A line that runs the text. The backslash at its end is dropped, so that
one at the end of the text is not. -/
def runLine (text : Text) : Text := "RUN".toList ++ [' '] ++ (text ++ ['\\'])

/-- Every text without blanks at its ends is the text of a command. -/
theorem buildCommands_runLine {text : Text} (h : Text.strip text = text) :
    (ofLines [runLine text]).buildCommands = [{ line := 1, keyword := .run, text := text }] := by
  have hstarts : Text.StartsBare text := h ▸ Text.startsBare_strip text
  have hends : Text.EndsBare text := h ▸ Text.endsBare_strip text
  have hargument : Text.Bare (text ++ ['\\']) := by
    refine ⟨by simp, ?_, Text.endsBare_append text (by rintro c ⟨⟩; decide) (by simp)⟩
    cases text with
    | nil =>
      rintro c ⟨⟩
      decide
    | cons c rest => exact Text.startsBare_append hstarts (by simp) ['\\']
  have hword : IsWord "RUN".toList := by decide
  have hgap : IsGap [' '] := by decide
  have hline : Text.Bare (runLine text) := hword.bare.around [' '] hargument
  have hsignificant : significantLines [runLine text] = [(1, runLine text)] := by
    have hsome : Text.significant? (runLine text) = some (runLine text) :=
      Text.significant?_of_strip hline (by simp [runLine]) hline.strip_eq
    have hmark : (runLine text).head? ≠ some Text.byteOrderMark := by
      intro hhead
      have hfirst : 'R' = Text.byteOrderMark := Option.some.inj hhead
      exact absurd hfirst (by decide)
    simp [significantLines, dropMarks, Text.dropMarks_eq_self hmark, hsome]
  have hread : ofLines [runLine text] =
      ⟨[opened 1 "RUN".toList (text ++ ['\\']) (runLine text)]⟩ := by
    unfold ofLines
    rw [hsignificant, runLine, ← directive_parts 1 hword hgap hargument]
    rfl
  have hopened : opened 1 "RUN".toList (text ++ ['\\']) (runLine text) =
      { keyword := .run, argument := text ++ ['\\'], line := 1, raw := runLine text } := rfl
  have htext : joinKept [dropBackslash (text ++ ['\\'])] = text := by
    rw [dropBackslash_concat hargument, Text.stripEnd_eq_self hends]
    by_cases hnil : text = []
    · rw [hnil]
      rfl
    · exact joinKept_singleton hnil
  unfold buildCommands
  rw [hread, hopened, commands_singleton rfl]
  dsimp only
  rw [htext]
  rfl

end BuildScript

open BuildScript

/-! ## The law -/

/-- With settings that were loaded, the commands that count as calls of a
package manager are those of the last one of its name that is called. They are
its own in every script exactly when any two package managers of one name are
looked for with patterns that find the same commands; a text is that of a
command when it has no blanks at its ends. -/
theorem families_are_kept_apart_exactly_when_namesakes_agree [Characters] (source : Text)
    (value : Yaml.Value)
    (config : Config) (hload : (Config.loadValue source value).result = .ok config) :
    (∀ lines, ∃ facts, Facts.derive (ofLines lines) config = .ok facts ∧
      ∀ manager ∈ config.packageManagers, Rules.callsOf facts manager =
        ((lastCalled (ofLines lines).buildCommands config.packageManagers manager.name).map
          (·.calls (ofLines lines).buildCommands)).getD []) ∧
    ((∀ lines facts, Facts.derive (ofLines lines) config = .ok facts →
        ∀ manager ∈ config.packageManagers, Rules.callsOf facts manager =
          (ofLines lines).buildCommands.filter fun c => Pattern.finds manager.detect c.text) ↔
      ∀ manager ∈ config.packageManagers, ∀ other ∈ config.packageManagers,
        manager.name = other.name → ∀ text, Text.strip text = text →
          Pattern.finds manager.detect text = Pattern.finds other.detect text) := by
  have hderive : ∀ lines, ∃ facts, Facts.derive (ofLines lines) config = .ok facts := by
    intro lines
    have hchecked := Config.checked_of_loadValue hload
    refine exists_ok_of_failsOnly (failsOnly_bind ?_ fun _ => failsOnly_pure _)
    exact failsOnly_familiesOf _ hchecked.packageManagers _
  refine ⟨fun lines => ?_, ?_, ?_⟩
  · obtain ⟨facts, hfacts⟩ := hderive lines
    exact ⟨facts, hfacts, fun manager _ => callsOf_derive hfacts manager⟩
  · -- a script of one command with the text gives both the same calls
    intro hown manager hmanager other hother hname text htext
    obtain ⟨facts, hfacts⟩ := hderive [runLine text]
    have hsame : Rules.callsOf facts manager = Rules.callsOf facts other := by
      rw [callsOf_derive hfacts, callsOf_derive hfacts, hname]
    rw [hown _ facts hfacts manager hmanager, hown _ facts hfacts other hother,
      buildCommands_runLine htext] at hsame
    cases hm : Pattern.finds manager.detect text <;> cases ho : Pattern.finds other.detect text <;>
      simp [hm, ho] at hsame ⊢
  · intro hagree lines facts hfacts manager hmanager
    rw [callsOf_derive hfacts]
    cases hlast : lastCalled _ _ manager.name with
    | none => exact (calls_eq_nil_of_lastCalled hmanager hlast).symm
    | some last =>
      obtain ⟨hin, hname, _⟩ := of_lastCalled_eq_some hlast
      refine List.filter_congr fun c hc => ?_
      exact hagree last hin manager hmanager hname c.text (strip_of_mem_buildCommands hc)

/-- Settings for two package managers that are called by one word each. -/
def wordFamilies (first second : Yaml.Value) : Yaml.Value :=
  .map [(.str "package_managers", .map [
    (first, .map [(.str "detect", .str "aa"), (.str "install", .str "aa")]),
    (second, .map [(.str "detect", .str "bb"), (.str "install", .str "bb")])])]

open scoped Characters

/-- A number and a word are different names, and each family keeps its calls. -/
theorem a_number_and_a_word_are_kept_apart :
    ∃ config, (Config.loadValue "<config>" (wordFamilies (.int 1) (.str "one"))).result =
        .ok config ∧ config.packageManagers.length = 2 ∧
      ∀ lines facts, Facts.derive (ofLines lines) config = .ok facts →
        ∀ manager ∈ config.packageManagers, Rules.callsOf facts manager =
          (ofLines lines).buildCommands.filter fun c => Pattern.finds manager.detect c.text := by
  obtain ⟨config, hload, hlength, hnames⟩ : ∃ config,
      (Config.loadValue "<config>" (wordFamilies (.int 1) (.str "one"))).result = .ok config ∧
      config.packageManagers.length = 2 ∧ (config.packageManagers.map (·.name)).Nodup :=
    ⟨_, by rfl, by decide +kernel, by decide +kernel⟩
  refine ⟨config, hload, hlength,
    (families_are_kept_apart_exactly_when_namesakes_agree _ _ config hload).2.mpr ?_⟩
  intro manager hmanager other hother hname text _
  rw [List.inj_on_of_nodup_map hnames hmanager hother hname]

/-- A number and its text are one name. The command on line one is a call of
the first family, and the one on line two is taken for it. -/
theorem a_number_and_its_text_are_mixed_up :
    ∃ config facts, (Config.loadValue "<config>" (wordFamilies (.int 1) (.str "1"))).result =
        .ok config ∧
      Facts.derive (ofLines ["RUN aa", "RUN bb"]) config = .ok facts ∧
      ∃ manager ∈ config.packageManagers,
        ((ofLines ["RUN aa", "RUN bb"]).buildCommands.filter fun c =>
          Pattern.finds manager.detect c.text).map (·.line) = [1] ∧
        (Rules.callsOf facts manager).map (·.line) = [2] :=
  ⟨_, _, by rfl, by rfl, _, List.mem_cons_self, by decide +kernel, by decide +kernel⟩

end ImageLint
