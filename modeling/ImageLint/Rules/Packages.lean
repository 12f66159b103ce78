-- The checks of how packages are installed. A package manager is only looked
-- at when some command calls it.
import ImageLint.Facts

namespace ImageLint.Rules

def calledManagers (subject : Subject) : List PackageManager :=
  subject.config.packageManagers.filter fun manager =>
    !(subject.facts.familyLines manager.name).isEmpty

def callsOf (facts : Facts) (manager : PackageManager) : List Command :=
  let lines := facts.familyLines manager.name
  facts.commands.filter fun c => lines.contains c.line

variable [Characters]

def installsOf (facts : Facts) (manager : PackageManager) : Except Pattern.Fault (List Command) :=
  (callsOf facts manager).filterM fun c => Pattern.search manager.install c.text

def given : Option Text → Option Text
  | some [] => none
  | text => text

/-- What a check finds for each of some package managers. -/
def forEach (managers : List PackageManager)
    (check : PackageManager → Except Pattern.Fault (List Finding)) :
    Except Pattern.Fault (List Finding) := do
  return (← managers.mapM check).flatten

/-- Installing leaves out recommended packages, where there is a flag for it. -/
def installRecommends (subject : Subject) : Except Pattern.Fault (List Finding) :=
  forEach (calledManagers subject) fun manager => do
    let some flag := given manager.noRecommends | return []
    let installs ← installsOf subject.facts manager
    let offending := installs.filter fun c => !Text.holds flag c.text
    if offending.isEmpty then return []
    return [
      { ruleId := "install_recommends"
        severity := .warning
        message := manager.name ++ " install without " ++ flag ++
          "; recommended packages will be pulled in and enlarge the image."
        lines := Finding.refs (offending.map (·.line))
        topic := 3 }]

/-- How to clear the cache of a package manager that is known. -/
def cleanupTip? (name : Text) : Option Text :=
  List.lookup name [
    ("apt".toList, "In the same RUN: && apt-get clean && rm -rf /var/lib/apt/lists/*".toList),
    ("yum".toList, "In the same RUN: && yum clean all".toList),
    ("dnf".toList, "In the same RUN: && dnf clean all".toList),
    ("apk".toList,
      "Use apk add --no-cache, or remove temporary dependencies with apk del".toList)]

def cleansCache (facts : Facts) (manager : PackageManager) : Except Pattern.Fault Bool :=
  manager.cleanup.anyM fun pattern => facts.commands.anyM fun c => Pattern.search pattern c.text

def packageCacheCleanup (subject : Subject) : Except Pattern.Fault (List Finding) :=
  let called := calledManagers subject
  if called.isEmpty then
    return [.pass "package_cache_cleanup" 3 "No package manager operations detected."]
  else
    forEach called fun manager => do
      let installs ← installsOf subject.facts manager
      if installs.isEmpty then return []
      if ← cleansCache subject.facts manager then return []
      return [
        { ruleId := "package_cache_cleanup"
          severity := .warning
          message := manager.name ++ " installs packages but its cache is never cleaned."
          lines := Finding.refs (installs.map (·.line))
          topic := 3
          tip := cleanupTip? manager.name }]

def ascending (lines : List Nat) : List Nat := lines.eraseDups.mergeSort

/-- The package index is refreshed where packages are installed. A refresh on
a line of its own need not call the package manager otherwise. -/
def updateInstallSplit (subject : Subject) : Except Pattern.Fault (List Finding) :=
  forEach (calledManagers subject) fun manager => do
    let some pattern := given manager.update | return []
    let updates ← subject.facts.commands.filterM fun c =>
      if c.runsAtBuild then Pattern.search pattern c.text else pure false
    let installs ← installsOf subject.facts manager
    if updates.isEmpty || installs.isEmpty then return []
    if updates.any installs.contains then return []
    return [
      { ruleId := "update_install_split"
        severity := .warning
        message := manager.name ++
          " index update and install are in separate instructions; combine them into one RUN."
        lines := Finding.refs (ascending ((updates ++ installs).map (·.line)))
        topic := 3 }]

/-- Packages only needed while building are grouped, so that they can be
removed together. -/
def apkVirtualDeps (subject : Subject) : Except Pattern.Fault (List Finding) :=
  let managers := (calledManagers subject).filter fun manager => manager.name == "apk".toList
  forEach managers fun manager => do
    let installs ← installsOf subject.facts manager
    let offending ← installs.filterM fun c =>
      if Text.holds "--virtual" c.text then pure false
      else Pattern.search subject.config.apkBuildDeps c.text
    if offending.isEmpty then return []
    return [
      { ruleId := "apk_virtual_deps"
        severity := .info
        message := "Build dependencies installed with apk add; group them with --virtual so they can be removed later."
        lines := Finding.refs (offending.map (·.line))
        topic := 3 }]

end ImageLint.Rules
