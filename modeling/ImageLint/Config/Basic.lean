-- The settings of the checks: thresholds and catalogs of patterns.
import ImageLint.Finding

namespace ImageLint

/-- A package manager that a build script may call. All but the name and the
flag are search patterns. -/
structure PackageManager where
  name : Text
  detect : Text
  install : Text
  update : Option Text := none
  cleanup : List Text := []
  noRecommends : Option Text := none
  deriving DecidableEq, Repr

/-- A rule that the user declares: a search pattern over instruction lines. -/
structure CustomRule where
  ruleId : Text
  severity : Severity
  pattern : Text
  message : Text
  /-- The kind of instruction that the rule is limited to. -/
  keyword : Option Text := none
  deriving DecidableEq, Repr

namespace PackageManager

def apt : PackageManager :=
  { name := "apt"
    detect := "\\bapt-get\\b"
    install := "apt-get\\s+(?:-\\S+\\s+)*install\\b"
    update := some "apt-get\\s+(?:-\\S+\\s+)*update\\b".toList
    cleanup := ["rm\\s+-(?:rf|fr)\\s+/var/lib/apt/lists"]
    noRecommends := some "--no-install-recommends".toList }

def yum : PackageManager :=
  { name := "yum"
    detect := "\\byum\\b"
    install := "\\byum\\s+(?:-\\S+\\s+)*install\\b"
    cleanup := ["\\byum\\s+clean\\s+all", "rm\\s+-(?:rf|fr)\\s+/var/cache/yum"] }

def dnf : PackageManager :=
  { name := "dnf"
    detect := "\\bdnf\\b"
    install := "\\bdnf\\s+(?:-\\S+\\s+)*install\\b"
    cleanup := ["\\bdnf\\s+clean\\s+all", "rm\\s+-(?:rf|fr)\\s+/var/cache/dnf"] }

def apk : PackageManager :=
  { name := "apk"
    detect := "\\bapk\\s+add\\b"
    install := "\\bapk\\s+add\\b"
    update := some "\\bapk\\s+update\\b".toList
    cleanup := ["--no-cache", "\\bapk\\s+del\\b"] }

end PackageManager

structure Config where
  /-- The most `RUN` instructions that go without a warning. -/
  runThreshold : Nat := 5
  minExclusionRules : Nat := 3
  /-- Names of exclusions that must not be missing, with the text looked for
  in each rule. -/
  criticalExclusions : List (Text × Text) := [
    ("version-control", ".git"),
    ("node-modules", "node_modules")]
  /-- Names of exclusions worth having, with the text looked for. -/
  advisoryExclusions : List (Text × Text) := [
    ("build-output", "target/"),
    ("python-bytecode", "__pycache__/"),
    ("coverage", "coverage/"),
    ("logs", "*.log"),
    ("env-files", ".env"),
    ("markdown", "*.md"),
    ("docs", "docs/"),
    ("test-dir", "test/"),
    ("tests-dir", "tests/"),
    ("spec-dir", "spec/")]
  lightweightMarkers : List Text := ["alpine", "slim", "scratch", "distroless"]
  /-- Names of heavy distributions, with the pattern that finds them in an
  image reference in any letter case. -/
  heavyDistributions : List (Text × Text) := [
    ("ubuntu", "ubuntu"),
    ("debian", "debian"),
    ("centos", "centos"),
    ("fedora", "fedora")]
  /-- An image without a tag counts as the latest one. -/
  treatUntaggedAsLatest : Bool := false
  packageManagers : List PackageManager :=
    [PackageManager.apt, PackageManager.yum, PackageManager.dnf, PackageManager.apk]
  /-- The pattern of packages only needed while building. -/
  apkBuildDeps : Text := "\\b(?:gcc|make|build-base|build)\\b"
  fetchIndicators : List Text := ["wget", "curl", "pip install", "npm install"]
  tempCleanupPatterns : List Text := ["/tmp/", "/var/tmp/", "\\.tmp", "\\.log", "cache"]
  buildToolPatterns : List Text := [
    "gcc", "make", "build-essential", "npm install", "pip install.*-r", "go build", "mvn", "gradle"]
  unnecessaryCopyPatterns : List Text :=
    [".md", "test/", "tests/", "spec/", "docs/", "README", "LICENSE"]
  disabledRules : List Text := []
  customRules : List CustomRule := []
  deriving DecidableEq, Repr

structure Overrides where
  runThreshold : Option Nat := none
  minExclusionRules : Option Nat := none
  treatUntaggedAsLatest : Option Bool := none
  disabledRules : List Text := []

/-- The settings with overrides. What is not given stays. -/
def Config.withOverrides (config : Config) (overrides : Overrides) : Config :=
  { config with
    runThreshold := overrides.runThreshold.getD config.runThreshold
    minExclusionRules := overrides.minExclusionRules.getD config.minExclusionRules
    treatUntaggedAsLatest := overrides.treatUntaggedAsLatest.getD config.treatUntaggedAsLatest
    disabledRules := Text.distinct (config.disabledRules ++ overrides.disabledRules) }

end ImageLint
