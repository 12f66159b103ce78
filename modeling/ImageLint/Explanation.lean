-- What each rule is for, as told to those who ask.
import ImageLint.Text.Basic

namespace ImageLint

structure Explanation where
  ruleId : Text
  severity : Text
  description : Text
  occasion : Text
  fix : Text
  deriving DecidableEq, Repr

namespace Explanation

def all : List Explanation := [
  { ruleId := "exclusion_file"
    severity := "ERROR / WARNING"
    description := "Validates that .dockerignore exists and actually excludes something."
    occasion :=
      "ERROR if the file is empty or only comments (looks like a bypass); WARNING if absent " ++
        "or it has fewer than 3 rules."
    fix := "Add a .dockerignore with real entries such as .git, node_modules, *.log." },
  { ruleId := "exclusion_coverage"
    severity := "WARNING / INFO"
    description := "Checks a sufficient .dockerignore for high-value patterns."
    occasion :=
      "WARNING if .git or node_modules is missing; INFO if only docs/tests/build-output " ++
        "patterns are missing."
    fix := "Add the listed patterns to .dockerignore." },
  { ruleId := "base_image_weight"
    severity := "WARNING / INFO"
    description :=
      "The first FROM should be a lightweight variant (alpine, slim, scratch, distroless)."
    occasion :=
      "WARNING for full ubuntu/debian/centos/fedora images; INFO for other non-slim images."
    fix := "Switch to e.g. python:3.11-slim or node:18-alpine." },
  { ruleId := "base_image_tag"
    severity := "ERROR"
    description := "The first FROM floats on the 'latest' tag and is not a lightweight variant."
    occasion := "FROM image:latest without alpine/slim/scratch."
    fix := "Pin an explicit version tag (or digest) and prefer a slim variant." },
  { ruleId := "workdir_missing"
    severity := "WARNING"
    description := "No WORKDIR instruction anywhere."
    occasion := "The Dockerfile never sets WORKDIR."
    fix := "Use WORKDIR /app instead of RUN cd." },
  { ruleId := "install_recommends"
    severity := "WARNING"
    description := "apt-get install without --no-install-recommends."
    occasion := "An apt-get install command lacks the flag."
    fix := "apt-get install -y --no-install-recommends <packages>" },
  { ruleId := "package_cache_cleanup"
    severity := "WARNING"
    description := "Package manager installs without clearing its cache."
    occasion := "apt/yum/dnf/apk installs and no matching cleanup idiom appears in the Dockerfile."
    fix := "apt: rm -rf /var/lib/apt/lists/*; yum/dnf: clean all; apk: --no-cache or apk del." },
  { ruleId := "update_install_split"
    severity := "WARNING"
    description := "Index update and install in separate RUN instructions."
    occasion :=
      "apt-get update and apt-get install (or apk update/add) never appear in the same RUN."
    fix := "RUN apt-get update && apt-get install -y ... && rm -rf /var/lib/apt/lists/*" },
  { ruleId := "apk_virtual_deps"
    severity := "INFO"
    description := "apk build dependencies not grouped with --virtual."
    occasion := "apk add installs gcc/make/build packages without --virtual."
    fix := "apk add --virtual .build-deps gcc make && ... && apk del .build-deps" },
  { ruleId := "temp_file_cleanup"
    severity := "WARNING"
    description := "Downloads or installs without removing temporary/cache files."
    occasion :=
      "wget, curl, pip install or npm install appear and nothing rm's /tmp, caches or logs."
    fix := "&& rm -rf /tmp/* /var/tmp/* ~/.cache" },
  { ruleId := "run_count"
    severity := "WARNING"
    description := "Too many RUN instructions (each one is a layer)."
    occasion := "More than 5 RUN instructions (configurable)."
    fix := "Chain related commands with && in one RUN." },
  { ruleId := "multi_stage"
    severity := "WARNING"
    description := "Compile/build tooling in a single-stage build."
    occasion :=
      "Fewer than 2 FROM instructions and gcc/make/mvn/gradle/go build/npm install etc. " ++
        "appear."
    fix := "Build in a named stage and COPY --from it into a slim runtime stage." },
  { ruleId := "copy_whole_context"
    severity := "WARNING"
    description := "COPY . or ADD . copies the whole build context."
    occasion := "A COPY/ADD whose only source is '.'."
    fix := "Copy specific paths, or make .dockerignore thorough." },
  { ruleId := "copy_unnecessary_files"
    severity := "WARNING"
    description := "COPY/ADD of docs, tests or license files."
    occasion :=
      "A COPY/ADD argument mentions .md, test/, tests/, spec/, docs/, README or LICENSE " ++
        "(first match only)."
    fix := "Leave docs and tests out of runtime images." },
  { ruleId := "label_missing"
    severity := "INFO"
    description := "No LABEL instruction."
    occasion := "The Dockerfile never uses LABEL."
    fix := "LABEL org.opencontainers.image.version=... org.opencontainers.image.source=..." },
  { ruleId := "expose_missing"
    severity := "INFO"
    description := "No EXPOSE instruction."
    occasion := "The Dockerfile never uses EXPOSE."
    fix := "EXPOSE <port> for network services." },
  { ruleId := "healthcheck_missing"
    severity := "INFO"
    description := "No HEALTHCHECK instruction."
    occasion := "The Dockerfile never uses HEALTHCHECK."
    fix := "HEALTHCHECK CMD curl -f http://localhost/ || exit 1" },
  { ruleId := "root_user"
    severity := "ERROR / WARNING"
    description := "The container runs as root."
    occasion := "ERROR on explicit USER root; WARNING when there is no USER instruction."
    fix := "RUN adduser -D app && USER app" },
  { ruleId := "add_instead_of_copy"
    severity := "WARNING"
    description := "ADD used where COPY or RUN curl is clearer."
    occasion := "ADD of local files, or ADD of an http(s) URL."
    fix := "COPY for local files; RUN curl -fsSL ... for downloads." },
  { ruleId := "unparsed_line"
    severity := "INFO"
    description := "Lines that are not recognized build instructions."
    occasion := "A line starts with an unknown token or a keyword without arguments."
    fix := "Check for typos or a missing line continuation backslash." }]

def find? (ruleId : Text) : Option Explanation := all.find? (·.ruleId == ruleId)

def lines (explanation : Explanation) : List Text := [
  "Rule: " ++ explanation.ruleId,
  "Severity: " ++ explanation.severity,
  "Description: " ++ explanation.description,
  "When: " ++ explanation.occasion,
  "Fix: " ++ explanation.fix]

def overview : List Text :=
  let names : List Text := all.map fun explanation => "  " ++ explanation.ruleId
  let hints : List Text := ["", "Use: slimcheck --explain <rule_id>"]
  "Available rules:" :: (names ++ hints)

/-- What is said of a rule that is not known. -/
def unknownMessage (ruleId : Text) : Text :=
  "Unknown rule: " ++ ruleId ++ "\nAvailable: " ++ Text.joinWith ", " (all.map (·.ruleId))

def overviewNames : List Text := ["list", "rules"]

/-- The lines that answer a question about rules, or what is said when there
is no such rule. -/
def answer (question : Text) : Except Text (List Text) :=
  if overviewNames.contains question then .ok overview
  else match find? question with
    | some explanation => .ok explanation.lines
    | none => .error (unknownMessage question)

end Explanation

end ImageLint
