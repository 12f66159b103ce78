-- The checks of directives that should be there, of the user, and of lines
-- that are no directive.
import ImageLint.Facts

namespace ImageLint.Rules

def workdirMissing (subject : Subject) : Except Pattern.Fault (List Finding) :=
  return if subject.script.has .workdir then [.pass "workdir_missing" 2 "WORKDIR is set."]
  else [
    { ruleId := "workdir_missing"
      severity := .warning
      message := "No WORKDIR instruction. Use WORKDIR rather than 'RUN cd' to organize the file layout."
      topic := 2 }]

def labelMissing (subject : Subject) : Except Pattern.Fault (List Finding) :=
  return if subject.script.has .label then []
  else [
    { ruleId := "label_missing"
      severity := .info
      message := "Add LABEL instructions to record image version, maintainer and source."
      topic := 8 }]

def exposeMissing (subject : Subject) : Except Pattern.Fault (List Finding) :=
  return if subject.script.has .expose then []
  else [
    { ruleId := "expose_missing"
      severity := .info
      message := "If the application listens on the network, declare its ports with EXPOSE."
      topic := 9 }]

def healthcheckMissing (subject : Subject) : Except Pattern.Fault (List Finding) :=
  return if subject.script.has .healthcheck then []
  else [
    { ruleId := "healthcheck_missing"
      severity := .info
      message := "Add a HEALTHCHECK so orchestrators can monitor the container."
      topic := 10 }]

variable [Characters]

def rootUser (subject : Subject) : Except Pattern.Fault (List Finding) :=
  let users := subject.script.ofKind .user
  let roots := users.filter (·.isRoot)
  return if !roots.isEmpty then [
    { ruleId := "root_user"
      severity := .error
      message := "Explicit 'USER root'. Production images should run as a non-root user."
      lines := Finding.refs (roots.map (·.line))
      topic := 11 }]
  else if users.isEmpty then [
    { ruleId := "root_user"
      severity := .warning
      message := "No USER instruction; the container will run as root. Create and switch to a non-root user."
      topic := 11 }]
  else [.pass "root_user" 11 "Runs as a non-root user."]

def unparsedLine (subject : Subject) : Except Pattern.Fault (List Finding) :=
  let malformed := subject.script.instructions.filter (·.malformed)
  return if malformed.isEmpty then []
  else [
    { ruleId := "unparsed_line"
      severity := .info
      message := Text.ofNat malformed.length ++
        " line(s) are not recognized build instructions; keyword checks ignore them."
      lines := Finding.refs (malformed.map (·.line))
      topic := 13 }]

end ImageLint.Rules
