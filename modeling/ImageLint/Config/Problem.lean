-- Why a configuration is refused, and how that is said.
import ImageLint.Pattern.Fault
import ImageLint.Yaml.Value

namespace ImageLint

inductive ConfigProblem where
  | notMapping
  | notCount (key : Text)
  | notCatalog (key : Text)
  | notTexts (key : Text)
  | notSwitch (key : Text)
  | notFamilies
  | incompleteFamily (name : Text)
  | notRules
  | incompleteRule
  | unknownSeverity (ruleId severity : Text)
  | badPattern (key : Text) (fault : Pattern.Fault)

def ConfigProblem.text : ConfigProblem → Text
  | .notMapping => "top level must be a mapping"
  | .notCount key => "'" ++ key ++ "' must be a non-negative integer"
  | .notCatalog key => "'" ++ key ++ "' must be a mapping of name to pattern"
  | .notTexts key => "'" ++ key ++ "' must be a list of strings"
  | .notSwitch key => "'" ++ key ++ "' must be true or false"
  | .notFamilies => "'package_managers' must be a mapping of family name to settings"
  | .incompleteFamily name => "package manager '" ++ name ++ "' needs 'detect' and 'install'"
  | .notRules => "'custom_rules' must be a list"
  | .incompleteRule => "each custom rule needs 'id' and 'pattern'"
  | .unknownSeverity ruleId severity =>
    "custom rule '" ++ ruleId ++ "' has unknown severity " ++ severity
  | .badPattern key fault =>
    "bad regex in '" ++ key ++ "': " ++ Text.quoted fault.source ++ " (" ++ fault.message ++ ")"

/-- Why no settings come of a configuration value. Beside the problems that
are reported, some values are only found unusable when they are used. -/
inductive ConfigFailure where
  | refused (source : Text) (problem : ConfigProblem)
  /-- The cleanup of a package manager is a single value of the named type
  and not a list. -/
  | notIterable (typeName : Text)
  | unwritable
  | unsupported (fault : Pattern.Fault)

def ConfigFailure.message : ConfigFailure → Text
  | .refused source problem => source ++ ": " ++ problem.text
  | .notIterable typeName => "'" ++ typeName ++ "' object is not iterable"
  | .unwritable => Text.digitLimitMessage []
  | .unsupported fault => fault.cause.text

end ImageLint
