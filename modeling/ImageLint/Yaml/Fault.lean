-- Why a document gives no value.
import ImageLint.Calendar
import ImageLint.Text.Quoted

namespace ImageLint.Yaml

/-- Why a document gives no value. Most faults are of the document's form; the
others are of scalars that have the form of a value and are none. -/
inductive Fault where
  /-- The text is no document, or not a single one. -/
  | malformed
  /-- An escape names a number that is no character. -/
  | noCharacter
  /-- A number without digits. -/
  | emptyNumber
  | notInteger (base : Nat) (text : Text)
  | tooManyDigits (count : Nat)
  | notNumber (text : Text)
  | notTruth (text : Text)
  | notDate
  | badDate (problem : DateProblem)
  deriving DecidableEq, Repr

def Fault.message : Fault → Text
  | .malformed => "malformed document"
  | .noCharacter => "chr() arg not in range(0x110000)"
  | .emptyNumber => "string index out of range"
  | .notInteger base text =>
    "invalid literal for int() with base " ++ Text.ofNat base ++ ": " ++ Text.quoted text
  | .tooManyDigits count =>
    Text.digitLimitMessage (": value has " ++ Text.ofNat count ++ " digits")
  | .notNumber text => "could not convert string to float: " ++ Text.quoted text
  | .notTruth text => Text.quoted text
  | .notDate => "'NoneType' object has no attribute 'groupdict'"
  | .badDate problem => problem.message

end ImageLint.Yaml
