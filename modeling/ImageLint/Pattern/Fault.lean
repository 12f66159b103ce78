-- What can be wrong with a pattern, and how it is said.
import ImageLint.Text.Quoted

namespace ImageLint.Pattern

inductive Cause where
  | danglingEscape
  | badEscape (escape : Text)
  | incompleteEscape (escape : Text)
  | octalTooLarge (escape : Text)
  | missingBrace
  | undefinedCharacter (name : Text)
  | unterminatedSet
  | badRange (low high : Text)
  | nothingToRepeat
  | multipleRepeat
  | repeatOutOfOrder
  | repeatTooLarge
  | tooManyDigits (count : Nat)
  | unterminatedGroup
  | unbalancedParenthesis
  | unterminatedComment
  | unexpectedEnd
  | unknownExtension (extension : Text)
  | missingName (what : Text)
  | unterminatedName (terminator : Char)
  | badName (name : Text)
  | redefinedName (name : Text) (number earlier : Nat)
  | unknownName (name : Text)
  | badGroupNumber
  | invalidReference (number : Nat)
  | openGroup
  | groupOfSameLookBehind
  | threeBranches
  | flagsNotAtStart
  | missingFlagEnd
  | missingFlag
  | missingColon
  | unknownFlag
  | localeFlag
  | mixedAlphabets
  | alphabetTurnedOff
  | wholePatternFlagOn
  | wholePatternFlagOff
  | flagOnAndOff
  | alphabetsInConflict
  | repeatInTemplate (repetition : Text)
  | lookBehindNotFixed
  | lookBehindTooWide
  deriving DecidableEq, Repr

/-- What kind of failure a cause is. Most are bad patterns; the others are refused
by the limits and the flags of the matcher. -/
inductive FaultKind where
  | malformed
  | overflow
  | digits
  | conflict
  deriving DecidableEq, Repr

/-- A fault of a pattern: its cause, the place it was found at, and the text of
the pattern. -/
structure Fault where
  cause : Cause
  position : Option Nat := none
  source : Text := []
  deriving DecidableEq, Repr

def Cause.kind : Cause → FaultKind
  | .repeatTooLarge => .overflow
  | .tooManyDigits _ => .digits
  | .alphabetsInConflict => .conflict
  | _ => .malformed

def Cause.text : Cause → Text
  | .danglingEscape => "bad escape (end of pattern)"
  | .badEscape escape => "bad escape " ++ escape
  | .incompleteEscape escape => "incomplete escape " ++ escape
  | .octalTooLarge escape => "octal escape value " ++ escape ++ " outside of range 0-0o377"
  | .missingBrace => "missing \x7b"
  | .undefinedCharacter name => "undefined character name " ++ Text.quoted name
  | .unterminatedSet => "unterminated character set"
  | .badRange low high => "bad character range " ++ low ++ "-" ++ high
  | .nothingToRepeat => "nothing to repeat"
  | .multipleRepeat => "multiple repeat"
  | .repeatOutOfOrder => "min repeat greater than max repeat"
  | .repeatTooLarge => "the repetition number is too large"
  | .tooManyDigits count =>
    Text.digitLimitMessage (": value has " ++ Text.ofNat count ++ " digits")
  | .unterminatedGroup => "missing ), unterminated subpattern"
  | .unbalancedParenthesis => "unbalanced parenthesis"
  | .unterminatedComment => "missing ), unterminated comment"
  | .unexpectedEnd => "unexpected end of pattern"
  | .unknownExtension extension => "unknown extension ?" ++ extension
  | .missingName what => "missing " ++ what
  | .unterminatedName terminator => "missing " ++ [terminator] ++ ", unterminated name"
  | .badName name => "bad character in group name " ++ Text.quoted name
  | .redefinedName name number earlier =>
    "redefinition of group name " ++ Text.quoted name ++ " as group " ++ Text.ofNat number ++
      "; was group " ++ Text.ofNat earlier
  | .unknownName name => "unknown group name " ++ Text.quoted name
  | .badGroupNumber => "bad group number"
  | .invalidReference number => "invalid group reference " ++ Text.ofNat number
  | .openGroup => "cannot refer to an open group"
  | .groupOfSameLookBehind => "cannot refer to group defined in the same lookbehind subpattern"
  | .threeBranches => "conditional backref with more than two branches"
  | .flagsNotAtStart => "global flags not at the start of the expression"
  | .missingFlagEnd => "missing -, : or )"
  | .missingFlag => "missing flag"
  | .missingColon => "missing :"
  | .unknownFlag => "unknown flag"
  | .localeFlag => "bad inline flags: cannot use 'L' flag with a str pattern"
  | .mixedAlphabets => "bad inline flags: flags 'a', 'u' and 'L' are incompatible"
  | .alphabetTurnedOff => "bad inline flags: cannot turn off flags 'a', 'u' and 'L'"
  | .wholePatternFlagOn => "bad inline flags: cannot turn on global flag"
  | .wholePatternFlagOff => "bad inline flags: cannot turn off global flag"
  | .flagOnAndOff => "bad inline flags: flag turned on and off"
  | .alphabetsInConflict => "ASCII and UNICODE flags are incompatible"
  | .repeatInTemplate repetition => "internal: unsupported template operator " ++ repetition
  | .lookBehindNotFixed => "look-behind requires fixed-width pattern"
  | .lookBehindTooWide => "looks too much behind"

/-- Where a place lies in a text of several lines. -/
def lineAndColumn (source : Text) (position : Nat) : Text :=
  let before := source.take position
  let column := (before.reverse.takeWhile (· != '\n')).length + 1
  " (line " ++ Text.ofNat (before.count '\n' + 1) ++ ", column " ++ Text.ofNat column ++ ")"

def Fault.message (fault : Fault) : Text :=
  match fault.position with
  | none => fault.cause.text
  | some position =>
    fault.cause.text ++ " at position " ++ Text.ofNat position ++
      (if fault.source.contains '\n' then lineAndColumn fault.source position else [])

end ImageLint.Pattern
