-- When one character matches one part of a pattern, with and without regard
-- to letter case.
import ImageLint.Pattern.Tree
import ImageLint.Unicode.Casing
import ImageLint.Unicode.Word

namespace ImageLint.Pattern

/-! ## Classes -/

/-- The character is in a named class. Under the ASCII flag only ASCII
characters are in any. -/
def Category.has (ascii : Bool) (kind : Category) (c : Char) : Bool :=
  match kind with
  | .digit => if ascii then c.isDigit else Unicode.isDigit c
  | .space => if ascii then c == ' ' || (9 ≤ c.toNat && c.toNat ≤ 13) else Text.isBlank c
  | .word => if ascii then c.isAlphanum || c == '_' else Unicode.isWord c

/-! ## Letter case -/

def fold (ascii : Bool) (code : Nat) : Nat :=
  if ascii then if code < 0x80 then Unicode.lowerCode code else code else Unicode.lowerCode code

/-- The other lower-case letters that count as the same letter. -/
def twins (ascii : Bool) (code : Nat) : List Nat :=
  if ascii then [] else (Unicode.sameUpper.lookup code).getD []

def isCasedLetter (ascii : Bool) (code : Nat) : Bool :=
  if ascii then code < 0x80 && Unicode.isCasedCode code else Unicode.isCasedCode code

def foldSources (ascii : Bool) (code : Nat) : List Nat :=
  let capitals := [code - 0x20, 0x130] ++ Unicode.lowerRuns.map fun run =>
    ((code : Int) - run.distance).toNat
  (code :: capitals).filter (fold ascii · == code)

/-! ## Characters and sets -/

def charMatches (flags : Flags) (code : Nat) (c : Char) : Bool :=
  if flags.ignoreCase && isCasedLetter flags.ascii code then
    let folded := fold flags.ascii code
    (folded :: twins flags.ascii folded).contains (fold flags.ascii c.toNat)
  else c.toNat == code

/-- The last code point that letter case is tabulated for in sets. -/
def tabulated : Nat := 0xFFFF

/-- A letter in lower case matches a member of a set. Beyond the tabulated
code points a single character is compared as it stands, and a range with
the letter in both cases. -/
def SetItem.hasFolded (ascii : Bool) (folded : Nat) : SetItem → Bool
  | .char code =>
    if code ≤ tabulated then
      let own := fold ascii code
      (own :: twins ascii own).contains folded
    else folded == code
  | .range low high =>
    ((folded :: twins ascii folded).any fun twin =>
      (foldSources ascii twin).any fun code =>
        low ≤ code && code ≤ high && code ≤ tabulated) ||
    (tabulated < high &&
      ((low ≤ folded && folded ≤ high) ||
        (low ≤ Unicode.upperCode folded && Unicode.upperCode folded ≤ high)))
  | .category kind negated => kind.has ascii (Char.ofNat folded) != negated

/-- A character matches a member of a set as it stands. -/
def SetItem.has (ascii : Bool) (c : Char) : SetItem → Bool
  | .char code => c.toNat == code
  | .range low high => low ≤ c.toNat && c.toNat ≤ high
  | .category kind negated => kind.has ascii c != negated

def setMatches (flags : Flags) (negated : Bool) (items : List SetItem) (c : Char) : Bool :=
  negated != match items with
    | [.char code] => charMatches flags code c
    | _ =>
      if flags.ignoreCase then items.any (·.hasFolded flags.ascii (fold flags.ascii c.toNat))
      else items.any (·.has flags.ascii c)

/-- Two characters count as the same where letter case may be ignored. -/
def sameChar (flags : Flags) (a b : Char) : Bool :=
  if flags.ignoreCase then fold flags.ascii a.toNat == fold flags.ascii b.toNat else a == b

end ImageLint.Pattern
