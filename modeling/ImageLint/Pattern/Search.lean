-- Searching a text for a pattern. Alternatives are tried in order and
-- repetitions by their greed; the first way that lets the rest of the
-- pattern match is taken.
import ImageLint.Pattern.Member
import ImageLint.Pattern.Reader

namespace ImageLint.Pattern

/-- A place in a text, and the texts that groups remember there. -/
structure Spot where
  before : Text
  after : Text
  groups : List (Nat × Text) := []
  deriving Repr

/-- How the rest of a match goes on from a place: to the place where it
ends, if it succeeds. -/
abbrev Rest := Spot → Option Spot

/-- A way of matching: from a place, and then the rest. -/
abbrev Matcher := Spot → Rest → Option Spot

/-! ## Places -/

namespace Spot

/-- The place is between a word character and something else. -/
def atBoundary (ascii : Bool) (spot : Spot) : Bool :=
  let isWord := fun c => Category.has ascii .word c
  (spot.before.head?.map isWord).getD false != (spot.after.head?.map isWord).getD false

/-- The condition holds at the place. No condition on word boundaries holds
in an empty text. -/
def satisfies (flags : Flags) (spot : Spot) : Anchor → Bool
  | .lineStart => spot.before.isEmpty || (flags.multiline && spot.before.head? == some '\n')
  | .lineEnd =>
    spot.after.isEmpty || spot.after == ['\n'] ||
      (flags.multiline && spot.after.head? == some '\n')
  | .textStart => spot.before.isEmpty
  | .textEnd => spot.after.isEmpty
  | .boundary => spot.atBoundary flags.ascii
  | .notBoundary =>
    !(spot.before.isEmpty && spot.after.isEmpty) && !spot.atBoundary flags.ascii

/-- The place after the next character, if that satisfies `p`. -/
def step (p : Char → Bool) (spot : Spot) : Option Spot :=
  match spot.after with
  | c :: rest => if p c then some { spot with before := c :: spot.before, after := rest } else none
  | [] => none

/-- The place `count` characters back, if there are as many. -/
def back : Nat → Spot → Option Spot
  | 0, spot => some spot
  | count + 1, spot =>
    match spot.before with
    | c :: rest => back count { spot with before := rest, after := c :: spot.after }
    | [] => none

def textTo (spot later : Spot) : Text := spot.after.take (spot.after.length - later.after.length)

def remember (number : Nat) (text : Text) (spot : Spot) : Spot :=
  { spot with groups := (number, text) :: spot.groups.filter (·.1 != number) }

def skip (flags : Flags) : Text → Spot → Option Spot
  | [], spot => some spot
  | c :: rest, spot => (spot.step (sameChar flags · c)).bind (skip flags rest)

end Spot

/-! ## Repetitions -/

/-- How often a body is still to be matched: `least` times at least, and at
most `most` times if there is a bound. -/
def moreAllowed (done : Nat) (most : Option Nat) : Bool :=
  match most with
  | none => true
  | some most => done < most

/-- Repeats `body`, `done` times being done. Beyond the least number, a round
starts only at a place where no such round has started, so that a round of
the empty text is not repeated. The first argument bounds the rounds. -/
def repeatBody (body : Matcher) (shortest : Bool) (least : Nat) (most : Option Nat) :
    Nat → Nat → Option Nat → Matcher
  | 0, _, _, spot, rest => rest spot
  | rounds + 1, done, last, spot, rest =>
    if done < least then
      body spot fun spot => repeatBody body shortest least most rounds (done + 1) last spot rest
    else
      let size := spot.after.length
      let again := fun (_ : Unit) =>
        if moreAllowed done most && last != some size then
          body spot fun spot =>
            repeatBody body shortest least most rounds (done + 1) (some size) spot rest
        else none
      if shortest then (rest spot).or (again ()) else (again ()).or (rest spot)

/-- The place after as many rounds of `body` as there are, each matched the
first way it can. The first argument bounds the rounds. -/
def exhaustBody (body : Matcher) (least : Nat) (most : Option Nat) : Nat → Nat → Rest
  | 0, _, spot => some spot
  | rounds + 1, done, spot =>
    if done < least then
      (body spot some).bind (exhaustBody body least most rounds (done + 1))
    else if moreAllowed done most then
      match body spot some with
      | none => some spot
      | some spot' =>
        if spot'.after.length = spot.after.length then some spot'
        else exhaustBody body least most rounds (done + 1) spot'
    else some spot

/-! ## Matching -/

/-- Matches a pattern at a place, and then the rest. -/
def run (flags : Flags) : Tree → Matcher
  | .empty, spot, rest => rest spot
  | .char code, spot, rest => (spot.step (charMatches flags code)).bind rest
  | .set negated items, spot, rest => (spot.step (setMatches flags negated items)).bind rest
  | .any, spot, rest => (spot.step fun c => flags.dotAll || c != '\n').bind rest
  | .anchor anchor, spot, rest => if spot.satisfies flags anchor then rest spot else none
  | .concat first second, spot, rest => run flags first spot fun spot => run flags second spot rest
  | .alternate first second, spot, rest =>
    match run flags first spot rest with
    | some found => some found
    | none => run flags second spot rest
  | .group none change body, spot, rest => run (flags.apply change) body spot rest
  | .group (some number) change body, spot, rest =>
    run (flags.apply change) body spot fun later =>
      rest (later.remember number (spot.textTo later))
  | .atomic body, spot, rest => (run flags body spot some).bind rest
  | .recall number, spot, rest =>
    match spot.groups.lookup number with
    | some text => (spot.skip flags text).bind rest
    | none => none
  | .conditional number present absent, spot, rest =>
    if (spot.groups.lookup number).isSome then run flags present spot rest
    else run flags absent spot rest
  | .repetition greed least most body, spot, rest =>
    let rounds := least + spot.after.length + 2
    match greed with
    | .possessive => (exhaustBody (run flags body) least most rounds 0 spot).bind rest
    | _ => repeatBody (run flags body) (greed == .shortest) least most rounds 0 none spot rest
  | .lookAhead negated body, spot, rest =>
    match run flags body spot some with
    | some found => if negated then none else rest { spot with groups := found.groups }
    | none => if negated then rest spot else none
  | .lookBehind negated width body, spot, rest =>
    match (spot.back width.least).bind fun start => run flags body start some with
    | some found => if negated then none else rest { spot with groups := found.groups }
    | none => if negated then rest spot else none

/-- The pattern matches at the place after `before`, or at a later one. -/
def matchesFrom (flags : Flags) (tree : Tree) : Text → Text → Bool
  | before, [] => (run flags tree ⟨before, [], []⟩ some).isSome
  | before, c :: after =>
    (run flags tree ⟨before, c :: after, []⟩ some).isSome ||
      matchesFrom flags tree (c :: before) after

end ImageLint.Pattern

namespace ImageLint.Pattern

def matchesIn (pattern : Pattern) (text : Text) : Bool :=
  matchesFrom pattern.flags pattern.tree [] text

variable [Characters]

/-- Whether the pattern written as `source` matches somewhere in the text, or
what is wrong with the pattern. -/
def search (source text : Text) (flags : Flags := {}) : Except Fault Bool :=
  (Pattern.read source flags).map (·.matchesIn text)

end ImageLint.Pattern
