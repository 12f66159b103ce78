-- The structure of a search pattern.
import ImageLint.Text.Basic

namespace ImageLint.Pattern

/-! ## Parts -/

/-- A class of characters with a name of its own. -/
inductive Category where
  | digit
  | space
  | word
  deriving DecidableEq, Repr

/-- A member of a set of characters. Characters are given by their code
points, so that an escape may name one that no text can hold. -/
inductive SetItem where
  | char (code : Nat)
  | range (low high : Nat)
  | category (kind : Category) (negated : Bool)
  deriving DecidableEq, Repr

inductive Anchor where
  | lineStart
  | lineEnd
  | textStart
  | textEnd
  | boundary
  | notBoundary
  deriving DecidableEq, Repr

/-- How a repetition chooses its length: as long as it can be, as short as
it can be, or as long as it can be without ever giving back. -/
inductive Greed where
  | longest
  | shortest
  | possessive
  deriving DecidableEq, Repr

structure Flags where
  ignoreCase : Bool := false
  multiline : Bool := false
  dotAll : Bool := false
  ascii : Bool := false
  deriving DecidableEq, Repr

/-- Switches turned on or off for a part of a pattern. -/
structure FlagChange where
  ignoreCase : Option Bool := none
  multiline : Option Bool := none
  dotAll : Option Bool := none
  ascii : Option Bool := none
  deriving DecidableEq, Repr

def Flags.apply (flags : Flags) (change : FlagChange) : Flags :=
  { ignoreCase := change.ignoreCase.getD flags.ignoreCase
    multiline := change.multiline.getD flags.multiline
    dotAll := change.dotAll.getD flags.dotAll
    ascii := change.ascii.getD flags.ascii }

/-- The least and the greatest number of characters a part can match. -/
structure Width where
  least : Nat
  most : Nat
  deriving DecidableEq, Repr

/-! ## The tree -/

inductive Tree where
  | empty
  | char (code : Nat)
  /-- Matches one character in a set, or one outside it. -/
  | set (negated : Bool) (items : List SetItem)
  /-- Matches any one character, or any but a line feed. -/
  | any
  | anchor (anchor : Anchor)
  | concat (first second : Tree)
  | alternate (first second : Tree)
  /-- Matches its body under changed flags, and remembers the text under its
  number if it has one. -/
  | group (number : Option Nat) (change : FlagChange) (body : Tree)
  /-- Matches its body the first way it can, with no other tried later. -/
  | atomic (body : Tree)
  | recall (number : Nat)
  /-- Matches the first part when a group remembers a text, else the second. -/
  | conditional (number : Nat) (present absent : Tree)
  | repetition (greed : Greed) (least : Nat) (most : Option Nat) (body : Tree)
  /-- Matches the empty text where its body matches, or does not match,
  what follows. -/
  | lookAhead (negated : Bool) (body : Tree)
  /-- Matches the empty text where its body matches, or does not match, as
  many characters back as the body is wide. -/
  | lookBehind (negated : Bool) (width : Width) (body : Tree)
  deriving Repr

namespace Tree

def ofList : List Tree → Tree
  | [] => .empty
  | [part] => part
  | part :: parts => .concat part (ofList parts)

def isAnchor : Tree → Bool
  | .anchor _ => true
  | _ => false

def isRepetition : Tree → Bool
  | .repetition .. => true
  | _ => false

end Tree

/-! ## Widths -/

/-- The width that stands for "no bound". -/
def unbounded : Nat := Nat.pow 2 64

namespace Width

def add (a b : Width) : Width := ⟨min unbounded (a.least + b.least), min unbounded (a.most + b.most)⟩

def join (a b : Width) : Width := ⟨min a.least b.least, max a.most b.most⟩

/-- The width of a part repeated from `least` to `most` times. -/
def times (w : Width) (least : Nat) (most : Option Nat) : Width :=
  ⟨min unbounded (w.least * least),
    match most with
    | some count => min unbounded (w.most * count)
    | none => if w.most = 0 then 0 else unbounded⟩

end Width

/-- The width of a pattern, given those of the numbered groups. -/
def Tree.width (groups : Nat → Width) : Tree → Width
  | .empty | .anchor _ | .lookAhead .. | .lookBehind .. => ⟨0, 0⟩
  | .char _ | .set .. | .any => ⟨1, 1⟩
  | .concat first second => (first.width groups).add (second.width groups)
  | .alternate first second => (first.width groups).join (second.width groups)
  | .group _ _ body => body.width groups
  | .atomic body => body.width groups
  | .recall number => groups number
  | .conditional _ present absent => (present.width groups).join (absent.width groups)
  | .repetition _ least most body => (body.width groups).times least most

end ImageLint.Pattern
