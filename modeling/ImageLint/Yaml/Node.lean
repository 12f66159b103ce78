-- The nodes of a document, read from its tokens.
import ImageLint.Yaml.Kind
import ImageLint.Yaml.Token

namespace ImageLint.Yaml

/-- A node of a document. An alias is the node that it names. -/
inductive Node where
  | scalar (kind : Kind) (text : Text)
  | sequence (kind : Kind) (items : List Node)
  | mapping (kind : Kind) (entries : List (Node × Node))
  deriving Repr

namespace Node

def kind : Node → Kind
  | .scalar kind _ => kind
  | .sequence kind _ => kind
  | .mapping kind _ => kind

def empty : Node := .scalar .null []

/-! ## Steps -/

/-- What is left to read, with the texts that tag handles stand for and the
nodes that have a name. -/
structure Rest where
  tokens : List Token
  handles : List (Text × Text) := []
  anchors : List (Text × Node) := []

abbrev Parse := StateT Rest (Except Fault)

/-- Stops: the tokens are no document. -/
def refuse {α : Type} : Parse α := throw .malformed

def nextIn (tokens : List Token) : Parse Bool := do
  match (← get).tokens with
  | token :: _ => return tokens.contains token
  | [] => return false

def advance : Parse Unit := modify fun rest => { rest with tokens := rest.tokens.tail }

/-- Goes on by the given token, if it is next. -/
def accept (token : Token) : Parse Bool := do
  if ← nextIn [token] then
    advance
    return true
  else return false

/-- Goes on by the given token, which must be next. -/
def expect (token : Token) : Parse Unit := do
  if !(← accept token) then refuse

/-! ## Properties -/

def anchor? : Parse (Option Text) := do
  match (← get).tokens with
  | .anchor name :: _ =>
    advance
    return some name
  | _ => return none

/-- Reads a tag, if there is one. Its handle must be known. -/
def tag? : Parse (Option Text) := do
  let rest ← get
  match rest.tokens with
  | .tag none suffix :: _ =>
    advance
    return some suffix
  | .tag (some handle) suffix :: _ =>
    advance
    let some start := rest.handles.lookup handle | refuse
    return some (start ++ suffix)
  | _ => return none

def properties : Parse (Option Text × Option Text) := do
  match ← anchor? with
  | some name => return (some name, ← tag?)
  | none =>
    let tag ← tag?
    return (← anchor?, tag)

/-- The kind of a collection: the one its tag names, else the usual one. -/
def collectionKind (usual : Kind) : Option Text → Kind
  | none => usual
  | some ['!'] => usual
  | some tag => Kind.ofTag tag

/-- The kind of a scalar. One that has no tag is known by its looks, unless it
stands in quotes. -/
def scalarKind (text : Text) (plain : Bool) : Option Text → Kind
  | none => if plain then Kind.ofPlain text else .str
  | some ['!'] => Kind.ofPlain text
  | some tag => Kind.ofTag tag

/-- The scalar of a node that has properties and nothing else. -/
def unwritten (tag : Option Text) (mayBeEmpty : Bool) : Parse Node :=
  if mayBeEmpty then return .scalar (scalarKind [] true tag) [] else refuse

/-- Gives a node its name. No name is given twice. -/
def named (name : Option Text) (node : Node) : Parse Node := do
  if let some name := name then
    let rest ← get
    if (rest.anchors.lookup name).isSome then refuse
    set { rest with anchors := (name, node) :: rest.anchors }
  return node

/-! ## Collections -/

inductive Position where
  | flow
  | block
  /-- In a block mapping, where a sequence needs no further indentation. -/
  | entry
  deriving DecidableEq

mutual

def read (position : Position) : Nat → Parse Node
  | 0 => refuse
  | fuel + 1 => do
    if let .alias name :: _ := (← get).tokens then
      advance
      let some node := (← get).anchors.lookup name | refuse
      return node
    let (name, tag) ← properties
    named name (← readContent position tag (name.isSome || tag.isSome) fuel)

/-- Reads what a node has after its properties. Where it has some, nothing more
need be written. -/
def readContent (position : Position) (tag : Option Text) (mayBeEmpty : Bool) : Nat → Parse Node
  | 0 => refuse
  | fuel + 1 => do
    let inBlock := position != .flow
    match (← get).tokens with
    | .blockEntry :: _ =>
      if position == .entry then
        return .sequence (collectionKind .seq tag) (← readBareItems fuel)
      else unwritten tag mayBeEmpty
    | .scalar text plain :: _ =>
      advance
      return .scalar (scalarKind text plain tag) text
    | .flowSequenceStart :: _ =>
      advance
      return .sequence (collectionKind .seq tag) (← readFlowItems true fuel)
    | .flowMappingStart :: _ =>
      advance
      return .mapping (collectionKind .map tag) (← readFlowEntries true fuel)
    | .blockSequenceStart :: _ =>
      if inBlock then
        advance
        return .sequence (collectionKind .seq tag) (← readItems fuel)
      else unwritten tag mayBeEmpty
    | .blockMappingStart :: _ =>
      if inBlock then
        advance
        return .mapping (collectionKind .map tag) (← readEntries fuel)
      else unwritten tag mayBeEmpty
    | _ => unwritten tag mayBeEmpty

/-- Reads a node, or the empty one before the given tokens. -/
def readUnless (stops : List Token) (position : Position) : Nat → Parse Node
  | 0 => refuse
  | fuel + 1 => do
    if ← nextIn stops then return empty
    read position fuel

/-- Reads a node after the mark of a value, if that is next, else the empty
one. -/
def readValue (stops : List Token) (position : Position) : Nat → Parse Node
  | 0 => refuse
  | fuel + 1 => do
    if ← accept .value then readUnless stops position fuel else return empty

def readItems : Nat → Parse (List Node)
  | 0 => refuse
  | fuel + 1 => do
    if ← accept .blockEntry then
      let item ← readUnless [.blockEntry, .blockEnd] .block fuel
      return item :: (← readItems fuel)
    else
      expect .blockEnd
      return []

/-- Reads the items of a sequence that has no indentation of its own. -/
def readBareItems : Nat → Parse (List Node)
  | 0 => refuse
  | fuel + 1 => do
    if ← accept .blockEntry then
      let item ← readUnless [.blockEntry, .key, .value, .blockEnd] .block fuel
      return item :: (← readBareItems fuel)
    else return []

def readEntries : Nat → Parse (List (Node × Node))
  | 0 => refuse
  | fuel + 1 => do
    if ← accept .key then
      let key ← readUnless [.key, .value, .blockEnd] .entry fuel
      let value ← readValue [.key, .value, .blockEnd] .entry fuel
      return (key, value) :: (← readEntries fuel)
    else
      expect .blockEnd
      return []

/-- Reads the items of a sequence in brackets. A key and its value are an item
of their own. -/
def readFlowItems (first : Bool) : Nat → Parse (List Node)
  | 0 => refuse
  | fuel + 1 => do
    if ← accept .flowSequenceEnd then return []
    if !first then expect .flowEntry
    if ← accept .flowSequenceEnd then return []
    let item ←
      if ← accept .key then do
        let key ← readUnless [.value, .flowEntry, .flowSequenceEnd] .flow fuel
        let value ← readValue [.flowEntry, .flowSequenceEnd] .flow fuel
        pure (.mapping .map [(key, value)])
      else read .flow fuel
    return item :: (← readFlowItems false fuel)

/-- Reads the entries of a mapping in brackets. A key may stand alone. -/
def readFlowEntries (first : Bool) : Nat → Parse (List (Node × Node))
  | 0 => refuse
  | fuel + 1 => do
    if ← accept .flowMappingEnd then return []
    if !first then expect .flowEntry
    if ← accept .flowMappingEnd then return []
    let entry ←
      if ← accept .key then do
        let key ← readUnless [.value, .flowEntry, .flowMappingEnd] .flow fuel
        let value ← readValue [.flowEntry, .flowMappingEnd] .flow fuel
        pure (key, value)
      else do
        let key ← read .flow fuel
        pure (key, empty)
    return entry :: (← readFlowEntries false fuel)

end

/-! ## Documents -/

def usualHandles : List (Text × Text) := [("!", "!"), ("!!", Kind.tagStart)]

/-- Reads the directives of a document and its starting mark. The version is
given once at most, and each handle. -/
def readDirectives (versioned : Bool) (handles : List (Text × Text)) : Nat → Parse Unit
  | 0 => refuse
  | fuel + 1 => do
    match (← get).tokens with
    | .versionDirective major :: _ =>
      if versioned || major != 1 then refuse
      advance
      readDirectives true handles fuel
    | .tagDirective handle start :: _ =>
      if (handles.lookup handle).isSome then refuse
      advance
      readDirectives versioned ((handle, start) :: handles) fuel
    | .otherDirective :: _ =>
      advance
      readDirectives versioned handles fuel
    | _ =>
      expect .documentStart
      modify fun rest => { rest with handles := handles ++ usualHandles }

/-- A token that can only stand outside documents. -/
def isOutside : Token → Bool
  | .versionDirective _ => true
  | .tagDirective .. => true
  | .otherDirective => true
  | .documentStart => true
  | _ => false

/-- Reads the only document. -/
def readDocument (fuel : Nat) : Parse Node := do
  match (← get).tokens with
  | [] => return empty
  | token :: _ =>
    let node ←
      if isOutside token then do
        readDirectives false [] fuel
        match (← get).tokens with
        | [] => pure empty
        | token :: _ =>
          if isOutside token || token == .documentEnd then pure empty else read .block fuel
      else do
        modify fun rest => { rest with handles := usualHandles }
        read .block fuel
    if !((← get).tokens.all (· == .documentEnd)) then refuse
    return node

def ofTokens (tokens : List Token) : Except Fault Node := do
  let (node, _) ← (readDocument (4 * tokens.length + 8)).run { tokens := tokens }
  return node

end Node

end ImageLint.Yaml
