-- The value of a document.
import ImageLint.Yaml.Node
import ImageLint.Yaml.ScalarValue

namespace ImageLint.Yaml

namespace Node

/-! ## Merged entries -/

def entries : Node → Except Fault (List (Node × Node))
  | .mapping _ entries => return entries
  | _ => throw .malformed

/-- The entries that a node gives to the mapping which takes it in. Of several
mappings the first one comes last, so that its values win. -/
def merged : Node → Except Fault (List (Node × Node))
  | .sequence _ items => return (← items.mapM entries).reverse.flatten
  | node => node.entries

/-- The entries with the merged ones in front of the others, which replace
them. -/
def spliceMerged (all : List (Node × Node)) : Except Fault (List (Node × Node)) := do
  let (merges, own) := all.partition fun entry => entry.1.kind == .merge
  return (← merges.mapM fun entry => entry.2.merged).flatten ++ own

mutual

def withMerged : Node → Except Fault Node
  | .scalar kind text => return .scalar kind text
  | .sequence kind items => return .sequence kind (← itemsWithMerged items)
  | .mapping kind entries => return .mapping kind (← spliceMerged (← entriesWithMerged entries))

def itemsWithMerged : List Node → Except Fault (List Node)
  | [] => return []
  | item :: items => return (← withMerged item) :: (← itemsWithMerged items)

def entriesWithMerged : List (Node × Node) → Except Fault (List (Node × Node))
  | [] => return []
  | (key, value) :: entries =>
    return (← withMerged key, ← withMerged value) :: (← entriesWithMerged entries)

end

/-! ## Texts -/

mutual

/-- The text of a node that is to be a scalar. A mapping may have an entry
that stands for it. -/
def scalarText? : Node → Option Text
  | .scalar _ text => some text
  | .sequence .. => none
  | .mapping _ entries => entryText? entries

/-- The text of the entry that stands for a mapping. -/
def entryText? : List (Node × Node) → Option Text
  | [] => none
  | (key, value) :: entries =>
    if key.kind == .value then scalarText? value else entryText? entries

end

end Node

/-! ## Values -/

namespace Value

def isKey : Value → Bool
  | .list _ | .set _ | .map _ => false
  | _ => true

/-- The key of an entry. The mark of a value is an ordinary key here. -/
def keyOf (node : Node) (value : Except Fault Value) : Except Fault Value := do
  let key ← match node with
    | .scalar .value text => pure (.str text)
    | _ => value
  if key.isKey then return key else throw .malformed

/-- The value of a collection's node that is to be a scalar. -/
def ofScalarNode (kind : Kind) (node : Node) : Except Fault Value :=
  match node.scalarText? with
  | some text => scalarValue kind text
  | none => throw .malformed

mutual

/-- The value of a node without merged entries. -/
def ofNode : Node → Except Fault Value
  | .scalar kind text => scalarValue kind text
  | .sequence kind items =>
    match kind with
    | .seq => return .list (← ofItems items)
    | .omap | .pairs => return .list (← ofPairs items)
    | _ => throw .malformed
  | .mapping kind entries =>
    match kind with
    | .map => return .map (ofEntries (← ofNodeEntries entries))
    | .set => return .set ((ofEntries (← ofNodeEntries entries)).map Prod.fst)
    | _ => ofScalarNode kind (.mapping kind entries)

def ofItems : List Node → Except Fault (List Value)
  | [] => return []
  | item :: items => return (← ofNode item) :: (← ofItems items)

/-- The values of items that are mappings with a single entry. -/
def ofPairs : List Node → Except Fault (List Value)
  | [] => return []
  | .mapping _ [(key, value)] :: items =>
    return .pair (← ofNode key) (← ofNode value) :: (← ofPairs items)
  | _ => throw .malformed

def ofNodeEntries : List (Node × Node) → Except Fault (List (Value × Value))
  | [] => return []
  | (key, value) :: entries =>
    return (← keyOf key (ofNode key), ← ofNode value) :: (← ofNodeEntries entries)

end

variable [Characters]

def ofText (text : Text) : Except Fault Value := do
  let node ← Node.ofTokens (← Token.scan text)
  ofNode (← node.withMerged)

end Value

end ImageLint.Yaml
