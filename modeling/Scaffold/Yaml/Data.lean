import Scaffold.Yaml.Node

/-! Documents in which every alias has given way to the node that it refers to. -/
namespace Scaffold.Yaml

/-- A node without anchors and aliases. -/
inductive Data where
  | scalar (tag : Option String) (isPlain : Bool) (text : String)
  | sequence (tag : Option String) (items : List Data)
  | mapping (tag : Option String) (entries : List (Data × Data))
  deriving Inhabited, Repr

/-- Give every anchor a slot: the number of names in use when it is set. A name that is set again
moves to a new slot, which the next new name may take over. -/
def slotAnchors : (names : List (String × Nat)) → List Token → Except ReadError (List Token)
  | _, [] => .ok []
  | names, .anchor name :: rest => do
    let slot := names.length
    let more ← slotAnchors (Entries.put name slot names) rest
    return .anchor (toString slot) :: more
  | names, .alias name :: rest =>
    match names.lookup name with
    | none => .error .unknownAnchor
    | some slot => do
      let more ← slotAnchors names rest
      return .alias (toString slot) :: more
  | names, token :: rest => do
    let more ← slotAnchors names rest
    return token :: more

namespace Node

mutual
/-- The number of places that a node takes up in its document, with an end for each collection. -/
def size : Node → Nat
  | .alias _ => 1
  | .scalar _ _ _ _ => 1
  | .sequence _ _ items => sizeItems items + 2
  | .mapping _ _ entries => sizeEntries entries + 2
termination_by structural node => node

def sizeItems : List Node → Nat
  | [] => 0
  | item :: rest => size item + sizeItems rest
termination_by structural items => items

def sizeEntries : List (Node × Node) → Nat
  | [] => 0
  | (key, value) :: rest => size key + size value + sizeEntries rest
termination_by structural entries => entries
end

mutual
/-- What the anchors of a node refer to; a later node takes the place of an earlier one. -/
def anchors (table : List (String × Node)) : Node → List (String × Node)
  | .alias _ => table
  | .scalar anchor tag isPlain text =>
    setAnchor anchor (.scalar anchor tag isPlain text) table
  | .sequence anchor tag items =>
    anchorsOfItems (setAnchor anchor (.sequence anchor tag items) table) items
  | .mapping anchor tag entries =>
    anchorsOfEntries (setAnchor anchor (.mapping anchor tag entries) table) entries
termination_by structural node => node

def anchorsOfItems (table : List (String × Node)) : List Node → List (String × Node)
  | [] => table
  | item :: rest => anchorsOfItems (anchors table item) rest
termination_by structural items => items

def anchorsOfEntries (table : List (String × Node)) : List (Node × Node) → List (String × Node)
  | [] => table
  | (key, value) :: rest => anchorsOfEntries (anchors (anchors table key) value) rest
termination_by structural entries => entries

def setAnchor (anchor : Option String) (node : Node) (table : List (String × Node)) :
    List (String × Node) :=
  match anchor with
  | some name => Entries.put name node table
  | none => table
end

/-- A computation that counts the aliases it follows. -/
abbrev Counting := StateT Nat (Except ReadError)

/-- The node that a node stands for. At most `limit` aliases are followed in all. -/
def follow (table : List (String × Node)) (limit : Nat) : Node → Counting Node
  | .alias name => do
    let jumps ← get
    if limit ≤ jumps then throw .tooManyAliases
    set (jumps + 1)
    match table.lookup name with
    | some node => return node
    | none => throw .unknownAnchor
  | node => return node

/-- Replace the aliases below a node, with `depth` levels of collections left. -/
def expand (table : List (String × Node)) (limit : Nat) : (depth : Nat) → Node → Counting Data
  | 0, node => do
    match ← follow table limit node with
    | .scalar _ tag isPlain text => return .scalar tag isPlain text
    | _ => throw .tooDeep
  | depth + 1, node => do
    match ← follow table limit node with
    | .alias _ => throw .unknownAnchor
    | .scalar _ tag isPlain text => return .scalar tag isPlain text
    | .sequence _ tag items => return .sequence tag (← items.mapM (expand table limit depth))
    | .mapping _ tag entries =>
      let entries ← entries.mapM fun (key, value) => do
        return (← expand table limit depth key, ← expand table limit depth value)
      return .mapping tag entries

end Node

/-- The most collections that may lie inside each other. -/
def depthLimit : Nat := 128

/-- The document that a text spells, without aliases; none if the text holds no node at all. -/
def Data.read? (text : String) : Except ReadError (Option Data) := do
  let tokens ← slotAnchors [] (← Token.scan text)
  match ← Node.ofTokens? tokens with
  | none => return none
  | some node =>
    let (data, _) ← (node.expand (node.anchors []) (100 * node.size) depthLimit).run 0
    return some data

end Scaffold.Yaml
