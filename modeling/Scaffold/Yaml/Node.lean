import Scaffold.Yaml.Token

/-! The tree that the tokens of a YAML text spell: scalars, sequences and mappings, with their
anchors and tags, and aliases that refer to anchors. -/
namespace Scaffold.Yaml

/-- A node of a document as it is written. -/
inductive Node where
  | alias (name : String)
  | scalar (anchor tag : Option String) (isPlain : Bool) (text : String)
  | sequence (anchor tag : Option String) (items : List Node)
  | mapping (anchor tag : Option String) (entries : List (Node × Node))
  deriving Inhabited, Repr

namespace Node

def empty : Node := .scalar none none true ""

abbrev TagHandles := List (String × String)

def standardHandles : TagHandles := [("!", "!"), ("!!", "tag:yaml.org,2002:")]

def expandTag (handles : TagHandles) (handle suffix : String) : Except ReadError String :=
  if handle.isEmpty then .ok suffix
  else
    match handles.lookup handle with
    | some expansion => .ok (expansion ++ suffix)
    | none => .error .undefinedTagHandle

/-- The anchor and the tag in front of a node, in either order. -/
def takeProperties (handles : TagHandles) :
    List Token → Except ReadError (Option String × Option String × List Token)
  | .anchor name :: .tag handle suffix :: rest => do
    return (some name, some (← expandTag handles handle suffix), rest)
  | .anchor name :: rest => .ok (some name, none, rest)
  | .tag handle suffix :: .anchor name :: rest => do
    return (some name, some (← expandTag handles handle suffix), rest)
  | .tag handle suffix :: rest => do
    return (none, some (← expandTag handles handle suffix), rest)
  | rest => .ok (none, none, rest)

def comes (tokens : List Token) (expected : List Token) : Bool :=
  tokens.head?.any (expected.contains ·)

mutual
/-- A node. Block collections are accepted with `block`, and with `indentless` a sequence whose
dashes are not indented. -/
def take (handles : TagHandles) : (fuel : Nat) → (block indentless : Bool) → List Token →
    Except ReadError (Node × List Token)
  | 0, _, _, _ => .error .missingContent
  | _ + 1, _, _, .alias name :: rest => .ok (.alias name, rest)
  | fuel + 1, block, indentless, tokens => do
    let (anchor, tag, tokens) ← takeProperties handles tokens
    match tokens with
    | .scalar isPlain text :: rest =>
      return (.scalar anchor (if tag = some "!" then none else tag) isPlain text, rest)
    | .flowSequenceStart :: rest =>
      let (items, rest) ← takeFlowItems handles fuel true rest
      return (.sequence anchor tag items, rest)
    | .flowMappingStart :: rest =>
      let (entries, rest) ← takeFlowEntries handles fuel true rest
      return (.mapping anchor tag entries, rest)
    | first :: rest =>
      if indentless && first = .blockEntry then
        let (items, rest) ← takeIndentless handles fuel tokens
        return (.sequence anchor tag items, rest)
      else if block && first = .blockSequenceStart then
        let (items, rest) ← takeBlockItems handles fuel rest
        return (.sequence anchor tag items, rest)
      else if block && first = .blockMappingStart then
        let (entries, rest) ← takeBlockEntries handles fuel rest
        return (.mapping anchor tag entries, rest)
      else if anchor.isSome || tag.isSome then return (.scalar anchor tag true "", tokens)
      else throw .missingContent
    | [] =>
      if anchor.isSome || tag.isSome then return (.scalar anchor tag true "", [])
      else throw .missingContent

/-- A node, or the empty one if one of some tokens comes instead. -/
def takeUnless (handles : TagHandles) : (fuel : Nat) → (ends : List Token) →
    (block indentless : Bool) → List Token → Except ReadError (Node × List Token)
  | 0, _, _, _, _ => .error .missingContent
  | fuel + 1, ends, block, indentless, tokens =>
    if comes tokens ends then .ok (empty, tokens) else take handles fuel block indentless tokens

def takeBlockItems (handles : TagHandles) : (fuel : Nat) → List Token →
    Except ReadError (List Node × List Token)
  | 0, _ => .error .missingBlockEntry
  | _ + 1, .blockEnd :: rest => .ok ([], rest)
  | fuel + 1, .blockEntry :: rest => do
    let (item, rest) ← takeUnless handles fuel [.blockEntry, .blockEnd] true false rest
    let (items, rest) ← takeBlockItems handles fuel rest
    return (item :: items, rest)
  | _ + 1, _ => .error .missingBlockEntry

/-- The items of a sequence whose dashes are not indented. -/
def takeIndentless (handles : TagHandles) : (fuel : Nat) → List Token →
    Except ReadError (List Node × List Token)
  | 0, _ => .error .missingBlockEntry
  | fuel + 1, .blockEntry :: rest => do
    let (item, rest) ←
      takeUnless handles fuel [.blockEntry, .key, .value, .blockEnd] true false rest
    let (items, rest) ← takeIndentless handles fuel rest
    return (item :: items, rest)
  | _ + 1, rest => .ok ([], rest)

def takeBlockEntries (handles : TagHandles) : (fuel : Nat) → List Token →
    Except ReadError (List (Node × Node) × List Token)
  | 0, _ => .error .missingBlockKey
  | _ + 1, .blockEnd :: rest => .ok ([], rest)
  | fuel + 1, .key :: rest => do
    let (key, rest) ← takeUnless handles fuel [.key, .value, .blockEnd] true true rest
    let (value, rest) ← takeBlockValue handles fuel rest
    let (entries, rest) ← takeBlockEntries handles fuel rest
    return ((key, value) :: entries, rest)
  | _ + 1, _ => .error .missingBlockKey

def takeBlockValue (handles : TagHandles) : (fuel : Nat) → List Token →
    Except ReadError (Node × List Token)
  | 0, _ => .error .missingContent
  | fuel + 1, .value :: rest => takeUnless handles fuel [.key, .value, .blockEnd] true true rest
  | _ + 1, rest => .ok (empty, rest)

/-- The items of a flow sequence. A key among them starts a mapping with a single entry. -/
def takeFlowItems (handles : TagHandles) : (fuel : Nat) → (isFirst : Bool) → List Token →
    Except ReadError (List Node × List Token)
  | 0, _, _ => .error .missingFlowEnd
  | _ + 1, _, .flowSequenceEnd :: rest => .ok ([], rest)
  | fuel + 1, isFirst, tokens => do
    let tokens ←
      match isFirst, tokens with
      | true, tokens => pure tokens
      | false, .flowEntry :: rest => pure rest
      | false, _ => throw .missingFlowEnd
    match tokens with
    | .flowSequenceEnd :: rest => return ([], rest)
    | .key :: rest =>
      let (key, rest) ← takePairKey handles fuel rest
      let (value, rest) ← takePairValue handles fuel rest
      let (items, rest) ← takeFlowItems handles fuel false rest
      return (.mapping none none [(key, value)] :: items, rest)
    | tokens =>
      let (item, rest) ← take handles fuel false false tokens
      let (items, rest) ← takeFlowItems handles fuel false rest
      return (item :: items, rest)

/-- The key of a single entry in a flow sequence. Where it is left out, the token in its place is
passed over. -/
def takePairKey (handles : TagHandles) : (fuel : Nat) → List Token →
    Except ReadError (Node × List Token)
  | 0, _ => .error .missingContent
  | fuel + 1, tokens =>
    if comes tokens [.value, .flowEntry, .flowSequenceEnd] then .ok (empty, tokens.drop 1)
    else take handles fuel false false tokens

def takePairValue (handles : TagHandles) : (fuel : Nat) → List Token →
    Except ReadError (Node × List Token)
  | 0, _ => .error .missingContent
  | fuel + 1, .value :: rest =>
    takeUnless handles fuel [.flowEntry, .flowSequenceEnd] false false rest
  | _ + 1, rest => .ok (empty, rest)

def takeFlowEntries (handles : TagHandles) : (fuel : Nat) → (isFirst : Bool) → List Token →
    Except ReadError (List (Node × Node) × List Token)
  | 0, _, _ => .error .missingFlowEnd
  | _ + 1, _, .flowMappingEnd :: rest => .ok ([], rest)
  | fuel + 1, isFirst, tokens => do
    let tokens ←
      match isFirst, tokens with
      | true, tokens => pure tokens
      | false, .flowEntry :: rest => pure rest
      | false, _ => throw .missingFlowEnd
    match tokens with
    | .flowMappingEnd :: rest => return ([], rest)
    | .key :: rest =>
      let (key, rest) ←
        takeUnless handles fuel [.value, .flowEntry, .flowMappingEnd] false false rest
      let (value, rest) ← takeFlowValue handles fuel rest
      let (entries, rest) ← takeFlowEntries handles fuel false rest
      return ((key, value) :: entries, rest)
    | tokens =>
      let (key, rest) ← take handles fuel false false tokens
      let (entries, rest) ← takeFlowEntries handles fuel false rest
      return ((key, empty) :: entries, rest)

def takeFlowValue (handles : TagHandles) : (fuel : Nat) → List Token →
    Except ReadError (Node × List Token)
  | 0, _ => .error .missingContent
  | fuel + 1, .value :: rest =>
    takeUnless handles fuel [.flowEntry, .flowMappingEnd] false false rest
  | _ + 1, rest => .ok (empty, rest)
end

/-- The directives in front of a document, with the tag handles that they declare. -/
def takeDirectives (versionSeen : Bool) (handles : TagHandles) :
    List Token → Except ReadError (TagHandles × List Token)
  | .versionDirective major minor :: rest =>
    if versionSeen then .error .duplicateDirective
    else if major ≠ 1 || (minor ≠ 1 && minor ≠ 2) then .error .incompatibleVersion
    else takeDirectives true handles rest
  | .tagDirective handle expansion :: rest =>
    if (handles.lookup handle).isSome then .error .duplicateDirective
    else takeDirectives versionSeen (handles ++ [(handle, expansion)]) rest
  | rest => .ok (handles ++ standardHandles, rest)

/-- A token that can start neither a node nor an explicit document. -/
def endsDocument : Token → Bool
  | .versionDirective _ _ => true
  | .tagDirective _ _ => true
  | .documentStart => true
  | .documentEnd => true
  | _ => false

/-- The first document among tokens, with the tokens behind it. -/
def takeDocument (tokens : List Token) : Except ReadError (Node × List Token) :=
  let fuel := 4 * tokens.length + 8
  if comes tokens [.documentStart] ||
      tokens.head?.any (fun t => endsDocument t && t ≠ .documentEnd) then do
    let (handles, rest) ← takeDirectives false [] tokens
    match rest with
    | .documentStart :: rest =>
      if rest.isEmpty || rest.head?.any endsDocument then return (empty, rest)
      else take handles fuel true false rest
    | _ => throw .missingDocumentStart
  else take standardHandles fuel true false tokens

/-- The only document of a stream of tokens; none if there are no tokens at all. -/
def ofTokens? (tokens : List Token) : Except ReadError (Option Node) := do
  if tokens.isEmpty then return none
  let (node, rest) ← takeDocument tokens
  if rest.all (· = .documentEnd) then return some node else throw .moreThanOneDocument

end Node

end Scaffold.Yaml
