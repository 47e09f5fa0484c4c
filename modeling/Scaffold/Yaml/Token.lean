import Scaffold.Yaml.Scalar

/-! The tokens of a YAML text. Scanning keeps track of the indentation and, per flow level, of a
place where a key without a mark of its own may have started. -/
namespace Scaffold.Yaml

inductive Token where
  | versionDirective (major minor : Nat)
  | tagDirective (handle expansion : String)
  | documentStart
  | documentEnd
  | blockSequenceStart
  | blockMappingStart
  | blockEnd
  | flowSequenceStart
  | flowSequenceEnd
  | flowMappingStart
  | flowMappingEnd
  | blockEntry
  | flowEntry
  | key
  | value
  | alias (name : String)
  | anchor (name : String)
  | tag (handle suffix : String)
  | scalar (isPlain : Bool) (text : String)
  deriving DecidableEq, Repr

/-- A place where a key may have started: the number of tokens before it. A required key is one
that only a colon can follow. -/
structure KeyPlace where
  required : Bool
  position : Nat
  index : Nat
  line : Nat
  column : Nat

/-- The state of scanning. Tokens are kept newest first, and so are the indentations of the open
block collections. There is one key place per open flow collection and one outside them. -/
structure Scanner where
  cursor : Cursor
  tokens : List Token
  count : Nat
  indent : Int
  indents : List Int
  keyAllowed : Bool
  key : Option KeyPlace
  outerKeys : List (Option KeyPlace)

namespace Scanner

def start (cs : List Char) : Scanner where
  cursor := .start cs
  tokens := []
  count := 0
  indent := -1
  indents := []
  keyAllowed := true
  key := none
  outerKeys := []

def inFlow (s : Scanner) : Bool := !s.outerKeys.isEmpty

def push (s : Scanner) (token : Token) : Scanner :=
  { s with tokens := token :: s.tokens, count := s.count + 1 }

/-- Add a token behind the first `position` tokens. -/
def insert (s : Scanner) (position : Nat) (token : Token) : Scanner :=
  let newer := s.count - position
  { s with tokens := s.tokens.take newer ++ token :: s.tokens.drop newer, count := s.count + 1 }

/-- Pass over blanks and comments up to the next token. A line break makes room for a key. -/
def skipBlanks : (fuel : Nat) → Scanner → Scanner
  | 0, s => s
  | fuel + 1, s =>
    let c := s.cursor
    let c := if c.column = 0 && c.head? = some '\ufeff' then c.skip 1 else c
    let tabs := s.inFlow || !s.keyAllowed
    let c := c.skipWhile fun d => d = ' ' || (tabs && d = '\t')
    let c := if c.head? = some '#' then c.skipLine else c
    if c.breakAt 0 then
      skipBlanks fuel
        { s with cursor := c.skipBreak, keyAllowed := if s.inFlow then s.keyAllowed else true }
    else { s with cursor := c }

/-- The key place can no longer hold a key: it lies on an earlier line or too many bytes back. -/
def isStale (c : Cursor) (place : KeyPlace) : Bool :=
  place.line < c.line || place.index + 1024 < c.index

/-- Forget a key place; a required one may not be forgotten. -/
def dropPlace : Option KeyPlace → Except ReadError Unit
  | some place => if place.required then .error .missingColon else .ok ()
  | none => .ok ()

def freshPlace (c : Cursor) : Option KeyPlace → Except ReadError (Option KeyPlace)
  | some place =>
    if isStale c place then
      match dropPlace (some place) with
      | .ok () => .ok none
      | .error e => .error e
    else .ok (some place)
  | none => .ok none

def dropStale (s : Scanner) : Except ReadError Scanner := do
  let outerKeys ← s.outerKeys.reverse.mapM (freshPlace s.cursor)
  let key ← freshPlace s.cursor s.key
  return { s with key, outerKeys := outerKeys.reverse }

def removeKey (s : Scanner) : Except ReadError Scanner :=
  match dropPlace s.key with
  | .ok () => .ok { s with key := none }
  | .error e => .error e

def saveKey (s : Scanner) : Except ReadError Scanner := do
  if !s.keyAllowed then return s
  let c := s.cursor
  let required := !s.inFlow && s.indent = c.column
  let s ← s.removeKey
  return { s with key := some ⟨required, s.count, c.index, c.line, c.column⟩ }

/-- Close the block collections that are indented deeper than `column`. -/
def unrollTo (column : Int) : List Int → Scanner → Scanner
  | [], s => s
  | outer :: rest, s =>
    if column < s.indent then
      unrollTo column rest ({ s with indent := outer, indents := rest }.push .blockEnd)
    else s

/-- Close the block collections that are indented deeper than `column`, save inside a flow
collection. -/
def unroll (s : Scanner) (column : Int) : Scanner :=
  if s.inFlow then s else unrollTo column s.indents s

/-- Open a block collection if `column` is deeper than all that are open, with its token behind
the first `position` tokens. -/
def roll (s : Scanner) (column : Nat) (position : Nat) (token : Token) : Scanner :=
  if s.inFlow || (column : Int) ≤ s.indent then s
  else { s with indent := column, indents := s.indent :: s.indents }.insert position token

def advance (s : Scanner) (n : Nat) (token : Token) : Scanner :=
  { s with cursor := s.cursor.skip n }.push token

def takeDocumentMark (s : Scanner) : Except ReadError Scanner := do
  let token := if s.cursor.head? = some '-' then .documentStart else .documentEnd
  let s ← (s.unroll (-1)).removeKey
  return { s with keyAllowed := false }.advance 3 token

def takeFlowStart (s : Scanner) (token : Token) : Except ReadError Scanner := do
  let s ← s.saveKey
  let s := { s with outerKeys := s.key :: s.outerKeys, key := none, keyAllowed := true }
  return s.advance 1 token

def takeFlowEnd (s : Scanner) (token : Token) : Except ReadError Scanner := do
  let s ← s.removeKey
  let s :=
    match s.outerKeys with
    | [] => s
    | key :: rest => { s with key, outerKeys := rest }
  return { s with keyAllowed := false }.advance 1 token

def takeFlowEntry (s : Scanner) : Except ReadError Scanner := do
  let s ← s.removeKey
  return { s with keyAllowed := true }.advance 1 .flowEntry

def takeBlockEntry (s : Scanner) : Except ReadError Scanner := do
  if !s.inFlow && !s.keyAllowed then throw .blockEntryContext
  let s ← (s.roll s.cursor.column s.count .blockSequenceStart).removeKey
  return { s with keyAllowed := true }.advance 1 .blockEntry

def takeKey (s : Scanner) : Except ReadError Scanner := do
  if !s.inFlow && !s.keyAllowed then throw .blockKeyContext
  let s ← (s.roll s.cursor.column s.count .blockMappingStart).removeKey
  return { s with keyAllowed := !s.inFlow }.advance 1 .key

/-- A colon in front of a value. What stands at the key place becomes the key. -/
def takeValue (s : Scanner) : Except ReadError Scanner := do
  match s.key with
  | some place =>
    let s := s.insert place.position .key
    let s := s.roll place.column place.position .blockMappingStart
    return { s with key := none, keyAllowed := false }.advance 1 .value
  | none =>
    if !s.inFlow && !s.keyAllowed then throw .blockValueContext
    let s := s.roll s.cursor.column s.count .blockMappingStart
    return { s with keyAllowed := !s.inFlow }.advance 1 .value

def takeAnchor (s : Scanner) (token : String → Token) : Except ReadError Scanner := do
  let s ← s.saveKey
  let c := s.cursor.skip 1
  let name := c.rest.takeWhile isWordChar
  let c := c.skip name.length
  let enders := ['?', ':', ',', ']', '\x7d', '%', '@', '\x60']
  if name.isEmpty || !(c.blankAt 0 || c.oneOfAt 0 enders) then
    throw .malformedAnchor
  return { s with keyAllowed := false, cursor := c }.push (token (String.ofList name))

/-- A character of a tag besides letters, digits and percent signs. -/
def isTagChar (verbatim : Bool) (c : Char) : Bool :=
  [';', '/', '?', ':', '@', '&', '=', '+', '$', '.', '!', '~', '*', '\'', '(', ')'].contains c ||
    (verbatim && [',', '[', ']'].contains c)

/-- The bytes that percent signs with two digits write. -/
def takeTagBytes : (fuel : Nat) → Cursor → Except ReadError (List UInt8 × Cursor)
  | 0, c => .ok ([], c)
  | fuel + 1, c =>
    if c.head? = some '%' then
      match (c.ahead? 1).bind Text.hexValue?, (c.ahead? 2).bind Text.hexValue? with
      | some high, some low => do
        let (more, c) ← takeTagBytes fuel (c.skip 3)
        return ((high * 16 + low).toUInt8 :: more, c)
      | _, _ => .error .malformedTag
    else .ok ([], c)

/-- The characters of a tag, newest first. -/
def takeTagText (verbatim : Bool) : (fuel : Nat) → List Char → Cursor →
    Except ReadError (List Char × Cursor)
  | 0, acc, c => .ok (acc, c)
  | fuel + 1, acc, c =>
    match c.head? with
    | none => .ok (acc, c)
    | some d =>
      if d = '%' then do
        let (bytes, c) ← takeTagBytes c.left c
        match String.fromUTF8? (ByteArray.mk bytes.toArray) with
        | some text => takeTagText verbatim fuel (text.toList.reverse ++ acc) c
        | none => throw .malformedTag
      else if isWordChar d || isTagChar verbatim d then
        takeTagText verbatim fuel (d :: acc) (c.skip 1)
      else .ok (acc, c)

/-- A tag handle: an exclamation mark, a word, and perhaps a second exclamation mark. -/
def takeTagHandle (c : Cursor) : Except ReadError (List Char × Cursor) :=
  if c.head? ≠ some '!' then .error .malformedTag
  else
    let word := (c.rest.drop 1).takeWhile isWordChar
    let next := c.skip (1 + word.length)
    if next.head? = some '!' then .ok ('!' :: word ++ ['!'], next.skip 1)
    else .ok ('!' :: word, next)

/-- The characters of a tag that may not be empty, behind those already taken. -/
def takeTagSuffix (verbatim : Bool) (before : List Char) (isEmptyOk : Bool) (c : Cursor) :
    Except ReadError (String × Cursor) := do
  let (acc, next) ← takeTagText verbatim (c.left + 1) before.reverse c
  if acc.isEmpty && !isEmptyOk then throw .malformedTag
  return (String.ofList acc.reverse, next)

def takeTag (s : Scanner) : Except ReadError Scanner := do
  let s ← s.saveKey
  let c := s.cursor
  let (token, c) ←
    if c.ahead? 1 = some '<' then do
      let (suffix, c) ← takeTagSuffix true [] false (c.skip 2)
      if c.head? ≠ some '>' then throw .malformedTag
      pure (Token.tag "" suffix, c.skip 1)
    else do
      let (handle, next) ← takeTagHandle c
      if 1 < handle.length && handle.getLast? = some '!' then
        let (suffix, next) ← takeTagSuffix false [] false next
        pure (Token.tag (String.ofList handle) suffix, next)
      else
        let (suffix, next) ← takeTagSuffix false (handle.drop 1) true next
        pure (if suffix.isEmpty then Token.tag "" "!" else Token.tag "!" suffix, next)
  if !c.blankAt 0 && !(s.inFlow && c.head? = some ',') then throw .malformedTag
  return { s with keyAllowed := false, cursor := c }.push token

def takeVersionNumber (c : Cursor) : Except ReadError (Nat × Cursor) :=
  let digits := c.rest.takeWhile Char.isDigit
  if digits.isEmpty || 9 < digits.length then .error .malformedDirective
  else .ok (Text.digitsValue digits, c.skip digits.length)

def takeVersion (c : Cursor) : Except ReadError (Token × Cursor) := do
  let (major, c) ← takeVersionNumber (c.skipWhile isSpacing)
  if c.head? ≠ some '.' then throw .malformedDirective
  let (minor, c) ← takeVersionNumber (c.skip 1)
  return (.versionDirective major minor, c)

/-- The handle that a directive declares, and what it stands for. -/
def takeTagDeclaration (c : Cursor) : Except ReadError (Token × Cursor) := do
  let (handle, c) ← takeTagHandle (c.skipWhile isSpacing)
  if handle ≠ ['!'] && !(1 < handle.length && handle.getLast? = some '!') then
    throw .malformedDirective
  if !c.spacingAt 0 then throw .malformedDirective
  let (expansion, c) ← takeTagSuffix true [] false (c.skipWhile isSpacing)
  if !c.blankAt 0 then throw .malformedDirective
  return (.tagDirective (String.ofList handle) expansion, c)

def takeDirective (s : Scanner) : Except ReadError Scanner := do
  let s ← (s.unroll (-1)).removeKey
  let c := s.cursor.skip 1
  let name := c.rest.takeWhile isWordChar
  let c := c.skip name.length
  if name.isEmpty || !c.blankAt 0 then throw .malformedDirective
  let (token, c) ←
    if name = ['Y', 'A', 'M', 'L'] then takeVersion c
    else if name = ['T', 'A', 'G'] then takeTagDeclaration c
    else throw .unknownDirective
  let c := c.skipWhile isSpacing
  let c := if c.head? = some '#' then c.skipLine else c
  if !c.atEnd && !c.breakAt 0 then throw .malformedDirective
  return { s with keyAllowed := false, cursor := c.skipBreak }.push token

def takeQuotedScalar (s : Scanner) (double : Bool) : Except ReadError Scanner := do
  let s ← s.saveKey
  let c := s.cursor.skip 1
  let (acc, c) ← takeQuoted double (c.left + 1) [] c
  let token := Token.scalar false (String.ofList acc.reverse)
  return { s with keyAllowed := false, cursor := c }.push token

def takeBlockScalar (s : Scanner) (literal : Bool) : Except ReadError Scanner := do
  let s ← s.removeKey
  let (text, c) ← takeBlock literal s.indent (s.cursor.skip 1)
  return { s with keyAllowed := true, cursor := c }.push (.scalar false (String.ofList text))

def takePlainScalar (s : Scanner) : Except ReadError Scanner := do
  let s ← s.saveKey
  let c := s.cursor
  let (acc, broken, c) ← takePlain s.inFlow (s.indent + 1).toNat (c.left + 1) Gap.none [] c
  let token := Token.scalar true (String.ofList acc.reverse)
  return { s with keyAllowed := broken, cursor := c }.push token

/-- The characters that cannot start a plain scalar, or only in front of another character. -/
def indicators : List Char :=
  ['\t', '-', '?', ':', ',', '[', ']', '\x7b', '\x7d', '#', '&', '*', '!', '|', '>', '\'', '"', '%',
    '@', '\x60']

def takeToken (s : Scanner) (first : Char) : Except ReadError Scanner :=
  let c := s.cursor
  let marks := s.inFlow || c.blankAt 1
  if c.column = 0 && first = '%' then s.takeDirective
  else if c.atDocumentMark then s.takeDocumentMark
  else if first = '[' then s.takeFlowStart .flowSequenceStart
  else if first = '\x7b' then s.takeFlowStart .flowMappingStart
  else if first = ']' then s.takeFlowEnd .flowSequenceEnd
  else if first = '\x7d' then s.takeFlowEnd .flowMappingEnd
  else if first = ',' then s.takeFlowEntry
  else if first = '-' && c.blankAt 1 then s.takeBlockEntry
  else if first = '?' && marks then s.takeKey
  else if first = ':' && marks then s.takeValue
  else if first = '*' then s.takeAnchor .alias
  else if first = '&' then s.takeAnchor .anchor
  else if first = '!' then s.takeTag
  else if first = '|' && !s.inFlow then s.takeBlockScalar true
  else if first = '>' && !s.inFlow then s.takeBlockScalar false
  else if first = '\'' then s.takeQuotedScalar false
  else if first = '"' then s.takeQuotedScalar true
  else if !indicators.contains first || first = '-' ||
      (!s.inFlow && (first = '?' || first = ':')) then
    s.takePlainScalar
  else .error .badTokenStart

def takeAll : (fuel : Nat) → Scanner → Except ReadError Scanner
  | 0, s => .ok s
  | fuel + 1, s => do
    let s := s.skipBlanks (s.cursor.left + 1)
    let s ← s.dropStale
    let s := s.unroll s.cursor.column
    match s.cursor.head? with
    | none =>
      let s ← (s.unroll (-1)).removeKey
      return s
    | some first =>
      let s ← s.takeToken first
      takeAll fuel s

end Scanner

def Token.scan (text : String) : Except ReadError (List Token) := do
  let cs := text.toList
  if !cs.all isAllowed then throw .controlCharacter
  let cs := if cs.head? = some '\ufeff' then cs.drop 1 else cs
  let s ← (Scanner.start cs).takeAll (cs.length + 1)
  return s.tokens.reverse

end Scaffold.Yaml
