import Scaffold.Source.Template.Basic
import Scaffold.Text.Blank

/-! Reading a template from its text. Double braces hold a value, a brace with a percent sign a
tag, a brace with a hash a comment; a dash inside the delimiters takes away the blanks beside
them. The tags are `if`, `else`, `for … in …`, `endif` and `endfor`. -/
namespace Scaffold.Source.Template

inductive ReadError where
  | unclosed
  | badWord
  | badValue
  | badTag
  | unexpectedTag
  | missingEnd
  deriving DecidableEq, Repr

def ReadError.message : ReadError → String
  | .unclosed => "a delimiter is not closed"
  | .badWord => "unexpected character in a value or tag"
  | .badValue => "malformed value"
  | .badTag => "malformed tag"
  | .unexpectedTag => "tag out of place"
  | .missingEnd => "a block is not closed"

/-- What a pair of delimiters holds. -/
inductive TagKind where
  | value
  | tag
  | comment
  deriving DecidableEq, Repr

/-- A stretch of a template's text. -/
inductive Segment where
  | text (chars : List Char)
  | tagged (kind : TagKind) (content : List Char)
  deriving DecidableEq, Repr

/-- The kind of tag that a character behind an opening brace announces. -/
def TagKind.ofMark? (c : Char) : Option TagKind :=
  if c = '\x7b' then some .value
  else if c = '%' then some .tag
  else if c = '#' then some .comment
  else none

/-- The character before the closing brace of a kind of tag. -/
def TagKind.mark : TagKind → Char
  | .value => '\x7d'
  | .tag => '%'
  | .comment => '#'

/-- The content of a tag up to its closing delimiter, and the text behind it. Quoted texts are
passed over whole, save in comments. -/
def takeContent (kind : TagKind) : (quoted : Option Char) → List Char →
    Except ReadError (List Char × List Char)
  | _, [] => .error .unclosed
  | some q, c :: rest => do
    let (content, rest) ← takeContent kind (if c = q then none else some q) rest
    return (c :: content, rest)
  | none, c :: rest =>
    if c = kind.mark && rest.head? = some '\x7d' then .ok ([], rest.drop 1)
    else do
      let isQuote := (c = '"' || c = '\'') && kind ≠ .comment
      let (content, rest) ← takeContent kind (if isQuote then some c else none) rest
      return (c :: content, rest)

def segments : (fuel : Nat) → (text : List Char) → List Char → Except ReadError (List Segment)
  | 0, _, _ => .error .unclosed
  | _ + 1, text, [] => .ok [.text text.reverse]
  | fuel + 1, text, c :: rest =>
    match if c = '\x7b' then rest.head?.bind TagKind.ofMark? else none with
    | some kind => do
      let (content, rest) ← takeContent kind none (rest.drop 1)
      let opens := content.head? = some '-'
      let content := if opens then content.drop 1 else content
      let closes := content.getLast? = some '-'
      let content := if closes then content.dropLast else content
      let text := if opens then text.dropWhile Text.isBlank else text
      let more ← segments fuel [] (if closes then Text.trimStart rest else rest)
      return .text text.reverse :: .tagged kind content :: more
    | none => segments fuel (c :: text) rest

/-- A word inside a value or a tag. -/
inductive Word where
  | name (text : String)
  | quoted (text : String)
  | symbol (text : String)
  deriving DecidableEq, Repr

def isNameChar (c : Char) : Bool := c.isAlphanum || c = '_' || c = '.'

def wordsOf : (fuel : Nat) → List Char → Except ReadError (List Word)
  | 0, _ => .error .badWord
  | _ + 1, [] => .ok []
  | fuel + 1, c :: rest =>
    if Text.isBlank c then wordsOf fuel rest
    else if c.isAlpha || c = '_' then do
      let more ← wordsOf fuel (rest.dropWhile isNameChar)
      return .name (String.ofList (c :: rest.takeWhile isNameChar)) :: more
    else if c = '"' || c = '\'' then do
      let more ← wordsOf fuel ((rest.dropWhile (· ≠ c)).drop 1)
      return .quoted (String.ofList (rest.takeWhile (· ≠ c))) :: more
    else if c = '=' && rest.head? = some '=' then do
      return .symbol "==" :: (← wordsOf fuel (rest.drop 1))
    else if c = '|' || c = '(' || c = ')' || c = '=' then do
      return .symbol (String.singleton c) :: (← wordsOf fuel rest)
    else .error .badWord

def operandOf? : Word → Option Operand
  | .name text =>
    let names := (text.toList.splitOn '.').map String.ofList
    if names.any String.isEmpty then none else some (.path names)
  | .quoted text => some (.text text)
  | .symbol _ => none

def valueOf? : List Word → Option Piece
  | [word] => (operandOf? word).map .value
  | [word, .symbol "|", .name "join", .symbol "(", .name "sep", .symbol "=", .quoted separator,
      .symbol ")"] =>
    (operandOf? word).map (.joined · separator)
  | _ => none

/-- The test that words denote: operands, `not`, `==` and, binding least, `or`. -/
def testOf? : List Word → Option Test
  | .name "not" :: rest => do
    let (first, rest) ← single? rest
    more? (.not first) rest
  | words => do
    let (first, rest) ← single? words
    more? first rest
where
  /-- One operand or one comparison. -/
  single? : List Word → Option (Test × List Word)
    | left :: .symbol "==" :: right :: rest => do
      return (.equal (← operandOf? left) (← operandOf? right), rest)
    | word :: rest => do return (.given (← operandOf? word), rest)
    | [] => none
  /-- The test so far, or what follows `or`. -/
  more? (first : Test) : List Word → Option Test
    | [] => some first
    | .name "or" :: .name "not" :: rest => do
      let (next, rest) ← single? rest
      if rest.isEmpty then some (.either first (.not next)) else none
    | .name "or" :: rest => do
      let (next, rest) ← single? rest
      if rest.isEmpty then some (.either first next) else none
    | _ => none

/-- The pieces up to a tag that ends them, with the words of that tag and what follows it. -/
def pieces : (fuel : Nat) → List Segment →
    Except ReadError (List Piece × Option (List Word) × List Segment)
  | 0, _ => .error .missingEnd
  | _ + 1, [] => .ok ([], none, [])
  | fuel + 1, .text chars :: rest => do
    let (more, ending, rest) ← pieces fuel rest
    return (if chars.isEmpty then more else .text (String.ofList chars) :: more, ending, rest)
  | fuel + 1, .tagged .comment _ :: rest => pieces fuel rest
  | fuel + 1, .tagged .value content :: rest => do
    match valueOf? (← wordsOf (content.length + 1) content) with
    | none => throw .badValue
    | some piece =>
      let (more, ending, rest) ← pieces fuel rest
      return (piece :: more, ending, rest)
  | fuel + 1, .tagged .tag content :: rest => do
    match ← wordsOf (content.length + 1) content with
    | .name "if" :: words =>
      match testOf? words with
      | none => throw .badTag
      | some test =>
        let (yes, ending, rest) ← pieces fuel rest
        let (no, ending, rest) ←
          if ending = some [.name "else"] then pieces fuel rest else pure ([], ending, rest)
        if ending ≠ some [.name "endif"] then throw .missingEnd
        let (more, ending, rest) ← pieces fuel rest
        return (.choice test yes no :: more, ending, rest)
    | [.name "for", .name item, .name "in", word] =>
      match operandOf? word with
      | none => throw .badTag
      | some operand =>
        let (body, ending, rest) ← pieces fuel rest
        if ending ≠ some [.name "endfor"] then throw .missingEnd
        let (more, ending, rest) ← pieces fuel rest
        return (.each item operand body :: more, ending, rest)
    | words =>
      if words = [.name "else"] || words = [.name "endif"] || words = [.name "endfor"] then
        return ([], some words, rest)
      else throw .badTag

def read (text : String) : Except ReadError Template := do
  let segments ← segments (text.length + 1) [] text.toList
  let (template, ending, _) ← pieces (segments.length + 1) segments
  if ending.isSome then throw .unexpectedTag
  return template

end Scaffold.Source.Template
