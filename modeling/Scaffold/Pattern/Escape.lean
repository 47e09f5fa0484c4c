import Scaffold.Pattern.CharSet

/-! What a backslash stands for in a pattern. The plain grammar knows few letters behind it; the
extended one, for patterns that look around or refer back, knows more. -/
namespace Scaffold.Pattern

/-- Why a text is no pattern of the plain grammar. -/
inductive Issue where
  | malformed
  /-- At the rest of the text it looks around or refers back. -/
  | extended (rest : List Char)
  deriving DecidableEq, Repr

/-- Which grammar a text is read by. -/
inductive Grammar where
  | plain
  | extended
  deriving DecidableEq, Repr

/-- A condition on a place in a text. -/
inductive Anchor where
  | start
  | finish
  /-- The finish of the text, or a place with nothing but line feeds behind it. -/
  | beforeFinalBreaks
  | lineStart
  | lineFinish
  | wordBoundary
  | notWordBoundary
  | wordStart
  | wordFinish
  /-- No word character comes before. -/
  | wordStartHalf
  /-- No word character comes behind. -/
  | wordFinishHalf
  deriving DecidableEq, Repr

inductive Escape where
  | literal (c : Char)
  | set (chars : CharSet)
  | anchor (a : Anchor)
  deriving DecidableEq, Repr

/-- Characters that have a meaning of their own somewhere in a pattern. -/
def metaChars : List Char :=
  ['\\', '.', '+', '*', '?', '(', ')', '|', '[', ']', '\x7b', '\x7d', '^', '$', '#', '&', '-', '~']

/-- An ASCII character that stands for itself behind a backslash. -/
def isEscapable (c : Char) : Bool :=
  metaChars.contains c || (c.val < 0x80 && !c.isAlphanum && c ≠ '<' && c ≠ '>')

/-- The text without the blanks and comments in front of it, where those do not count. -/
def skipIgnored (ignoresBlanks : Bool) (cs : List Char) : List Char :=
  if ignoresBlanks then go (cs.length + 1) cs else cs
where
  /-- Skip runs of blanks, and comments up to the end of their line. -/
  go : (fuel : Nat) → List Char → List Char
    | 0, cs => cs
    | fuel + 1, cs =>
      match cs.dropWhile CharSet.space.holds with
      | '#' :: rest => go fuel (rest.dropWhile (· ≠ '\n'))
      | rest => rest

/-- A number of hexadecimal digits between braces, of any length. -/
def readBracedHex? (cs : List Char) : Option (Nat × List Char) := do
  let ds := cs.takeWhile fun c => (Text.hexValue? c).isSome
  match cs.drop ds.length with
  | '\x7d' :: rest =>
    if ds.isEmpty then none else return (← Text.hexDigitsValue? ds, rest)
  | _ => none

/-- The character that a hexadecimal escape with some number of digits writes. -/
def readHex? (grammar : Grammar) (width : Nat) (cs : List Char) : Option (Char × List Char) := do
  let (code, rest) ←
    match cs with
    | '\x7b' :: rest => do
      let (code, after) ← readBracedHex? rest
      if grammar = .extended && 8 < rest.length - after.length - 1 then none else some (code, after)
    | cs => do
      let ds := cs.take width
      if ds.length < width then none else some (← Text.hexDigitsValue? ds, cs.drop width)
  if code.isValidChar then some (Char.ofNat code, rest) else none

/-- The text of the name of a property, between braces or a single character. -/
def readPropertyName? : List Char → Option (List Char × List Char)
  | '\x7b' :: rest =>
    match rest.dropWhile (· ≠ '\x7d') with
    | _ :: after => some (rest.takeWhile (· ≠ '\x7d'), after)
    | [] => none
  | '\\' :: _ => none
  | c :: rest => some ([c], rest)
  | [] => none

/-- What stands before and behind the first place where a text goes on with a mark. -/
def cutAt? (mark : List Char) : List Char → Option (List Char × List Char)
  | [] => none
  | c :: rest =>
    if mark.isPrefixOf (c :: rest) then some ([], (c :: rest).drop mark.length)
    else (cutAt? mark rest).map fun (before, after) => (c :: before, after)

/-- The set that the name of a property stands for: a name alone, or a property and a value. -/
def setOfProperty? (name : List Char) : Option CharSet :=
  match cutAt? ['!', '='] name with
  | some (property, value) =>
    (CharSet.ofValue? (String.ofList property) (String.ofList value)).map .complement
  | none =>
    match (cutAt? [':'] name).orElse fun _ => cutAt? ['='] name with
    | some (property, value) => CharSet.ofValue? (String.ofList property) (String.ofList value)
    | none => CharSet.ofName? (String.ofList name)

/-- The set of a property escape, from its letter on. -/
def readProperty? (ignoresCase isNegated : Bool) (cs : List Char) :
    Option (CharSet × List Char) := do
  let (name, rest) ← readPropertyName? cs
  let set ← setOfProperty? name
  return (.negated isNegated (.folded ignoresCase set), rest)

def boundaryOf? (name : List Char) : Option Anchor :=
  match String.ofList name with
  | "start" => some .wordStart
  | "end" => some .wordFinish
  | "start-half" => some .wordStartHalf
  | "end-half" => some .wordFinishHalf
  | _ => none

/-- The boundary of a word, from behind its letter: with a name between braces a special one. What
stands between braces and does not begin like a name is left alone. -/
def readBoundary (cs : List Char) : Except Issue (Anchor × List Char) :=
  let isNameChar (c : Char) : Bool := c.isAlpha || c = '-'
  match cs with
  | '\x7b' :: rest =>
    match rest with
    | [] => .error .malformed
    | c :: _ =>
      if !isNameChar c then .ok (.wordBoundary, cs)
      else
        match boundaryOf? (rest.takeWhile isNameChar), rest.dropWhile isNameChar with
        | some anchor, '\x7d' :: after => .ok (anchor, after)
        | _, _ => .error .malformed
  | cs => .ok (.wordBoundary, cs)

/-- The class of a letter: digits, blanks or word characters. -/
def classOf? (c : Char) : Option CharSet :=
  match c with
  | 'd' => some .digit
  | 'D' => some (.complement .digit)
  | 's' => some .space
  | 'S' => some (.complement .space)
  | 'w' => some .word
  | 'W' => some (.complement .word)
  | _ => none

def controlOf? (c : Char) : Option Char :=
  match c with
  | 'a' => some '\x07'
  | 'f' => some '\x0c'
  | 'n' => some '\n'
  | 'r' => some '\r'
  | 't' => some '\t'
  | 'v' => some '\x0b'
  | _ => none

/-- The control character of a letter behind `\c`. -/
def controlOfLetter (c : Char) : Char := Char.ofNat (c.toNat % 32)

def hexWidth? (c : Char) : Option Nat :=
  match c with
  | 'x' => some 2
  | 'u' => some 4
  | 'U' => some 8
  | _ => none

def orMalformed {α : Type} : Option α → Except Issue α
  | some a => .ok a
  | none => .error .malformed

/-- The escape behind a backslash in the plain grammar. -/
def readPlainEscape (ignoresCase : Bool) : List Char → Except Issue (Escape × List Char)
  | [] => .error .malformed
  | c :: rest =>
    match hexWidth? c, classOf? c, controlOf? c with
    | some width, _, _ => do
      let (c, rest) ← orMalformed (readHex? .plain width rest)
      return (.literal c, rest)
    | _, some set, _ => .ok (.set set, rest)
    | _, _, some control => .ok (.literal control, rest)
    | none, none, none =>
      if c.isDigit then .error (.extended ('\\' :: c :: rest))
      else if c = 'p' || c = 'P' then do
        let (set, rest) ← orMalformed (readProperty? ignoresCase (c = 'P') rest)
        return (.set set, rest)
      else if isEscapable c then .ok (.literal c, rest)
      else
        match c, rest with
        | 'A', rest => .ok (.anchor .start, rest)
        | 'z', rest => .ok (.anchor .finish, rest)
        | 'B', rest => .ok (.anchor .notWordBoundary, rest)
        | '<', rest => .ok (.anchor .wordStart, rest)
        | '>', rest => .ok (.anchor .wordFinish, rest)
        | 'b', rest => do
          let (anchor, rest) ← readBoundary rest
          return (.anchor anchor, rest)
        | 'c', letter :: rest =>
          if letter.isAlpha then .ok (.literal (controlOfLetter letter), rest)
          else .error .malformed
        | _, _ => .error .malformed

/-- The character or class behind a backslash in the extended grammar, but for what only has a
meaning outside of brackets. -/
def readExtendedEscape? (ignoresCase : Bool) : List Char → Option (Escape × List Char)
  | [] => none
  | c :: rest =>
    match hexWidth? c, classOf? c, controlOf? c with
    | some width, _, _ => (readHex? .extended width rest).map fun (c, rest) => (.literal c, rest)
    | _, some set, _ => some (.set set, rest)
    | _, _, some control => some (.literal control, rest)
    | none, none, none =>
      match c with
      | 'h' => some (.set .hexDigit, rest)
      | 'H' => some (.set (.complement .hexDigit), rest)
      | 'e' => some (.literal '\x1b', rest)
      | 'b' => some (.literal '\x08', rest)
      | 'p' | 'P' =>
        (readProperty? ignoresCase (c = 'P') rest).map fun (set, rest) => (.set set, rest)
      | c =>
        if c.isDigit || (c.isAlpha && !(['k', 'A', 'z', 'B', 'K', 'G'].contains c)) then none
        else some (.literal c, rest)

def readSetEscape (grammar : Grammar) (ignoresCase : Bool) (cs : List Char) :
    Except Issue (Escape × List Char) :=
  match grammar with
  | .plain => readPlainEscape ignoresCase cs
  | .extended => orMalformed (readExtendedEscape? ignoresCase cs)

end Scaffold.Pattern
