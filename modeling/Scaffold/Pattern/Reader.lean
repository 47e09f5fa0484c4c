import Scaffold.Pattern.Match
import Scaffold.Pattern.Plain
import Scaffold.Pattern.Size

/-! Reading a pattern from its text. A text that is well formed in the plain grammar, as far as that
goes, is read by the extended one, in which a quantifier cannot stand behind another one, nor behind
a condition. -/
namespace Scaffold.Pattern

structure Flags where
  ignoresCase : Bool
  isMultiLine : Bool
  dotMatchesBreaks : Bool
  swapsGreed : Bool
  ignoresBlanks : Bool

/-- What is left to read, and what is known from before. -/
structure Source where
  rest : List Char
  flags : Flags
  /-- The number of groups that have been opened. -/
  groups : Nat
  names : List (List Char × Nat)
  /-- A group has been referred to by its number. -/
  usesNumbers : Bool
  /-- Numbers of groups stay below this one. -/
  numberLimit : Nat

abbrev Read := StateT Source Option

def Source.start (text : List Char) : Source :=
  ⟨text, ⟨false, false, false, false, false⟩, 0, [], false, (String.ofList text).utf8ByteSize / 2⟩

/-- The text behind a comment between parentheses, in which a backslash covers a character. -/
def skipComment? : List Char → Option (List Char)
  | [] => none
  | ')' :: rest => some rest
  | '\\' :: _ :: rest => skipComment? rest
  | _ :: rest => skipComment? rest

/-- The text without what does not count in front of it: comments between parentheses and, if
blanks are ignored, blanks and comments up to the end of their line. -/
def skipUncounted? (ignoresBlanks : Bool) : (fuel : Nat) → List Char → Option (List Char)
  | 0, cs => some cs
  | fuel + 1, cs =>
    match cs with
    | '(' :: '?' :: '#' :: rest => (skipComment? rest).bind (skipUncounted? ignoresBlanks fuel)
    | '#' :: rest =>
      if ignoresBlanks then skipUncounted? ignoresBlanks fuel ((rest.dropWhile (· ≠ '\n')).drop 1)
      else some cs
    | c :: rest =>
      if ignoresBlanks && (c = ' ' || c = '\r' || c = '\n' || c = '\t') then
        skipUncounted? ignoresBlanks fuel rest
      else some cs
    | [] => some []

def skipUncounted : Read Unit := do
  let s ← get
  let rest ← (skipUncounted? s.flags.ignoresBlanks (s.rest.length + 1) s.rest : Option (List Char))
  set { s with rest }

def goTo (rest : List Char) : Read Unit := modify fun s => { s with rest }

def fail {α : Type} : Read α := fun _ => none

def close : Read Unit := do
  match (← get).rest with
  | ')' :: rest => goTo rest
  | _ => fail

def readName? (mark : Char) (cs : List Char) : Option (List Char × List Char) :=
  let name := cs.takeWhile fun c => c = '_' || isLetterOrNumber c
  match cs.drop name.length with
  | c :: rest => if c = mark && !name.isEmpty then some (name, rest) else none
  | [] => none

def isRepeatable : Pattern → Bool
  | .empty | .anchor _ | .ahead _ _ | .behind _ _ => false
  | _ => true

/-- The bounds of a counted repetition, from behind the opening brace. What does not read as bounds
is text. -/
def readBounds? (s : Source) (cs : List Char) : Option (Nat × Option Nat × List Char) := do
  let skip (cs : List Char) : Option (List Char) :=
    skipUncounted? s.flags.ignoresBlanks (cs.length + 1) cs
  let number (cs : List Char) : Option Nat × List Char :=
    let ds := cs.takeWhile Char.isDigit
    (if ds.isEmpty then none else some (Text.digitsValue ds), cs.drop ds.length)
  let (least, rest) := number (← skip cs)
  match least, ← skip rest with
  | some least, '\x7d' :: rest => return (least, some least, rest)
  | least, ',' :: rest =>
    let (most, rest) := number (← skip rest)
    match ← skip rest with
    | '\x7d' :: rest => return (least.getD 0, most, rest)
    | _ => none
  | _, _ => none

/-- The text between brackets and the text behind them, from behind the opening one. -/
def cutClass? (cs : List Char) : Option (List Char × List Char) :=
  let (sign, cs) := if cs.head? = some '^' then (['^'], cs.drop 1) else ([], cs)
  let (first, cs) := if cs.head? = some ']' then ([']'], cs.drop 1) else ([], cs)
  (go 0 cs).map fun (inside, rest) => (sign ++ first ++ inside, rest)
where
  /-- The text up to the bracket that closes, inside some others. -/
  go : (depth : Nat) → List Char → Option (List Char × List Char)
    | _, [] => none
    | depth, '\\' :: c :: rest =>
      (go depth rest).map fun (inside, rest) => ('\\' :: c :: inside, rest)
    | depth, '[' :: rest => (go (depth + 1) rest).map fun (inside, rest) => ('[' :: inside, rest)
    | 0, ']' :: rest => some ([], rest)
    | depth + 1, ']' :: rest => (go depth rest).map fun (inside, rest) => (']' :: inside, rest)
    | depth, c :: rest => (go depth rest).map fun (inside, rest) => (c :: inside, rest)

/-- The pattern of a set between brackets, from behind the opening one. -/
def readSet : Read Pattern := do
  let s ← get
  let (inside, rest) ← (cutClass? s.rest : Option _)
  match readClass ⟨.extended, s.flags.ignoresCase, false⟩ (inside ++ [']']) with
  | .ok (set, []) =>
    goTo rest
    return .one set
  | _ => fail

/-- A reference to a group by its number, from its digits on. -/
def readNumber : Read Nat := do
  let s ← get
  let ds := s.rest.takeWhile Char.isDigit
  let number := Text.digitsValue ds
  if number < s.numberLimit && number ≤ s.groups then
    set { s with rest := s.rest.drop ds.length, usesNumbers := true }
    return number
  else fail

/-- A reference to a group by its name, or by its number in place of one, up to a mark. -/
def readReference (mark : Char) : Read Nat := do
  let s ← get
  let (name, rest) ← (readName? mark s.rest : Option _)
  goTo rest
  match s.names.lookup name with
  | some number => return number
  | none =>
    let number := Text.digitsValue name
    if name.all Char.isDigit && number ≤ s.groups then return number else fail

def readEscape : Read Pattern := do
  let s ← get
  match s.rest with
  | [] => fail
  | c :: rest =>
    let go (rest : List Char) (p : Pattern) : Read Pattern := do
      goTo rest
      return p
    if c.isDigit then return .again (← readNumber) s.flags.ignoresCase
    else
      match c, rest with
      | 'k', '\'' :: rest =>
        goTo rest
        return .again (← readReference '\'') s.flags.ignoresCase
      | 'k', '<' :: rest =>
        goTo rest
        return .again (← readReference '>') s.flags.ignoresCase
      | 'k', _ => fail
      | 'A', rest => go rest (.anchor .start)
      | 'z', rest => go rest (.anchor .finish)
      | 'Z', rest => go rest (.anchor .beforeFinalBreaks)
      | 'B', '\x7b' :: _ => fail
      | 'B', rest => go rest (.anchor .notWordBoundary)
      | '<', rest => go rest (.anchor .wordStart)
      | '>', rest => go rest (.anchor .wordFinish)
      | 'K', rest => go rest (.atomic .empty)
      | 'G', rest => go rest (.atomic (.anchor .start))
      | 'b', '\x7b' :: rest =>
        match boundaryOf? (rest.takeWhile (· ≠ '\x7d')), rest.dropWhile (· ≠ '\x7d') with
        | some a, _ :: rest => go rest (.anchor a)
        | _, _ => fail
      | 'b', rest => go rest (.anchor .wordBoundary)
      | c, rest =>
        match readExtendedEscape? s.flags.ignoresCase (c :: rest) with
        | some (.literal c, rest) => go rest (.char s.flags.ignoresCase c)
        | some (.set chars, rest) => go rest (.one chars)
        | some (.anchor a, rest) => go rest (.anchor a)
        | none => fail

def setFlag? (flags : Flags) (isSet : Bool) (c : Char) : Option Flags :=
  match c with
  | 'i' => some { flags with ignoresCase := isSet }
  | 'm' => some { flags with isMultiLine := isSet }
  | 's' => some { flags with dotMatchesBreaks := isSet }
  | 'U' => some { flags with swapsGreed := isSet }
  | 'x' => some { flags with ignoresBlanks := isSet }
  | 'u' => if isSet then some flags else none
  | _ => none

/-- Take up the flags up to a colon or a parenthesis that closes. -/
def takeFlags? (flags : Flags) (isSet : Bool) : List Char → Option (Flags × List Char)
  | [] => none
  | c :: rest =>
    if c = ':' || c = ')' then some (flags, c :: rest)
    else if c = '-' then if isSet then takeFlags? flags false rest else none
    else do takeFlags? (← setFlag? flags isSet c) isSet rest

/-- The bound on how deeply groups nest. -/
def depthLimit : Nat := 64

mutual
def readChoice (depth : Nat) : (fuel : Nat) → Read Pattern
  | 0 => fail
  | fuel + 1 => do
    let first ← readSequence depth fuel []
    skipUncounted
    let s ← get
    match s.rest with
    | '|' :: rest =>
      goTo rest
      return .either first (← readAlternatives depth fuel)
    | _ => if s.usesNumbers && !s.names.isEmpty then fail else return first

def readAlternatives (depth : Nat) : (fuel : Nat) → Read Pattern
  | 0 => fail
  | fuel + 1 => do
    let first ← readSequence depth fuel []
    skipUncounted
    match (← get).rest with
    | '|' :: rest =>
      goTo rest
      return .either first (← readAlternatives depth fuel)
    | _ => return first

/-- The parts of a sequence, given those before in reverse. -/
def readSequence (depth : Nat) : (fuel : Nat) → List Pattern → Read Pattern
  | 0, _ => fail
  | fuel + 1, before => do
    let left := (← get).rest.length
    let p ← readPiece depth fuel
    let before := if p = .empty then before else p :: before
    if (← get).rest.length = left then return ofList before.reverse
    else readSequence depth fuel before

/-- A part of a sequence with the quantifier behind it. -/
def readPiece (depth : Nat) : (fuel : Nat) → Read Pattern
  | 0 => fail
  | fuel + 1 => do
    let p ← readAtom depth fuel
    skipUncounted
    let s ← get
    let bounds : Option (Nat × Option Nat × List Char) :=
      match s.rest with
      | '?' :: rest => some (0, some 1, rest)
      | '*' :: rest => some (0, none, rest)
      | '+' :: rest => some (1, none, rest)
      | '\x7b' :: rest => readBounds? s rest
      | _ => none
    match bounds with
    | none => return p
    | some (least, most, rest) =>
      if !isRepeatable p then fail
      else
        goTo rest
        skipUncounted
        let rest := (← get).rest
        let isReluctant := rest.head? = some '?'
        let rest := skipReluctance rest
        let isPossessive := rest.head? = some '+'
        goTo (if isPossessive then rest.drop 1 else rest)
        let repetition := Pattern.repeated p least most (isReluctant == s.flags.swapsGreed)
        return if isPossessive then .atomic repetition else repetition

def readAtom (depth : Nat) : (fuel : Nat) → Read Pattern
  | 0 => fail
  | fuel + 1 => do
    skipUncounted
    let s ← get
    match s.rest with
    | [] => return .empty
    | '.' :: rest =>
      goTo rest
      return .one (if s.flags.dotMatchesBreaks then .every else .inLine)
    | '^' :: rest =>
      goTo rest
      return .anchor (if s.flags.isMultiLine then .lineStart else .start)
    | '$' :: rest =>
      goTo rest
      return .anchor (if s.flags.isMultiLine then .lineFinish else .finish)
    | '(' :: rest =>
      goTo rest
      readGroup (depth + 1) fuel
    | '\\' :: rest =>
      goTo rest
      readEscape
    | '[' :: rest =>
      goTo rest
      readSet
    | c :: rest =>
      if ['+', '*', '?', '|', ')'].contains c then return .empty
      else
        goTo rest
        return .char s.flags.ignoresCase c

def readGroup (depth : Nat) : (fuel : Nat) → Read Pattern
  | 0 => fail
  | fuel + 1 => do
    if depthLimit ≤ depth then fail
    else
      skipUncounted
      let s ← get
      match s.rest with
      | '?' :: '=' :: rest => return .ahead false (← readBody depth fuel rest)
      | '?' :: '!' :: rest => return .ahead true (← readBody depth fuel rest)
      | '?' :: '<' :: '=' :: rest => readBehind depth fuel false rest
      | '?' :: '<' :: '!' :: rest => readBehind depth fuel true rest
      | '?' :: 'P' :: '<' :: rest => readNamed depth fuel '>' rest
      | '?' :: '<' :: rest => readNamed depth fuel '>' rest
      | '?' :: '\'' :: rest => readNamed depth fuel '\'' rest
      | '?' :: 'P' :: '=' :: rest =>
        goTo rest
        return .again (← readReference ')') s.flags.ignoresCase
      | '?' :: '>' :: rest => return .atomic (← readBody depth fuel rest)
      | '?' :: '(' :: rest =>
        goTo rest
        readConditional depth fuel
      | '?' :: rest =>
        let (flags, rest) ← (takeFlags? s.flags true rest : Option _)
        match rest with
        | ':' :: rest =>
          set { s with flags, rest }
          let body ← readChoice depth fuel
          close
          modify fun t => { t with flags := s.flags }
          return body
        | rest =>
          set { s with flags, rest := rest.drop 1 }
          return .empty
      | rest =>
        set { s with groups := s.groups + 1 }
        return .group (s.groups + 1) (← readBody depth fuel rest)

def readBody (depth : Nat) : (fuel : Nat) → List Char → Read Pattern
  | 0, _ => fail
  | fuel + 1, rest => do
    goTo rest
    let body ← readChoice depth fuel
    close
    return body

def readBehind (depth : Nat) : (fuel : Nat) → Bool → List Char → Read Pattern
  | 0, _, _ => fail
  | fuel + 1, isNegated, rest => do
    let body ← readBody depth fuel rest
    if body.canLookBehind then return .behind isNegated body else fail

def readNamed (depth : Nat) : (fuel : Nat) → (mark : Char) → List Char → Read Pattern
  | 0, _, _ => fail
  | fuel + 1, mark, rest => do
    let s ← get
    let (name, rest) ← (readName? mark rest : Option _)
    let number := s.groups + 1
    set { s with groups := number, names := (name, number) :: s.names }
    return .group number (← readBody depth fuel rest)

def readConditional (depth : Nat) : (fuel : Nat) → Read Pattern
  | 0 => fail
  | fuel + 1 => do
    let rest := (← get).rest
    let reference? : Option (Read Nat) :=
      match rest with
      | '\'' :: rest => some (do goTo rest; readReference '\'')
      | '<' :: rest => some (do goTo rest; readReference '>')
      | c :: _ => if c.isDigit then some readNumber else none
      | [] => none
    match reference? with
    | some reference =>
      let number ← reference
      close
      let left := (← get).rest.length
      let (first, second) ← readBranches depth fuel
      let isBare := (← get).rest.length = left
      close
      return if isBare then .whenGroup number .empty (.one .empty)
        else .whenGroup number first second
    | none =>
      let condition ← readChoice depth fuel
      close
      let left := (← get).rest.length
      let (first, second) ← readBranches depth fuel
      if (← get).rest.length = left then fail
      else
        close
        return .whenMatches condition first second

/-- The two branches of a conditional: the first alternative, and all others. -/
def readBranches (depth : Nat) : (fuel : Nat) → Read (Pattern × Pattern)
  | 0 => fail
  | fuel + 1 => do
    match ← readChoice depth fuel with
    | .either first second => return (first, second)
    | first => return (first, .empty)
end

/-- The texts without blanks, under the pattern by which they are usually asked for. -/
def noBlanks : Pattern :=
  .seq (.anchor .start) (.seq (.repeated (.one (.complement .space)) 0 none true) (.anchor .finish))

/-- The form of a pattern that is taken up, and the pattern itself; none if it is malformed or too
large. The usual way to ask for a text without blanks is taken as it is meant. -/
def read? (source : String) : Option (String × Pattern) := do
  if source = "^\\S*$" then return (source, noBlanks)
  let text ← normalForm? source.toList
  let (p, s) ← (readChoice 0 (8 * text.length + 8)).run (.start text)
  if s.rest.isEmpty && p.isMachineSized then
    some (String.ofList text, p.keepGroups p.references)
  else none

end Scaffold.Pattern
