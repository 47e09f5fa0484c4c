import Scaffold.Json.Reader
import Scaffold.Yaml.Cursor

/-! The texts of scalars: plain, quoted, and block scalars. -/
namespace Scaffold.Yaml

/-- Blanks inside a plain or quoted scalar: spacing on the first line, then line breaks. -/
structure Gap where
  spacing : List Char
  first : List Char
  further : List Char
  broken : Bool

def Gap.none : Gap := ⟨[], [], [], false⟩

/-- The text that a gap stands for: its spacing, or its line breaks, of which a single line feed
becomes a space and the first of several line feeds is dropped. -/
def Gap.text (g : Gap) : List Char :=
  if g.broken then
    if g.first = ['\n'] then (if g.further.isEmpty then [' '] else g.further)
    else g.first ++ g.further
  else g.spacing

/-- Pass over the blanks of a gap. Behind a line break, a tab before column `indent` is refused. -/
def takeGap (indent : Nat) : (fuel : Nat) → Gap → Cursor → Except ReadError (Gap × Cursor)
  | 0, g, c => .ok (g, c)
  | fuel + 1, g, c =>
    match c.head? with
    | none => .ok (g, c)
    | some d =>
      if isSpacing d then
        if g.broken && c.column < indent && d = '\t' then .error .tabIndentation
        else
          let g := if g.broken then g else { g with spacing := g.spacing ++ [d] }
          takeGap indent fuel g (c.skip 1)
      else if isBreak d then
        let (text, next) := c.takeBreak
        let g := if g.broken then { g with further := g.further ++ text }
          else { g with first := text, broken := true }
        takeGap indent fuel g next
      else .ok (g, c)

/-- The characters that a one-letter escape stands for. -/
def simpleEscape? (c : Char) : Option Char :=
  match c with
  | '0' => some '\x00'
  | 'a' => some '\x07'
  | 'b' => some '\x08'
  | 't' => some '\t'
  | '\t' => some '\t'
  | 'n' => some '\n'
  | 'v' => some '\x0b'
  | 'f' => some '\x0c'
  | 'r' => some '\r'
  | 'e' => some '\x1b'
  | ' ' => some ' '
  | '"' => some '"'
  | '/' => some '/'
  | '\\' => some '\\'
  | 'N' => some '\x85'
  | '_' => some '\xa0'
  | 'L' => some '\u2028'
  | 'P' => some '\u2029'
  | _ => none

def escapeWidth? (c : Char) : Option Nat :=
  match c with
  | 'x' => some 2
  | 'u' => some 4
  | 'U' => some 8
  | _ => none

/-- The character of an escape, from its backslash on. -/
def takeEscape (c : Cursor) : Except ReadError (Char × Cursor) :=
  match c.ahead? 1 with
  | none => .error .unknownEscape
  | some d =>
    match simpleEscape? d, escapeWidth? d with
    | some e, _ => .ok (e, c.skip 2)
    | none, some width =>
      let digits := (c.rest.drop 2).take width
      let values := digits.filterMap Text.hexValue?
      if values.length < width then .error .invalidEscape
      else
        let code := values.foldl (fun n v => n * 16 + v) 0
        if code.isValidChar then .ok (Char.ofNat code, c.skip (2 + width))
        else .error .invalidEscape
    | none, none => .error .unknownEscape

/-- The characters of a quoted scalar up to a blank or the closing quote, newest first, and whether
an escaped line break ended them. -/
def takeQuotedRun (double : Bool) : (fuel : Nat) → List Char → Cursor →
    Except ReadError (List Char × Cursor × Bool)
  | 0, acc, c => .ok (acc, c, false)
  | fuel + 1, acc, c =>
    if c.blankAt 0 then .ok (acc, c, false)
    else if !double && c.head? = some '\'' && c.ahead? 1 = some '\'' then
      takeQuotedRun double fuel ('\'' :: acc) (c.skip 2)
    else if c.head? = some (if double then '"' else '\'') then .ok (acc, c, false)
    else if double && c.head? = some '\\' then
      if c.breakAt 1 then .ok (acc, (c.skip 1).skipBreak, true)
      else
        match takeEscape c with
        | .error e => .error e
        | .ok (d, c) => takeQuotedRun double fuel (d :: acc) c
    else takeQuotedRun double fuel ((c.head?.getD ' ') :: acc) (c.skip 1)

/-- The text of a quoted scalar, newest character first, from behind its opening quote. -/
def takeQuoted (double : Bool) : (fuel : Nat) → List Char → Cursor →
    Except ReadError (List Char × Cursor)
  | 0, _, _ => .error .unclosedScalar
  | fuel + 1, acc, c =>
    if c.atDocumentMark then .error .documentMarkInScalar
    else if c.atEnd then .error .unclosedScalar
    else do
      let (acc, c, escaped) ← takeQuotedRun double (c.left + 1) acc c
      if c.head? = some (if double then '"' else '\'') then return (acc, c.skip 1)
      let (gap, c) ← takeGap 0 (c.left + 1) { Gap.none with broken := escaped } c
      takeQuoted double fuel (gap.text.reverse ++ acc) c

/-- A character that ends a plain scalar inside a flow collection. -/
def flowIndicators : List Char := [',', '[', ']', '\x7b', '\x7d']

/-- The characters of a plain scalar up to a blank or an indicator, newest first. A gap before
them is filled in as soon as there is a character behind it. -/
def takePlainRun (inFlow : Bool) : (fuel : Nat) → Gap → List Char → Cursor →
    Except ReadError (Gap × List Char × Cursor)
  | 0, gap, acc, c => .ok (gap, acc, c)
  | fuel + 1, gap, acc, c =>
    if c.blankAt 0 then .ok (gap, acc, c)
    else if inFlow && c.head? = some ':' && c.oneOfAt 1 ('?' :: flowIndicators) then
      .error .colonInFlow
    else if c.head? = some ':' && c.blankAt 1 then .ok (gap, acc, c)
    else if inFlow && c.oneOfAt 0 flowIndicators then .ok (gap, acc, c)
    else
      takePlainRun inFlow fuel Gap.none ((c.head?.getD ' ') :: (gap.text.reverse ++ acc)) (c.skip 1)

/-- The text of a plain scalar, newest character first, and whether a line break follows it. A
line that is indented less than `indent` ends it, save in a flow collection. -/
def takePlain (inFlow : Bool) (indent : Nat) : (fuel : Nat) → Gap → List Char → Cursor →
    Except ReadError (List Char × Bool × Cursor)
  | 0, gap, acc, c => .ok (acc, gap.broken, c)
  | fuel + 1, gap, acc, c =>
    if c.atDocumentMark || c.head? = some '#' then .ok (acc, gap.broken, c)
    else do
      let (gap, acc, c) ← takePlainRun inFlow (c.left + 1) gap acc c
      if c.atEnd || !c.blankAt 0 then return (acc, gap.broken, c)
      let (gap, c) ← takeGap indent (c.left + 1) gap c
      if !inFlow && c.column < indent then return (acc, gap.broken, c)
      takePlain inFlow indent fuel gap acc c

/-- How the line breaks at the end of a block scalar are kept. -/
inductive Chomping where
  | strip
  | clip
  | keep
  deriving DecidableEq, Repr

def Chomping.ofMark? (c : Option Char) : Option Chomping :=
  match c with
  | some '+' => some .keep
  | some '-' => some .strip
  | _ => none

def indentDigit? (c : Option Char) : Except ReadError (Option Nat) :=
  match c with
  | some d =>
    if d = '0' then .error .malformedBlockHeader
    else if d.isDigit then .ok (some (d.toNat - 48))
    else .ok none
  | none => .ok none

/-- The indicators behind the mark of a block scalar: chomping and indentation in either order. -/
def takeBlockHeader (c : Cursor) : Except ReadError (Chomping × Option Nat × Cursor) := do
  match Chomping.ofMark? c.head? with
  | some chomping =>
    let c := c.skip 1
    let digit ← indentDigit? c.head?
    return (chomping, digit, if digit.isSome then c.skip 1 else c)
  | none =>
    match ← indentDigit? c.head? with
    | some digit =>
      let c := c.skip 1
      match Chomping.ofMark? c.head? with
      | some chomping => return (chomping, some digit, c.skip 1)
      | none => return (.clip, some digit, c)
    | none => return (.clip, none, c)

/-- Pass over empty lines and indentation. With no indentation fixed yet, every line is passed over
up to its first character; the deepest column met is given as well. -/
def takeBlockBreaks (indent : Option Nat) : (fuel : Nat) → (deepest : Nat) → List Char → Cursor →
    Except ReadError (Nat × List Char × Cursor)
  | 0, deepest, breaks, c => .ok (deepest, breaks, c)
  | fuel + 1, deepest, breaks, c =>
    let spaces := (c.rest.takeWhile (· = ' ')).length
    let c := c.skip (match indent with
      | some n => min spaces (n - c.column)
      | none => spaces)
    let deepest := max deepest c.column
    let loose := match indent with
      | some n => c.column < n
      | none => true
    if loose && c.head? = some '\t' then .error .tabIndentation
    else if c.breakAt 0 then
      let (text, c) := c.takeBreak
      takeBlockBreaks indent fuel deepest (breaks ++ text) c
    else .ok (deepest, breaks, c)

/-- The lines of a block scalar at column `indent`, newest character first, with the last line
break and the empty lines behind it. -/
def takeBlockLines (literal : Bool) (indent : Nat) : (fuel : Nat) → List Char →
    (lastBreak breaks : List Char) → (afterSpacing : Bool) → Cursor →
    Except ReadError (List Char × List Char × List Char × Cursor)
  | 0, acc, lastBreak, breaks, _, c => .ok (acc, lastBreak, breaks, c)
  | fuel + 1, acc, lastBreak, breaks, afterSpacing, c =>
    if c.column ≠ indent || c.atEnd then .ok (acc, lastBreak, breaks, c)
    else
      let spacing := c.spacingAt 0
      let folds := !literal && lastBreak = ['\n'] && !afterSpacing && !spacing
      let joint := if folds then (if breaks.isEmpty then [' '] else []) else lastBreak
      let line := c.rest.takeWhile (!isBreak ·)
      let acc := line.reverse ++ (breaks.reverse ++ (joint.reverse ++ acc))
      let (lastBreak, c) := (c.skip line.length).takeBreak
      match takeBlockBreaks (some indent) (c.left + 1) 0 [] c with
      | .error e => .error e
      | .ok (_, breaks, c) => takeBlockLines literal indent fuel acc lastBreak breaks spacing c

/-- The text of a block scalar inside a collection at column `outer`, from behind its mark. -/
def takeBlock (literal : Bool) (outer : Int) (c : Cursor) :
    Except ReadError (List Char × Cursor) := do
  let (chomping, digit, c) ← takeBlockHeader c
  let c := c.skipWhile isSpacing
  let c := if c.head? = some '#' then c.skipLine else c
  if !c.atEnd && !c.breakAt 0 then throw .malformedBlockHeader
  let c := c.skipBreak
  let fixed := digit.map fun n => n + outer.toNat
  let (deepest, breaks, c) ← takeBlockBreaks fixed (c.left + 1) 0 [] c
  let indent := fixed.getD (max deepest (max (outer + 1).toNat 1))
  let (acc, lastBreak, breaks, c) ←
    takeBlockLines literal indent (c.left + 1) [] [] breaks false c
  let tail :=
    match chomping with
    | .strip => []
    | .clip => lastBreak
    | .keep => lastBreak ++ breaks
  return (acc.reverse ++ tail, c)

end Scaffold.Yaml
