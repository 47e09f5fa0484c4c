import Scaffold.Pattern.Class

/-! The plain grammar of patterns, and the form in which a pattern is taken up. A text has to be
well formed in the plain grammar up to the first place where it looks around or refers back. In a
text without such a place, the classes of digits, blanks and word characters are narrowed to fixed
sets; in all texts, control characters take the place of their escapes up to there. -/
namespace Scaffold.Pattern

/-- How far the check of a text has come. -/
structure Check where
  /-- For each open group, whether blanks were ignored outside of it. -/
  outer : List Bool
  ignoresBlanks : Bool
  /-- What comes before can be repeated. -/
  canRepeat : Bool
  names : List (List Char)

def Check.start : Check := ⟨[], false, false, []⟩

def flagChars : List Char := ['i', 'm', 's', 'U', 'u', 'R', 'x']

/-- The flags in front of a group, up to the colon or parenthesis behind them, each with whether it
is set. No flag comes twice, and there is one minus sign at most, with flags behind it. -/
def readFlags? (isSet : Bool) (found : List (Char × Bool)) :
    List Char → Option (List (Char × Bool) × List Char)
  | [] => none
  | c :: rest =>
    if c = ':' || c = ')' then some (found, c :: rest)
    else if c = '-' then
      if isSet && !(rest.head? = some ':' || rest.head? = some ')') then readFlags? false found rest
      else none
    else if flagChars.contains c && !found.any (·.1 = c) then
      readFlags? isSet (found ++ [(c, isSet)]) rest
    else none

def isLetter (c : Char) : Bool := Unicode.alphabetic.codes.holds c

def isLetterOrNumber (c : Char) : Bool :=
  isLetter c || (CharSet.ofCategory? "n").any (·.holds c)

/-- The name of a group, up to the angle bracket that closes it. -/
def readGroupName? (cs : List Char) : Option (List Char × List Char) :=
  let isMark (c : Char) : Bool := c = '.' || c = '[' || c = ']'
  match cs.takeWhile (· ≠ '>'), cs.dropWhile (· ≠ '>') with
  | c :: name, _ :: rest =>
    if (c = '_' || isLetter c) && name.all (fun d => d = '_' || isMark d || isLetterOrNumber d) then
      some (c :: name, rest)
    else none
  | _, _ => none

/-- The numbers of a counted repetition, from behind the opening brace. -/
def readCount? (ignoresBlanks : Bool) (cs : List Char) :
    Option (Nat × Option Nat × List Char) := do
  let skip (cs : List Char) : List Char :=
    skipIgnored ignoresBlanks (cs.dropWhile CharSet.space.holds)
  let number (cs : List Char) : Option (Nat × List Char) :=
    let cs := skip cs
    let ds := cs.takeWhile Char.isDigit
    let n := Text.digitsValue ds
    if ds.isEmpty || 4294967295 < n then none else some (n, skip (cs.drop ds.length))
  let (least, rest) ← number cs
  match rest with
  | '\x7d' :: rest => return (least, some least, rest)
  | ',' :: rest =>
    match skipIgnored ignoresBlanks rest with
    | '\x7d' :: rest => return (least, none, rest)
    | rest => do
      let (most, rest) ← number rest
      match rest with
      | '\x7d' :: rest => if least ≤ most then some (least, some most, rest) else none
      | _ => none
  | _ => none

def skipReluctance (cs : List Char) : List Char := if cs.head? = some '?' then cs.drop 1 else cs

/-- The opening of a group, from behind its parenthesis: the check inside of it, and the rest. -/
def openGroup (check : Check) (cs : List Char) : Except Issue (Check × List Char) :=
  let inside : Check :=
    { check with outer := check.ignoresBlanks :: check.outer, canRepeat := false }
  let named (rest : List Char) : Except Issue (Check × List Char) := do
    let (name, rest) ← orMalformed (readGroupName? rest)
    if check.names.contains name then .error .malformed
    else .ok ({ inside with names := name :: check.names }, rest)
  match skipIgnored check.ignoresBlanks cs with
  | '?' :: '=' :: _ | '?' :: '!' :: _ | '?' :: '<' :: '=' :: _ | '?' :: '<' :: '!' :: _ =>
    .error (.extended ('(' :: cs))
  | '?' :: 'P' :: '<' :: rest => named rest
  | '?' :: '<' :: rest => named rest
  | '?' :: rest => do
    let (flags, rest) ← orMalformed (readFlags? true [] rest)
    let ignoresBlanks := (flags.lookup 'x').getD check.ignoresBlanks
    match rest with
    | ':' :: rest => .ok ({ inside with ignoresBlanks }, rest)
    | rest =>
      if flags.isEmpty then .error .malformed
      else .ok ({ check with ignoresBlanks, canRepeat := false }, rest.drop 1)
  | rest => .ok (inside, rest)

def checkPlain : (fuel : Nat) → Check → List Char → Except Issue Unit
  | 0, _, _ => .error .malformed
  | fuel + 1, check, cs => do
    let repeatable := { check with canRepeat := true }
    match skipIgnored check.ignoresBlanks cs with
    | [] => if check.outer.isEmpty then .ok () else .error .malformed
    | '(' :: rest =>
      let (check, rest) ← openGroup check rest
      checkPlain fuel check rest
    | ')' :: rest =>
      match check.outer with
      | ignoresBlanks :: outer => checkPlain fuel { repeatable with outer, ignoresBlanks } rest
      | [] => .error .malformed
    | '|' :: rest => checkPlain fuel { check with canRepeat := false } rest
    | '[' :: rest =>
      let (_, rest) ← readClass ⟨.plain, false, check.ignoresBlanks⟩ rest
      checkPlain fuel repeatable rest
    | '\\' :: rest =>
      let (_, rest) ← readPlainEscape false rest
      checkPlain fuel repeatable rest
    | '\x7b' :: rest =>
      let (_, _, rest) ← orMalformed (readCount? check.ignoresBlanks rest)
      if check.canRepeat then
        checkPlain fuel check (skipReluctance (skipIgnored check.ignoresBlanks rest))
      else .error .malformed
    | c :: rest =>
      if c = '?' || c = '*' || c = '+' then
        if check.canRepeat then checkPlain fuel check (skipReluctance rest) else .error .malformed
      else checkPlain fuel repeatable rest

/-- The text of the set to which a class is narrowed. -/
def narrowClass? (c : Char) : Option String :=
  let space := " \t\n\r\x0b\x0c\u00a0\ufeff\u2003\u2029"
  match c with
  | 'd' => some "[0-9]"
  | 'D' => some "[^0-9]"
  | 'w' => some "[A-Za-z0-9_]"
  | 'W' => some "[^A-Za-z0-9_]"
  | 's' => some ("[" ++ space ++ "]")
  | 'S' => some ("[^" ++ space ++ "]")
  | _ => none

/-- The text with other texts in place of some escapes. -/
def replaceEscapes (replace? : Char → List Char → Option (List Char × List Char)) :
    (fuel : Nat) → List Char → List Char
  | 0, cs => cs
  | _ + 1, [] => []
  | fuel + 1, '\\' :: c :: rest =>
    match replace? c rest with
    | some (text, rest) => text ++ replaceEscapes replace? fuel rest
    | none => '\\' :: c :: replaceEscapes replace? fuel rest
  | fuel + 1, c :: rest => c :: replaceEscapes replace? fuel rest

/-- The text with control characters in place of their escapes. -/
def placeControls (cs : List Char) : List Char :=
  replaceEscapes (fun c rest =>
    match c, rest with
    | 'c', letter :: rest =>
      if letter.isAlpha then some ([controlOfLetter letter], rest) else none
    | _, _ => none) cs.length cs

def narrowClasses (cs : List Char) : List Char :=
  replaceEscapes (fun c rest => (narrowClass? c).map fun set => (set.toList, rest)) cs.length cs

/-- The form in which a pattern is taken up; none if it is malformed. -/
def normalForm? (source : List Char) : Option (List Char) :=
  match checkPlain (source.length + 1) .start source with
  | .ok () => some (narrowClasses (placeControls source))
  | .error (.extended rest) =>
    some (placeControls (source.take (source.length - rest.length)) ++ rest)
  | .error .malformed => none

end Scaffold.Pattern
