import Scaffold.Pattern.Escape

/-! Sets of characters between brackets: characters, ranges, named classes, brackets inside
brackets, and the operations that join what stands on their two sides. -/
namespace Scaffold.Pattern

/-- An operation on what stands on its two sides inside brackets. -/
inductive SetOperation where
  | intersection
  | difference
  | symmetricDifference
  deriving DecidableEq, Repr

def SetOperation.apply : SetOperation → CharSet → CharSet → CharSet
  | .intersection => .intersection
  | .difference => .difference
  | .symmetricDifference => .symmetricDifference

structure ClassStyle where
  grammar : Grammar
  ignoresCase : Bool
  ignoresBlanks : Bool

/-- A named class of ASCII characters, from behind its bracket. -/
def readAsciiClass? (ignoresCase : Bool) : List Char → Option (CharSet × List Char)
  | ':' :: rest =>
    let isNegated := rest.head? = some '^'
    let rest := if isNegated then rest.drop 1 else rest
    match CharSet.ofAsciiName? (String.ofList (rest.takeWhile (· ≠ ':'))),
        rest.dropWhile (· ≠ ':') with
    | some set, ':' :: ']' :: rest => some (.negated isNegated (.folded ignoresCase set), rest)
    | _, _ => none
  | _ => none

/-- One character inside brackets, as written or behind a backslash. -/
def readSetItem (style : ClassStyle) : List Char → Except Issue (Escape × List Char)
  | '\\' :: rest => readSetEscape style.grammar style.ignoresCase rest
  | c :: rest => .ok (.literal c, rest)
  | [] => .error .malformed

def readSetRange (style : ClassStyle) (cs : List Char) : Except Issue (CharSet × List Char) := do
  let skip := skipIgnored style.ignoresBlanks
  let (first, rest) ← readSetItem style cs
  let single : Except Issue CharSet :=
    match first with
    | .literal c => .ok (.only c)
    | .set set => .ok set
    | .anchor _ => .error .malformed
  match skip rest with
  | [] => .error .malformed
  | '-' :: after =>
    let next := (skip after).head?
    if next = some ']' || next = some '-' then return (← single, '-' :: after)
    else do
      let (last, rest) ← readSetItem style (skip after)
      match first, last with
      | .literal low, .literal high =>
        if low ≤ high then return (.ranges [(low, high)], rest) else .error .malformed
      | _, _ => .error .malformed
  | rest => return (← single, rest)

/-- Join what stands on the two sides of an operation. -/
def joinSides (style : ClassStyle) : Option (SetOperation × CharSet) → CharSet → CharSet
  | none, set => set
  | some (operation, left), set =>
    operation.apply (.folded style.ignoresCase left) (.folded style.ignoresCase set)

/-- The dashes in front of what stands between brackets, each as itself. -/
def leadingDashes (skip : List Char → List Char) : (fuel : Nat) → List Char → Nat × List Char
  | 0, cs => (0, cs)
  | fuel + 1, cs =>
    match skip cs with
    | '-' :: rest =>
      let (n, rest) := leadingDashes skip fuel rest
      (n + 1, rest)
    | rest => (0, rest)

mutual
/-- The set between brackets, from behind the opening one. -/
def readBracket (style : ClassStyle) : (fuel : Nat) → List Char →
    Except Issue (CharSet × List Char)
  | 0, _ => .error .malformed
  | fuel + 1, cs => do
    let skip := skipIgnored style.ignoresBlanks
    let (isNegated, rest) :=
      match skip cs with
      | '^' :: rest => (true, rest)
      | rest => (false, rest)
    let (dashes, rest) := leadingDashes skip rest.length rest
    let front := if dashes = 0 then CharSet.empty else .only '-'
    let (front, rest) :=
      match rest with
      | ']' :: after => if dashes = 0 then (.only ']', after) else (front, rest)
      | rest => (front, rest)
    let (set, rest) ← readSetItems style fuel front none rest
    return (.negated isNegated (.folded style.ignoresCase set), rest)

/-- What stands between brackets, given the set up to here and the open operation. -/
def readSetItems (style : ClassStyle) : (fuel : Nat) → CharSet →
    Option (SetOperation × CharSet) → List Char → Except Issue (CharSet × List Char)
  | 0, _, _, _ => .error .malformed
  | fuel + 1, set, open_, cs => do
    let next (operation : SetOperation) (rest : List Char) :=
      readSetItems style fuel .empty (some (operation, joinSides style open_ set)) rest
    match skipIgnored style.ignoresBlanks cs with
    | [] => .error .malformed
    | ']' :: rest => return (joinSides style open_ set, rest)
    | '&' :: '&' :: rest => next .intersection rest
    | '-' :: '-' :: rest => next .difference rest
    | '~' :: '~' :: rest => next .symmetricDifference rest
    | '[' :: rest =>
      let (inner, rest) ←
        match readAsciiClass? style.ignoresCase rest with
        | some found => .ok found
        | none => readBracket style fuel rest
      readSetItems style fuel (set.join inner) open_ rest
    | rest =>
      let (item, rest) ← readSetRange style rest
      readSetItems style fuel (set.join item) open_ rest
end

/-- The set between brackets, from behind the opening one. -/
def readClass (style : ClassStyle) (cs : List Char) : Except Issue (CharSet × List Char) :=
  readBracket style (2 * cs.length + 2) cs

end Scaffold.Pattern
