import Scaffold.Pattern.Escape

/-! Patterns of texts: characters and sets of them, sequences, choices and repetitions, groups that
remember what they matched, and conditions on what lies around. -/
namespace Scaffold

inductive Pattern where
  | empty
  /-- One character of a set. -/
  | one (set : CharSet)
  | anchor (anchor : Pattern.Anchor)
  | seq (first second : Pattern)
  /-- The first pattern, or else the second one. -/
  | either (first second : Pattern)
  /-- At least `least` and at most `most` repetitions; as many as possible if it is greedy, and as
  few as possible otherwise. -/
  | repeated (body : Pattern) (least : Nat) (most : Option Nat) (isGreedy : Bool)
  /-- A group that remembers its text under a number. -/
  | group (number : Nat) (body : Pattern)
  /-- The text that a group remembers. -/
  | again (number : Nat) (ignoresCase : Bool)
  /-- The pattern matches from here on, or does not. -/
  | ahead (isNegated : Bool) (body : Pattern)
  /-- The pattern matches up to here, or does not. -/
  | behind (isNegated : Bool) (body : Pattern)
  /-- The first match of the pattern, and no other one. -/
  | atomic (body : Pattern)
  /-- One of two patterns, as the condition matches or does not. -/
  | whenMatches (condition first second : Pattern)
  /-- One of two patterns, as a group has matched or has not. -/
  | whenGroup (number : Nat) (first second : Pattern)
  deriving DecidableEq, Repr

namespace Pattern

/-- One character, or another one that differs in case only. -/
def char (ignoresCase : Bool) (c : Char) : Pattern := .one (.folded ignoresCase (.only c))

def ofList : List Pattern → Pattern
  | [] => .empty
  | [p] => p
  | p :: rest => .seq p (ofList rest)

def many (body : Pattern) : Pattern := .repeated body 1 none true

/-- The pattern looks around, refers back or commits itself to its first match. -/
def isExtended : Pattern → Bool
  | .empty | .one _ | .anchor _ => false
  | .seq first second | .either first second => first.isExtended || second.isExtended
  | .repeated body _ _ _ | .group _ body => body.isExtended
  | .again _ _ | .ahead _ _ | .behind _ _ | .atomic _ => true
  | .whenMatches _ _ _ | .whenGroup _ _ _ => true

/-- The number of characters that every match of the pattern has. -/
def width? : Pattern → Option Nat
  | .empty | .anchor _ | .ahead _ _ | .behind _ _ => some 0
  | .one _ => some 1
  | .seq first second => do return (← first.width?) + (← second.width?)
  | .either first second => do
    let n ← first.width?
    if n = (← second.width?) then some n else none
  | .repeated body least most _ => do
    let n ← body.width?
    if most = some least then some (n * least) else none
  | .group _ body | .atomic body => body.width?
  | .again _ _ | .whenMatches _ _ _ | .whenGroup _ _ _ => none

/-- The pattern can be looked for behind a place: alternatives of a fixed width each, or a pattern
that is not extended. -/
def canLookBehind : Pattern → Bool
  | .either first second =>
    (first.canLookBehind && second.canLookBehind) ||
      !(first.isExtended || second.isExtended)
  | p => p.width?.isSome || !p.isExtended

/-- The numbers of the groups to which the pattern refers back. -/
def references : Pattern → List Nat
  | .empty | .one _ | .anchor _ => []
  | .seq first second | .either first second => first.references ++ second.references
  | .repeated body _ _ _ | .group _ body | .ahead _ body | .behind _ body | .atomic body =>
    body.references
  | .again number _ => [number]
  | .whenMatches condition first second =>
    condition.references ++ first.references ++ second.references
  | .whenGroup number first second => number :: (first.references ++ second.references)

/-- The pattern without the groups that are not among some numbers. -/
def keepGroups (numbers : List Nat) : Pattern → Pattern
  | .seq first second => .seq (first.keepGroups numbers) (second.keepGroups numbers)
  | .either first second => .either (first.keepGroups numbers) (second.keepGroups numbers)
  | .repeated body least most isGreedy => .repeated (body.keepGroups numbers) least most isGreedy
  | .group number body =>
    if numbers.contains number then .group number (body.keepGroups numbers)
    else body.keepGroups numbers
  | .ahead isNegated body => .ahead isNegated (body.keepGroups numbers)
  | .behind isNegated body => .behind isNegated (body.keepGroups numbers)
  | .atomic body => .atomic (body.keepGroups numbers)
  | .whenMatches condition first second =>
    .whenMatches (condition.keepGroups numbers) (first.keepGroups numbers)
      (second.keepGroups numbers)
  | .whenGroup number first second =>
    .whenGroup number (first.keepGroups numbers) (second.keepGroups numbers)
  | p => p

end Pattern

end Scaffold
