import Scaffold.Pattern.Basic

/-! Where patterns match. A pattern is followed from a place in a text to the places behind its
matches, those that it prefers first. -/
namespace Scaffold.Pattern

/-- A place in a text: the characters before it, the nearest first, those behind it, and what
groups remember. -/
structure Place where
  before : List Char
  after : List Char
  groups : List (Nat × List Char)
  deriving DecidableEq, Repr

namespace Place

def start (text : List Char) : Place := ⟨[], text, []⟩

/-- A word character comes before. -/
def wordBefore (p : Place) : Bool := p.before.head?.any CharSet.word.holds

def wordAfter (p : Place) : Bool := p.after.head?.any CharSet.word.holds

def satisfies (p : Place) : Anchor → Bool
  | .start => p.before.isEmpty
  | .finish => p.after.isEmpty
  | .beforeFinalBreaks => p.after.all (· = '\n')
  | .lineStart => p.before.head?.all (· = '\n')
  | .lineFinish => p.after.head?.all (· = '\n')
  | .wordBoundary => p.wordBefore != p.wordAfter
  | .notWordBoundary => p.wordBefore == p.wordAfter
  | .wordStart => !p.wordBefore && p.wordAfter
  | .wordFinish => p.wordBefore && !p.wordAfter
  | .wordStartHalf => !p.wordBefore
  | .wordFinishHalf => !p.wordAfter

/-- The place behind the next character, if the set holds it. -/
def step? (p : Place) (set : CharSet) : Option Place :=
  match p.after with
  | c :: rest => if set.holds c then some ⟨c :: p.before, rest, p.groups⟩ else none
  | [] => none

def pass? (ignoresCase : Bool) : List Char → Place → Option Place
  | [], p => some p
  | c :: text, p => (p.step? (.folded ignoresCase (.only c))).bind (pass? ignoresCase text)

def textSince (p earlier : Place) : List Char :=
  (p.before.take (p.before.length - earlier.before.length)).reverse

/-- The place where a group remembers the text since an earlier place. -/
def remember (p : Place) (number : Nat) (earlier : Place) : Place :=
  { p with groups := (number, p.textSince earlier) :: p.groups.filter (·.1 ≠ number) }

def back (p : Place) (n : Nat) : Place :=
  ⟨p.before.drop n, (p.before.take n).reverse ++ p.after, p.groups⟩

end Place

/-- The places that `n` repetitions of `follow` lead to. -/
def repeatExactly (follow : Place → List Place) : (n : Nat) → List Place → List Place
  | 0, places => places
  | n + 1, places =>
    let next := (places.flatMap follow).eraseDups
    if next = places then places else repeatExactly follow n next

/-- The places that repetitions of `follow` lead to, at most `limit` of them, each with progress.
A place that has come up before is not followed again. -/
def repeatFurther (follow : Place → List Place) (isGreedy : Bool) :
    (fuel : Nat) → (limit : Option Nat) → Place → List (Option Nat × Place) →
      List Place × List (Option Nat × Place)
  | 0, _, p, seen => ([p], seen)
  | fuel + 1, limit, p, seen =>
    if limit = some 0 then ([p], seen)
    else if seen.contains (limit, p) then ([], seen)
    else
      let (further, seen) := (follow p).foldl (fun (found, seen) next =>
        if next.after.length < p.after.length then
          let (more, seen) := repeatFurther follow isGreedy fuel (limit.map (· - 1)) next seen
          (found ++ more, seen)
        else (found, seen)) ([], (limit, p) :: seen)
      (if isGreedy then further ++ [p] else p :: further, seen)

/-- The places behind the matches of a pattern at a place, those that it prefers first. -/
def follow : Pattern → Place → List Place
  | .empty, p => [p]
  | .one set, p => (p.step? set).toList
  | .anchor a, p => if p.satisfies a then [p] else []
  | .seq first second, p => ((first.follow p).flatMap second.follow).eraseDups
  | .either first second, p => (first.follow p ++ second.follow p).eraseDups
  | .repeated body least most isGreedy, p =>
    let further (q : Place) : List Place :=
      (repeatFurther body.follow isGreedy (q.after.length + 1) (most.map (· - least)) q []).1
    ((repeatExactly body.follow least [p]).flatMap further).eraseDups
  | .group number body, p => (body.follow p).map (·.remember number p)
  | .again number ignoresCase, p =>
    match p.groups.lookup number with
    | some text => (Place.pass? ignoresCase text p).toList
    | none => []
  | .ahead isNegated body, p =>
    match body.follow p with
    | q :: _ => if isNegated then [] else [{ p with groups := q.groups }]
    | [] => if isNegated then [p] else []
  | .behind isNegated body, p =>
    let ends := (List.range (p.before.length + 1)).flatMap fun n =>
      (body.follow (p.back n)).filter fun q => q.before.length = p.before.length
    match ends with
    | q :: _ => if isNegated then [] else [{ p with groups := q.groups }]
    | [] => if isNegated then [p] else []
  | .atomic body, p => (body.follow p).take 1
  | .whenMatches condition first second, p =>
    match condition.follow p with
    | q :: _ => first.follow q
    | [] => second.follow p
  | .whenGroup number first second, p =>
    if (p.groups.lookup number).isSome then first.follow p else second.follow p

/-- The pattern matches at a place or somewhere behind it, where `before` comes before that. -/
def matchesBehind (pattern : Pattern) (before : List Char) : List Char → Bool
  | [] => !(pattern.follow ⟨before, [], []⟩).isEmpty
  | c :: rest =>
    !(pattern.follow ⟨before, c :: rest, []⟩).isEmpty || matchesBehind pattern (c :: before) rest

def matchesText (pattern : Pattern) (text : String) : Bool :=
  pattern.matchesBehind [] text.toList

end Scaffold.Pattern
