import Scaffold.Text.Digits
import Scaffold.Text.Split

/-! Sets of code points, as ranges in order. -/
namespace Scaffold.Unicode

/-- A set of code points: the first and last code point of each of its ranges, in order. -/
structure CodeSet where
  ranges : Array (Nat × Nat)
  deriving DecidableEq, Repr

namespace CodeSet

/-- One of the ranges from place `low` up to place `high` holds the code point. A search by halves
takes fewer steps than there are places. -/
def isAmong (s : CodeSet) (code : Nat) : (fuel low high : Nat) → Bool
  | 0, _, _ => false
  | fuel + 1, low, high =>
    if high ≤ low then false
    else
      let middle := (low + high) / 2
      match s.ranges[middle]? with
      | none => false
      | some (first, last) =>
        if code < first then isAmong s code fuel low middle
        else if last < code then isAmong s code fuel (middle + 1) high
        else true

def contains (s : CodeSet) (code : Nat) : Bool :=
  s.isAmong code s.ranges.size 0 s.ranges.size

def holds (s : CodeSet) (c : Char) : Bool := s.contains c.toNat

/-- The range that a code point in hexadecimal digits writes, or two of them with a dash. -/
def rangeOf? (text : List Char) : Option (Nat × Nat) :=
  match (text.splitOn '-').mapM Text.hexDigitsValue? with
  | some [code] => some (code, code)
  | some [first, last] => some (first, last)
  | _ => none

/-- The set that a text writes: its ranges in order, with blanks between them. -/
def ofText (text : String) : CodeSet :=
  ⟨((Text.words text.toList).filterMap rangeOf?).toArray⟩

end CodeSet

end Scaffold.Unicode
