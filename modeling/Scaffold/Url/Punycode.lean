import Scaffold.Text.Split

/-! Names in other scripts, written with letters, digits and dashes. The plain characters come
first, then numbers that say which other characters are put in between, and where. -/
namespace Scaffold.Url.Punycode

/-- The value of a digit: letters come before figures. -/
def digit? (c : Char) : Option Nat :=
  if 'a' ≤ c && c ≤ 'z' then some (c.toNat - 97)
  else if 'A' ≤ c && c ≤ 'Z' then some (c.toNat - 65)
  else if '0' ≤ c && c ≤ '9' then some (c.toNat - 22)
  else none

/-- A digit below the threshold of its place ends a number. -/
def threshold (bias place : Nat) : Nat := min 26 (max 1 (place - bias))

/-- Read a number, its lowest digit first, from the digit at a place on. Weights have four bytes.
What is left behind the number is shorter. -/
def number? (bias : Nat) : (place weight value : Nat) → (cs : List Char) →
    Option (Nat × { rest : List Char // rest.length < cs.length })
  | _, _, _, [] => none
  | place, weight, value, c :: rest => do
    let digit ← digit? c
    let limit := threshold bias place
    let sum := value + digit * weight
    if digit < limit then return (sum, ⟨rest, by simp⟩)
    if 4294967296 ≤ weight * (36 - limit) then none
    let (number, ⟨rest', shorter⟩) ← number? bias (place + 36) (weight * (36 - limit)) sum rest
    return (number, ⟨rest', by simp only [List.length_cons]; omega⟩)

/-- The bias after numbers, which have been scaled down to `delta`. -/
def biasOf (delta place : Nat) : Nat :=
  if 455 < delta then biasOf (delta / 35) (place + 36) else place + 36 * delta / (delta + 38)
termination_by delta
decreasing_by omega

/-- The bias behind a number, with so many characters put together. The first number is usually
large. -/
def nextBias (number count : Nat) (first : Bool) : Nat :=
  let scaled := if first then number / 700 else number / 2
  biasOf (scaled + scaled / count) 0

/-- Put characters into a text, each at the place that its number leads to. The numbers run through
the places of the text, then through those for the next character. -/
def insertAll? (bias code place : Nat) (out cs : List Char) : Option (List Char) :=
  if cs.isEmpty then some out
  else
    match number? bias 36 1 0 cs with
    | none => none
    | some (number, rest) =>
      let count := out.length + 1
      let next := code + (place + number) / count
      let index := (place + number) % count
      if next.isValidChar then
        insertAll? (nextBias number count (place = 0)) next (index + 1)
          (out.insertIdx index (Char.ofNat next)) rest.1
      else none
termination_by cs.length
decreasing_by exact rest.2

/-- The text that is written. The last dash comes behind the plain characters, if there are any. -/
def decode? (cs : List Char) : Option (List Char) :=
  let tail := (cs.reverse.takeWhile (· ≠ '-')).reverse
  match cs.take (cs.length - tail.length - 1) with
  | [] => insertAll? 72 128 0 [] cs
  | plain => if plain.all (·.toNat < 128) then insertAll? 72 128 0 plain tail else none

end Scaffold.Url.Punycode
