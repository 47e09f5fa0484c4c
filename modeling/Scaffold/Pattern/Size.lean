import Scaffold.Pattern.Basic

/-! How large the machines for a pattern are. Two of them follow a text byte by byte, one forwards
and one backwards, and in both all repetitions are written out. A pattern is taken up if its
machines, or those for its parts if it is extended, keep within a bound. -/
namespace Scaffold

namespace CharSet

def edges : CharSet → List Nat
  | .ranges spans => spans.flatMap fun (first, last) => [first.toNat, last.toNat + 1]
  | .codes members => members.ranges.toList.flatMap fun (first, last) => [first, last + 1]
  | .union a b | .intersection a b | .difference a b | .symmetricDifference a b =>
    a.edges ++ b.edges
  | .complement a => a.edges
  | .anyCase a =>
    let orbits := Unicode.caseOrbits.filter (·.any fun code => a.holds (Char.ofNat code))
    a.edges ++ orbits.flatten.flatMap fun code => [code, code + 1]

def insertEdge (n : Nat) : List Nat → List Nat
  | [] => [n]
  | m :: rest =>
    if n < m then n :: m :: rest else if n = m then m :: rest else m :: insertEdge n rest

/-- Put a range in front of ranges in order, as one with the first of them if they meet. -/
def joinSpan (first last : Nat) : List (Nat × Nat) → List (Nat × Nat)
  | (next, final) :: rest =>
    if last + 1 = next then (first, final) :: rest else (first, last) :: (next, final) :: rest
  | [] => [(first, last)]

/-- The ranges of code points between edges that hold characters of a set. -/
def spansBetween (a : CharSet) : List Nat → List (Nat × Nat)
  | first :: next :: rest =>
    let spans := a.spansBetween (next :: rest)
    if first.isValidChar && a.holds (Char.ofNat first) then joinSpan first (next - 1) spans
    else spans
  | _ => []

/-- The ranges of the code points of a set, in order. -/
def spans (a : CharSet) : List (Nat × Nat) :=
  a.spansBetween ((a.edges ++ [0, 0xD800, 0xE000, 0x110000]).foldr insertEdge [])

/-- The ranges of digits in base 64 that numbers run through, with `count` digits behind the first
one. -/
def digitRanges : (count : Nat) → (first last : Nat) → List (List (Nat × Nat))
  | 0, first, last => [[(first, last)]]
  | count + 1, first, last =>
    let unit := Nat.pow 64 (count + 1)
    let below (low high : Nat) (paths : List (List (Nat × Nat))) : List (List (Nat × Nat)) :=
      paths.map ((low, high) :: ·)
    if first / unit = last / unit then
      below (first / unit) (first / unit) (digitRanges count (first % unit) (last % unit))
    else
      let low := (first + unit - 1) / unit
      let high := (last + 1) / unit
      (if first % unit = 0 then []
        else below (low - 1) (low - 1) (digitRanges count (first % unit) (unit - 1))) ++
      (if low < high then below low (high - 1) (digitRanges count 0 (unit - 1)) else []) ++
      (if (last + 1) % unit = 0 then []
        else below high high (digitRanges count 0 (last % unit)))

/-- The ranges of bytes that a range of code points is encoded in, one list for each run of code
points that the ranges of a list make up. The first byte tells the number of bytes. -/
def byteRanges (span : Nat × Nat) : List (List (Nat × Nat)) :=
  [(0, 0x7F, 0, 0), (0x80, 0x7FF, 1, 0xC0), (0x800, 0xFFFF, 2, 0xE0),
      (0x10000, 0x10FFFF, 3, 0xF0)].flatMap fun (low, high, count, mark) =>
    let (first, last) := (max low span.1, min high span.2)
    if last < first then []
    else
      (digitRanges count first last).map fun path =>
        match path with
        | (a, b) :: rest => (a + mark, b + mark) :: rest
        | [] => []

/-- The number of ranges at the start that two lists share. -/
def sharedLength : List (Nat × Nat) → List (Nat × Nat) → Nat
  | a :: as, b :: bs => if a = b then sharedLength as bs + 1 else 0
  | _, _ => 0

/-- The number of ranges in lists in order, where what a list shares with the one before it does not
count. -/
def stepCount (before : List (Nat × Nat)) : List (List (Nat × Nat)) → Nat
  | [] => 0
  | path :: rest => path.length - sharedLength before path + stepCount path rest

/-- The bytes that the machine for a set takes: 32 for each state, 8 for each range of bytes in a
state that holds several, and 4 for each alternative. -/
def machineSize (isBackward : Bool) (a : CharSet) : Nat :=
  let spans := a.spans
  let sequences := spans.flatMap byteRanges
  let steps := stepCount [] sequences
  match spans with
  | [] => 32
  | (first, last) :: rest =>
    if rest.isEmpty && first = last then 32 * steps
    else if spans.all (·.2 < 128) then 64 + 8 * spans.length
    else if isBackward then 32 * (steps + 2) + 4 * sequences.length
    else 32 * (steps - sequences.length + 2) + 8 * steps

end CharSet

namespace Pattern

def isChoice : Pattern → Bool
  | .either _ _ => true
  | _ => false

/-- The bytes that the machine for a pattern takes. What is looked for around, or remembered, takes
none. -/
def machineSize (isBackward : Bool) : Pattern → Nat
  | .empty | .anchor _ => 32
  | .one set => set.machineSize isBackward
  | .seq first second => first.machineSize isBackward + second.machineSize isBackward
  | .either first second =>
    first.machineSize isBackward + second.machineSize isBackward +
      if second.isChoice then 4 else 72
  | .repeated body least most _ =>
    let size := body.machineSize isBackward
    match most with
    | none => max 1 least * size + 40
    | some most => least * size + if least < most then (most - least) * (size + 40) + 32 else 0
  | .group _ body => body.machineSize isBackward + if isBackward then 0 else 64
  | _ => 0

/-- The bytes that a machine may take. -/
def sizeLimit : Nat := 10485760

/-- The machines for the pattern, or for its parts if it is extended, keep within the bound. -/
def isMachineSized (p : Pattern) : Bool :=
  if !p.isExtended then p.machineSize false ≤ sizeLimit && p.machineSize true ≤ sizeLimit
  else
    match p with
    | .seq first second | .either first second => first.isMachineSized && second.isMachineSized
    | .repeated body _ _ _ | .group _ body | .ahead _ body | .behind _ body | .atomic body =>
      body.isMachineSized
    | .whenMatches condition first second =>
      condition.isMachineSized && first.isMachineSized && second.isMachineSized
    | .whenGroup _ first second => first.isMachineSized && second.isMachineSized
    | _ => true

end Pattern

end Scaffold
