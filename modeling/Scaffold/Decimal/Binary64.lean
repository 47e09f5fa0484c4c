/-! Binary64 values as bits. A finite value is a sign, a significand and a power of two; the
nearest value of a ratio is found by exact arithmetic, with ties to the even significand. -/
namespace Scaffold.Binary64

def signBit : UInt64 := 0x8000000000000000

def infinity : Nat := 0x7FF0000000000000

/-- A finite value `± significand * 2 ^ exponent`. -/
structure Finite where
  negative : Bool
  significand : Nat
  exponent : Int
  deriving DecidableEq, Repr

/-- The finite value with these bits; infinities and NaN have none. -/
def decode? (bits : UInt64) : Option Finite :=
  let negative := bits &&& signBit != 0
  let field : Nat := (bits.toNat / Nat.pow 2 52) % 2048
  let fraction := bits.toNat % Nat.pow 2 52
  if field = 2047 then none
  else if field = 0 then some ⟨negative, fraction, -1074⟩
  else some ⟨negative, fraction + Nat.pow 2 52, (field : Int) - 1075⟩

/-- The quotient rounded to the nearest integer, a tie to the even one. -/
def roundQuotient (num den : Nat) : Nat :=
  let k := num / den
  let r := num % den
  if 2 * r < den then k
  else if den < 2 * r then k + 1
  else k + k % 2

/-- The bits nearest to `num / den`, or `none` beyond the largest finite value. -/
def ofRatio? (num den : Nat) : Option UInt64 :=
  if num = 0 then some 0
  else
    let guess : Int := (Nat.log2 num : Int) - Nat.log2 den - 53
    let scaledBy (q : Int) : Nat × Nat :=
      if q < 0 then (num * Nat.pow 2 q.natAbs, den) else (num, den * Nat.pow 2 q.natAbs)
    let (n, d) := scaledBy guess
    let q := max (if n / d < Nat.pow 2 53 then guess else guess + 1) (-1074)
    let (n, d) := scaledBy q
    let bits := (q + 1074).toNat * Nat.pow 2 52 + roundQuotient n d
    if infinity ≤ bits then none else some bits.toUInt64

/-- The significand of the nearest value times the power of ten with the given exponent, each
rounded by itself before the product or quotient is. -/
def scaled? (significand : Nat) (exponent : Int) : Option UInt64 :=
  let start := ofRatio? significand 1
  match exponent with
  | .ofNat k =>
    if k ≤ 308 then start.bind (times? · k)
    else if significand = 0 then some 0 else none
  | .negSucc k => start.bind (down (k / 308 + 1) (k + 1))
where
  /-- Magnitude and power of two of finite bits. -/
  parts (bits : UInt64) : Nat × Int :=
    match decode? bits with
    | some f => (f.significand, f.exponent)
    | none => (0, 0)
  /-- The rounded product of two magnitudes or, with `isQuotient`, their quotient. -/
  combine (a : UInt64) (isQuotient : Bool) (b : UInt64) : Option UInt64 :=
    let (m, p) := parts a
    let (n, q) := parts b
    let (num, den) := if isQuotient then (m, n) else (m * n, 1)
    let e := if isQuotient then p - q else p + q
    let power := Nat.pow 2 e.natAbs
    if e < 0 then ofRatio? num (den * power) else ofRatio? (num * power) den
  /-- The product with `10 ^ k`. -/
  times? (bits : UInt64) (k : Nat) : Option UInt64 :=
    (ofRatio? (Nat.pow 10 k) 1).bind (combine bits false)
  /-- The quotient by `10 ^ k`, taken in steps of `10 ^ 308`. -/
  down (steps k : Nat) (bits : UInt64) : Option UInt64 :=
    match steps with
    | 0 => some bits
    | steps + 1 =>
      if k ≤ 308 then (ofRatio? (Nat.pow 10 k) 1).bind (combine bits true)
      else if bits = 0 then some 0
      else ((ofRatio? (Nat.pow 10 308) 1).bind (combine bits true)).bind (down steps (k - 308))

/-- The bits nearest to `digits * 10 ^ exponent`, rounded once, or `none` when that overflows. -/
def nearest? (digits : Nat) (exponent : Int) : Option UInt64 :=
  if digits = 0 then some 0
  else
    let magnitude : Int := (Nat.log2 digits : Int) * 30103 / 100000 + exponent
    if 400 < magnitude then none
    else if magnitude < -400 then some 0
    else if exponent < 0 then ofRatio? digits (Nat.pow 10 exponent.natAbs)
    else ofRatio? (digits * Nat.pow 10 exponent.natAbs) 1

end Scaffold.Binary64
