import Scaffold.Decimal.Binary64

/-! The decimal text of a binary64: the fewest digits that read back as the value, of those the
nearest to it, and a layout that is positional for moderate exponents. -/
namespace Scaffold.Binary64

/-- A positive decimal `digits * 10 ^ exponent`. -/
structure Decimal where
  digits : Nat
  exponent : Int
  deriving DecidableEq, Repr

structure Ratio where
  num : Nat
  den : Nat

def Ratio.ofPower (factor base : Nat) (exponent : Int) : Ratio :=
  let power := Nat.pow base exponent.natAbs
  if exponent < 0 then ⟨factor, power⟩ else ⟨factor * power, 1⟩

def Ratio.le (a b : Ratio) : Bool := a.num * b.den ≤ b.num * a.den

def Ratio.lt (a b : Ratio) : Bool := a.num * b.den < b.num * a.den

def Ratio.distance (a b : Ratio) : Ratio :=
  ⟨max (a.num * b.den) (b.num * a.den) - min (a.num * b.den) (b.num * a.den), a.den * b.den⟩

/-- The decimal exponent of the leading digit of a positive ratio. -/
def Ratio.magnitude (r : Ratio) : Int :=
  let guess := ((Nat.log2 r.num : Int) - Nat.log2 r.den) * 30103 / 100000
  let fits (e : Int) : Bool := (Ratio.ofPower 1 10 e).le r
  if fits (guess + 1) then guess + 1 else if fits guess then guess else guess - 1

/-- The decimal reads back as the value with this significand and exponent. -/
def readsBack (significand : Nat) (exponent : Int) (d : Decimal) : Bool :=
  let below := if significand = Nat.pow 2 52 && exponent ≠ -1074 then 1 else 2
  let low := Ratio.ofPower (4 * significand - below) 2 (exponent - 2)
  let high := Ratio.ofPower (4 * significand + 2) 2 (exponent - 2)
  let value := Ratio.ofPower d.digits 10 d.exponent
  if significand % 2 = 0 then low.le value && value.le high else low.lt value && value.lt high

/-- Of the two decimals with `n` digits next to the value, the one that reads back; the nearer
one if both do, and the even one at a tie. -/
def onGrid? (significand : Nat) (exponent : Int) (n : Nat) : Option Decimal :=
  let value := Ratio.ofPower significand 2 exponent
  let unit := value.magnitude - (n : Int) + 1
  let grid := Ratio.ofPower 1 10 unit
  let below := (value.num * grid.den) / (value.den * grid.num)
  let lower : Decimal := ⟨below, unit⟩
  let upper : Decimal := ⟨below + 1, unit⟩
  match readsBack significand exponent lower, readsBack significand exponent upper with
  | false, false => none
  | true, false => some lower
  | false, true => some upper
  | true, true =>
    let toLower := value.distance (Ratio.ofPower lower.digits 10 unit)
    let toUpper := value.distance (Ratio.ofPower upper.digits 10 unit)
    if toLower.lt toUpper then some lower
    else if toUpper.lt toLower then some upper
    else if below % 2 = 0 then some lower else some upper

def Decimal.stripped (d : Decimal) : Decimal :=
  go d.digits d
where
  /-- Drop at most `fuel` zeros. -/
  go : Nat → Decimal → Decimal
    | 0, d => d
    | fuel + 1, d =>
      if d.digits ≠ 0 && d.digits % 10 = 0 then go fuel ⟨d.digits / 10, d.exponent + 1⟩ else d

/-- The fewest digits that read back as a positive finite value. -/
def shortest (significand : Nat) (exponent : Int) : Decimal :=
  match ((List.range 17).findSome? fun n => onGrid? significand exponent (n + 1)) with
  | some d => d.stripped
  | none => ⟨significand, 0⟩

/-- Positional notation while the point stays within sixteen digits and five zeros, scientific
notation with a signed exponent beyond; a fraction part is always shown in positional notation. -/
def Decimal.layout (d : Decimal) : String :=
  let ds := (Nat.toDigits 10 d.digits)
  let n := ds.length
  let point : Int := n + d.exponent
  if 0 ≤ d.exponent && point ≤ 16 then
    String.ofList (ds ++ List.replicate d.exponent.toNat '0') ++ ".0"
  else if 0 < point && point ≤ 16 then
    String.ofList (ds.take point.toNat) ++ "." ++ String.ofList (ds.drop point.toNat)
  else if -5 < point && point ≤ 0 then
    "0." ++ String.ofList (List.replicate point.natAbs '0' ++ ds)
  else
    let lead := String.ofList (ds.take 1)
    let tail := if n ≤ 1 then "" else "." ++ String.ofList (ds.drop 1)
    lead ++ tail ++ (if 0 < point then "e+" else "e") ++ toString (point - 1)

/-- The text of a binary64; a value that is not finite has none. -/
def text? (bits : UInt64) : Option String :=
  (decode? bits).map fun f =>
    let sign := if f.negative then "-" else ""
    if f.significand = 0 then sign ++ "0.0"
    else sign ++ (shortest f.significand f.exponent).layout

end Scaffold.Binary64
