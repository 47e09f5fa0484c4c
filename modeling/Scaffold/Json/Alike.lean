import Scaffold.Json.Basic
import Scaffold.Decimal.Binary64

/-! Equality of values by meaning: numbers are compared by value, and objects without regard to
the order of their fields. -/
namespace Scaffold

/-- A finite binary64 has exactly the value of an integer. -/
def Binary64.Finite.isInteger (f : Binary64.Finite) (value : Int) : Bool :=
  let magnitude : Int := if f.negative then -f.significand else f.significand
  if 0 ≤ f.exponent then value == magnitude * Nat.pow 2 f.exponent.natAbs
  else value * Nat.pow 2 f.exponent.natAbs == magnitude

/-- Equality of numbers by value, without rounding. Both zeros are one. -/
def Number.alike : Number → Number → Bool
  | .integer a, .integer b => a == b
  | .integer a, .double bits | .double bits, .integer a =>
    (Binary64.decode? bits).any (·.isInteger a)
  | .double a, .double b => a == b || (a ||| b ||| Binary64.signBit) == Binary64.signBit

namespace Json

mutual
/-- Equality of values by meaning, decided along the first one. -/
def alike : Json → Json → Bool
  | .null, .null => true
  | .bool a, .bool b => a == b
  | .number a, .number b => a.alike b
  | .string a, .string b => a == b
  | .array xs, .array ys => alikeItems xs ys
  | .object xs, .object ys => xs.length == ys.length && alikeFields xs ys
  | _, _ => false
termination_by structural a => a

def alikeItems : List Json → List Json → Bool
  | [], [] => true
  | x :: xs, y :: ys => alike x y && alikeItems xs ys
  | _, _ => false
termination_by structural xs => xs

/-- Every field has a field of its name that is alike. -/
def alikeFields : List (String × Json) → List (String × Json) → Bool
  | [], _ => true
  | (key, x) :: xs, ys =>
    (match ys.lookup key with
      | some y => alike x y
      | none => false) && alikeFields xs ys
termination_by structural xs => xs
end

theorem alike_string (text : String) (value : Json) :
    alike (.string text) value = true ↔ value = .string text := by
  cases value <;> simp [alike]
  exact eq_comm

theorem alike_of_string (value : Json) (text : String) :
    alike value (.string text) = true ↔ value = .string text := by
  cases value <;> simp [alike]

end Json

end Scaffold
