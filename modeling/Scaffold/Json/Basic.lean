import Scaffold.Entries

/-! Document values. Objects keep their fields in document order, and a number is either an
integer or the bits of a binary64, so that equality of values is decidable and lawful. -/
namespace Scaffold

/-- A number as it was written: an integer, or a binary64 given by its bits. -/
inductive Number where
  | integer (value : Int)
  | double (bits : UInt64)
  deriving DecidableEq, Inhabited, Repr

/-- A document value. -/
inductive Json where
  | null
  | bool (value : Bool)
  | number (value : Number)
  | string (value : String)
  | array (items : List Json)
  | object (fields : List (String × Json))
  deriving Inhabited, Repr

namespace Json

mutual
/-- Equality of values, decided along the first one. -/
def same : Json → Json → Bool
  | .null, .null => true
  | .bool a, .bool b => a == b
  | .number a, .number b => a == b
  | .string a, .string b => a == b
  | .array xs, .array ys => sameItems xs ys
  | .object xs, .object ys => sameFields xs ys
  | _, _ => false
termination_by structural a => a

def sameItems : List Json → List Json → Bool
  | [], [] => true
  | x :: xs, y :: ys => same x y && sameItems xs ys
  | _, _ => false
termination_by structural xs => xs

def sameFields : List (String × Json) → List (String × Json) → Bool
  | [], [] => true
  | (k, x) :: xs, (l, y) :: ys => k == l && same x y && sameFields xs ys
  | _, _ => false
termination_by structural xs => xs
end

mutual
theorem same_iff (a b : Json) : same a b = true ↔ a = b := by
  cases a with
  | array xs => cases b <;> simp [same, sameItems_iff xs]
  | object xs => cases b <;> simp [same, sameFields_iff xs]
  | null => cases b <;> simp [same]
  | bool x => cases b <;> simp [same]
  | number x => cases b <;> simp [same]
  | string x => cases b <;> simp [same]

theorem sameItems_iff (xs ys : List Json) : sameItems xs ys = true ↔ xs = ys := by
  cases xs with
  | nil => cases ys <;> simp [sameItems]
  | cons x xs =>
    cases ys with
    | nil => simp [sameItems]
    | cons y ys => simp [sameItems, same_iff x y, sameItems_iff xs ys]

theorem sameFields_iff (xs ys : List (String × Json)) : sameFields xs ys = true ↔ xs = ys := by
  cases xs with
  | nil => cases ys <;> simp [sameFields]
  | cons x xs =>
    obtain ⟨k, x⟩ := x
    cases ys with
    | nil => simp [sameFields]
    | cons y ys =>
      obtain ⟨l, y⟩ := y
      simp [sameFields, same_iff x y, sameFields_iff xs ys]
end

instance : DecidableEq Json := fun a b => decidable_of_iff _ (same_iff a b)

def fields? : Json → Option (List (String × Json))
  | .object fields => some fields
  | _ => none

def items? : Json → Option (List Json)
  | .array items => some items
  | _ => none

def text? : Json → Option String
  | .string text => some text
  | _ => none

/-- The value of an object's field. -/
def field? (key : String) (value : Json) : Option Json :=
  value.fields?.bind (List.lookup key)

mutual
/-- How many arrays and objects lie inside each other. -/
def depth : Json → Nat
  | .array items => depthOfItems items + 1
  | .object fields => depthOfFields fields + 1
  | _ => 0
termination_by structural value => value

def depthOfItems : List Json → Nat
  | [] => 0
  | item :: rest => max (depth item) (depthOfItems rest)
termination_by structural items => items

def depthOfFields : List (String × Json) → Nat
  | [] => 0
  | (_, value) :: rest => max (depth value) (depthOfFields rest)
termination_by structural fields => fields
end

def isObject : Json → Bool
  | .object _ => true
  | _ => false

end Json

end Scaffold
