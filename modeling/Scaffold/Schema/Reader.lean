import Scaffold.Pattern.Reader
import Scaffold.Schema.Basic

/-! Schemas that are written as document values: a flag, or an object with one member per keyword.
The order of the members does not matter, and unknown keywords are passed over. -/
namespace Scaffold.Schema

/-- The keywords with a constraint of their own, in the order in which they are checked. -/
def keywords : List String :=
  ["type", "const", "enum", "minLength", "required", "pattern", "properties",
    "additionalProperties", "propertyNames", "allOf"]

def lengthLimit : Nat := 18446744073709551615

/-- A length: a natural number, of which a fraction of zero does not matter. One beyond the limit
counts as the limit. -/
def length? : Json → Option Nat
  | .number (.integer (.ofNat n)) => some n
  | .number (.double bits) =>
    if TypeName.isWhole (.double bits) then
      (Binary64.decode? bits).bind fun f =>
        if f.significand = 0 then some 0
        else if f.negative then none
        else if 0 ≤ f.exponent then
          some (min lengthLimit (f.significand * Nat.pow 2 f.exponent.natAbs))
        else some (f.significand / Nat.pow 2 f.exponent.natAbs)
    else none
  | _ => none

def names? (value : Json) : Option (List String) := do
  let names ← (← value.items?).mapM Json.text?
  if names.Nodup then some names else none

def types? : Json → Option (List TypeName)
  | .string name => (TypeName.ofName? name).map ([·])
  | value => do
    let names ← names? value
    let types ← names.mapM TypeName.ofName?
    if types.isEmpty then none else some (TypeName.all.filter types.contains)

/-- The schema with these constraints: those of the keywords in their order, and last the one that
depends on a test. -/
def assemble (clauses : List (String × Schema)) : Schema :=
  let parts := keywords.filterMap (List.lookup · clauses)
  match clauses.lookup "if", clauses.lookup "then" with
  | some test, some consequence => .all (parts ++ [.whenever test consequence])
  | _, _ => .all parts

/-- The constraint of one keyword, given how to read the schemas inside it. The properties that
have a schema of their own are known. -/
def clause? (read : Json → Option Schema) (known : List String) (key : String) (value : Json) :
    Option Schema :=
  match key with
  | "type" => (types? value).map .types
  | "const" => some (.constant value)
  | "enum" => value.items?.map .options
  | "minLength" => (length? value).map .minLength
  | "required" => (names? value).map .required
  | "pattern" => do
    let (form, p) ← Pattern.read? (← value.text?)
    return .pattern form p
  | "properties" => do
    let members ← (← value.fields?).mapM fun (name, value) => (read value).map (name, ·)
    return .properties members
  | "additionalProperties" => (read value).map (.otherProperties known)
  | "propertyNames" => (read value).map .propertyNames
  | "allOf" => do
    let parts ← (← value.items?).mapM read
    if parts.isEmpty then none else some (.all parts)
  | "if" | "then" => read value
  | _ => some always

/-- The schema that a value of at most this depth writes, unless it is malformed. -/
def readWithin? : (depth : Nat) → Json → Option Schema
  | _, .bool true => some always
  | _, .bool false => some .never
  | depth + 1, .object fields => do
    let known := (((fields.lookup "properties").bind Json.fields?).getD []).map Prod.fst
    let clauses ← fields.mapM fun (key, value) =>
      (clause? (readWithin? depth) known key value).map (key, ·)
    return assemble clauses
  | _, _ => none

/-- The schema that a value writes, unless it is malformed. -/
def read? (value : Json) : Option Schema := readWithin? value.depth value

end Scaffold.Schema
