import Scaffold.Json.Alike
import Scaffold.Json.Writer
import Scaffold.Pattern.Match

/-! Schemas for document values, and the constraints that a value violates. A constraint that is
made for one type of value holds of all others. -/
namespace Scaffold

/-- The type of a value, as a schema names it. -/
inductive TypeName where
  | null
  | boolean
  | integer
  | number
  | string
  | array
  | object
  deriving DecidableEq, Repr

namespace TypeName

def all : List TypeName := [.array, .boolean, .integer, .null, .number, .object, .string]

def name : TypeName → String
  | .null => "null"
  | .boolean => "boolean"
  | .integer => "integer"
  | .number => "number"
  | .string => "string"
  | .array => "array"
  | .object => "object"

def ofName? (text : String) : Option TypeName := all.find? (·.name = text)

/-- A number without a fraction. -/
def isWhole : Number → Bool
  | .integer _ => true
  | .double bits =>
    match Binary64.decode? bits with
    | some f => 0 ≤ f.exponent || f.significand % Nat.pow 2 f.exponent.natAbs = 0
    | none => false

def holds : TypeName → Json → Bool
  | .null, .null => true
  | .boolean, .bool _ => true
  | .integer, .number value => isWhole value
  | .number, .number _ => true
  | .string, .string _ => true
  | .array, .array _ => true
  | .object, .object _ => true
  | _, _ => false

end TypeName

/-- A constraint on values. -/
inductive Schema where
  /-- No value is allowed. -/
  | never
  | types (allowed : List TypeName)
  | constant (value : Json)
  | options (values : List Json)
  | minLength (least : Nat)
  | required (names : List String)
  | pattern (source : String) (p : Pattern)
  | properties (members : List (String × Schema))
  /-- A schema for the properties that are not among the known ones. -/
  | otherProperties (known : List String) (schema : Schema)
  | propertyNames (schema : Schema)
  /-- All of some constraints, in order. -/
  | all (parts : List Schema)
  /-- A constraint on the values that satisfy another one. -/
  | whenever (test consequence : Schema)
  deriving Inhabited, Repr

/-- A constraint that a value violates. -/
inductive Violation where
  | forbidden (value : Json)
  | wrongType (value : Json) (allowed : List TypeName)
  | notConstant (expected : Json)
  | notOption (value : Json) (values : List Json)
  | tooShort (text : String) (least : Nat)
  | missing (name : String)
  | mismatch (text : String) (source : String)
  deriving DecidableEq, Repr

namespace Violation

/-- Texts with commas between them, save for the last two. -/
def listed : List String → String
  | [] => ""
  | [a] => a
  | [a, b] => a ++ " or " ++ b
  | a :: rest => a ++ ", " ++ listed rest

/-- The options of which a value should be one; of more than three, only two are named. -/
def choice (values : List Json) : String :=
  match values with
  | a :: b :: c :: d :: rest =>
    listed [a.render ++ ", " ++ b.render, toString (c :: d :: rest).length ++ " other candidates"]
  | _ => listed (values.map Json.render)

def message : Violation → String
  | .forbidden value => "False schema does not allow " ++ value.render
  | .wrongType value [type] => value.render ++ " is not of type " ++ Json.quote type.name
  | .wrongType value types =>
    value.render ++ " is not of types " ++ ", ".intercalate (types.map (Json.quote ·.name))
  | .notConstant expected => expected.render ++ " was expected"
  | .notOption value values => value.render ++ " is not one of " ++ choice values
  | .tooShort text least =>
    Json.quote text ++ " is shorter than " ++ toString least ++
      if least = 1 then " character" else " characters"
  | .missing name => Json.quote name ++ " is a required property"
  | .mismatch text source => Json.quote text ++ " does not match \"" ++ source ++ "\""

end Violation

namespace Schema

mutual
/-- The violations of a schema by a value, constraint by constraint. -/
def violations : Schema → Json → List Violation
  | .never, value => [.forbidden value]
  | .types allowed, value => if allowed.any (·.holds value) then [] else [.wrongType value allowed]
  | .constant expected, value => if expected.alike value then [] else [.notConstant expected]
  | .options values, value => if values.any (·.alike value) then [] else [.notOption value values]
  | .minLength least, .string text => if text.length < least then [.tooShort text least] else []
  | .required names, .object fields =>
    (names.filter fun name => (fields.lookup name).isNone).map .missing
  | .pattern source p, .string text =>
    if p.matchesText text then [] else [.mismatch text source]
  | .properties members, .object fields => memberViolations members fields
  | .otherProperties known schema, .object fields =>
    (fields.filter fun field => !known.contains field.1).flatMap fun field =>
      schema.violations field.2
  | .propertyNames schema, .object fields =>
    fields.flatMap fun field => schema.violations (.string field.1)
  | .all parts, value => allViolations parts value
  | .whenever test consequence, value =>
    if (test.violations value).isEmpty then consequence.violations value else []
  | _, _ => []
termination_by structural schema => schema

def allViolations : List Schema → Json → List Violation
  | [], _ => []
  | part :: rest, value => part.violations value ++ allViolations rest value
termination_by structural parts => parts

/-- The violations by the members that are there, in the order of the schema. -/
def memberViolations : List (String × Schema) → List (String × Json) → List Violation
  | [], _ => []
  | (name, schema) :: rest, fields =>
    (match fields.lookup name with
      | some value => schema.violations value
      | none => []) ++ memberViolations rest fields
termination_by structural members => members
end

def always : Schema := .all []

/-- A value satisfies a schema. -/
def accepts (schema : Schema) (value : Json) : Bool := (schema.violations value).isEmpty

@[simp] theorem accepts_always (value : Json) : always.accepts value = true := by
  simp [accepts, always, violations, allViolations]

@[simp] theorem accepts_never (value : Json) : never.accepts value = false := by
  simp [accepts, violations]

theorem accepts_all_cons (part : Schema) (rest : List Schema) (value : Json) :
    (all (part :: rest)).accepts value = (part.accepts value && (all rest).accepts value) := by
  cases h : part.violations value <;> simp [accepts, violations, allViolations, h]

theorem accepts_whenever (test consequence : Schema) (value : Json) :
    (whenever test consequence).accepts value =
      (!test.accepts value || consequence.accepts value) := by
  cases h : test.violations value <;> simp [accepts, violations, h]

end Schema

end Scaffold
