import Scaffold.Config.Basic
import Scaffold.Entries
import Scaffold.Json.Writer
import Scaffold.Text.Printable

/-! Reading a configuration from a document value. A record is written as an object, or as the list
of its members in their order. -/
namespace Scaffold.Config

/-- What was wanted in place of a value of another type. -/
inductive Wanted where
  | text
  | path
  | mapping
  | record (name : String)
  deriving DecidableEq, Repr

/-- Why a value is no configuration. -/
inductive DecodeError where
  | missing (member : String)
  | wrongType (found : Json) (wanted : Wanted)
  /-- The list of a record ends after `count` members. -/
  | tooShort (count : Nat) (record : String) (members : Nat)
  /-- The list of a record goes on behind its last member. -/
  | tooLong (count : Nat)
  deriving DecidableEq, Repr

def Wanted.message : Wanted → String
  | .text => "a string"
  | .path => "path string"
  | .mapping => "a map"
  | .record name => "struct " ++ name

def foundMessage : Json → String
  | .null => "null"
  | .bool value => "boolean `" ++ (if value then "true" else "false") ++ "`"
  | .number (.integer value) => "integer `" ++ toString value ++ "`"
  | .number (.double bits) => "floating point `" ++ (Number.double bits).text ++ "`"
  | .string text => "string " ++ Text.quoteVisible text
  | .array _ => "sequence"
  | .object _ => "map"

def DecodeError.message : DecodeError → String
  | .missing member => "missing field `" ++ member ++ "`"
  | .wrongType found wanted =>
    "invalid type: " ++ foundMessage found ++ ", expected " ++ wanted.message
  | .tooShort count record members =>
    "invalid length " ++ toString count ++ ", expected struct " ++ record ++ " with " ++
      toString members ++ if members = 1 then " element" else " elements"
  | .tooLong count =>
    "invalid length " ++ toString count ++ ", expected fewer elements in array"

/-- How a member of a record is read. -/
structure Member (α : Type) where
  name : String
  decode : Json → Except DecodeError α

namespace Member

variable {α β γ : Type}

/-- The error of a field, when it is this member. -/
def fault? (m : Member α) (field : String × Json) : Option DecodeError :=
  if field.1 = m.name then
    match m.decode field.2 with
    | .ok _ => none
    | .error e => some e
  else none

/-- The member in an object. -/
def find (m : Member α) (fields : List (String × Json)) : Except DecodeError α :=
  match fields.lookup m.name with
  | some value => m.decode value
  | none => .error (.missing m.name)

/-- The member at the front of the list of a record, and the list behind it. -/
def next (record : String) (members index : Nat) (m : Member α) :
    List Json → Except DecodeError (α × List Json)
  | [] => .error (.tooShort index record members)
  | value :: rest => do return (← m.decode value, rest)

def one (record : String) (a : Member α) : Json → Except DecodeError α
  | .object fields => a.find fields
  | .array items => do
    let (x, rest) ← a.next record 1 0 items
    if rest.isEmpty then return x else .error (.tooLong items.length)
  | value => .error (.wrongType value (.record record))

/-- A record with three members. The fields of an object are read in document order; what is
missing is found out only then. -/
def three (record : String) (a : Member α) (b : Member β) (c : Member γ) :
    Json → Except DecodeError (α × β × γ)
  | .object fields =>
    match fields.findSome? fun field =>
        (a.fault? field).or ((b.fault? field).or (c.fault? field)) with
    | some e => .error e
    | none => do return (← a.find fields, ← b.find fields, ← c.find fields)
  | .array items => do
    let (x, rest) ← a.next record 3 0 items
    let (y, rest) ← b.next record 3 1 rest
    let (z, rest) ← c.next record 3 2 rest
    if rest.isEmpty then return (x, y, z) else .error (.tooLong items.length)
  | value => .error (.wrongType value (.record record))

end Member

def decodeText : Json → Except DecodeError String
  | .string text => .ok text
  | value => .error (.wrongType value .text)

def decodePath : Json → Except DecodeError Path
  | .string text => .ok ⟨text⟩
  | value => .error (.wrongType value .path)

def decodeDirectories (value : Json) : Except DecodeError Directories := do
  let (routing, controllers, useCases) ← Member.three "Directories" ⟨"routing", decodePath⟩
    ⟨"controllers", decodePath⟩ ⟨"useCases", decodePath⟩ value
  return ⟨routing, controllers, useCases⟩

def decodeCompilation (value : Json) : Except DecodeError Compilation := do
  let (language, engine, directories) ← Member.three "Compilation" ⟨"language", decodeText⟩
    ⟨"engine", Member.one "Engine" ⟨"lib", decodeText⟩⟩ ⟨"directories", decodeDirectories⟩ value
  return ⟨language, engine, directories⟩

def decodeServices : Json → Except DecodeError (List (String × Path))
  | .object fields => fields.mapM fun (name, value) => do
    return (name, ← Member.one "ServiceDescriptor" ⟨"specPath", decodePath⟩ value)
  | value => .error (.wrongType value .mapping)

def decode (value : Json) : Except DecodeError Config := do
  let (version, compilation, services) ← Member.three "ProjectConfig" ⟨"version", decodeText⟩
    ⟨"compilation", decodeCompilation⟩ ⟨"services", decodeServices⟩ value
  return ⟨version, compilation, services⟩

end Scaffold.Config
