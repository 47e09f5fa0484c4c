import Scaffold.Json.Basic
import Scaffold.Decimal.Shortest
import Scaffold.Text.Digits

/-! The compact text of a value: no blanks, fields in document order, strings quoted with the
short escapes where there are any. -/
namespace Scaffold

/-- The text of a number. A double that is not finite is written as `null`. -/
def Number.text : Number → String
  | .integer value => toString value
  | .double bits => (Binary64.text? bits).getD "null"

namespace Json

def escape (c : Char) : List Char :=
  if c = '"' then ['\\', '"']
  else if c = '\\' then ['\\', '\\']
  else if c = '\x08' then ['\\', 'b']
  else if c = '\x0c' then ['\\', 'f']
  else if c = '\n' then ['\\', 'n']
  else if c = '\r' then ['\\', 'r']
  else if c = '\t' then ['\\', 't']
  else if c.toNat < 32 then
    ['\\', 'u', '0', '0', Text.hexDigit (c.toNat / 16), Text.hexDigit (c.toNat % 16)]
  else [c]

def quote (text : String) : String :=
  String.ofList ('"' :: text.toList.flatMap escape ++ ['"'])

mutual
def render : Json → String
  | .null => "null"
  | .bool true => "true"
  | .bool false => "false"
  | .number value => value.text
  | .string text => quote text
  | .array items => "[" ++ ",".intercalate (renderItems items) ++ "]"
  | .object fields => "\x7b" ++ ",".intercalate (renderFields fields) ++ "\x7d"
termination_by structural value => value

def renderItems : List Json → List String
  | [] => []
  | item :: rest => render item :: renderItems rest
termination_by structural items => items

def renderFields : List (String × Json) → List String
  | [] => []
  | (key, value) :: rest => (quote key ++ ":" ++ render value) :: renderFields rest
termination_by structural fields => fields
end

end Json

end Scaffold
