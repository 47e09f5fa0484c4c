import Scaffold.Json.Basic
import Scaffold.Text.Split

/-! Pointers into a value: a sequence of tokens, each behind a slash, in which `~1` stands for a
slash and `~0` for a tilde. -/
namespace Scaffold.Json

def decodeSlash : List Char → List Char
  | '~' :: '1' :: rest => '/' :: decodeSlash rest
  | c :: rest => c :: decodeSlash rest
  | [] => []

def decodeTilde : List Char → List Char
  | '~' :: '0' :: rest => '~' :: decodeTilde rest
  | c :: rest => c :: decodeTilde rest
  | [] => []

/-- The key that a token of a pointer denotes. -/
def tokenKey (token : List Char) : List Char := decodeTilde (decodeSlash token)

/-- The index that a token denotes: decimal digits without a leading zero. -/
def tokenIndex? (token : List Char) : Option Nat :=
  if token.isEmpty || !token.all Char.isDigit then none
  else if token.head? = some '0' && 1 < token.length then none
  else some (token.foldl (fun n c => n * 10 + (c.toNat - 48)) 0)

/-- One step down: a field by its key or an item by its index. -/
def step? (value : Json) (key : List Char) : Option Json :=
  match value with
  | .object fields => List.lookup (String.ofList key) fields
  | .array items => (tokenIndex? key).bind fun i => items[i]?
  | _ => none

/-- The value below `value` that a pointer designates. The empty pointer designates the value
itself, and any other starts with a slash. -/
def pointer? (value : Json) (pointer : String) : Option Json :=
  match pointer.toList with
  | [] => some value
  | '/' :: rest => ((rest.splitOn '/').map tokenKey).foldlM step? value
  | _ => none

end Scaffold.Json
