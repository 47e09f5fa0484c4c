import Scaffold.Text.Uppercase

/-! Identifiers derived from paths, methods and service names. Each is a function of its input
alone, so that two runs on the same document agree. -/
namespace Scaffold.Naming

/-- A path as dash-separated words: an opening brace becomes `by-`, a closing one is dropped and
a slash becomes a dash. -/
def dashed : List Char → List Char
  | [] => []
  | c :: cs =>
    if c = '\x7b' then 'b' :: 'y' :: '-' :: dashed cs
    else if c = '\x7d' then dashed cs
    else if c = '/' then '-' :: dashed cs
    else c :: dashed cs

/-- Dash-separated words as one word: a dash and the character behind it become the uppercase
form of that character. Pairs are taken from the left and do not overlap; a dash before a line
feed or at the end stays. -/
def camel : List Char → List Char
  | [] => []
  | [c] => [c]
  | c :: d :: cs =>
    if c = '-' ∧ d ≠ '\n' then Text.upperChar d ++ camel cs else c :: camel (d :: cs)

def capital : List Char → List Char
  | [] => []
  | c :: cs => Text.upperChar c ++ cs

/-- The words of a path as one capitalized word. -/
def pathWord (path : List Char) : List Char := capital (camel (dashed path))

def normalizePath (path : String) : String := String.ofList (dashed path.toList)

def camelize (text : String) : String := String.ofList (camel text.toList)

def capitalize (text : String) : String := String.ofList (capital text.toList)

/-- The name of an API path, such as `TodosById`. -/
def pathName (path : String) : String := capitalize (camelize (normalizePath path))

def controllerClass (service : String) : String := capitalize (camelize service) ++ "Controller"

theorem pathName_eq (path : String) : pathName path = String.ofList (pathWord path.toList) := by
  simp [pathName, capitalize, camelize, normalizePath, pathWord]

example : pathName "/users/\x7buserId\x7d/todo-items" = "UsersByUserIdTodoItems" := by
  decide +kernel

end Scaffold.Naming

namespace Scaffold

/-- The identifiers of one operation. -/
structure OperationNames where
  /-- Such as `TodosById`. -/
  pathName : String
  /-- Such as `putTodosById`. -/
  method : String
  /-- Such as `PutTodosByIdResponseBody`. -/
  responseType : String
  /-- Such as `validatePutTodosByIdBody`. -/
  validation : String
  deriving DecidableEq, Repr

/-- The identifiers of the operation that `method`, in lowercase, names on `path`. -/
def OperationNames.derive (path method : String) : OperationNames where
  pathName := Naming.pathName path
  method := method ++ Naming.pathName path
  responseType := Naming.capitalize method ++ Naming.pathName path ++ "ResponseBody"
  validation := "validate" ++ Naming.capitalize method ++ Naming.pathName path ++ "Body"

end Scaffold
