import Scaffold.OpenApi.Verb

/-! Operations of a document and their successful responses. -/
namespace Scaffold.OpenApi

/-- One operation: a path, a verb, and the fields of the operation object. -/
structure Operation where
  path : String
  verb : Verb
  fields : List (String × Json)
  deriving DecidableEq, Repr

/-- A response with a status in the two hundreds. -/
structure SuccessResponse where
  status : Nat
  response : Json
  deriving DecidableEq, Repr

/-- The schema of the JSON payload, if the response declares one. -/
def SuccessResponse.jsonSchema? (r : SuccessResponse) : Option Json := do
  let content ← r.response.field? "content"
  let media ← content.field? "application/json"
  media.field? "schema"

/-- The number of at most 16 bits that a further digit makes of `n`. -/
def appendDigit? (n : Nat) (c : Char) : Option Nat :=
  let longer := n * 10 + (c.toNat - 48)
  if longer ≤ 65535 then some longer else none

/-- The number that a key writes: digits, perhaps behind one plus sign, up to 65535. -/
def statusCode? (key : String) : Option Nat :=
  let digits :=
    match key.toList with
    | '+' :: rest => rest
    | cs => cs
  if digits.isEmpty || !digits.all Char.isDigit then none
  else digits.foldlM appendDigit? 0

namespace Operation

/-- The label of an operation in messages, such as `GET /todos`. -/
def label (op : Operation) : String := op.verb.capitals ++ " " ++ op.path

/-- The responses whose key is a status in the two hundreds, in document order. -/
def successResponses (op : Operation) : List SuccessResponse :=
  match (op.fields.lookup "responses").bind Json.fields? with
  | none => []
  | some responses =>
    responses.filterMap fun (key, response) =>
      match statusCode? key with
      | some status => if 200 ≤ status ∧ status < 300 then some ⟨status, response⟩ else none
      | none => none

end Operation

end Scaffold.OpenApi
