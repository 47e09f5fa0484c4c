import Scaffold.Naming
import Scaffold.OpenApi.Operation
import Scaffold.OpenApi.Specification

/-! The plan of a controller: the operations of one service in document order, each with its
identifiers, and the number of entries that are passed over. -/
namespace Scaffold

open OpenApi

/-- An operation that becomes a method. -/
structure PlannedOperation where
  operation : Operation
  names : OperationNames
  deriving DecidableEq, Repr

/-- The operations of a service. -/
structure Plan where
  service : String
  operations : List PlannedOperation
  skipped : Nat
  deriving DecidableEq, Repr

/-- Two operations of a service that derive one method name. -/
structure NameCollision where
  service : String
  identifier : String
  first : String
  second : String
  deriving DecidableEq, Repr

/-- An entry of a path item, with the path that it belongs to. -/
structure PathEntry where
  path : String
  key : String
  value : Json
  deriving DecidableEq, Repr

namespace Plan

/-- The entries of all path items that are objects, in document order. -/
def entries (spec : Specification) : List PathEntry :=
  spec.paths.flatMap fun (path, item) =>
    (item.fields?.getD []).map fun (key, value) => ⟨path, key, value⟩

/-- The operation that an entry declares, with its identifiers. -/
def planned? (entry : PathEntry) : Option PlannedOperation :=
  match Verb.ofKey? entry.key, entry.value with
  | some verb, .object fields =>
    some ⟨⟨entry.path, verb, fields⟩, OperationNames.derive entry.path verb.key⟩
  | _, _ => none

/-- The plan with one more entry: an operation is added unless its method name is taken, and any
other entry is counted. -/
def add (plan : Plan) (entry : PathEntry) : Except NameCollision Plan :=
  match planned? entry with
  | none => .ok { plan with skipped := plan.skipped + 1 }
  | some next =>
    match plan.operations.find? (·.names.method = next.names.method) with
    | some first =>
      .error ⟨plan.service, next.names.method, first.operation.label, next.operation.label⟩
    | none => .ok { plan with operations := plan.operations ++ [next] }

/-- The plan for a service's document. -/
def build (spec : Specification) : Except NameCollision Plan :=
  (entries spec).foldlM add ⟨spec.service, [], 0⟩

end Plan

end Scaffold
