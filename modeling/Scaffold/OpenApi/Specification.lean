import Scaffold.Json.Basic
import Scaffold.Path

/-! The document of a service, and whether it declares anything to generate from. -/
namespace Scaffold.OpenApi

/-- The document that describes a service, with its references expanded. -/
structure Specification where
  service : String
  source : Path
  document : Json
  deriving DecidableEq, Repr

/-- The `paths` of the document, when they are an object. -/
def Specification.paths? (spec : Specification) : Option (List (String × Json)) :=
  (spec.document.field? "paths").bind Json.fields?

/-- The paths of the document, none if it declares none. -/
def Specification.paths (spec : Specification) : List (String × Json) := spec.paths?.getD []

/-- What came of looking for a service's operations. -/
inductive Resolution where
  | operations (spec : Specification)
  /-- The document has no `paths` object, or an empty one. -/
  | noOperations (service : String) (source : Path)
  deriving DecidableEq, Repr

def Resolution.of (spec : Specification) : Resolution :=
  if spec.paths.isEmpty then .noOperations spec.service spec.source else .operations spec

end Scaffold.OpenApi
