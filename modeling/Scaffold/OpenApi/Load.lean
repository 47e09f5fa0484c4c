import Scaffold.OpenApi.Reference
import Scaffold.OpenApi.Specification
import Scaffold.OpenApi.Structure

/-! Loading the document of a service: read it, check its structure, expand its references. -/
namespace Scaffold.OpenApi

/-- Why the document of a service is refused. -/
inductive LoadError where
  | unreadable (cause : FileError)
  | document (cause : DocumentError)
  | structure (cause : StructureError)
  | reference (cause : ReferenceError)
  deriving DecidableEq, Repr

def LoadError.message : LoadError → String
  | .unreadable cause => cause.message
  | .document cause => cause.message
  | .structure cause => cause.message
  | .reference cause => cause.message

/-- The document at a path, with its references expanded. -/
def documentAt (tree : FileTree) (source : Path) : Except LoadError Json := do
  let content ← (tree.readText source).mapError .unreadable
  let raw ← (readDocument source content).mapError .document
  (checkStructure raw).mapError .structure
  (resolve tree source [(source, raw)]).1.mapError .reference

/-- Load the document of a service. -/
def load (tree : FileTree) (service : String) (source : Path) : Except LoadError Resolution :=
  (documentAt tree source).map fun document => Resolution.of ⟨service, source, document⟩

end Scaffold.OpenApi
