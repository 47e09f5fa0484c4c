import Scaffold.Config.Load
import Scaffold.OpenApi.Load
import Scaffold.Plan
import Scaffold.Source.Renderer

/-! Why the sources of a project are not generated. Every error ends the whole run. -/
namespace Scaffold

def NameCollision.message (c : NameCollision) : String :=
  "Name collision in service '" ++ c.service ++ "': " ++ c.first ++ " and " ++ c.second ++
    " both derive '" ++ c.identifier ++ "'"

/-- The causes for which a run ends. -/
inductive GenerationError where
  | config (cause : Config.LoadError)
  | unsupportedLanguage (name : String)
  /-- The document of a service is refused. -/
  | document (service : String) (path : Path) (cause : OpenApi.LoadError)
  | collision (cause : NameCollision)
  /-- A source cannot be written. -/
  | output (path : Path) (cause : FileError)
  /-- A directory of sources cannot be looked through. -/
  | scan (path : Path) (cause : FileError)
  | render (path : Path) (cause : Source.RenderFault)
  deriving DecidableEq, Repr

namespace GenerationError

def message : GenerationError → String
  | .config cause => cause.message
  | .unsupportedLanguage name => "Language " ++ name ++ " not implemented"
  | .document service path cause =>
    "Invalid OpenAPI document for service '" ++ service ++ "' at '" ++ path.text ++ "': " ++
      cause.message
  | .collision cause => cause.message
  | .output path cause => "Failed to write artifact '" ++ path.text ++ "': " ++ cause.message
  | .scan path cause =>
    "Failed to inspect output directory '" ++ path.text ++ "': " ++ cause.message
  | .render path cause => "Failed to render artifact '" ++ path.text ++ "': " ++ cause.message

/-- The file error behind an error, which a report names once more. -/
def fileError? : GenerationError → Option FileError
  | .output _ cause => some cause
  | .scan _ cause => some cause
  | _ => none

/-- The document that was not there, when that is the cause. -/
def missingDocument? : GenerationError → Option Path
  | .document _ path (.unreadable .notFound) => some path
  | .document _ _ (.reference (.unreadable path .notFound)) => some path
  | _ => none

end GenerationError

end Scaffold
