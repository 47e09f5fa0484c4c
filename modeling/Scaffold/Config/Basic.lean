import Scaffold.Path

/-! The configuration of a project: its language, where its sources go, and the services with the
documents that describe them. -/
namespace Scaffold

/-- The directories of the generated sources. -/
structure Directories where
  routing : Path
  controllers : Path
  useCases : Path
  deriving DecidableEq, Repr

/-- What to generate. -/
structure Compilation where
  language : String
  /-- The library that the generated sources build on. -/
  engine : String
  directories : Directories
  deriving DecidableEq, Repr

/-- The configuration of a project; services come in document order. -/
structure Config where
  version : String
  compilation : Compilation
  /-- The services by name, each with the path of its document. -/
  services : List (String × Path)
  deriving DecidableEq, Repr

/-- The names of configuration files, first choice first. -/
def Config.candidates : List String := ["haku.yml", "haku.yaml"]

/-- Where the document of a service lies, for a project in a directory. -/
def Config.location (directory document : Path) : Path :=
  if document.isAbsolute then document else directory.join document

end Scaffold
