import Scaffold.Backend
import Scaffold.Error
import Scaffold.Output.Scan
import Scaffold.Output.Write

/-! Generating the sources of a whole project. Everything is rendered before anything is
written. -/
namespace Scaffold

open Source Output

/-- What a run has done, or would do. -/
structure Report where
  written : List Path
  /-- The written paths at which there was a source before. -/
  overwritten : List Path
  generated : List String
  skipped : List String
  /-- The number of entries of path items that were passed over. -/
  skippedEntries : Nat
  deriving DecidableEq, Repr

/-- What a run goes by: the schema of configurations, and the backends to choose from. -/
structure Generator where
  schema : Schema
  backends : Backends

/-- The generator with the schema and the backends of this library. -/
def Generator.standard : Generator := ⟨Config.Constraints.schema, .standard⟩

namespace Generator

/-- What the services looked at so far have led to. -/
structure Progress where
  artifacts : List Artifact
  generated : List String
  skipped : List String
  skippedEntries : Nat

/-- A source of documents: what stands for a service at a path, with its references expanded. -/
abbrev Loader := String → Path → Except GenerationError Json

def Loader.ofTree (tree : FileTree) : Loader := fun service source =>
  (OpenApi.documentAt tree source).mapError (.document service source)

/-- Add the controller of one more service, or skip the service if it declares no operations. -/
def addService (load : Loader) (backend : Backend) (config : Config) (directory : Path)
    (progress : Progress) (service : String × Path) : Except GenerationError Progress := do
  let (name, document) := service
  let source := Config.location directory document
  match OpenApi.Resolution.of ⟨name, source, ← load name source⟩ with
  | .noOperations _ _ => return { progress with skipped := progress.skipped ++ [name] }
  | .operations spec =>
    let plan ← (Plan.build spec).mapError .collision
    let controller := backend.controller config.compilation.directories.controllers plan
    return { progress with
      artifacts := progress.artifacts ++ [controller]
      generated := progress.generated ++ [name]
      skippedEntries := progress.skippedEntries + plan.skipped }

/-- The file for an artifact, for a project in a directory. -/
def renderFile (backend : Backend) (directory : Path) (artifact : Artifact) :
    Except GenerationError OutputFile := do
  let content ← (backend.renderer.render artifact).mapError (.render artifact.path)
  return ⟨directory.join artifact.path, content⟩

/-- The files of the project in a directory and the report on them, with documents from a loader. -/
def prepareWith (load : Loader) (g : Generator) (tree : FileTree) (directory : Path) :
    Except GenerationError (List OutputFile × Report) := do
  let config ← (Config.find g.schema tree directory).mapError .config
  let existing ← (existingFiles tree directory).mapError fun e => .scan e.path e.cause
  let language := config.compilation.language
  let some backend := g.backends.ofName? language | throw (.unsupportedLanguage language)
  let shared := backend.shared config.compilation.directories.controllers
  let progress ← config.services.foldlM (addService load backend config directory)
    ⟨shared, [], [], 0⟩
  let files ← progress.artifacts.mapM (renderFile backend directory)
  let written := files.map (·.path)
  return (files,
    { written
      overwritten := written.filter fun path => existing.any path.same
      generated := progress.generated
      skipped := progress.skipped
      skippedEntries := progress.skippedEntries })

/-- The files of the project in a directory and the report on them. -/
def prepare (g : Generator) (tree : FileTree) (directory : Path) :
    Except GenerationError (List OutputFile × Report) :=
  prepareWith (.ofTree tree) g tree directory

/-- The report on the files that would be written. -/
def check (g : Generator) (tree : FileTree) (directory : Path) :
    Except GenerationError Report :=
  (g.prepare tree directory).map Prod.snd

/-- Generate the sources of the project in a directory. -/
def generate (g : Generator) (tree : FileTree) (directory : Path) :
    FileTree × Except GenerationError Report :=
  match g.prepare tree directory with
  | .error e => (tree, .error e)
  | .ok (files, report) =>
    match Output.write tree files with
    | (tree, .ok ()) => (tree, .ok report)
    | (tree, .error e) => (tree, .error (.output e.path e.cause))

end Generator

end Scaffold
