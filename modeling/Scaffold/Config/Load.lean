import Scaffold.Config.Constraints
import Scaffold.Config.Decode
import Scaffold.FileTree.Basic
import Scaffold.Yaml.Reader

/-! Finding, checking and reading the configuration of a project. The first candidate that is there
decides, whether or not it is in order. -/
namespace Scaffold.Config

/-- What is wrong with a configuration file. -/
inductive Complaint where
  | unreadable (cause : FileError)
  | malformed (cause : Yaml.ReadError)
  | violated (constraint : Violation)
  | undecodable (cause : DecodeError)
  /-- A complaint from elsewhere, in its own words. -/
  | other (text : String)
  deriving DecidableEq, Repr

def Complaint.message : Complaint → String
  | .unreadable cause => "Unable to read file: " ++ cause.message
  | .malformed cause => "YAML parsing error: " ++ cause.message
  | .violated constraint => constraint.message
  | .undecodable cause => cause.message
  | .other text => text

/-- Why a project has no configuration. -/
inductive LoadError where
  | missing (directory : Path) (candidates : List String)
  | invalid (path : Path) (complaints : List Complaint)
  deriving DecidableEq, Repr

def LoadError.message : LoadError → String
  | .missing directory candidates =>
    "Haku config file is missing in folder '" ++ directory.text ++ "' (looked for: " ++
      ", ".intercalate candidates ++ ")"
  | .invalid path complaints =>
    "Invalid Haku config file '" ++ path.text ++ "':\n  - " ++
      "\n  - ".intercalate (complaints.map Complaint.message)

/-- The configuration that a value writes, provided that it satisfies the schema. -/
def ofJson (schema : Schema) (value : Json) : Except (List Complaint) Config :=
  match schema.violations value with
  | [] => (decode value).mapError ([.undecodable ·])
  | violations => .error (violations.map .violated)

def ofText (schema : Schema) (content : String) : Except (List Complaint) Config :=
  match Yaml.read .plain content with
  | .error e => .error [.malformed e]
  | .ok value => ofJson schema value

/-- The configuration with this content, read from a path. -/
def read (schema : Schema) (path : Path) (content : String) : Except LoadError Config :=
  (ofText schema content).mapError (.invalid path)

/-- The configuration of the first of some candidates that is there. -/
def findIn (schema : Schema) (tree : FileTree) (directory : Path) :
    List String → Except LoadError Config
  | [] => .error (.missing directory candidates)
  | candidate :: rest =>
    let path := directory.join ⟨candidate⟩
    match tree.readText path with
    | .ok content => read schema path content
    | .error .notFound => findIn schema tree directory rest
    | .error cause => .error (.invalid path [.unreadable cause])

def find (schema : Schema) (tree : FileTree) (directory : Path) : Except LoadError Config :=
  findIn schema tree directory candidates

end Scaffold.Config
