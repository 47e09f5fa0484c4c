import Scaffold.Json.Reader
import Scaffold.Path
import Scaffold.Yaml.Reader

/-! Reading documents. The extension of the path tells the format; without a known one, JSON is
tried before YAML. -/
namespace Scaffold.OpenApi

inductive DocumentError where
  | json (cause : Json.ReadError)
  | yaml (cause : Yaml.ReadError)
  /-- Neither format fits; the cause is that of the second one. -/
  | neither (cause : Yaml.ReadError)
  deriving DecidableEq, Repr

def DocumentError.message : DocumentError → String
  | .json cause => "Failed to parse JSON: " ++ cause.message
  | .yaml cause => "Failed to parse YAML: " ++ cause.message
  | .neither cause => "Failed to parse OpenAPI document: " ++ cause.message

/-- The value of the document with this content at a path. -/
def readDocument (path : Path) (content : String) : Except DocumentError Json :=
  match (path.fileExtension?.map fun ext => String.ofList (ext.map Char.toLower)) with
  | some "json" => (Json.read content).mapError .json
  | some "yaml" => (Yaml.read .typed content).mapError .yaml
  | some "yml" => (Yaml.read .typed content).mapError .yaml
  | _ =>
    match Json.read content with
    | .ok value => .ok value
    | .error _ => (Yaml.read .typed content).mapError .neither

end Scaffold.OpenApi
