import Scaffold.OpenApi.Dialect.V31

/-! The structure of documents. The version of a document chooses the dialect that it has to fit.
Entries of path items from which nothing is generated do not count. -/
namespace Scaffold.OpenApi

/-- Why the structure of a document is refused. -/
inductive StructureError where
  | notObject
  | missingVersion
  | unsupportedVersion (version : String)
  /-- The document does not fit the dialect of its version. -/
  | mismatch (version : String)
  deriving DecidableEq, Repr

def StructureError.message : StructureError → String
  | .notObject => "OpenAPI document must be an object"
  | .missingVersion => "Missing OpenAPI version"
  | .unsupportedVersion version => "Unsupported OpenAPI version " ++ version
  | .mismatch version => "The document does not fit OpenAPI version " ++ version

def operationKeys : List String :=
  ["get", "put", "post", "delete", "options", "head", "patch", "trace"]

/-- The other keys of a path item that are looked at. -/
def pathItemKeys : List String := ["summary", "description", "servers", "parameters", "$ref"]

/-- An entry of a path item counts: an operation that is an object, a known key, or an extension. -/
def isStructural (key : String) (value : Json) : Bool :=
  if operationKeys.contains key then value.isObject
  else pathItemKeys.contains key || "x-".isPrefixOf key

/-- A path item without the entries that do not count. -/
def stripPathItem : Json → Json
  | .object fields => .object (fields.filter fun (key, value) => isStructural key value)
  | value => value

def stripPaths : Json → Json
  | .object items => .object (items.map fun (path, item) => (path, stripPathItem item))
  | value => value

/-- The fields of a document as they are checked: with stripped paths, or none where there are no
paths. -/
def stripFields (fields : Fields) : Fields :=
  match fields.lookup "paths" with
  | none => fields ++ [("paths", .object [])]
  | some paths => Entries.put "paths" (stripPaths paths) fields

/-- A document as it is checked. -/
def strip : Json → Json
  | .object fields => .object (stripFields fields)
  | value => value

/-- The dialect for a version: the number behind `3.` up to the next dot tells it. -/
def dialect? (version : String) : Option Dialect :=
  match version.toList with
  | '3' :: '.' :: rest =>
    match rest.takeWhile (· ≠ '.') with
    | ['0'] => some V30.dialect
    | ['1'] => some V31.dialect
    | _ => none
  | _ => none

def checkStructure (document : Json) : Except StructureError Unit :=
  match document with
  | .object fields =>
    match (fields.lookup "openapi").bind Json.text? with
    | none => .error .missingVersion
    | some version =>
      match dialect? version with
      | none => .error (.unsupportedVersion version)
      | some dialect =>
        if dialect.fits (strip document) (.object .document) then .ok ()
        else .error (.mismatch version)
  | _ => .error .notObject

end Scaffold.OpenApi
