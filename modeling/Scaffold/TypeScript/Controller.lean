import Scaffold.Plan
import Scaffold.Source.Declaration

/-! The TypeScript sources of a project: two modules that all controllers share, and one
controller per service. -/
namespace Scaffold.TypeScript

open Source

/-- The name of the module that declares requests and responses. -/
def interfacesModule : String := "interfaces"

def validationModule : String := "validation"

def required (name type : String) : Property := ⟨name, type, false⟩

/-- The interfaces of requests and responses. -/
def interfacesArtifact (controllers : Path) : Artifact where
  path := controllers.join ⟨interfacesModule ++ ".ts"⟩
  declarations :=
    [.imports ⟨"http", none, ["IncomingHttpHeaders"]⟩,
      .imports ⟨"querystring", none, ["ParsedUrlQuery"]⟩,
      .interface ⟨"HttpRequest", true, [],
        [required "method" "string", required "resource" "string", required "body" "unknown",
          required "params" "\x7b[key: string]: string\x7d",
          required "headers" "IncomingHttpHeaders", required "query" "ParsedUrlQuery"]⟩,
      .interface ⟨"HttpResponse", true, ["SuccessBody", "ErrorBody"],
        [required "body" "SuccessBody | ErrorBody", ⟨"headers", "any", true⟩,
          required "status" "number", required "contentType" "string",
          required "contentDisposition" "'inline' | 'attachment'", required "raw" "boolean"]⟩]

/-- The validator that controllers use. -/
def validationArtifact (controllers : Path) : Artifact where
  path := controllers.join ⟨validationModule ++ ".ts"⟩
  declarations :=
    [.imports ⟨"ajv", some "Ajv", []⟩,
      .variable ⟨true, ⟨"const", "ajv", none, .expression "new Ajv()"⟩⟩]

/-- The sources that do not depend on any service. -/
def sharedArtifacts (controllers : Path) : List Artifact :=
  [interfacesArtifact controllers, validationArtifact controllers]

/-- The comment that stands for one successful response with a JSON payload. -/
def responseNote (response : OpenApi.SuccessResponse) : String :=
  toString response.status ++ " application/json"

/-- The response type of an operation: a shape that only notes the successful responses with a
JSON payload. -/
def responseType (op : PlannedOperation) : TypeAlias where
  name := op.names.responseType
  exported := true
  members := []
  notes := (op.operation.successResponses.filter (·.jsonSchema?.isSome)).map responseNote

def responseTypeRef (op : PlannedOperation) : String :=
  "HttpResponse<" ++ op.names.responseType ++ ", unknown>"

/-- The method of an operation: it validates the body and sets up a response to fill in. -/
def method (op : PlannedOperation) : Method where
  name := op.names.method
  isStatic := true
  parameters := [("req", "HttpRequest")]
  returnType := some ("Promise<" ++ responseTypeRef op ++ ">")
  statements :=
    [⟨"const", "validatedBody", none, .expression (op.names.validation ++ "(req.body)")⟩,
      ⟨"const", "res", some (responseTypeRef op), .object
        [("body", "\x7b\x7d"), ("headers", "\x7b\x7d"), ("status", "200"),
          ("contentType", "'application/json'"), ("contentDisposition", "'inline'"),
          ("raw", "false")]⟩]

def controllerClass (plan : Plan) : ClassDeclaration where
  name := Naming.controllerClass plan.service
  exported := true
  methods := plan.operations.map method

def controllerArtifact (controllers : Path) (plan : Plan) : Artifact where
  path := controllers.join ⟨plan.service ++ ".controller.ts"⟩
  declarations :=
    .imports ⟨"./" ++ interfacesModule, none, ["HttpRequest", "HttpResponse"]⟩ ::
      plan.operations.map (.typeAlias ∘ responseType) ++ [.classDecl (controllerClass plan)]

end Scaffold.TypeScript
