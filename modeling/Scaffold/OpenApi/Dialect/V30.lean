import Scaffold.OpenApi.Shape

/-! What version 3.0 asks of documents. -/
namespace Scaffold.OpenApi.V30

/-- Security requirements: names with lists of scopes. -/
def security : Shape := .list (.map (.list .text))

/-- Styles of query parameters and of encoded properties. -/
def formStyles : List String := ["form", "spaceDelimited", "pipeDelimited", "deepObject"]

def verbs : List String := ["get", "put", "post", "delete", "options", "head", "patch", "trace"]

/-- An object with a text under `$ref` is a reference, whatever else it holds. -/
def isReference (fields : Fields) : Bool :=
  match fields.lookup "$ref" with
  | some (.string _) => true
  | _ => false

/-- The option among some that a field names, by its text or by its place among them. -/
def optionOf? (options : List String) (key : String) (fields : Fields) : Option String :=
  match fields.lookup key with
  | some (.string name) => options.find? (· = name)
  | some (.number (.integer (.ofNat place))) => options[place]?
  | _ => none

/-- The first field among two that rule each other out, with its shape. -/
def firstOf? (first second : Member) (fields : Fields) : Option Member :=
  match fields.find? fun field => field.1 = first.key || field.1 = second.key with
  | some (key, _) => some (if key = first.key then first else second)
  | none => none

/-- A key of responses that is a status: three characters that are a number of three digits or a
digit with two letters X. -/
def isStatus (key : String) : Bool :=
  match key.toList with
  | [a, b, c] =>
    let x (d : Char) : Bool := d = 'x' || d = 'X'
    if a.isDigit && b.isDigit && c.isDigit then a ≠ '0' else a.isDigit && x b && x c
  | _ => false

/-- What a parameter or header says of its values: a schema or a content, whichever comes first. -/
def content? (fields : Fields) : Option Member :=
  firstOf? (required "schema" (.reference .schema))
    (required "content" (.map (.object .valueMediaType))) fields

/-- The members that depend on where a parameter stands. -/
def parameterMembers? (fields : Fields) : Option (List Member) :=
  match optionOf? ["query", "header", "path", "cookie"] "in" fields with
  | some "query" => some [defaulted "style" (.looseChoice formStyles),
      defaulted "allowReserved" .flag, optional "allowEmptyValue" .flag]
  | some "header" => some [defaulted "style" (.looseChoice ["simple"])]
  | some "path" => some [defaulted "style" (.looseChoice ["matrix", "label", "simple"])]
  | some "cookie" => some [defaulted "style" (.looseChoice ["form"])]
  | _ => none

/-- The members that depend on the type of a security scheme. -/
def schemeMembers? (fields : Fields) : Option (List Member) :=
  match optionOf? ["apiKey", "http", "oauth2", "openIdConnect"] "type" fields with
  | some "apiKey" =>
    some [required "in" (.looseChoice ["query", "header", "cookie"]), required "name" .text]
  | some "http" => some [required "scheme" .text, optional "bearerFormat" .text]
  | some "oauth2" => some [required "flows" (.object .flows)]
  | some "openIdConnect" => some [required "openIdConnectUrl" .text]
  | _ => none

def schemaMembers : List Member :=
  [defaulted "nullable" .flag, defaulted "readOnly" .flag, defaulted "writeOnly" .flag,
    defaulted "deprecated" .flag, optional "externalDocs" (.object .externalDocs),
    optional "title" .text, optional "description" .text,
    optional "discriminator" (.object .discriminator), optional "type" .text,
    optional "pattern" .text, optional "format" .text, optional "multipleOf" .number,
    optional "minimum" .number, optional "maximum" .number, optional "exclusiveMinimum" .flag,
    optional "exclusiveMaximum" .flag, optional "properties" (.map (.reference .schema)),
    optional "required" (.list .text), optional "additionalProperties" (.flagOrReference .schema),
    optional "minProperties" .natural, optional "maxProperties" .natural,
    optional "minItems" .natural, optional "maxItems" .natural, optional "minLength" .natural,
    optional "maxLength" .natural, optional "items" (.reference .schema),
    optional "uniqueItems" .flag, optional "enum" (.list .any),
    optional "oneOf" (.list (.reference .schema)), optional "allOf" (.list (.reference .schema)),
    optional "anyOf" (.list (.reference .schema)), optional "not" (.reference .schema)]

def encodingMembers : List Member :=
  [optional "contentType" .text, defaulted "headers" (.map (.reference .header)),
    defaulted "explode" .flag, defaulted "allowReserved" .flag]

/-- The members of an object of a kind whose layout does not depend on its fields. -/
def fixedMembers : Kind → List Member
  | .document => [required "openapi" .text, required "info" (.object .info),
      defaulted "servers" (.list (.object .server)), required "paths" (.object .paths),
      optional "components" (.object .components), optional "security" security,
      defaulted "tags" (.list (.object .tag)), optional "externalDocs" (.object .externalDocs)]
  | .info => [required "title" .text, required "version" .text, optional "description" .text,
      optional "termsOfService" .text, optional "contact" (.object .contact),
      optional "license" (.object .license)]
  | .contact => [optional "name" .text, optional "url" .text, optional "email" .text]
  | .license => [required "name" .text, optional "url" .text]
  | .server => [required "url" .text, optional "description" .text,
      optional "variables" (.map (.object .serverVariable))]
  | .serverVariable => [required "default" .text, defaulted "enum" (.list .text),
      optional "description" .text]
  | .tag => [required "name" .text, optional "description" .text,
      optional "externalDocs" (.object .externalDocs)]
  | .externalDocs => [required "url" .text, optional "description" .text]
  | .pathItem => [optional "summary" .text, optional "description" .text,
      defaulted "servers" (.list (.object .server)),
      defaulted "parameters" (.list (.reference .parameter))] ++
      verbs.map (optional · (.object .operation))
  | .operation => [required "responses" (.object .responses), defaulted "tags" (.list .text),
      optional "summary" .text, optional "description" .text,
      optional "externalDocs" (.object .externalDocs), optional "operationId" .text,
      defaulted "parameters" (.list (.reference .parameter)),
      optional "requestBody" (.reference .requestBody),
      defaulted "callbacks" (.map (.map (.object .pathItem))), defaulted "deprecated" .flag,
      optional "security" security, defaulted "servers" (.list (.object .server))]
  | .response => [required "description" .text, defaulted "headers" (.map (.reference .header)),
      defaulted "content" (.map (.object .mediaType)), defaulted "links" (.map (.reference .link))]
  | .requestBody => [optional "description" .text, defaulted "content" (.map (.object .mediaType)),
      defaulted "required" .flag]
  | .mediaType => [optional "schema" (.reference .schema),
      defaulted "examples" (.map (.reference .exampleValue)),
      defaulted "encoding" (.map (.object .encoding))]
  | .valueMediaType => [optional "schema" (.reference .schema),
      defaulted "examples" (.map (.reference .exampleValue)),
      defaulted "encoding" (.map (.object .valueEncoding))]
  | .encoding => optional "style" (.choice formStyles) :: encodingMembers
  | .valueEncoding => optional "style" (.looseChoice formStyles) :: encodingMembers
  | .parameter => [required "name" .text, optional "description" .text, defaulted "required" .flag,
      optional "deprecated" .flag, defaulted "examples" (.map (.reference .exampleValue)),
      optional "explode" .flag]
  | .header => [optional "description" .text, defaulted "style" (.choice ["simple"]),
      defaulted "required" .flag, optional "deprecated" .flag,
      defaulted "examples" (.map (.reference .exampleValue))]
  | .exampleValue => [optional "summary" .text, optional "description" .text,
      optional "externalValue" .text]
  | .link => [optional "description" .text, defaulted "parameters" (.map .any),
      optional "server" (.object .server)]
  | .components =>
    [defaulted "schemas" (.map (.reference .schema)),
      defaulted "responses" (.map (.reference .response)),
      defaulted "parameters" (.map (.reference .parameter)),
      defaulted "examples" (.map (.reference .exampleValue)),
      defaulted "requestBodies" (.map (.reference .requestBody)),
      defaulted "headers" (.map (.reference .header)),
      defaulted "securitySchemes" (.map (.reference .securityScheme)),
      defaulted "links" (.map (.reference .link)),
      defaulted "callbacks" (.map (.reference .callback))]
  | .securityScheme => [optional "description" .text]
  | .flows => [optional "implicit" (.object .implicitFlow),
      optional "password" (.object .tokenFlow),
      optional "clientCredentials" (.object .tokenFlow),
      optional "authorizationCode" (.object .codeFlow)]
  | .implicitFlow => [required "authorizationUrl" .text, optional "refreshUrl" .text,
      required "scopes" (.map .text)]
  | .tokenFlow => [required "tokenUrl" .text, optional "refreshUrl" .text,
      required "scopes" (.map .text)]
  | .codeFlow => [required "authorizationUrl" .text, required "tokenUrl" .text,
      optional "refreshUrl" .text, required "scopes" (.map .text)]
  | .schema => schemaMembers
  | .discriminator => [required "propertyName" .text, defaulted "mapping" (.map .text)]
  | .paths => []
  | .responses => [optional "default" (.reference .response)]
  | .callback => []

/-- The shapes of values under keys that are not members. -/
def others : Kind → String → Option Shape
  | .paths, key => if key.toList.head? = some '/' then some (.reference .pathItem) else none
  | .responses, key => if isStatus key then some (.reference .response) else none
  | .callback, _ => some (.object .pathItem)
  | _, _ => none

/-- The members of an object of a kind that depend on its fields; none if they rule it out. -/
def furtherMembers? : Kind → Fields → Option (List Member)
  | .parameter, fields => do return (← content? fields) :: (← parameterMembers? fields)
  | .header, fields => (content? fields).map fun m => [m]
  | .link, fields =>
    (firstOf? (required "operationRef" .text) (required "operationId" .text) fields).map
      fun m => [m]
  | .securityScheme, fields => schemeMembers? fields
  | _, _ => some []

def layout? (kind : Kind) (fields : Fields) : Option Layout :=
  (furtherMembers? kind fields).map fun more => ⟨fixedMembers kind ++ more, others kind⟩

def dialect : Dialect := ⟨isReference, layout?⟩

end Scaffold.OpenApi.V30
