import Scaffold.OpenApi.Dialect.V30

/-! What version 3.1 asks of documents. -/
namespace Scaffold.OpenApi.V31

def styles : List String :=
  ["matrix", "label", "form", "simple", "spaceDelimited", "pipeDelimited", "deepObject"]

def typeNames : List String :=
  ["boolean", "integer", "number", "string", "array", "object", "null"]

def isOptionalText (key : String) (fields : Fields) : Bool :=
  match fields.lookup key with
  | none => true
  | some .null => true
  | some (.string _) => true
  | _ => false

/-- An object with a text under `$ref` is a reference, if its summary and description are texts. -/
def isReference (fields : Fields) : Bool :=
  V30.isReference fields && isOptionalText "summary" fields && isOptionalText "description" fields

/-- The members that depend on the type of a security scheme. -/
def schemeMembers? (fields : Fields) : Option (List Member) :=
  match V30.optionOf? ["apiKey", "http", "oauth2", "openIdConnect", "mutualTLS"] "type" fields with
  | some "apiKey" => some [required "name" .text, required "in" .text]
  | some "http" => some [required "scheme" .text, optional "bearerFormat" .text]
  | some "oauth2" => some [required "flows" (.object .flows)]
  | some "openIdConnect" => some [required "openIdConnectUrl" .text]
  | some "mutualTLS" => some []
  | _ => none

/-- The operation that a link names, by reference or by identifier. -/
def linkMembers? (fields : Fields) : Option (List Member) :=
  let isText (key : String) : Bool := ((fields.lookup key).bind Json.text?).isSome
  if isText "operationRef" || isText "operationId" then some [] else none

def schemaMembers : List Member :=
  [defaulted "allOf" (.list (.reference .schema)), defaulted "anyOf" (.list (.reference .schema)),
    defaulted "oneOf" (.list (.reference .schema)), optional "items" (.flagOrReference .schema),
    defaulted "prefixItems" (.list (.reference .schema)),
    defaulted "properties" (.map (.reference .schema)),
    optional "additionalProperties" (.flagOrReference .schema),
    optional "type" (.oneOrMany typeNames), defaulted "enum" (.list .any),
    optional "multipleOf" .number, optional "maximum" .number, optional "minimum" .number,
    optional "exclusiveMaximum" .number, optional "exclusiveMinimum" .number,
    optional "maxLength" .natural, optional "minLength" .natural, optional "maxItems" .natural,
    optional "minItems" .natural, optional "maxProperties" .natural,
    optional "minProperties" .natural, optional "pattern" .text, optional "format" .text,
    optional "title" .text, optional "description" .text, optional "uniqueItems" .flag,
    optional "deprecated" .flag, optional "readOnly" .flag, optional "writeOnly" .flag,
    defaulted "required" (.list .text), defaulted "examples" (.list .any),
    optional "discriminator" (.object .discriminator)]

def valueMembers : List Member :=
  [optional "description" .text, optional "required" .flag, optional "deprecated" .flag,
    optional "explode" .flag, optional "style" (.choice styles),
    optional "schema" (.reference .schema), defaulted "examples" (.map (.reference .exampleValue)),
    optional "content" (.map (.object .mediaType))]

/-- The members of an object of a kind whose layout does not depend on its fields. -/
def fixedMembers : Kind → List Member
  | .document => [required "openapi" .text, required "info" (.object .info),
      defaulted "servers" (.list (.object .server)), optional "paths" (.map (.object .pathItem)),
      optional "components" (.object .components), defaulted "security" V30.security,
      defaulted "tags" (.list (.object .tag)), defaulted "webhooks" (.map (.object .pathItem)),
      optional "externalDocs" (.object .externalDocs)]
  | .info => [required "title" .text, required "version" .text, optional "summary" .text,
      optional "description" .text, optional "termsOfService" .url,
      optional "contact" (.object .contact), optional "license" (.object .license)]
  | .contact => [optional "name" .text, optional "url" .url, optional "email" .text]
  | .license => [required "name" .text, optional "identifier" .text, optional "url" .url]
  | .server => [required "url" .text, optional "description" .text,
      defaulted "variables" (.map (.object .serverVariable))]
  | .serverVariable => [required "default" .text, defaulted "enum" (.list .text),
      optional "description" .text]
  | .tag => [required "name" .text, optional "description" .text]
  | .externalDocs => [required "url" .url, optional "description" .text]
  | .pathItem => [optional "$ref" .text, optional "summary" .text, optional "description" .text,
      defaulted "servers" (.list (.object .server)),
      defaulted "parameters" (.list (.reference .parameter))] ++
      V30.verbs.map (optional · (.object .operation))
  | .operation => [optional "responses" (.map (.reference .response)),
      defaulted "tags" (.list .text), optional "summary" .text, optional "description" .text,
      optional "externalDocs" (.object .externalDocs), optional "operationId" .text,
      defaulted "parameters" (.list (.reference .parameter)),
      optional "requestBody" (.reference .requestBody),
      defaulted "callbacks" (.map (.object .callback)), optional "deprecated" .flag,
      defaulted "security" V30.security, defaulted "servers" (.list (.object .server))]
  | .response => [optional "description" .text, defaulted "headers" (.map (.reference .header)),
      defaulted "content" (.map (.object .mediaType)), defaulted "links" (.map (.reference .link))]
  | .requestBody => [required "content" (.map (.object .mediaType)), optional "description" .text,
      optional "required" .flag]
  | .mediaType | .valueMediaType => [optional "schema" (.reference .schema),
      defaulted "encoding" (.map (.object .encoding))]
  | .encoding | .valueEncoding => [optional "contentType" .text,
      defaulted "headers" (.map (.reference .header)), optional "style" .text,
      optional "explode" .flag, optional "allowReserved" .flag]
  | .parameter => [required "name" .text,
      required "in" (.choice ["query", "header", "path", "cookie"]),
      optional "allowEmptyValue" .flag, optional "allowReserved" .flag] ++ valueMembers
  | .header => valueMembers
  | .exampleValue => [optional "summary" .text, optional "description" .text]
  | .link => [defaulted "parameters" (.map .text), optional "description" .text,
      optional "server" (.object .server)]
  | .components =>
    [defaulted "schemas" (.map (.reference .schema)),
      defaulted "responses" (.map (.reference .response)),
      defaulted "parameters" (.map (.reference .parameter)),
      defaulted "examples" (.map (.reference .exampleValue)),
      defaulted "requestBodies" (.map (.reference .requestBody)),
      defaulted "headers" (.map (.reference .header)),
      defaulted "pathItems" (.map (.reference .pathItem)),
      defaulted "securitySchemes" (.map (.reference .securityScheme)),
      defaulted "links" (.map (.reference .link)),
      defaulted "callbacks" (.map (.reference .callback))]
  | .securityScheme => [optional "description" .text]
  | .flows => [optional "implicit" (.object .implicitFlow),
      optional "password" (.object .tokenFlow),
      optional "clientCredentials" (.object .tokenFlow),
      optional "authorizationCode" (.object .codeFlow)]
  | .implicitFlow => [required "authorizationUrl" .url, optional "refreshUrl" .url,
      defaulted "scopes" (.map .text)]
  | .tokenFlow => [required "tokenUrl" .url, optional "refreshUrl" .url,
      defaulted "scopes" (.map .text)]
  | .codeFlow => [required "authorizationUrl" .url, required "tokenUrl" .url,
      optional "refreshUrl" .url, defaulted "scopes" (.map .text)]
  | .schema => schemaMembers
  | .discriminator => [required "propertyName" .text, optional "mapping" (.map .text)]
  | .paths => []
  | .responses => []
  | .callback => []

/-- The shapes of values under keys that are not members. -/
def others : Kind → String → Option Shape
  | .callback, key => if "x-".isPrefixOf key then none else some (.object .pathItem)
  | _, _ => none

/-- The members of an object of a kind that depend on its fields; none if they rule it out. -/
def furtherMembers? : Kind → Fields → Option (List Member)
  | .link, fields => linkMembers? fields
  | .securityScheme, fields => schemeMembers? fields
  | _, _ => some []

def layout? (kind : Kind) (fields : Fields) : Option Layout :=
  (furtherMembers? kind fields).map fun more => ⟨fixedMembers kind ++ more, others kind⟩

def dialect : Dialect := ⟨isReference, layout?⟩

end Scaffold.OpenApi.V31
