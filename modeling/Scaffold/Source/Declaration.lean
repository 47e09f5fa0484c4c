import Scaffold.Json.Basic
import Scaffold.Path

/-! Source files before they are text: a path with a list of declarations. A declaration is also
a document value, which is how templates look at it. -/
namespace Scaffold.Source

/-- A member of a shape. -/
structure Property where
  name : String
  type : String
  isOptional : Bool
  deriving DecidableEq, Repr

/-- An import of a module's default and named exports. -/
structure Import where
  module : String
  defaultName : Option String
  names : List String
  deriving DecidableEq, Repr

/-- An interface with type parameters. -/
structure Interface where
  name : String
  exported : Bool
  typeParameters : List String
  properties : List Property
  deriving DecidableEq, Repr

/-- A name for an object shape; notes become comments inside the shape. -/
structure TypeAlias where
  name : String
  exported : Bool
  members : List Property
  notes : List String
  deriving DecidableEq, Repr

/-- The right side of a statement. -/
inductive Initializer where
  | expression (text : String)
  | object (properties : List (String × String))
  deriving DecidableEq, Repr

structure Statement where
  keyword : String
  name : String
  type : Option String
  initializer : Initializer
  deriving DecidableEq, Repr

/-- A statement at the top level. -/
structure Variable where
  exported : Bool
  statement : Statement
  deriving DecidableEq, Repr

structure Method where
  name : String
  isStatic : Bool
  parameters : List (String × String)
  returnType : Option String
  statements : List Statement
  deriving DecidableEq, Repr

structure ClassDeclaration where
  name : String
  exported : Bool
  methods : List Method
  deriving DecidableEq, Repr

/-- One declaration at the top level of a source file. -/
inductive Declaration where
  | imports (value : Import)
  | interface (value : Interface)
  | typeAlias (value : TypeAlias)
  | variable (value : Variable)
  | classDecl (value : ClassDeclaration)
  deriving DecidableEq, Repr

/-- A source file: where it goes and what it declares, in order. -/
structure Artifact where
  path : Path
  declarations : List Declaration
  deriving DecidableEq, Repr

def textArray (texts : List String) : Json := .array (texts.map .string)

def textOrNull : Option String → Json
  | some text => .string text
  | none => .null

def Property.toJson (p : Property) : Json :=
  .object [("name", .string p.name), ("ty", .string p.type), ("optional", .bool p.isOptional)]

/-- The fields of an initializer, as templates see them. -/
def Initializer.toJson : Initializer → Json
  | .expression text => .object [("kind", .string "expression"), ("expression", .string text)]
  | .object properties =>
    .object [("kind", .string "object"), ("properties", .array (properties.map fun (name, value) =>
      .object [("name", .string name), ("value", .string value)]))]

/-- The fields of a statement, as templates see them. -/
def Statement.toJson (s : Statement) : Json :=
  .object [("keyword", .string s.keyword), ("name", .string s.name), ("ty", textOrNull s.type),
    ("initializer", s.initializer.toJson)]

def Method.toJson (m : Method) : Json :=
  .object [("name", .string m.name), ("is_static", .bool m.isStatic),
    ("parameters", .array (m.parameters.map fun (name, type) =>
      .object [("name", .string name), ("ty", .string type)])),
    ("return_type", textOrNull m.returnType),
    ("statements", .array (m.statements.map Statement.toJson))]

namespace Declaration

/-- The name of a kind of declaration, by which templates are found. -/
def kind : Declaration → String
  | .imports _ => "import"
  | .interface _ => "interface"
  | .typeAlias _ => "type_alias"
  | .variable _ => "variable"
  | .classDecl _ => "class"

def isImport : Declaration → Bool
  | .imports _ => true
  | _ => false

/-- The fields of a declaration, as templates see them. -/
def toJson (d : Declaration) : Json :=
  .object (("kind", .string d.kind) :: fields d)
where
  /-- The fields besides the kind. -/
  fields : Declaration → List (String × Json)
    | .imports i => [("module", .string i.module), ("default_import", textOrNull i.defaultName),
        ("named_imports", textArray i.names)]
    | .interface i => [("name", .string i.name), ("exported", .bool i.exported),
        ("type_parameters", textArray i.typeParameters),
        ("properties", .array (i.properties.map Property.toJson))]
    | .typeAlias a => [("name", .string a.name), ("exported", .bool a.exported),
        ("members", .array (a.members.map Property.toJson)), ("notes", textArray a.notes)]
    | .variable v => [("exported", .bool v.exported), ("statement", v.statement.toJson)]
    | .classDecl c => [("name", .string c.name), ("exported", .bool c.exported),
        ("methods", .array (c.methods.map Method.toJson))]

end Declaration

namespace Artifact

def class? (a : Artifact) (name : String) : Option ClassDeclaration :=
  a.declarations.findSome? fun
    | .classDecl c => if c.name = name then some c else none
    | _ => none

def typeAliases (a : Artifact) : List TypeAlias :=
  a.declarations.filterMap fun
    | .typeAlias shape => some shape
    | _ => none

def toJson (a : Artifact) : Json :=
  .object [("path", .string a.path.text),
    ("declarations", .array (a.declarations.map Declaration.toJson))]

end Artifact

def ClassDeclaration.method? (c : ClassDeclaration) (name : String) : Option Method :=
  c.methods.find? (·.name = name)

end Scaffold.Source
