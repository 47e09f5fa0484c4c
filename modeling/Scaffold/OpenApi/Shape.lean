import Scaffold.Json.Basic
import Scaffold.Url.Basic

/-! Shapes of documents. A dialect lays out the kinds of objects that a document is made of, and a
value fits a shape when its parts do. Members that a layout does not name are free. -/
namespace Scaffold.OpenApi

/-- The kinds of objects in a document. -/
inductive Kind where
  | document
  | info
  | contact
  | license
  | server
  | serverVariable
  | tag
  | externalDocs
  | paths
  | pathItem
  | operation
  | responses
  | response
  | requestBody
  | mediaType
  | encoding
  /-- A media type that describes the value of a parameter or header, and its encodings. -/
  | valueMediaType
  | valueEncoding
  | parameter
  | header
  | exampleValue
  | link
  | callback
  | components
  | securityScheme
  | flows
  | implicitFlow
  | tokenFlow
  | codeFlow
  | schema
  | discriminator
  deriving DecidableEq, Repr

inductive Shape where
  | any
  | text
  | flag
  | number
  | natural
  | url
  /-- One of some options. -/
  | choice (options : List String)
  /-- One of some options, which may also be written as a key with an empty object. -/
  | looseChoice (options : List String)
  /-- One of some options, or a list of them. -/
  | oneOrMany (options : List String)
  | list (item : Shape)
  | map (value : Shape)
  | object (kind : Kind)
  /-- An object of a kind, or a reference to one. -/
  | reference (kind : Kind)
  /-- A flag, an object of a kind, or a reference to one. -/
  | flagOrReference (kind : Kind)
  deriving DecidableEq, Repr

/-- Whether a member of an object may be missing or null. -/
inductive Need where
  | required
  /-- The member may be missing, but not null. -/
  | defaulted
  /-- The member may be missing or null. -/
  | optional
  deriving DecidableEq, Repr

structure Member where
  key : String
  shape : Shape
  need : Need
  deriving DecidableEq, Repr

/-- The layout of an object: its members, and the shapes of values under other keys. -/
structure Layout where
  members : List Member
  others : String → Option Shape

def Layout.member? (layout : Layout) (key : String) : Option Member :=
  layout.members.find? (·.key = key)

abbrev Fields := List (String × Json)

def Layout.isComplete (layout : Layout) (fields : Fields) : Bool :=
  layout.members.all fun m => m.need ≠ .required || (fields.lookup m.key).isSome

/-- What a version of the format asks of documents. -/
structure Dialect where
  /-- The object is a reference. -/
  isReference : Fields → Bool
  /-- The layout of an object of a kind; none if its own fields rule it out. -/
  layout? : Kind → Fields → Option Layout

/-- The value spells out one of some options: as a text, or as the only key of an object whose
value is null. A loose spelling may have an empty object for the null. -/
def isOption (loose : Bool) (options : List String) : Json → Bool
  | .string name => options.contains name
  | .object [(name, .null)] => options.contains name
  | .object [(name, .object [])] => loose && options.contains name
  | _ => false

/-- A value fits a shape that does not reach into its members. -/
def Shape.fitsScalar : Shape → Json → Bool
  | .any, _ => true
  | .text, .string _ => true
  | .flag, .bool _ => true
  | .flagOrReference _, .bool _ => true
  | .number, .number _ => true
  | .natural, .number (.integer n) => 0 ≤ n
  | .url, .string value => Url.isAbsolute value
  | .choice options, value => isOption false options value
  | .looseChoice options, value => isOption true options value
  | .oneOrMany options, value => isOption false options value
  | _, _ => false

mutual
def Dialect.fits (d : Dialect) : Json → Shape → Bool
  | .array items, shape =>
    match shape with
    | .list item => d.itemsFit item items
    | .oneOrMany options => items.all (isOption false options)
    | .any => true
    | _ => false
  | .object fields, shape =>
    match shape with
    | .map value => d.valuesFit value fields
    | .object kind =>
      match d.layout? kind fields with
      | some layout => layout.isComplete fields && d.membersFit layout fields
      | none => false
    | .reference kind | .flagOrReference kind =>
      d.isReference fields ||
        match d.layout? kind fields with
        | some layout => layout.isComplete fields && d.membersFit layout fields
        | none => false
    | shape => shape.fitsScalar (.object fields)
  | value, shape => shape.fitsScalar value
termination_by structural value => value

def Dialect.itemsFit (d : Dialect) (shape : Shape) : List Json → Bool
  | [] => true
  | item :: rest => d.fits item shape && d.itemsFit shape rest
termination_by structural items => items

def Dialect.valuesFit (d : Dialect) (shape : Shape) : List (String × Json) → Bool
  | [] => true
  | (_, value) :: rest => d.fits value shape && d.valuesFit shape rest
termination_by structural fields => fields

def Dialect.membersFit (d : Dialect) (layout : Layout) : List (String × Json) → Bool
  | [] => true
  | (key, value) :: rest =>
    (match layout.member? key with
      | some m => (m.need = .optional && value = .null) || d.fits value m.shape
      | none =>
        match layout.others key with
        | some shape => d.fits value shape
        | none => true) && d.membersFit layout rest
termination_by structural fields => fields
end

/-- A member that must be there. -/
def required (key : String) (shape : Shape) : Member := ⟨key, shape, .required⟩

/-- A member that may be missing, but not null. -/
def defaulted (key : String) (shape : Shape) : Member := ⟨key, shape, .defaulted⟩

/-- A member that may be missing or null. -/
def optional (key : String) (shape : Shape) : Member := ⟨key, shape, .optional⟩

end Scaffold.OpenApi
