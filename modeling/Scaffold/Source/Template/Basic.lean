import Scaffold.Json.Pointer
import Scaffold.Json.Writer

/-! Text templates. A template is a list of pieces: text that stands for itself, values that are
looked up, choices, and repetition over the items of a list. -/
namespace Scaffold.Source

/-- A value named by a dotted path, or a text. -/
inductive Operand where
  | path (names : List String)
  | text (value : String)
  deriving DecidableEq, Repr

inductive Test where
  /-- The value is there and is neither null, false, zero nor empty. -/
  | given (operand : Operand)
  | equal (left right : Operand)
  | not (test : Test)
  | either (left right : Test)
  deriving DecidableEq, Repr

inductive Piece where
  | text (value : String)
  | value (operand : Operand)
  /-- The items of a list with a separator between neighbours. -/
  | joined (operand : Operand) (separator : String)
  | choice (test : Test) (yes no : List Piece)
  /-- The body once per item of a list, with the item under a name of its own. -/
  | each (name : String) (operand : Operand) (body : List Piece)
  deriving Repr

abbrev Template := List Piece

/-- The values that a template can look up, innermost first. -/
abbrev Scope := List (String × Json)

namespace Scope

/-- The value below `value` at the end of a dotted path. -/
def descend (value : Json) (names : List String) : Option Json :=
  names.foldlM (fun value name => value.step? name.toList) value

def find? (scope : Scope) : Operand → Option Json
  | .text value => some (.string value)
  | .path [] => none
  | .path (name :: names) => (scope.lookup name).bind (descend · names)

/-- The scope within a loop, at one of its items. -/
def within (scope : Scope) (name : String) (item : Json) (isFirst isLast : Bool) : Scope :=
  (name, item) :: ("loop", .object [("first", .bool isFirst), ("last", .bool isLast)]) :: scope

end Scope

mutual
/-- A value as a template shows it: lists in brackets, nothing for null. -/
def display : Json → String
  | .null => ""
  | .bool true => "true"
  | .bool false => "false"
  | .number value => value.text
  | .string text => text
  | .array items => "[" ++ ", ".intercalate (displayItems items) ++ "]"
  | .object _ => "[object]"
termination_by structural value => value

def displayItems : List Json → List String
  | [] => []
  | item :: rest => display item :: displayItems rest
termination_by structural items => items
end

/-- The value counts as true. -/
def isTruthy : Json → Bool
  | .null => false
  | .bool value => value
  | .number (.integer value) => value ≠ 0
  | .number (.double bits) => bits &&& 0x7FFFFFFFFFFFFFFF ≠ 0
  | .string text => text ≠ ""
  | .array items => !items.isEmpty
  | .object fields => !fields.isEmpty

/-- The outcome of a test. A value that is missing counts as false and equals nothing. -/
def Test.holds (scope : Scope) : Test → Bool
  | .given operand => (scope.find? operand).any isTruthy
  | .equal left right =>
    match scope.find? left, scope.find? right with
    | some a, some b => a = b
    | _, _ => false
  | .not test => !test.holds scope
  | .either left right => left.holds scope || right.holds scope

/-- Why a template cannot be rendered. -/
inductive TemplateFault where
  | missing (operand : String)
  | notList (operand : String)
  deriving DecidableEq, Repr

def Operand.source : Operand → String
  | .path names => ".".intercalate names
  | .text value => "\"" ++ value ++ "\""

def lookUp (scope : Scope) (operand : Operand) : Except TemplateFault Json :=
  match scope.find? operand with
  | some value => .ok value
  | none => .error (.missing operand.source)

def lookUpItems (scope : Scope) (operand : Operand) : Except TemplateFault (List Json) := do
  match ← lookUp scope operand with
  | .array items => return items
  | _ => throw (.notList operand.source)

/-- The texts that `f` gives for the items of a list, one after the other. The flags tell the
first and the last item. -/
def concatItems (f : Json → Bool → Bool → Except TemplateFault String) (isFirst : Bool) :
    List Json → Except TemplateFault String
  | [] => .ok ""
  | item :: rest => do
    let text ← f item isFirst rest.isEmpty
    let more ← concatItems f false rest
    return text ++ more

mutual
def Piece.render (scope : Scope) : Piece → Except TemplateFault String
  | .text value => .ok value
  | .value operand => return display (← lookUp scope operand)
  | .joined operand separator =>
    return separator.intercalate (displayItems (← lookUpItems scope operand))
  | .choice test yes no =>
    if test.holds scope then renderPieces scope yes else renderPieces scope no
  | .each name operand body => do
    let items ← lookUpItems scope operand
    concatItems (fun item isFirst isLast =>
      renderPieces (scope.within name item isFirst isLast) body) true items
termination_by structural piece => piece

def renderPieces (scope : Scope) : List Piece → Except TemplateFault String
  | [] => .ok ""
  | piece :: rest => do
    let text ← piece.render scope
    let more ← renderPieces scope rest
    return text ++ more
termination_by structural pieces => pieces
end

def Template.render (template : Template) (scope : Scope) : Except TemplateFault String :=
  renderPieces scope template

end Scaffold.Source
