import Scaffold.Json.Writer
import Scaffold.Yaml.Data
import Scaffold.Yaml.Plain

/-! Documents as values. Keys that are no texts are given one: a document of typed keys writes out
the value of a key, and one of plain keys keeps the key as it stands in the source. -/
namespace Scaffold.Yaml

/-- How the keys of mappings are read. -/
inductive KeyMode where
  /-- A key is a value; no two keys of a mapping may be equal. -/
  | typed
  /-- A key is the text of a scalar; of equal keys the last one counts. -/
  | plain
  deriving DecidableEq, Repr

/-- A scalar's value as a document value. Floats that are not finite become null. -/
def ScalarValue.toJson : ScalarValue → Json
  | .null => .null
  | .bool value => .bool value
  | .integer value => .number (.integer value)
  | .double bits => if (Binary64.decode? bits).isSome then .number (.double bits) else .null
  | .text value => .string value

/-- The text of a typed key; null and floats that are not finite have none. -/
def ScalarValue.keyText? : ScalarValue → Option String
  | .null => none
  | .bool value => some (if value then "true" else "false")
  | .integer value => some (toString value)
  | .double bits => Binary64.text? bits
  | .text value => some value

/-- The sign of zero does not tell keys apart. -/
def ScalarValue.unsignedZero : ScalarValue → ScalarValue
  | .double bits => .double (if bits = Binary64.signBit then 0 else bits)
  | value => value

/-- The scalar of a node, unless the node is a collection. -/
def Data.scalar? : Data → Option (Option String × Bool × String)
  | .scalar tag isPlain text => some (tag, isPlain, text)
  | _ => none

/-- The value of a scalar whose tag, if it is the document's own, is looked at elsewhere. -/
def scalarValue (tag : Option String) (isPlain : Bool) (text : String) :
    Except ReadError ScalarValue :=
  ScalarValue.of (tag.filter (!isOwnTag ·)) isPlain text

def typedKey (key : Data) : Except ReadError ScalarValue :=
  match key.scalar? with
  | some (tag, isPlain, text) =>
    if tag.any isOwnTag then .error .invalidKey else scalarValue tag isPlain text
  | none => .error .invalidKey

def hasRepeat (keys : List ScalarValue) : Bool :=
  !(keys.map ScalarValue.unsignedZero).Nodup

def keyTexts (mode : KeyMode) (keys : List Data) : Except ReadError (List String) :=
  match mode with
  | .plain => keys.mapM fun key =>
    match key.scalar? with
    | some (_, _, text) => .ok text
    | none => .error .invalidKey
  | .typed => do
    let values ← keys.mapM typedKey
    if hasRepeat values then throw .duplicateKey
    values.mapM fun value =>
      match value.keyText? with
      | some text => .ok text
      | none => .error .invalidKey

/-- A value under a tag of the document's own: an object with the tag as its only key. Where keys
are plain there is no place for such a tag. -/
def underTag (mode : KeyMode) (tag : Option String) (value : Json) : Except ReadError Json :=
  match tag with
  | some tag =>
    if isOwnTag tag then
      match mode with
      | .typed => .ok (.object [(if tag = "!" then "!!" else tag, value)])
      | .plain => .error .unsupportedTag
    else .ok value
  | none => .ok value

mutual
def Data.toJson (mode : KeyMode) : Data → Except ReadError Json
  | .scalar tag isPlain text => do
    underTag mode tag (← scalarValue tag isPlain text).toJson
  | .sequence tag items => do
    underTag mode tag (.array (← itemsToJson mode items))
  | .mapping tag entries => do
    let texts ← keyTexts mode (entries.map Prod.fst)
    let values ← entryValues mode entries
    underTag mode tag (.object (Entries.ofList (texts.zip values)))
termination_by structural data => data

def itemsToJson (mode : KeyMode) : List Data → Except ReadError (List Json)
  | [] => .ok []
  | item :: rest => do
    let value ← Data.toJson mode item
    let values ← itemsToJson mode rest
    return value :: values
termination_by structural items => items

def entryValues (mode : KeyMode) : List (Data × Data) → Except ReadError (List Json)
  | [] => .ok []
  | (_, value) :: rest => do
    let value ← Data.toJson mode value
    let values ← entryValues mode rest
    return value :: values
termination_by structural entries => entries
end

/-- The value that a text denotes; null for a text without any node. -/
def read (mode : KeyMode) (text : String) : Except ReadError Json := do
  match ← Data.read? text with
  | none => return .null
  | some data => data.toJson mode

end Scaffold.Yaml
