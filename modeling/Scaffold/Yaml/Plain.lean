import Scaffold.Yaml.Error
import Scaffold.Json.Reader

/-! The value that a scalar denotes: null, a truth value, an integer, a float, or text. -/
namespace Scaffold.Yaml

inductive ScalarValue where
  | null
  | bool (value : Bool)
  | integer (value : Int)
  | double (bits : UInt64)
  | text (value : String)
  deriving DecidableEq, Repr

/-- The value of a digit in a base of at most sixteen. -/
def digitIn? (base : Nat) (c : Char) : Option Nat :=
  (Text.hexValue? c).bind fun n => if n < base then some n else none

/-- The natural number that digits of a base write; there must be one. -/
def naturalIn? (base : Nat) (cs : List Char) : Option Nat :=
  if cs.isEmpty then none
  else cs.foldlM (fun n c => (digitIn? base c).map (n * base + ·)) 0

/-- A sign and digits alone, with a zero too many in front. -/
def hasIdleZero (cs : List Char) : Bool :=
  let digits :=
    match cs with
    | '-' :: rest => rest
    | '+' :: rest => rest
    | cs => cs
  1 < digits.length && digits.head? = some '0' && digits.all Char.isDigit

/-- Digits behind a mark for their base, or decimal digits without a zero too many. -/
def basedNatural? (cs : List Char) : Option Nat :=
  let marked :=
    match cs with
    | '0' :: 'x' :: rest => naturalIn? 16 rest
    | '0' :: 'o' :: rest => naturalIn? 8 rest
    | '0' :: 'b' :: rest => naturalIn? 2 rest
    | _ => none
  marked <|> (if hasIdleZero cs then none else naturalIn? 10 cs)

/-- The integer that a plain scalar writes, of any size. -/
def integerOf? : List Char → Option Int
  | '-' :: rest => (basedNatural? rest).map fun n => -(n : Int)
  | '+' :: rest => (basedNatural? rest).map Int.ofNat
  | cs => (basedNatural? cs).map Int.ofNat

/-- A decimal number: digits with a point among them or beside them, and perhaps an exponent. -/
def decimalOf? (cs : List Char) : Option (Nat × Int) :=
  let whole := cs.takeWhile Char.isDigit
  let rest := cs.dropWhile Char.isDigit
  let (fraction, rest) :=
    match rest with
    | '.' :: rest => (rest.takeWhile Char.isDigit, rest.dropWhile Char.isDigit)
    | rest => ([], rest)
  if whole.isEmpty && fraction.isEmpty then none
  else
    match Json.readExponent rest with
    | .ok (exponent, []) =>
      some (Text.digitsValue (whole ++ fraction), exponent.getD 0 - fraction.length)
    | _ => none

def notANumber : UInt64 := 0x7FF8000000000000

/-- The float that a plain scalar writes. Numbers that overflow are none. -/
def doubleOf? (cs : List Char) : Option UInt64 :=
  let (negative, body) :=
    match cs with
    | '-' :: rest => (true, rest)
    | '+' :: rest => (false, rest)
    | cs => (false, cs)
  let text := String.ofList body
  let sign (bits : UInt64) : UInt64 := if negative then bits ||| Binary64.signBit else bits
  if text = ".inf" || text = ".Inf" || text = ".INF" then
    some (sign Binary64.infinity.toUInt64)
  else if String.ofList cs = ".nan" || String.ofList cs = ".NaN" || String.ofList cs = ".NAN" then
    some notANumber
  else
    match decimalOf? body with
    | some (digits, exponent) => (Binary64.nearest? digits exponent).map sign
    | none => none

def boolOf? (text : String) : Option Bool :=
  if ["true", "True", "TRUE"].contains text then some true
  else if ["false", "False", "FALSE"].contains text then some false
  else none

def isNullWord (text : String) : Bool := ["null", "Null", "NULL", "~"].contains text

/-- An integer as a scalar's value. One that 64 bits cannot hold is refused as long as 128 bits
could. -/
def boundedInteger? (n : Int) : Option (Except ReadError ScalarValue) :=
  if -(Nat.pow 2 63) ≤ n && n < Nat.pow 2 64 then some (.ok (.integer n))
  else if -(Nat.pow 2 127) ≤ n && n < Nat.pow 2 128 then some (.error .integerOutOfRange)
  else none

def ScalarValue.ofPlain (text : String) : Except ReadError ScalarValue :=
  let cs := text.toList
  if text.isEmpty || isNullWord text then .ok .null
  else
    match boolOf? text with
    | some value => .ok (.bool value)
    | none =>
      match (integerOf? cs).bind boundedInteger? with
      | some result => result
      | none =>
        if hasIdleZero cs then .ok (.text text)
        else
          match doubleOf? cs with
          | some bits => .ok (.double bits)
          | none => .ok (.text text)

def coreTag (name : String) : String := "tag:yaml.org,2002:" ++ name

/-- A tag of the document's own, as opposed to one of the basic types. -/
def isOwnTag (tag : String) : Bool := tag.toList.head? = some '!'

/-- The value of a scalar with a tag that is none of the document's own, or without one. -/
def ScalarValue.of (tag : Option String) (isPlain : Bool) (text : String) :
    Except ReadError ScalarValue :=
  let demand (value : Option ScalarValue) : Except ReadError ScalarValue :=
    match value with
    | some value => .ok value
    | none => .error .invalidScalar
  match tag with
  | none => if isPlain then ofPlain text else .ok (.text text)
  | some tag =>
    if tag = coreTag "bool" then demand ((boolOf? text).map .bool)
    else if tag = coreTag "int" then
      match (integerOf? text.toList).bind boundedInteger? with
      | some result => result
      | none => .error .invalidScalar
    else if tag = coreTag "float" then demand ((doubleOf? text.toList).map .double)
    else if tag = coreTag "null" then demand (if isNullWord text then some .null else none)
    else .ok (.text text)

end Scaffold.Yaml
