import Scaffold.Json.Basic
import Scaffold.Decimal.Binary64
import Scaffold.Text.Digits

/-! Reading a value from its text. The grammar is strict: no byte order mark, no comments, no
trailing commas, four blank characters, and a bound on how deeply arrays and objects nest. -/
namespace Scaffold.Json

/-- Why a text is not the text of a value. -/
inductive ReadError where
  | unexpectedEnd
  | unexpected (found : Char)
  | controlCharacter
  | invalidEscape
  | loneSurrogate
  | numberOutOfRange
  | tooDeep
  | trailingCharacters
  deriving DecidableEq, Repr

def ReadError.message : ReadError → String
  | .unexpectedEnd => "unexpected end of text"
  | .unexpected found => s!"unexpected character {quoteChar found}"
  | .controlCharacter => "control character in a string"
  | .invalidEscape => "invalid escape"
  | .loneSurrogate => "lone surrogate in an escape"
  | .numberOutOfRange => "number out of range"
  | .tooDeep => "nesting limit exceeded"
  | .trailingCharacters => "trailing characters"
where
  /-- A character between apostrophes. -/
  quoteChar (c : Char) : String := String.ofList ['\'', c, '\'']

def isBlank (c : Char) : Bool :=
  c = ' ' || c = '\t' || c = '\n' || c = '\r'

/-- The text without leading blanks. -/
def skipBlanks (cs : List Char) : List Char := cs.dropWhile isBlank

/-- The failure at the start of a text that does not fit. -/
def unexpected (cs : List Char) : ReadError :=
  match cs with
  | [] => .unexpectedEnd
  | c :: _ => .unexpected c

def readHex : List Char → Except ReadError (Nat × List Char)
  | a :: b :: c :: d :: rest =>
    match Text.hexValue? a, Text.hexValue? b, Text.hexValue? c, Text.hexValue? d with
    | some a, some b, some c, some d => .ok (((a * 16 + b) * 16 + c) * 16 + d, rest)
    | _, _, _, _ => .error .invalidEscape
  | _ => .error .unexpectedEnd

/-- The character that an escape stands for, from behind its backslash. Two escapes that form a
surrogate pair stand for one character. -/
def readEscape : List Char → Except ReadError (Char × List Char)
  | '"' :: rest => .ok ('"', rest)
  | '\\' :: rest => .ok ('\\', rest)
  | '/' :: rest => .ok ('/', rest)
  | 'b' :: rest => .ok ('\x08', rest)
  | 'f' :: rest => .ok ('\x0c', rest)
  | 'n' :: rest => .ok ('\n', rest)
  | 'r' :: rest => .ok ('\r', rest)
  | 't' :: rest => .ok ('\t', rest)
  | 'u' :: rest => do
    let (high, rest) ← readHex rest
    if high < 0xD800 || 0xDFFF < high then .ok (Char.ofNat high, rest)
    else if 0xDC00 ≤ high then .error .loneSurrogate
    else
      match rest with
      | '\\' :: 'u' :: rest =>
        let (low, rest) ← readHex rest
        if 0xDC00 ≤ low && low ≤ 0xDFFF then
          .ok (Char.ofNat (0x10000 + (high - 0xD800) * 0x400 + (low - 0xDC00)), rest)
        else .error .loneSurrogate
      | _ => .error .loneSurrogate
  | [] => .error .unexpectedEnd
  | _ => .error .invalidEscape

/-- The characters of a string up to its closing quote, from behind the opening one. -/
def readString : (fuel : Nat) → List Char → Except ReadError (List Char × List Char)
  | 0, _ => .error .unexpectedEnd
  | _ + 1, [] => .error .unexpectedEnd
  | _ + 1, '"' :: rest => .ok ([], rest)
  | fuel + 1, '\\' :: rest => do
    let (c, rest) ← readEscape rest
    let (cs, rest) ← readString fuel rest
    .ok (c :: cs, rest)
  | fuel + 1, c :: rest =>
    if c.toNat < 32 then .error .controlCharacter
    else do
      let (cs, rest) ← readString fuel rest
      .ok (c :: cs, rest)

/-- A significand below `2 ^ 64` with the number of digits that it could not take up. -/
structure Significand where
  value : Nat
  dropped : Nat

/-- Take up a run of digits until the significand is full. -/
def Significand.absorb (s : Significand) : List Char → Significand
  | [] => s
  | c :: rest =>
    let grown := s.value * 10 + (c.toNat - 48)
    if grown < Nat.pow 2 64 then absorb ⟨grown, s.dropped⟩ rest
    else ⟨s.value, s.dropped + (rest.length + 1)⟩

/-- The power of ten behind a number: nothing, or an exponent mark with its digits. -/
def readExponent : List Char → Except ReadError (Option Int × List Char)
  | [] => .ok (none, [])
  | c :: rest =>
    if c = 'e' || c = 'E' then
      let (negative, rest) :=
        match rest with
        | '-' :: rest => (true, rest)
        | '+' :: rest => (false, rest)
        | rest => (false, rest)
      let ds := rest.takeWhile Char.isDigit
      let rest := rest.dropWhile Char.isDigit
      if ds.isEmpty then .error (unexpected rest)
      else .ok (some (if negative then -(Text.digitsValue ds) else Text.digitsValue ds), rest)
    else .ok (none, c :: rest)

def doubleNumber (negative : Bool) (significand : Nat) (exponent : Int) :
    Except ReadError Number :=
  match Binary64.scaled? significand exponent with
  | some bits => .ok (.double (if negative then bits ||| Binary64.signBit else bits))
  | none => .error .numberOutOfRange

/-- A number, from behind its sign. Whole numbers that 64 bits can hold are integers; `-0` is the
double. A fraction or an exponent makes a double, as does a number that is too large. -/
def readNumber (negative : Bool) (cs : List Char) : Except ReadError (Number × List Char) := do
  let ds := cs.takeWhile Char.isDigit
  let rest := cs.dropWhile Char.isDigit
  if ds.isEmpty then throw (unexpected cs)
  if ds.head? = some '0' && 1 < ds.length then throw (.unexpected '0')
  let whole := Significand.absorb ⟨0, 0⟩ ds
  match rest with
  | '.' :: rest =>
    let fs := rest.takeWhile Char.isDigit
    let rest := rest.dropWhile Char.isDigit
    if fs.isEmpty then throw (unexpected rest)
    let all := Significand.absorb ⟨whole.value, 0⟩ fs
    let scale : Int := (whole.dropped : Int) - ((fs.length - all.dropped : Nat) : Int)
    let (exponent, rest) ← readExponent rest
    let value ← doubleNumber negative all.value (scale + exponent.getD 0)
    return (value, rest)
  | rest =>
    let (exponent, rest) ← readExponent rest
    let fits := whole.dropped = 0 &&
      (!negative || (0 < whole.value && whole.value ≤ Nat.pow 2 63))
    if exponent.isNone && fits then
      return (.integer (if negative then -whole.value else whole.value), rest)
    let value ← doubleNumber negative whole.value (whole.dropped + exponent.getD 0)
    return (value, rest)

mutual
def readValue : (fuel : Nat) → (depth : Nat) → List Char → Except ReadError (Json × List Char)
  | 0, _, _ => .error .unexpectedEnd
  | fuel + 1, depth, cs =>
    match skipBlanks cs with
    | 'n' :: 'u' :: 'l' :: 'l' :: rest => .ok (.null, rest)
    | 't' :: 'r' :: 'u' :: 'e' :: rest => .ok (.bool true, rest)
    | 'f' :: 'a' :: 'l' :: 's' :: 'e' :: rest => .ok (.bool false, rest)
    | '"' :: rest => do
      let (text, rest) ← readString fuel rest
      return (.string (String.ofList text), rest)
    | '[' :: rest =>
      if depth ≤ 1 then .error .tooDeep
      else match skipBlanks rest with
        | ']' :: rest => .ok (.array [], rest)
        | rest => do
          let (items, rest) ← readItems fuel (depth - 1) rest
          return (.array items, rest)
    | '\x7b' :: rest =>
      if depth ≤ 1 then .error .tooDeep
      else match skipBlanks rest with
        | '\x7d' :: rest => .ok (.object [], rest)
        | rest => do
          let (fields, rest) ← readFields fuel (depth - 1) [] rest
          return (.object fields, rest)
    | '-' :: rest => do
      let (n, rest) ← readNumber true rest
      return (.number n, rest)
    | rest => do
      let (n, rest) ← readNumber false rest
      return (.number n, rest)

/-- The items of an array that is not empty, and its closing bracket. -/
def readItems : (fuel : Nat) → (depth : Nat) → List Char → Except ReadError (List Json × List Char)
  | 0, _, _ => .error .unexpectedEnd
  | fuel + 1, depth, cs => do
    let (item, rest) ← readValue fuel depth cs
    match skipBlanks rest with
    | ',' :: rest =>
      let (items, rest) ← readItems fuel depth rest
      return (item :: items, rest)
    | ']' :: rest => return ([item], rest)
    | rest => throw (unexpected rest)

/-- The fields of an object that is not empty, stored behind those already read, and its closing
brace. -/
def readFields : (fuel : Nat) → (depth : Nat) → List (String × Json) → List Char →
    Except ReadError (List (String × Json) × List Char)
  | 0, _, _, _ => .error .unexpectedEnd
  | fuel + 1, depth, fields, cs =>
    match skipBlanks cs with
    | '"' :: rest => do
      let (key, rest) ← readString fuel rest
      match skipBlanks rest with
      | ':' :: rest =>
        let (value, rest) ← readValue fuel depth rest
        let fields := Entries.put (String.ofList key) value fields
        match skipBlanks rest with
        | ',' :: rest => readFields fuel depth fields rest
        | '\x7d' :: rest => return (fields, rest)
        | rest => throw (unexpected rest)
      | rest => throw (unexpected rest)
    | rest => throw (unexpected rest)
end

/-- One more than the number of arrays and objects that may lie inside each other. -/
def depthLimit : Nat := 128

def read (text : String) : Except ReadError Json := do
  let cs := text.toList
  let (value, rest) ← readValue (2 * cs.length + 1) depthLimit cs
  if (skipBlanks rest).isEmpty then return value else throw .trailingCharacters

end Scaffold.Json
