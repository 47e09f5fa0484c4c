/-! Bytes that spell a text, and where they cease to. -/
namespace Scaffold.Text

/-- Where bytes cease to be a text: the number of bytes before, and how many bytes are wrong; none
if the bytes end within a character. -/
structure EncodingError where
  validBytes : Nat
  invalidBytes : Option Nat
  deriving DecidableEq, Repr

def EncodingError.message (e : EncodingError) : String :=
  match e.invalidBytes with
  | some n => s!"invalid utf-8 sequence of {n} bytes from index {e.validBytes}"
  | none => s!"incomplete utf-8 byte sequence from index {e.validBytes}"

/-- The ranges of the bytes behind the first byte of a character; none for a byte that starts no
character. -/
def followers? (first : Nat) : Option (List (Nat × Nat)) :=
  if first < 0x80 then some []
  else if 0xC2 ≤ first && first ≤ 0xDF then some [(0x80, 0xBF)]
  else if first = 0xE0 then some [(0xA0, 0xBF), (0x80, 0xBF)]
  else if first = 0xED then some [(0x80, 0x9F), (0x80, 0xBF)]
  else if 0xE1 ≤ first && first ≤ 0xEF then some [(0x80, 0xBF), (0x80, 0xBF)]
  else if first = 0xF0 then some [(0x90, 0xBF), (0x80, 0xBF), (0x80, 0xBF)]
  else if 0xF1 ≤ first && first ≤ 0xF3 then some [(0x80, 0xBF), (0x80, 0xBF), (0x80, 0xBF)]
  else if first = 0xF4 then some [(0x80, 0x8F), (0x80, 0xBF), (0x80, 0xBF)]
  else none

/-- How bytes fit a list of ranges. -/
inductive Fit where
  | whole
  /-- The bytes end too early. -/
  | short
  /-- The byte behind the first `n` ones is out of range. -/
  | broken (n : Nat)
  deriving DecidableEq

/-- Match bytes with ranges. -/
def fit : List (Nat × Nat) → List UInt8 → Fit
  | [], _ => .whole
  | _ :: _, [] => .short
  | (low, high) :: ranges, b :: rest =>
    if low ≤ b.toNat && b.toNat ≤ high then
      match fit ranges rest with
      | .broken n => .broken (n + 1)
      | other => other
    else .broken 0

/-- The first place at which bytes cease to be a text. -/
def encodingError? : (fuel : Nat) → (index : Nat) → List UInt8 → Option EncodingError
  | 0, _, _ => none
  | _ + 1, _, [] => none
  | fuel + 1, index, b :: rest =>
    match followers? b.toNat with
    | none => some ⟨index, some 1⟩
    | some ranges =>
      match fit ranges rest with
      | .whole => encodingError? fuel (index + 1 + ranges.length) (rest.drop ranges.length)
      | .short => some ⟨index, none⟩
      | .broken n => some ⟨index, some (n + 1)⟩

def decode (bytes : List UInt8) : Except EncodingError String :=
  match encodingError? (bytes.length + 1) 0 bytes with
  | some e => .error e
  | none =>
    match String.fromUTF8? (ByteArray.mk bytes.toArray) with
    | some text => .ok text
    | none => .error ⟨bytes.length, none⟩

def encode (text : String) : List UInt8 := text.toUTF8.toList

end Scaffold.Text
