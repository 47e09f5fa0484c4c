import Scaffold.Text.Digits
import Scaffold.Text.Encoding

/-! Percent-encoded texts: a percent sign with two hexadecimal digits stands for a byte, and any
other percent sign for itself. -/
namespace Scaffold.Text

def hexByte? (b : UInt8) : Option Nat := hexValue? (Char.ofNat b.toNat)

def percentBytes : List UInt8 → List UInt8
  | [] => []
  | b :: high :: low :: rest =>
    match if b = 0x25 then (do return (← hexByte? high) * 16 + (← hexByte? low)) else none with
    | some n => n.toUInt8 :: percentBytes rest
    | none => b :: percentBytes (high :: low :: rest)
  | b :: rest => b :: percentBytes rest

/-- The text that a percent-encoded text stands for. -/
def percentDecode (text : String) : Except EncodingError String :=
  decode (percentBytes (encode text))

end Scaffold.Text
