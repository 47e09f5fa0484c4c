import Scaffold.Text.Digits
import Scaffold.Text.Split

/-! Addresses of hosts: four numbers of one byte, some of which may be put together, or eight groups
of hexadecimal digits, some of which may be left out. -/
namespace Scaffold.Url

/-- The value of digits in a base, unless one of them does not belong to it. -/
def valueIn? (base : Nat) (digits : List Char) : Option Nat :=
  digits.foldlM (fun n c => do
    let d ← Text.hexValue? c
    if d < base then some (n * base + d) else none) 0

/-- A part of an address of four numbers, in base eight, ten or sixteen. -/
def addressPart? : List Char → Option Nat
  | [] => none
  | '0' :: 'x' :: digits => valueIn? 16 digits
  | '0' :: 'X' :: digits => valueIn? 16 digits
  | '0' :: digits => valueIn? 8 digits
  | digits => valueIn? 10 digits

/-- The parts of an address fit: all but the last one byte each, the last one the bytes left. -/
def isNumberAddress (parts : List (List Char)) : Bool :=
  match parts.mapM addressPart? with
  | none => false
  | some numbers =>
    numbers.length ≤ 4 && numbers.dropLast.all (· < 256) &&
      numbers.getLast?.all (· < Nat.pow 256 (5 - numbers.length))

def isNumber (part : List Char) : Bool :=
  !part.isEmpty && part.all Char.isDigit || (addressPart? part).isSome

def isGroup (group : List Char) : Bool :=
  !group.isEmpty && group.length ≤ 4 && group.all fun c => (Text.hexValue? c).isSome

/-- A decimal number of one byte, without leading zeros. -/
def isByte (digits : List Char) : Bool :=
  !digits.isEmpty && digits.all Char.isDigit && (digits = ['0'] || digits.head? ≠ some '0') &&
    Text.digitsValue digits < 256

/-- The number of groups between colons. Four decimal numbers may count for the last two. -/
def groupCount? (cs : List Char) : Option Nat :=
  if cs.isEmpty then some 0
  else
    let groups := cs.splitOn ':'
    let last := groups.getLast?.getD []
    let numbers := last.splitOn '.'
    if !groups.dropLast.all isGroup then none
    else if isGroup last then some groups.length
    else if numbers.length = 4 && numbers.all isByte then some (groups.length + 1)
    else none

/-- What stands before and behind the first double colon. -/
def cutDoubleColon? : List Char → Option (List Char × List Char)
  | ':' :: ':' :: rest => some ([], rest)
  | c :: rest => (cutDoubleColon? rest).map fun (before, behind) => (c :: before, behind)
  | [] => none

/-- An address of eight groups. A double colon stands for groups that are left out. -/
def isGroupAddress (cs : List Char) : Bool :=
  match cutDoubleColon? cs with
  | none => groupCount? cs = some 8
  | some (before, behind) =>
    match groupCount? before, groupCount? behind with
    | some m, some n => m + n ≤ 7 && !before.contains '.'
    | _, _ => false

end Scaffold.Url
