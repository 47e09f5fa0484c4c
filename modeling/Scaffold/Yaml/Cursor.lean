import Scaffold.Yaml.Error

/-! A place in a YAML text, and the classes of characters that scanning tells apart. -/
namespace Scaffold.Yaml

def isSpacing (c : Char) : Bool := c = ' ' || c = '\t'

def isBreak (c : Char) : Bool :=
  c = '\r' || c = '\n' || c = '\x85' || c = '\u2028' || c = '\u2029'

def isWordChar (c : Char) : Bool := c.isAlphanum || c = '_' || c = '-'

def isAllowed (c : Char) : Bool :=
  let n := c.toNat
  n = 0x09 || n = 0x0A || n = 0x0D || (0x20 ≤ n && n ≤ 0x7E) || n = 0x85 ||
    (0xA0 ≤ n && n ≤ 0xD7FF) || (0xE000 ≤ n && n ≤ 0xFFFD) || 0x10000 ≤ n

def byteCount (cs : List Char) : Nat := cs.foldl (fun n c => n + c.utf8Size) 0

/-- The rest of a text of some size, and how far into the text, its lines and its current line it
is. Size and index count bytes, the column counts characters. -/
structure Cursor where
  rest : List Char
  size : Nat
  index : Nat
  line : Nat
  column : Nat
  deriving Repr

namespace Cursor

def start (cs : List Char) : Cursor := ⟨cs, byteCount cs, 0, 0, 0⟩

def left (c : Cursor) : Nat := c.size - c.index

def head? (c : Cursor) : Option Char := c.rest.head?

def ahead? (c : Cursor) (n : Nat) : Option Char := c.rest[n]?

def atEnd (c : Cursor) : Bool := c.rest.isEmpty

def spacingAt (c : Cursor) (n : Nat) : Bool := (c.ahead? n).any isSpacing

def breakAt (c : Cursor) (n : Nat) : Bool := (c.ahead? n).any isBreak

/-- A space, tab, line break or the end comes `n` places ahead. -/
def blankAt (c : Cursor) (n : Nat) : Bool :=
  match c.ahead? n with
  | none => true
  | some d => isSpacing d || isBreak d

def oneOfAt (c : Cursor) (n : Nat) (chars : List Char) : Bool := (c.ahead? n).any (chars.contains ·)

def skip (c : Cursor) (n : Nat) : Cursor :=
  { c with
    rest := c.rest.drop n
    index := c.index + byteCount (c.rest.take n)
    column := c.column + n }

/-- Pass over characters of the current line that satisfy `p`. -/
def skipWhile (c : Cursor) (p : Char → Bool) : Cursor := c.skip (c.rest.takeWhile p).length

/-- Pass over a line break, if one comes, and give it as text: a line feed for all but the two
separators beyond ASCII, which stay as they are. -/
def takeBreak (c : Cursor) : List Char × Cursor :=
  match c.rest with
  | '\r' :: '\n' :: rest => (['\n'], ⟨rest, c.size, c.index + 2, c.line + 1, 0⟩)
  | d :: rest =>
    if isBreak d then
      let text := if d = '\u2028' || d = '\u2029' then [d] else ['\n']
      (text, ⟨rest, c.size, c.index + d.utf8Size, c.line + 1, 0⟩)
    else ([], c)
  | [] => ([], c)

def skipBreak (c : Cursor) : Cursor := c.takeBreak.2

def skipLine (c : Cursor) : Cursor := c.skipWhile (!isBreak ·)

/-- Three dashes or three dots stand alone at the start of a line. -/
def atDocumentMark (c : Cursor) : Bool :=
  let mark := c.rest.take 3
  c.column = 0 && (mark = ['-', '-', '-'] || mark = ['.', '.', '.']) && c.blankAt 3

end Cursor

end Scaffold.Yaml
