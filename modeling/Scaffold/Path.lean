import Scaffold.Text.Split

/-! File paths as they are written. The text of a path is kept; equality and order that ignore
repeated slashes and dots work on its components. -/
namespace Scaffold

structure Path where
  text : String
  deriving DecidableEq, Inhabited, Repr

inductive Component where
  | root
  | current
  | parent
  | name (chars : List Char)
  deriving DecidableEq, Repr

/-- The rank of a component: the root, the leading dot, the parent, then names by their
characters. -/
def Component.key : Component → List Nat
  | .root => [0]
  | .current => [1]
  | .parent => [2]
  | .name chars => 3 :: chars.map Char.toNat

namespace Path

/-- Where a path starts: at the root, at a leading dot, or neither. -/
inductive Start where
  | root
  | current
  | relative
  deriving DecidableEq, Repr

def Start.chars : Start → List Char
  | .root => ['/']
  | .current => ['.']
  | .relative => []

def Start.components : Start → List Component
  | .root => [.root]
  | .current => [.current]
  | .relative => []

/-- The start of a path, and the parts of what follows between slashes. -/
def parts (p : Path) : Start × List (List Char) :=
  match p.text.toList with
  | '/' :: rest => (.root, rest.splitOn '/')
  | ['.'] => (.current, [[]])
  | '.' :: '/' :: rest => (.current, [] :: rest.splitOn '/')
  | cs => (.relative, cs.splitOn '/')

/-- A part without meaning: an empty one or a dot. -/
def isIdle (part : List Char) : Bool := part = [] || part = ['.']

def partComponent? (part : List Char) : Option Component :=
  if isIdle part then none
  else if part = ['.', '.'] then some .parent
  else some (.name part)

/-- The components of a path. Idle parts are passed over, save for a leading dot. -/
def components (p : Path) : List Component :=
  p.parts.1.components ++ p.parts.2.filterMap partComponent?

/-- Two paths are the same when their components are. -/
def same (p q : Path) : Bool := p.components = q.components

def key (p : Path) : List (List Nat) := p.components.map Component.key

/-- The order of paths: the first component in which they differ decides, and a path comes before
those that go on behind it. -/
def before (p q : Path) : Bool :=
  List.lex p.key q.key fun a b => List.lex a b fun m n => decide (m < n)

def isAbsolute (p : Path) : Bool := p.text.toList.head? = some '/'

def isEmpty (p : Path) : Bool := p.text.isEmpty

/-- The path `q` seen from `p`. An absolute `q` stands for itself. -/
def join (p q : Path) : Path :=
  if q.isAbsolute then q
  else if p.isEmpty || p.text.toList.getLast? = some '/' then ⟨p.text ++ q.text⟩
  else ⟨p.text ++ "/" ++ q.text⟩

def dropIdleEnd (parts : List (List Char)) : List (List Char) :=
  (parts.reverse.dropWhile isIdle).reverse

def ofParts (start : Start) (parts : List (List Char)) : Path :=
  ⟨String.ofList (start.chars ++ ['/'].intercalate parts)⟩

/-- The path without its last component; idle parts around it go with it. The root and the empty
path have no parent. -/
def parent? (p : Path) : Option Path :=
  let (start, parts) := p.parts
  match (dropIdleEnd parts).reverse with
  | _ :: rest => some (ofParts start (dropIdleEnd rest.reverse))
  | [] => if start = .current then some ⟨""⟩ else none

def ancestors (p : Path) : List Path :=
  go p.text.length p
where
  /-- The path and at most `fuel` parents. -/
  go : Nat → Path → List Path
    | 0, p => [p]
    | fuel + 1, p =>
      match p.parent? with
      | some q => p :: go fuel q
      | none => [p]

def fileName? (p : Path) : Option (List Char) :=
  match p.components.getLast? with
  | some (.name chars) => some chars
  | _ => none

/-- The text behind the last dot of the file name; a dot in front of it all does not count. -/
def fileExtension? (p : Path) : Option (List Char) :=
  p.fileName?.bind fun chars =>
    match (chars.splitOn '.').reverse with
    | ext :: before => if before.isEmpty || before = [[]] then none else some ext
    | [] => none

/-- The parts that remain when the names of `base` are taken off, in order. -/
def stripParts? : (base : List Component) → List (List Char) → Option (List (List Char))
  | [], parts => some parts
  | _ :: _, [] => none
  | c :: base, part :: parts =>
    match partComponent? part with
    | none => stripParts? (c :: base) parts
    | some d => if c = d then stripParts? base parts else none

/-- The path seen from `base`, when `base` is the front of its components. -/
def stripBase? (base p : Path) : Option Path :=
  let (start, parts) := p.parts
  let names := base.parts.2.filterMap partComponent?
  if base.components.isEmpty then some (ofParts start (dropIdleEnd parts))
  else if base.parts.1 ≠ start then none
  else (stripParts? names parts).map fun rest =>
    ofParts .relative (dropIdleEnd (rest.dropWhile isIdle))

end Path

end Scaffold
