import Scaffold.Entries
import Scaffold.FileTree.Error
import Scaffold.Path

/-! A tree of files as a value: what lies where, and the directory at which relative paths start.
Paths are followed step by step, as an operating system does, without symbolic links. -/
namespace Scaffold

/-- The names that lead to a place in the tree, innermost first; the root is the empty list. -/
abbrev Location := List String

inductive Entry where
  | file (content : ByteArray)
  | directory
  deriving Inhabited

instance : DecidableEq Entry
  | .file a, .file b => decidable_of_iff (a.data = b.data) (by cases a; cases b; simp)
  | .directory, .directory => isTrue rfl
  | .file _, .directory => isFalse nofun
  | .directory, .file _ => isFalse nofun

/-- Files and directories by location, with the directory at which relative paths start. The
root is a directory and is not listed. -/
structure FileTree where
  current : Location
  entries : List (Location × Entry)
  deriving DecidableEq, Inhabited

namespace FileTree

/-- What lies at a location. -/
def find? (t : FileTree) (l : Location) : Option Entry :=
  if l = [] then some .directory else t.entries.lookup l

def isDirectoryAt (t : FileTree) (l : Location) : Bool := t.find? l = some .directory

def nameLimit : Nat := 255

def pathLimit : Nat := 4095

/-- A name that an entry of a directory can have. -/
structure IsName (name : String) : Prop where
  not_idle : Path.isIdle name.toList = false
  ne_parent : name.toList ≠ ['.', '.']
  no_slash : '/' ∉ name.toList
  no_nul : '\x00' ∉ name.toList
  fits : name.utf8ByteSize ≤ nameLimit

/-- The tree hangs together: locations are listed once and consist of names, every one but the
root lies in a directory, and so does the place where relative paths start. -/
structure WellFormed (t : FileTree) : Prop where
  nodup : (t.entries.map Prod.fst).Nodup
  ne_root : ∀ l ∈ t.entries.map Prod.fst, l ≠ []
  parent : ∀ l ∈ t.entries.map Prod.fst, t.find? l.tail = some .directory
  names : ∀ l ∈ t.entries.map Prod.fst, ∀ name ∈ l, IsName name
  current : t.find? t.current = some .directory

instance (name : String) : Decidable (IsName name) :=
  decidable_of_iff (Path.isIdle name.toList = false ∧ name.toList ≠ ['.', '.'] ∧
      '/' ∉ name.toList ∧ '\x00' ∉ name.toList ∧ name.utf8ByteSize ≤ nameLimit)
    ⟨fun ⟨hi, hp, hs, hn, hf⟩ => ⟨hi, hp, hs, hn, hf⟩,
      fun ⟨hi, hp, hs, hn, hf⟩ => ⟨hi, hp, hs, hn, hf⟩⟩

instance (t : FileTree) : Decidable t.WellFormed :=
  decidable_of_iff ((t.entries.map Prod.fst).Nodup ∧ (∀ l ∈ t.entries.map Prod.fst, l ≠ []) ∧
      (∀ l ∈ t.entries.map Prod.fst, t.find? l.tail = some .directory) ∧
      (∀ l ∈ t.entries.map Prod.fst, ∀ name ∈ l, IsName name) ∧
      t.find? t.current = some .directory)
    ⟨fun ⟨hd, hr, hp, hn, hc⟩ => ⟨hd, hr, hp, hn, hc⟩,
      fun ⟨hd, hr, hp, hn, hc⟩ => ⟨hd, hr, hp, hn, hc⟩⟩

/-- One step from a directory: up, nowhere, or down to a name. -/
def step (t : FileTree) (l : Location) (part : List Char) : Except FileError Location :=
  if !t.isDirectoryAt l then .error .notDirectory
  else if Path.isIdle part then .ok l
  else if part = ['.', '.'] then .ok l.tail
  else
    let name := String.ofList part
    if nameLimit < name.utf8ByteSize then .error .nameTooLong
    else if (t.find? (name :: l)).isSome then .ok (name :: l)
    else .error .notFound

/-- Follow the parts of a path. Each part asks for a directory to start from, so that a slash
behind a file is a failure. -/
def walk (t : FileTree) : Location → List (List Char) → Except FileError Location
  | l, [] => .ok l
  | l, part :: rest =>
    match t.step l part with
    | .ok next => walk t next rest
    | .error e => .error e

def startOf (t : FileTree) (p : Path) : Location := if p.isAbsolute then [] else t.current

/-- The text of a path can be followed at all. The check for a NUL comes before all others. -/
def checkText (p : Path) : Except FileError Unit :=
  if '\x00' ∈ p.text.toList then .error .invalidInput
  else if p.isEmpty then .error .notFound
  else if pathLimit < p.text.utf8ByteSize then .error .nameTooLong
  else .ok ()

/-- The location that a path names. -/
def resolve (t : FileTree) (p : Path) : Except FileError Location :=
  match checkText p with
  | .error e => .error e
  | .ok () => t.walk (t.startOf p) (p.text.toList.splitOn '/')

def contains (t : FileTree) (p : Path) : Bool := (t.resolve p).isOk

def isDirectory (t : FileTree) (p : Path) : Bool :=
  match t.resolve p with
  | .ok l => t.isDirectoryAt l
  | .error _ => false

def read (t : FileTree) (p : Path) : Except FileError ByteArray :=
  match t.resolve p with
  | .error e => .error e
  | .ok l =>
    match t.find? l with
    | some (.file content) => .ok content
    | some .directory => .error .isDirectory
    | none => .error .notFound

def readText (t : FileTree) (p : Path) : Except FileError String :=
  match t.read p with
  | .error e => .error e
  | .ok content =>
    match String.fromUTF8? content with
    | some text => .ok text
    | none => .error .invalidText

def childrenAt (t : FileTree) (l : Location) : List (String × Entry) :=
  t.entries.filterMap fun (place, entry) =>
    match place with
    | [] => none
    | name :: parent => if parent = l then some (name, entry) else none

/-- The entries directly inside the directory that a path leads to. -/
def list (t : FileTree) (p : Path) : Except FileError (List (String × Entry)) :=
  match t.resolve p with
  | .error e => .error e
  | .ok l => if t.isDirectoryAt l then .ok (t.childrenAt l) else .error .notDirectory

end FileTree

end Scaffold
