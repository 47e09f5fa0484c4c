import Scaffold.FileTree.Basic

/-! What is different between two trees of files. -/
namespace Scaffold.FileTree

inductive Change where
  /-- A file is new there, or has another content. -/
  | written (place : Location) (content : ByteArray)
  /-- A directory is new there. -/
  | made (place : Location)
  /-- What was there is gone. -/
  | removed (place : Location) (entry : Entry)

namespace Change

def place : Change → Location
  | .written place _ => place
  | .made place => place
  | .removed place _ => place

def isDirectory : Change → Bool
  | .written _ _ => false
  | .made _ => true
  | .removed _ entry => entry = .directory

end Change

/-- The difference that puts an entry at a location. -/
def changeTo (place : Location) : Entry → Change
  | .file content => .written place content
  | .directory => .made place

/-- The differences at a location, given what lies there before and after. A file that gives way
to another one is not removed first. -/
def changesAt (place : Location) : (before after : Option Entry) → List Change
  | none, none => []
  | some old, none => [.removed place old]
  | none, some new => [changeTo place new]
  | some old, some new =>
    if old = new then []
    else if old ≠ .directory && new ≠ .directory then [changeTo place new]
    else [.removed place old, changeTo place new]

/-- The differences between two trees, first at the places of the one before. -/
def changes (before after : FileTree) : List Change :=
  let places := before.entries.map Prod.fst
  let others := (after.entries.map Prod.fst).filter fun place => !places.contains place
  (places ++ others).flatMap fun place => changesAt place (before.find? place) (after.find? place)

end Scaffold.FileTree
