import Scaffold.CommandLine
import Scaffold.FileTree.Change

/-! The program. It brings the files that a run asks for from the disk into a tree, runs the
command on the tree, and carries the changes out on the disk. -/
namespace Scaffold.Program

def diskPath (place : Location) : String := "/" ++ "/".intercalate place.reverse

/-- What lies at a location on the disk. -/
def look (place : Location) : IO (Option Entry) := do
  if place.isEmpty then return some .directory
  try
    return some (.file (← IO.FS.readBinFile (diskPath place)))
  catch
    | .noFileOrDirectory .. => return none
    | .inappropriateType .. => return some .directory
    | e => throw e

/-- Bring what the parts of a path lead to into the tree. -/
def bringParts (tree : FileTree) (place : Location) : List (List Char) → IO FileTree
  | [] => return tree
  | part :: rest => do
    if Path.isIdle part then bringParts tree place rest
    else if part = ['.', '.'] then bringParts tree place.tail rest
    else
      let next := String.ofList part :: place
      if (tree.find? next).isSome then bringParts tree next rest
      else
        match ← look next with
        | some entry => bringParts (tree.put next entry) next rest
        | none => return tree

def bring (tree : FileTree) (path : Path) : IO FileTree :=
  bringParts tree (tree.startOf path) (path.text.toList.splitOn '/')

/-- The tree that holds no more than the way to the current directory. -/
def emptyTree : IO FileTree := do
  let current : Path := ⟨(← IO.currentDir).toString⟩
  bring ⟨((current.components.filterMap fun
    | .name chars => some (String.ofList chars)
    | _ => none)).reverse, []⟩ current

/-- Bring the documents that a run asks for into the tree, one by one, and then what lies where
its files go. -/
partial def settle (directory : Path) (isVerbose : Bool) (tree : FileTree) : IO FileTree := do
  match Generator.standard.prepare tree directory with
  | .ok (files, _) => files.foldlM (fun tree file => bring tree file.path) tree
  | .error e =>
    match e.missingDocument? with
    | none => return tree
    | some path =>
      if isVerbose then IO.eprintln ("Reading " ++ path.text)
      let next ← bring tree path
      if next.contains path then settle directory isVerbose next else return next

/-- Carry a change out on the disk. -/
def carryOut : FileTree.Change → IO Unit
  | .made place => IO.FS.createDir (diskPath place)
  | .written place content => IO.FS.writeBinFile (diskPath place) content
  | .removed place .directory => IO.FS.removeDir (diskPath place)
  | .removed place (.file _) => IO.FS.removeFile (diskPath place)

def run (request : CommandLine.Request) : IO CommandLine.Outcome := do
  let tree ← emptyTree
  match request with
  | .run _ directory isVerbose =>
    let directory := directory.getD (CommandLine.currentDirectory tree)
    let tree ← ("src" :: Config.candidates).foldlM
      (fun tree name => bring tree (directory.join ⟨name⟩)) tree
    let tree ← settle directory isVerbose tree
    let (after, outcome) := CommandLine.run .standard tree request
    let (gone, fresh) := (FileTree.changes tree after).partition fun change =>
      change matches .removed _ _
    (gone.mergeSort fun a b => decide (b.place.length ≤ a.place.length)).forM carryOut
    (fresh.mergeSort fun a b => decide (a.place.length ≤ b.place.length)).forM carryOut
    return outcome
  | _ => return (CommandLine.run .standard tree request).2

end Scaffold.Program

def main (arguments : List String) : IO UInt32 := do
  let request := Scaffold.CommandLine.read arguments
  let outcome ← Scaffold.Program.run request
  IO.print outcome.output
  if request = .malformed then IO.eprintln "error: malformed command line"
  match outcome.error with
  | some text => IO.eprintln text
  | none => pure ()
  return outcome.exit.toUInt32
