import Scaffold.FileTree.Update

/-! Writing files. Each file is staged in a temporary file next to its target, and only when all of
them are staged are they moved into place, one after the other. -/
namespace Scaffold.Output

structure OutputFile where
  path : Path
  content : String
  deriving DecidableEq, Repr

structure WriteError where
  path : Path
  cause : FileError
  deriving DecidableEq, Repr

/-- A file that is staged: its target, and the temporary file that waits to be moved there. -/
structure Staged where
  target : Path
  temporary : Path
  deriving DecidableEq, Repr

/-- Where staging has got to: the tree, the first missing directory before each call that made
directories, and the staged files. -/
structure Staging where
  tree : FileTree
  created : List Path
  staged : List Staged

def directoryOf (p : Path) : Path :=
  match p.parent? with
  | some directory => if directory.isEmpty then ⟨"."⟩ else directory
  | none => ⟨"."⟩

/-- The outermost directory that has to be made so that a directory is there. -/
def outermostMissing? (tree : FileTree) (directory : Path) : Option Path :=
  (directory.ancestors.takeWhile fun p => !p.isEmpty && !tree.contains p).getLast?

/-- The names in use: those of the tree, and those that some paths are made of. -/
def namesInUse (tree : FileTree) (paths : List Path) : List String :=
  tree.entries.flatMap Prod.fst ++
    paths.flatMap fun p => (p.text.toList.splitOn '/').map String.ofList

/-- The name of a temporary file that is not in use yet. -/
def freshName (used : List String) : String :=
  (((List.range (used.length + 1)).map fun n => ".tmp" ++ toString n).find? fun name =>
    !used.contains name).getD ".tmp"

/-- Stage one file, avoiding the names in some paths. -/
def stage (avoid : List Path) (s : Staging) (file : OutputFile) :
    Staging × Except WriteError Unit :=
  let directory := directoryOf file.path
  let created := s.created ++ (outermostMissing? s.tree directory).toList
  match s.tree.makeDirectories directory with
  | (tree, .error cause) => ({ s with tree, created }, .error ⟨file.path, cause⟩)
  | (tree, .ok ()) =>
    let temporary := directory.join ⟨freshName (namesInUse tree avoid)⟩
    match tree.createNew temporary file.content.toUTF8 with
    | .error cause => ({ s with tree, created }, .error ⟨file.path, cause⟩)
    | .ok tree => (⟨tree, created, s.staged ++ [⟨file.path, temporary⟩]⟩, .ok ())

/-- Stage files in order, up to the first that cannot be staged. -/
def stageAll (avoid : List Path) : Staging → List OutputFile → Staging × Except WriteError Unit
  | s, [] => (s, .ok ())
  | s, file :: rest =>
    match stage avoid s file with
    | (s, .ok ()) => stageAll avoid s rest
    | (s, .error e) => (s, .error e)

/-- The tree without the temporary files of some staged ones. -/
def discard (tree : FileTree) (staged : List Staged) : FileTree :=
  staged.foldl (fun tree file => tree.removeFile file.temporary) tree

/-- The tree without what staging has put into it. -/
def undo (s : Staging) : FileTree :=
  s.created.reverse.foldl FileTree.removeDirectory (discard s.tree s.staged)

/-- Move staged files into place, up to the first that cannot be moved; the temporary files that
remain are dropped. -/
def commit : FileTree → List Staged → FileTree × Except WriteError Unit
  | tree, [] => (tree, .ok ())
  | tree, file :: rest =>
    match tree.rename file.temporary file.target with
    | .ok tree => commit tree rest
    | .error cause => (discard tree (file :: rest), .error ⟨file.target, cause⟩)

/-- Write files: all of them are staged before the first is moved into place. -/
def write (tree : FileTree) (files : List OutputFile) : FileTree × Except WriteError Unit :=
  match stageAll (files.map (·.path)) ⟨tree, [], []⟩ files with
  | (s, .ok ()) => commit s.tree s.staged
  | (s, .error e) => (undo s, .error e)

end Scaffold.Output
