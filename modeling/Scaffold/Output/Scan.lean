import Scaffold.FileTree.Basic

/-! Looking through the sources of a project: every file below its `src` directory, in the order of
paths. -/
namespace Scaffold.Output

/-- A directory that cannot be looked through. -/
structure ScanError where
  path : Path
  cause : FileError
  deriving DecidableEq, Repr

/-- The files among the entries of a directory, and those that lie `below` its directories. -/
def filesAmong (below : Path → Except ScanError (List Path)) (directory : Path) :
    List (String × Entry) → Except ScanError (List Path)
  | [] => .ok []
  | (name, entry) :: rest => do
    let path := directory.join ⟨name⟩
    let here ← match entry with
      | .file _ => .ok [path]
      | .directory => below path
    let others ← filesAmong below directory rest
    return here ++ others

/-- The files below a directory, at most `depth` directories down; none if it is missing. -/
def filesBelow (tree : FileTree) : (depth : Nat) → Path → Except ScanError (List Path)
  | 0, _ => .ok []
  | depth + 1, directory =>
    match tree.list directory with
    | .ok children => filesAmong (filesBelow tree depth) directory children
    | .error .notFound => .ok []
    | .error cause => .error ⟨directory, cause⟩

/-- The existing files below the `src` directory of a project, in the order of paths. -/
def existingFiles (tree : FileTree) (root : Path) : Except ScanError (List Path) := do
  let files ← filesBelow tree (tree.entries.length + 1) (root.join ⟨"src"⟩)
  return files.mergeSort fun p q => !q.before p

end Scaffold.Output
