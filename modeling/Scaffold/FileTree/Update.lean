import Scaffold.FileTree.Basic

/-! Changes to a tree of files, one at a time: making directories, creating and moving files,
and removing things. -/
namespace Scaffold.FileTree

/-- Where a path points when what it names need not exist. -/
inductive Slot where
  /-- A directory by way of the root, a dot or two dots; nothing can be put there. -/
  | fixed
  /-- A name in an existing directory; `slash` tells that a slash follows the name. -/
  | named (directory : Location) (name : String) (slash : Bool)
  deriving DecidableEq

/-- The place that a path names. All but its last part must lead to a directory. -/
def slot (t : FileTree) (p : Path) : Except FileError Slot :=
  match checkText p with
  | .error e => .error e
  | .ok () =>
    let parts := (p.text.toList.splitOn '/').reverse
    match parts.dropWhile (· = []) with
    | [] => .ok .fixed
    | last :: before =>
      match t.walk (t.startOf p) before.reverse with
      | .error e => .error e
      | .ok l =>
        if !t.isDirectoryAt l then .error .notDirectory
        else if last = ['.'] || last = ['.', '.'] then .ok .fixed
        else
          let name := String.ofList last
          if nameLimit < name.utf8ByteSize then .error .nameTooLong
          else .ok (.named l name (parts.head? = some []))

/-- The tree with an entry put at a location. -/
def put (t : FileTree) (l : Location) (entry : Entry) : FileTree :=
  { t with entries := Entries.put l entry t.entries }

def erase (t : FileTree) (l : Location) : FileTree :=
  { t with entries := t.entries.filter fun entry => entry.1 ≠ l }

/-- The tree without a location and all that lies below it. -/
def eraseBelow (t : FileTree) (l : Location) : FileTree :=
  { t with entries := t.entries.filter fun entry => !l.isSuffixOf entry.1 }

def makeDirectory (t : FileTree) (p : Path) : Except FileError FileTree :=
  match t.slot p with
  | .error e => .error e
  | .ok .fixed => .error .alreadyExists
  | .ok (.named l name _) =>
    if (t.find? (name :: l)).isSome then .error .alreadyExists
    else .ok (t.put (name :: l) .directory)

/-- Make the directory at the head of a chain of ancestors, and first those behind it that are
missing. Directories made before a failure stay. -/
def makeChain (t : FileTree) : List Path → FileTree × Except FileError Unit
  | [] => (t, .error (.other "failed to create whole tree"))
  | p :: rest =>
    if p.isEmpty then (t, .ok ())
    else
      match t.makeDirectory p with
      | .ok t => (t, .ok ())
      | .error .notFound =>
        match makeChain t rest with
        | (t, .error e) => (t, .error e)
        | (t, .ok ()) =>
          match t.makeDirectory p with
          | .ok t => (t, .ok ())
          | .error e => if t.isDirectory p then (t, .ok ()) else (t, .error e)
      | .error e => if t.isDirectory p then (t, .ok ()) else (t, .error e)

@[irreducible] def makeDirectories (t : FileTree) (p : Path) : FileTree × Except FileError Unit :=
  t.makeChain p.ancestors

/-- Create a file that does not exist yet. -/
def createNew (t : FileTree) (p : Path) (content : ByteArray) : Except FileError FileTree :=
  match t.slot p with
  | .error e => .error e
  | .ok .fixed => .error .isDirectory
  | .ok (.named l name slash) =>
    if slash then .error .isDirectory
    else if (t.find? (name :: l)).isSome then .error .alreadyExists
    else .ok (t.put (name :: l) (.file content))

/-- Move a file to another path, replacing a file that lies there. -/
def rename (t : FileTree) (source target : Path) : Except FileError FileTree :=
  match t.resolve source with
  | .error e => .error e
  | .ok here =>
    match t.slot target with
    | .error e => .error e
    | .ok .fixed => .error .busy
    | .ok (.named l name slash) =>
      if slash then .error .notDirectory
      else
        match t.find? here, t.find? (name :: l) with
        | _, some .directory => .error .isDirectory
        | some entry, _ => .ok ((t.erase here).put (name :: l) entry)
        | none, _ => .error .notFound

def removeFile (t : FileTree) (p : Path) : FileTree :=
  match t.resolve p with
  | .ok l => if t.isDirectoryAt l then t else t.erase l
  | .error _ => t

/-- Remove a directory and all that lies below it, if there is one. -/
def removeDirectory (t : FileTree) (p : Path) : FileTree :=
  match t.resolve p with
  | .ok l => if t.isDirectoryAt l then t.eraseBelow l else t
  | .error _ => t

theorem find?_put (t : FileTree) (l k : Location) (entry : Entry) (hl : l ≠ []) :
    (t.put l entry).find? k = if l = k then some entry else t.find? k := by
  unfold find? put
  by_cases hk : k = []
  · subst hk
    simp [hl]
  · simp [hk, Entries.lookup_put, eq_comm (a := k)]

end Scaffold.FileTree
