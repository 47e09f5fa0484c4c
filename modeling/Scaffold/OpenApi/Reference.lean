import Scaffold.FileTree.Basic
import Scaffold.Json.Pointer
import Scaffold.OpenApi.Document
import Scaffold.Text.Percent

/-! References between documents. An object with a text under `$ref` gives way to what the text
designates: a document, relative to the one that holds the reference, and a pointer into it. A
reference that leads back into its own expansion is left as it is. -/
namespace Scaffold.OpenApi

/-- Why references cannot be expanded. -/
inductive ReferenceError where
  | badFragment (reference : String) (cause : Text.EncodingError)
  | unresolved (reference : String)
  | unreadable (path : Path) (cause : FileError)
  | malformed (cause : DocumentError)
  /-- Expansions are nested too deep. -/
  | tooDeep
  deriving DecidableEq, Repr

def ReferenceError.message : ReferenceError → String
  | .badFragment reference cause => s!"Invalid reference {reference}: {cause.message}"
  | .unresolved reference => s!"Unable to resolve reference: {reference}"
  | .unreadable path cause => s!"Failed to read referenced document {path.text}: {cause.message}"
  | .malformed cause => cause.message
  | .tooDeep => "References are nested too deep"

/-- Documents that have been read, by path. -/
abbrev Library := List (Path × Json)

namespace Library

/-- The document at a path; paths are told apart by their components. -/
def find? (library : Library) (path : Path) : Option Json :=
  (List.find? (fun entry => entry.1.same path) library).map Prod.snd

/-- The document at a path, read from the tree unless it has been read before. -/
def fetch (library : Library) (tree : FileTree) (path : Path) :
    Except ReferenceError Json × Library :=
  match library.find? path with
  | some document => (.ok document, library)
  | none =>
    match tree.readText path with
    | .error e => (.error (.unreadable path e), library)
    | .ok content =>
      match readDocument path content with
      | .error e => (.error (.malformed e), library)
      | .ok document => (.ok document, library ++ [(path, document)])

end Library

def referenceOf? (fields : List (String × Json)) : Option String :=
  (fields.lookup "$ref").bind Json.text?

/-- The file and the fragment of a reference, before and behind the first hash. -/
def splitReference (reference : String) : String × String :=
  let cs := reference.toList
  (String.ofList (cs.takeWhile (· ≠ '#')), String.ofList ((cs.dropWhile (· ≠ '#')).drop 1))

/-- The document that the file of a reference names, seen from the document that holds it. -/
def targetPath (path : Path) (file : String) : Path :=
  if file.isEmpty then path
  else
    match path.parent? with
    | some directory => directory.join ⟨file⟩
    | none => ⟨file⟩

/-- The key by which an expansion that is under way is known. -/
def expansionKey (path : Path) (pointer : String) : String := path.text ++ "#" ++ pointer

/-- The outcome of expanding references, with the documents read by then; none when expansions
are nested deeper than was allowed. -/
abbrev Expansion (α : Type) := Option (Except ReferenceError α × Library)

/-- How a reference is expanded: the object that it is, its text, and the path of its document. -/
abbrev Follow := Json → String → Path → Library → Expansion Json

mutual
/-- Expand all references in a value of the document at `path`. -/
def expandValue (follow : Follow) (path : Path) : Json → Library → Expansion Json
  | .object fields, library =>
    match referenceOf? fields with
    | some reference => follow (.object fields) reference path library
    | none =>
      match expandFields follow path fields library with
      | none => none
      | some (.error e, library) => some (.error e, library)
      | some (.ok fields, library) => some (.ok (.object fields), library)
  | .array items, library =>
    match expandItems follow path items library with
    | none => none
    | some (.error e, library) => some (.error e, library)
    | some (.ok items, library) => some (.ok (.array items), library)
  | value, library => some (.ok value, library)
termination_by structural value => value

def expandItems (follow : Follow) (path : Path) : List Json → Library → Expansion (List Json)
  | [], library => some (.ok [], library)
  | item :: rest, library =>
    match expandValue follow path item library with
    | none => none
    | some (.error e, library) => some (.error e, library)
    | some (.ok item, library) =>
      match expandItems follow path rest library with
      | none => none
      | some (.error e, library) => some (.error e, library)
      | some (.ok items, library) => some (.ok (item :: items), library)
termination_by structural items => items

def expandFields (follow : Follow) (path : Path) :
    List (String × Json) → Library → Expansion (List (String × Json))
  | [], library => some (.ok [], library)
  | (key, value) :: rest, library =>
    match expandValue follow path value library with
    | none => none
    | some (.error e, library) => some (.error e, library)
    | some (.ok value, library) =>
      match expandFields follow path rest library with
      | none => none
      | some (.error e, library) => some (.error e, library)
      | some (.ok fields, library) => some (.ok ((key, value) :: fields), library)
termination_by structural fields => fields
end

/-- Expand a reference, with the keys of the expansions that are under way. At most `depth`
expansions lie inside each other. -/
def expandReference (tree : FileTree) : (depth : Nat) → (active : List String) → Follow
  | 0, _ => fun _ _ _ _ => none
  | depth + 1, active => fun holder reference path library =>
    let (file, fragment) := splitReference reference
    match Text.percentDecode fragment with
    | .error e => some (.error (.badFragment reference e), library)
    | .ok pointer =>
      let target := targetPath path file
      let key := expansionKey target pointer
      if active.contains key then some (.ok holder, library)
      else
        match library.fetch tree target with
        | (.error e, library) => some (.error e, library)
        | (.ok document, library) =>
          match document.pointer? pointer with
          | none => some (.error (.unresolved reference), library)
          | some value =>
            expandValue (expandReference tree depth (key :: active)) target value library

def dereference (tree : FileTree) (depth : Nat) (path : Path) (library : Library) :
    Expansion Json :=
  match library.fetch tree path with
  | (.error e, library) => some (.error e, library)
  | (.ok document, library) => expandValue (expandReference tree depth []) path document library

/-- How many expansions may lie inside each other before a document is given up. -/
def nestingLimit : Nat := 1000000

/-- Expand all references of the document at a path, within the nesting limit. -/
def resolve (tree : FileTree) (path : Path) (library : Library) :
    Except ReferenceError Json × Library :=
  (dereference tree nestingLimit path library).getD (.error .tooDeep, library)

end Scaffold.OpenApi
