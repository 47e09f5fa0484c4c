import Mathlib.Data.List.Basic
import Scaffold.OpenApi.Reference
import Scaffold.Proofs.Except
import Scaffold.Proofs.FileTree.Spelling
import Scaffold.Proofs.OpenApi.Document

/-! The graph of references. A node is a document with a pointer into it, and leads to the nodes
that the references in its value designate. What a path designates does not change while documents
are read, so that the graph stands still during a run. -/
namespace Scaffold.OpenApi

mutual
/-- The references that an expansion of a value comes to, in document order. -/
def referencesIn : Json → List String
  | .object fields =>
    match referenceOf? fields with
    | some reference => [reference]
    | none => referencesInFields fields
  | .array items => referencesInItems items
  | _ => []
termination_by structural value => value

def referencesInItems : List Json → List String
  | [] => []
  | item :: rest => referencesIn item ++ referencesInItems rest
termination_by structural items => items

def referencesInFields : List (String × Json) → List String
  | [] => []
  | (_, value) :: rest => referencesIn value ++ referencesInFields rest
termination_by structural fields => fields
end

theorem referencesIn_array (items : List Json) :
    referencesIn (.array items) = items.flatMap referencesIn := by
  rw [referencesIn]
  induction items with
  | nil => rfl
  | cons item rest ih => rw [referencesInItems, ih, List.flatMap_cons]

theorem referencesIn_of_some {fields : List (String × Json)} {reference : String}
    (h : referenceOf? fields = some reference) : referencesIn (.object fields) = [reference] := by
  rw [referencesIn, h]

theorem referencesIn_of_none {fields : List (String × Json)} (h : referenceOf? fields = none) :
    referencesIn (.object fields) = fields.flatMap fun field => referencesIn field.2 := by
  rw [referencesIn, h]
  dsimp only
  clear h
  induction fields with
  | nil => rfl
  | cons field rest ih => rw [referencesInFields, ih, List.flatMap_cons]

theorem referencesIn_item {items : List Json} {item : Json} (h : item ∈ items) :
    referencesIn item ⊆ referencesIn (.array items) := by
  rw [referencesIn_array]
  exact fun _ hr => List.mem_flatMap.mpr ⟨item, h, hr⟩

theorem referencesIn_field {fields : List (String × Json)} (hf : referenceOf? fields = none)
    {field : String × Json} (h : field ∈ fields) :
    referencesIn field.2 ⊆ referencesIn (.object fields) := by
  rw [referencesIn_of_none hf]
  exact fun _ hr => List.mem_flatMap.mpr ⟨field, h, hr⟩

structure Node where
  path : Path
  pointer : String
  deriving DecidableEq, Repr

/-- The key by which the expansion of a node is known while it is under way. -/
def Node.key (n : Node) : String := expansionKey n.path n.pointer

/-- The node that a reference in the document at a path designates. -/
def designated (path : Path) (reference : String) : Except Text.EncodingError Node :=
  (Text.percentDecode (splitReference reference).2).map fun pointer =>
    ⟨targetPath path (splitReference reference).1, pointer⟩

theorem path_of_designated {path : Path} {reference : String} {n : Node}
    (h : designated path reference = .ok n) :
    n.path = targetPath path (splitReference reference).1 := by
  unfold designated at h
  cases hp : Text.percentDecode (splitReference reference).2 with
  | error e => rw [hp] at h; cases h
  | ok pointer => rw [hp] at h; exact congrArg Node.path (Except.ok.inj h).symm

theorem pointer_of_designated {path : Path} {reference : String} {n : Node}
    (h : designated path reference = .ok n) :
    Text.percentDecode (splitReference reference).2 = .ok n.pointer := by
  unfold designated at h
  cases hp : Text.percentDecode (splitReference reference).2 with
  | error e => rw [hp] at h; cases h
  | ok pointer => rw [hp] at h; exact congrArg (Except.ok ∘ Node.pointer) (Except.ok.inj h)

/-- The document that each path designates. -/
abbrev Documents := Path → Option Json

/-- The documents that have been read, and those of the files in the tree. How a path is spelled
makes no difference. -/
def documents (tree : FileTree) (library : Library) : Documents := fun path =>
  match library.find? path with
  | some document => some document
  | none => (tree.text? path).bind fun text => (readDocument path text).toOption

theorem documents_eq_some_iff {tree : FileTree} {library : Library} {path : Path}
    {document : Json} :
    documents tree library path = some document ↔
      library.find? path = some document ∨
        library.find? path = none ∧ ∃ text, tree.text? path = some text ∧
          readDocument path text = .ok document := by
  unfold documents
  cases library.find? path with
  | some found => simp
  | none => simp [Option.bind_eq_some_iff, Except.toOption_eq_some_iff]

namespace Node

/-- The value at a node. -/
def value? (docs : Documents) (n : Node) : Option Json := (docs n.path).bind (·.pointer? n.pointer)

/-- The nodes that the references in the value of a node designate. -/
def successors (docs : Documents) (n : Node) : List Node :=
  match n.value? docs with
  | some value => (referencesIn value).filterMap fun r => (designated n.path r).toOption
  | none => []

/-- One reference leads from a node to the next. -/
def Leads (docs : Documents) (n m : Node) : Prop := m ∈ n.successors docs

theorem leads_of_mem {docs : Documents} {n m : Node} {value : Json} {reference : String}
    (hv : n.value? docs = some value) (hr : reference ∈ referencesIn value)
    (hm : designated n.path reference = .ok m) : n.Leads docs m := by
  rw [Leads, successors, hv]
  exact List.mem_filterMap.mpr ⟨reference, hr, by rw [hm]; rfl⟩

theorem exists_of_leads {docs : Documents} {n m : Node} (h : n.Leads docs m) :
    ∃ value reference, n.value? docs = some value ∧ reference ∈ referencesIn value ∧
      designated n.path reference = .ok m := by
  unfold Leads successors at h
  split at h
  · next value hv =>
    obtain ⟨reference, hr, hm⟩ := List.mem_filterMap.mp h
    exact ⟨value, reference, hv, hr, Except.toOption_eq_some_iff.mp hm⟩
  · cases h

end Node

namespace Library

theorem find?_of_same {library : Library} {p q : Path} (h : p.same q = true) :
    library.find? p = library.find? q := by
  have hf : (fun entry : Path × Json => entry.1.same p) = fun entry => entry.1.same q := by
    funext entry
    rw [Bool.eq_iff_iff]
    exact ⟨fun k => Path.same_trans k h, fun k => Path.same_trans k (Path.same_symm h)⟩
  unfold find?
  rw [hf]

theorem find?_append_single (library : Library) (p q : Path) (document : Json) :
    find? (library ++ [(p, document)]) q =
      (library.find? q).or (if p.same q then some document else none) := by
  unfold find?
  rw [List.find?_append, Option.map_or]
  congr 1
  by_cases h : p.same q <;> simp [h]

end Library

theorem documents_of_same {tree : FileTree} {library : Library} {p q : Path}
    (h : p.same q = true) : documents tree library p = documents tree library q := by
  unfold documents
  rw [Library.find?_of_same h, FileTree.text?_of_same h]
  simp only [readDocument_of_same h]

section Fetching

variable {tree : FileTree} {library library' : Library} {path : Path} {document : Json}
  {e : ReferenceError}

/-- A document is fetched when it is in the library, or when it can be read; then it is put behind
the others. -/
theorem fetch_eq_ok_iff :
    library.fetch tree path = (.ok document, library') ↔
      (library.find? path = some document ∧ library' = library) ∨
        library.find? path = none ∧ ∃ content, tree.readText path = .ok content ∧
          readDocument path content = .ok document ∧ library' = library ++ [(path, document)] := by
  unfold Library.fetch
  cases hf : library.find? path with
  | some found => simp [eq_comm]
  | none =>
    cases hr : tree.readText path with
    | error e => simp
    | ok content =>
      cases hd : readDocument path content with
      | error e => simp [hd]
      | ok found =>
        simp only [Prod.mk.injEq, Except.ok.injEq, reduceCtorEq, false_and, true_and, false_or,
          exists_eq_left', hd]
        exact and_congr_right fun he => by rw [he, eq_comm]

/-- No document is fetched when it is not in the library and its file cannot be read, or holds none;
the library stays. -/
theorem fetch_eq_error_iff :
    library.fetch tree path = (.error e, library') ↔
      library' = library ∧ library.find? path = none ∧
        ((∃ cause, tree.readText path = .error cause ∧ e = .unreadable path cause) ∨
          ∃ content cause, tree.readText path = .ok content ∧
            readDocument path content = .error cause ∧ e = .malformed cause) := by
  unfold Library.fetch
  cases hf : library.find? path with
  | some found => simp
  | none =>
    cases hr : tree.readText path with
    | error cause => simp [eq_comm, and_comm]
    | ok content => cases hd : readDocument path content <;> simp [hd, eq_comm, and_comm]

/-- What is fetched is the document that the path designates, and fetching it changes none. -/
theorem documents_of_fetch (h : library.fetch tree path = (.ok document, library')) :
    documents tree library path = some document ∧
      documents tree library' = documents tree library := by
  rcases fetch_eq_ok_iff.mp h with ⟨hf, rfl⟩ | ⟨hf, content, hr, hd, rfl⟩
  · exact ⟨documents_eq_some_iff.mpr (.inl hf), rfl⟩
  · have hdoc : documents tree library path = some document :=
      documents_eq_some_iff.mpr (.inr ⟨hf, content, FileTree.text?_of_readText hr, hd⟩)
    refine ⟨hdoc, ?_⟩
    funext q
    by_cases hq : path.same q
    · rw [← documents_of_same hq, ← documents_of_same hq, hdoc]
      simp only [documents, Library.find?_append_single, hf, Path.same_refl, if_true,
        Option.none_or]
    · unfold documents
      rw [Library.find?_append_single, if_neg hq, Option.or_none]

end Fetching

/-- The value that is found at a node, once the document has been fetched. -/
theorem value?_of_fetch {tree : FileTree} {library library' : Library} {n : Node} {document : Json}
    (h : library.fetch tree n.path = (.ok document, library')) :
    n.value? (documents tree library) = document.pointer? n.pointer := by
  rw [Node.value?, (documents_of_fetch h).1, Option.bind_some]

end Scaffold.OpenApi
