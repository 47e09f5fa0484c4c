import Mathlib.Data.Set.Card
import Mathlib.Data.Set.Finite.Lattice
import Scaffold.Proofs.OpenApi.Traversal
import Scaffold.Proofs.Path.Text

/-! Expansion comes to an end where references name files beside the document that holds them. The
keys of the expansions under way are all different, and there is a finite set of them: documents
are reached under finitely many paths, because the directory of a file that was reached from a
directory is no longer than that directory. -/
namespace Scaffold.OpenApi

open Expansion

mutual
/-- The references of all objects in a value, also of those inside an object that is a reference
itself. -/
def allReferences : Json → List String
  | .object fields => (referenceOf? fields).toList ++ allReferencesInFields fields
  | .array items => allReferencesInItems items
  | _ => []
termination_by structural value => value

def allReferencesInItems : List Json → List String
  | [] => []
  | item :: rest => allReferences item ++ allReferencesInItems rest
termination_by structural items => items

def allReferencesInFields : List (String × Json) → List String
  | [] => []
  | (_, value) :: rest => allReferences value ++ allReferencesInFields rest
termination_by structural fields => fields
end

theorem allReferences_array (items : List Json) :
    allReferences (.array items) = items.flatMap allReferences := by
  rw [allReferences]
  induction items with
  | nil => rfl
  | cons item rest ih => rw [allReferencesInItems, ih, List.flatMap_cons]

theorem allReferences_object (fields : List (String × Json)) :
    allReferences (.object fields) =
      (referenceOf? fields).toList ++ fields.flatMap fun field => allReferences field.2 := by
  rw [allReferences]
  congr 1
  induction fields with
  | nil => rfl
  | cons field rest ih => rw [allReferencesInFields, ih, List.flatMap_cons]

theorem allReferences_item {items : List Json} {item : Json} (h : item ∈ items) :
    allReferences item ⊆ allReferences (.array items) := by
  rw [allReferences_array]
  exact fun _ hr => List.mem_flatMap.mpr ⟨item, h, hr⟩

theorem allReferences_field {fields : List (String × Json)} {field : String × Json}
    (h : field ∈ fields) : allReferences field.2 ⊆ allReferences (.object fields) := by
  rw [allReferences_object]
  exact fun _ hr => List.mem_append_right _ (List.mem_flatMap.mpr ⟨field, h, hr⟩)

theorem mem_allReferences {fields : List (String × Json)} {reference : String}
    (h : referenceOf? fields = some reference) : reference ∈ allReferences (.object fields) := by
  rw [allReferences_object, h]
  exact List.mem_append_left _ (List.mem_singleton.mpr rfl)

theorem referencesIn_subset (value : Json) : referencesIn value ⊆ allReferences value := by
  induction value using Json.induction with
  | array items ih =>
    rw [referencesIn_array]
    intro reference hr
    obtain ⟨item, hi, hr⟩ := List.mem_flatMap.mp hr
    exact allReferences_item hi (ih item hi hr)
  | object fields ih =>
    cases hf : referenceOf? fields with
    | some reference =>
      rw [referencesIn_of_some hf]
      exact fun _ hr => List.mem_singleton.mp hr ▸ mem_allReferences hf
    | none =>
      rw [referencesIn_of_none hf]
      intro reference hr
      obtain ⟨field, hi, hr⟩ := List.mem_flatMap.mp hr
      exact allReferences_field hi (ih field hi hr)
  | _ => exact List.nil_subset _

theorem allReferences_pointer? {value found : Json} {pointer : String}
    (h : value.pointer? pointer = some found) : allReferences found ⊆ allReferences value := by
  refine Json.pointer?_induct (motive := fun v => allReferences v ⊆ allReferences value)
    ?_ ?_ (List.Subset.refl _) h
  · exact fun items hs item hi => List.Subset.trans (allReferences_item hi) hs
  · exact fun fields hs field hf => List.Subset.trans (allReferences_field hf) hs

section Reached

variable (docs : Documents) (root : Path)

/-- The paths under which documents are reached from a root. -/
inductive ReachablePath : Path → Prop
  | root : ReachablePath root
  | target {path document reference} (hp : ReachablePath path) (hd : docs path = some document)
      (hr : reference ∈ allReferences document) :
      ReachablePath (targetPath path (splitReference reference).1)

/-- The fragments of references in documents that are reached, as they are decoded. -/
def fragments : Set String :=
  {pointer | ∃ path document reference, ReachablePath docs root path ∧
    docs path = some document ∧ reference ∈ allReferences document ∧
    Text.percentDecode (splitReference reference).2 = .ok pointer}

/-- The keys that are made of a path that is reached and a fragment. -/
def expansionKeys : Set String :=
  Set.image2 expansionKey {path | ReachablePath docs root path} (fragments docs root)

/-- References in the documents name files without a directory. -/
def NamesFilesOnly : Prop :=
  ∀ path document, docs path = some document →
    ∀ reference ∈ allReferences document, '/' ∉ (splitReference reference).1.toList

end Reached

/-- The values that are read from the files of a tree, one way or the other, and those that have
been read. -/
def readings (tree : FileTree) (library : Library) : List Json :=
  library.map Prod.snd ++ tree.entries.flatMap fun (_, entry) =>
    match entry with
    | .directory => []
    | .file content =>
      match String.fromUTF8? content with
      | none => []
      | some text => (Json.read text).toOption.toList ++ (Yaml.read .typed text).toOption.toList

theorem mem_readings {tree : FileTree} {library : Library} {path : Path} {document : Json}
    (h : documents tree library path = some document) : document ∈ readings tree library := by
  have mem_outcome {ε : Type} {x : Except ε Json} (hx : x = .ok document) :
      document ∈ x.toOption.toList :=
    Option.mem_toList.mpr (Except.toOption_eq_some_iff.mpr hx)
  rcases documents_eq_some_iff.mp h with hf | ⟨-, text, ht, hd⟩
  · obtain ⟨entry, he, hd⟩ := Option.map_eq_some_iff.mp hf
    exact List.mem_append_left _ (List.mem_map.mpr ⟨entry, List.mem_of_find?_eq_some he, hd⟩)
  · obtain ⟨location, content, hm, hc⟩ := FileTree.exists_of_text? ht
    refine List.mem_append_right _ (List.mem_flatMap.mpr ⟨_, hm, ?_⟩)
    simp only [hc]
    rcases read_of_readDocument hd with hj | hy
    · exact List.mem_append_left _ (mem_outcome hj)
    · exact List.mem_append_right _ (mem_outcome hy)

section Finiteness

variable {docs : Documents} {tree : FileTree} {library : Library} {root : Path}

private def knownReferences (docs : Documents) : Set String :=
  {reference | ∃ path document, docs path = some document ∧ reference ∈ allReferences document}

private theorem finite_knownReferences : (knownReferences (documents tree library)).Finite := by
  refine Set.Finite.subset ((readings tree library).flatMap allReferences).finite_toSet ?_
  rintro reference ⟨path, document, hd, hr⟩
  exact List.mem_flatMap.mpr ⟨document, mem_readings hd, hr⟩

/-- Under these paths documents are reached: the root, and files in the directories whose text
stands at the front of it. -/
private def knownPaths (docs : Documents) (root : Path) : Set Path :=
  insert root (Set.image2
    (fun front reference => Path.join ⟨String.ofList front⟩ ⟨(splitReference reference).1⟩)
    {front | front <+: root.text.toList} (knownReferences docs))

private theorem finite_knownPaths : (knownPaths (documents tree library) root).Finite := by
  refine Set.Finite.insert _ (Set.Finite.image2 _ ?_ finite_knownReferences)
  refine Set.Finite.subset root.text.toList.inits.finite_toSet fun front hf => ?_
  exact (List.mem_inits _ _).mpr hf

private theorem join_mem_knownPaths {directory : Path} {reference : String}
    (hd : directory.text.toList <+: root.text.toList) (hr : reference ∈ knownReferences docs) :
    directory.join ⟨(splitReference reference).1⟩ ∈ knownPaths docs root := by
  refine Set.mem_insert_of_mem _ ⟨directory.text.toList, hd, reference, hr, ?_⟩
  simp only [String.ofList_toList]

/-- The directory of a known path stands at the front of the root. -/
private theorem parent_prefix_of_mem_knownPaths (hn : NamesFilesOnly docs) {path directory : Path}
    (hp : path ∈ knownPaths docs root) (hd : path.parent? = some directory) :
    directory.text.toList <+: root.text.toList := by
  rcases Set.mem_insert_iff.mp hp with rfl | ⟨front, hf, reference, ⟨p, document, hq, hr⟩, rfl⟩
  · exact Path.parent?_text_isPrefix hd
  · have hpre := Path.parent?_join_isPrefix (hn p document hq reference hr) hd
    rw [String.toList_ofList] at hpre
    exact hpre.trans hf

private theorem mem_knownPaths (hn : NamesFilesOnly docs) {path : Path}
    (h : ReachablePath docs root path) : path ∈ knownPaths docs root := by
  -- Only the front of the root can be the directory of a path, however long the chain to it.
  induction h with
  | root => exact Set.mem_insert root _
  | @target path document reference hp hd hr ih =>
    have hk : reference ∈ knownReferences docs := ⟨path, document, hd, hr⟩
    unfold targetPath
    split
    · exact ih
    · cases hq : path.parent? with
      | some directory => exact join_mem_knownPaths (parent_prefix_of_mem_knownPaths hn ih hq) hk
      | none =>
        rw [← Path.empty_join ⟨(splitReference reference).1⟩]
        exact join_mem_knownPaths List.nil_prefix hk

private theorem finite_fragments : (fragments (documents tree library) root).Finite := by
  have hk : (knownReferences (documents tree library)).Finite := finite_knownReferences
  refine Set.Finite.subset (hk.image fun reference =>
    ((Text.percentDecode (splitReference reference).2).toOption).getD "") ?_
  rintro pointer ⟨path, document, reference, -, hd, hr, hp⟩
  exact ⟨reference, ⟨path, document, hd, hr⟩, by simp only [hp]; rfl⟩

/-- The keys that are made of a path that is reached and a fragment are finitely many. -/
theorem finite_expansionKeys (hn : NamesFilesOnly (documents tree library)) :
    (expansionKeys (documents tree library) root).Finite :=
  Set.Finite.image2 _ (finite_knownPaths.subset fun _ => mem_knownPaths hn) finite_fragments

end Finiteness

/-- The keys of the expansions under way are different, and they are among the known ones. -/
structure KeysSound (docs : Documents) (root : Path) (active : List String) : Prop where
  nodup : active.Nodup
  known : ∀ key ∈ active, key ∈ expansionKeys docs root

/-- A value that is expanded is part of a document that is reached. -/
structure Part (docs : Documents) (root path : Path) (value : Json) : Prop where
  reached : ReachablePath docs root path
  within : ∃ document, docs path = some document ∧ allReferences value ⊆ allReferences document

noncomputable instance KeysSound.decidable (docs : Documents) (root : Path) :
    DecidablePred (KeysSound docs root) :=
  fun _ => Classical.propDecidable _

/-- Expansion that gives up where, on entering a node, the keys under way break a condition. -/
def guardedReference (tree : FileTree) (holds : List String → Prop) [DecidablePred holds] :
    (depth : Nat) → (active : List String) → Follow
  | 0, _ => fun _ _ _ _ => none
  | depth + 1, active => fun holder reference path library =>
    match designated path reference with
    | .error e => some (.error (.badFragment reference e), library)
    | .ok node =>
      if node.key ∈ active then some (.ok holder, library)
      else if holds (node.key :: active) then
        visit tree node reference library
          (expandValue (guardedReference tree holds depth (node.key :: active)) node.path)
      else none

/-- Expand all references of the document at a path, as long as the keys under way meet a
condition. -/
def guarded (tree : FileTree) (holds : List String → Prop) [DecidablePred holds] (depth : Nat)
    (path : Path) (library : Library) : Expansion Json :=
  visit tree ⟨path, ""⟩ "" library (expandValue (guardedReference tree holds depth []) path)

section KeysUnderWay

variable {docs : Documents} {tree : FileTree} {root path : Path} {value : Json}
  {active : List String}

theorem KeysSound.length_le (h : KeysSound docs root active)
    (hf : (expansionKeys docs root).Finite) : active.length ≤ (expansionKeys docs root).ncard := by
  have hs : (active.toFinset : Set String) ⊆ expansionKeys docs root :=
    fun key hk => h.known key (List.mem_toFinset.mp hk)
  rw [← List.toFinset_card_of_nodup h.nodup, ← Set.ncard_coe_finset]
  exact Set.ncard_le_ncard hs hf

theorem Part.whole {document : Json} (h : docs root = some document) :
    Part docs root root document :=
  ⟨.root, document, h, List.Subset.refl _⟩

/-- The node of a reference that is followed has a key that was not under way, and its value is
part of a document that is reached. -/
theorem KeysSound.enter (h : KeysSound docs root active) (hp : Part docs root path value)
    {reference : String} (hr : reference ∈ referencesIn value) {node : Node}
    (hn : designated path reference = .ok node) (ha : node.key ∉ active) :
    KeysSound docs root (node.key :: active) ∧
      ∀ target, node.value? docs = some target → Part docs root node.path target := by
  obtain ⟨document, hd, hs⟩ := hp.within
  have hmem : reference ∈ allReferences document := hs (referencesIn_subset value hr)
  have hq : ReachablePath docs root node.path :=
    path_of_designated hn ▸ .target hp.reached hd hmem
  constructor
  · refine ⟨List.nodup_cons.mpr ⟨ha, h.nodup⟩, List.forall_mem_cons.mpr ⟨?_, h.known⟩⟩
    exact ⟨node.path, hq, node.pointer,
      ⟨path, document, reference, hp.reached, hd, hmem, pointer_of_designated hn⟩, rfl⟩
  · intro target ht
    obtain ⟨found, hf, hv⟩ := Option.bind_eq_some_iff.mp ht
    exact ⟨hq, found, hf, allReferences_pointer? hv⟩

private def perhapsGuarded (tree : FileTree) (holds : List String → Prop) [DecidablePred holds]
    (depth : Nat) (active : List String) : Bool → Follow
  | true => guardedReference tree holds depth active
  | false => expandReference tree depth active

/-- Where the guard holds on entering a node, it makes no difference. -/
private theorem perhapsGuarded_succ {holds : List String → Prop} [DecidablePred holds]
    {reference : String}
    (h : ∀ node, designated path reference = .ok node → node.key ∉ active →
      holds (node.key :: active))
    (depth : Nat) (holder : Json) (library : Library) (b : Bool) :
    perhapsGuarded tree holds (depth + 1) active b holder reference path library =
      match designated path reference with
      | .error e => some (.error (.badFragment reference e), library)
      | .ok node =>
        if node.key ∈ active then some (.ok holder, library)
        else
          visit tree node reference library
            (expandValue (perhapsGuarded tree holds depth (node.key :: active) b) node.path) := by
  cases b with
  | false => exact expandReference_succ tree depth active holder reference path library
  | true =>
    simp only [perhapsGuarded, guardedReference]
    cases hn : designated path reference with
    | error e => rfl
    | ok node =>
      by_cases ha : node.key ∈ active
      · simp only [if_pos ha]
      · simp only [if_neg ha, if_pos (h node hn ha)]

private theorem settles_guarded (depth : Nat) (h : KeysSound docs root active)
    (hp : Part docs root path value) {library : Library} (hd : documents tree library = docs) :
    Settles True (documents tree · = docs) fun b =>
      expandValue (perhapsGuarded tree (KeysSound docs root) depth active b) path value
        library := by
  induction depth generalizing active path value library with
  | zero =>
    refine settles_expandValue (fun reference hr holder library hd => ?_) hd
    exact ⟨none, fun b => by cases b <;> rfl, fun _ => trivial, nofun⟩
  | succ depth ih =>
    refine settles_expandValue (fun reference hr holder library hd => ?_) hd
    simp only [perhapsGuarded_succ fun node hn ha => (h.enter hp hr hn ha).1]
    refine settles_follow (fun node hn ha target ht library hd => ?_) hd
    obtain ⟨hk, hv⟩ := h.enter hp hr hn ha
    exact ih hk (hv target ht) hd

private theorem settles_of_keysSound (hf : (expansionKeys docs root).Finite) (slack : Nat)
    (hs : active.length + slack = (expansionKeys docs root).ncard + 1)
    (h : KeysSound docs root active) (hp : Part docs root path value) {library : Library}
    (hd : documents tree library = docs) :
    Settles False (documents tree · = docs) fun more : Nat =>
      expandValue (expandReference tree (slack + more) active) path value library := by
  -- Each node that is entered takes one key from the slack, and there are not enough keys to use
  -- it up.
  induction slack generalizing active path value library with
  | zero =>
    have hle := h.length_le hf
    omega
  | succ slack ih =>
    refine settles_expandValue (fun reference hr holder library hd => ?_) hd
    simp only [Nat.add_right_comm slack 1, expandReference_succ]
    refine settles_follow (fun node hn ha target ht library hd => ?_) hd
    obtain ⟨hk, hv⟩ := h.enter hp hr hn ha
    have hl : (node.key :: active).length + slack = (expansionKeys docs root).ncard + 1 := by
      rw [List.length_cons]
      omega
    exact ih hl hk (hv target ht) hd

end KeysUnderWay

private theorem keysSound_nil (docs : Documents) (root : Path) : KeysSound docs root [] :=
  ⟨List.nodup_nil, List.forall_mem_nil _⟩

private theorem part_of_value? {docs : Documents} {root : Path} {value : Json}
    (h : Node.value? docs ⟨root, ""⟩ = some value) : Part docs root root value := by
  obtain ⟨document, hd, hv⟩ := Option.bind_eq_some_iff.mp h
  obtain rfl := Option.some.inj hv
  exact .whole hd

/-- Where references name files without a directory there are finitely many keys, and expanding a
document comes to an end. At every depth a guard that gives up as soon as the keys under way are
not different, or not among those, would change nothing. Beyond a depth of the number of keys there
is an outcome, and only one. -/
theorem dereference_terminates (tree : FileTree) (root : Path) (library : Library)
    (h : NamesFilesOnly (documents tree library)) :
    (expansionKeys (documents tree library) root).Finite ∧
      (∀ active, KeysSound (documents tree library) root active →
        active.length ≤ (expansionKeys (documents tree library) root).ncard) ∧
      (∀ depth, guarded tree (KeysSound (documents tree library) root) depth root library =
        dereference tree depth root library) ∧
      ∃ outcome, ∀ depth > (expansionKeys (documents tree library) root).ncard,
        dereference tree depth root library = some outcome := by
  have hf : (expansionKeys (documents tree library) root).Finite := finite_expansionKeys h
  have hk := keysSound_nil (documents tree library) root
  refine ⟨hf, fun active ha => ha.length_le hf, fun depth => ?_, ?_⟩
  · have hg : ∀ value, Node.value? (documents tree library) ⟨root, ""⟩ = some value → ∀ after,
        documents tree after = documents tree library →
          Settles True (documents tree · = documents tree library) fun b =>
            expandValue (perhapsGuarded tree (KeysSound (documents tree library) root) depth [] b)
              root value after :=
      fun value hv after hd => settles_guarded depth hk (part_of_value? hv) hd
    obtain ⟨outcome, hall, -⟩ := settles_visit hg rfl
    rw [dereference_eq_visit]
    exact (hall true).trans (hall false).symm
  · have hv : ∀ value, Node.value? (documents tree library) ⟨root, ""⟩ = some value → ∀ after,
        documents tree after = documents tree library →
          Settles False (documents tree · = documents tree library) fun more : Nat =>
            expandValue (expandReference tree
              ((expansionKeys (documents tree library) root).ncard + 1 + more) []) root value
              after :=
      fun value hv after hd =>
        settles_of_keysSound hf _ (Nat.zero_add _) hk (part_of_value? hv) hd
    obtain ⟨outcome, hall, hn, -⟩ := settles_visit hv rfl
    cases outcome with
    | none => exact (hn rfl).elim
    | some outcome =>
      refine ⟨outcome, fun depth hd => ?_⟩
      have ho := hall (depth - ((expansionKeys (documents tree library) root).ncard + 1))
      dsimp only at ho
      rw [Nat.add_sub_cancel' hd] at ho
      rw [dereference_eq_visit]
      exact ho

/-- Two documents that refer to each other, and one of them to itself. -/
def mutualTree : FileTree where
  current := []
  entries := [(["api"], .directory),
    (["main.yml", "api"], .file "todo:\n  $ref: other.yml#/user\nself:\n  $ref: '#'\n".toUTF8),
    (["other.yml", "api"], .file "user:\n  todo:\n    $ref: main.yml#/todo\n".toUTF8)]

private theorem namesFilesOnly_mutualTree : NamesFilesOnly (documents mutualTree []) := by
  have hr : ∀ document ∈ readings mutualTree [], ∀ reference ∈ allReferences document,
      '/' ∉ (splitReference reference).1.toList := by decide +kernel
  exact fun path document hd => hr document (mem_readings hd)

theorem dereference_mutualTree :
    NamesFilesOnly (documents mutualTree []) ∧
      (expansionKeys (documents mutualTree []) ⟨"api/main.yml"⟩).Finite ∧
      ∃ outcome, ∀ depth > (expansionKeys (documents mutualTree []) ⟨"api/main.yml"⟩).ncard,
        dereference mutualTree depth ⟨"api/main.yml"⟩ [] = some outcome :=
  have h := dereference_terminates mutualTree ⟨"api/main.yml"⟩ [] namesFilesOnly_mutualTree
  ⟨namesFilesOnly_mutualTree, h.1, h.2.2.2⟩

end Scaffold.OpenApi
