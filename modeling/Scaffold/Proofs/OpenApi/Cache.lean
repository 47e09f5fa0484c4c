import Scaffold.Proofs.FileTree.Joining
import Scaffold.Proofs.OpenApi.Termination

/-! Which documents have been read makes no difference to an expansion. They are found by the
components of a path, and read by its text: the two agree where the text leads to a file. -/
namespace Scaffold.OpenApi

variable {α β : Type} {tree : FileTree} {docs : Documents} {path : Path} {value : Json}
  {active : List String}

/-- Each document is what reading the file at its path gives. -/
def Library.Consistent (tree : FileTree) (library : Library) : Prop :=
  ∀ entry ∈ library, ∃ content, tree.readText entry.1 = .ok content ∧
    readDocument entry.1 content = .ok entry.2

/-- A run has one outcome from all consistent libraries, and leaves a consistent one. -/
def Blind (tree : FileTree) (run : Library → Expansion α) : Prop :=
  ∃ outcome, ∀ library : Library, library.Consistent tree →
    (run library).map Prod.fst = outcome ∧ ∀ x, run library = some x → x.2.Consistent tree

/-- The file of a reference does not end in a slash, or in a slash and a dot. -/
def EndsInName (reference : String) : Prop :=
  ¬['/'] <:+ (splitReference reference).1.toList ∧
    ¬['/', '.'] <:+ (splitReference reference).1.toList

instance (reference : String) : Decidable (EndsInName reference) :=
  inferInstanceAs (Decidable (_ ∧ _))

/-- The nodes that the expansion of a value enters while some keys are being expanded. -/
inductive Enters (docs : Documents) : List String → Path → Json → Node → Prop
  | here {active path value reference node} (hr : reference ∈ referencesIn value)
      (hn : designated path reference = .ok node) (ha : node.key ∉ active) :
      Enters docs active path value node
  | further {active path value reference next target node} (hr : reference ∈ referencesIn value)
      (hn : designated path reference = .ok next) (ha : next.key ∉ active)
      (hv : next.value? docs = some target)
      (h : Enters docs (next.key :: active) next.path target node) :
      Enters docs active path value node

/-- Each node that is entered and lies in a document has a path that is not too long. -/
def EntersFit (docs : Documents) (active : List String) (path : Path) (value : Json) : Prop :=
  ∀ node, Enters docs active path value node → (docs node.path).isSome →
    node.path.text.utf8ByteSize ≤ FileTree.pathLimit

theorem EntersFit.of_subset {part : Json} (h : EntersFit docs active path value)
    (hs : referencesIn part ⊆ referencesIn value) : EntersFit docs active path part := by
  intro node he
  apply h node
  cases he with
  | here hr hn ha => exact .here (hs hr) hn ha
  | further hr hn ha hv he => exact .further (hs hr) hn ha hv he

theorem Library.consistent_nil (tree : FileTree) : Library.Consistent tree [] :=
  List.forall_mem_nil _

@[simp] theorem Library.find?_nil (path : Path) : Library.find? [] path = none := rfl

theorem documents_of_readText {content : String} {document : Json}
    (hc : tree.readText path = .ok content) (hd : readDocument path content = .ok document) :
    documents tree [] path = some document :=
  documents_eq_some_iff.mpr (.inr ⟨rfl, content, FileTree.text?_of_readText hc, hd⟩)

theorem documents_of_consistent {library : Library} (h : library.Consistent tree) :
    documents tree library = documents tree [] := by
  funext q
  cases hf : library.find? q with
  | none => simp only [documents, hf, Library.find?_nil]
  | some document =>
    obtain ⟨entry, he, rfl⟩ := Option.map_eq_some_iff.mp hf
    obtain ⟨content, hc, hd⟩ := h entry (List.mem_of_find?_eq_some he)
    have hs : entry.1.same q = true :=
      List.find?_some (p := fun entry : Path × Json => entry.1.same q) he
    rw [← documents_of_same hs, ← documents_of_same hs, documents_of_readText hc hd]
    simp only [documents, Library.find?_of_same hs, hf]

/-- A path that designates a document can be read as it is written. -/
def Opens (tree : FileTree) (path : Path) : Prop :=
  (documents tree [] path).isSome → ∃ content, tree.readText path = .ok content

/-- The document at such a path is the same, from whatever library. -/
theorem fetch_of_opens {library : Library} (ho : Opens tree path) (h : library.Consistent tree) :
    (library.fetch tree path).1 = (Library.fetch [] tree path).1 ∧
      (library.fetch tree path).2.Consistent tree := by
  cases hf : library.find? path with
  | some document =>
    have hdoc : documents tree [] path = some document := by
      rw [← documents_of_consistent h]
      simp only [documents, hf]
    obtain ⟨content, hc⟩ := ho (by rw [hdoc]; rfl)
    have hread : readDocument path content = .ok document := by
      rcases documents_eq_some_iff.mp hdoc with hf | ⟨-, text, ht, hd⟩
      · cases hf
      · obtain rfl := Option.some.inj ((FileTree.text?_of_readText hc).symm.trans ht)
        exact hd
    have hhit : library.fetch tree path = (.ok document, library) :=
      fetch_eq_ok_iff.mpr (.inl ⟨hf, rfl⟩)
    have hmiss : Library.fetch [] tree path = (.ok document, [(path, document)]) :=
      fetch_eq_ok_iff.mpr (.inr ⟨rfl, content, hc, hread, rfl⟩)
    rw [hhit, hmiss]
    exact ⟨rfl, h⟩
  | none =>
    simp only [Library.fetch, hf, Library.find?_nil]
    cases hc : tree.readText path with
    | error e => exact ⟨rfl, h⟩
    | ok content =>
      simp only
      cases hd : readDocument path content with
      | error e => exact ⟨rfl, h⟩
      | ok document =>
        refine ⟨rfl, List.forall_mem_append.mpr ⟨h, ?_⟩⟩
        exact List.forall_mem_singleton.mpr ⟨content, hc, hd⟩

private theorem exists_text_of_documents (h : (documents tree [] path).isSome) :
    ∃ text l found, tree.text? path = some text ∧ tree.place? path = some l ∧
      tree.find? l = some (.file found) := by
  obtain ⟨document, hd⟩ := Option.isSome_iff_exists.mp h
  obtain ⟨text, ht, -⟩ := Option.bind_eq_some_iff.mp hd
  obtain ⟨-, l, found, hl, hf, -⟩ := FileTree.text?_eq_some_iff.mp ht
  exact ⟨text, l, found, ht, hl, hf⟩

private theorem eq_or_isSuffix_of_splitOn {cs last : List Char} {front : List (List Char)}
    (h : cs.splitOn '/' = front ++ [last]) : cs = last ∨ '/' :: last <:+ cs := by
  have hj : ['/'].intercalate (cs.splitOn '/') = cs := List.intercalate_splitOn '/'
  rw [h] at hj
  by_cases hf : front = []
  · subst hf
    rw [List.nil_append, List.intercalate_singleton] at hj
    exact .inl hj.symm
  · rw [Text.intercalate_append hf (List.cons_ne_nil _ _), List.intercalate_singleton] at hj
    exact .inr ⟨_, hj⟩

/-- The last part of a target is that of the file by which it is named. -/
private theorem splitOn_targetPath (path : Path) {file : String} (hf : file.isEmpty = false) :
    ∃ front, (targetPath path file).text.toList.splitOn '/' =
      front ++ file.toList.splitOn '/' := by
  unfold targetPath
  rw [if_neg (by simp [hf])]
  cases path.parent? with
  | none => exact ⟨[], rfl⟩
  | some directory =>
    by_cases ha : (⟨file⟩ : Path).isAbsolute
    · refine ⟨[], ?_⟩
      simp only [Path.join, ha, if_true, List.nil_append]
    · obtain ⟨front, -, hjoin⟩ := Path.exists_splitOn_join directory
      exact ⟨front, hjoin ⟨file⟩ (by simpa using ha)⟩

private theorem isDirectoryAt_of_dot {l m : Location} {content : ByteArray}
    (hr : tree.resolve path = .ok l) (hl : tree.find? l = some (.file content))
    (hm : tree.place? (targetPath path ".") = some m) : tree.isDirectoryAt m := by
  have hstart := FileTree.isDirectoryAt_startOf hr
  have hplace := FileTree.place?_eq_some.mp (FileTree.place?_of_resolve hr)
  have hdot : (⟨"."⟩ : Path).steps = [] := by decide
  have hrelative : (⟨"."⟩ : Path).isAbsolute = false := by decide
  rw [FileTree.place?_eq_some] at hm
  unfold targetPath at hm
  rw [if_neg (by decide)] at hm
  cases hp : path.parent? with
  | none =>
    -- A path without steps leads to where it starts, and that is no file.
    rw [Path.steps_of_parent?_eq_none hp] at hplace
    rw [Except.ok.inj hplace, FileTree.isDirectoryAt_iff, hl] at hstart
    cases hstart
  | some directory =>
    simp only [hp] at hm
    rw [Path.steps_join hrelative, hdot, List.append_nil, FileTree.startOf_join hrelative] at hm
    by_cases hd : directory.isEmpty
    · have hempty : directory = ⟨""⟩ := congrArg Path.mk (by simpa [Path.isEmpty] using hd)
      have hsame : tree.startOf directory = tree.startOf path := by
        rw [FileTree.startOf, FileTree.startOf, Path.not_isAbsolute_of_parent? hp hd, hempty]
        rfl
      have hnone : directory.steps = [] := by rw [hempty]; decide
      rw [hnone, hsame] at hm
      exact Except.ok.inj hm ▸ hstart
    · have hd : directory.isEmpty = false := by simpa using hd
      obtain ⟨last, hlast⟩ := Path.steps_of_parent? hp hd
      have hsame : tree.startOf directory = tree.startOf path := by
        rw [FileTree.startOf, FileTree.startOf,
          Path.isAbsolute_of_isPrefix (Path.parent?_text_isPrefix hp) hd]
      rw [hlast, FileTree.walk_append_eq_ok] at hplace
      obtain ⟨between, hb, hstep⟩ := hplace
      rw [hsame, hb] at hm
      rw [FileTree.walk_singleton] at hstep
      exact Except.ok.inj hm ▸ (FileTree.step_cases hstep).1

/-- What does not end in a slash, or in a slash and a dot, is idle at its end only as a whole. -/
private theorem eq_of_isIdle {cs last : List Char} {front : List (List Char)}
    (he : ¬['/'] <:+ cs ∧ ¬['/', '.'] <:+ cs) (h : cs.splitOn '/' = front ++ [last])
    (hi : Path.isIdle last) : cs = last := by
  refine (eq_or_isSuffix_of_splitOn h).resolve_right fun hsuffix => ?_
  rcases Path.isIdle_iff.mp hi with rfl | rfl
  · exact he.1 hsuffix
  · exact he.2 hsuffix

private theorem isEmpty_of_splitOn {front : List (List Char)} {last : List Char}
    (h : path.text.toList.splitOn '/' = front ++ [last]) (hi : Path.isIdle last = false) :
    path.isEmpty = false := by
  by_contra hnil
  have htext : path.text.toList = [] := by simpa [Path.isEmpty] using hnil
  have hend := congrArg List.getLast? h
  rw [htext, List.getLast?_concat] at hend
  rw [← Option.some.inj hend] at hi
  cases hi

/-- From a file that can be read, a reference leads to a path that can be read if it designates a
document and is not too long. -/
theorem opens_of_designated {content reference : String} {node : Node}
    (hc : tree.readText path = .ok content) (he : EndsInName reference)
    (hn : designated path reference = .ok node)
    (hfit : (documents tree [] node.path).isSome →
      node.path.text.utf8ByteSize ≤ FileTree.pathLimit) : Opens tree node.path := by
  intro hsome
  have hsize := hfit hsome
  rw [path_of_designated hn] at hsome hsize ⊢
  unfold EndsInName at he
  generalize (splitReference reference).1 = file at hsome hsize he ⊢
  by_cases hfile : file.isEmpty
  · rw [targetPath, if_pos hfile]
    exact ⟨content, hc⟩
  have hfile : file.isEmpty = false := by simpa using hfile
  obtain ⟨front, hfront⟩ := splitOn_targetPath path hfile
  obtain ⟨before, last, hlast⟩ :=
    (List.eq_nil_or_concat' (file.toList.splitOn '/')).resolve_left (List.splitOn_ne_nil _ _)
  rw [hlast, ← List.append_assoc] at hfront
  obtain ⟨text, l, found, ht, hplace, hfound⟩ := exists_text_of_documents hsome
  by_cases hi : Path.isIdle last
  · -- The file is a dot: it leads to a directory, where no document is.
    exfalso
    have hdot := eq_of_isIdle he hlast hi
    rcases Path.isIdle_iff.mp hi with rfl | rfl
    · rw [String.toList_eq_nil_iff.mp hdot] at hfile
      cases hfile
    · obtain rfl : file = "." := String.toList_inj.mp hdot
      obtain ⟨place, bytes, hr, hb, -⟩ := FileTree.readText_eq_ok_iff.mp hc
      have hdir := isDirectoryAt_of_dot hr hb hplace
      rw [FileTree.isDirectoryAt_iff, hfound] at hdir
      cases hdir
  · have hi : Path.isIdle last = false := by simpa using hi
    have hempty := isEmpty_of_splitOn hfront hi
    have hcheck := FileTree.checkText_eq_ok_iff.mpr
      ⟨FileTree.nul_not_mem_of_text? ht, hempty, hsize⟩
    exact ⟨text, FileTree.readText_of_text? (FileTree.resolve_of_last hcheck hfront hi hplace) ht⟩

namespace Blind

theorem of_some (result : Except ReferenceError α) :
    Blind tree fun library => some (result, library) :=
  ⟨some result, fun _ h => ⟨rfl, fun _ hx => Option.some.inj hx ▸ h⟩⟩

/-- It is enough that what is done next is blind for values that can come out. -/
theorem andThen {run : Library → Expansion α} {next : α → Library → Expansion β}
    (hr : Blind tree run)
    (hn : ∀ value library after, library.Consistent tree →
      run library = some (.ok value, after) → Blind tree (next value)) :
    Blind tree fun library => (run library).andThen next := by
  obtain ⟨outcome, hall⟩ := hr
  match outcome with
  | none =>
    refine ⟨none, fun library h => ?_⟩
    have hnone : run library = none := Option.map_eq_none_iff.mp (hall library h).1
    simp only [hnone]
    exact ⟨rfl, nofun⟩
  | some (.error e) =>
    refine ⟨some (.error e), fun library h => ?_⟩
    obtain ⟨⟨result, after⟩, hx, rfl⟩ := Option.map_eq_some_iff.mp (hall library h).1
    have ha := (hall library h).2 _ hx
    simp only [hx]
    exact ⟨rfl, fun x h => Option.some.inj h ▸ ha⟩
  | some (.ok value) =>
    have hfirst := (hall [] (Library.consistent_nil tree)).1
    obtain ⟨⟨result, between⟩, hx, rfl⟩ := Option.map_eq_some_iff.mp hfirst
    obtain ⟨last, hlast⟩ := hn value [] between (Library.consistent_nil tree) hx
    refine ⟨last, fun library h => ?_⟩
    obtain ⟨⟨result, after⟩, hx, rfl⟩ := Option.map_eq_some_iff.mp (hall library h).1
    have ha := (hall library h).2 _ hx
    simp only [hx]
    exact hlast after ha

theorem expandItems {follow : Follow} {items : List Json}
    (h : ∀ item ∈ items, Blind tree (expandValue follow path item)) :
    Blind tree (expandItems follow path items) := by
  induction items with
  | nil => exact of_some _
  | cons item rest ih =>
    obtain ⟨hi, hr⟩ := List.forall_mem_cons.mp h
    simp only [funext (expandItems_cons follow path · item rest)]
    exact hi.andThen fun item _ _ _ _ => (ih hr).andThen fun rest _ _ _ _ => of_some _

theorem expandFields {follow : Follow} {fields : List (String × Json)}
    (h : ∀ field ∈ fields, Blind tree (expandValue follow path field.2)) :
    Blind tree (expandFields follow path fields) := by
  induction fields with
  | nil => exact of_some _
  | cons field rest ih =>
    obtain ⟨key, value⟩ := field
    obtain ⟨hf, hr⟩ := List.forall_mem_cons.mp h
    simp only [funext (expandFields_cons follow path · key value rest)]
    exact hf.andThen fun value _ _ _ _ => (ih hr).andThen fun rest _ _ _ _ => of_some _

/-- If following each reference of a value is blind, so is expanding the value. -/
theorem expandValue {follow : Follow}
    (h : ∀ reference ∈ referencesIn value, ∀ holder,
      Blind tree fun library => follow holder reference path library) :
    Blind tree (expandValue follow path value) := by
  induction value using Json.induction with
  | array items ih =>
    have hitems : Blind tree (OpenApi.expandItems follow path items) := by
      exact expandItems fun item hm => ih item hm fun reference hr =>
        h reference (referencesIn_item hm hr)
    simp only [funext (expandValue_array follow path · items)]
    exact hitems.andThen fun items _ _ _ _ => of_some _
  | object fields ih =>
    cases hf : referenceOf? fields with
    | some reference =>
      simp only [funext (expandValue_of_some follow path · hf)]
      exact h reference (referencesIn_of_some hf ▸ List.mem_singleton_self _) _
    | none =>
      have hfields : Blind tree (OpenApi.expandFields follow path fields) := by
        exact expandFields fun field hm => ih field hm fun reference hr =>
          h reference (referencesIn_field hf hm hr)
      simp only [funext (expandValue_of_none follow path · hf)]
      exact hfields.andThen fun fields _ _ _ _ => of_some _
  | _ => exact of_some _

/-- A node whose path can be read is visited alike from every library. -/
theorem visit {node : Node} {reference : String} {next : Json → Library → Expansion Json}
    (ho : Opens tree node.path)
    (hn : ∀ value, node.value? (documents tree []) = some value → Blind tree (next value)) :
    Blind tree fun library => visit tree node reference library next := by
  have hfetch : Blind tree fun library => some (library.fetch tree node.path) := by
    refine ⟨some (Library.fetch [] tree node.path).1, fun library h => ?_⟩
    have hall := fetch_of_opens ho h
    exact ⟨congrArg some hall.1, fun x hx => Option.some.inj hx ▸ hall.2⟩
  refine hfetch.andThen fun document library after h hx => ?_
  have hvalue := value?_of_fetch (Option.some.inj hx)
  rw [documents_of_consistent h] at hvalue
  cases hp : document.pointer? node.pointer with
  | none => exact of_some _
  | some value => exact hn value (hvalue.trans hp)

/-- From a file that can be read, references are followed alike from every library. -/
theorem expandReference (hd : ∀ q document, documents tree [] q = some document →
      ∀ reference ∈ allReferences document, EndsInName reference)
    (depth : Nat) {content : String} (hc : tree.readText path = .ok content)
    (hv : ∀ reference ∈ referencesIn value, EndsInName reference)
    (hfit : EntersFit (documents tree []) active path value) :
    Blind tree (OpenApi.expandValue (expandReference tree depth active) path value) := by
  induction depth generalizing active path value content with
  | zero =>
    refine expandValue fun reference hr holder => ⟨none, fun library _ => ⟨rfl, nofun⟩⟩
  | succ depth ih =>
    refine expandValue fun reference hr holder => ?_
    simp only [expandReference_succ]
    cases hn : designated path reference with
    | error e => exact of_some _
    | ok node =>
      by_cases ha : node.key ∈ active
      · simp only [if_pos ha]
        exact of_some _
      · simp only [if_neg ha]
        have hopens := opens_of_designated hc (hv reference hr) hn (hfit node (.here hr hn ha))
        refine visit hopens fun target ht => ?_
        obtain ⟨document, hdoc, hp⟩ := Option.bind_eq_some_iff.mp ht
        obtain ⟨found, hf⟩ := hopens (by rw [hdoc]; rfl)
        refine ih hf (fun reference hr => ?_) fun inner he => hfit inner (.further hr hn ha ht he)
        exact hd _ _ hdoc reference (allReferences_pointer? hp (referencesIn_subset target hr))

theorem eq_of_consistent {run : Library → Expansion α} (h : Blind tree run)
    {library library' : Library} (hl : library.Consistent tree) (hl' : library'.Consistent tree) :
    (run library).map Prod.fst = (run library').map Prod.fst := by
  obtain ⟨outcome, hall⟩ := h
  exact (hall library hl).1.trans (hall library' hl').1.symm

theorem consistent {run : Library → Expansion α} (h : Blind tree run) {library after : Library}
    {result : Except ReferenceError α} (hl : library.Consistent tree)
    (hx : run library = some (result, after)) : after.Consistent tree := by
  obtain ⟨outcome, hall⟩ := h
  exact (hall library hl).2 _ hx

end Blind

private theorem key_inj {p q : Path} {pointer : String}
    (h : Node.key ⟨p, pointer⟩ = Node.key ⟨q, pointer⟩) : p = q := by
  have hc := congrArg String.toList h
  simp only [Node.key, expansionKey, String.toList_append] at hc
  have htext := List.append_cancel_right (List.append_cancel_right hc)
  exact congrArg Path.mk (String.toList_inj.mp htext)

private theorem eq_of_fetch_unreadable {library after : Library} {p q : Path} {e : FileError}
    (h : library.fetch tree p = (.error (.unreadable q e), after)) : q = p := by
  obtain ⟨-, -, ⟨cause, -, he⟩ | ⟨content, cause, -, -, he⟩⟩ := fetch_eq_error_iff.mp h
  · exact (ReferenceError.unreadable.inj he).1
  · cases he

/-- A value of a document whose file can be read expands alike from all consistent libraries, and
leaves a consistent one, if references end in names and the paths of the nodes that are entered are
not too long. So it does not matter to a member which documents were read for those before it.
Libraries tell paths apart by components, keys and errors by their text. -/
theorem expandValue_of_consistent (tree : FileTree) (depth : Nat) (active : List String)
    (path : Path) (value : Json) (hc : ∃ content, tree.readText path = .ok content)
    (hv : ∀ reference ∈ referencesIn value, EndsInName reference)
    (hd : ∀ q document, documents tree [] q = some document →
      ∀ reference ∈ allReferences document, EndsInName reference)
    (hfit : EntersFit (documents tree []) active path value) :
    (∀ library library' : Library, library.Consistent tree → library'.Consistent tree →
      (expandValue (expandReference tree depth active) path value library).map Prod.fst =
        (expandValue (expandReference tree depth active) path value library').map Prod.fst) ∧
      (∀ (library : Library) result after, library.Consistent tree →
        expandValue (expandReference tree depth active) path value library =
          some (result, after) → after.Consistent tree) ∧
      (∀ before item rest, value = .array (before ++ item :: rest) →
        ∀ (library : Library) results between, library.Consistent tree →
          expandItems (expandReference tree depth active) path before library =
            some (.ok results, between) →
          (expandValue (expandReference tree depth active) path item between).map Prod.fst =
            (expandValue (expandReference tree depth active) path item library).map Prod.fst) ∧
      (∀ before field rest, value = .object (before ++ field :: rest) →
        referenceOf? (before ++ field :: rest) = none →
        ∀ (library : Library) results between, library.Consistent tree →
          expandFields (expandReference tree depth active) path before library =
            some (.ok results, between) →
          (expandValue (expandReference tree depth active) path field.2 between).map Prod.fst =
            (expandValue (expandReference tree depth active) path field.2 library).map Prod.fst) ∧
      (∀ (library : Library) p q, p.same q → library.find? p = library.find? q) ∧
      (∀ p q pointer, Node.key ⟨p, pointer⟩ = Node.key ⟨q, pointer⟩ → p = q) ∧
      ∀ (library : Library) p q e after,
        library.fetch tree p = (.error (.unreadable q e), after) → q = p := by
  obtain ⟨content, hc⟩ := hc
  have hpart {part : Json} (hs : referencesIn part ⊆ referencesIn value) :
      Blind tree (expandValue (expandReference tree depth active) path part) :=
    .expandReference hd depth hc (fun reference hr => hv reference (hs hr)) (hfit.of_subset hs)
  have hwhole := hpart (List.Subset.refl _)
  refine ⟨fun library library' h h' => hwhole.eq_of_consistent h h',
    fun library result after h hx => hwhole.consistent h hx, ?_, ?_,
    fun library p q h => Library.find?_of_same h, fun p q pointer => key_inj,
    fun library p q e after => eq_of_fetch_unreadable⟩
  · rintro before item rest rfl library results between h hx
    have hitem : ∀ item' ∈ before ++ item :: rest,
        Blind tree (expandValue (expandReference tree depth active) path item') := by
      intro item' hm
      refine hpart fun reference hr => ?_
      rw [referencesIn_array]
      exact List.mem_flatMap.mpr ⟨item', hm, hr⟩
    have hbefore := Blind.expandItems fun item' hm => hitem item' (List.mem_append_left _ hm)
    have hlast := hitem item (List.mem_append_right _ List.mem_cons_self)
    exact hlast.eq_of_consistent (hbefore.consistent h hx) h
  · rintro before field rest rfl hnone library results between h hx
    have hfield : ∀ field' ∈ before ++ field :: rest,
        Blind tree (expandValue (expandReference tree depth active) path field'.2) := by
      intro field' hm
      refine hpart fun reference hr => ?_
      rw [referencesIn_of_none hnone]
      exact List.mem_flatMap.mpr ⟨field', hm, hr⟩
    have hbefore := Blind.expandFields fun field' hm => hfield field' (List.mem_append_left _ hm)
    have hlast := hfield field (List.mem_append_right _ List.mem_cons_self)
    exact hlast.eq_of_consistent (hbefore.consistent h hx) h

/-- Two documents without references, one of them in a directory. -/
def storedTree : FileTree where
  current := []
  entries := [(["r.json"], .file "\x7b\x7d".toUTF8), (["d"], .directory),
    (["x.json", "d"], .file "\x7b\x7d".toUTF8)]

private theorem eq_of_documents_storedTree {q : Path} {document : Json}
    (h : documents storedTree [] q = some document) : document = .object [] := by
  have hall : ∀ document ∈ readings storedTree [], document = .object [] := by decide
  exact hall document (mem_readings h)

private theorem endsInName_storedTree (q : Path) (document : Json)
    (h : documents storedTree [] q = some document) (reference : String)
    (hr : reference ∈ allReferences document) : EndsInName reference := by
  rw [eq_of_documents_storedTree h] at hr
  cases hr

private theorem consistent_storedTree :
    Library.Consistent storedTree [(⟨"d/x.json"⟩, .object [])] :=
  List.forall_mem_singleton.mpr ⟨"\x7b\x7d", by decide, by decide⟩

private theorem percentDecode_empty : Text.percentDecode "" = .ok "" := by
  with_unfolding_all rfl

theorem expandValue_storedTree :
    (expandValue (expandReference storedTree nestingLimit []) ⟨"r.json"⟩
        (.object [("$ref", .string "d//x.json")]) []).map Prod.fst =
      (expandValue (expandReference storedTree nestingLimit []) ⟨"r.json"⟩
        (.object [("$ref", .string "d//x.json")]) [(⟨"d/x.json"⟩, .object [])]).map Prod.fst := by
  refine (expandValue_of_consistent storedTree nestingLimit [] ⟨"r.json"⟩
    (.object [("$ref", .string "d//x.json")]) ⟨"\x7b\x7d", by decide⟩ (by decide)
    endsInName_storedTree fun node he _ => ?_).1 [] _ (Library.consistent_nil _)
    consistent_storedTree
  have hmem : referencesIn (.object [("$ref", .string "d//x.json")]) = ["d//x.json"] := by
    decide
  have hnode : designated ⟨"r.json"⟩ "d//x.json" = .ok ⟨⟨"d//x.json"⟩, ""⟩ := by
    have hsplit : splitReference "d//x.json" = ("d//x.json", "") := by decide
    have htarget : targetPath ⟨"r.json"⟩ "d//x.json" = ⟨"d//x.json"⟩ := by decide
    rw [designated, hsplit, percentDecode_empty, htarget]
    rfl
  cases he with
  | here hr hn =>
    obtain rfl := List.mem_singleton.mp (hmem ▸ hr)
    rw [← Except.ok.inj (hnode.symm.trans hn)]
    decide
  | further hr hn _ hv h =>
    -- The document is empty, so that nothing is entered from it.
    obtain ⟨document, hdoc, hp⟩ := Option.bind_eq_some_iff.mp hv
    obtain rfl := List.mem_singleton.mp (hmem ▸ hr)
    rw [eq_of_documents_storedTree hdoc, ← Except.ok.inj (hnode.symm.trans hn)] at hp
    obtain rfl := Option.some.inj hp
    cases h with
    | here hr => cases hr
    | further hr => cases hr

/-- The path of the document in the directory, with more slashes than are needed. -/
def spelledOut (n : Nat) : Path :=
  (⟨"d" ++ String.ofList (List.replicate (n + 1) '/')⟩ : Path).join ⟨"x.json"⟩

private theorem text_spelledOut (n : Nat) : (spelledOut n).text.toList =
    ['d'] ++ List.replicate (n + 1) '/' ++ ['x', '.', 'j', 's', 'o', 'n'] :=
  Path.text_join_slashes ⟨"d"⟩ rfl n

private theorem isEmpty_spelledOut (n : Nat) : (spelledOut n).text.isEmpty = false := by
  by_contra hnil
  have htext : (spelledOut n).text.toList = [] := by simpa using hnil
  rw [text_spelledOut] at htext
  cases htext

private theorem same_spelledOut (n : Nat) : (⟨"d/x.json"⟩ : Path).same (spelledOut n) = true := by
  have hstart : (spelledOut n).parts.1 = .relative := by
    rw [Path.parts, text_spelledOut]
    rfl
  refine Path.same_of_steps hstart.symm ?_
  rw [spelledOut, Path.steps_join (by decide), Path.steps_append_slashes ⟨"d"⟩]
  decide

private theorem splitReference_spelledOut (n : Nat) :
    splitReference (spelledOut n).text = ((spelledOut n).text, "") := by
  have hhash : ∀ c ∈ (spelledOut n).text.toList, decide (c ≠ '#') = true := by
    rw [text_spelledOut]
    intro c hc
    simp only [List.mem_append, List.mem_replicate] at hc
    rcases hc with (hc | ⟨-, rfl⟩) | hc
    · rw [List.mem_singleton.mp hc]
      decide
    · decide
    · have hname : ['x', '.', 'j', 's', 'o', 'n'].all (fun c => decide (c ≠ '#')) = true := by
        decide
      exact List.all_eq_true.mp hname c hc
  unfold splitReference
  dsimp only
  rw [List.takeWhile_eq_self_iff.mpr hhash, List.dropWhile_eq_nil_iff.mpr hhash,
    String.ofList_toList]
  rfl

private theorem designated_spelledOut (n : Nat) :
    designated ⟨"r.json"⟩ (spelledOut n).text = .ok ⟨spelledOut n, ""⟩ := by
  have hparent : (⟨"r.json"⟩ : Path).parent? = some ⟨""⟩ := by decide
  have htarget : targetPath ⟨"r.json"⟩ (spelledOut n).text = spelledOut n := by
    rw [targetPath, if_neg (by simp [isEmpty_spelledOut])]
    simp only [hparent, Path.empty_join]
  rw [designated, splitReference_spelledOut, percentDecode_empty, htarget]
  rfl

private theorem readText_spelledOut {n : Nat} (h : FileTree.pathLimit < n + 8) :
    storedTree.readText (spelledOut n) = .error .nameTooLong := by
  have hsize : (spelledOut n).text.utf8ByteSize = n + 8 := by
    have hd : "d".utf8ByteSize = 1 := by decide
    have hx : "x.json".utf8ByteSize = 6 := by decide
    rw [spelledOut, Path.utf8ByteSize_join_slashes ⟨"d"⟩ (by decide), hd, hx]
    omega
  have hcheck : FileTree.checkText (spelledOut n) = .error .nameTooLong := by
    have hnul : '\x00' ∉ (spelledOut n).text.toList := by
      rw [text_spelledOut]
      simp
    rw [FileTree.checkText_of_isEmpty hnul (isEmpty_spelledOut n), hsize, if_pos h]
  refine FileTree.readText_of_resolve_error ?_
  rw [FileTree.resolve, hcheck]

private theorem endsInName_spelledOut (n : Nat) : EndsInName (spelledOut n).text := by
  have hlast : (spelledOut n).text.toList.getLast? = some 'n' := by
    rw [text_spelledOut, List.getLast?_append]
    rfl
  rw [EndsInName, splitReference_spelledOut]
  constructor
  · rintro ⟨front, hf⟩
    rw [← hf, List.getLast?_append] at hlast
    cases hlast
  · rintro ⟨front, hf⟩
    rw [← hf, List.getLast?_append] at hlast
    cases hlast

private theorem expandValue_spelledOut_eq (n depth : Nat) (library : Library) :
    expandValue (expandReference storedTree (depth + 1) []) ⟨"r.json"⟩
        (.object [("$ref", .string (spelledOut n).text)]) library =
      visit storedTree ⟨spelledOut n, ""⟩ (spelledOut n).text library
        (expandValue (expandReference storedTree depth [Node.key ⟨spelledOut n, ""⟩])
          (spelledOut n)) := by
  have hr : referenceOf? [("$ref", .string (spelledOut n).text)] = some (spelledOut n).text := rfl
  rw [expandValue_of_some _ _ _ hr, expandReference_succ, designated_spelledOut]
  simp only [List.not_mem_nil, if_false]

private theorem found_spelledOut (n depth : Nat) :
    (expandValue (expandReference storedTree (depth + 1) []) ⟨"r.json"⟩
      (.object [("$ref", .string (spelledOut n).text)])
      [(⟨"d/x.json"⟩, .object [])]).map Prod.fst = some (.ok (.object [])) := by
  have hfind : Library.find? [(⟨"d/x.json"⟩, .object [])] (spelledOut n) = some (.object []) := by
    rw [← Library.find?_of_same (same_spelledOut n)]
    decide
  rw [expandValue_spelledOut_eq, visit, Library.fetch]
  simp only [hfind]
  rfl

private theorem missed_spelledOut {n : Nat} (h : FileTree.pathLimit < n + 8) (depth : Nat) :
    (expandValue (expandReference storedTree (depth + 1) []) ⟨"r.json"⟩
      (.object [("$ref", .string (spelledOut n).text)]) []).map Prod.fst =
        some (.error (.unreadable (spelledOut n) .nameTooLong)) := by
  rw [expandValue_spelledOut_eq, visit, Library.fetch]
  simp only [Library.find?_nil, readText_spelledOut h]
  rfl

/-- A path can be spelled so long that the document is found if it has been read, and cannot be
read if it has not. -/
theorem expandValue_spelledOut :
    storedTree.WellFormed ∧ storedTree.readText ⟨"r.json"⟩ = .ok "\x7b\x7d" ∧
      Library.Consistent storedTree [] ∧
      Library.Consistent storedTree [(⟨"d/x.json"⟩, .object [])] ∧
      (∀ q document, documents storedTree [] q = some document →
        ∀ reference ∈ allReferences document, EndsInName reference) ∧
      EndsInName (spelledOut 4088).text ∧
      (expandValue (expandReference storedTree nestingLimit []) ⟨"r.json"⟩
          (.object [("$ref", .string (spelledOut 4088).text)])
          [(⟨"d/x.json"⟩, .object [])]).map Prod.fst = some (.ok (.object [])) ∧
      (expandValue (expandReference storedTree nestingLimit []) ⟨"r.json"⟩
          (.object [("$ref", .string (spelledOut 4088).text)]) []).map Prod.fst =
        some (.error (.unreadable (spelledOut 4088) .nameTooLong)) := by
  have hlong : FileTree.pathLimit < 4088 + 8 := by decide
  exact ⟨by decide, by decide, Library.consistent_nil _, consistent_storedTree,
    endsInName_storedTree, endsInName_spelledOut 4088, found_spelledOut 4088 999999,
    missed_spelledOut hlong 999999⟩

end Scaffold.OpenApi
