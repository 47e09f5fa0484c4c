import Scaffold.Proofs.Output.Sources
import Scaffold.Proofs.Path.Order

/-! The list of the sources of a project: each file once, in the order of paths. There is one unless
the sources are no directory, or some directory among them has a path that is too long. -/
namespace Scaffold.Output

open FileTree

variable {t : FileTree} {d root : Path} {l place : Location} {names others : List String}
  {files : List Path}

theorem nodup_childrenAt (ht : t.WellFormed) (l : Location) :
    ((t.childrenAt l).map Prod.fst).Nodup := by
  have hplaces : t.entries.Pairwise fun a b => a.1 ≠ b.1 := List.pairwise_map.mp ht.nodup
  unfold List.Nodup childrenAt
  rw [List.pairwise_map, List.pairwise_filterMap]
  refine hplaces.imp ?_
  rintro ⟨place, entry⟩ ⟨place', entry'⟩ hne child hchild child' hchild' hsame
  cases place with
  | nil => cases hchild
  | cons name parent =>
    cases place' with
    | nil => cases hchild'
    | cons name' parent' =>
      obtain ⟨rfl, hname⟩ := Option.ite_none_right_eq_some.mp hchild
      obtain ⟨rfl, hname'⟩ := Option.ite_none_right_eq_some.mp hchild'
      rw [← Option.some.inj hname, ← Option.some.inj hname'] at hsame
      exact hne (congrArg (· :: parent') hsame)

/-- Names are told by the components of the path to which they lead. -/
theorem names_inj (hn : ∀ name ∈ names, IsName name) (ho : ∀ name ∈ others, IsName name)
    (h : (descend d names).same (descend d others) = true) : names = others := by
  have hsteps := (Path.parts_of_same h).2
  rw [steps_descend hn, steps_descend ho] at hsteps
  have hinj : Function.Injective String.toList := fun _ _ => String.toList_inj.mp
  exact List.map_injective_iff.mpr hinj (List.append_cancel_left hsteps)

theorem descend_inj (hn : ∀ name ∈ names, IsName name) (ho : ∀ name ∈ others, IsName name)
    (h : descend d names = descend d others) : names = others := by
  apply names_inj hn ho
  rw [h]
  exact Path.same_refl _

/-- Paths that are found below a directory, each by different names. -/
def FoundBelow (d : Path) (files : List Path) (found : List (List String)) : Prop :=
  found.Nodup ∧ (∀ names ∈ found, ∀ name ∈ names, IsName name) ∧ files = found.map (descend d)

/-- Paths below a child are found from the directory by the names behind that of the child. -/
theorem FoundBelow.append {name : String} {here : List Path} {behind found : List (List String)}
    (hname : IsName name) (hb : FoundBelow (d.join ⟨name⟩) here behind)
    (hf : FoundBelow d files found) (hfresh : ∀ rest, name :: rest ∉ found) :
    FoundBelow d (here ++ files) (behind.map (name :: ·) ++ found) := by
  obtain ⟨hbehind, hisName, rfl⟩ := hb
  obtain ⟨hnodup, hfound, rfl⟩ := hf
  refine ⟨List.nodup_append.mpr ⟨?_, hnodup, ?_⟩, List.forall_mem_append.mpr ⟨?_, hfound⟩, ?_⟩
  · exact hbehind.map fun _ _ he => List.tail_eq_of_cons_eq he
  · rintro _ hm names hn rfl
    obtain ⟨rest, -, rfl⟩ := List.mem_map.mp hm
    exact hfresh rest hn
  · exact List.forall_mem_map.mpr fun rest hm => List.forall_mem_cons.mpr ⟨hname, hisName rest hm⟩
  · rw [List.map_append, List.map_map]
    rfl

theorem exists_found_of_filesAmong {below : Path → Except ScanError (List Path)}
    {children : List (String × Entry)} (hnames : ∀ child ∈ children, IsName child.1)
    (hdistinct : (children.map Prod.fst).Nodup)
    (hbelow : ∀ name here, (name, .directory) ∈ children → below (d.join ⟨name⟩) = .ok here →
      ∃ found, FoundBelow (d.join ⟨name⟩) here found)
    (h : filesAmong below d children = .ok files) :
    ∃ found, FoundBelow d files found ∧ ∀ names ∈ found, ∃ name ∈ children.map Prod.fst,
      ∃ rest, names = name :: rest := by
  induction children generalizing files with
  | nil =>
    obtain rfl : [] = files := Except.ok.inj h
    exact ⟨[], ⟨List.nodup_nil, nofun, rfl⟩, nofun⟩
  | cons child children ih =>
    obtain ⟨name, entry⟩ := child
    obtain ⟨hname, hnames⟩ := List.forall_mem_cons.mp hnames
    obtain ⟨hfresh, hdistinct⟩ := List.nodup_cons.mp hdistinct
    rw [filesAmong_cons] at h
    obtain ⟨here, hhere, h⟩ := Except.exists_of_bind_eq_ok h
    obtain ⟨rest, hrest, h⟩ := Except.exists_of_bind_eq_ok h
    obtain rfl := Except.ok.inj h
    obtain ⟨found, hfound, hheads⟩ := ih hnames hdistinct
      (fun name here hm => hbelow name here (List.mem_cons_of_mem _ hm)) hrest
    obtain ⟨behind, hbehind⟩ : ∃ behind, FoundBelow (d.join ⟨name⟩) here behind := by
      cases entry with
      | file content =>
        obtain rfl := Except.ok.inj hhere
        exact ⟨[[]], by simp, by simp, rfl⟩
      | directory => exact hbelow name here List.mem_cons_self hhere
    refine ⟨_, hbehind.append hname hfound fun rest hm => ?_, ?_⟩
    · obtain ⟨other, ho, others, hothers⟩ := hheads _ hm
      obtain ⟨rfl, -⟩ := List.cons.inj hothers
      exact hfresh ho
    · refine List.forall_mem_append.mpr ⟨?_, fun names hm => ?_⟩
      · exact List.forall_mem_map.mpr fun more _ => ⟨name, List.mem_cons_self, more, rfl⟩
      · obtain ⟨other, ho, others, hothers⟩ := hheads names hm
        exact ⟨other, List.mem_cons_of_mem _ ho, others, hothers⟩

theorem exists_found_of_filesBelow {depth : Nat} (ht : t.WellFormed) (hd : Leads t d l)
    (h : filesBelow t depth d = .ok files) : ∃ found, FoundBelow d files found := by
  induction depth generalizing d l files with
  | zero =>
    obtain rfl : [] = files := Except.ok.inj h
    exact ⟨[], List.nodup_nil, nofun, rfl⟩
  | succ depth ih =>
    obtain ⟨hc, h⟩ := hd.of_filesBelow_eq_ok h
    have hnames : ∀ child ∈ t.childrenAt l, IsName child.1 := by
      rintro ⟨name, entry⟩ hm
      exact ht.names _ (List.mem_map_of_mem (mem_childrenAt.mp hm)) name List.mem_cons_self
    have hbelow : ∀ name here, (name, .directory) ∈ t.childrenAt l →
        filesBelow t depth (d.join ⟨name⟩) = .ok here →
          ∃ found, FoundBelow (d.join ⟨name⟩) here found := by
      intro name here hm hhere
      exact ih (hd.of_mem_childrenAt ht hc hm) hhere
    obtain ⟨found, hfound, -⟩ := exists_found_of_filesAmong hnames (nodup_childrenAt ht l) hbelow h
    exact ⟨found, hfound⟩

theorem isName_of_find? {e : Entry} (ht : t.WellFormed)
    (hf : t.find? (names.reverse ++ "src" :: place) = some e) : ∀ name ∈ names, IsName name := by
  intro name hm
  refine ht.names _ (List.mem_map_of_mem (mem_of_find? hf (by simp))) name ?_
  simp [hm]

theorem exists_found_of_filesBelow_src (ht : t.WellFormed) (hd : t.place? root = some place)
    (hplace : t.isDirectoryAt place) (hc : checkText (root.join ⟨"src"⟩) = .ok ())
    (hfile : ∀ content, t.find? ("src" :: place) ≠ some (.file content)) {depth : Nat}
    (h : filesBelow t (depth + 1) (root.join ⟨"src"⟩) = .ok files) :
    ∃ found, FoundBelow (root.join ⟨"src"⟩) files found := by
  cases hsrc : t.find? ("src" :: place) with
  | none =>
    rw [filesBelow_of_missing hd hplace hc hsrc] at h
    obtain rfl : [] = files := Except.ok.inj h
    exact ⟨[], List.nodup_nil, nofun, rfl⟩
  | some entry =>
    cases entry with
    | file content => exact absurd hsrc (hfile content)
    | directory =>
      have hleads := Leads.of_join ht hd hplace isName_src (isDirectoryAt_iff.mpr hsrc)
      exact exists_found_of_filesBelow ht hleads h

theorem FoundBelow.mergeSort {found : List (List String)} (h : FoundBelow d files found) :
    ∃ sorted, FoundBelow d (files.mergeSort fun p q => !q.before p) sorted := by
  obtain ⟨hnodup, hnames, rfl⟩ := h
  have hperm := List.mergeSort_perm found fun a b => !(descend d b).before (descend d a)
  refine ⟨_, hperm.nodup_iff.mpr hnodup, fun names hm => hnames names (hperm.mem_iff.mp hm), ?_⟩
  symm
  apply List.map_mergeSort
  intro a _ b _
  rfl

/-- Each file among the sources is listed once, by the names that lead to it. -/
theorem exists_found_of_existingFiles (ht : t.WellFormed) (hd : t.place? root = some place)
    (hplace : t.isDirectoryAt place) (h : existingFiles t root = .ok files) :
    ∃ found, FoundBelow (root.join ⟨"src"⟩) files found ∧ ∀ names, names ∈ found ↔ names ≠ [] ∧
      ∃ content, t.find? (names.reverse ++ "src" :: place) = some (.file content) := by
  obtain ⟨hc, hfile, -⟩ := fits_of_existingFiles ht hd hplace h
  have hmem := fun p => mem_existingFiles (p := p) ht hd hplace h
  obtain ⟨listed, hb, hsorted⟩ := existingFiles_eq_ok_iff.mp h
  obtain ⟨found, hbelow⟩ := exists_found_of_filesBelow_src ht hd hplace hc hfile hb
  obtain ⟨found, hnodup, hnames, hfiles⟩ := hbelow.mergeSort
  rw [hsorted] at hfiles
  refine ⟨found, ⟨hnodup, hnames, hfiles⟩, fun names => ?_⟩
  constructor
  · intro hm
    have hlisted : descend (root.join ⟨"src"⟩) names ∈ files := hfiles ▸ List.mem_map_of_mem hm
    obtain ⟨others, content, hne, hf, hsame⟩ := (hmem _).mp hlisted
    obtain rfl := descend_inj (hnames names hm) (isName_of_find? ht hf) hsame
    exact ⟨hne, content, hf⟩
  · rintro ⟨hne, content, hf⟩
    have hlisted := (hmem _).mpr ⟨names, content, hne, hf, rfl⟩
    rw [hfiles] at hlisted
    obtain ⟨others, ho, hsame⟩ := List.mem_map.mp hlisted
    obtain rfl := descend_inj (hnames others ho) (isName_of_find? ht hf) hsame
    exact ho

theorem pairwise_existingFiles (ht : t.WellFormed) (hd : t.place? root = some place)
    (hplace : t.isDirectoryAt place) (h : existingFiles t root = .ok files) :
    files.Pairwise fun p q => p.before q = true := by
  obtain ⟨found, ⟨hnodup, hnames, rfl⟩, -⟩ := exists_found_of_existingFiles ht hd hplace h
  have hkeys : ((found.map (descend (root.join ⟨"src"⟩))).map Path.key).Nodup := by
    rw [List.map_map]
    refine hnodup.map_on fun names hn others ho hkey => ?_
    exact names_inj (hnames names hn) (hnames others ho) (Path.same_of_key hkey)
  obtain ⟨listed, -, hsorted⟩ := existingFiles_eq_ok_iff.mp h
  rw [← hsorted] at hkeys ⊢
  have hperm := (List.mergeSort_perm listed fun p q => !q.before p).map Path.key
  exact Path.pairwise_before_mergeSort (hperm.nodup_iff.mp hkeys)

/-- The sources cannot be listed just when they are a file, or when the path of some directory among
them is too long. -/
theorem existingFiles_eq_error_iff (ht : t.WellFormed) (hd : t.place? root = some place)
    (hplace : t.isDirectoryAt place) :
    (∃ e, existingFiles t root = .error e) ↔
      (∃ content, t.find? ("src" :: place) = some (.file content)) ∨
      pathLimit < (root.join ⟨"src"⟩).text.utf8ByteSize ∨
      ∃ names, t.isDirectoryAt (names.reverse ++ "src" :: place) ∧
        pathLimit < (descend (root.join ⟨"src"⟩) names).text.utf8ByteSize := by
  have hfits {p : Path} (hlong : pathLimit < p.text.utf8ByteSize) : checkText p ≠ .ok () :=
    fun hc => Nat.not_le.mpr hlong (checkText_eq_ok_iff.mp hc).2.2
  constructor
  · rintro ⟨e, he⟩
    by_cases hlong : pathLimit < (root.join ⟨"src"⟩).text.utf8ByteSize
    · exact .inr (.inl hlong)
    · by_cases hfile : ∃ content, t.find? ("src" :: place) = some (.file content)
      · exact .inl hfile
      · have hnul := isName_src.nul_not_mem_join (ht.nul_not_mem_of_place? hd)
        have hc := checkText_eq_ok_iff.mpr
          ⟨hnul, isName_src.join_isEmpty root, Nat.not_lt.mp hlong⟩
        have hnot := fun content hf => hfile ⟨content, hf⟩
        obtain ⟨names, hdir, -, htoo⟩ :=
          exists_of_existingFiles_eq_error ht hd hplace hc hnot he
        exact .inr (.inr ⟨names, hdir, htoo⟩)
  · intro h
    cases hfiles : existingFiles t root with
    | error e => exact ⟨e, rfl⟩
    | ok files =>
      obtain ⟨hc, hfile, hall⟩ := fits_of_existingFiles ht hd hplace hfiles
      rcases h with ⟨content, hf⟩ | hlong | ⟨names, hdir, hlong⟩
      · exact absurd hf (hfile content)
      · exact absurd hc (hfits hlong)
      · exact absurd (hall names hdir) (hfits hlong)

end Scaffold.Output
