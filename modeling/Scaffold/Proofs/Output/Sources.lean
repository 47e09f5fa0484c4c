import Scaffold.Proofs.Output.Scanning

/-! The files that are found among the sources of a project: all that lie there, each by the path
that goes down to it from the directory of the project. A path is that of one of them if it starts
and steps in the same way, and a file is where it leads. -/
namespace Scaffold.Output

open FileTree

variable {t : FileTree} {d p root : Path} {l place : Location} {name : String}
  {names : List String} {files : List Path}

/-- A path is spelled as one among the sources of a project: it makes the steps to them from where
they start, and goes down from there. -/
def IsSource (root p : Path) : Prop :=
  p.parts.1 = (root.join ⟨"src"⟩).parts.1 ∧ (root.join ⟨"src"⟩).steps <+: p.steps ∧
    ['.', '.'] ∉ p.steps.drop (root.join ⟨"src"⟩).steps.length

instance (root p : Path) : Decidable (IsSource root p) := inferInstanceAs (Decidable (_ ∧ _ ∧ _))

/-- A file is where the components of a path lead. -/
def holdsFile (t : FileTree) (p : Path) : Bool :=
  match (t.place? p).bind t.find? with
  | some (.file _) => true
  | _ => false

theorem holdsFile_iff :
    holdsFile t p = true ↔ ∃ l content, t.place? p = some l ∧ t.find? l = some (.file content) := by
  unfold holdsFile
  constructor
  · intro h
    split at h
    · next content hf =>
      obtain ⟨l, hl, hf⟩ := Option.bind_eq_some_iff.mp hf
      exact ⟨l, content, hl, hf⟩
    · cases h
  · rintro ⟨l, content, hl, hf⟩
    rw [hl, Option.bind_some, hf]

theorem steps_of_isName (h : IsName name) : (⟨name⟩ : Path).steps = [name.toList] := by
  rw [← Path.filter_splitOn, List.splitOn_eq_singleton h.no_slash]
  simp [h.not_idle]

theorem steps_descend (hn : ∀ name ∈ names, IsName name) :
    (descend d names).steps = d.steps ++ names.map String.toList := by
  induction names generalizing d with
  | nil => simp [descend]
  | cons name rest ih =>
    obtain ⟨hname, hrest⟩ := List.forall_mem_cons.mp hn
    change (descend (d.join ⟨name⟩) rest).steps = _
    rw [ih hrest, Path.steps_join (Path.not_isAbsolute hname.no_slash), steps_of_isName hname,
      List.append_assoc]
    rfl

theorem start_descend (hd : d.isEmpty = false) (hn : ∀ name ∈ names, IsName name) :
    (descend d names).parts.1 = d.parts.1 := by
  induction names generalizing d with
  | nil => rfl
  | cons name rest ih =>
    obtain ⟨hname, hrest⟩ := List.forall_mem_cons.mp hn
    change (descend (d.join ⟨name⟩) rest).parts.1 = _
    rw [ih (hname.join_isEmpty d) hrest,
      Path.start_join hd (Path.not_isAbsolute hname.no_slash)]

theorem mem_filesAmong {below : Path → Except ScanError (List Path)}
    {children : List (String × Entry)} (h : filesAmong below d children = .ok files) :
    p ∈ files ↔ (∃ name content, (name, .file content) ∈ children ∧ p = d.join ⟨name⟩) ∨
      ∃ name here, (name, .directory) ∈ children ∧ below (d.join ⟨name⟩) = .ok here ∧ p ∈ here := by
  induction children generalizing files with
  | nil =>
    obtain rfl : [] = files := Except.ok.inj h
    simp
  | cons child rest ih =>
    obtain ⟨first, entry⟩ := child
    rw [filesAmong_cons] at h
    obtain ⟨here, hhere, h⟩ := Except.exists_of_bind_eq_ok h
    obtain ⟨others, hothers, h⟩ := Except.exists_of_bind_eq_ok h
    obtain rfl := Except.ok.inj h
    have hfirst : p ∈ here ↔ (∃ content, entry = .file content ∧ p = d.join ⟨first⟩) ∨
        ∃ found, entry = .directory ∧ below (d.join ⟨first⟩) = .ok found ∧ p ∈ found := by
      cases entry with
      | file content =>
        obtain rfl := Except.ok.inj hhere
        simp
      | directory => simp [show below (d.join ⟨first⟩) = .ok here from hhere]
    rw [List.mem_append, ih hothers, hfirst]
    constructor
    · rintro ((⟨content, rfl, hp⟩ | ⟨found, rfl, hrest⟩) | ⟨name, content, hm, hp⟩ |
        ⟨name, found, hm, hrest⟩)
      · exact .inl ⟨first, content, List.mem_cons_self, hp⟩
      · exact .inr ⟨first, found, List.mem_cons_self, hrest⟩
      · exact .inl ⟨name, content, List.mem_cons_of_mem _ hm, hp⟩
      · exact .inr ⟨name, found, List.mem_cons_of_mem _ hm, hrest⟩
    · rintro (⟨name, content, hm, hp⟩ | ⟨name, found, hm, hrest⟩)
      · rcases List.mem_cons.mp hm with heq | hm
        · obtain ⟨rfl, rfl⟩ := Prod.mk.inj heq
          exact .inl (.inl ⟨content, rfl, hp⟩)
        · exact .inr (.inl ⟨name, content, hm, hp⟩)
      · rcases List.mem_cons.mp hm with heq | hm
        · obtain ⟨rfl, rfl⟩ := Prod.mk.inj heq
          exact .inl (.inr ⟨found, rfl, hrest⟩)
        · exact .inr (.inr ⟨name, found, hm, hrest⟩)

/-- Below a directory, the files that are found are those that lie there, as deep as it was
looked. -/
theorem mem_filesBelow {depth : Nat} (ht : t.WellFormed) (hd : Leads t d l)
    (h : filesBelow t depth d = .ok files) :
    p ∈ files ↔ ∃ names content, names ≠ [] ∧ names.length ≤ depth ∧
      t.find? (names.reverse ++ l) = some (.file content) ∧ p = descend d names := by
  induction depth generalizing d l files with
  | zero =>
    obtain rfl : [] = files := Except.ok.inj h
    simp
  | succ depth ih =>
    obtain ⟨hc, h⟩ := hd.of_filesBelow_eq_ok h
    rw [mem_filesAmong h]
    constructor
    · rintro (⟨name, content, hm, hp⟩ | ⟨name, found, hm, hb, hp⟩)
      · have hfile := ht.find?_of_mem (mem_childrenAt.mp hm)
        exact ⟨[name], content, List.cons_ne_nil _ _, by simp, hfile, hp⟩
      · obtain ⟨names, content, -, hn, hf, hp⟩ := (ih (hd.of_mem_childrenAt ht hc hm) hb).mp hp
        exact ⟨name :: names, content, List.cons_ne_nil _ _, Nat.succ_le_succ hn,
          by simpa using hf, hp⟩
    · rintro ⟨names, content, hne, hn, hf, hp⟩
      cases names with
      | nil => exact absurd rfl hne
      | cons name rest =>
        rw [List.reverse_cons, List.append_assoc, List.singleton_append] at hf
        by_cases hrest : rest = []
        · subst hrest
          exact .inl ⟨name, content, mem_childrenAt.mpr (mem_of_find? hf (by simp)), hp⟩
        · have hname : t.isDirectoryAt (name :: l) := by
            refine ht.isDirectoryAt_of_suffix (by rw [hf]; rfl)
              (List.suffix_append _ _) fun he => ?_
            exact hrest (by simpa using he.symm)
          have hchild := mem_childrenAt.mpr
            (mem_of_find? (isDirectoryAt_iff.mp hname) (List.cons_ne_nil _ _))
          obtain ⟨found, hb⟩ := exists_of_filesAmong_eq_ok h hchild
          refine .inr ⟨name, found, hchild, hb, (ih (hd.join ht hc hname) hb).mpr ?_⟩
          exact ⟨rest, content, hrest, Nat.le_of_succ_le_succ hn, hf, hp⟩

theorem mem_existingFiles (ht : t.WellFormed) (hd : t.place? root = some place)
    (hplace : t.isDirectoryAt place) (h : existingFiles t root = .ok files) :
    p ∈ files ↔ ∃ names content, names ≠ [] ∧
      t.find? (names.reverse ++ "src" :: place) = some (.file content) ∧
      p = descend (root.join ⟨"src"⟩) names := by
  obtain ⟨hc, hfile, -⟩ := fits_of_existingFiles ht hd hplace h
  obtain ⟨found, hb, rfl⟩ := existingFiles_eq_ok_iff.mp h
  rw [List.mem_mergeSort]
  cases hsrc : t.find? ("src" :: place) with
  | none =>
    -- Nothing lies below what is missing.
    rw [filesBelow_of_missing hd hplace hc hsrc] at hb
    obtain rfl : [] = found := Except.ok.inj hb
    refine ⟨nofun, ?_⟩
    rintro ⟨names, content, hne, hf, -⟩
    have hdir : t.isDirectoryAt ("src" :: place) := by
      refine ht.isDirectoryAt_of_suffix (by rw [hf]; rfl) (List.suffix_append _ _) fun he => ?_
      exact hne (by simpa using he.symm)
    rw [isDirectoryAt_iff, hsrc] at hdir
    cases hdir
  | some entry =>
    cases entry with
    | file content => exact absurd hsrc (hfile content)
    | directory =>
      have hleads := Leads.of_join ht hd hplace isName_src (isDirectoryAt_iff.mpr hsrc)
      rw [mem_filesBelow ht hleads hb]
      constructor
      · rintro ⟨names, content, hne, -, hf, hp⟩
        exact ⟨names, content, hne, hf, hp⟩
      · rintro ⟨names, content, hne, hf, hp⟩
        have hlength :=
          length_le_entries ht (l := names.reverse ++ "src" :: place) (by rw [hf]; rfl)
        rw [List.length_append, List.length_reverse] at hlength
        exact ⟨names, content, hne, by omega, hf, hp⟩

private theorem isSource_of_same (hnames : ∀ name ∈ names, IsName name)
    (hs : p.same (descend (root.join ⟨"src"⟩) names) = true) : IsSource root p := by
  obtain ⟨hstart, hsteps⟩ := Path.parts_of_same hs
  rw [start_descend (isName_src.join_isEmpty root) hnames] at hstart
  rw [steps_descend hnames] at hsteps
  refine ⟨hstart, hsteps ▸ List.prefix_append _ _, ?_⟩
  rw [hsteps, List.drop_left]
  intro hdots
  obtain ⟨name, hm, hname⟩ := List.mem_map.mp hdots
  exact (hnames name hm).ne_parent hname

private theorem walk_names (ht : t.WellFormed) (hn : ∀ name ∈ names, IsName name)
    (hs : (t.find? (names.reverse ++ l)).isSome) :
    t.walk l (names.map String.toList) = .ok (names.reverse ++ l) := by
  induction names generalizing l with
  | nil => rfl
  | cons name rest ih =>
    obtain ⟨hname, hrest⟩ := List.forall_mem_cons.mp hn
    rw [List.reverse_cons, List.append_assoc, List.singleton_append] at hs ⊢
    have hchild : (t.find? (name :: l)).isSome :=
      ht.find?_isSome_of_suffix hs (List.suffix_append _ _)
    have hdir : t.isDirectoryAt l := ht.isDirectoryAt_tail hchild
    exact walk_cons_eq_ok.mpr ⟨name :: l, step_of_isName hname hdir hchild, ih hrest hs⟩

theorem startOf_descend (hn : ∀ name ∈ names, IsName name) :
    t.startOf (descend d names) = t.startOf d := by
  induction names generalizing d with
  | nil => rfl
  | cons name rest ih =>
    obtain ⟨hname, hrest⟩ := List.forall_mem_cons.mp hn
    change t.startOf (descend (d.join ⟨name⟩) rest) = _
    rw [ih hrest, startOf_join (Path.not_isAbsolute hname.no_slash)]

theorem place?_descend (ht : t.WellFormed) (hd : t.place? d = some l)
    (hn : ∀ name ∈ names, IsName name) (hs : (t.find? (names.reverse ++ l)).isSome) :
    t.place? (descend d names) = some (names.reverse ++ l) := by
  rw [place?_eq_some] at hd ⊢
  rw [startOf_descend hn, steps_descend hn, walk_append_of_ok hd]
  exact walk_names ht hn hs

/-- A path that is spelled as a source leads down from the directory of the sources. -/
private theorem exists_names_of_isSource (hd : t.place? root = some place) (hs : IsSource root p)
    (hp : t.place? p = some l) :
    ∃ names : List String, p.steps = (root.join ⟨"src"⟩).steps ++ names.map String.toList ∧
      l = names.reverse ++ "src" :: place := by
  obtain ⟨hstart, ⟨rest, hrest⟩, hdots⟩ := hs
  rw [← hrest, List.drop_left] at hdots
  have hsame : t.startOf p = t.startOf root := by
    have habs : p.isAbsolute = (root.join ⟨"src"⟩).isAbsolute := by
      rw [Bool.eq_iff_iff, p.isAbsolute_iff, Path.isAbsolute_iff, hstart]
    rw [startOf, habs, ← startOf, startOf_join (Path.not_isAbsolute isName_src.no_slash)]
  have hsteps : p.steps = root.steps ++ "src".toList :: rest := by
    rw [← hrest, Path.steps_join (Path.not_isAbsolute isName_src.no_slash),
      steps_of_isName isName_src, List.append_assoc]
    rfl
  rw [place?_eq_some] at hd hp
  rw [hsame, hsteps, walk_append_of_ok hd] at hp
  have hdown : ['.', '.'] ∉ "src".toList :: rest :=
    List.not_mem_cons_of_ne_of_not_mem isName_src.ne_parent.symm hdots
  have hidle : ("src".toList :: rest).filter (!Path.isIdle ·) = "src".toList :: rest := by
    refine List.filter_eq_self.mpr fun part hm => ?_
    have hmem : part ∈ p.steps := hsteps ▸ List.mem_append_right _ hm
    exact (List.mem_filter.mp hmem).2
  have hl := eq_of_walk hdown hp
  rw [hidle] at hl
  refine ⟨rest.map String.ofList, ?_, by simpa using hl⟩
  rw [← hrest, List.map_map]
  simp [Function.comp_def]

/-- A path is that of a file that is found if and only if it is spelled as a source and leads to a
file. -/
theorem any_same_existingFiles (ht : t.WellFormed) (hd : t.place? root = some place)
    (hplace : t.isDirectoryAt place) (h : existingFiles t root = .ok files) :
    files.any p.same = true ↔ IsSource root p ∧ holdsFile t p = true := by
  obtain ⟨-, hfile, -⟩ := fits_of_existingFiles ht hd hplace h
  have hisName {names : List String} {content : ByteArray}
      (hf : t.find? (names.reverse ++ "src" :: place) = some (.file content)) :
      ∀ name ∈ "src" :: names, IsName name := fun name hm =>
    ht.names _ (List.mem_map_of_mem (mem_of_find? hf (by simp))) name <| by
      rcases List.mem_cons.mp hm with rfl | hm <;> simp [*]
  rw [List.any_eq_true]
  constructor
  · rintro ⟨q, hq, hs⟩
    obtain ⟨names, content, -, hf, rfl⟩ := (mem_existingFiles ht hd hplace h).mp hq
    have hnames := hisName hf
    have hq : t.place? (descend root ("src" :: names)) =
        some (names.reverse ++ "src" :: place) := by
      have hsome : (t.find? (("src" :: names).reverse ++ place)).isSome := by simp [hf]
      simpa using place?_descend ht hd hnames hsome
    refine ⟨isSource_of_same (List.forall_mem_cons.mp hnames).2 hs, holdsFile_iff.mpr ?_⟩
    exact ⟨_, content, (place?_of_same hs).trans hq, hf⟩
  · rintro ⟨hs, hholds⟩
    obtain ⟨l, content, hl, hf⟩ := holdsFile_iff.mp hholds
    obtain ⟨names, hsteps, rfl⟩ := exists_names_of_isSource hd hs hl
    have hnames := (List.forall_mem_cons.mp (hisName hf)).2
    have hne : names ≠ [] := by
      rintro rfl
      exact hfile content hf
    refine ⟨descend (root.join ⟨"src"⟩) names,
      (mem_existingFiles ht hd hplace h).mpr ⟨names, content, hne, hf, rfl⟩, ?_⟩
    refine Path.same_of_steps ?_ ?_
    · rw [start_descend (isName_src.join_isEmpty root) hnames, hs.1]
    · rw [steps_descend hnames, hsteps]

end Scaffold.Output
