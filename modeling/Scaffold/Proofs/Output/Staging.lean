import Scaffold.Proofs.FileTree.Removal
import Scaffold.Proofs.Output.Temporary

/-! Staging, one file after the other: which directories and temporary files it puts into the tree,
where these lie, and under which names. When a file cannot be staged, all of it is taken back. -/
namespace Scaffold.Output

open FileTree

variable {tree t : FileTree} {avoid paths : List Path} {s s' : Staging} {l m : Location}

/-- A file that is staged, with the place of its temporary file. -/
structure Parcel where
  file : OutputFile
  temporary : Path
  place : Location

namespace Parcel

def staged (parcel : Parcel) : Staged := ⟨parcel.file.path, parcel.temporary⟩

def entry (parcel : Parcel) : Entry := .file parcel.file.content.toUTF8

end Parcel

theorem path_mem_of_map_file {parcels : List Parcel} {files : List OutputFile}
    (h : parcels.map Parcel.file = files) :
    ∀ parcel ∈ parcels, parcel.file.path ∈ files.map (·.path) := by
  intro parcel hm
  rw [← h]
  exact List.mem_map_of_mem (List.mem_map_of_mem hm)

theorem directoryOf_isEmpty (p : Path) : (directoryOf p).isEmpty = false := by
  unfold directoryOf
  split
  · split
    · rfl
    · next he => simpa using he
  · rfl

theorem steps_directoryOf (p : Path) : (directoryOf p).steps <+: p.steps := by
  unfold directoryOf
  split
  · next d hd =>
    split
    · exact List.nil_prefix
    · next he =>
      obtain ⟨last, hlast⟩ := Path.steps_of_parent? hd (by simpa using he)
      exact hlast ▸ List.prefix_append _ _
  · exact List.nil_prefix

theorem straight_directoryOf {p : Path} (h : .parent ∉ p.components) :
    .parent ∉ (directoryOf p).components := by
  rw [Path.parent_mem_components_iff] at h ⊢
  exact fun hm => h ((steps_directoryOf p).subset hm)

/-- The state in which the directories on the way to a file are made. -/
def Staging.prepare (s : Staging) (file : OutputFile) : Staging :=
  { s with
    tree := (s.tree.makeDirectories (directoryOf file.path)).1
    created := s.created ++ (outermostMissing? s.tree (directoryOf file.path)).toList }

@[simp] theorem Staging.prepare_tree (s : Staging) (file : OutputFile) :
    (s.prepare file).tree = (s.tree.makeDirectories (directoryOf file.path)).1 := rfl

@[simp] theorem Staging.prepare_created (s : Staging) (file : OutputFile) :
    (s.prepare file).created =
      s.created ++ (outermostMissing? s.tree (directoryOf file.path)).toList := rfl

/-- The name of the temporary file that comes next for a file. -/
def Staging.nextName (s : Staging) (avoid : List Path) (file : OutputFile) : String :=
  freshName (namesInUse (s.prepare file).tree avoid)

/-- A file is staged: the directories on its way are made, then its temporary file. -/
structure Stages (avoid : List Path) (s : Staging) (parcel : Parcel) (s' : Staging) : Prop where
  made : (s.tree.makeDirectories (directoryOf parcel.file.path)).2 = .ok ()
  temporary : parcel.temporary =
    (directoryOf parcel.file.path).join ⟨s.nextName avoid parcel.file⟩
  slot : ∃ l, parcel.place = s.nextName avoid parcel.file :: l ∧
    (s.prepare parcel.file).tree.slot parcel.temporary =
      .ok (.named l (s.nextName avoid parcel.file) false)
  free : (s.prepare parcel.file).tree.find? parcel.place = none
  state : s' = ⟨(s.prepare parcel.file).tree.extend [(parcel.place, parcel.entry)],
    (s.prepare parcel.file).created, s.staged ++ [parcel.staged]⟩

/-- Files are staged one after the other. -/
inductive StagesAll (avoid : List Path) : Staging → List Parcel → Staging → Prop
  | nil (s : Staging) : StagesAll avoid s [] s
  | cons {s s₁ s' : Staging} {parcel : Parcel} {rest : List Parcel} :
      Stages avoid s parcel s₁ → StagesAll avoid s₁ rest s' → StagesAll avoid s (parcel :: rest) s'

theorem stage_cases (avoid : List Path) (s : Staging) (file : OutputFile) :
    (∃ cause, stage avoid s file = (s.prepare file, .error ⟨file.path, cause⟩)) ∨
    ∃ parcel s', parcel.file = file ∧ Stages avoid s parcel s' ∧
      stage avoid s file = (s', .ok ()) := by
  unfold stage
  dsimp only
  cases hmake : s.tree.makeDirectories (directoryOf file.path) with
  | mk made result =>
  have hprepare : s.prepare file = ⟨made, s.created ++
      (outermostMissing? s.tree (directoryOf file.path)).toList, s.staged⟩ := by
    simp only [Staging.prepare, hmake]
  cases result with
  | error cause => exact .inl ⟨cause, by rw [hprepare]⟩
  | ok _ =>
    dsimp only
    split
    · next cause _ => exact .inl ⟨cause, by rw [hprepare]⟩
    next after hcreate =>
    obtain ⟨l, name, hs, hf, rfl⟩ := createNew_cases hcreate
    obtain ⟨rfl, -⟩ := slot_join (slash_not_mem_freshName _) (freshName_ne_nil _) hs
    have hname : s.nextName avoid file = freshName (namesInUse made avoid) := by
      rw [Staging.nextName, hprepare]
    generalize freshName (namesInUse made avoid) = name at hs hf hname
    refine .inr ⟨⟨file, (directoryOf file.path).join ⟨name⟩, name :: l⟩, _, rfl,
      ⟨by rw [hmake], ?_, ⟨l, ?_, ?_⟩, ?_, rfl⟩, ?_⟩
    · rw [hname]
    · rw [hname]
    · rw [hname, hprepare]
      exact hs
    · rw [hprepare]
      exact hf
    · simp only [hprepare]
      rfl

theorem stage_of_stages {parcel : Parcel} (h : Stages avoid s parcel s') :
    stage avoid s parcel.file = (s', .ok ()) := by
  obtain ⟨l, hplace, hs⟩ := h.slot
  have hfree := h.free
  have hstate := h.state
  have htemporary := h.temporary
  unfold stage
  dsimp only
  cases hmake : s.tree.makeDirectories (directoryOf parcel.file.path) with
  | mk made result =>
  obtain rfl : result = .ok () := by simpa [hmake] using h.made
  rw [Staging.prepare_tree, hmake] at hs hfree hstate
  rw [Staging.nextName, Staging.prepare_tree, hmake] at htemporary
  rw [Staging.prepare_created] at hstate
  rw [hplace] at hfree
  dsimp only
  rw [← htemporary, createNew_of_slot hs hfree, hstate, hplace]
  rfl

theorem stageAll_cons_of_ok {file : OutputFile} {rest : List OutputFile}
    (h : stage avoid s file = (s', .ok ())) :
    stageAll avoid s (file :: rest) = stageAll avoid s' rest := by
  rw [stageAll, h]

theorem stageAll_of_stagesAll {parcels : List Parcel} (h : StagesAll avoid s parcels s') :
    stageAll avoid s (parcels.map Parcel.file) = (s', .ok ()) := by
  induction h with
  | nil s => rfl
  | cons hstage _ ih => rw [List.map_cons, stageAll_cons_of_ok (stage_of_stages hstage), ih]

theorem stageAll_cases (avoid : List Path) (s : Staging) (files : List OutputFile) :
    (∃ parcels s', parcels.map Parcel.file = files ∧ StagesAll avoid s parcels s' ∧
      stageAll avoid s files = (s', .ok ())) ∨
    ∃ parcels s' file rest cause, files = parcels.map Parcel.file ++ file :: rest ∧
      StagesAll avoid s parcels s' ∧
      stageAll avoid s (parcels.map Parcel.file) = (s', .ok ()) ∧
      stage avoid s' file = (s'.prepare file, .error ⟨file.path, cause⟩) ∧
      stageAll avoid s files = (s'.prepare file, .error ⟨file.path, cause⟩) := by
  induction files generalizing s with
  | nil => exact .inl ⟨[], s, rfl, .nil s, rfl⟩
  | cons file rest ih =>
    rcases stage_cases avoid s file with ⟨cause, h⟩ | ⟨parcel, s₁, rfl, hstage, h⟩
    · exact .inr ⟨[], s, file, rest, cause, rfl, .nil s, rfl, h, by rw [stageAll, h]⟩
    rw [stageAll_cons_of_ok h]
    rcases ih s₁ with ⟨parcels, s', rfl, hall, hok⟩ |
      ⟨parcels, s', failed, others, cause, rfl, hall, hok, hfail⟩
    · exact .inl ⟨parcel :: parcels, s', rfl, .cons hstage hall, hok⟩
    · refine .inr ⟨parcel :: parcels, s', failed, others, cause, rfl, .cons hstage hall, ?_, hfail⟩
      rw [List.map_cons, stageAll_cons_of_ok h, hok]

/-- What staging puts at which path: directories on the way to files, and temporary files. -/
def Puts (paths : List Path) (parcels : List Parcel) (p : Path) (e : Entry) : Prop :=
  (e = .directory ∧ ∃ q ∈ paths, p ∈ (directoryOf q).ancestors) ∨
    ∃ parcel ∈ parcels, p = parcel.temporary ∧ e = parcel.entry

theorem Puts.mono {parcels parcels' : List Parcel} (h : parcels ⊆ parcels') (p : Path) (e : Entry)
    (hp : Puts paths parcels p e) : Puts paths parcels' p e :=
  hp.imp_right fun ⟨parcel, hm, hparcel⟩ => ⟨parcel, h hm, hparcel⟩

theorem grown_prepare (s : Staging) {file : OutputFile} (hf : file.path ∈ paths) :
    Grown (Puts paths []) s.tree (s.prepare file).tree := by
  rw [s.prepare_tree]
  exact (grown_makeDirectories _ _).mono fun _ _ h => .inl ⟨h.2, file.path, hf, h.1⟩

namespace Stages

variable {parcel : Parcel} (h : Stages avoid s parcel s')
include h

theorem find?_place : s'.tree.find? parcel.place = some parcel.entry := by
  rw [h.state, find?_extend, h.free]
  simp [Entries.lookup_cons]

theorem directoriesIn_prepare : (s.prepare parcel.file).tree.DirectoriesIn s'.tree := by
  rw [h.state]
  exact .extend ..

theorem liesAt : s'.tree.LiesAt parcel.temporary parcel.place parcel.entry := by
  obtain ⟨l, hplace, hs⟩ := h.slot
  exact ⟨h.find?_place, l, _, false, hplace, h.directoriesIn_prepare.slot hs, nofun⟩

theorem grown (hf : parcel.file.path ∈ paths) : Grown (Puts paths [parcel]) s.tree s'.tree := by
  obtain ⟨l, hplace, hs⟩ := h.slot
  have hfree := h.free
  have hprepare := (grown_prepare s hf).mono (Puts.mono (List.nil_subset [parcel]))
  rw [h.state]
  rw [hplace] at hfree ⊢
  exact hprepare.add (.inr ⟨parcel, List.mem_singleton_self _, rfl, rfl⟩) hs hfree nofun

theorem isDirectory : s'.tree.isDirectory (directoryOf parcel.file.path) :=
  h.directoriesIn_prepare.isDirectory
    (isDirectory_of_makeDirectories (directoryOf_isEmpty _) h.made)

end Stages

namespace StagesAll

variable {parcels : List Parcel} (h : StagesAll avoid s parcels s')
include h

theorem staged_eq : s'.staged = s.staged ++ parcels.map Parcel.staged := by
  induction h with
  | nil s => simp
  | cons hstage _ ih => rw [ih, hstage.state, List.map_cons, List.append_assoc]; rfl

theorem grown (hp : ∀ parcel ∈ parcels, parcel.file.path ∈ paths) :
    Grown (Puts paths parcels) s.tree s'.tree := by
  induction h with
  | nil s => exact .refl
  | cons hstage _ ih =>
    obtain ⟨hfirst, hrest⟩ := List.forall_mem_cons.mp hp
    exact ((hstage.grown hfirst).mono (Puts.mono (by simp))).trans
      ((ih hrest).mono (Puts.mono (List.subset_cons_self _ _)))

theorem grown_self : Grown (Puts (parcels.map fun parcel => parcel.file.path) parcels)
    s.tree s'.tree :=
  h.grown fun _ hm => List.mem_map_of_mem hm

theorem directoriesIn : s.tree.DirectoriesIn s'.tree := h.grown_self.directoriesIn

theorem find?_of_some {e : Entry} (hl : s.tree.find? l = some e) : s'.tree.find? l = some e :=
  h.grown_self.find?_of_some hl

/-- Each temporary file waits where it was created, in a directory in which its target can lie. -/
theorem liesAt : ∀ parcel ∈ parcels,
    s'.tree.LiesAt parcel.temporary parcel.place parcel.entry ∧
      s'.tree.isDirectory (directoryOf parcel.file.path) := by
  induction h with
  | nil s => nofun
  | cons hstage hall ih =>
    refine List.forall_mem_cons.mpr ⟨⟨?_, ?_⟩, ih⟩
    · exact hstage.liesAt.mono hall.directoriesIn (hall.find?_of_some hstage.find?_place)
    · exact hall.directoriesIn.isDirectory hstage.isDirectory

end StagesAll

/-- A tree in which all that is new lies at the ends of paths in use, or at some other places,
brings the names of these places into use only. -/
theorem mem_namesInUse_of_new {t' : FileTree} {places : List Location} {name : String}
    (ht : t'.WellFormed) (hold : ∀ l ∈ t.entries.map Prod.fst, l ∈ t'.entries.map Prod.fst)
    (hplaces : ∀ l ∈ places, l ∈ t'.entries.map Prod.fst)
    (hnew : ∀ l ∈ t'.entries.map Prod.fst, l ∈ t.entries.map Prod.fst ∨ l ∈ places ∨
      ∃ q ∈ paths, ∃ p e, p.steps <+: q.steps ∧ t'.LiesAt p l e) :
    name ∈ namesInUse t' paths ↔
      name ∈ namesInUse t paths ∨ ∃ l ∈ places, l.head? = some name := by
  constructor
  · intro h
    rcases mem_namesInUse.mp h with ⟨l, hl, hname⟩ | hpath
    · -- The name is that of an entry on the way.
      induction l with
      | nil => cases hname
      | cons first rest ih =>
        by_cases hfirst : name = first
        · subst hfirst
          rcases hnew _ hl with hl | hl | ⟨q, hq, p, e, hp, hlies⟩
          · exact .inl (mem_namesInUse.mpr (.inl ⟨_, hl, List.mem_cons_self⟩))
          · exact .inr ⟨_, hl, rfl⟩
          · obtain ⟨-, l, last, slash, hplace, hs, -⟩ := hlies
            obtain ⟨rfl, rfl⟩ := List.cons.inj hplace
            have hmem := hp.subset (endsIn_of_slot hs).mem_steps
            rw [← q.filter_splitOn] at hmem
            exact .inl (mem_namesInUse.mpr (.inr ⟨q, hq, (List.mem_filter.mp hmem).1⟩))
        · have hrest := List.mem_of_ne_of_mem hfirst hname
          have hfound := mem_of_find? (ht.parent _ hl) (List.ne_nil_of_mem hrest)
          exact ih (List.mem_map_of_mem hfound) hrest
    · exact .inl (mem_namesInUse.mpr (.inr hpath))
  · rintro (h | ⟨l, hl, hhead⟩)
    · refine mem_namesInUse.mpr ((mem_namesInUse.mp h).imp_left ?_)
      exact fun ⟨l, hl, hname⟩ => ⟨l, hold l hl, hname⟩
    · exact mem_namesInUse.mpr (.inl ⟨l, hplaces l hl, List.mem_of_mem_head? hhead⟩)

/-- A directory that is made on the way to a path has a name from the path. -/
theorem steps_of_mem_ancestors {p q : Path} (h : p ∈ (directoryOf q).ancestors)
    (hn : p.isEmpty = false) : p.steps <+: q.steps :=
  ((Path.front_of_mem_ancestors h).2 hn).1.trans (steps_directoryOf q)

theorem isAbsolute_directoryOf {q : Path} (h : (directoryOf q).steps ≠ []) :
    (directoryOf q).isAbsolute = q.isAbsolute := by
  unfold directoryOf at h ⊢
  split at h
  · next d hd =>
    split at h
    · exact absurd rfl h
    · next he =>
      simp only [if_neg he]
      exact Path.isAbsolute_of_isPrefix (Path.parent?_text_isPrefix hd) (by simpa using he)
  · exact absurd rfl h

theorem isEmpty_of_liesAt {p : Path} {e : Entry} (h : t.LiesAt p l e) : p.isEmpty = false :=
  isEmpty_of_checkText (checkText_of_resolve h.resolve)

/-- Staging brings no names into use but those of temporary files. -/
theorem mem_namesInUse_of_grown {t' : FileTree} {parcels : List Parcel} {name : String}
    (ht : t'.WellFormed) (hg : Grown (Puts paths parcels) t t')
    (hl : ∀ parcel ∈ parcels, t'.LiesAt parcel.temporary parcel.place parcel.entry) :
    name ∈ namesInUse t' paths ↔
      name ∈ namesInUse t paths ∨ ∃ l ∈ parcels.map Parcel.place, l.head? = some name := by
  obtain ⟨more, rfl, hmore⟩ := hg.exists_extend
  refine mem_namesInUse_of_new ht (fun l hm => ?_) (fun l hm => ?_) fun l hm => ?_
  · rw [extend, List.map_append]
    exact List.mem_append_left _ hm
  · obtain ⟨parcel, hparcel, rfl⟩ := List.mem_map.mp hm
    obtain ⟨hfound, _, _, _, hplace, -⟩ := hl parcel hparcel
    exact List.mem_map.mpr ⟨_, mem_of_find? hfound (by simp [hplace]), rfl⟩
  · rw [extend, List.map_append] at hm
    refine (List.mem_append.mp hm).imp_right fun hm => ?_
    obtain ⟨entry, hentry, rfl⟩ := List.mem_map.mp hm
    obtain ⟨-, p, ⟨-, q, hq, hp⟩ | ⟨parcel, hparcel, rfl, -⟩, hlies⟩ := hmore entry hentry
    · exact .inr ⟨q, hq, p, _, steps_of_mem_ancestors hp (isEmpty_of_liesAt hlies), hlies⟩
    · have hplace := Except.ok.inj ((hl parcel hparcel).resolve.symm.trans hlies.resolve)
      exact .inl (hplace ▸ List.mem_map_of_mem hparcel)

/-- The temporary files have the first names that are not in use, and none has the name of
another. -/
def Named : List String → List Parcel → Prop
  | _, [] => True
  | used, parcel :: rest =>
    parcel.temporary = (directoryOf parcel.file.path).join ⟨freshName used⟩ ∧
      (∃ l, parcel.place = freshName used :: l) ∧ Named (freshName used :: used) rest

theorem Named.not_mem {used : List String} {parcels : List Parcel} (h : Named used parcels) :
    ∀ parcel ∈ parcels, ∃ name l, parcel.place = name :: l ∧ name ∉ used := by
  induction parcels generalizing used with
  | nil => nofun
  | cons parcel rest ih =>
    obtain ⟨-, ⟨l, hl⟩, hrest⟩ := h
    refine List.forall_mem_cons.mpr ⟨⟨_, l, hl, freshName_not_mem used⟩, fun other hm => ?_⟩
    obtain ⟨name, m, hplace, hn⟩ := ih hrest other hm
    exact ⟨name, m, hplace, fun h => hn (List.mem_cons_of_mem _ h)⟩

/-- Nothing lies at the place of a temporary file before it is created. -/
theorem Named.find?_eq_none {parcels : List Parcel} (h : Named (namesInUse tree paths) parcels)
    (hl : l ∈ parcels.map Parcel.place) : tree.find? l = none := by
  obtain ⟨parcel, hparcel, rfl⟩ := List.mem_map.mp hl
  obtain ⟨name, rest, hplace, hname⟩ := h.not_mem parcel hparcel
  by_contra hsome
  obtain ⟨e, he⟩ := Option.ne_none_iff_exists'.mp hsome
  rw [hplace] at he
  exact hname (mem_namesInUse_of_find? he)

theorem Named.not_mem_of_find? {parcels : List Parcel} {e : Entry}
    (h : Named (namesInUse tree paths) parcels) (hl : tree.find? l = some e) :
    l ∉ parcels.map Parcel.place := by
  intro hm
  rw [h.find?_eq_none hm] at hl
  cases hl

theorem Named.nodup {used : List String} {parcels : List Parcel} (h : Named used parcels) :
    (parcels.map Parcel.place).Nodup := by
  induction parcels generalizing used with
  | nil => exact List.nodup_nil
  | cons parcel rest ih =>
    obtain ⟨-, ⟨l, hl⟩, hrest⟩ := h
    refine List.nodup_cons.mpr ⟨fun hm => ?_, ih hrest⟩
    obtain ⟨other, ho, hplace⟩ := List.mem_map.mp hm
    obtain ⟨name, m, hother, hn⟩ := hrest.not_mem other ho
    rw [hother, hl] at hplace
    exact hn ((List.cons.inj hplace).1 ▸ List.mem_cons_self)

theorem StagesAll.named {parcels : List Parcel} {used : List String}
    (h : StagesAll paths s parcels s') (ht : s.tree.WellFormed)
    (hp : ∀ parcel ∈ parcels, parcel.file.path ∈ paths)
    (hu : ∀ name, name ∈ namesInUse s.tree paths ↔ name ∈ used) : Named used parcels := by
  induction h generalizing used with
  | nil s => trivial
  | @cons s s₁ s' parcel rest hstage hall ih =>
    obtain ⟨hfirst, hrest⟩ := List.forall_mem_cons.mp hp
    have hprepare := grown_prepare s hfirst
    have hname : s.nextName paths parcel.file = freshName used := freshName_congr fun name => by
      rw [mem_namesInUse_of_grown (hprepare.wellFormed ht) hprepare nofun, hu]
      simp
    obtain ⟨l, hplace, -⟩ := hstage.slot
    have hgrown := hstage.grown hfirst
    refine ⟨hname ▸ hstage.temporary, ⟨l, hname ▸ hplace⟩, ih (hgrown.wellFormed ht) hrest ?_⟩
    intro name
    rw [mem_namesInUse_of_grown (hgrown.wellFormed ht) hgrown
      (List.forall_mem_singleton.mpr hstage.liesAt), hu]
    simp [hplace, hname, or_comm, eq_comm]

end Scaffold.Output
