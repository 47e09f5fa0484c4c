import Scaffold.Proofs.Output.Staging

/-! Taking back what was staged: when a file cannot be staged, the tree is what it was before the
first one. -/
namespace Scaffold.Output

open FileTree

variable {tree t : FileTree} {avoid : List Path} {s s' : Staging} {l m : Location}

theorem directoriesIn_restrict {parcels : List Parcel}
    (hl : ∀ parcel ∈ parcels, t.LiesAt parcel.temporary parcel.place parcel.entry) :
    t.DirectoriesIn (t.restrict fun l => decide (l ∉ parcels.map Parcel.place)) :=
  .restrict fun l hdir => by
    refine decide_eq_true fun hm => ?_
    obtain ⟨parcel, hparcel, rfl⟩ := List.mem_map.mp hm
    rw [isDirectoryAt_iff, (hl parcel hparcel).1] at hdir
    cases hdir

/-- Without their temporary files, staged files leave nothing where these were. -/
theorem discard_eq {parcels : List Parcel}
    (hl : ∀ parcel ∈ parcels, t.LiesAt parcel.temporary parcel.place parcel.entry)
    (hd : (parcels.map Parcel.place).Nodup) :
    discard t (parcels.map Parcel.staged) =
      t.restrict fun l => decide (l ∉ parcels.map Parcel.place) := by
  induction parcels generalizing t with
  | nil => simp [discard, restrict]
  | cons parcel rest ih =>
    obtain ⟨hfirst, hrest⟩ := List.forall_mem_cons.mp hl
    obtain ⟨hn, hd⟩ := List.nodup_cons.mp hd
    have hdirs : t.DirectoriesIn (t.restrict fun m => decide (m ≠ parcel.place)) := by
      simpa using directoriesIn_restrict (List.forall_mem_singleton.mpr hfirst)
    have hlater : ∀ other ∈ rest, (t.restrict fun m => decide (m ≠ parcel.place)).LiesAt
        other.temporary other.place other.entry := fun other ho => by
      have hne : other.place ≠ parcel.place := fun he => hn (he ▸ List.mem_map_of_mem ho)
      refine (hrest other ho).mono hdirs ?_
      rw [find?_restrict_of_keep (by simpa using hne)]
      exact (hrest other ho).1
    rw [discard, List.map_cons, List.foldl_cons, ← discard, Parcel.staged,
      removeFile_of_liesAt hfirst, ih hlater hd, restrict_restrict]
    simp [not_or]

/-- What staging has recorded of the directories it made: each path led nowhere before, and each
new directory lies at or below the place of one of them. -/
structure Recorded (tree t : FileTree) (created : List Path) : Prop where
  missing : ∀ p ∈ created, .parent ∉ p.components ∧ tree.contains p = false
  covered : ∀ m, t.isDirectoryAt m → tree.find? m = none →
    ∃ p ∈ created, ∃ k, t.resolve p = .ok k ∧ t.isDirectoryAt k ∧ k <:+ m

namespace Recorded

theorem refl (tree : FileTree) : Recorded tree tree [] :=
  ⟨nofun, fun m hm hn => by rw [isDirectoryAt_iff, hn] at hm; cases hm⟩

/-- The places of the records stay what they are in a tree with the same directories and more. -/
theorem mono {t' : FileTree} {created created' : List Path} (h : Recorded tree t created)
    (hd : t.DirectoriesIn t') (hc : created ⊆ created') (hm : t.isDirectoryAt m)
    (hn : tree.find? m = none) :
    ∃ p ∈ created', ∃ k, t'.resolve p = .ok k ∧ t'.isDirectoryAt k ∧ k <:+ m := by
  obtain ⟨p, hp, k, hk, hkd, hkm⟩ := h.covered m hm hn
  have hkd' := hd.isDirectoryAt k hkd
  exact ⟨p, hc hp, k, hd.resolve hk (by rw [isDirectoryAt_iff.mp hkd']; rfl), hkd', hkm⟩

theorem prepare (h : Recorded tree s.tree s.created) (ht : tree.WellFormed)
    (hd : tree.DirectoriesIn s.tree) (hf : ∀ l e, tree.find? l = some e → s.tree.find? l = some e)
    {file : OutputFile} (hp : .parent ∉ file.path.components) :
    Recorded tree (s.prepare file).tree (s.prepare file).created := by
  have hgrown := grown_prepare s (List.mem_singleton_self file.path)
  have hstraight := straight_directoryOf hp
  rw [s.prepare_created]
  refine ⟨fun p hm => ?_, fun m hm hn => ?_⟩
  · rcases List.mem_append.mp hm with hm | hm
    · exact h.missing p hm
    · have hmem := List.mem_of_getLast? (Option.mem_toList.mp hm)
      obtain ⟨hempty, hmissing⟩ : p.isEmpty = false ∧ s.tree.contains p = false := by
        simpa using List.mem_takeWhile_imp hmem
      have hfront := Path.front_of_mem_ancestors (List.takeWhile_subset _ hmem)
      refine ⟨?_, ?_⟩
      · rw [Path.parent_mem_components_iff] at hstraight ⊢
        exact fun hdots => hstraight ((hfront.2 hempty).1.subset hdots)
      · by_contra hcontains
        obtain ⟨k, hk⟩ := contains_iff.mp (by simpa using hcontains)
        obtain ⟨e, he⟩ := Option.isSome_iff_exists.mp (ht.find?_isSome_of_resolve hk)
        have hk' := hd.resolve hk (by rw [hf k e he]; rfl)
        rw [contains_iff.mpr ⟨k, hk'⟩] at hmissing
        cases hmissing
  · by_cases hs : s.tree.find? m = none
    · obtain ⟨q, k, hq, hk⟩ := exists_of_makeDirectories hstraight hm hs
      rw [hq, s.prepare_tree]
      exact ⟨q, List.mem_append_right _ (List.mem_singleton_self q), k, hk⟩
    · obtain ⟨e, he⟩ := Option.ne_none_iff_exists'.mp hs
      have he' := hgrown.find?_of_some he
      rw [isDirectoryAt_iff.mp hm] at he'
      obtain rfl := Option.some.inj he'
      exact h.mono hgrown.directoriesIn (List.subset_append_left _ _) (isDirectoryAt_iff.mpr he) hn

theorem stages {parcel : Parcel} (h : Recorded tree s.tree s.created) (ht : tree.WellFormed)
    (hd : tree.DirectoriesIn s.tree) (hf : ∀ l e, tree.find? l = some e → s.tree.find? l = some e)
    (hstage : Stages avoid s parcel s') (hp : .parent ∉ parcel.file.path.components) :
    Recorded tree s'.tree s'.created := by
  have hprepare := h.prepare ht hd hf hp
  have hcreated : s'.created = (s.prepare parcel.file).created := by rw [hstage.state]
  refine ⟨hcreated ▸ hprepare.missing, fun m hm hn => ?_⟩
  refine hprepare.mono hstage.directoriesIn_prepare (hcreated ▸ List.Subset.refl _) ?_ hn
  have hne : parcel.place ≠ m := by
    rintro rfl
    rw [isDirectoryAt_iff, hstage.find?_place] at hm
    cases hm
  rw [hstage.state, isDirectoryAt_iff, find?_extend] at hm
  rw [isDirectoryAt_iff]
  simpa [Entries.lookup_cons, hne.symm] using hm

theorem stagesAll {parcels : List Parcel} (h : Recorded tree s.tree s.created)
    (ht : tree.WellFormed) (hd : tree.DirectoriesIn s.tree)
    (hf : ∀ l e, tree.find? l = some e → s.tree.find? l = some e)
    (hall : StagesAll avoid s parcels s')
    (hp : ∀ parcel ∈ parcels, .parent ∉ parcel.file.path.components) :
    Recorded tree s'.tree s'.created := by
  induction hall with
  | nil s => exact h
  | cons hstage _ ih =>
    obtain ⟨hfirst, hrest⟩ := List.forall_mem_cons.mp hp
    have hgrown := hstage.grown (List.mem_singleton_self _)
    refine ih (h.stages ht hd hf hstage hfirst) ?_ (fun l e hl => ?_) hrest
    · exact hd.trans hgrown.directoriesIn
    · exact hgrown.find?_of_some (hf l e hl)

end Recorded

/-- Without its temporary files and without the directories that are recorded, a tree to which
staging has come is what it was. -/
theorem undo_of_recorded {paths : List Path} {parcels : List Parcel} (ht : tree.WellFormed)
    (hg : Grown (Puts paths parcels) tree s.tree) (hr : Recorded tree s.tree s.created)
    (hs : s.staged = parcels.map Parcel.staged)
    (hl : ∀ parcel ∈ parcels, s.tree.LiesAt parcel.temporary parcel.place parcel.entry)
    (hd : (parcels.map Parcel.place).Nodup)
    (hfree : ∀ l e, tree.find? l = some e → l ∉ parcels.map Parcel.place) : undo s = tree := by
  have hdirs := directoriesIn_restrict hl
  have hmissing : ∀ p ∈ s.created.reverse, .parent ∉ p.components ∧ tree.contains p = false :=
    fun p hm => hr.missing p (List.mem_reverse.mp hm)
  obtain ⟨keep, hfold, hold, hgone⟩ := exists_restrict_of_removeDirectory ht hmissing
    (hdirs.current.trans hg.directoriesIn.current).symm
    (fun l e he => by
      rw [find?_restrict_of_keep (decide_eq_true (hfree l e he)), hg.find?_of_some he])
  rw [undo, hs, discard_eq hl hd, hfold, restrict_restrict]
  obtain ⟨more, hmore, hnew⟩ := hg.exists_extend
  rw [hmore] at hdirs hgone ⊢
  refine restrict_extend (fun entry hm => ?_) fun entry hm => ?_
  · have hsome := ht.find?_of_mem (e := entry.2) hm
    rw [hold entry.1 (by simp [hsome]), decide_eq_true (hfree _ _ hsome), Bool.and_true]
  · obtain ⟨hnone, p, ⟨hdir, -⟩ | ⟨parcel, hparcel, rfl, -⟩, hlie⟩ := hnew entry hm
    · -- A new directory is taken away with what staging has recorded.
      have hentry : s.tree.isDirectoryAt entry.1 := by
        rw [isDirectoryAt_iff, ← hdir]
        exact hlie.1
      obtain ⟨q, hq, k, hk, hkd, hkm⟩ := hr.covered _ hentry hnone
      rw [hmore] at hk hkd
      have hkd' := hdirs.isDirectoryAt k hkd
      have hk' := hdirs.resolve hk (by rw [isDirectoryAt_iff.mp hkd']; rfl)
      rw [hgone q (List.mem_reverse.mpr hq) k _ hk' hkd' hkm, Bool.and_false]
    · have hplace := Except.ok.inj ((hl parcel hparcel).resolve.symm.trans hlie.resolve)
      have hmem : entry.1 ∈ parcels.map Parcel.place := hplace ▸ List.mem_map_of_mem hparcel
      rw [decide_eq_false (not_not_intro hmem), Bool.false_and]

/-- Taking back a state that staging has reached from a tree gives the tree. -/
theorem undo_eq {parcels : List Parcel} (ht : tree.WellFormed)
    (hall : StagesAll avoid ⟨tree, [], []⟩ parcels s')
    (hp : ∀ parcel ∈ parcels, .parent ∉ parcel.file.path.components)
    {file : OutputFile} (hf : .parent ∉ file.path.components)
    (ha : ∀ parcel ∈ parcels, parcel.file.path ∈ avoid) : undo (s'.prepare file) = tree := by
  have hprepare : Grown (Puts (file.path :: avoid) []) s'.tree (s'.prepare file).tree :=
    grown_prepare s' List.mem_cons_self
  have hstaged := hall.grown fun parcel hm => List.mem_cons_of_mem file.path (ha parcel hm)
  have hrecorded : Recorded tree (s'.prepare file).tree (s'.prepare file).created :=
    ((Recorded.refl tree).stagesAll ht (.refl tree) (fun _ _ hl => hl) hall hp).prepare ht
      hall.directoriesIn (fun _ _ hl => hall.find?_of_some hl) hf
  have hnamed := hall.named ht ha fun _ => Iff.rfl
  refine undo_of_recorded ht (hstaged.trans (hprepare.mono (Puts.mono (List.nil_subset parcels))))
    hrecorded hall.staged_eq (fun parcel hm => ?_) hnamed.nodup fun _ _ he =>
      hnamed.not_mem_of_find? he
  have hl := (hall.liesAt parcel hm).1
  exact hl.mono hprepare.directoriesIn (hprepare.find?_of_some hl.1)

/-- When some file cannot be staged, the error is that of the first such file, and the tree is what
it was: nothing is left of the files staged before it, nor of the directories made for them or for
the file itself. -/
theorem write_of_staging_fails {files : List OutputFile} {e : WriteError} (ht : tree.WellFormed)
    (hp : ∀ file ∈ files, .parent ∉ file.path.components)
    (h : (stageAll (files.map (·.path)) ⟨tree, [], []⟩ files).2 = .error e) :
    write tree files = (tree, .error e) ∧
      ∃ before file after, files = before ++ file :: after ∧ e.path = file.path ∧
        (stageAll (files.map (·.path)) ⟨tree, [], []⟩ before).2 = .ok () ∧
        (stage (files.map (·.path)) (stageAll (files.map (·.path)) ⟨tree, [], []⟩ before).1
          file).2 = .error e := by
  rcases stageAll_cases (files.map (·.path)) ⟨tree, [], []⟩ files with ⟨_, s', _, _, hok⟩ |
    ⟨parcels, s', file, rest, cause, hfiles, hall, hbefore, hstage, hfail⟩
  · rw [hok] at h
    cases h
  rw [hfail] at h
  obtain rfl := Except.error.inj h
  have hmem : ∀ parcel ∈ parcels, parcel.file ∈ files := fun parcel hm =>
    hfiles ▸ List.mem_append_left _ (List.mem_map_of_mem hm)
  refine ⟨?_, parcels.map Parcel.file, file, rest, hfiles, rfl, ?_, ?_⟩
  · rw [write, hfail]
    refine Prod.ext (undo_eq ht hall (fun parcel hm => hp _ (hmem parcel hm)) (hp file ?_)
      fun parcel hm => List.mem_map_of_mem (hmem parcel hm)) rfl
    exact hfiles ▸ List.mem_append_right _ List.mem_cons_self
  · rw [hbefore]
  · rw [hbefore, hstage]

def sourceTree : FileTree :=
  ⟨[], [(["src"], .directory), (["keep.ts", "src"], .file ⟨#[104, 105]⟩)]⟩

/-- Of four files the third has a file on its way; the two before it share a new directory. -/
def blockedFiles : List OutputFile :=
  [⟨⟨"src/new/deep/a.ts"⟩, "a"⟩, ⟨⟨"src/new/b.ts"⟩, "b"⟩, ⟨⟨"src/keep.ts/c.ts"⟩, "c"⟩,
    ⟨⟨"src/keep.ts"⟩, "d"⟩]

theorem write_blockedFiles : sourceTree.WellFormed ∧
    (∀ file ∈ blockedFiles, .parent ∉ file.path.components) ∧
    (stageAll (blockedFiles.map (·.path)) ⟨sourceTree, [], []⟩ blockedFiles).2 =
      .error ⟨⟨"src/keep.ts/c.ts"⟩, .alreadyExists⟩ ∧
    write sourceTree blockedFiles =
      (sourceTree, .error ⟨⟨"src/keep.ts/c.ts"⟩, .alreadyExists⟩) := by
  have hwell : sourceTree.WellFormed := by decide +kernel
  have hstraight : ∀ file ∈ blockedFiles, .parent ∉ file.path.components := by decide +kernel
  have hfail : (stageAll (blockedFiles.map (·.path)) ⟨sourceTree, [], []⟩ blockedFiles).2 =
      .error ⟨⟨"src/keep.ts/c.ts"⟩, .alreadyExists⟩ := by decide +kernel
  exact ⟨hwell, hstraight, hfail, (write_of_staging_fails hwell hstraight hfail).1⟩

end Scaffold.Output
