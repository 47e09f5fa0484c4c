import Scaffold.Proofs.Output.Commit

/-! Writing the same files once more. All directories are there, the temporary files get the names
that they had, and each target is replaced by what lies there: the tree does not change. -/
namespace Scaffold.Output

open FileTree

variable {tree t u : FileTree} {paths : List Path} {parcels : List Parcel} {files : List OutputFile}

theorem wellFormed_putAll {moved : List (OutputFile × Location)} (ht : t.WellFormed)
    (h : ∀ m ∈ moved, CanHold t m.1.path m.2) : (t.putAll (placed moved)).WellFormed := by
  induction moved generalizing t with
  | nil => exact ht
  | cons m rest ih =>
    obtain ⟨hfirst, hrest⟩ := List.forall_mem_cons.mp h
    obtain ⟨hd, hd'⟩ := directoriesIn_put hfirst.1 m.1.content.toUTF8
    refine ih (t := t.put m.2 (.file m.1.content.toUTF8)) ?_ fun other ho =>
      (hrest other ho).mono hd hd'
    obtain ⟨hnot, l, name, hplace, hs⟩ := hfirst
    have hend := endsIn_of_slot hs
    rw [hplace] at hnot ⊢
    exact ht.put hend.isDirectoryAt hend.isName hnot _

/-- A parcel is staged as before in a tree with all directories and with the same names in use. -/
theorem stages_again {s : Staging} {used : List String} {parcel : Parcel}
    (hd : t.DirectoriesIn s.tree)
    (hl : t.LiesAt parcel.temporary parcel.place parcel.entry)
    (hdir : t.isDirectory (directoryOf parcel.file.path))
    (hname : parcel.temporary = (directoryOf parcel.file.path).join ⟨freshName used⟩)
    (hplace : ∃ l, parcel.place = freshName used :: l)
    (hu : ∀ name, name ∈ namesInUse s.tree paths ↔ name ∈ used) :
    Stages paths s parcel ⟨s.tree.extend [(parcel.place, parcel.entry)],
      (s.prepare parcel.file).created, s.staged ++ [parcel.staged]⟩ := by
  have hmade := makeDirectories_of_isDirectory (hd.isDirectory hdir)
  have htree : (s.prepare parcel.file).tree = s.tree := by
    rw [s.prepare_tree, hmade]
  have hnext : s.nextName paths parcel.file = freshName used := by
    rw [Staging.nextName, htree]
    exact freshName_congr hu
  obtain ⟨l, hplace⟩ := hplace
  refine ⟨by rw [hmade], by rw [hnext, hname], ⟨l, by rw [hnext, hplace], ?_⟩, ?_, by rw [htree]⟩
  · obtain ⟨-, l', name', slash, hplace', hs, -⟩ := hl
    rw [hname] at hs
    obtain ⟨rfl, rfl⟩ := slot_join (slash_not_mem_freshName _) (freshName_ne_nil _) hs
    obtain ⟨-, rfl⟩ := List.cons.inj (hplace.symm.trans hplace')
    rw [hnext, htree, hname]
    exact hd.slot hs
  · rw [htree, hplace]
    by_contra hsome
    obtain ⟨e, he⟩ := Option.ne_none_iff_exists'.mp hsome
    exact freshName_not_mem used ((hu _).mp (mem_namesInUse_of_find? he))

/-- All parcels are staged as before, and nothing else is put into the tree. -/
theorem stagesAll_again {s : Staging} {used : List String} (hwell : s.tree.WellFormed)
    (hd : t.DirectoriesIn s.tree)
    (hl : ∀ parcel ∈ parcels, t.LiesAt parcel.temporary parcel.place parcel.entry ∧
      t.isDirectory (directoryOf parcel.file.path))
    (hp : ∀ parcel ∈ parcels, parcel.file.path ∈ paths)
    (hn : Named used parcels) (hu : ∀ name, name ∈ namesInUse s.tree paths ↔ name ∈ used) :
    ∃ s', StagesAll paths s parcels s' ∧
      s'.tree = s.tree.extend (parcels.map fun parcel => (parcel.place, parcel.entry)) := by
  induction parcels generalizing s used with
  | nil => exact ⟨s, .nil s, (extend_nil _).symm⟩
  | cons parcel rest ih =>
    obtain ⟨⟨hfirst, hdir⟩, hrest⟩ := List.forall_mem_cons.mp hl
    obtain ⟨hpath, hpaths⟩ := List.forall_mem_cons.mp hp
    obtain ⟨hname, ⟨l, hplace⟩, hnamed⟩ := hn
    have hstage := stages_again hd hfirst hdir hname ⟨l, hplace⟩ hu
    have hgrown := hstage.grown hpath
    obtain ⟨s', hall, htree⟩ := ih (hgrown.wellFormed hwell) (hd.trans hgrown.directoriesIn) hrest
      hpaths hnamed fun name => by
        rw [mem_namesInUse_of_grown (hgrown.wellFormed hwell) hgrown
          (List.forall_mem_singleton.mpr hstage.liesAt), hu]
        simp [hplace, or_comm, eq_comm]
    exact ⟨s', .cons hstage hall, by rw [htree, extend_extend]; rfl⟩

/-- Files go to the same places whenever they are moved among the same directories. -/
theorem moved_unique {moved moved' : List (OutputFile × Location)}
    (hm : ∀ m ∈ moved, CanHold t m.1.path m.2) (hm' : ∀ m ∈ moved', CanHold t m.1.path m.2)
    (h : moved.map Prod.fst = moved'.map Prod.fst) : moved = moved' := by
  induction moved generalizing moved' with
  | nil => exact (List.map_eq_nil_iff.mp h.symm).symm
  | cons m rest ih =>
    match moved', h with
    | m' :: rest', h =>
      obtain ⟨hfile, hfiles⟩ := List.cons.inj h
      obtain ⟨hfirst, hrest⟩ := List.forall_mem_cons.mp hm
      obtain ⟨hfirst', hrest'⟩ := List.forall_mem_cons.mp hm'
      have hplace := hfirst.unique (hfile ▸ hfirst')
      rw [Prod.ext hfile hplace, ih hrest hrest' hfiles]

theorem putAll_again {moved : List (OutputFile × Location)} (ht : t.WellFormed)
    (h : ∀ m ∈ moved, CanHold t m.1.path m.2) :
    (t.putAll (placed moved)).putAll (placed moved) = t.putAll (placed moved) := by
  have hne := ne_nil_of_mem_placed h
  refine (wellFormed_putAll ht h).putAll_eq_self hne fun entry he => ?_
  rw [find?_putAll _ _ hne, find?_putAll _ _ hne]
  cases hg : (placed moved).reverse.lookup entry.1 with
  | some e => rfl
  | none =>
    refine absurd ?_ (Entries.lookup_eq_none_iff.mp hg)
    exact List.mem_map_of_mem (List.mem_reverse.mpr he)

/-- What lies in a tree after files have been written was there before, or it is a file at the end
of its path, or a directory that was made on the way to a file. -/
theorem find?_placed_cases {s : Staging} {moved : List (OutputFile × Location)}
    {made : List (Location × Entry)} {l : Location} {e : Entry}
    (hall : StagesAll paths ⟨tree, [], []⟩ parcels s)
    (hp : ∀ parcel ∈ parcels, parcel.file.path ∈ paths)
    (hmade : ∀ l e, (l, e) ∈ made → e = .directory ∧ tree.find? l = none ∧ s.tree.isDirectoryAt l)
    (hd : s.tree.DirectoriesIn (tree.extend made))
    (hmoved : ∀ m ∈ moved, CanHold (tree.extend made) m.1.path m.2)
    (hl : ((tree.extend made).putAll (placed moved)).find? l = some e) :
    tree.find? l = some e ∨
      (∃ m ∈ moved, ((tree.extend made).putAll (placed moved)).LiesAt m.1.path l e) ∨
      (e = .directory ∧ tree.find? l = none ∧ ∃ q ∈ paths, ∃ p ∈ (directoryOf q).ancestors,
        ((tree.extend made).putAll (placed moved)).LiesAt p l .directory) := by
  obtain ⟨hdirs, hback, -⟩ := resolve_of_moved hmoved
  have hfound := hl
  rw [find?_putAll _ _ (ne_nil_of_mem_placed hmoved)] at hfound
  cases hg : (placed moved).reverse.lookup l with
  | some other =>
    obtain ⟨m, hm, heq⟩ := mem_placed.mp (List.mem_reverse.mp (Entries.mem_of_lookup hg))
    obtain ⟨rfl, -⟩ := Prod.mk.inj heq
    obtain ⟨-, l, name, hplace, hs⟩ := (hmoved m hm).mono hdirs hback
    exact .inr (.inl ⟨m, hm, hl, l, name, false, hplace, hs, nofun⟩)
  | none =>
    rw [hg, Option.none_or, find?_extend] at hfound
    cases hold : tree.find? l with
    | some old =>
      rw [hold, Option.some_or] at hfound
      exact .inl hfound
    | none =>
      rw [hold, Option.none_or] at hfound
      obtain ⟨rfl, -, hdir⟩ := hmade _ _ (Entries.mem_of_lookup hfound)
      obtain ⟨p, ⟨-, q, hq, hpq⟩ | ⟨_, _, _, hentry⟩, hlies⟩ :=
        (hall.grown hp).liesAt (isDirectoryAt_iff.mp hdir) hold
      · exact .inr (.inr ⟨rfl, rfl, q, hq, p, hpq, hlies.mono (hd.trans hdirs) hl⟩)
      · cases hentry

/-- Files that have been written bring no names into use that are not in their paths. -/
theorem mem_namesInUse_of_placed {s : Staging} {moved : List (OutputFile × Location)}
    {made : List (Location × Entry)} {name : String} (ht : tree.WellFormed)
    (hall : StagesAll paths ⟨tree, [], []⟩ parcels s)
    (hp : ∀ parcel ∈ parcels, parcel.file.path ∈ paths)
    (hmade : ∀ l e, (l, e) ∈ made → e = .directory ∧ tree.find? l = none ∧ s.tree.isDirectoryAt l)
    (hwell : (tree.extend made).WellFormed) (hd : s.tree.DirectoriesIn (tree.extend made))
    (hmoved : ∀ m ∈ moved, m.1.path ∈ paths ∧ CanHold (tree.extend made) m.1.path m.2) :
    name ∈ namesInUse ((tree.extend made).putAll (placed moved)) paths ↔
      name ∈ namesInUse tree paths := by
  have hplaces : ∀ m ∈ moved, CanHold (tree.extend made) m.1.path m.2 := fun m hm => (hmoved m hm).2
  have hafter := wellFormed_putAll hwell hplaces
  have hnone : ∀ l ∈ ([] : List Location),
      l ∈ ((tree.extend made).putAll (placed moved)).entries.map Prod.fst := nofun
  rw [@mem_namesInUse_of_new tree _ _ _ _ hafter ?_ hnone ?_]
  · simp
  · intro l hl
    obtain ⟨entry, he, rfl⟩ := List.mem_map.mp hl
    have hsome := find?_extend_of_some (ht.find?_of_mem (e := entry.2) he) made
    obtain ⟨e, hfound⟩ : ∃ e, ((tree.extend made).putAll (placed moved)).find? entry.1 =
        some e := by
      rw [find?_putAll _ _ (ne_nil_of_mem_placed hplaces), hsome]
      cases (placed moved).reverse.lookup entry.1 <;> simp
    exact List.mem_map.mpr ⟨_, mem_of_find? hfound (ht.ne_root _ hl), rfl⟩
  · intro l hl
    obtain ⟨⟨place, e⟩, he, rfl⟩ := List.mem_map.mp hl
    rcases find?_placed_cases hall hp hmade hd hplaces (hafter.find?_of_mem he) with
      hold | ⟨m, hm, hlies⟩ | ⟨rfl, -, q, hq, p, hpq, hlies⟩
    · exact .inl (List.mem_map.mpr ⟨_, mem_of_find? hold (hafter.ne_root _ hl), rfl⟩)
    · exact .inr (.inr ⟨_, (hmoved m hm).1, _, _, List.prefix_rfl, hlies⟩)
    · exact .inr (.inr ⟨q, hq, p, _, steps_of_mem_ancestors hpq (isEmpty_of_liesAt hlies), hlies⟩)

/-- What writing leaves when it succeeds: the staged files, the tree without their temporary files,
in which the new directories stand behind the old entries, and the places of the files in it. -/
theorem exists_of_write {after : FileTree} (ht : tree.WellFormed)
    (h : write tree files = (after, .ok ())) :
    ∃ parcels s made moved, parcels.map Parcel.file = files ∧
      StagesAll (files.map (·.path)) ⟨tree, [], []⟩ parcels s ∧
      files = moved.map Prod.fst ∧ after = (tree.extend made).putAll (placed moved) ∧
      (tree.extend made).WellFormed ∧ s.tree.DirectoriesIn (tree.extend made) ∧
      (∀ l e, (l, e) ∈ made ↔ e = .directory ∧ tree.find? l = none ∧ s.tree.isDirectoryAt l) ∧
      ∀ m ∈ moved, CanHold (tree.extend made) m.1.path m.2 := by
  rcases stageAll_cases (files.map (·.path)) ⟨tree, [], []⟩ files with
    ⟨parcels, s, hfiles, hall, hok⟩ | ⟨_, _, _, _, _, _, _, _, _, hfail⟩
  swap
  · rw [write, hfail] at h
    cases h
  have hp := path_mem_of_map_file hfiles
  have hwait := waiting_of_stagesAll ht hall hp
  obtain ⟨made, hmade, hdirs⟩ := exists_made ht hall hp
  obtain ⟨moved, rest, hmap, hmoved, htree, hend⟩ := commit_cases hwait
  have hcommit : commit s.tree (parcels.map Parcel.staged) = (after, .ok ()) := by
    rw [write, hok] at h
    exact (congrArg (commit s.tree) hall.staged_eq).symm.trans h
  rw [hcommit] at htree hend
  obtain ⟨rfl, -⟩ | ⟨_, _, _, _, _, hfail⟩ := hend
  swap
  · cases hfail
  have hkept := directoriesIn_restrict hwait.liesAt
  have hwell := ((hall.grown hp).wellFormed ht).restrict hkept
  have hback : (tree.extend made).DirectoriesIn s.tree := hmade ▸ .of_restrict ..
  rw [hmade] at hkept hwell htree
  exact ⟨parcels, s, made, moved, hfiles, hall, by rw [← hfiles, hmap, List.append_nil], htree,
    hwell,
    hkept, hdirs, fun m hm => (hmoved m hm).mono hkept hback⟩

/-- Files that have been written have brought no names into use that are not in their paths. -/
theorem mem_namesInUse_of_write {after : FileTree} {name : String} (ht : tree.WellFormed)
    (h : write tree files = (after, .ok ())) :
    name ∈ namesInUse after (files.map (·.path)) ↔ name ∈ namesInUse tree (files.map (·.path)) := by
  obtain ⟨parcels, s, made, moved, hfiles, hall, hmap, rfl, hwell, hkept, hmade, hmoved⟩ :=
    exists_of_write ht h
  have hp := path_mem_of_map_file hfiles
  exact mem_namesInUse_of_placed ht hall hp (fun l e hm => (hmade l e).mp hm) hwell hkept
    fun m hm => ⟨hmap ▸ List.mem_map_of_mem (List.mem_map_of_mem hm), hmoved m hm⟩

/-- Files are written when they can be staged with nothing but temporary files put into the tree,
and each of them can be put at the end of its path. -/
theorem write_of_stagesAll {s : Staging} {moved : List (OutputFile × Location)} (ht : t.WellFormed)
    (hfiles : parcels.map Parcel.file = files)
    (hall : StagesAll (files.map (·.path)) ⟨t, [], []⟩ parcels s)
    (hs : s.tree = t.extend (parcels.map fun parcel => (parcel.place, parcel.entry)))
    (hmoved : ∀ m ∈ moved, CanHold t m.1.path m.2) (hmap : files = moved.map Prod.fst) :
    write t files = (t.putAll (placed moved), .ok ()) := by
  have hp := path_mem_of_map_file hfiles
  have hnamed := hall.named ht hp fun _ => Iff.rfl
  have hdropped : (s.tree.restrict fun l => decide (l ∉ parcels.map Parcel.place)) = t := by
    rw [hs]
    refine restrict_extend (fun entry hm => ?_) fun entry hm => ?_
    · exact decide_eq_true (hnamed.not_mem_of_find? (ht.find?_of_mem (e := entry.2) hm))
    · obtain ⟨parcel, hparcel, rfl⟩ := List.mem_map.mp hm
      simpa using ⟨parcel, hparcel, rfl⟩
  have hwait := waiting_of_stagesAll ht hall hp
  have hkept := directoriesIn_restrict hwait.liesAt
  have hback : t.DirectoriesIn s.tree := by
    rw [hs]
    exact .extend ..
  rw [hdropped] at hkept
  obtain ⟨moved', rest, hmap', hmoved', htree, hend⟩ := commit_cases hwait
  have hheld : ∀ m ∈ moved', CanHold t m.1.path m.2 := fun m hm => (hmoved' m hm).mono hkept hback
  obtain ⟨rfl, hok⟩ | ⟨failed, later, cause, rfl, hnot, -⟩ := hend
  · rw [List.append_nil, hfiles, hmap] at hmap'
    rw [hdropped, ← moved_unique hmoved hheld hmap'] at htree
    have hstage := stageAll_of_stagesAll hall
    rw [hfiles] at hstage
    rw [write, hstage]
    refine (congrArg (commit s.tree) hall.staged_eq).trans (Prod.ext htree hok)
  · -- The file at which the moves would stop can be put at the end of its path.
    have hmem : failed ∈ moved.map Prod.fst := by
      rw [← hmap, ← hfiles, hmap']
      exact List.mem_append_right _ List.mem_cons_self
    obtain ⟨m, hm, rfl⟩ := List.mem_map.mp hmem
    exact absurd ((hmoved m hm).mono hback hkept) (hnot m.2)

/-- Files that have been written are written again without a change to the tree. -/
theorem write_again {after : FileTree} (ht : tree.WellFormed)
    (h : write tree files = (after, .ok ())) : write after files = (after, .ok ()) := by
  obtain ⟨parcels, s, made, moved, hfiles, hall, hmap, hplaced, hwell, hkept, hmade, hmoved⟩ :=
    exists_of_write ht h
  have hp := path_mem_of_map_file hfiles
  have hafter : after.WellFormed := hplaced ▸ wellFormed_putAll hwell hmoved
  obtain ⟨hputs, hputs', -⟩ := resolve_of_moved hmoved
  rw [← hplaced] at hputs hputs'
  obtain ⟨s', hall', hstaged⟩ := stagesAll_again (s := ⟨after, [], []⟩) hafter (hkept.trans hputs)
    hall.liesAt hp (hall.named ht hp fun _ => Iff.rfl) fun _ => mem_namesInUse_of_write ht h
  rw [write_of_stagesAll hafter hfiles hall' hstaged
    (fun m hm => (hmoved m hm).mono hputs hputs') hmap]
  refine Prod.ext ?_ rfl
  rw [hplaced, putAll_again hwell hmoved]

end Scaffold.Output
