import Scaffold.Proofs.Output.Rescanning

/-! What has become of each location when files have been written: where files were to lie, the last
of them lies, the directories on their way are there, and all else is as it was. -/
namespace Scaffold.Output

open FileTree

variable {tree after : FileTree} {files : List OutputFile} {l : Location} {p : Path}

/-- Where a path without two dots leads, if anything lies there. Empty parts and dots are passed
over. -/
def locationOf (tree : FileTree) (p : Path) : Location :=
  (p.steps.map String.ofList).reverse ++ tree.startOf p

/-- The last of some files that is to lie at a location. -/
def lastAt? (tree : FileTree) (files : List OutputFile) (l : Location) : Option OutputFile :=
  files.reverse.find? fun file => locationOf tree file.path = l

theorem lastAt?_eq_none : lastAt? tree files l = none ↔
    ∀ file ∈ files, locationOf tree file.path ≠ l := by
  simp [lastAt?]

theorem of_lastAt?_eq_some {last : OutputFile} (h : lastAt? tree files l = some last) :
    locationOf tree last.path = l ∧ ∃ before later, files = before ++ last :: later ∧
      ∀ other ∈ later, locationOf tree other.path ≠ l := by
  obtain ⟨hl, front, back, hsplit, hfront⟩ := List.find?_eq_some_iff_append.mp h
  refine ⟨by simpa using hl, back.reverse, front.reverse, ?_, fun other ho => ?_⟩
  · rw [← List.reverse_reverse files, hsplit]
    simp
  · simpa using hfront other (List.mem_reverse.mp ho)

theorem exists_lastAt?_of_mem (tree : FileTree) {file : OutputFile} (h : file ∈ files) :
    ∃ last, lastAt? tree files (locationOf tree file.path) = some last := by
  cases hlast : lastAt? tree files (locationOf tree file.path) with
  | some last => exact ⟨last, rfl⟩
  | none => exact absurd rfl (lastAt?_eq_none.mp hlast file h)

theorem locationOf_of_resolve (hd : tree.DirectoriesIn after) (hp : .parent ∉ p.components)
    (h : after.resolve p = .ok l) : locationOf tree p = l := by
  rw [eq_of_resolve hp h, hd.startOf, locationOf]

/-- A directory that lies on the way to a path and is not where a path starts stands above the end
of the path. -/
theorem suffix_of_mem_ancestors {q : Path} (ht : tree.WellFormed) (hd : tree.DirectoriesIn after)
    (hq : .parent ∉ q.components) (hp : p ∈ (directoryOf q).ancestors)
    (hlies : after.LiesAt p l .directory) (hnew : tree.find? l = none) :
    l <:+ locationOf tree q := by
  have hfront := steps_of_mem_ancestors hp (isEmpty_of_liesAt hlies)
  have hstraight : .parent ∉ p.components := by
    rw [Path.parent_mem_components_iff] at hq ⊢
    exact fun hm => hq (hfront.subset hm)
  have hl := locationOf_of_resolve hd hstraight hlies.resolve
  have hsteps := steps_ne_nil_of_new ht hd hlies.resolve hnew
  have hstart : tree.startOf p = tree.startOf q := startOf_of_mem_ancestors hp hsteps
  obtain ⟨rest, hrest⟩ := hfront
  rw [← hl, locationOf, locationOf, ← hrest, hstart]
  simp

theorem lookup_placed {moved : List (OutputFile × Location)}
    (h : ∀ m ∈ moved, locationOf tree m.1.path = m.2) :
    (placed moved).reverse.lookup l =
      (lastAt? tree (moved.map Prod.fst) l).map fun last => .file last.content.toUTF8 := by
  have hplaced : placed moved = (moved.map Prod.fst).map fun file =>
      (locationOf tree file.path, .file file.content.toUTF8) := by
    rw [placed, List.map_map]
    exact List.map_congr_left fun m hm => by rw [Function.comp_apply, h m hm]
  rw [hplaced, ← List.map_reverse, Entries.lookup_map, lastAt?]
  simp only [Bool.beq_eq_decide_eq]

section

variable (ht : tree.WellFormed) (h : write tree files = (after, .ok ()))
include ht h

theorem not_contains_temporary :
    ∀ file ∈ (stageAll (files.map (·.path)) ⟨tree, [], []⟩ files).1.staged,
      after.contains file.temporary = false := by
  obtain ⟨parcels, s, made, moved, hfiles, hall, -, hafter, -, hkept, -, hmoved⟩ :=
    exists_of_write ht h
  have hin := path_mem_of_map_file hfiles
  have hstaged := stageAll_of_stagesAll hall
  rw [hfiles] at hstaged
  rw [hstaged, hall.staged_eq, List.nil_append]
  intro staged hs
  obtain ⟨parcel, hparcel, rfl⟩ := List.mem_map.mp hs
  -- The slot of the temporary file is still there, so that the path leads to nothing but its place.
  obtain ⟨-, here, name, slash, hplace, hslot, -⟩ := (hall.liesAt parcel hparcel).1
  have hputs := (resolve_of_moved hmoved).1
  rw [← hafter] at hputs
  have hend := endsIn_of_slot ((hkept.trans hputs).slot hslot)
  by_contra hcontains
  obtain ⟨r, hr⟩ := contains_iff.mp (by simpa using hcontains)
  obtain ⟨-, hsome⟩ := hend.find?_isSome hr
  obtain ⟨e, he⟩ := Option.isSome_iff_exists.mp hsome
  have hused : name ∈ namesInUse after (files.map (·.path)) := mem_namesInUse_of_find? he
  obtain ⟨fresh, l, hfresh, hunused⟩ :=
    (hall.named ht hin fun _ => Iff.rfl).not_mem parcel hparcel
  obtain ⟨rfl, -⟩ := List.cons.inj (hplace.symm.trans hfresh)
  exact hunused ((mem_namesInUse_of_write ht h).mp hused)

variable (hpaths : ∀ file ∈ files, .parent ∉ file.path.components)
include hpaths

theorem resolve_of_write :
    ∀ file ∈ files, after.resolve file.path = .ok (locationOf tree file.path) := by
  intro file hm
  have hw := written_of_write ht h
  obtain ⟨l, hl, -⟩ := hw.exists_place file.path (List.mem_map_of_mem hm)
  rw [hl, locationOf_of_resolve hw.directoriesIn (hpaths file hm) hl]

/-- Where nothing lay and no file was to lie, only the directories on the way to files are new. -/
theorem find?_of_unlisted (hunlisted : ∀ file ∈ files, locationOf tree file.path ≠ l)
    (hnew : tree.find? l = none) : after.find? l =
      if ∃ file ∈ files, l <:+ locationOf tree file.path then some .directory else none := by
  have hw := written_of_write ht h
  have hplace := resolve_of_write ht h hpaths
  split
  · next habove =>
    obtain ⟨file, hm, hsuffix⟩ := habove
    have hsome := hw.wellFormed.find?_isSome_of_resolve (hplace file hm)
    have hdir := hw.wellFormed.isDirectoryAt_of_suffix hsome hsuffix (hunlisted file hm).symm
    exact isDirectoryAt_iff.mp hdir
  · next habove =>
    by_contra hsome
    obtain ⟨e, he⟩ := Option.ne_none_iff_exists'.mp hsome
    rcases hw.new l e he with hold | ⟨q, hq, hres⟩ | ⟨rfl, -, q, hq, p, hp, hlies⟩
    · rw [hnew] at hold
      cases hold
    · obtain ⟨file, hm, rfl⟩ := List.mem_map.mp hq
      exact hunlisted file hm (Except.ok.inj ((hplace file hm).symm.trans hres))
    · obtain ⟨file, hm, rfl⟩ := List.mem_map.mp hq
      have hsuffix := suffix_of_mem_ancestors ht hw.directoriesIn (hpaths file hm) hp hlies hnew
      exact habove ⟨file, hm, hsuffix⟩

theorem find?_of_write (l : Location) : after.find? l =
    ((lastAt? tree files l).map fun last => .file last.content.toUTF8).or
      ((tree.find? l).or
        (if ∃ file ∈ files, l <:+ locationOf tree file.path then some .directory else none)) := by
  have hplace := resolve_of_write ht h hpaths
  obtain ⟨-, -, made, moved, -, -, hmap, hafter, -, -, -, hmoved⟩ := exists_of_write ht h
  have hlocation : ∀ m ∈ moved, locationOf tree m.1.path = m.2 := by
    intro m hm
    have hthere := (resolve_of_moved hmoved).2.2 m hm
    rw [← hafter, hplace m.1 (hmap ▸ List.mem_map_of_mem hm)] at hthere
    exact Except.ok.inj hthere
  have hfound := find?_putAll (tree.extend made) (placed moved) (ne_nil_of_mem_placed hmoved) l
  rw [← hafter, lookup_placed hlocation, ← hmap] at hfound
  cases hlast : lastAt? tree files l with
  | some last =>
    rw [hfound, hlast]
    rfl
  | none =>
    -- Nothing was moved there, so that only the directories that were made count.
    rw [hlast, Option.map_none, Option.none_or] at hfound
    rw [Option.map_none, Option.none_or]
    cases hold : tree.find? l with
    | some e =>
      rw [hfound, find?_extend_of_some hold]
      rfl
    | none => exact find?_of_unlisted ht h hpaths (lastAt?_eq_none.mp hlast) hold

/-- What lies at a location was written there, lay there before, or leads to a file. -/
theorem find?_cases_of_write {e : Entry} (he : after.find? l = some e) :
    (∃ last, lastAt? tree files l = some last ∧ e = .file last.content.toUTF8) ∨
      lastAt? tree files l = none ∧ (tree.find? l = some e ∨
        e = .directory ∧ ∃ file ∈ files, l <:+ locationOf tree file.path) := by
  rw [find?_of_write ht h hpaths] at he
  cases hlast : lastAt? tree files l with
  | some last =>
    rw [hlast] at he
    exact .inl ⟨last, rfl, (Option.some.inj he).symm⟩
  | none =>
    refine .inr ⟨rfl, ?_⟩
    rw [hlast, Option.map_none, Option.none_or] at he
    cases hold : tree.find? l with
    | some old =>
      rw [hold] at he
      exact .inl he
    | none =>
      rw [hold, Option.none_or] at he
      split at he
      · next habove => exact .inr ⟨(Option.some.inj he).symm, habove⟩
      · cases he

end

/-- Files have been written, and there is no other change. -/
structure Effect (tree after : FileTree) (files : List OutputFile) : Prop where
  resolve : ∀ file ∈ files, after.resolve file.path = .ok (locationOf tree file.path)
  content : ∀ file ∈ files, ∃ before last later, files = before ++ last :: later ∧
    locationOf tree last.path = locationOf tree file.path ∧
    (∀ other ∈ later, locationOf tree other.path ≠ locationOf tree file.path) ∧
    after.read file.path = .ok last.content.toUTF8
  file_kept : ∀ l content, tree.find? l = some (.file content) →
    (∀ file ∈ files, locationOf tree file.path ≠ l) → after.find? l = some (.file content)
  file_new : ∀ l content, after.find? l = some (.file content) →
    tree.find? l = some (.file content) ∨ ∃ file ∈ files, locationOf tree file.path = l
  directory_kept : ∀ l, tree.isDirectoryAt l → after.isDirectoryAt l
  directory_new : ∀ l, after.isDirectoryAt l → tree.isDirectoryAt l ∨
    ∃ file ∈ files, l <:+ locationOf tree file.path ∧ l ≠ locationOf tree file.path
  temporary : ∀ file ∈ (stageAll (files.map (·.path)) ⟨tree, [], []⟩ files).1.staged,
    after.contains file.temporary = false

/-- When files have been written, each path leads to what the last of the files at its place holds,
and all else is as it was but for the directories that lead to the files. -/
theorem effect_of_write (ht : tree.WellFormed)
    (hpaths : ∀ file ∈ files, .parent ∉ file.path.components)
    (h : write tree files = (after, .ok ())) : Effect tree after files := by
  have hplace := resolve_of_write ht h hpaths
  constructor
  case resolve => exact hplace
  case content =>
    intro file hm
    obtain ⟨last, hlast⟩ := exists_lastAt?_of_mem tree hm
    obtain ⟨hsame, before, later, hsplit, hlater⟩ := of_lastAt?_eq_some hlast
    have hfound := find?_of_write ht h hpaths (locationOf tree file.path)
    rw [hlast, Option.map_some, Option.some_or] at hfound
    refine ⟨before, last, later, hsplit, hsame, hlater, ?_⟩
    simp only [FileTree.read, hplace file hm, hfound]
  case file_kept =>
    intro l content hold hunlisted
    rw [find?_of_write ht h hpaths, lastAt?_eq_none.mpr hunlisted, hold]
    rfl
  case file_new =>
    intro l content hnew
    rcases find?_cases_of_write ht h hpaths hnew with ⟨last, hlast, -⟩ | ⟨-, hold | ⟨hdir, -⟩⟩
    · obtain ⟨hl, before, later, hsplit, -⟩ := of_lastAt?_eq_some hlast
      exact .inr ⟨last, by simp [hsplit], hl⟩
    · exact .inl hold
    · cases hdir
  case directory_kept => exact (written_of_write ht h).directoriesIn.isDirectoryAt
  case directory_new =>
    intro l hdir
    rcases find?_cases_of_write ht h hpaths (isDirectoryAt_iff.mp hdir) with
      ⟨last, -, hfile⟩ | ⟨hlast, hold | ⟨-, file, hm, hsuffix⟩⟩
    · cases hfile
    · exact .inl (isDirectoryAt_iff.mpr hold)
    · exact .inr ⟨file, hm, hsuffix, fun he => lastAt?_eq_none.mp hlast file hm he.symm⟩
  case temporary => exact not_contains_temporary ht h

/-- A project with one file, seen from its directory. -/
def projectTree : FileTree :=
  ⟨["p"], [(["p"], .directory), (["main.ts", "p"], .file "old".toUTF8)]⟩

/-- Files of which two have one place, below a directory that is made for them. -/
def respelledFiles : List OutputFile :=
  [⟨⟨"src/a.ts"⟩, "first"⟩, ⟨⟨"src/lib/b.ts"⟩, "b"⟩, ⟨⟨".//src/./a.ts"⟩, "last"⟩]

theorem write_respelledFiles : projectTree.WellFormed ∧
    (∀ file ∈ respelledFiles, .parent ∉ file.path.components) ∧
    ∃ after, write projectTree respelledFiles = (after, .ok ()) ∧
      Effect projectTree after respelledFiles ∧
      after = ⟨["p"], [(["p"], .directory), (["main.ts", "p"], .file "old".toUTF8),
        (["src", "p"], .directory), (["lib", "src", "p"], .directory),
        (["a.ts", "src", "p"], .file "last".toUTF8),
        (["b.ts", "lib", "src", "p"], .file "b".toUTF8)]⟩ := by
  have hwell : projectTree.WellFormed := by decide +kernel
  have hpaths : ∀ file ∈ respelledFiles, .parent ∉ file.path.components := by decide +kernel
  have hwrite : write projectTree respelledFiles = (⟨["p"], [(["p"], .directory),
      (["main.ts", "p"], .file "old".toUTF8), (["src", "p"], .directory),
      (["lib", "src", "p"], .directory), (["a.ts", "src", "p"], .file "last".toUTF8),
      (["b.ts", "lib", "src", "p"], .file "b".toUTF8)]⟩, .ok ()) := by
    decide +kernel
  exact ⟨hwell, hpaths, _, hwrite, effect_of_write hwell hpaths hwrite, rfl⟩

end Scaffold.Output
