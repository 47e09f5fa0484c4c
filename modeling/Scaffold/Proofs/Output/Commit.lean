import Scaffold.Proofs.Output.Rollback

/-! Moving staged files into place, one after the other. The temporary files are gone afterwards,
however far the moves have come; what was moved stays, and so do the directories that were made. -/
namespace Scaffold.Output

open FileTree

variable {tree t t' : FileTree} {l here place : Location} {e : Entry} {p source target : Path}

/-- A file can be put at the end of a path. -/
def CanHold (t : FileTree) (p : Path) (place : Location) : Prop :=
  t.isDirectoryAt place = false ∧
    ∃ l name, place = name :: l ∧ t.slot p = .ok (.named l name false)

theorem CanHold.mono (h : CanHold t p place) (hd : t.DirectoriesIn t')
    (hd' : t'.DirectoriesIn t) : CanHold t' p place := by
  obtain ⟨hnot, l, name, hplace, hs⟩ := h
  refine ⟨?_, l, name, hplace, hd.slot hs⟩
  by_contra hdir
  rw [hd'.isDirectoryAt place (by simpa using hdir)] at hnot
  cases hnot

theorem CanHold.unique {place' : Location} (h : CanHold t p place) (h' : CanHold t p place') :
    place = place' := by
  obtain ⟨-, l, name, rfl, hs⟩ := h
  obtain ⟨-, l', name', rfl, hs'⟩ := h'
  obtain ⟨rfl, rfl, -⟩ := Slot.named.inj (Except.ok.inj (hs.symm.trans hs'))
  rfl

theorem CanHold.ne_nil (h : CanHold t p place) : place ≠ [] := by
  rintro rfl
  simp [CanHold] at h

theorem rename_of_slot {name : String} (h : t.LiesAt source here e)
    (hs : t.slot target = .ok (.named l name false)) :
    t.rename source target = if t.isDirectoryAt (name :: l) then .error .isDirectory
      else .ok ((t.restrict fun l => decide (l ≠ here)).put (name :: l) e) := by
  unfold rename
  rw [h.resolve, hs, ← erase_eq_restrict]
  dsimp only
  rw [h.1]
  cases hf : t.find? (name :: l) with
  | none => simp [isDirectoryAt, hf]
  | some other => cases other <;> simp [isDirectoryAt, hf]

theorem rename_of_canHold (h : t.LiesAt source here e) (hp : CanHold t target place) :
    t.rename source target = .ok ((t.restrict fun l => decide (l ≠ here)).put place e) := by
  obtain ⟨hd, l, name, rfl, hs⟩ := hp
  simp [rename_of_slot h hs, hd]

theorem rename_cases (h : t.LiesAt source here e) (target : Path) :
    (∃ cause, t.rename source target = .error cause) ∨
      ∃ place, CanHold t target place ∧ t.rename source target =
        .ok ((t.restrict fun l => decide (l ≠ here)).put place e) := by
  cases hs : t.slot target with
  | error cause => exact .inl ⟨cause, by simp [rename, h.resolve, hs]⟩
  | ok slot =>
    cases slot with
    | fixed => exact .inl ⟨.busy, by simp [rename, h.resolve, hs]⟩
    | named l name slash =>
      cases slash with
      | true => exact .inl ⟨.notDirectory, by simp [rename, h.resolve, hs]⟩
      | false =>
        cases hd : t.isDirectoryAt (name :: l) with
        | true => exact .inl ⟨.isDirectory, by simp [rename_of_slot h hs, hd]⟩
        | false =>
          have hplace : CanHold t target (name :: l) := ⟨hd, l, name, rfl, hs⟩
          exact .inr ⟨_, hplace, rename_of_canHold h hplace⟩

/-- A file that is put where no directory lies leaves the directories what they are. -/
theorem directoriesIn_put (hd : t.isDirectoryAt l = false) (content : ByteArray) :
    t.DirectoriesIn (t.put l (.file content)) ∧ (t.put l (.file content)).DirectoriesIn t := by
  have hl : l ≠ [] := by
    rintro rfl
    cases hd
  have hsame {m : Location} (hm : l ≠ m) :
      (t.put l (.file content)).isDirectoryAt m = t.isDirectoryAt m := by
    rw [isDirectoryAt, find?_put_of_ne t _ hm, isDirectoryAt]
  refine ⟨⟨rfl, fun m hm => ?_⟩, ⟨rfl, fun m hm => ?_⟩⟩
  · rwa [hsame]
    rintro rfl
    rw [hd] at hm
    cases hm
  · rwa [hsame] at hm
    rintro rfl
    rw [isDirectoryAt_iff, find?_put_self t _ hl] at hm
    cases hm

theorem directoriesIn_putAll {placed : List (Location × Entry)}
    (h : ∀ entry ∈ placed, t.isDirectoryAt entry.1 = false ∧ ∃ content, entry.2 = .file content) :
    t.DirectoriesIn (t.putAll placed) ∧ (t.putAll placed).DirectoriesIn t := by
  induction placed generalizing t with
  | nil => exact ⟨.refl t, .refl t⟩
  | cons entry rest ih =>
    obtain ⟨⟨hd, content, he⟩, hrest⟩ := List.forall_mem_cons.mp h
    obtain ⟨hput, hput'⟩ := directoriesIn_put hd content
    have hnext := ih (t := t.put entry.1 (.file content)) fun other ho => by
      refine ⟨?_, (hrest other ho).2⟩
      by_contra hdir
      have := hput'.isDirectoryAt other.1 (by simpa using hdir)
      rw [(hrest other ho).1] at this
      cases this
    rw [putAll, List.foldl_cons, ← putAll, he]
    exact ⟨hput.trans hnext.1, hnext.2.trans hput'⟩

/-- Staged files wait to be moved: their temporary files lie at different places, and under names
that are in no target. -/
structure Waiting (t : FileTree) (parcels : List Parcel) : Prop where
  liesAt : ∀ parcel ∈ parcels, t.LiesAt parcel.temporary parcel.place parcel.entry
  nodup : (parcels.map Parcel.place).Nodup
  fresh : ∀ parcel ∈ parcels, ∃ name l, parcel.place = name :: l ∧
    ∀ other ∈ parcels, name.toList ∉ other.file.path.text.toList.splitOn '/'

theorem Waiting.ne_place {parcels : List Parcel} (h : Waiting t parcels) {parcel other : Parcel}
    (hm : parcel ∈ parcels) (ho : other ∈ parcels) (hp : CanHold t' parcel.file.path place) :
    place ≠ other.place := by
  obtain ⟨-, l, name, rfl, hs⟩ := hp
  obtain ⟨temporary, m, hplace, hfresh⟩ := h.fresh other ho
  rw [hplace]
  intro he
  obtain ⟨rfl, -⟩ := List.cons.inj he
  exact hfresh parcel hm (endsIn_of_slot hs).mem_splitOn

/-- After a move the others wait as before, among the same directories. -/
theorem Waiting.move {parcel : Parcel} {rest : List Parcel} (h : Waiting t (parcel :: rest))
    (hp : CanHold t parcel.file.path place) :
    let t' := (t.restrict fun l => decide (l ≠ parcel.place)).put place parcel.entry
    t.DirectoriesIn t' ∧ t'.DirectoriesIn t ∧ Waiting t' rest := by
  intro t'
  obtain ⟨hfirst, hrest⟩ := List.forall_mem_cons.mp h.liesAt
  obtain ⟨hn, hnodup⟩ := List.nodup_cons.mp h.nodup
  have hkept : t.DirectoriesIn (t.restrict fun l => decide (l ≠ parcel.place)) := by
    simpa using directoriesIn_restrict (List.forall_mem_singleton.mpr hfirst)
  have hback : (t.restrict fun l => decide (l ≠ parcel.place)).DirectoriesIn t := .of_restrict ..
  obtain ⟨hput, hput'⟩ := directoriesIn_put (hp.mono hkept hback).1 parcel.file.content.toUTF8
  refine ⟨hkept.trans hput, hput'.trans hback, fun other ho => ?_, hnodup, fun other ho => ?_⟩
  · refine (hrest other ho).mono (hkept.trans hput) ?_
    have hother : other.place ≠ parcel.place := fun he => hn (he ▸ List.mem_map_of_mem ho)
    rw [find?_put_of_ne _ _ (h.ne_place List.mem_cons_self (List.mem_cons_of_mem _ ho) hp),
      find?_restrict_of_keep (decide_eq_true hother)]
    exact (hrest other ho).1
  · obtain ⟨name, l, hplace, hfresh⟩ := h.fresh other (List.mem_cons_of_mem _ ho)
    exact ⟨name, l, hplace, fun p hm => hfresh p (List.mem_cons_of_mem _ hm)⟩

/-- Files with the places to which they were moved, as entries of a tree. -/
def placed (moved : List (OutputFile × Location)) : List (Location × Entry) :=
  moved.map fun m => (m.2, .file m.1.content.toUTF8)

theorem mem_placed {moved : List (OutputFile × Location)} {entry : Location × Entry} :
    entry ∈ placed moved ↔ ∃ m ∈ moved, entry = (m.2, .file m.1.content.toUTF8) := by
  simp [placed, eq_comm]

theorem ne_nil_of_mem_placed {moved : List (OutputFile × Location)}
    (h : ∀ m ∈ moved, CanHold t m.1.path m.2) : ∀ entry ∈ placed moved, entry.1 ≠ [] := by
  intro entry he
  obtain ⟨m, hm, rfl⟩ := mem_placed.mp he
  exact (h m hm).ne_nil

/-- However far the moves come, the tree is that without the temporary files, with the moved files
put into it. -/
theorem commit_cases {parcels : List Parcel} (h : Waiting t parcels) :
    ∃ moved rest, parcels.map Parcel.file = moved.map Prod.fst ++ rest ∧
      (∀ m ∈ moved, CanHold t m.1.path m.2) ∧
      (commit t (parcels.map Parcel.staged)).1 =
        (t.restrict fun l => decide (l ∉ parcels.map Parcel.place)).putAll (placed moved) ∧
      ((rest = [] ∧ (commit t (parcels.map Parcel.staged)).2 = .ok ()) ∨
        ∃ failed later cause, rest = failed :: later ∧ (∀ place, ¬ CanHold t failed.path place) ∧
          (commit t (parcels.map Parcel.staged)).2 = .error ⟨failed.path, cause⟩) := by
  induction parcels generalizing t with
  | nil =>
    refine ⟨[], [], rfl, nofun, ?_, .inl ⟨rfl, rfl⟩⟩
    simp [commit, restrict, putAll, placed]
  | cons parcel rest ih =>
    rcases rename_cases (h.liesAt parcel List.mem_cons_self) parcel.file.path with
      ⟨cause, hr⟩ | ⟨place, hplace, hr⟩
    · have hc : commit t ((parcel :: rest).map Parcel.staged) =
          (discard t ((parcel :: rest).map Parcel.staged), .error ⟨parcel.file.path, cause⟩) := by
        rw [List.map_cons, commit, Parcel.staged, hr]
      rw [hc]
      refine ⟨[], _, rfl, nofun, discard_eq h.liesAt h.nodup,
        .inr ⟨parcel.file, rest.map Parcel.file, cause, rfl, fun place hplace => ?_, rfl⟩⟩
      rw [rename_of_canHold (h.liesAt parcel List.mem_cons_self) hplace] at hr
      cases hr
    · have hc : commit t ((parcel :: rest).map Parcel.staged) =
          commit ((t.restrict fun l => decide (l ≠ parcel.place)).put place parcel.entry)
            (rest.map Parcel.staged) := by
        rw [List.map_cons, commit, Parcel.staged, hr]
      obtain ⟨hd, hd', hwait⟩ := h.move hplace
      obtain ⟨moved, others, hfiles, hmoved, htree, hend⟩ := ih hwait
      have hkeep : place ∉ rest.map Parcel.place := fun hm => by
        obtain ⟨other, ho, he⟩ := List.mem_map.mp hm
        exact h.ne_place List.mem_cons_self (List.mem_cons_of_mem _ ho) hplace he.symm
      rw [hc]
      refine ⟨(parcel.file, place) :: moved, others, ?_, ?_, ?_, hend.imp_right ?_⟩
      · rw [List.map_cons, hfiles, List.map_cons, List.cons_append]
      · exact List.forall_mem_cons.mpr ⟨hplace, fun m hm => (hmoved m hm).mono hd' hd⟩
      · rw [htree, restrict_put (decide_eq_true hkeep), restrict_restrict]
        simp [putAll, placed, Parcel.entry, not_or]
      · rintro ⟨failed, later, cause, rfl, hnot, he⟩
        exact ⟨failed, later, cause, rfl, fun place hp => hnot place (hp.mono hd hd'), he⟩

variable {paths : List Path} {parcels : List Parcel} {s : Staging}

theorem waiting_of_stagesAll (ht : tree.WellFormed)
    (h : StagesAll paths ⟨tree, [], []⟩ parcels s)
    (hp : ∀ parcel ∈ parcels, parcel.file.path ∈ paths) : Waiting s.tree parcels := by
  have hnamed := h.named ht hp fun _ => Iff.rfl
  refine ⟨fun parcel hm => (h.liesAt parcel hm).1, hnamed.nodup, fun parcel hm => ?_⟩
  obtain ⟨name, l, hplace, hname⟩ := hnamed.not_mem parcel hm
  exact ⟨name, l, hplace, fun other ho hpart =>
    hname (mem_namesInUse.mpr (.inr ⟨_, hp other ho, hpart⟩))⟩

/-- Without the temporary files, what staging adds to the tree are directories. -/
theorem exists_made (ht : tree.WellFormed) (h : StagesAll paths ⟨tree, [], []⟩ parcels s)
    (hp : ∀ parcel ∈ parcels, parcel.file.path ∈ paths) :
    ∃ made, (s.tree.restrict fun l => decide (l ∉ parcels.map Parcel.place)) = tree.extend made ∧
      ∀ l e, (l, e) ∈ made ↔ e = .directory ∧ tree.find? l = none ∧ s.tree.isDirectoryAt l := by
  have hnamed := h.named ht hp fun _ => Iff.rfl
  have hgrown := h.grown hp
  obtain ⟨more, hmore, hnew⟩ := hgrown.exists_extend
  have hold : tree.restrict (fun l => decide (l ∉ parcels.map Parcel.place)) = tree :=
    restrict_eq_self fun entry hm =>
      decide_eq_true (hnamed.not_mem_of_find? (ht.find?_of_mem (e := entry.2) hm))
  refine ⟨more.filter fun entry => decide (entry.1 ∉ parcels.map Parcel.place), ?_, fun l e => ?_⟩
  · rw [hmore]
    simp only [restrict, extend, List.filter_append] at hold ⊢
    rw [FileTree.mk.injEq] at hold
    rw [hold.2]
  rw [List.mem_filter, decide_eq_true_iff]
  constructor
  · rintro ⟨hm, hplace⟩
    obtain ⟨hnone, p, ⟨hdir, -⟩ | ⟨parcel, hparcel, rfl, -⟩, hlies⟩ := hnew _ hm
    · exact ⟨hdir, hnone, isDirectoryAt_iff.mpr (hdir ▸ hlies.1)⟩
    · have he := Except.ok.inj ((h.liesAt parcel hparcel).1.resolve.symm.trans hlies.resolve)
      exact absurd (he ▸ List.mem_map_of_mem hparcel) hplace
  · rintro ⟨rfl, hnone, hdir⟩
    refine ⟨?_, fun hm => ?_⟩
    · have hfound := isDirectoryAt_iff.mp hdir
      rw [hmore, find?_extend, hnone, Option.none_or] at hfound
      exact Entries.mem_of_lookup hfound
    · obtain ⟨parcel, hparcel, rfl⟩ := List.mem_map.mp hm
      rw [isDirectoryAt_iff, (h.liesAt parcel hparcel).1.1] at hdir
      cases hdir

/-- What writing leaves when all files can be staged: the new directories, and the files that were
moved into place, up to one that could not be. -/
theorem write_cases {files : List OutputFile} (ht : tree.WellFormed)
    (hs : (stageAll (files.map (·.path)) ⟨tree, [], []⟩ files).2 = .ok ()) :
    ∃ moved rest made, files = moved.map Prod.fst ++ rest ∧
      (write tree files).1 = (tree.extend made).putAll (placed moved) ∧
      (∀ l e, (l, e) ∈ made ↔ e = .directory ∧ tree.find? l = none ∧
        (stageAll (files.map (·.path)) ⟨tree, [], []⟩ files).1.tree.isDirectoryAt l) ∧
      (∀ m ∈ moved, CanHold (tree.extend made) m.1.path m.2) ∧
      ((rest = [] ∧ (write tree files).2 = .ok ()) ∨
        ∃ failed later cause, rest = failed :: later ∧
          (∀ place, ¬ CanHold (tree.extend made) failed.path place) ∧
          (write tree files).2 = .error ⟨failed.path, cause⟩) := by
  rcases stageAll_cases (files.map (·.path)) ⟨tree, [], []⟩ files with
    ⟨parcels, s, hfiles, hall, hok⟩ | ⟨_, _, _, _, _, _, _, _, _, hfail⟩
  · have hp := path_mem_of_map_file hfiles
    have hwait := waiting_of_stagesAll ht hall hp
    obtain ⟨made, hmade, hdirs⟩ := exists_made ht hall hp
    obtain ⟨moved, rest, hmap, hmoved, htree, hend⟩ := commit_cases hwait
    have hwrite : write tree files = commit s.tree (parcels.map Parcel.staged) := by
      rw [write, hok]
      exact congrArg (commit s.tree) hall.staged_eq
    have hkept := directoriesIn_restrict hwait.liesAt
    have hback : (tree.extend made).DirectoriesIn s.tree := hmade ▸ .of_restrict ..
    rw [hmade] at htree hkept
    rw [hwrite, hok, ← hfiles]
    refine ⟨moved, rest, made, hmap, htree, hdirs,
      fun m hm => (hmoved m hm).mono hkept hback, hend.imp_right ?_⟩
    rintro ⟨failed, later, cause, rfl, hnot, he⟩
    exact ⟨failed, later, cause, rfl, fun place hp => hnot place (hp.mono hback hkept), he⟩
  · rw [hfail] at hs
    cases hs

theorem CanHold.resolve (h : CanHold t p place) (hd : t.DirectoriesIn t')
    (hf : (t'.find? place).isSome) : t'.resolve p = .ok place := by
  obtain ⟨-, l, name, rfl, hs⟩ := h
  exact (endsIn_of_slot (hd.slot hs)).resolve hf nofun

/-- The moved files lie in place, among the directories that were there. -/
theorem resolve_of_moved {moved : List (OutputFile × Location)}
    (h : ∀ m ∈ moved, CanHold t m.1.path m.2) :
    t.DirectoriesIn (t.putAll (placed moved)) ∧ (t.putAll (placed moved)).DirectoriesIn t ∧
      ∀ m ∈ moved, (t.putAll (placed moved)).resolve m.1.path = .ok m.2 := by
  have hfiles : ∀ entry ∈ placed moved,
      t.isDirectoryAt entry.1 = false ∧ ∃ content, entry.2 = .file content := fun entry he => by
    obtain ⟨m, hm, rfl⟩ := mem_placed.mp he
    exact ⟨(h m hm).1, _, rfl⟩
  obtain ⟨hdirs, hback⟩ := directoriesIn_putAll hfiles
  have hne := ne_nil_of_mem_placed h
  refine ⟨hdirs, hback, fun m hm => (h m hm).resolve hdirs ?_⟩
  rw [find?_putAll t _ hne]
  cases hg : (placed moved).reverse.lookup m.2 with
  | some e => rfl
  | none =>
    refine absurd ?_ (Entries.lookup_eq_none_iff.mp hg)
    exact List.mem_map.mpr ⟨_, List.mem_reverse.mpr (mem_placed.mpr ⟨m, hm, rfl⟩), rfl⟩

/-- When a staged file cannot be moved into place, as nothing can be put where it is to go, the
files moved before it stay, and so do all the directories that were made. The tree is what it was
only when none was made and each file that was moved lay in place before. -/
theorem write_of_commit_fails {files : List OutputFile} {after : FileTree} {error : WriteError}
    (ht : tree.WellFormed)
    (hs : (stageAll (files.map (·.path)) ⟨tree, [], []⟩ files).2 = .ok ())
    (hw : write tree files = (after, .error error)) :
    ∃ moved failed later made, files = moved.map Prod.fst ++ failed :: later ∧
      error.path = failed.path ∧ (∀ place, ¬ CanHold after failed.path place) ∧
      after = (tree.extend made).putAll (placed moved) ∧
      (∀ l e, (l, e) ∈ made ↔ e = .directory ∧ tree.find? l = none ∧
        (stageAll (files.map (·.path)) ⟨tree, [], []⟩ files).1.tree.isDirectoryAt l) ∧
      (∀ m ∈ moved, after.resolve m.1.path = .ok m.2) ∧
      (after = tree ↔ made = [] ∧ ∀ m ∈ moved, tree.find? m.2 = after.find? m.2) := by
  obtain ⟨moved, rest, made, hfiles, hafter, hmade, hmoved, hend⟩ := write_cases ht hs
  rw [hw] at hafter hend
  obtain ⟨-, hok⟩ | ⟨failed, later, cause, rfl, hnot, he⟩ := hend
  · cases hok
  obtain rfl := Except.error.inj he
  obtain rfl : after = (tree.extend made).putAll (placed moved) := hafter
  obtain ⟨hdirs, hback, hresolve⟩ := resolve_of_moved hmoved
  refine ⟨moved, failed, later, made, hfiles, rfl, fun place hp => hnot place (hp.mono hback hdirs),
    rfl, hmade, hresolve, fun hafter => ?_, ?_⟩
  · refine ⟨List.eq_nil_iff_forall_not_mem.mpr fun entry hm => ?_, fun m _ => by rw [hafter]⟩
    obtain ⟨hdir, hnone, -⟩ := (hmade entry.1 entry.2).mp hm
    have hnew : (tree.extend made).isDirectoryAt entry.1 := by
      rw [isDirectoryAt_iff, find?_extend, hnone, Option.none_or]
      cases hg : made.lookup entry.1 with
      | none => exact absurd (List.mem_map_of_mem hm) (Entries.lookup_eq_none_iff.mp hg)
      | some e => rw [((hmade _ _).mp (Entries.mem_of_lookup hg)).1]
    have hstays := hdirs.isDirectoryAt _ hnew
    rw [hafter, isDirectoryAt_iff, hnone] at hstays
    cases hstays
  · rintro ⟨rfl, hf⟩
    rw [extend_nil] at hf hmoved ⊢
    refine ht.putAll_eq_self (fun entry hm => ?_) fun entry hm => ?_
    · obtain ⟨m, hmem, rfl⟩ := mem_placed.mp hm
      exact (hmoved m hmem).ne_nil
    · obtain ⟨m, hmem, rfl⟩ := mem_placed.mp hm
      exact hf m hmem

def takenTree : FileTree := ⟨[], [(["d"], .directory)]⟩

/-- Two files, of which the second is to lie where the directory is. -/
def takenFiles : List OutputFile := [⟨⟨"new/a.ts"⟩, "x"⟩, ⟨⟨"d"⟩, "y"⟩]

/-- Both files can be staged, and writing fails; but a directory and a file are left behind. -/
theorem write_leaves_takenFiles :
    (stageAll (takenFiles.map (·.path)) ⟨takenTree, [], []⟩ takenFiles).2 = .ok () ∧
      write takenTree takenFiles =
        (⟨[], [(["d"], .directory), (["new"], .directory),
          (["a.ts", "new"], .file "x".toUTF8)]⟩, .error ⟨⟨"d"⟩, .isDirectory⟩) ∧
      (write takenTree takenFiles).1 ≠ takenTree := by
  decide +kernel

theorem write_takenFiles : takenTree.WellFormed ∧
    (stageAll (takenFiles.map (·.path)) ⟨takenTree, [], []⟩ takenFiles).2 = .ok () ∧
    ∃ after, write takenTree takenFiles = (after, .error ⟨⟨"d"⟩, .isDirectory⟩) ∧
      ∃ moved failed later made, takenFiles = moved.map Prod.fst ++ failed :: later ∧
        failed.path = ⟨"d"⟩ ∧ after = (takenTree.extend made).putAll (placed moved) := by
  have hwell : takenTree.WellFormed := by decide +kernel
  have hstaged : (stageAll (takenFiles.map (·.path)) ⟨takenTree, [], []⟩ takenFiles).2 =
      .ok () := by
    decide +kernel
  have hwrite : write takenTree takenFiles =
      ((write takenTree takenFiles).1, .error ⟨⟨"d"⟩, .isDirectory⟩) := by
    decide +kernel
  obtain ⟨moved, failed, later, made, hfiles, hpath, -, hafter, -⟩ :=
    write_of_commit_fails hwell hstaged hwrite
  exact ⟨hwell, hstaged, _, hwrite, moved, failed, later, made, hfiles, hpath.symm, hafter⟩

end Scaffold.Output
