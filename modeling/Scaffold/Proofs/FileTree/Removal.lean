import Scaffold.Proofs.FileTree.Growth

/-! Trees that shrink: files and directories are removed at the ends of paths. What a tree had is
still there afterwards as long as none of the paths leads to something of it. -/
namespace Scaffold.FileTree

variable {t t' u : FileTree} {p : Path} {l k m : Location} {e : Entry}

theorem restrict_eq_self {keep : Location → Bool} (h : ∀ entry ∈ t.entries, keep entry.1) :
    t.restrict keep = t := by
  simp only [restrict, List.filter_eq_self.mpr h]

/-- Without what was added, a tree is what it was. -/
theorem restrict_extend {keep : Location → Bool} {more : List (Location × Entry)}
    (ht : ∀ entry ∈ t.entries, keep entry.1) (hm : ∀ entry ∈ more, keep entry.1 = false) :
    (t.extend more).restrict keep = t := by
  have hnone : more.filter (fun entry => keep entry.1) = [] :=
    List.filter_eq_nil_iff.mpr fun entry he => by simp [hm entry he]
  simp only [restrict, extend, List.filter_append, hnone, List.append_nil,
    List.filter_eq_self.mpr ht]

theorem DirectoriesIn.restrict {keep : Location → Bool}
    (h : ∀ l, t.isDirectoryAt l → keep l) : t.DirectoriesIn (t.restrict keep) := by
  refine ⟨rfl, fun l hl => ?_⟩
  rwa [FileTree.isDirectoryAt, find?_restrict_of_keep (h l hl)]

theorem DirectoriesIn.of_restrict (t : FileTree) (keep : Location → Bool) :
    (t.restrict keep).DirectoriesIn t :=
  ⟨rfl, fun _ hl => isDirectoryAt_iff.mpr (find?_of_restrict (isDirectoryAt_iff.mp hl))⟩

theorem WellFormed.restrict (h : t.WellFormed) {keep : Location → Bool}
    (hd : t.DirectoriesIn (t.restrict keep)) : (t.restrict keep).WellFormed := by
  have hkeys : ∀ l ∈ (t.restrict keep).entries.map Prod.fst, l ∈ t.entries.map Prod.fst :=
    fun l hl => by
      obtain ⟨entry, he, rfl⟩ := List.mem_map.mp hl
      exact List.mem_map_of_mem (List.mem_filter.mp he).1
  refine ⟨h.nodup.sublist (List.filter_sublist.map _), fun l hl => h.ne_root l (hkeys l hl),
    fun l hl => ?_, fun l hl => h.names l (hkeys l hl), ?_⟩
  · exact isDirectoryAt_iff.mp
      (hd.isDirectoryAt _ (isDirectoryAt_iff.mpr (h.parent l (hkeys l hl))))
  · exact isDirectoryAt_iff.mp (hd.isDirectoryAt _ (isDirectoryAt_iff.mpr h.current))

theorem removeFile_of_liesAt {content : ByteArray} (h : t.LiesAt p l (.file content)) :
    t.removeFile p = t.restrict fun m => decide (m ≠ l) := by
  have hd : t.isDirectoryAt l = false := by simp [isDirectoryAt, h.1]
  rw [removeFile, h.resolve, ← erase_eq_restrict]
  simp [hd]

theorem removeDirectory_cases (t : FileTree) (p : Path) :
    (∃ k, t.resolve p = .ok k ∧ t.isDirectoryAt k ∧
      t.removeDirectory p = t.restrict fun m => decide ¬ k <:+ m) ∨
    ((∀ k, t.resolve p = .ok k → t.isDirectoryAt k = false) ∧ t.removeDirectory p = t) := by
  unfold removeDirectory
  cases hr : t.resolve p with
  | error e => exact .inr ⟨nofun, rfl⟩
  | ok k =>
    cases hd : t.isDirectoryAt k with
    | true =>
      refine .inl ⟨k, rfl, hd, ?_⟩
      simp [hd, eraseBelow_eq_restrict, ← List.isSuffixOf_iff_suffix]
    | false =>
      refine .inr ⟨fun k' hk => ?_, by simp [hd]⟩
      rwa [← Except.ok.inj hk]

/-- What a path without two dots leads to in a larger tree is not in the tree when the path leads
nowhere in it. -/
theorem find?_eq_none_of_contains (ht : t.WellFormed) (hp : .parent ∉ p.components)
    (hn : t.contains p = false) (hc : t.current = u.current)
    (hu : ∀ l e, t.find? l = some e → u.find? l = some e) (hk : u.resolve p = .ok k)
    (hm : k <:+ m) :
    t.find? m = none := by
  by_contra hsome
  obtain ⟨e, he⟩ := Option.ne_none_iff_exists'.mp hsome
  have hmsome : (t.find? m).isSome := by simp [he]
  have hres : t.resolve p = .ok k := resolve_of_agree hp hk hc fun n hn => by
    have hnsome := ht.find?_isSome_of_suffix hmsome (hn.trans hm)
    obtain ⟨e, he⟩ := Option.isSome_iff_exists.mp hnsome
    rw [he, hu n e he]
  rw [contains_iff.mpr ⟨k, hres⟩] at hn
  cases hn

/-- Without what lies below a place, a path that leads elsewhere leads to what it did. -/
theorem restrict_not_below {k' : Location} (hp : .parent ∉ p.components)
    (hr : u.resolve p = .ok k') (hk : ¬ k <:+ k') :
    (u.restrict fun m => decide ¬ k <:+ m).resolve p = .ok k' ∧
      (u.restrict fun m => decide ¬ k <:+ m).find? k' = u.find? k' := by
  have hagree : ∀ n, n <:+ k' → (u.restrict fun m => decide ¬ k <:+ m).find? n = u.find? n :=
    fun n hn => by
      have hnot : ¬ k <:+ n := fun h => hk (h.trans hn)
      rw [find?_restrict_of_keep (by simpa using hnot)]
  exact ⟨resolve_of_agree hp hr rfl hagree, hagree k' List.suffix_rfl⟩

/-- Directories that are removed one after the other, by paths that lead nowhere in a smaller tree,
take with them all below the places where the paths lead, and nothing of the smaller tree. -/
theorem exists_restrict_of_removeDirectory (ht : t.WellFormed) {paths : List Path}
    (hp : ∀ p ∈ paths, .parent ∉ p.components ∧ t.contains p = false) (hc : t.current = u.current)
    (hu : ∀ l e, t.find? l = some e → u.find? l = some e) :
    ∃ keep, paths.foldl removeDirectory u = u.restrict keep ∧
      (∀ l, (t.find? l).isSome → keep l) ∧
      ∀ p ∈ paths, ∀ k m, u.resolve p = .ok k → u.isDirectoryAt k → k <:+ m → keep m = false := by
  induction paths generalizing u with
  | nil =>
    refine ⟨fun _ => true, ?_, fun _ _ => rfl, nofun⟩
    simp [restrict]
  | cons p rest ih =>
    obtain ⟨⟨hstraight, hn⟩, hrest⟩ := List.forall_mem_cons.mp hp
    rw [List.foldl_cons]
    rcases removeDirectory_cases u p with ⟨k, hk, hkd, hr⟩ | ⟨hnone, hr⟩
    · have hkeep : ∀ l, (t.find? l).isSome → ¬ k <:+ l := fun l hl hkl => by
        simp [find?_eq_none_of_contains ht hstraight hn hc hu hk hkl] at hl
      have hu' : ∀ l e, t.find? l = some e →
          (u.restrict fun m => decide ¬ k <:+ m).find? l = some e := fun l e hl => by
        have hnot := hkeep l (by simp [hl])
        rw [find?_restrict_of_keep (by simpa using hnot), hu l e hl]
      obtain ⟨keep, hfold, hold, hgone⟩ := ih hrest (u := u.restrict _) hc hu'
      refine ⟨fun m => decide (¬ k <:+ m) && keep m, ?_, fun l hl => ?_,
        fun q hq k' m hk' hkd' hm => ?_⟩
      · rw [hr, hfold, restrict_restrict]
      · simpa [hold l hl] using hkeep l hl
      · by_cases hbelow : k <:+ m
        · simp [hbelow]
        · rcases List.mem_cons.mp hq with rfl | hq
          · exact absurd (Except.ok.inj (hk.symm.trans hk') ▸ hm) hbelow
          · -- What lies on the way to the later place has not been removed.
            obtain ⟨hres, hsame⟩ :=
              restrict_not_below (hrest q hq).1 hk' fun h => hbelow (h.trans hm)
            have hdir : (u.restrict fun m => decide ¬ k <:+ m).isDirectoryAt k' := by
              rwa [isDirectoryAt, hsame]
            simp [hgone q hq k' m hres hdir hm]
    · rw [hr]
      obtain ⟨keep, hfold, hold, hgone⟩ := ih hrest hc hu
      refine ⟨keep, hfold, hold, fun q hq k m hk hkd hm => ?_⟩
      rcases List.mem_cons.mp hq with rfl | hq
      · rw [hnone k hk] at hkd
        cases hkd
      · exact hgone q hq k m hk hkd hm

end Scaffold.FileTree
