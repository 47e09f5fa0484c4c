import Scaffold.Output.Write
import Scaffold.Proofs.FileTree.Following
import Scaffold.Proofs.Path.Steps

/-! Trees that grow: new entries are put at the ends of paths, and nothing that was there changes.
Making a directory with all that lead to it is growth, and the directories made for a path lie at or
below the outermost one that was missing. -/
namespace Scaffold.FileTree

variable {t t' : FileTree} {p q : Path} {l m : Location} {name : String} {slash : Bool}

/-- A tree comes from another one by putting new entries at the ends of paths. Which entry may be
put at which path is up to a rule. -/
inductive Grown (allowed : Path → Entry → Prop) (t : FileTree) : FileTree → Prop
  | refl : Grown allowed t t
  | add {t' : FileTree} {p : Path} {e : Entry} {l : Location} {name : String} {slash : Bool} :
      Grown allowed t t' → allowed p e → t'.slot p = .ok (.named l name slash) →
      t'.find? (name :: l) = none → (slash = true → e = .directory) →
      Grown allowed t (t'.extend [(name :: l, e)])

/-- An entry lies where a path ends. -/
def LiesAt (t : FileTree) (p : Path) (place : Location) (e : Entry) : Prop :=
  t.find? place = some e ∧
    ∃ l name slash, place = name :: l ∧ t.slot p = .ok (.named l name slash) ∧
      (slash = true → e = .directory)

theorem LiesAt.resolve {place : Location} {e : Entry} (h : t.LiesAt p place e) :
    t.resolve p = .ok place := by
  obtain ⟨hf, l, name, slash, rfl, hs, hd⟩ := h
  refine (endsIn_of_slot hs).resolve (by rw [hf]; rfl) fun hslash => ?_
  rw [isDirectoryAt_iff, hf, hd hslash]

theorem LiesAt.mono {place : Location} {e : Entry} (h : t.LiesAt p place e)
    (hd : t.DirectoriesIn t') (hf : t'.find? place = some e) : t'.LiesAt p place e := by
  obtain ⟨-, l, name, slash, hplace, hs, hslash⟩ := h
  exact ⟨hf, l, name, slash, hplace, hd.slot hs, hslash⟩

namespace Grown

variable {allowed allowed' : Path → Entry → Prop}

theorem mono (ha : ∀ p e, allowed p e → allowed' p e) (h : Grown allowed t t') :
    Grown allowed' t t' := by
  induction h with
  | refl => exact .refl
  | add _ hp hs hf hd ih => exact ih.add (ha _ _ hp) hs hf hd

theorem trans {t'' : FileTree} (h : Grown allowed t t') (h' : Grown allowed t' t'') :
    Grown allowed t t'' := by
  induction h' with
  | refl => exact h
  | add _ hp hs hf hd ih => exact ih.add hp hs hf hd

/-- The new entries stand behind the old ones, each at the end of a path. -/
theorem exists_extend (h : Grown allowed t t') :
    ∃ more, t' = t.extend more ∧ ∀ entry ∈ more, t.find? entry.1 = none ∧
      ∃ p, allowed p entry.2 ∧ t'.LiesAt p entry.1 entry.2 := by
  induction h with
  | refl => exact ⟨[], (extend_nil t).symm, nofun⟩
  | @add t' p e l name slash _ hp hs hf hd ih =>
    obtain ⟨more, rfl, hmore⟩ := ih
    refine ⟨more ++ [(name :: l, e)], extend_extend .., fun entry hm => ?_⟩
    rcases List.mem_append.mp hm with hm | hm
    · obtain ⟨hn, q, hq, hlies⟩ := hmore entry hm
      exact ⟨hn, q, hq, hlies.mono (.extend ..) (find?_extend_of_some hlies.1 _)⟩
    · obtain rfl := List.mem_singleton.mp hm
      refine ⟨?_, p, hp, ?_, l, name, slash, rfl, (DirectoriesIn.extend ..).slot hs, hd⟩
      · rw [find?_extend] at hf
        exact (Option.or_eq_none_iff.mp hf).1
      · rw [find?_extend, hf]
        simp [Entries.lookup_cons]

theorem directoriesIn (h : Grown allowed t t') : t.DirectoriesIn t' := by
  obtain ⟨more, rfl, -⟩ := h.exists_extend
  exact .extend t more

theorem find?_of_some (h : Grown allowed t t') {e : Entry} (hl : t.find? l = some e) :
    t'.find? l = some e := by
  obtain ⟨more, rfl, -⟩ := h.exists_extend
  exact find?_extend_of_some hl more

theorem liesAt (h : Grown allowed t t') {e : Entry} (hl : t'.find? l = some e)
    (hn : t.find? l = none) : ∃ p, allowed p e ∧ t'.LiesAt p l e := by
  obtain ⟨more, rfl, hmore⟩ := h.exists_extend
  rw [find?_extend, hn, Option.none_or] at hl
  exact (hmore (l, e) (Entries.mem_of_lookup hl)).2

theorem wellFormed (h : Grown allowed t t') (ht : t.WellFormed) : t'.WellFormed := by
  induction h with
  | refl => exact ht
  | @add t' p e l name slash _ _ hs hf _ ih =>
    rw [← put_of_find?_eq_none hf e]
    have he := endsIn_of_slot hs
    exact ih.put he.isDirectoryAt he.isName (by simp [isDirectoryAt, hf]) e

end Grown

theorem createNew_cases {content : ByteArray} (h : t.createNew p content = .ok t') :
    ∃ l name, t.slot p = .ok (.named l name false) ∧ t.find? (name :: l) = none ∧
      t' = t.extend [(name :: l, .file content)] := by
  unfold createNew at h
  split at h
  · cases h
  · cases h
  next l name slash hs =>
  split at h
  · cases h
  next hslash =>
  split at h
  · cases h
  next hf =>
  have hnone : t.find? (name :: l) = none := by simpa using hf
  obtain rfl : slash = false := by simpa using hslash
  exact ⟨l, name, hs, hnone, by rw [← Except.ok.inj h, put_of_find?_eq_none hnone]⟩

theorem createNew_of_slot (hs : t.slot p = .ok (.named l name false))
    (hf : t.find? (name :: l) = none) (content : ByteArray) :
    t.createNew p content = .ok (t.extend [(name :: l, .file content)]) := by
  simp [createNew, hs, hf, put_of_find?_eq_none hf]

theorem contains_iff : t.contains p = true ↔ ∃ l, t.resolve p = .ok l := by
  unfold contains
  cases t.resolve p <;> simp [Except.isOk, Except.toBool]

theorem isDirectory_iff :
    t.isDirectory p = true ↔ ∃ l, t.resolve p = .ok l ∧ t.isDirectoryAt l := by
  unfold isDirectory
  cases t.resolve p <;> simp

theorem makeDirectory_cases (h : t.makeDirectory p = .ok t') :
    ∃ l name slash, t.slot p = .ok (.named l name slash) ∧ t.find? (name :: l) = none ∧
      t' = t.extend [(name :: l, .directory)] := by
  unfold makeDirectory at h
  split at h
  · cases h
  · cases h
  next l name slash hs =>
  split at h
  · cases h
  next hf =>
  have hnone : t.find? (name :: l) = none := by simpa using hf
  exact ⟨l, name, slash, hs, hnone, by rw [← Except.ok.inj h, put_of_find?_eq_none hnone]⟩

theorem makeDirectory_of_resolve (h : t.resolve p = .ok l) :
    t.makeDirectory p = .error .alreadyExists := by
  unfold makeDirectory
  rcases slot_of_resolve h with hs | ⟨d, name, slash, hs, hsome⟩
  · rw [hs]
  · rw [hs]
    dsimp only
    rw [if_pos hsome]

/-- A path whose directory is not refused as one that exists leads nowhere yet. -/
theorem contains_eq_false_of_makeDirectory (h : t.makeDirectory p ≠ .error .alreadyExists) :
    t.contains p = false := by
  by_contra hc
  obtain ⟨l, hl⟩ := contains_iff.mp (by simpa using hc)
  exact h (makeDirectory_of_resolve hl)

theorem isDirectoryAt_extend_directory :
    (t.extend [(l, .directory)]).isDirectoryAt m ↔
      t.isDirectoryAt m ∨ t.find? m = none ∧ l = m := by
  rw [isDirectoryAt_iff, isDirectoryAt_iff, find?_extend]
  cases t.find? m with
  | some e => simp
  | none => simp [Entries.lookup_cons, eq_comm (a := m)]

/-- The directory that is made lies at the end of its path, where nothing was. -/
theorem liesAt_of_makeDirectory (h : t.makeDirectory p = .ok t') :
    ∃ l, t'.LiesAt p l .directory ∧ t.find? l = none ∧ t' = t.extend [(l, .directory)] := by
  obtain ⟨l, name, slash, hs, hf, rfl⟩ := makeDirectory_cases h
  refine ⟨name :: l, ⟨?_, l, name, slash, rfl, (DirectoriesIn.extend ..).slot hs, fun _ => rfl⟩,
    hf, rfl⟩
  exact isDirectoryAt_iff.mp (isDirectoryAt_extend_directory.mpr (.inr ⟨hf, rfl⟩))

theorem isDirectory_of_makeDirectory (h : t.makeDirectory p = .ok t') : t'.isDirectory p := by
  obtain ⟨l, hlies, -⟩ := liesAt_of_makeDirectory h
  exact isDirectory_iff.mpr ⟨l, hlies.resolve, isDirectoryAt_iff.mpr hlies.1⟩

theorem makeChain_cons (p : Path) (rest : List Path) :
    ((t.makeChain (p :: rest)).1 = t ∧
      ((t.makeChain (p :: rest)).2 = .ok () → p.isEmpty ∨ t.isDirectory p)) ∨
    (∃ t', t.makeDirectory p = .ok t' ∧ t.makeChain (p :: rest) = (t', .ok ())) ∨
    (p.isEmpty = false ∧ t.makeDirectory p = .error .notFound ∧
      (((t.makeChain (p :: rest)).1 = (t.makeChain rest).1 ∧
          ((t.makeChain (p :: rest)).2 = .ok () → (t.makeChain rest).1.isDirectory p)) ∨
        ∃ t', (t.makeChain rest).1.makeDirectory p = .ok t' ∧
          t.makeChain (p :: rest) = (t', .ok ()))) := by
  rw [makeChain]
  by_cases he : p.isEmpty
  · exact .inl ⟨by rw [if_pos he], fun _ => .inl he⟩
  rw [if_neg he]
  cases hm : t.makeDirectory p with
  | ok t' => exact .inr (.inl ⟨t', rfl, rfl⟩)
  | error e =>
    by_cases hn : e = .notFound
    · subst hn
      refine .inr (.inr ⟨by simpa using he, rfl, ?_⟩)
      cases hc : t.makeChain rest with
      | mk t₁ r =>
      cases r with
      | error e => exact .inl ⟨rfl, nofun⟩
      | ok _ =>
        dsimp only
        cases hm' : t₁.makeDirectory p with
        | ok t' => exact .inr ⟨t', rfl, rfl⟩
        | error e =>
          left
          by_cases hd : t₁.isDirectory p <;> simp [hd]
    · left
      by_cases hd : t.isDirectory p <;> cases e <;> simp_all

theorem grown_makeChain (t : FileTree) (chain : List Path) :
    Grown (fun p e => p ∈ chain ∧ e = .directory) t (t.makeChain chain).1 := by
  induction chain with
  | nil => exact .refl
  | cons p rest ih =>
    have ih' : Grown (fun q e => q ∈ p :: rest ∧ e = .directory) t (t.makeChain rest).1 :=
      ih.mono fun q e h => ⟨List.mem_cons_of_mem _ h.1, h.2⟩
    have add {t₁ t₂ : FileTree} (hg : Grown (fun q e => q ∈ p :: rest ∧ e = .directory) t t₁)
        (hm : t₁.makeDirectory p = .ok t₂) :
        Grown (fun q e => q ∈ p :: rest ∧ e = .directory) t t₂ := by
      obtain ⟨l, name, slash, hs, hf, rfl⟩ := makeDirectory_cases hm
      exact hg.add ⟨List.mem_cons_self, rfl⟩ hs hf fun _ => rfl
    rcases makeChain_cons (t := t) p rest with ⟨h, -⟩ | ⟨t', hm, h⟩ | ⟨-, -, ⟨h, -⟩ | ⟨t', hm, h⟩⟩
    · rw [h]
      exact .refl
    · rw [h]
      exact add .refl hm
    · rw [h]
      exact ih'
    · rw [h]
      exact add ih' hm

theorem grown_makeDirectories (t : FileTree) (p : Path) :
    Grown (fun q e => q ∈ p.ancestors ∧ e = .directory) t (t.makeDirectories p).1 := by
  unfold makeDirectories
  exact grown_makeChain t p.ancestors

theorem ancestors_eq_cons (p : Path) : ∃ rest, p.ancestors = p :: rest := by
  unfold Path.ancestors
  cases p.text.length with
  | zero => exact ⟨[], rfl⟩
  | succ fuel =>
    unfold Path.ancestors.go
    split
    · exact ⟨_, rfl⟩
    · exact ⟨[], rfl⟩

theorem isDirectory_of_makeDirectories (hp : p.isEmpty = false)
    (h : (t.makeDirectories p).2 = .ok ()) : (t.makeDirectories p).1.isDirectory p := by
  obtain ⟨rest, hrest⟩ := ancestors_eq_cons p
  unfold makeDirectories at h ⊢
  rw [hrest] at h ⊢
  rcases makeChain_cons (t := t) p rest with ⟨hc, hd⟩ | ⟨t', hm, hc⟩ |
    ⟨-, -, ⟨hc, hd⟩ | ⟨t', hm, hc⟩⟩
  · rw [hc]
    exact (hd h).resolve_left (by simp [hp])
  · rw [hc]
    exact isDirectory_of_makeDirectory hm
  · rw [hc]
    exact hd h
  · rw [hc]
    exact isDirectory_of_makeDirectory hm

theorem makeDirectories_of_isDirectory (h : t.isDirectory p) :
    t.makeDirectories p = (t, .ok ()) := by
  obtain ⟨rest, hrest⟩ := ancestors_eq_cons p
  obtain ⟨l, hl, hd⟩ := isDirectory_iff.mp h
  rw [makeDirectories, hrest, makeChain,
    if_neg (by simp [isEmpty_of_checkText (checkText_of_resolve hl)])]
  simp [makeDirectory_of_resolve hl, h]

theorem eq_of_resolve (hp : .parent ∉ p.components) (h : t.resolve p = .ok l) :
    l = (p.steps.map String.ofList).reverse ++ t.startOf p := by
  rw [Path.parent_mem_components_iff, ← p.filter_splitOn] at hp
  rw [← p.filter_splitOn]
  exact eq_of_walk (fun hm => hp (List.mem_filter.mpr ⟨hm, rfl⟩)) (walk_of_resolve h)

theorem resolve_of_agree (hp : .parent ∉ p.components) (h : t.resolve p = .ok l)
    (hc : t'.current = t.current) (ha : ∀ m, m <:+ l → t'.find? m = t.find? m) :
    t'.resolve p = .ok l := by
  rw [Path.parent_mem_components_iff, ← p.filter_splitOn] at hp
  refine resolve_of_walk (checkText_of_resolve h) ?_
  have hstart : t'.startOf p = t.startOf p := by
    unfold startOf
    rw [hc]
  rw [hstart]
  exact walk_of_agree (fun hm => hp (List.mem_filter.mpr ⟨hm, rfl⟩)) (walk_of_resolve h) ha

/-- The parent of a path that ends in a name is the directory before the name. -/
theorem EndsIn.resolve_parent (h : t.EndsIn p l name slash) (hq : p.parent? = some q)
    (hn : q.isEmpty = false) : t.resolve q = .ok l := by
  obtain ⟨front, blanks, hparts, hw, hblank, -⟩ := h.split
  obtain ⟨last, hlast⟩ := Path.steps_of_parent? hq hn
  have hfirst := Path.parent?_text_isPrefix hq
  have hsteps : p.steps = front.filter (!Path.isIdle ·) ++ [name.toList] := by
    have hidle : blanks.filter (!Path.isIdle ·) = [] :=
      List.filter_eq_nil_iff.mpr fun blank hb => by simp [hblank blank hb, Path.isIdle]
    rw [← p.filter_splitOn, hparts, List.filter_append, List.filter_cons, hidle]
    simp [h.isName.not_idle]
  obtain ⟨hfront, -⟩ := List.append_inj' (hlast.symm.trans hsteps) rfl
  have hstart : t.startOf q = t.startOf p := by
    unfold startOf
    rw [Path.isAbsolute_of_isPrefix hfirst hn]
  refine resolve_of_place? (checkText_of_sublist hfirst.sublist hn h.checked) ?_ h.isDirectoryAt
  rw [place?_eq_some, hfront, hstart]
  exact walk_filter hw

/-- Each directory that is made lies at or below the last of the missing ones in the chain. -/
private def Covered (t : FileTree) (chain : List Path) : Prop :=
  ∀ m, (t.makeChain chain).1.isDirectoryAt m → t.find? m = none →
    ∃ q k, (chain.takeWhile fun d => !d.isEmpty && !t.contains d).getLast? = some q ∧
      (t.makeChain chain).1.resolve q = .ok k ∧ (t.makeChain chain).1.isDirectoryAt k ∧ k <:+ m

private theorem suffix_of_resolve {k : Location} (hp : .parent ∉ p.components)
    (hsteps : q.steps <+: p.steps) (habs : q.isAbsolute = p.isAbsolute)
    (hc : t.current = t'.current) (hq : t.resolve q = .ok k) (hm : t'.resolve p = .ok m) :
    k <:+ m := by
  have hq' : .parent ∉ q.components := by
    rw [Path.parent_mem_components_iff] at hp ⊢
    exact fun h => hp (hsteps.subset h)
  obtain ⟨rest, hrest⟩ := hsteps
  rw [eq_of_resolve hq' hq, eq_of_resolve hp hm, ← hrest, startOf, startOf, habs, hc]
  simp

/-- Nothing of the chain is missing behind a path whose directory can be made at once. -/
private theorem takeWhile_missing_of_slot {rest : List Path}
    (hhead : ∀ q, rest.head? = some q → p.parent? = some q)
    (hs : t.slot p = .ok (.named l name slash)) :
    (rest.takeWhile fun d => !d.isEmpty && !t.contains d) = [] := by
  cases rest with
  | nil => rfl
  | cons q others =>
    by_cases hq : q.isEmpty
    · simp [hq]
    · have hres := (endsIn_of_slot hs).resolve_parent (hhead q rfl) (by simpa using hq)
      simp [contains_iff.mpr ⟨_, hres⟩]

/-- A path whose directory could be made only after those of the rest: some of these are new. -/
private theorem exists_new_of_makeDirectory {rest : List Path} {e : FileError}
    (h : t.makeDirectory p = .error e)
    (h' : (t.makeChain rest).1.makeDirectory p = .ok t') :
    ∃ n, (t.makeChain rest).1.isDirectoryAt n ∧ t.find? n = none := by
  obtain ⟨more, hmore, hnew⟩ := (grown_makeChain t rest).exists_extend
  cases more with
  | nil =>
    rw [hmore, extend_nil, h] at h'
    cases h'
  | cons entry others =>
    obtain ⟨hn, d, ⟨-, hdir⟩, hlies⟩ := hnew entry List.mem_cons_self
    exact ⟨entry.1, isDirectoryAt_iff.mpr (hdir ▸ hlies.1), hn⟩

private theorem covered_cons {rest : List Path} (hp : .parent ∉ p.components)
    (hhead : ∀ q, rest.head? = some q → p.parent? = some q)
    (hrest : ∀ q ∈ rest, q.isEmpty = false → q.steps <+: p.steps ∧ q.isAbsolute = p.isAbsolute)
    (ih : Covered t rest) : Covered t (p :: rest) := by
  intro m hm hnone
  rcases makeChain_cons (t := t) p rest with ⟨h, -⟩ | ⟨t', hmake, h⟩ | ⟨he, hmake, h⟩
  · rw [h, isDirectoryAt_iff, hnone] at hm
    cases hm
  · -- The path itself is made, in a directory that was there, so that its parent is not missing.
    rw [h] at hm ⊢
    obtain ⟨l, name, slash, hs, -, -⟩ := makeDirectory_cases hmake
    have hmissing : t.contains p = false :=
      contains_eq_false_of_makeDirectory (by simp [hmake])
    obtain ⟨k, hlies, -, rfl⟩ := liesAt_of_makeDirectory hmake
    obtain hm | ⟨-, rfl⟩ := isDirectoryAt_extend_directory.mp hm
    · rw [isDirectoryAt_iff, hnone] at hm
      cases hm
    refine ⟨p, _, ?_, hlies.resolve, isDirectoryAt_iff.mpr hlies.1, List.suffix_rfl⟩
    simp [isEmpty_of_checkText (endsIn_of_slot hs).checked, hmissing,
      takeWhile_missing_of_slot hhead hs]
  · -- The chain goes on behind the path, which is missing, with the chain of the others.
    have hmissing : t.contains p = false :=
      contains_eq_false_of_makeDirectory (by simp [hmake])
    have hlast {q : Path} (hq : (rest.takeWhile fun d =>
        !d.isEmpty && !t.contains d).getLast? = some q) :
        ((p :: rest).takeWhile fun d => !d.isEmpty && !t.contains d).getLast? = some q := by
      simp [he, hmissing, List.getLast?_cons, hq]
    rcases h with ⟨h, -⟩ | ⟨t', hmake', h⟩
    · rw [h] at hm ⊢
      obtain ⟨q, k, hq, hk⟩ := ih m hm hnone
      exact ⟨q, k, hlast hq, hk⟩
    rw [h] at hm ⊢
    obtain ⟨place, hlies, -, rfl⟩ := liesAt_of_makeDirectory hmake'
    have hin := DirectoriesIn.extend (t.makeChain rest).1 [(place, .directory)]
    have kept {q : Path} {k : Location} (hk : (t.makeChain rest).1.resolve q = .ok k)
        (hkd : (t.makeChain rest).1.isDirectoryAt k) :
        ((t.makeChain rest).1.extend [(place, .directory)]).resolve q = .ok k :=
      hin.resolve hk (by rw [isDirectoryAt_iff.mp (hin.isDirectoryAt k hkd)]; rfl)
    obtain hm | ⟨-, rfl⟩ := isDirectoryAt_extend_directory.mp hm
    · obtain ⟨q, k, hq, hk, hkd, hkm⟩ := ih m hm hnone
      exact ⟨q, k, hlast hq, kept hk hkd, hin.isDirectoryAt k hkd, hkm⟩
    · -- The outermost path that was missing is one of those made before, and leads above this one.
      obtain ⟨n, hn, hnew⟩ := exists_new_of_makeDirectory hmake hmake'
      obtain ⟨q, k, hq, hk, hkd, -⟩ := ih n hn hnew
      have hmem := List.mem_of_getLast? hq
      have hqe : q.isEmpty = false := by
        have := List.mem_takeWhile_imp hmem
        simp_all
      obtain ⟨hsteps, habs⟩ := hrest q (List.takeWhile_subset _ hmem) hqe
      exact ⟨q, k, hlast hq, kept hk hkd, hin.isDirectoryAt k hkd,
        suffix_of_resolve hp hsteps habs rfl (kept hk hkd) hlies.resolve⟩

private theorem covered_ancestors {fuel : Nat} (hp : .parent ∉ p.components) :
    Covered t (Path.ancestors.go fuel p) := by
  have alone (p : Path) (hp : .parent ∉ p.components) : Covered t [p] :=
    covered_cons hp (fun q hq => by cases hq) (List.forall_mem_nil _) fun m hm hn => by
      rw [makeChain, isDirectoryAt_iff, hn] at hm
      cases hm
  induction fuel generalizing p with
  | zero => exact alone p hp
  | succ fuel ih =>
    unfold Path.ancestors.go
    split
    · next q hq =>
      have hfront {d : Path} (hd : d ∈ Path.ancestors.go fuel q) (hn : d.isEmpty = false) :
          d.steps <+: p.steps ∧ d.isAbsolute = p.isAbsolute := by
        have hmem : d ∈ Path.ancestors.go (fuel + 1) p := by
          unfold Path.ancestors.go
          rw [hq]
          exact List.mem_cons_of_mem _ hd
        exact (Path.front_of_mem_ancestors hmem).2 hn
      refine covered_cons hp (fun d hd => ?_) (fun d hd hn => hfront hd hn) ?_
      · have hhead : (Path.ancestors.go fuel q).head? = some q := by
          cases fuel with
          | zero => rfl
          | succ fuel =>
            unfold Path.ancestors.go
            split <;> rfl
        rw [hhead] at hd
        rw [hq, hd]
      · refine ih ?_
        rw [Path.parent_mem_components_iff] at hp ⊢
        by_cases hqe : q.isEmpty
        · have htext : q.text = "" := by simpa [Path.isEmpty] using hqe
          rw [← q.filter_splitOn, htext]
          intro hm
          cases hm
        · obtain ⟨last, hlast⟩ := Path.steps_of_parent? hq (by simpa using hqe)
          exact fun hm => hp (hlast ▸ List.mem_append_left _ hm)
    · exact alone p hp

/-- What is made for a directory lies at or below the outermost directory that was missing. -/
theorem exists_of_makeDirectories (hp : .parent ∉ p.components)
    (hm : (t.makeDirectories p).1.isDirectoryAt m) (hn : t.find? m = none) :
    ∃ q k, Output.outermostMissing? t p = some q ∧ (t.makeDirectories p).1.resolve q = .ok k ∧
      (t.makeDirectories p).1.isDirectoryAt k ∧ k <:+ m := by
  unfold makeDirectories at hm ⊢
  exact covered_ancestors hp m hm hn

end Scaffold.FileTree
