import Scaffold.Proofs.Except
import Scaffold.Proofs.FileTree.Joining
import Scaffold.Proofs.Output.Rewriting

/-! What has become of a tree when files have been written: the files lie where their paths lead,
the directories on their way are there, and all else is as it was. -/
namespace Scaffold.Output

open FileTree

variable {tree after : FileTree} {paths : List Path} {p : Path} {l : Location} {e : Entry}

/-- One tree comes from another one by writing to some paths. -/
structure Written (tree after : FileTree) (paths : List Path) : Prop where
  wellFormed : after.WellFormed
  directoriesIn : tree.DirectoriesIn after
  exists_place : ∀ q ∈ paths, ∃ l, after.resolve q = .ok l ∧ after.isDirectoryAt l = false
  old : ∀ l e, tree.find? l = some e →
    after.find? l = some e ∨ ∃ q ∈ paths, after.resolve q = .ok l
  new : ∀ l e, after.find? l = some e → tree.find? l = some e ∨
    (∃ q ∈ paths, after.resolve q = .ok l) ∨
      e = .directory ∧ tree.find? l = none ∧
        ∃ q ∈ paths, ∃ p ∈ (directoryOf q).ancestors, after.LiesAt p l .directory

theorem written_of_write {files : List OutputFile} (ht : tree.WellFormed)
    (h : write tree files = (after, .ok ())) : Written tree after (files.map (·.path)) := by
  obtain ⟨parcels, s, made, moved, hfiles, hall, hmap, rfl, hwell, hkept, hmade, hmoved⟩ :=
    exists_of_write ht h
  have hp := path_mem_of_map_file hfiles
  obtain ⟨hputs, hputs', hresolve⟩ := resolve_of_moved hmoved
  have hne := ne_nil_of_mem_placed hmoved
  have hpaths : ∀ m ∈ moved, m.1.path ∈ files.map (·.path) := fun m hm =>
    hmap ▸ List.mem_map_of_mem (List.mem_map_of_mem hm)
  refine ⟨wellFormed_putAll hwell hmoved, (DirectoriesIn.extend tree made).trans hputs,
    fun q hq => ?_, fun l e hl => ?_, fun l e hl => ?_⟩
  · rw [hmap, List.map_map] at hq
    obtain ⟨m, hm, rfl⟩ := List.mem_map.mp hq
    exact ⟨m.2, hresolve m hm, ((hmoved m hm).mono hputs hputs').1⟩
  · cases hg : (placed moved).reverse.lookup l with
    | some other =>
      obtain ⟨m, hm, heq⟩ := mem_placed.mp (List.mem_reverse.mp (Entries.mem_of_lookup hg))
      obtain ⟨rfl, -⟩ := Prod.mk.inj heq
      exact .inr ⟨_, hpaths m hm, hresolve m hm⟩
    | none =>
      left
      rw [find?_putAll _ _ hne, hg, Option.none_or]
      exact find?_extend_of_some hl made
  · refine (find?_placed_cases hall hp (fun l e hm => (hmade l e).mp hm) hkept hmoved hl).imp_right
      (Or.imp_left ?_)
    exact fun ⟨m, hm, hlies⟩ => ⟨_, hpaths m hm, hlies.resolve⟩

/-- A path leads to none of the files that were written, and to none of the directories that were
made. -/
def Untouched (tree after : FileTree) (paths : List Path) (p : Path) : Prop :=
  ∀ l, after.resolve p = .ok l → (∀ q ∈ paths, after.resolve q ≠ .ok l) ∧
    (after.isDirectoryAt l → tree.isDirectoryAt l)

instance : Decidable (Untouched tree after paths p) :=
  match h : after.resolve p with
  | .error _ => isTrue fun _ hl => absurd (h.symm.trans hl) nofun
  | .ok l => decidable_of_iff ((∀ q ∈ paths, after.resolve q ≠ .ok l) ∧
      (after.isDirectoryAt l → tree.isDirectoryAt l))
    ⟨fun hu _ hl => Except.ok.inj (h.symm.trans hl) ▸ hu, fun hu => hu l h⟩

namespace Written

variable (h : Written tree after paths)
include h

theorem find?_isSome (hl : (tree.find? l).isSome) : (after.find? l).isSome := by
  obtain ⟨e, he⟩ := Option.isSome_iff_exists.mp hl
  rcases h.old l e he with hfound | ⟨q, -, hq⟩
  · rw [hfound]
    rfl
  · exact h.wellFormed.find?_isSome_of_resolve hq

theorem resolve (ht : tree.WellFormed) (hr : tree.resolve p = .ok l) : after.resolve p = .ok l :=
  h.directoriesIn.resolve hr (h.find?_isSome (ht.find?_isSome_of_resolve hr))

theorem not_isDirectoryAt {q : Path} (hq : q ∈ paths) (hr : after.resolve q = .ok l) :
    after.isDirectoryAt l = false := by
  obtain ⟨m, hm, hfile⟩ := h.exists_place q hq
  rwa [Except.ok.inj (hr.symm.trans hm)]

theorem isDirectoryAt_or_find?_eq_none (hl : after.isDirectoryAt l) :
    tree.isDirectoryAt l ∨ tree.find? l = none := by
  cases hold : tree.find? l with
  | none => exact .inr rfl
  | some e =>
    rcases h.old l e hold with hsame | ⟨q, hq, hr⟩
    · rw [isDirectoryAt_iff.mp hl] at hsame
      exact .inl (isDirectoryAt_iff.mpr (hsame ▸ hold))
    · exact absurd hl (by simp [h.not_isDirectoryAt hq hr])

/-- A directory that was made lies on the way to a path to which something was written. -/
theorem exists_liesAt_of_made (hl : after.isDirectoryAt l) (hnew : tree.find? l = none) :
    ∃ q ∈ paths, ∃ p ∈ (directoryOf q).ancestors, after.LiesAt p l .directory := by
  rcases h.new l _ (isDirectoryAt_iff.mp hl) with hold | ⟨q, hq, hr⟩ | ⟨-, -, hmade⟩
  · rw [hnew] at hold
    cases hold
  · exact absurd hl (by simp [h.not_isDirectoryAt hq hr])
  · exact hmade

/-- Where steps went to something, they still go, past a directory. -/
theorem walk_of_isDirectoryAt {steps : List (List Char)} {m : Location}
    (hm : tree.walk l steps = .ok m) (hd : tree.isDirectoryAt m) : after.walk l steps = .ok m :=
  h.directoriesIn.walk hm (h.find?_isSome (by rw [isDirectoryAt_iff.mp hd]; rfl))

/-- A text that was read is read again, unless a file was written there. -/
theorem readText (ht : tree.WellFormed) (hu : Untouched tree after paths p) {text : String}
    (hr : tree.readText p = .ok text) : after.readText p = .ok text := by
  obtain ⟨l, content, hres, hf, hc⟩ := readText_eq_ok_iff.mp hr
  have hres' := h.resolve ht hres
  have hf' : after.find? l = some (.file content) :=
    (h.old l _ hf).resolve_right fun ⟨q, hq, hl⟩ => (hu l hres').1 q hq hl
  exact readText_eq_ok_iff.mpr ⟨l, content, hres', hf', hc⟩

theorem find?_isSome_of_untouched (hu : Untouched tree after paths p)
    (hr : after.resolve p = .ok l) : (tree.find? l).isSome := by
  obtain ⟨e, he⟩ := Option.isSome_iff_exists.mp (h.wellFormed.find?_isSome_of_resolve hr)
  rcases h.new l e he with hfound | ⟨q, hq, hl⟩ | ⟨rfl, -⟩
  · rw [hfound]
    rfl
  · exact absurd hl ((hu l hr).1 q hq)
  · rw [isDirectoryAt_iff.mp ((hu l hr).2 (isDirectoryAt_iff.mpr he))]
    rfl

/-- A name that was missing where another name leads somewhere is still missing. -/
theorem resolve_notFound {d : Path} {file other : String}
    (hf : '/' ∉ file.toList) (ho : '/' ∉ other.toList)
    (hu : Untouched tree after paths (d.join ⟨other⟩))
    (hfound : tree.resolve (d.join ⟨file⟩) = .ok l)
    (hmissing : tree.resolve (d.join ⟨other⟩) = .error .notFound) :
    after.resolve (d.join ⟨other⟩) = .error .notFound := by
  cases hc : checkText (d.join ⟨other⟩) with
  | error e =>
    rw [FileTree.resolve, hc] at hmissing ⊢
    exact hmissing
  | ok _ =>
    obtain ⟨m, hd, hm⟩ := exists_place_of_resolve_join hf hfound
    have hold := resolve_join hd hm ho hc
    have hnew :=
      resolve_join (h.directoriesIn.place? hd hm) (h.directoriesIn.isDirectoryAt m hm) ho hc
    rw [hmissing] at hold
    obtain ⟨hnone, hagain⟩ := step_of_notFound hold.symm
    rw [hagain after (h.directoriesIn.isDirectoryAt m hm)] at hnew
    split at hnew
    · have hsome := h.find?_isSome_of_untouched hu hnew
      rw [hnone] at hsome
      cases hsome
    · exact hnew

end Written

end Scaffold.Output
