import Scaffold.Proofs.FileTree.Following
import Scaffold.Proofs.Path.Steps

/-! Paths that are joined to directories: they start where the directory lies. -/
namespace Scaffold.FileTree

variable {t t' : FileTree} {d p : Path} {file : String} {l m : Location}

namespace IsName

theorem toList_ne_nil (h : IsName file) : file.toList ≠ [] := fun hn => by
  simpa [Path.isIdle, hn] using h.not_idle

theorem join_isEmpty (h : IsName file) (d : Path) : (d.join ⟨file⟩).isEmpty = false := by
  have htext := Path.text_join d (Path.not_isAbsolute h.no_slash)
  by_contra hempty
  have hnil : (d.join ⟨file⟩).text = "" := by simpa [Path.isEmpty] using hempty
  rw [hnil] at htext
  exact h.toList_ne_nil (List.append_eq_nil_iff.mp htext.symm).2

theorem nul_not_mem_join (h : IsName file) (hd : '\x00' ∉ d.text.toList) :
    '\x00' ∉ (d.join ⟨file⟩).text.toList := by
  intro hm
  rcases Path.mem_text_join hm with hm | hm | hm
  · exact hd hm
  · cases hm
  · exact h.no_nul hm

end IsName

theorem walk_singleton (t : FileTree) (l : Location) (part : List Char) :
    t.walk l [part] = t.step l part := by
  rw [walk]
  cases t.step l part <;> rfl

theorem resolve_of_checkText (h : checkText p = .ok ()) :
    t.resolve p = t.walk (t.startOf p) (p.text.toList.splitOn '/') := by
  rw [resolve, h]

theorem startOf_join (hp : p.isAbsolute = false) : t.startOf (d.join p) = t.startOf d := by
  unfold startOf
  rw [Path.isAbsolute_join hp]

theorem place?_append_slashes (t : FileTree) (hp : p.isEmpty = false) (n : Nat) :
    t.place? ⟨p.text ++ String.ofList (List.replicate n '/')⟩ = t.place? p := by
  have habs : (⟨p.text ++ String.ofList (List.replicate n '/')⟩ : Path).isAbsolute =
      p.isAbsolute := by
    refine (Path.isAbsolute_of_isPrefix ?_ hp).symm
    rw [String.toList_append]
    exact List.prefix_append _ _
  rw [place?, place?, startOf, habs, ← startOf, Path.steps_append_slashes]

theorem DirectoriesIn.place? (h : t.DirectoriesIn t') (hp : t.place? p = some m)
    (hm : t.isDirectoryAt m) : t'.place? p = some m := by
  rw [place?_eq_some] at hp ⊢
  rw [h.startOf]
  exact h.walk hp (by rw [isDirectoryAt_iff.mp (h.isDirectoryAt m hm)]; rfl)

theorem resolve_join (hd : t.place? d = some m) (hm : t.isDirectoryAt m) (hf : '/' ∉ file.toList)
    (hc : checkText (d.join ⟨file⟩) = .ok ()) :
    t.resolve (d.join ⟨file⟩) = t.step m file.toList := by
  obtain ⟨front, hfront, hjoin⟩ := Path.exists_splitOn_join d
  have hwalk : t.walk (t.startOf d) front = .ok m :=
    walk_of_filter (hfront ▸ place?_eq_some.mp hd) hm
  have hrelative := Path.not_isAbsolute hf
  rw [resolve_of_checkText hc, hjoin ⟨file⟩ hrelative, startOf_join hrelative,
    walk_append_of_ok hwalk, List.splitOn_eq_singleton hf, walk_singleton]

theorem exists_place_of_resolve_join (hf : '/' ∉ file.toList)
    (h : t.resolve (d.join ⟨file⟩) = .ok l) : ∃ m, t.place? d = some m ∧ t.isDirectoryAt m := by
  obtain ⟨front, hfront, hjoin⟩ := Path.exists_splitOn_join d
  have hrelative := Path.not_isAbsolute hf
  have hwalk := walk_of_resolve h
  rw [hjoin ⟨file⟩ hrelative, startOf_join hrelative, List.splitOn_eq_singleton hf] at hwalk
  obtain ⟨m, hm, hlast⟩ := walk_append_eq_ok.mp hwalk
  rw [walk_singleton] at hlast
  exact ⟨m, place?_eq_some.mpr (hfront ▸ walk_filter hm), (step_cases hlast).1⟩

end Scaffold.FileTree
