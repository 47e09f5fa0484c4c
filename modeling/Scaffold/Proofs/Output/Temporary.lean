import Mathlib.Data.List.Nodup
import Mathlib.Tactic.Push
import Scaffold.Proofs.FileTree.Growth

/-! Names of temporary files: one that is not in use is always found, it depends on the set of names
in use only, and a file of that name next to a target is told from all that is in the tree or is to
be written. -/
namespace Scaffold.Output

variable {t t' : FileTree} {p : Path} {used used' : List String}

/-- The names that a temporary file can have, in the order in which they are tried. -/
def temporaryName (n : Nat) : String := ".tmp" ++ toString n

theorem temporaryName_inj {m n : Nat} (h : temporaryName m = temporaryName n) : m = n := by
  have hdigits : Nat.toDigits 10 m = Nat.toDigits 10 n := by
    have hrepr : m.repr = n.repr := by simpa [temporaryName] using h
    rw [← Nat.toList_repr, ← Nat.toList_repr, hrepr]
  rw [← @Nat.ofDigitChars_ten_toDigits m, hdigits, Nat.ofDigitChars_ten_toDigits]

theorem slash_not_mem_temporaryName (n : Nat) : '/' ∉ (temporaryName n).toList := by
  intro h
  simp only [temporaryName, Nat.toString_eq_repr, String.toList_append, List.mem_append,
    Nat.toList_repr] at h
  rcases h with h | h
  · simp at h
  · exact absurd (Nat.isDigit_of_mem_toDigits (by decide) (by decide) h) (by decide)

theorem exists_freshName (used : List String) :
    ∃ n, freshName used = temporaryName n ∧ temporaryName n ∉ used ∧
      ∀ m < n, temporaryName m ∈ used := by
  have hfree : ∃ n ∈ List.range (used.length + 1), temporaryName n ∉ used := by
    by_contra h
    push Not at h
    have hnodup : ((List.range (used.length + 1)).map temporaryName).Nodup :=
      List.nodup_range.map fun _ _ => temporaryName_inj
    have hsubset : (List.range (used.length + 1)).map temporaryName ⊆ used := fun name hn => by
      obtain ⟨n, hm, rfl⟩ := List.mem_map.mp hn
      exact h n hm
    have hlen := hnodup.length_le_of_subset hsubset
    simp at hlen
  obtain ⟨k, hk, hfree⟩ := hfree
  have hsome : ((List.range (used.length + 1)).find? fun n =>
      !used.contains (temporaryName n)).isSome := by
    rw [List.find?_isSome]
    exact ⟨k, hk, by simp [hfree]⟩
  obtain ⟨n, hn⟩ := Option.isSome_iff_exists.mp hsome
  obtain ⟨hfree, -, hleast⟩ := List.find?_range_eq_some.mp hn
  refine ⟨n, ?_, by simpa using hfree, fun m hm => by simpa using hleast m hm⟩
  have hmap : (List.range (used.length + 1)).map (fun n => ".tmp" ++ toString n) =
    (List.range (used.length + 1)).map temporaryName := rfl
  rw [freshName, hmap, List.find?_map]
  exact congrArg (fun found => (found.map temporaryName).getD ".tmp") hn

theorem freshName_not_mem (used : List String) : freshName used ∉ used := by
  obtain ⟨n, hn, hfree, -⟩ := exists_freshName used
  rwa [hn]

theorem slash_not_mem_freshName (used : List String) : '/' ∉ (freshName used).toList := by
  obtain ⟨n, hn, -⟩ := exists_freshName used
  rw [hn]
  exact slash_not_mem_temporaryName n

theorem freshName_ne_nil (used : List String) : (freshName used).toList ≠ [] := by
  obtain ⟨n, hn, -⟩ := exists_freshName used
  simp [hn, temporaryName]

theorem freshName_congr (h : ∀ name, name ∈ used ↔ name ∈ used') :
    freshName used = freshName used' := by
  obtain ⟨n, hn, hfree, hleast⟩ := exists_freshName used
  obtain ⟨n', hn', hfree', hleast'⟩ := exists_freshName used'
  rcases Nat.lt_trichotomy n n' with hlt | rfl | hlt
  · exact absurd ((h _).mpr (hleast' n hlt)) hfree
  · rw [hn, hn']
  · exact absurd ((h _).mp (hleast n' hlt)) hfree'

theorem mem_namesInUse {paths : List Path} {name : String} :
    name ∈ namesInUse t paths ↔ (∃ l ∈ t.entries.map Prod.fst, name ∈ l) ∨
      ∃ p ∈ paths, name.toList ∈ p.text.toList.splitOn '/' := by
  have hpart (p : Path) : name ∈ (p.text.toList.splitOn '/').map String.ofList ↔
      name.toList ∈ p.text.toList.splitOn '/' := by
    rw [List.mem_map]
    constructor
    · rintro ⟨part, hp, rfl⟩
      simpa using hp
    · exact fun h => ⟨_, h, by simp⟩
  simp only [namesInUse, List.mem_append, List.mem_flatMap, hpart, List.mem_map]
  simp

theorem mem_namesInUse_of_find? {paths : List Path} {name : String} {l : Location} {e : Entry}
    (h : t.find? (name :: l) = some e) : name ∈ namesInUse t paths := by
  have hentry := FileTree.mem_of_find? h (List.cons_ne_nil _ _)
  exact mem_namesInUse.mpr (.inl ⟨_, List.mem_map_of_mem hentry, List.mem_cons_self⟩)

theorem slot_join {d : Path} {l : Location} {file name : String} {slash : Bool}
    (hf : '/' ∉ file.toList) (hn : file.toList ≠ [])
    (h : t.slot (d.join ⟨file⟩) = .ok (.named l name slash)) : name = file ∧ slash = false := by
  obtain ⟨front, blanks, hp, -, hblank, hslash⟩ := (FileTree.endsIn_of_slot h).split
  obtain ⟨front', -, hjoin⟩ := Path.exists_splitOn_join d
  rw [hjoin ⟨file⟩ (Path.not_isAbsolute hf), List.splitOn_eq_singleton hf] at hp
  obtain rfl : blanks = [] := by
    rcases List.eq_nil_or_concat blanks with rfl | ⟨others, last, rfl⟩
    · rfl
    · have hlast := congrArg List.getLast? hp
      simp only [List.getLast?_append, List.getLast?_cons] at hlast
      have := hblank last (by simp)
      simp_all
  obtain ⟨-, hname⟩ := List.append_inj' hp rfl
  refine ⟨String.toList_inj.mp (List.singleton_inj.mp hname).symm, ?_⟩
  cases slash with
  | false => rfl
  | true => exact absurd rfl (hslash.mp rfl)

end Scaffold.Output
