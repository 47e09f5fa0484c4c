import Mathlib.Data.List.Basic
import Scaffold.FileTree.Update
import Scaffold.Proofs.Entries

/-! Trees with more entries and with fewer: what lies where in them, and which of them hang
together. -/
namespace Scaffold.FileTree

variable {t t' : FileTree} {l m : Location} {e : Entry}

/-- The tree with further entries behind its own. -/
def extend (t : FileTree) (more : List (Location × Entry)) : FileTree :=
  { t with entries := t.entries ++ more }

/-- The tree with the entries at some locations only. -/
def restrict (t : FileTree) (keep : Location → Bool) : FileTree :=
  { t with entries := t.entries.filter fun entry => keep entry.1 }

/-- The tree with entries put at locations, one after the other. -/
def putAll (t : FileTree) (placed : List (Location × Entry)) : FileTree :=
  placed.foldl (fun t entry => t.put entry.1 entry.2) t

theorem erase_eq_restrict (t : FileTree) (l : Location) :
    t.erase l = t.restrict fun m => decide (m ≠ l) := rfl

theorem eraseBelow_eq_restrict (t : FileTree) (l : Location) :
    t.eraseBelow l = t.restrict fun m => !l.isSuffixOf m := rfl

@[simp] theorem extend_nil (t : FileTree) : t.extend [] = t := by
  simp [extend]

theorem extend_extend (t : FileTree) (xs ys : List (Location × Entry)) :
    (t.extend xs).extend ys = t.extend (xs ++ ys) := by
  simp [extend]

theorem restrict_restrict (t : FileTree) (keep keep' : Location → Bool) :
    (t.restrict keep).restrict keep' = t.restrict fun l => keep l && keep' l := by
  simp [restrict, List.filter_filter, Bool.and_comm]

@[simp] theorem find?_root (t : FileTree) : t.find? [] = some .directory := rfl

theorem find?_of_ne_nil (h : l ≠ []) : t.find? l = t.entries.lookup l := if_neg h

theorem isDirectoryAt_iff : t.isDirectoryAt l = true ↔ t.find? l = some .directory := by
  simp [isDirectoryAt]

@[simp] theorem isDirectoryAt_root (t : FileTree) : t.isDirectoryAt [] = true := rfl

theorem mem_of_find? (h : t.find? l = some e) (hl : l ≠ []) : (l, e) ∈ t.entries := by
  rw [find?_of_ne_nil hl] at h
  exact Entries.mem_of_lookup h

theorem find?_extend (t : FileTree) (more : List (Location × Entry)) (l : Location) :
    (t.extend more).find? l = (t.find? l).or (more.lookup l) := by
  by_cases hl : l = []
  · simp [hl]
  · simp only [find?_of_ne_nil hl, extend, List.lookup_append]

theorem find?_extend_of_some (h : t.find? l = some e) (more : List (Location × Entry)) :
    (t.extend more).find? l = some e := by
  rw [find?_extend, h, Option.some_or]

theorem find?_restrict (keep : Location → Bool) (hl : l ≠ []) :
    (t.restrict keep).find? l = if keep l then t.find? l else none := by
  simp only [find?_of_ne_nil hl, restrict, Entries.lookup_filter]

theorem find?_restrict_of_keep {keep : Location → Bool} (h : keep l) :
    (t.restrict keep).find? l = t.find? l := by
  by_cases hl : l = []
  · rw [hl]
    rfl
  · rw [find?_restrict keep hl, if_pos h]

theorem find?_of_restrict {keep : Location → Bool} (h : (t.restrict keep).find? l = some e) :
    t.find? l = some e := by
  by_cases hl : l = []
  · rw [← h, hl]
    rfl
  · rw [find?_restrict keep hl] at h
    by_cases hk : keep l
    · rwa [if_pos hk] at h
    · simp [hk] at h

theorem find?_put_self (t : FileTree) (e : Entry) (hl : l ≠ []) :
    (t.put l e).find? l = some e := by
  rw [find?_put t l l e hl, if_pos rfl]

theorem find?_put_of_ne (t : FileTree) (e : Entry) (h : l ≠ m) :
    (t.put l e).find? m = t.find? m := by
  by_cases hl : l = []
  · subst hl
    rw [find?_of_ne_nil (Ne.symm h), find?_of_ne_nil (Ne.symm h)]
    rw [put, Entries.lookup_put_of_ne (Ne.symm h)]
  · rw [find?_put t l m e hl, if_neg h]

theorem put_of_find?_eq_none (h : t.find? l = none) (e : Entry) :
    t.put l e = t.extend [(l, e)] := by
  have hl : l ≠ [] := by
    rintro rfl
    cases h
  rw [find?_of_ne_nil hl] at h
  simp [put, extend, Entries.put_of_lookup_eq_none e h]

theorem restrict_put {keep : Location → Bool} (h : keep l) (e : Entry) :
    (t.put l e).restrict keep = (t.restrict keep).put l e := by
  simp only [put, restrict, Entries.filter_put h e]

theorem find?_putAll (t : FileTree) (placed : List (Location × Entry))
    (hp : ∀ entry ∈ placed, entry.1 ≠ []) (l : Location) :
    (t.putAll placed).find? l = (placed.reverse.lookup l).or (t.find? l) := by
  induction placed generalizing t with
  | nil => rfl
  | cons entry rest ih =>
    obtain ⟨he, hr⟩ := List.forall_mem_cons.mp hp
    rw [putAll, List.foldl_cons, ← putAll, ih _ hr, List.reverse_cons, List.lookup_append,
      Option.or_assoc, find?_put _ _ _ _ he]
    congr 1
    by_cases h : entry.1 = l <;> simp [Entries.lookup_cons, h, eq_comm (a := l)]

theorem current_putAll (t : FileTree) (placed : List (Location × Entry)) :
    (t.putAll placed).current = t.current := by
  induction placed generalizing t with
  | nil => rfl
  | cons entry rest ih => exact ih (t.put entry.1 entry.2)

theorem keys_putAll {placed : List (Location × Entry)}
    (hp : ∀ entry ∈ placed, entry.1 ∈ t.entries.map Prod.fst) :
    (t.putAll placed).entries.map Prod.fst = t.entries.map Prod.fst := by
  induction placed generalizing t with
  | nil => rfl
  | cons entry rest ih =>
    obtain ⟨hfirst, hrest⟩ := List.forall_mem_cons.mp hp
    have hput : (t.put entry.1 entry.2).entries.map Prod.fst = t.entries.map Prod.fst := by
      rw [put, Entries.keys_put, if_pos hfirst]
    exact (ih (hput ▸ hrest)).trans hput

namespace WellFormed

theorem isDirectoryAt_tail (h : t.WellFormed) (hl : (t.find? l).isSome) :
    t.isDirectoryAt l.tail := by
  obtain ⟨e, he⟩ := Option.isSome_iff_exists.mp hl
  by_cases hn : l = []
  · simp [hn]
  · exact isDirectoryAt_iff.mpr (h.parent l (List.mem_map_of_mem (mem_of_find? he hn)))

/-- Everything on the way to what lies in the tree is a directory. -/
theorem isDirectoryAt_of_suffix (h : t.WellFormed) (hl : (t.find? l).isSome) (hm : m <:+ l)
    (hne : m ≠ l) : t.isDirectoryAt m := by
  induction l with
  | nil => exact absurd (List.suffix_nil.mp hm) hne
  | cons name rest ih =>
    have hr : t.isDirectoryAt rest := h.isDirectoryAt_tail hl
    rcases List.suffix_cons_iff.mp hm with rfl | hm
    · exact absurd rfl hne
    · by_cases he : m = rest
      · rwa [he]
      · exact ih (by rw [isDirectoryAt_iff.mp hr]; rfl) hm he

theorem find?_isSome_of_suffix (h : t.WellFormed) (hl : (t.find? l).isSome) (hm : m <:+ l) :
    (t.find? m).isSome := by
  by_cases he : m = l
  · rwa [he]
  · rw [isDirectoryAt_iff.mp (h.isDirectoryAt_of_suffix hl hm he)]
    rfl

theorem isDirectoryAt_above (h : t.WellFormed) (hl : t.isDirectoryAt l) (hm : m <:+ l) :
    t.isDirectoryAt m := by
  by_cases he : m = l
  · rwa [he]
  · exact h.isDirectoryAt_of_suffix (by rw [isDirectoryAt_iff.mp hl]; rfl) hm he

theorem find?_of_mem (h : t.WellFormed) (hl : (l, e) ∈ t.entries) : t.find? l = some e := by
  rw [find?_of_ne_nil (h.ne_root l (List.mem_map_of_mem hl))]
  exact Entries.lookup_of_mem h.nodup hl

/-- Trees with the same locations in order are told by what lies there. -/
theorem eq_of_find? (h : t.WellFormed) (hc : t'.current = t.current)
    (hk : t'.entries.map Prod.fst = t.entries.map Prod.fst) (hf : ∀ l, t'.find? l = t.find? l) :
    t' = t := by
  have hentries : t'.entries = t.entries := by
    refine Entries.ext_of_keys hk (hk ▸ h.nodup) fun l => ?_
    by_cases hl : l = []
    · have hroot : l ∉ t.entries.map Prod.fst := fun hm => h.ne_root l hm hl
      rw [Entries.lookup_eq_none_iff.mpr hroot, Entries.lookup_eq_none_iff.mpr (hk ▸ hroot)]
    · rw [← find?_of_ne_nil hl, ← find?_of_ne_nil hl, hf]
  cases t
  cases t'
  simp_all

/-- Nothing changes when what is put last at each location lies there already. -/
theorem putAll_eq_self (h : t.WellFormed) {placed : List (Location × Entry)}
    (hp : ∀ entry ∈ placed, entry.1 ≠ [])
    (hf : ∀ entry ∈ placed, t.find? entry.1 = (t.putAll placed).find? entry.1) :
    t.putAll placed = t := by
  have hlast {l : Location} (hn : placed.reverse.lookup l = none) :
      l ∉ placed.map Prod.fst := by
    rw [Entries.lookup_eq_none_iff, List.map_reverse, List.mem_reverse] at hn
    exact hn
  refine h.eq_of_find? (current_putAll ..) (keys_putAll fun entry hm => ?_) fun l => ?_
  · have hfound := hf entry hm
    rw [find?_putAll t placed hp] at hfound
    cases hg : placed.reverse.lookup entry.1 with
    | none => exact absurd (List.mem_map_of_mem hm) (hlast hg)
    | some e =>
      rw [hg, Option.some_or] at hfound
      exact List.mem_map.mpr ⟨_, mem_of_find? hfound (hp entry hm), rfl⟩
  · cases hg : placed.reverse.lookup l with
    | none => rw [find?_putAll t placed hp, hg, Option.none_or]
    | some e =>
      have hm := List.mem_reverse.mp (Entries.mem_of_lookup hg)
      exact (hf _ hm).symm

/-- An entry can be put under a name in a directory, unless it takes the place of a directory. -/
theorem put (h : t.WellFormed) {name : String} (hl : t.isDirectoryAt l) (hn : IsName name)
    (hd : t.isDirectoryAt (name :: l) = false) (e : Entry) :
    (t.put (name :: l) e).WellFormed := by
  have keeps {m : Location} (hm : t.find? m = some .directory) :
      (t.put (name :: l) e).find? m = some .directory := by
    rw [find?_put_of_ne]
    · exact hm
    · rintro rfl
      rw [isDirectoryAt_iff.mpr hm] at hd
      cases hd
  have hkeys : ∀ m ∈ (t.put (name :: l) e).entries.map Prod.fst,
      m = name :: l ∨ m ∈ t.entries.map Prod.fst := by
    intro m hm
    obtain ⟨entry, he, rfl⟩ := List.mem_map.mp hm
    exact (Entries.mem_put he).imp (congrArg Prod.fst) List.mem_map_of_mem
  refine ⟨Entries.nodup_put _ _ h.nodup, fun m hm => ?_, fun m hm => ?_, fun m hm => ?_,
    keeps h.current⟩
  · rcases hkeys m hm with rfl | hm
    · exact List.cons_ne_nil _ _
    · exact h.ne_root m hm
  · rcases hkeys m hm with rfl | hm
    · exact keeps (isDirectoryAt_iff.mp hl)
    · exact keeps (h.parent m hm)
  · rcases hkeys m hm with rfl | hm
    · refine List.forall_mem_cons.mpr ⟨hn, ?_⟩
      by_cases hroot : l = []
      · simp [hroot]
      · exact h.names l (List.mem_map_of_mem (mem_of_find? (isDirectoryAt_iff.mp hl) hroot))
    · exact h.names m hm

end WellFormed

end Scaffold.FileTree
