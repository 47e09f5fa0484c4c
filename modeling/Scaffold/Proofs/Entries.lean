import Scaffold.Entries

/-! What is looked up was stored, and what was stored under distinct keys is looked up. A store
under a new key goes to the end, and filters on keys act on the look-up. -/
namespace Scaffold.Entries

variable {κ α : Type} [BEq κ] [LawfulBEq κ]

theorem mem_of_lookup {key : κ} {value : α} {entries : List (κ × α)}
    (h : entries.lookup key = some value) : (key, value) ∈ entries := by
  obtain ⟨before, rest, hentries, -⟩ := List.lookup_eq_some_iff.mp h
  simp [hentries]

theorem lookup_of_mem {key : κ} {value : α} {entries : List (κ × α)}
    (hd : (entries.map Prod.fst).Nodup) (h : (key, value) ∈ entries) :
    entries.lookup key = some value := by
  induction entries with
  | nil => simp at h
  | cons entry rest ih =>
    obtain ⟨k, v⟩ := entry
    obtain ⟨hk, hr⟩ := List.nodup_cons.mp hd
    rcases List.mem_cons.mp h with he | he
    · obtain ⟨rfl, rfl⟩ := Prod.mk.inj he
      exact List.lookup_cons_self
    · have hne : key ≠ k := by
        rintro rfl
        exact hk (List.mem_map.mpr ⟨(key, value), he, rfl⟩)
      simp [lookup_cons, hne, ih hr he]

theorem nodup_ofList (pairs : List (κ × α)) : ((ofList pairs).map Prod.fst).Nodup := by
  suffices h : ∀ entries : List (κ × α), (entries.map Prod.fst).Nodup →
      ((pairs.foldl (fun entries pair => put pair.1 pair.2 entries) entries).map Prod.fst).Nodup
    from h [] List.nodup_nil
  induction pairs with
  | nil => intro entries h; exact h
  | cons pair rest ih => intro entries h; exact ih _ (nodup_put pair.1 pair.2 h)

theorem mem_put {key : κ} {value : α} {entries : List (κ × α)} {entry : κ × α}
    (h : entry ∈ put key value entries) : entry = (key, value) ∨ entry ∈ entries := by
  induction entries with
  | nil => exact Or.inl (List.mem_singleton.mp h)
  | cons first rest ih =>
    obtain ⟨k, v⟩ := first
    by_cases hk : k = key
    · rw [put, if_pos (beq_iff_eq.mpr hk), hk] at h
      rcases List.mem_cons.mp h with he | he
      · exact Or.inl he
      · exact Or.inr (List.mem_cons_of_mem _ he)
    · rw [put, if_neg (by simpa using hk)] at h
      rcases List.mem_cons.mp h with he | he
      · exact Or.inr (he ▸ List.mem_cons_self)
      · exact (ih he).imp_right (List.mem_cons_of_mem _)

theorem mem_ofList {pairs : List (κ × α)} {entry : κ × α} (h : entry ∈ ofList pairs) :
    entry ∈ pairs := by
  suffices hg : ∀ entries : List (κ × α),
      entry ∈ pairs.foldl (fun entries pair => put pair.1 pair.2 entries) entries →
        entry ∈ pairs ∨ entry ∈ entries from (hg [] h).resolve_right List.not_mem_nil
  clear h
  induction pairs with
  | nil => intro entries h; exact Or.inr h
  | cons pair rest ih =>
    intro entries h
    rcases ih _ h with hr | hp
    · exact Or.inl (List.mem_cons_of_mem _ hr)
    · rcases mem_put hp with he | he
      · exact Or.inl (he ▸ List.mem_cons_self)
      · exact Or.inr he

theorem lookup_eq_none_iff {key : κ} {entries : List (κ × α)} :
    entries.lookup key = none ↔ key ∉ entries.map Prod.fst := by
  simp only [List.lookup_eq_none_iff, bne_iff_ne, List.mem_map, not_exists, not_and]
  exact ⟨fun h p hp he => h p hp he.symm, fun h p hp he => h p hp he.symm⟩

theorem lookup_map {β : Type} (key : κ) (f : β → κ) (g : β → α) (xs : List β) :
    (xs.map fun x => (f x, g x)).lookup key = (xs.find? fun x => f x == key).map g := by
  induction xs with
  | nil => rfl
  | cons x rest ih =>
    by_cases hk : key = f x
    · simp [hk]
    · simp [lookup_cons, hk, Ne.symm hk, ih]

theorem lookup_filter (keep : κ → Bool) (key : κ) (entries : List (κ × α)) :
    (entries.filter fun entry => keep entry.1).lookup key =
      if keep key then entries.lookup key else none := by
  induction entries with
  | nil => simp
  | cons entry rest ih =>
    obtain ⟨k, v⟩ := entry
    by_cases hk : key = k
    · subst hk
      by_cases hp : keep key <;> simp [hp, ih]
    · by_cases hp : keep k <;> simp [lookup_cons, hp, hk, ih]

theorem put_of_lookup_eq_none {key : κ} (value : α) {entries : List (κ × α)}
    (h : entries.lookup key = none) : put key value entries = entries ++ [(key, value)] := by
  induction entries with
  | nil => rfl
  | cons entry rest ih =>
    obtain ⟨k, v⟩ := entry
    by_cases hk : key = k
    · simp [hk] at h
    · rw [lookup_cons, if_neg (by simpa using hk)] at h
      rw [put, if_neg (by simpa using Ne.symm hk), ih h, List.cons_append]

theorem put_put (key : κ) (first second : α) (entries : List (κ × α)) :
    put key second (put key first entries) = put key second entries := by
  induction entries with
  | nil => simp [put]
  | cons entry rest ih =>
    obtain ⟨k, v⟩ := entry
    by_cases hk : k = key <;> simp [put, hk, ih]

/-- A filter that lets a key pass may come before or after a store under it. -/
theorem filter_put {keep : κ → Bool} {key : κ} (h : keep key) (value : α)
    (entries : List (κ × α)) :
    (put key value entries).filter (fun entry => keep entry.1) =
      put key value (entries.filter fun entry => keep entry.1) := by
  induction entries with
  | nil => simp [put, h]
  | cons entry rest ih =>
    obtain ⟨k, v⟩ := entry
    by_cases hk : k = key
    · subst hk
      simp [put, h]
    · by_cases hp : keep k <;> simp [put, hk, hp, ih]

/-- Entries under distinct keys are told by their keys in order and what lies under them. -/
theorem ext_of_keys {xs ys : List (κ × α)} (hk : xs.map Prod.fst = ys.map Prod.fst)
    (hd : (xs.map Prod.fst).Nodup) (hg : ∀ key, xs.lookup key = ys.lookup key) : xs = ys := by
  induction xs generalizing ys with
  | nil => exact (List.map_eq_nil_iff.mp hk.symm).symm
  | cons x xs ih =>
    match ys, hk with
    | y :: ys, hk =>
      obtain ⟨k, v⟩ := x
      obtain ⟨l, w⟩ := y
      obtain ⟨hl, ht⟩ := List.cons.inj hk
      obtain rfl : k = l := hl
      obtain ⟨hn, hd⟩ := List.nodup_cons.mp hd
      have hv : v = w := by simpa using hg k
      rw [hv, ih ht hd fun key => ?_]
      by_cases he : key = k
      · subst he
        rw [lookup_eq_none_iff.mpr hn, lookup_eq_none_iff.mpr (ht ▸ hn)]
      · simpa [lookup_cons, he] using hg key

end Scaffold.Entries
