import Scaffold.Path

/-! Paths that are the same by their components: they start alike and make the same steps. -/
namespace Scaffold.Path

theorem isIdle_iff {part : List Char} : isIdle part = true ↔ part = [] ∨ part = ['.'] := by
  simp [isIdle]

/-- The parts of a path that lead somewhere. -/
def steps (p : Path) : List (List Char) := p.parts.2.filter (!isIdle ·)

/-- Splitting the whole text of a path gives the same steps: its start adds idle parts only. -/
theorem filter_splitOn (p : Path) :
    (p.text.toList.splitOn '/').filter (!isIdle ·) = p.steps := by
  unfold steps parts
  split
  · next rest h => rw [h, Text.splitOn_cons_self]; rfl
  · next h => rw [h]; rfl
  · next rest h =>
    have hs : ('.' :: '/' :: rest).splitOn '/' = ['.'] :: rest.splitOn '/' := by
      simp [List.splitOn_cons_eq_if_modifyHead]
    rw [h, hs]
    rfl
  · rfl

/-- Other characters of a path than slashes and dots are those of its steps. -/
theorem mem_text_iff {p : Path} {c : Char} (hs : c ≠ '/') (hd : c ≠ '.') :
    c ∈ p.text.toList ↔ ∃ step ∈ p.steps, c ∈ step := by
  rw [Text.mem_iff_exists_splitOn hs, ← p.filter_splitOn]
  constructor
  · rintro ⟨part, hp, hc⟩
    cases hi : isIdle part with
    | false => exact ⟨part, List.mem_filter.mpr ⟨hp, by simp [hi]⟩, hc⟩
    | true =>
      rcases isIdle_iff.mp hi with rfl | rfl
      · cases hc
      · exact absurd (List.mem_singleton.mp hc) hd
  · rintro ⟨step, hm, hc⟩
    exact ⟨step, (List.mem_filter.mp hm).1, hc⟩

theorem nul_not_mem_iff {p : Path} :
    '\x00' ∉ p.text.toList ↔ ∀ step ∈ p.steps, '\x00' ∉ step := by
  rw [mem_text_iff (by decide) (by decide)]
  exact ⟨fun h step hm hc => h ⟨step, hm, hc⟩, fun h ⟨step, hm, hc⟩ => h step hm hc⟩

theorem isAbsolute_iff (p : Path) : p.isAbsolute = true ↔ p.parts.1 = .root := by
  unfold isAbsolute parts
  rw [decide_eq_true_iff]
  split
  · next rest h => simp [h]
  · next h => simp [h]
  · next rest h => simp [h]
  · next h _ _ =>
    refine ⟨fun hc => ?_, nofun⟩
    obtain ⟨rest, hr⟩ := List.head?_eq_some_iff.mp hc
    exact absurd hr (h rest)

/-- The characters of the part that contributes a component. -/
private def chars : Component → List Char
  | .name cs => cs
  | _ => ['.', '.']

private theorem map_chars (parts : List (List Char)) :
    (parts.filterMap partComponent?).map chars = parts.filter (!isIdle ·) := by
  induction parts with
  | nil => rfl
  | cons part rest ih =>
    by_cases hi : isIdle part
    · simp [partComponent?, hi, ih]
    · by_cases hp : part = ['.', '.']
      · simp [partComponent?, hp, ih, chars, isIdle]
      · simp [partComponent?, hi, hp, ih, chars]

private theorem ne_of_partComponent? {part : List Char} {c : Component}
    (h : partComponent? part = some c) : c ≠ .root ∧ c ≠ .current := by
  unfold partComponent? at h
  split at h
  · cases h
  · split at h
    · rw [← Option.some.inj h]; exact ⟨nofun, nofun⟩
    · rw [← Option.some.inj h]; exact ⟨nofun, nofun⟩

private theorem start_of_components {s t : Start} {xs ys : List (List Char)}
    (h : s.components ++ xs.filterMap partComponent? =
      t.components ++ ys.filterMap partComponent?) : s = t := by
  have hx : ∀ c ∈ xs.filterMap partComponent?, c ≠ .root ∧ c ≠ .current := fun c hc =>
    let ⟨_, _, hp⟩ := List.mem_filterMap.mp hc; ne_of_partComponent? hp
  have hy : ∀ c ∈ ys.filterMap partComponent?, c ≠ .root ∧ c ≠ .current := fun c hc =>
    let ⟨_, _, hp⟩ := List.mem_filterMap.mp hc; ne_of_partComponent? hp
  cases s <;> cases t <;> simp only [Start.components, List.cons_append, List.nil_append] at h
  · rfl
  · cases h
  · exact absurd rfl (hy .root (h ▸ List.mem_cons_self)).1
  · cases h
  · rfl
  · exact absurd rfl (hy .current (h ▸ List.mem_cons_self)).2
  · exact absurd rfl (hx .root (h ▸ List.mem_cons_self)).1
  · exact absurd rfl (hx .current (h ▸ List.mem_cons_self)).2
  · rfl

/-- Paths with the same components start alike and make the same steps. -/
theorem parts_of_same {p q : Path} (h : p.same q = true) :
    p.parts.1 = q.parts.1 ∧ p.steps = q.steps := by
  have hc : p.components = q.components := of_decide_eq_true h
  have hs : p.parts.1 = q.parts.1 := start_of_components hc
  refine ⟨hs, ?_⟩
  unfold components at hc
  rw [hs] at hc
  have hm := congrArg (List.map chars) (List.append_cancel_left hc)
  rwa [map_chars, map_chars] at hm

theorem partComponent?_eq_none_iff {part : List Char} :
    partComponent? part = none ↔ isIdle part = true := by
  unfold partComponent?
  by_cases hi : isIdle part
  · simp [hi]
  · by_cases hp : part = ['.', '.'] <;> simp [hi, hp]

theorem filterMap_filter_isIdle (parts : List (List Char)) :
    (parts.filter (!isIdle ·)).filterMap partComponent? = parts.filterMap partComponent? := by
  have hidle : (fun part => if (!isIdle part) = true then partComponent? part else none) =
      partComponent? := by
    funext part
    by_cases hi : isIdle part <;> simp [partComponent?, hi]
  rw [List.filterMap_filter, hidle]

theorem components_eq (p : Path) :
    p.components = p.parts.1.components ++ p.steps.filterMap partComponent? := by
  rw [components, steps, filterMap_filter_isIdle]

/-- Paths that start alike and make the same steps have the same components. -/
theorem same_of_steps {p q : Path} (hs : p.parts.1 = q.parts.1) (h : p.steps = q.steps) :
    p.same q = true := by
  rw [same, components_eq, components_eq, hs, h]
  exact decide_eq_true rfl

theorem fileExtension?_of_same {p q : Path} (h : p.same q = true) :
    p.fileExtension? = q.fileExtension? := by
  have hc : p.components = q.components := of_decide_eq_true h
  unfold fileExtension? fileName?
  rw [hc]

theorem same_refl (p : Path) : p.same p = true := decide_eq_true rfl

theorem same_symm {p q : Path} (h : p.same q = true) : q.same p = true :=
  decide_eq_true (of_decide_eq_true h : p.components = q.components).symm

theorem same_trans {p q r : Path} (h : p.same q = true) (k : q.same r = true) :
    p.same r = true :=
  decide_eq_true ((of_decide_eq_true h : p.components = q.components).trans (of_decide_eq_true k))

end Scaffold.Path
