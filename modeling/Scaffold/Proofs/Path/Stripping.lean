import Scaffold.Proofs.Path.Parents

/-! Paths seen from a directory. Every path that was joined to the directory can be seen from there,
and joining it again gives the same path. -/
namespace Scaffold.Path

variable {base d p q : Path} {names : List Component} {parts rest : List (List Char)}

theorem exists_front_of_stripParts? (h : stripParts? names parts = some rest) :
    ∃ front, parts = front ++ rest ∧ front.filterMap partComponent? = names := by
  fun_induction stripParts? names parts with
  | case1 parts => exact ⟨[], by rw [Option.some.inj h]; rfl, rfl⟩
  | case2 c names => cases h
  | case3 c names part parts hpart ih =>
    obtain ⟨front, rfl, hfront⟩ := ih h
    exact ⟨part :: front, rfl, by rw [List.filterMap_cons_none hpart, hfront]⟩
  | case4 names part parts c hpart ih =>
    obtain ⟨front, rfl, hfront⟩ := ih h
    exact ⟨part :: front, rfl, by rw [List.filterMap_cons_some hpart, hfront]⟩
  | case5 => cases h

theorem exists_stripParts? (h : names <+: parts.filterMap partComponent?) :
    ∃ rest, stripParts? names parts = some rest := by
  fun_induction stripParts? names parts with
  | case1 parts => exact ⟨parts, rfl⟩
  | case2 c names => cases List.prefix_nil.mp h
  | case3 c names part parts hpart ih =>
    rw [List.filterMap_cons_none hpart] at h
    exact ih h
  | case4 names part parts c hpart ih =>
    rw [List.filterMap_cons_some hpart, List.cons_prefix_cons] at h
    exact ih h.2
  | case5 c names part parts d hpart hc =>
    rw [List.filterMap_cons_some hpart, List.cons_prefix_cons] at h
    exact absurd h.1 hc

theorem components_eq_nil_iff (p : Path) : p.components = [] ↔ p.isEmpty = true := by
  constructor
  · intro h
    by_contra hne
    have hempty : p.isEmpty = false := by simpa using hne
    obtain ⟨hstart, hparts⟩ := List.append_eq_nil_iff.mp h
    have hrelative : p.parts.1 = .relative := by
      cases hs : p.parts.1 with
      | relative => rfl
      | root => rw [hs] at hstart; cases hstart
      | current => rw [hs] at hstart; cases hstart
    cases hp : p.parts.2 with
    | nil =>
      have htext := text_eq p
      rw [hp, hrelative] at htext
      exact hne ((isEmpty_iff_toList p).mpr htext)
    | cons first rest =>
      have hfirst : isIdle first = false :=
        isIdle_head_parts hrelative hempty first (by rw [hp]; rfl)
      have hnone : partComponent? first = none :=
        List.filterMap_eq_nil_iff.mp hparts first (by rw [hp]; exact List.mem_cons_self)
      rw [partComponent?_eq_none_iff, hfirst] at hnone
      cases hnone
  · intro h
    obtain rfl : p = ⟨""⟩ := congrArg Path.mk (by simpa [isEmpty] using h)
    rfl

/-- From a directory without text all of a path is seen, up to its last step. From any other one it
is what follows the parts that lead to the directory. -/
theorem stripBase?_cases (h : stripBase? base p = some q) :
    (base = ⟨""⟩ ∧ q = ofParts p.parts.1 (dropIdleEnd p.parts.2)) ∨
      (base.isEmpty = false ∧ ∃ front rest, p.parts.2 = front ++ rest ∧
        p.parts.1.components ++ front.filterMap partComponent? = base.components ∧
        q = ofParts .relative (dropIdleEnd (rest.dropWhile isIdle))) := by
  unfold stripBase? at h
  dsimp only at h
  split at h
  · next hempty =>
    rw [List.isEmpty_iff, components_eq_nil_iff, isEmpty, String.isEmpty_iff] at hempty
    exact .inl ⟨congrArg Path.mk hempty, (Option.some.inj h).symm⟩
  · next hempty =>
    rw [List.isEmpty_iff, components_eq_nil_iff, Bool.not_eq_true] at hempty
    split at h
    · cases h
    · next hstart =>
      rw [ne_eq, not_not] at hstart
      obtain ⟨rest, hrest, hq⟩ := Option.map_eq_some_iff.mp h
      obtain ⟨front, hparts, hfront⟩ := exists_front_of_stripParts? hrest
      exact .inr ⟨hempty, front, rest, hparts, by rw [hfront, ← hstart]; rfl, hq.symm⟩

theorem exists_stripBase?_join (d : Path) (hq : q.isAbsolute = false) :
    ∃ r, stripBase? d (d.join q) = some r := by
  unfold stripBase?
  dsimp only
  split
  · exact ⟨_, rfl⟩
  · next hempty =>
    rw [List.isEmpty_iff, components_eq_nil_iff, Bool.not_eq_true] at hempty
    have hnames : d.parts.2.filterMap partComponent? <+:
        (d.join q).parts.2.filterMap partComponent? := by
      rw [← filterMap_filter_isIdle, ← filterMap_filter_isIdle (d.join q).parts.2, ← steps, ← steps,
        steps_join hq, List.filterMap_append]
      exact List.prefix_append _ _
    obtain ⟨rest, hrest⟩ := exists_stripParts? hnames
    rw [if_neg (by simp [start_join hempty hq]), hrest]
    exact ⟨_, rfl⟩

theorem components_join (hd : d.isEmpty = false) (hq : q.isAbsolute = false) :
    (d.join q).components = d.components ++ q.steps.filterMap partComponent? := by
  rw [components_eq, start_join hd hq, steps_join hq, List.filterMap_append, ← List.append_assoc,
    ← components_eq]

/-- Parts without the idle ones around them make a path that starts nowhere. -/
theorem ofParts_relative (h : ∀ part ∈ parts, '/' ∉ part) :
    (ofParts .relative (dropIdleEnd (parts.dropWhile isIdle))).parts.1 = .relative ∧
      (ofParts .relative (dropIdleEnd (parts.dropWhile isIdle))).steps =
        parts.filter (!isIdle ·) := by
  have hkept : dropIdleEnd (parts.dropWhile isIdle) <+: parts.dropWhile isIdle :=
    dropIdleEnd_isPrefix _
  have hslash : ∀ part ∈ dropIdleEnd (parts.dropWhile isIdle), '/' ∉ part := fun part hm =>
    h part ((List.dropWhile_suffix isIdle).subset (hkept.subset hm))
  have hhead : ∀ part ∈ (dropIdleEnd (parts.dropWhile isIdle)).head?, isIdle part = false := by
    intro part hp
    have hfirst : (parts.dropWhile isIdle).head? = some part := by
      obtain ⟨others, hothers⟩ := hkept
      rw [← hothers, List.head?_append, Option.mem_def.mp hp]
      rfl
    have hnot := List.head?_dropWhile_not isIdle parts
    rw [hfirst] at hnot
    exact hnot
  have hstart : Start.relative ≠ .current := nofun
  refine ⟨start_ofParts (fun _ => hhead) (fun hs => absurd hs hstart) hslash, ?_⟩
  rw [steps_ofParts (fun hs => absurd hs hstart) hslash, filter_dropIdleEnd,
    filter_dropWhile_isIdle]

/-- What is seen of a path from a directory gives the path when it is joined to the directory. -/
theorem same_join_of_stripBase? (h : stripBase? base p = some q) : (base.join q).same p = true := by
  rcases stripBase?_cases h with ⟨rfl, rfl⟩ | ⟨hempty, front, rest, hparts, hfront, rfl⟩
  · obtain ⟨hstart, hsteps⟩ := ofParts_of_isPrefix (dropIdleEnd_isPrefix p.parts.2)
      (isIdle_getLast_dropIdleEnd _)
    rw [empty_join]
    exact same_of_steps hstart (hsteps.trans (filter_dropIdleEnd _))
  · have hslash : ∀ part ∈ rest, '/' ∉ part := fun part hm =>
      not_mem_of_mem_parts (hparts ▸ List.mem_append_right _ hm)
    obtain ⟨hstart, hsteps⟩ := ofParts_relative hslash
    have hrelative :
        (ofParts .relative (dropIdleEnd (rest.dropWhile isIdle))).isAbsolute = false := by
      rw [← Bool.not_eq_true, isAbsolute_iff, hstart]
      nofun
    have hcomponents : base.components ++ rest.filterMap partComponent? = p.components := by
      rw [← hfront, List.append_assoc, ← List.filterMap_append, ← hparts]
      rfl
    refine decide_eq_true ?_
    rw [components_join hempty hrelative, hsteps, filterMap_filter_isIdle, hcomponents]

/-- What is seen of a path that ends in a step is the end of its text. -/
theorem text_stripBase?_isSuffix (h : stripBase? base p = some q)
    (hl : ∀ part ∈ p.parts.2.getLast?, isIdle part = false) : q.text.toList <:+ p.text.toList := by
  rcases stripBase?_cases h with ⟨-, rfl⟩ | ⟨-, front, rest, hparts, -, rfl⟩
  · have htext : (ofParts p.parts.1 (dropIdleEnd p.parts.2)).text.toList = p.text.toList := by
      rw [dropIdleEnd_eq_self hl, ofParts, String.toList_ofList, ← text_eq]
    exact htext ▸ List.suffix_rfl
  · have hrest : rest.dropWhile isIdle <:+ p.parts.2 :=
      (List.dropWhile_suffix isIdle).trans (hparts ▸ List.suffix_append _ _)
    have hlast : ∀ part ∈ (rest.dropWhile isIdle).getLast?, isIdle part = false := by
      intro part hp
      obtain ⟨others, hothers⟩ := hrest
      refine hl part ?_
      rw [← hothers, List.getLast?_append, Option.mem_def.mp hp]
      rfl
    rw [dropIdleEnd_eq_self hlast, ofParts, String.toList_ofList, text_eq p]
    exact (Text.intercalate_isSuffix hrest).trans (List.suffix_append _ _)

/-- Where it cannot be seen from the directory, a path that was joined to it is absolute, and stands
for itself. -/
theorem same_join_getD (d q : Path) :
    (d.join ((stripBase? d (d.join q)).getD (d.join q))).same (d.join q) = true := by
  cases hs : stripBase? d (d.join q) with
  | some r => exact same_join_of_stripBase? hs
  | none =>
    cases hq : q.isAbsolute with
    | true =>
      have hself : d.join q = q := by rw [join, if_pos hq]
      rw [Option.getD_none, hself, hself]
      exact same_refl q
    | false =>
      obtain ⟨r, hr⟩ := exists_stripBase?_join d hq
      rw [hr] at hs
      cases hs

theorem text_getD_isSuffix (d : Path) (hl : ∀ part ∈ p.parts.2.getLast?, isIdle part = false) :
    ((stripBase? d p).getD p).text.toList <:+ p.text.toList := by
  cases hs : stripBase? d p with
  | none => exact List.suffix_rfl
  | some q => exact text_stripBase?_isSuffix hs hl

end Scaffold.Path
