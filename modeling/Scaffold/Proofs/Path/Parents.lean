import Scaffold.Proofs.Path.Steps

/-! The parent of a file in a directory is that directory, however the directory is written. -/
namespace Scaffold.Path

variable {d p q : Path} {file other : String}

theorem isEmpty_iff_toList (p : Path) : p.isEmpty = true ↔ p.text.toList = [] := by
  rw [isEmpty, String.isEmpty_iff, String.toList_eq_nil_iff]

theorem separator_eq (d : Path) : d.separator =
    if d.text.toList = [] ∨ d.text.toList.getLast? = some '/' then [] else ['/'] := by
  simp only [separator, Bool.or_eq_true, decide_eq_true_eq, isEmpty_iff_toList]

theorem separator_join (hp : p.isAbsolute = false) : (d.join p).separator = p.separator := by
  rw [separator_eq, separator_eq, text_join d hp]
  by_cases hn : p.text.toList = []
  · rw [hn, List.append_nil, if_pos (Or.inl rfl), if_pos]
    exact (eq_nil_or_append_separator d).imp_right fun ⟨front, hfront⟩ => by simp [hfront]
  · rw [List.getLast?_append_of_ne_nil _ hn]
    simp only [List.append_eq_nil_iff, hn, and_false]

/-- A path in a directory is the same whether the directory is joined before it or behind it. -/
theorem join_assoc (d p q : Path) : d.join (p.join q) = (d.join p).join q := by
  have habsolute {a b : Path} (hb : b.isAbsolute = true) : a.join b = b := by rw [join, if_pos hb]
  cases hq : q.isAbsolute with
  | true => rw [habsolute hq, habsolute hq, habsolute hq]
  | false =>
    cases hp : p.isAbsolute with
    | true => rw [habsolute hp, habsolute ((isAbsolute_join hq).trans hp)]
    | false =>
      have htext : (d.join (p.join q)).text = ((d.join p).join q).text := by
        rw [← String.toList_inj, text_join d ((isAbsolute_join hq).trans hp), text_join p hq,
          text_join _ hq, separator_join hp, text_join d hp]
        simp only [List.append_assoc]
      exact congrArg Path.mk htext

theorem steps_file (hi : isIdle file.toList = false) (hf : '/' ∉ file.toList) :
    (⟨file⟩ : Path).steps = [file.toList] := by
  rw [← filter_splitOn, List.splitOn_eq_singleton hf]
  simp [hi]

theorem file_eq_of_same_join (hi : isIdle file.toList = false) (hf : '/' ∉ file.toList)
    (hi' : isIdle other.toList = false) (hf' : '/' ∉ other.toList)
    (h : (d.join ⟨file⟩).same (d.join ⟨other⟩) = true) : file = other := by
  have hsteps := (parts_of_same h).2
  rw [steps_join (not_isAbsolute hf), steps_join (not_isAbsolute hf'), steps_file hi hf,
    steps_file hi' hf'] at hsteps
  exact String.toList_inj.mp (List.singleton_inj.mp (List.append_cancel_left hsteps))

theorem dropIdleEnd_append {part : List Char} (h : isIdle part = false) (front : List (List Char)) :
    dropIdleEnd (front ++ [part]) = front ++ [part] := by
  simp [dropIdleEnd, h]

theorem dropIdleEnd_eq_self {parts : List (List Char)}
    (h : ∀ part ∈ parts.getLast?, isIdle part = false) : dropIdleEnd parts = parts := by
  rcases List.eq_nil_or_concat' parts with rfl | ⟨front, last, rfl⟩
  · rfl
  · exact dropIdleEnd_append (h last (by simp)) front

/-- The first part of a path that starts neither at the root nor at a dot is not idle. -/
theorem isIdle_head_parts (h : p.parts.1 = .relative) (hp : p.isEmpty = false) :
    ∀ part ∈ p.parts.2.head?, isIdle part = false := by
  have hne : p.text.toList ≠ [] := fun hn => by simp [(isEmpty_iff_toList p).mpr hn] at hp
  unfold parts at h ⊢
  split at h
  · cases h
  · cases h
  · cases h
  · next hroot hdot hslash =>
    obtain ⟨c, cs, htext⟩ := List.exists_cons_of_ne_nil hne
    rw [htext] at hroot hdot hslash ⊢
    have hc : c ≠ '/' := fun hc => hroot cs (by rw [hc])
    cases hs : cs.splitOn '/' with
    | nil => exact absurd hs (List.splitOn_ne_nil _ _)
    | cons part rest =>
      have hsplit : (c :: cs).splitOn '/' = (c :: part) :: rest := by
        rw [List.splitOn_cons_eq_if_modifyHead, if_neg (by simpa using hc), hs]
        rfl
      intro first hfirst
      rw [hsplit] at hfirst
      obtain rfl := Option.some.inj hfirst
      by_contra hidle
      obtain ⟨rfl, rfl⟩ : c = '.' ∧ part = [] := by simpa [isIdle] using hidle
      -- The dot stands alone, or a slash is next.
      cases cs with
      | nil => exact hdot rfl
      | cons e cs =>
        by_cases he : e = '/'
        · exact hslash cs (by rw [he])
        · rw [List.splitOn_cons_eq_if_modifyHead, if_neg (by simpa using he)] at hs
          cases hcs : cs.splitOn '/' <;> simp [hcs] at hs

/-- A path whose first part is a step starts neither at the root nor at a dot. -/
theorem start_eq_relative {first : List Char} {rest : List (List Char)}
    (hs : p.text.toList.splitOn '/' = first :: rest) (hi : isIdle first = false) :
    p.parts.1 = .relative := by
  have hroot : p.parts.1 ≠ .root := by
    rw [ne_eq, ← isAbsolute_iff, isAbsolute, decide_eq_true_eq]
    intro hhead
    obtain ⟨others, hcs⟩ := List.head?_eq_some_iff.mp hhead
    rw [hcs, Text.splitOn_cons_self] at hs
    obtain rfl := (List.cons.inj hs).1
    cases hi
  have hcurrent : p.parts.1 ≠ .current := by
    rw [ne_eq, start_eq_current_iff]
    have hdot : ∀ others, p.text.toList.splitOn '/' ≠ ['.'] :: others := by
      rintro others ho
      obtain rfl := (List.cons.inj (hs.symm.trans ho)).1
      cases hi
    rintro (hcs | ⟨others, hcs⟩)
    · exact hdot _ (by rw [hcs]; rfl)
    · exact hdot _ (by rw [← hcs]; rfl)
  cases h : p.parts.1 with
  | root => exact absurd h hroot
  | current => exact absurd h hcurrent
  | relative => rfl

/-- Parts that start with a step, or with the empty one behind a leading dot, keep their start. -/
theorem start_ofParts {start : Start} {parts : List (List Char)}
    (hr : start = .relative → ∀ part ∈ parts.head?, isIdle part = false)
    (hc : start = .current → parts = [] ∨ ∃ rest ≠ [], parts = [] :: rest)
    (h : ∀ part ∈ parts, '/' ∉ part) : (ofParts start parts).parts.1 = start := by
  cases start with
  | root =>
    rw [← isAbsolute_iff, isAbsolute, ofParts, String.toList_ofList]
    rfl
  | current =>
    rw [start_eq_current_iff, ofParts, String.toList_ofList]
    rcases hc rfl with rfl | ⟨rest, hn, rfl⟩
    · exact .inl rfl
    · right
      obtain ⟨next, others, rfl⟩ := List.exists_cons_of_ne_nil hn
      exact ⟨['/'].intercalate (next :: others), rfl⟩
  | relative =>
    have htext : (ofParts .relative parts).text.toList = ['/'].intercalate parts := by
      rw [ofParts, String.toList_ofList]
      rfl
    cases parts with
    | nil => rfl
    | cons first rest =>
      have hsplit := List.splitOn_intercalate '/' h (List.cons_ne_nil first rest)
      rw [← htext] at hsplit
      exact start_eq_relative hsplit (hr rfl first rfl)

/-- A front of the parts of a path makes a path with the same start, if it ends in a step. -/
theorem ofParts_of_isPrefix {kept : List (List Char)} (hk : kept <+: p.parts.2)
    (hl : ∀ part ∈ kept.getLast?, isIdle part = false) :
    (ofParts p.parts.1 kept).parts.1 = p.parts.1 ∧
      (ofParts p.parts.1 kept).steps = kept.filter (!isIdle ·) := by
  have hslash : ∀ part ∈ kept, '/' ∉ part := fun part hm => not_mem_of_mem_parts (hk.subset hm)
  have hhead : ∀ part ∈ kept.head?, part ∈ p.parts.2.head? := by
    intro part hp
    obtain ⟨others, hothers⟩ := hk
    rw [← hothers, List.head?_append_of_ne_nil _ (by rintro rfl; cases hp)]
    exact hp
  have hcurrent : p.parts.1 = .current → kept = [] ∨ ∃ rest ≠ [], kept = [] :: rest := by
    intro hs
    cases kept with
    | nil => exact .inl rfl
    | cons first rest =>
      obtain rfl := Option.some.inj ((head?_parts_of_current hs).symm.trans (hhead first rfl))
      refine .inr ⟨rest, ?_, rfl⟩
      rintro rfl
      cases hl [] rfl
  have hstep : p.parts.1 = .relative → ∀ part ∈ kept.head?, isIdle part = false := by
    intro hs part hp
    by_cases hempty : p.isEmpty = true
    · -- The one part of a path without text is idle, so that it cannot be the last one kept.
      obtain rfl : p = ⟨""⟩ := congrArg Path.mk (by simpa [isEmpty] using hempty)
      rcases List.prefix_cons_iff.mp hk with rfl | ⟨others, rfl, ho⟩
      · cases hp
      · rw [List.prefix_nil.mp ho] at hl
        cases hl [] rfl
    · exact isIdle_head_parts hs (by simpa using hempty) part (hhead part hp)
  have hleading : p.parts.1 = .current → kept = [] ∨ kept.head? = some [] := by
    intro hs
    rcases hcurrent hs with hnone | ⟨rest, -, hrest⟩
    · exact .inl hnone
    · exact .inr (by rw [hrest]; rfl)
  exact ⟨start_ofParts hstep hcurrent hslash, steps_ofParts hleading hslash⟩

/-- The parent of a path that ends in a step starts where the path does and makes the steps before
that one. -/
theorem exists_parent?_of_parts {front : List (List Char)} {part : List Char}
    (hparts : p.parts.2 = front ++ [part]) (hi : isIdle part = false) :
    ∃ q, p.parent? = some q ∧ q.parts.1 = p.parts.1 ∧ q.steps = front.filter (!isIdle ·) := by
  have hparent : p.parent? = some (ofParts p.parts.1 (dropIdleEnd front)) := by
    unfold parent?
    dsimp only
    rw [hparts, dropIdleEnd_append hi, List.reverse_append]
    simp
  have hkept : dropIdleEnd front <+: p.parts.2 :=
    (dropIdleEnd_isPrefix front).trans (hparts ▸ List.prefix_append _ _)
  obtain ⟨hstart, hsteps⟩ := ofParts_of_isPrefix hkept (isIdle_getLast_dropIdleEnd front)
  exact ⟨_, hparent, hstart, hsteps.trans (filter_dropIdleEnd front)⟩

theorem start_join_file (hi : isIdle file.toList = false) (hf : '/' ∉ file.toList) :
    (d.join ⟨file⟩).parts.1 = d.parts.1 := by
  cases hd : d.isEmpty with
  | false => exact start_join hd (not_isAbsolute hf)
  | true =>
    obtain rfl : d = ⟨""⟩ := congrArg Path.mk (by simpa [isEmpty] using hd)
    rw [empty_join]
    exact start_eq_relative (List.splitOn_eq_singleton hf) hi

theorem exists_parent?_join (hi : isIdle file.toList = false) (hf : '/' ∉ file.toList) :
    ∃ q, (d.join ⟨file⟩).parent? = some q ∧ q.same d = true := by
  have hsteps : (d.join ⟨file⟩).steps = d.steps ++ [file.toList] := by
    rw [steps_join (not_isAbsolute hf), steps_file hi hf]
  have hdot : (d.join ⟨file⟩).text ≠ "." := by
    intro ht
    have hnone : (d.join ⟨file⟩).steps = [] := congrArg (fun text => steps ⟨text⟩) ht
    exact absurd (hsteps.symm.trans hnone) (by simp)
  obtain ⟨front, hparts⟩ : ∃ front, (d.join ⟨file⟩).parts.2 = front ++ [file.toList] :=
    List.getLast?_eq_some_iff.mp (getLast?_parts_join d hf hdot)
  obtain ⟨q, hparent, hstart, hfront⟩ := exists_parent?_of_parts hparts hi
  refine ⟨q, hparent, same_of_steps (hstart.trans (start_join_file hi hf)) ?_⟩
  rw [steps, hparts, List.filter_append, ← hfront] at hsteps
  simpa [hi] using hsteps

end Scaffold.Path
