import Mathlib.Data.List.TakeWhile
import Mathlib.Data.String.Basic
import Scaffold.Proofs.Path.Components
import Scaffold.Proofs.Path.Text

/-! The steps of parents and of joined paths: a parent has all steps of the path but the last one,
and a name that is joined to a directory is one step more. -/
namespace Scaffold

namespace Path

variable {p q : Path}

theorem not_mem_of_mem_parts {part : List Char} (h : part ∈ p.parts.2) : '/' ∉ part := by
  unfold parts at h
  split at h
  · exact Text.not_mem_of_mem_splitOn h
  · simp only [List.mem_singleton] at h
    simp [h]
  · rcases List.mem_cons.mp h with rfl | h
    · simp
    · exact Text.not_mem_of_mem_splitOn h
  · exact Text.not_mem_of_mem_splitOn h

theorem head?_parts_of_current (h : p.parts.1 = .current) : p.parts.2.head? = some [] := by
  unfold parts at h ⊢
  split at h
  · cases h
  · rfl
  · rfl
  · cases h

theorem filter_dropWhile_isIdle (parts : List (List Char)) :
    (parts.dropWhile isIdle).filter (!isIdle ·) = parts.filter (!isIdle ·) := by
  induction parts with
  | nil => rfl
  | cons part rest ih =>
    by_cases hi : isIdle part
    · rw [List.dropWhile_cons_of_pos hi, ih, List.filter_cons_of_neg (by simp [hi])]
    · rw [List.dropWhile_cons_of_neg hi]

theorem filter_dropIdleEnd (parts : List (List Char)) :
    (dropIdleEnd parts).filter (!isIdle ·) = parts.filter (!isIdle ·) := by
  rw [dropIdleEnd, List.filter_reverse, filter_dropWhile_isIdle, List.filter_reverse,
    List.reverse_reverse]

theorem steps_ofParts {start : Start} {parts : List (List Char)}
    (hc : start = .current → parts = [] ∨ parts.head? = some [])
    (h : ∀ part ∈ parts, '/' ∉ part) :
    (ofParts start parts).steps = parts.filter (!isIdle ·) := by
  have hjoin {parts : List (List Char)} (h : ∀ part ∈ parts, '/' ∉ part) :
      ((['/'].intercalate parts).splitOn '/').filter (!isIdle ·) =
        parts.filter (!isIdle ·) := by
    by_cases hn : parts = []
    · subst hn
      rfl
    · rw [List.splitOn_intercalate '/' h hn]
  rw [← filter_splitOn, ofParts, String.toList_ofList]
  cases start with
  | relative => exact hjoin h
  | root =>
    rw [Start.chars, List.singleton_append, Text.splitOn_cons_self, ← hjoin h]
    rfl
  | current =>
    have hdot : ['.'].splitOn '/' = [['.']] := by decide
    cases parts with
    | nil => simp [Start.chars, hdot, isIdle]
    | cons first tail =>
      obtain rfl : first = [] := by simpa using hc rfl
      obtain ⟨-, hr⟩ := List.forall_mem_cons.mp h
      cases tail with
      | nil => simp [Start.chars, hdot, isIdle]
      | cons next rest =>
        have htext : Start.current.chars ++ ['/'].intercalate ([] :: next :: rest) =
            ['.'] ++ '/' :: ['/'].intercalate (next :: rest) := rfl
        rw [htext, List.splitOn_append_cons_self, hdot, List.filter_append, hjoin hr]
        rfl

theorem steps_of_parent? (h : p.parent? = some q) (hq : q.isEmpty = false) :
    ∃ last, p.steps = q.steps ++ [last] := by
  obtain ⟨front, last, hparts, rfl⟩ | ⟨-, -, rfl⟩ := parent?_cases h
  swap
  · cases hq
  have hlast : isIdle last = false := isIdle_getLast_dropIdleEnd p.parts.2 last (by simp [hparts])
  have hfront : dropIdleEnd front <+: p.parts.2 := by
    refine (dropIdleEnd_isPrefix _).trans (.trans ?_ (dropIdleEnd_isPrefix _))
    exact hparts ▸ List.prefix_append _ _
  rw [steps_ofParts (fun hc => ?_) fun part hp => not_mem_of_mem_parts (hfront.subset hp)]
  · refine ⟨last, ?_⟩
    rw [filter_dropIdleEnd, steps, ← filter_dropIdleEnd, hparts, List.filter_append]
    simp [hlast]
  · cases hd : dropIdleEnd front with
    | nil => exact .inl rfl
    | cons first others =>
      obtain ⟨tail, ht⟩ := hd ▸ hfront
      have hhead := head?_parts_of_current hc
      rw [← ht] at hhead
      exact .inr hhead

theorem steps_of_parent?_eq_none (h : p.parent? = none) : p.steps = [] := by
  unfold parent? at h
  dsimp only at h
  split at h
  · cases h
  · next hrev =>
    have hparts : dropIdleEnd p.parts.2 = [] := List.reverse_eq_nil_iff.mp hrev
    rw [steps, ← filter_dropIdleEnd, hparts]
    rfl

theorem not_isAbsolute_of_parent? (h : p.parent? = some q) (hq : q.isEmpty) :
    p.isAbsolute = false := by
  by_contra habs
  have hroot : p.parts.1 = .root := p.isAbsolute_iff.mp (by simpa using habs)
  rcases parent?_cases h with ⟨front, last, -, rfl⟩ | ⟨-, hcurrent, -⟩
  · rw [isEmpty, String.isEmpty_iff] at hq
    have hchars := congrArg String.toList hq
    rw [ofParts, String.toList_ofList, hroot] at hchars
    cases hchars
  · rw [hroot] at hcurrent
    cases hcurrent

theorem isAbsolute_of_isPrefix (h : q.text.toList <+: p.text.toList) (hq : q.isEmpty = false) :
    q.isAbsolute = p.isAbsolute := by
  obtain ⟨rest, hr⟩ := h
  have hne : q.text.toList ≠ [] := by
    intro hn
    rw [isEmpty, String.toList_eq_nil_iff.mp hn] at hq
    cases hq
  unfold isAbsolute
  rw [← hr, List.head?_append_of_ne_nil _ hne]

/-- Every ancestor stands at the front of the path. It makes the first of its steps, from the same
start, unless it has no text. -/
theorem front_of_mem_ancestors {fuel : Nat} (h : q ∈ ancestors.go fuel p) :
    q.text.toList <+: p.text.toList ∧
      (q.isEmpty = false → q.steps <+: p.steps ∧ q.isAbsolute = p.isAbsolute) := by
  induction fuel generalizing p with
  | zero =>
    rw [List.mem_singleton.mp h]
    exact ⟨List.prefix_rfl, fun _ => ⟨List.prefix_rfl, rfl⟩⟩
  | succ fuel ih =>
    unfold ancestors.go at h
    split at h
    · next parent hp =>
      rcases List.mem_cons.mp h with rfl | h
      · exact ⟨List.prefix_rfl, fun _ => ⟨List.prefix_rfl, rfl⟩⟩
      · obtain ⟨hfront, hrest⟩ := ih h
        have hparent := parent?_text_isPrefix hp
        refine ⟨hfront.trans hparent, fun hq => ?_⟩
        obtain ⟨hsteps, habs⟩ := hrest hq
        have hne : parent.isEmpty = false := by
          by_contra hempty
          have htext : parent.text = "" := by simpa [isEmpty] using hempty
          rw [htext] at hfront
          have hnil := String.toList_eq_nil_iff.mp (List.prefix_nil.mp hfront)
          rw [isEmpty, hnil] at hq
          cases hq
        obtain ⟨last, hlast⟩ := steps_of_parent? hp hne
        exact ⟨hsteps.trans (hlast ▸ List.prefix_append _ _),
          habs.trans (isAbsolute_of_isPrefix hparent hne)⟩
    · rw [List.mem_singleton.mp h]
      exact ⟨List.prefix_rfl, fun _ => ⟨List.prefix_rfl, rfl⟩⟩

/-- A path that is joined to a directory stands behind parts that hang on the directory only. -/
theorem exists_splitOn_join (d : Path) :
    ∃ front : List (List Char), front.filter (!isIdle ·) = d.steps ∧ ∀ q : Path,
      q.isAbsolute = false →
      (d.join q).text.toList.splitOn '/' = front ++ q.text.toList.splitOn '/' := by
  rcases eq_nil_or_append_separator d with hn | ⟨front, hn⟩
  · have htext : d.text.toList = [] := (List.append_eq_nil_iff.mp hn).1
    refine ⟨[], ?_, fun q hq => ?_⟩
    · rw [← filter_splitOn, htext]
      rfl
    · rw [text_join d hq, hn, List.nil_append, List.nil_append]
  · refine ⟨front.splitOn '/', ?_, fun q hq => ?_⟩
    · have hsplit := List.splitOn_append_cons_self (a := '/') front []
      rw [← hn] at hsplit
      have hidle : (([] : List Char).splitOn '/').filter (!isIdle ·) = [] := rfl
      have hfilter := congrArg (List.filter (!isIdle ·)) hsplit
      rw [List.filter_append, hidle, List.append_nil] at hfilter
      rw [← hfilter, ← filter_splitOn]
      unfold separator
      split
      · rw [List.append_nil]
      · rw [List.splitOn_append_cons_self, List.filter_append, hidle, List.append_nil]
    · rw [text_join d hq, hn, List.append_assoc, List.singleton_append,
        List.splitOn_append_cons_self]

theorem steps_join {d : Path} (hq : q.isAbsolute = false) :
    (d.join q).steps = d.steps ++ q.steps := by
  obtain ⟨front, hfront, hjoin⟩ := exists_splitOn_join d
  rw [← filter_splitOn, hjoin q hq, List.filter_append, hfront, filter_splitOn]

theorem isAbsolute_join {d : Path} (hq : q.isAbsolute = false) :
    (d.join q).isAbsolute = d.isAbsolute := by
  by_cases hd : d.isEmpty
  · have htext : d = ⟨""⟩ := congrArg Path.mk (by simpa [isEmpty] using hd)
    rw [htext, empty_join, hq]
    rfl
  · refine (isAbsolute_of_isPrefix ?_ (by simpa using hd)).symm
    rw [text_join d hq, List.append_assoc]
    exact List.prefix_append _ _

theorem start_eq_current_iff (p : Path) :
    p.parts.1 = .current ↔ p.text.toList = ['.'] ∨ ['.', '/'] <+: p.text.toList := by
  unfold parts
  split
  · next rest h => simp [h]
  · next h => simp [h]
  · next rest h => simp [h]
  · next hroot hdot hslash =>
    refine ⟨nofun, ?_⟩
    rintro (h | ⟨rest, h⟩)
    · exact absurd h hdot
    · exact absurd h.symm (hslash rest)

/-- A path that is joined to a directory starts where the directory does. -/
theorem start_join {d : Path} (hd : d.isEmpty = false) (hq : q.isAbsolute = false) :
    (d.join q).parts.1 = d.parts.1 := by
  have hne : d.text.toList ≠ [] := by simpa [isEmpty] using hd
  have hroot : (d.join q).parts.1 = .root ↔ d.parts.1 = .root := by
    rw [← isAbsolute_iff, ← isAbsolute_iff, isAbsolute_join hq]
  have hcurrent : (d.join q).parts.1 = .current ↔ d.parts.1 = .current := by
    rw [start_eq_current_iff, start_eq_current_iff, text_join d hq, List.append_assoc]
    constructor
    · rintro (h | h)
      · obtain ⟨hdot, -⟩ := (List.append_eq_singleton_iff.mp h).resolve_left fun h => hne h.1
        exact .inl hdot
      · rcases List.prefix_or_prefix_of_prefix h (List.prefix_append _ _) with hfront | hfront
        · exact .inr hfront
        · rcases List.prefix_cons_iff.mp hfront with hnil | ⟨rest, hrest, hslash⟩
          · exact absurd hnil hne
          · rcases List.prefix_cons_iff.mp hslash with rfl | ⟨others, rfl, hothers⟩
            · exact .inl hrest
            · rw [List.prefix_nil.mp hothers] at hrest
              exact .inr (hrest ▸ List.prefix_rfl)
    · rintro (h | h)
      · have hseparator : d.separator = ['/'] := by simp [separator, hd, h]
        rw [h, hseparator]
        exact .inr (List.prefix_append _ _)
      · exact .inr (h.trans (List.prefix_append _ _))
  cases hs : (d.join q).parts.1 <;> cases ht : d.parts.1 <;> simp_all
theorem steps_append_slashes (p : Path) (n : Nat) :
    (⟨p.text ++ String.ofList (List.replicate n '/')⟩ : Path).steps = p.steps := by
  have hblank (n : Nat) : ((List.replicate n '/').splitOn '/').filter (!isIdle ·) = [] := by
    induction n with
    | zero => rfl
    | succ n ih =>
      rw [List.replicate_succ, Text.splitOn_cons_self, List.filter_cons]
      simpa [isIdle] using ih
  rw [← filter_splitOn, String.toList_append, String.toList_ofList, ← p.filter_splitOn]
  cases n with
  | zero => rw [List.replicate_zero, List.append_nil]
  | succ n =>
    rw [List.replicate_succ, List.splitOn_append_cons_self, List.filter_append, hblank,
      List.append_nil]

/-- What is joined to a path with slashes at its end stands right behind them. -/
theorem text_join_slashes (p : Path) (hq : q.isAbsolute = false) (n : Nat) :
    ((⟨p.text ++ String.ofList (List.replicate (n + 1) '/')⟩ : Path).join q).text.toList =
      p.text.toList ++ List.replicate (n + 1) '/' ++ q.text.toList := by
  have hlast : (p.text.toList ++ List.replicate (n + 1) '/').getLast? = some '/' := by
    rw [List.getLast?_append, List.getLast?_replicate]
    rfl
  rw [text_join _ hq, separator, String.toList_append, String.toList_ofList]
  simp [hlast]

theorem utf8ByteSize_join_slashes (p : Path) (hq : q.isAbsolute = false) (n : Nat) :
    ((⟨p.text ++ String.ofList (List.replicate (n + 1) '/')⟩ : Path).join q).text.utf8ByteSize =
      p.text.utf8ByteSize + (n + 1) + q.text.utf8ByteSize := by
  have hslashes (n : Nat) : String.utf8Len (List.replicate n '/') = n := by
    induction n with
    | zero => rfl
    | succ n ih =>
      rw [List.replicate_succ, String.utf8Len_cons, ih]
      rfl
  rw [← String.utf8Len_toList, text_join_slashes p hq, String.utf8Len_append,
    String.utf8Len_append, hslashes, String.utf8Len_toList, String.utf8Len_toList]

/-- A path goes down only when none of its components is a parent. -/
theorem parent_mem_components_iff : .parent ∈ p.components ↔ ['.', '.'] ∈ p.steps := by
  have hstart : Component.parent ∉ p.parts.1.components := by
    cases p.parts.1 <;> simp [Start.components]
  have hpart (part : List Char) : partComponent? part = some .parent ↔ part = ['.', '.'] := by
    unfold partComponent?
    split
    · next hi =>
      refine ⟨fun hnone => ?_, ?_⟩
      · cases hnone
      · rintro rfl
        cases hi
    · split <;> simp [*]
  rw [components, List.mem_append, or_iff_right hstart, List.mem_filterMap, steps, List.mem_filter]
  constructor
  · rintro ⟨part, hm, hp⟩
    obtain rfl := (hpart part).mp hp
    exact ⟨hm, rfl⟩
  · rintro ⟨hm, -⟩
    exact ⟨_, hm, (hpart _).mpr rfl⟩

end Path

end Scaffold
