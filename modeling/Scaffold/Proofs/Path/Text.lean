import Mathlib.Data.List.Basic
import Mathlib.Tactic.SplitIfs
import Scaffold.Path

/-! The text of a path: it is made of its start and its parts, the text of a parent stands at its
front, and so does the directory from which a name was reached. -/
namespace Scaffold

namespace Text

theorem intercalate_cons_of_ne_nil (sep : Char) (part : List Char) {parts : List (List Char)}
    (h : parts ≠ []) :
    [sep].intercalate (part :: parts) = part ++ sep :: [sep].intercalate parts := by
  rw [List.intercalate_cons_of_ne_nil h, List.append_assoc, List.singleton_append]

theorem intercalate_append {sep : Char} {xs ys : List (List Char)} (hx : xs ≠ []) (hy : ys ≠ []) :
    [sep].intercalate (xs ++ ys) = [sep].intercalate xs ++ sep :: [sep].intercalate ys := by
  induction xs with
  | nil => exact absurd rfl hx
  | cons x rest ih =>
    cases rest with
    | nil =>
      rw [List.singleton_append, intercalate_cons_of_ne_nil sep x hy, List.intercalate_singleton]
    | cons next rest =>
      have hnext := List.cons_ne_nil next rest
      rw [List.cons_append, intercalate_cons_of_ne_nil sep x (by simp), ih hnext,
        intercalate_cons_of_ne_nil sep x hnext, List.append_assoc, List.cons_append]

theorem intercalate_isPrefix {sep : Char} {xs ys : List (List Char)} (h : xs <+: ys) :
    [sep].intercalate xs <+: [sep].intercalate ys := by
  obtain ⟨rest, rfl⟩ := h
  by_cases hx : xs = []
  · rw [hx]; exact List.nil_prefix
  by_cases hr : rest = []
  · subst hr
    simp
  · rw [intercalate_append hx hr]
    exact List.prefix_append _ _

theorem intercalate_isSuffix {sep : Char} {xs ys : List (List Char)} (h : xs <:+ ys) :
    [sep].intercalate xs <:+ [sep].intercalate ys := by
  obtain ⟨front, rfl⟩ := h
  by_cases hf : front = []
  · subst hf
    exact List.suffix_rfl
  by_cases hx : xs = []
  · rw [hx]
    exact List.nil_suffix
  · rw [intercalate_append hf hx]
    exact (List.suffix_cons _ _).trans (List.suffix_append _ _)

/-- What stands before the first separator and what stands behind it are fixed by the whole. -/
theorem append_sep_inj {sep : Char} {a b c d : List Char} (ha : sep ∉ a) (hc : sep ∉ c)
    (h : a ++ sep :: b = c ++ sep :: d) : a = c ∧ b = d := by
  induction a generalizing c with
  | nil =>
    cases c with
    | nil => exact ⟨rfl, (List.cons.inj h).2⟩
    | cons y ys => exact absurd ((List.cons.inj h).1 ▸ List.mem_cons_self) hc
  | cons x xs ih =>
    cases c with
    | nil => exact absurd ((List.cons.inj h).1 ▸ List.mem_cons_self) ha
    | cons y ys =>
      obtain ⟨hx, hr⟩ := List.cons.inj h
      obtain ⟨hs, hb⟩ := ih (fun hm => ha (.tail _ hm)) (fun hm => hc (.tail _ hm)) hr
      exact ⟨by rw [hx, hs], hb⟩

theorem intercalate_sublist (sep : Char) {xs ys : List (List Char)} (h : xs.Sublist ys) :
    ([sep].intercalate xs).Sublist ([sep].intercalate ys) := by
  induction h with
  | slnil => exact List.Sublist.refl _
  | @cons xs ys part h ih =>
    cases ys with
    | nil =>
      rw [List.sublist_nil.mp h]
      exact List.nil_sublist _
    | cons next rest =>
      rw [intercalate_cons_of_ne_nil sep part (List.cons_ne_nil _ _)]
      exact (ih.trans (List.sublist_cons_self _ _)).trans (List.sublist_append_right _ _)
  | @cons_cons xs ys part h ih =>
    cases ys with
    | nil => rw [List.sublist_nil.mp h]
    | cons next rest =>
      rw [intercalate_cons_of_ne_nil sep part (List.cons_ne_nil next rest)]
      cases xs with
      | nil => exact List.intercalate_singleton ▸ List.sublist_append_left _ _
      | cons first others =>
        rw [intercalate_cons_of_ne_nil sep part (List.cons_ne_nil _ _)]
        exact (List.Sublist.refl part).append (ih.cons_cons sep)

end Text

namespace Path

theorem text_eq (p : Path) :
    p.text.toList = p.parts.1.chars ++ ['/'].intercalate p.parts.2 := by
  unfold parts
  split
  · next rest h => rw [h]; simp [Start.chars, List.intercalate_splitOn]
  · next h => rw [h]; rfl
  · next rest h =>
    rw [h]
    cases hs : rest.splitOn '/' with
    | nil => exact absurd hs (List.splitOn_ne_nil '/' rest)
    | cons part parts =>
      rw [← hs, Text.intercalate_cons_of_ne_nil '/' [] (List.splitOn_ne_nil '/' rest),
        List.intercalate_splitOn]
      rfl
  · simp [Start.chars, List.intercalate_splitOn]

theorem dropIdleEnd_isPrefix (parts : List (List Char)) : dropIdleEnd parts <+: parts := by
  have h : parts.reverse.dropWhile isIdle <:+ parts.reverse := List.dropWhile_suffix _
  exact List.reverse_suffix.mp (by simpa [dropIdleEnd] using h)

theorem isIdle_getLast_dropIdleEnd (parts : List (List Char)) :
    ∀ part ∈ (dropIdleEnd parts).getLast?, isIdle part = false := by
  intro part hp
  rw [dropIdleEnd, List.getLast?_reverse] at hp
  obtain ⟨rest, hrest⟩ := List.head?_eq_some_iff.mp hp
  have hnot := List.head_dropWhile_not isIdle (l := parts.reverse) (by simp [hrest])
  simpa [hrest] using hnot

/-- A parent is made of the parts before the last step; that of a dot alone has no text. -/
theorem parent?_cases {p q : Path} (h : p.parent? = some q) :
    (∃ front last, dropIdleEnd p.parts.2 = front ++ [last] ∧
        q = ofParts p.parts.1 (dropIdleEnd front)) ∨
      (dropIdleEnd p.parts.2 = [] ∧ p.parts.1 = .current ∧ q = ⟨""⟩) := by
  unfold parent? at h
  dsimp only at h
  split at h
  · next last rest hrev =>
    refine .inl ⟨rest.reverse, last, ?_, (Option.some.inj h).symm⟩
    rw [← List.reverse_reverse (dropIdleEnd p.parts.2), hrev, List.reverse_cons]
  · next hrev =>
    split at h
    · next hc => exact .inr ⟨List.reverse_eq_nil_iff.mp hrev, hc, (Option.some.inj h).symm⟩
    · cases h

/-- The text of a parent stands at the front of what the start and all parts but the last make. -/
theorem parent?_isPrefix {p q : Path} (h : p.parent? = some q) :
    q.text.toList <+: p.parts.1.chars ++ ['/'].intercalate p.parts.2.dropLast := by
  rcases parent?_cases h with ⟨front, last, hd, rfl⟩ | ⟨-, -, rfl⟩
  · have hp : front <+: p.parts.2.dropLast := by
      obtain ⟨tail, ht⟩ := dropIdleEnd_isPrefix p.parts.2
      rw [hd] at ht
      rw [← ht, List.append_assoc, List.dropLast_append_of_ne_nil (by simp)]
      exact List.prefix_append _ _
    rw [ofParts, String.toList_ofList]
    exact List.prefix_append_right_inj _ |>.mpr
      (Text.intercalate_isPrefix ((dropIdleEnd_isPrefix _).trans hp))
  · exact List.nil_prefix

/-- The start of a path and all its parts but the last make the front of its text. -/
theorem front_isPrefix (p : Path) :
    p.parts.1.chars ++ ['/'].intercalate p.parts.2.dropLast <+: p.text.toList := by
  rw [text_eq p]
  exact List.prefix_append_right_inj _ |>.mpr (Text.intercalate_isPrefix (List.dropLast_prefix _))

theorem parent?_text_isPrefix {p q : Path} (h : p.parent? = some q) :
    q.text.toList <+: p.text.toList :=
  (parent?_isPrefix h).trans (front_isPrefix p)

theorem empty_join (q : Path) : (⟨""⟩ : Path).join q = q := by
  unfold join
  split_ifs
  · rfl
  · exact congrArg Path.mk (String.empty_append ..)
  · next h => exact absurd rfl h

theorem mem_text_join {p q : Path} {c : Char} (h : c ∈ (p.join q).text.toList) :
    c ∈ p.text.toList ∨ c = '/' ∨ c ∈ q.text.toList := by
  unfold join at h
  split_ifs at h
  · exact .inr (.inr h)
  · rw [String.toList_append, List.mem_append] at h
    exact h.imp_right .inr
  · rw [String.toList_append, String.toList_append, List.append_assoc, List.mem_append,
      List.mem_append] at h
    exact h.imp_right (.imp_left List.mem_singleton.mp)

theorem getLast?_parts {p : Path} (h : p.text ≠ ".") :
    p.parts.2.getLast? = (p.text.toList.splitOn '/').getLast? := by
  unfold parts
  split
  · next rest hp =>
    rw [hp, Text.splitOn_cons_self, List.getLast?_cons_of_ne_nil (List.splitOn_ne_nil _ _)]
  · next hp => exact absurd (String.toList_inj.mp hp) h
  · next rest hp =>
    have hs : ('.' :: '/' :: rest).splitOn '/' = ['.'] :: rest.splitOn '/' := by
      simp [List.splitOn_cons_eq_if_modifyHead]
    rw [hp, hs, List.getLast?_cons_of_ne_nil (List.splitOn_ne_nil _ _),
      List.getLast?_cons_of_ne_nil (List.splitOn_ne_nil _ _)]
  · rfl

theorem not_isAbsolute {file : String} (hf : '/' ∉ file.toList) :
    (⟨file⟩ : Path).isAbsolute = false := by
  rw [isAbsolute, decide_eq_false_iff_not]
  intro h
  exact hf (List.mem_of_mem_head? (by simp [h]))

/-- What stands between a directory and the name of a file in it. -/
def separator (d : Path) : List Char :=
  if d.isEmpty || d.text.toList.getLast? = some '/' then [] else ['/']

theorem text_join (d : Path) {q : Path} (hq : q.isAbsolute = false) :
    (d.join q).text.toList = d.text.toList ++ d.separator ++ q.text.toList := by
  simp only [join, separator, hq, Bool.false_eq_true, if_false]
  split_ifs <;> simp

theorem eq_nil_or_append_separator (d : Path) :
    d.text.toList ++ d.separator = [] ∨ ∃ front, d.text.toList ++ d.separator = front ++ ['/'] := by
  unfold separator
  split_ifs with h
  · rw [List.append_nil]
    rcases Bool.or_eq_true_iff.mp h with he | hl
    · left
      rw [isEmpty, String.isEmpty_iff] at he
      rw [he]; rfl
    · right
      exact List.getLast?_eq_some_iff.mp (of_decide_eq_true hl)
  · exact Or.inr ⟨_, rfl⟩

theorem getLast?_parts_join (d : Path) {file : String} (hf : '/' ∉ file.toList)
    (hd : (d.join ⟨file⟩).text ≠ ".") : (d.join ⟨file⟩).parts.2.getLast? = some file.toList := by
  rw [getLast?_parts hd, text_join d (not_isAbsolute hf)]
  rcases eq_nil_or_append_separator d with hn | ⟨front, hn⟩
  · rw [hn, List.nil_append, List.splitOn_eq_singleton hf]
    rfl
  · rw [hn, List.append_assoc, List.singleton_append, List.splitOn_append_cons_self,
      List.splitOn_eq_singleton hf, List.getLast?_concat]

theorem length_separator (d : Path) :
    d.separator.length = 0 ∨ d.separator.length = 1 ∧ 1 ≤ d.text.toList.length := by
  unfold separator
  split_ifs with h
  · exact Or.inl rfl
  · refine Or.inr ⟨rfl, List.length_pos_iff.mpr fun he => h ?_⟩
    rw [isEmpty, String.toList_eq_nil_iff.mp he]
    rfl

/-- In front of the name of a file there is no more than the directory. -/
theorem front_length_le {d : Path} {file : String} (hf : '/' ∉ file.toList)
    {front : List (List Char)} (h : (d.join ⟨file⟩).parts.2 = front ++ [file.toList]) :
    ((d.join ⟨file⟩).parts.1.chars ++ ['/'].intercalate front).length ≤ d.text.toList.length := by
  have htext := congrArg List.length (text_eq (d.join ⟨file⟩))
  rw [text_join d (not_isAbsolute hf), h] at htext
  have hsep := d.length_separator
  have hstart : (d.join ⟨file⟩).parts.1.chars.length ≤ 1 := by
    cases (d.join ⟨file⟩).parts.1 <;> simp [Start.chars]
  by_cases hn : front = []
  · simp only [hn, List.nil_append, List.intercalate_singleton, List.intercalate_nil,
      List.length_append, List.length_nil] at htext ⊢
    omega
  · rw [Text.intercalate_append hn (by simp)] at htext
    simp only [List.length_append, List.length_cons, List.intercalate_singleton] at htext ⊢
    omega

/-- The parent of a file in a directory stands at the front of the directory. -/
theorem parent?_join_isPrefix {d q : Path} {file : String} (hf : '/' ∉ file.toList)
    (h : (d.join ⟨file⟩).parent? = some q) : q.text.toList <+: d.text.toList := by
  by_cases hd : (d.join ⟨file⟩).text = "."
  · have hq : q = ⟨""⟩ := by
      rw [show d.join ⟨file⟩ = ⟨"."⟩ from Path.mk.injEq .. ▸ hd] at h
      exact (Option.some.inj h).symm
    rw [hq]
    exact List.nil_prefix
  have hlast : (d.join ⟨file⟩).parts.2 = (d.join ⟨file⟩).parts.2.dropLast ++ [file.toList] :=
    (List.dropLast_append_getLast? _ (getLast?_parts_join d hf hd)).symm
  have hq := parent?_isPrefix h
  have hp : d.text.toList <+: (d.join ⟨file⟩).text.toList := by
    rw [text_join d (not_isAbsolute hf), List.append_assoc]
    exact List.prefix_append _ _
  exact List.prefix_of_prefix_length_le (parent?_text_isPrefix h) hp
    (Nat.le_trans hq.length_le (front_length_le hf hlast))

end Path

end Scaffold
