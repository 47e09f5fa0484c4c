import Mathlib.Data.List.Infix
import Scaffold.Naming

/-! Words between dashes. Joining them capitalizes each of them and drops its dash, save for dashes
that have no character of their own to capitalize. -/
namespace Scaffold

namespace Text

theorem forall_ascii {P : Char → Prop} {c : Char} (h : ∀ n < 128, P (Char.ofNat n))
    (hc : c.val < 0x80) : P c := by
  rw [← Char.ofNat_toNat c]
  exact h _ (UInt32.lt_iff_toNat_lt.mp hc)

/-- The table gives characters only, and none that stands before the capital letters. -/
theorem upperCodes_cases {code n : Nat} (h : n ∈ upperCodes code) :
    n = code ∨ 65 ≤ n ∧ n.isValidChar := by
  have hexpanding : ∀ entry ∈ expandingCase, ∀ n ∈ entry.2, 65 ≤ n ∧ n.isValidChar := by
    decide +kernel
  have hruns : ∀ run ∈ caseRuns, 65 ≤ (run.first : Int) + run.shift ∧
      ((run.last : Int) + run.shift < 0xD800 ∨
        0xDFFF < (run.first : Int) + run.shift ∧ (run.last : Int) + run.shift < 0x110000) := by
    decide +kernel
  unfold upperCodes at h
  split at h
  · next codes hcodes =>
    obtain ⟨before, after, hentry, -⟩ := List.lookup_eq_some_iff.mp hcodes
    exact .inr (hexpanding (code, codes) (by simp [hentry]) n h)
  · split at h
    · next run hrun =>
      obtain rfl := List.mem_singleton.mp h
      obtain ⟨hlow, hhigh⟩ := hruns run (List.mem_of_find?_eq_some hrun)
      have hcovers : run.first ≤ code ∧ code ≤ run.last := by
        have := List.find?_some hrun
        simp only [CaseRun.covers, Bool.and_eq_true, decide_eq_true_eq] at this
        exact this.1
      unfold Nat.isValidChar
      omega
    · exact .inl (List.mem_singleton.mp h)

/-- A character that an uppercase form brings in does not stand before the capital letters. -/
theorem mem_upperChar {c d : Char} (h : d ∈ upperChar c) : d = c ∨ 65 ≤ d.toNat := by
  unfold upperChar at h
  split at h
  · next hascii =>
    rw [List.mem_singleton.mp h]
    exact forall_ascii (P := fun c => c.toUpper = c ∨ 65 ≤ c.toUpper.toNat) (by decide +kernel)
      hascii
  · obtain ⟨n, hn, rfl⟩ := List.mem_map.mp h
    rcases upperCodes_cases hn with rfl | ⟨hn, hvalid⟩
    · exact .inl (Char.ofNat_toNat c)
    · right
      rw [Char.ofNat, dif_pos hvalid]
      exact hn

end Text

namespace Naming

open Text

variable {cs word : List Char} {words : List (List Char)} {c d : Char}

theorem camel_cons_of_ne (h : c ≠ '-') (cs : List Char) : camel (c :: cs) = c :: camel cs := by
  cases cs <;> simp [camel, h]

theorem camel_dash (h : d ≠ '\n') (cs : List Char) :
    camel ('-' :: d :: cs) = upperChar d ++ camel cs := by
  simp [camel, h]

theorem camel_append (h : '-' ∉ word) (cs : List Char) :
    camel (word ++ cs) = word ++ camel cs := by
  induction word with
  | nil => rfl
  | cons c word ih =>
    obtain ⟨hc, hw⟩ := not_or.mp (List.mem_cons.not.mp h)
    rw [List.cons_append, camel_cons_of_ne (Ne.symm hc), ih hw, List.cons_append]

/-- What holds of all characters, and of their uppercase forms with them, holds in camel case. -/
theorem forall_mem_camel {P : Char → Prop} (hP : ∀ c, P c → ∀ d ∈ upperChar c, P d)
    (h : ∀ c ∈ cs, P c) : ∀ d ∈ camel cs, P d := by
  fun_induction camel cs with
  | case1 => exact h
  | case2 c => exact h
  | case3 c d cs hc ih =>
    obtain ⟨-, hcs⟩ := List.forall_mem_cons.mp h
    obtain ⟨hd, hcs⟩ := List.forall_mem_cons.mp hcs
    exact List.forall_mem_append.mpr ⟨hP d hd, ih hcs⟩
  | case4 c d cs hc ih =>
    obtain ⟨hc, hcs⟩ := List.forall_mem_cons.mp h
    exact List.forall_mem_cons.mpr ⟨hc, ih hcs⟩

theorem forall_mem_capital {P : Char → Prop} (hP : ∀ c, P c → ∀ d ∈ upperChar c, P d)
    (h : ∀ c ∈ cs, P c) : ∀ d ∈ capital cs, P d := by
  cases cs with
  | nil => exact h
  | cons c cs =>
    obtain ⟨hc, hcs⟩ := List.forall_mem_cons.mp h
    exact List.forall_mem_append.mpr ⟨hP c hc, hcs⟩

theorem mem_upperChar_iff (hd : d.toNat < 65) : d ∈ upperChar c ↔ d = c := by
  constructor
  · exact fun h => (mem_upperChar h).resolve_right (by omega)
  · rintro rfl
    have hascii : d.val < 0x80 := by
      rw [UInt32.lt_iff_toNat_lt]
      exact Nat.lt_trans hd (by decide)
    have hsame : d.toUpper = d :=
      forall_ascii (P := fun d => d.toNat < 65 → d.toUpper = d) (by decide +kernel) hascii hd
    rw [upperChar_of_ascii hascii, hsame]
    exact List.mem_singleton.mpr rfl

theorem mem_capital_iff (hd : d.toNat < 65) : d ∈ capital cs ↔ d ∈ cs := by
  cases cs with
  | nil => exact Iff.rfl
  | cons c cs => rw [capital, List.mem_append, mem_upperChar_iff hd, List.mem_cons]

/-- Every dash has a character behind it that is no dash. -/
def IsKebab (cs : List Char) : Prop := ¬['-', '-'] <:+: cs ∧ cs.getLast? ≠ some '-'

theorem isKebab_cons_of_ne (h : c ≠ '-') : IsKebab (c :: cs) ↔ IsKebab cs := by
  have hpair : ¬['-', '-'] <+: c :: cs := fun hp => h (List.cons_prefix_cons.mp hp).1.symm
  have hlast : (c :: cs).getLast? = some '-' ↔ cs.getLast? = some '-' := by
    cases cs with
    | nil => simpa using h
    | cons e cs => rw [List.getLast?_cons_cons]
  rw [IsKebab, IsKebab, List.infix_cons_iff, or_iff_right hpair, ne_eq, hlast]

theorem isKebab_dash : IsKebab ('-' :: d :: cs) ↔ d ≠ '-' ∧ IsKebab cs := by
  by_cases hd : d = '-'
  · subst hd
    exact iff_of_false (fun h => h.1 ⟨[], cs, rfl⟩) (fun h => h.1 rfl)
  · have hpair : ¬['-', '-'] <+: '-' :: d :: cs := by
      intro hp
      obtain ⟨-, hp⟩ := List.cons_prefix_cons.mp hp
      exact hd (List.cons_prefix_cons.mp hp).1.symm
    rw [IsKebab, List.infix_cons_iff, or_iff_right hpair, List.getLast?_cons_cons, and_iff_right hd]
    exact isKebab_cons_of_ne hd

/-- A dash stays when camel case is formed just where it has no character to capitalize. -/
theorem dash_not_mem_camel_iff (h : '\n' ∉ cs) : '-' ∉ camel cs ↔ IsKebab cs := by
  -- A dash goes with the character behind it, so the cases are those of `camel`.
  fun_induction camel cs with
  | case1 => simp [IsKebab]
  | case2 c =>
    by_cases hc : c = '-'
    · simp [IsKebab, hc]
    · rw [isKebab_cons_of_ne hc]
      simp [IsKebab, Ne.symm hc]
  | case3 c d cs hc ih =>
    obtain ⟨rfl, -⟩ := hc
    have hcs : '\n' ∉ cs := fun hm => h (.tail _ (.tail _ hm))
    rw [List.mem_append, not_or, mem_upperChar_iff (by decide), ih hcs, isKebab_dash, ne_comm]
  | case4 c d cs hc ih =>
    have hd : d ≠ '\n' := fun hd => h (by simp [hd])
    have hne : c ≠ '-' := fun he => hc ⟨he, hd⟩
    rw [List.mem_cons, not_or, and_iff_right (Ne.symm hne), ih fun hm => h (.tail _ hm),
      isKebab_cons_of_ne hne]

end Naming

end Scaffold
