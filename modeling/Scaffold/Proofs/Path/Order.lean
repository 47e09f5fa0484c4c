import Mathlib.Data.List.Lex
import Scaffold.Proofs.Path.Components

/-! The order of paths. It is a strict linear order on components, so sorted paths come strictly one
after the other as soon as no two of them are the same. -/
namespace Scaffold

theorem Component.key_inj {c d : Component} (h : c.key = d.key) : c = d := by
  cases c <;> cases d <;> simp only [key, List.cons.injEq, reduceCtorEq, and_true,
    Nat.reduceEqDiff, false_and] at h ⊢
  next xs ys =>
    obtain ⟨-, hchars⟩ := h
    have hinj : Function.Injective Char.toNat := fun _ _ => Char.toNat_inj.mp
    exact congrArg Component.name (List.map_injective_iff.mpr hinj hchars)

namespace Path

variable {p q : Path}

theorem same_of_key (h : p.key = q.key) : p.same q = true := by
  have hinj : Function.Injective Component.key := fun _ _ => Component.key_inj
  exact decide_eq_true (List.map_injective_iff.mpr hinj h)

theorem before_iff : p.before q = true ↔ p.key < q.key := by
  have hinner : (fun a b : List Nat => List.lex a b fun m n => decide (m < n)) =
      fun a b => decide (a < b) := by
    funext a b
    rw [Bool.eq_iff_iff, List.lex_eq_true_iff_lt, decide_eq_true_iff]
  rw [before, hinner, List.lex_eq_true_iff_lt]

/-- Paths in order, no two of which have the same components, come strictly one after the other. -/
theorem pairwise_before_mergeSort {paths : List Path} (h : (paths.map key).Nodup) :
    (paths.mergeSort fun p q => !q.before p).Pairwise fun p q => p.before q = true := by
  have hle (p q : Path) : (!q.before p) = true ↔ p.key ≤ q.key := by
    rw [Bool.not_eq_true', ← Bool.not_eq_true, before_iff, not_lt]
  have hsorted : (paths.mergeSort fun p q => !q.before p).Pairwise fun p q => (!q.before p) =
      true := by
    apply List.pairwise_mergeSort
    · intro p q r hpq hqr
      rw [hle] at hpq hqr ⊢
      exact hpq.trans hqr
    · intro p q
      rw [Bool.or_eq_true, hle, hle]
      exact le_total p.key q.key
  have hdistinct : (paths.mergeSort fun p q => !q.before p).Pairwise fun p q => p.key ≠ q.key := by
    have hperm := (List.mergeSort_perm paths fun p q => !q.before p).map key
    exact List.pairwise_map.mp (hperm.nodup_iff.mpr h)
  refine (hsorted.and hdistinct).imp ?_
  rintro p q ⟨hpq, hne⟩
  rw [hle] at hpq
  exact before_iff.mpr (lt_of_le_of_ne hpq hne)

/-- There is one way only to put paths in order, if they come strictly one after the other. -/
theorem mergeSort_eq_of_perm {paths sorted : List Path} (hp : paths.Perm sorted)
    (hs : sorted.Pairwise fun p q => p.before q = true) :
    paths.mergeSort (fun p q => !q.before p) = sorted := by
  have hdistinct : (sorted.map key).Nodup := by
    refine List.pairwise_map.mpr (hs.imp ?_)
    intro p q hpq
    exact (before_iff.mp hpq).ne
  have hmerged : (paths.mergeSort fun p q => !q.before p).Pairwise fun p q => p.before q = true :=
    pairwise_before_mergeSort ((hp.map key).nodup_iff.mpr hdistinct)
  refine List.Perm.eq_of_pairwise ?_ hmerged hs ((List.mergeSort_perm _ _).trans hp)
  intro p q _ _ hpq hqp
  exact absurd (before_iff.mp hpq) (before_iff.mp hqp).asymm

end Path

end Scaffold
