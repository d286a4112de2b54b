import Mathlib.Algebra.BigOperators.Group.Finset.Basic
import Mathlib.Algebra.Order.BigOperators.Group.Finset

/-!
# Tallies of parties

The sum of what each of finitely many parties counts for, when one of them moves.
-/

namespace Tacker.Basis

variable {ι α : Type*} [DecidableEq ι] {parties : Finset ι} {i j : ι}

/-- When one party moves, the tally loses what it counted for and gains what it counts for then. -/
lemma tally_update (mem : i ∈ parties) (f : ι → α) (a : α) (count : α → ℕ) :
    (∑ x ∈ parties, count (Function.update f i a x)) + count (f i) =
      (∑ x ∈ parties, count (f x)) + count a := by
  rw [← Finset.add_sum_erase parties _ mem,
    ← Finset.add_sum_erase parties (fun x => count (f x)) mem, Function.update_self]
  have others : ∑ x ∈ parties.erase i, count (Function.update f i a x) =
      ∑ x ∈ parties.erase i, count (f x) := by
    apply Finset.sum_congr rfl
    intro x rest
    rw [Function.update_of_ne (Finset.ne_of_mem_erase rest)]
  rw [others]
  omega

/-- A tally is at least what two different parties count for. -/
lemma add_le_tally (mem : i ∈ parties) (mem' : j ∈ parties) (ne : i ≠ j) (count : ι → ℕ) :
    count i + count j ≤ ∑ x ∈ parties, count x := by
  rw [← Finset.add_sum_erase parties _ mem]
  apply Nat.add_le_add_left
  exact Finset.single_le_sum (fun x _ => Nat.zero_le (count x)) (Finset.mem_erase.mpr ⟨ne.symm, mem'⟩)

end Tacker.Basis
