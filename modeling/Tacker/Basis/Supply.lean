import Mathlib.Tactic.Lemma
import Mathlib.Tactic.TypeStar
import Mathlib.Data.List.Nodup

/-!
# Drawn numbers

Computations that draw numbers from a counter, as those do that generate identifiers of which no two
are the same. What is drawn lies between the values of the counter before and after, so that what is
drawn by different parts differs.
-/

namespace Tacker.Basis

variable {α β : Type}

/-- What is made with the counter, and the counter after it. -/
abbrev Supply (α : Type) : Type := Nat → α × Nat

/-- One thing after the other. -/
def Supply.traverse (f : α → Supply β) : List α → Supply (List β)
  | [], n => ([], n)
  | a :: as, n => ((f a n).1 :: (traverse f as (f a n).2).1, (traverse f as (f a n).2).2)

/-- What is made does not depend on the counter in this respect. -/
lemma Supply.traverse_map {f : α → Supply β} {γ : Type} (g : β → γ) (h : α → γ)
    (same : ∀ a n, g (f a n).1 = h a) (as : List α) (n : Nat) :
    (Supply.traverse f as n).1.map g = as.map h := by
  induction as generalizing n with
  | nil => rfl
  | cons a as ih =>
    show g (f a n).1 :: List.map g _ = h a :: List.map h as
    rw [same, ih]

/-- Numbers that were drawn while the counter went from one value to another. -/
structure Fresh (ids : List Nat) (n n' : Nat) : Prop where
  le : n ≤ n'
  nodup : ids.Nodup
  between {k : Nat} (mem : k ∈ ids) : n ≤ k ∧ k < n'

namespace Fresh

variable {ids ids' : List Nat} {n n' n'' : Nat}

lemma nil (n : Nat) : Fresh [] n n where
  le := Nat.le_refl n
  nodup := List.nodup_nil
  between mem := by cases mem

/-- The next number. -/
lemma draw (n : Nat) : Fresh [n] n (n + 1) where
  le := Nat.le_succ n
  nodup := List.nodup_singleton n
  between mem := by
    rw [List.mem_singleton.mp mem]
    exact ⟨Nat.le_refl n, Nat.lt_succ_self n⟩

/-- A number is drawn for something else first. -/
lemma skip (later : Fresh ids (n + 1) n') : Fresh ids n n' where
  le := Nat.le_trans (Nat.le_succ n) later.le
  nodup := later.nodup
  between mem := ⟨Nat.le_trans (Nat.le_succ n) (later.between mem).1, (later.between mem).2⟩

/-- What is drawn later differs from what was drawn before. -/
lemma append (first : Fresh ids n n') (second : Fresh ids' n' n'') : Fresh (ids ++ ids') n n'' where
  le := Nat.le_trans first.le second.le
  nodup := by
    rw [List.nodup_append]
    refine ⟨first.nodup, second.nodup, fun k mem k' mem' eq => ?_⟩
    have below := (first.between mem).2
    have above := (second.between mem').1
    omega
  between mem := by
    rcases List.mem_append.mp mem with mem | mem
    · exact ⟨(first.between mem).1, Nat.lt_of_lt_of_le (first.between mem).2 second.le⟩
    · exact ⟨Nat.le_trans first.le (second.between mem).1, (second.between mem).2⟩

/-- Each of many things draws its own. -/
lemma traverse {f : α → Supply β} (drawn : β → List Nat)
    (each : ∀ a n, Fresh (drawn (f a n).1) n (f a n).2) (as : List α) (n : Nat) :
    Fresh ((Supply.traverse f as n).1.flatMap drawn) n (Supply.traverse f as n).2 := by
  induction as generalizing n with
  | nil => exact nil n
  | cons a as ih => exact (each a n).append (ih (f a n).2)

end Fresh

end Tacker.Basis
