import Mathlib.Data.List.TakeWhile

/-!
# Loops that stop too early

A loop that leaves at the first element which does not qualify takes the leading elements only;
here is when that makes no difference to a loop that passes such elements over.
-/

namespace Tacker.Basis

variable {α : Type*} {p : α → Bool} {as : List α}

/-- The elements that qualify are leading: none of them stands after one that does not. -/
def Leading (p : α → Bool) (as : List α) : Prop :=
  as.Pairwise fun a b => p b = true → p a = true

instance : Decidable (Leading p as) :=
  inferInstanceAs (Decidable (as.Pairwise _))

/-- The leading elements are among those that qualify. -/
lemma takeWhile_sublist_filter (p : α → Bool) (as : List α) :
    (as.takeWhile p).Sublist (as.filter p) := by
  induction as with
  | nil => exact .slnil
  | cons a as ih =>
    cases holds : p a with
    | true =>
      rw [List.takeWhile_cons_of_pos holds, List.filter_cons_of_pos holds]
      exact ih.cons_cons a
    | false =>
      rw [List.takeWhile_cons_of_neg (Bool.eq_false_iff.mp holds)]
      exact List.nil_sublist _

/-- Leaving and passing over come to the same if and only if the elements that qualify are
leading. -/
lemma takeWhile_eq_filter_iff : as.takeWhile p = as.filter p ↔ Leading p as := by
  induction as with
  | nil => exact ⟨fun _ => List.Pairwise.nil, fun _ => rfl⟩
  | cons a as ih =>
    rw [Leading, List.pairwise_cons]
    cases holds : p a with
    | true =>
      rw [List.takeWhile_cons_of_pos holds, List.filter_cons_of_pos holds, List.cons_inj_right, ih]
      exact ⟨fun leading => ⟨fun _ _ _ => rfl, leading⟩, And.right⟩
    | false =>
      rw [List.takeWhile_cons_of_neg (Bool.eq_false_iff.mp holds),
        List.filter_cons_of_neg (Bool.eq_false_iff.mp holds), eq_comm, List.filter_eq_nil_iff]
      apply Iff.intro
      · intro none
        refine ⟨fun b mem qualifies => absurd qualifies (none b mem), ?_⟩
        exact List.pairwise_of_forall_mem_list fun b _ c mem qualifies =>
          absurd qualifies (none c mem)
      · rintro ⟨before, _⟩ b mem qualifies
        exact Bool.false_ne_true (before b mem qualifies)

/-- It shows in the number of elements. -/
lemma length_takeWhile_le (p : α → Bool) (as : List α) :
    (as.takeWhile p).length ≤ (as.filter p).length :=
  (takeWhile_sublist_filter p as).length_le

lemma leading_of_length_le (le : (as.filter p).length ≤ (as.takeWhile p).length) :
    Leading p as :=
  takeWhile_eq_filter_iff.mp ((takeWhile_sublist_filter p as).eq_of_length_le le)

end Tacker.Basis
