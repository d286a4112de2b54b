import Mathlib.Data.List.Basic
import Mathlib.Tactic.Lemma
import Mathlib.Tactic.TypeStar
import Tacker.Basis.Table

/-!
# Places of a list

What stands at a place of a list is replaced or taken away: what is counted and what is in the list
afterwards.
-/

namespace Tacker.Basis

variable {α : Type*} {xs : List α} {i : Nat} {a b x : α} {p : α → Bool}

lemma lt_of_at (here : xs[i]? = some a) : i < xs.length :=
  (List.getElem?_eq_some_iff.mp here).1

/-- The new one is counted instead of the old one. -/
lemma countP_set_add (here : xs[i]? = some a) :
    (xs.set i b).countP p + (p a).toNat = xs.countP p + (p b).toNat := by
  induction xs generalizing i with
  | nil => cases here
  | cons x xs ih =>
    cases i with
    | zero =>
      obtain rfl : x = a := Option.some.inj here
      simp only [List.set_cons_zero, List.countP_cons]
      cases p x with
      | false => cases p b <;> simp
      | true => cases p b <;> simp
    | succ i =>
      have rest := ih (i := i) here
      simp only [List.set_cons_succ, List.countP_cons]
      omega

/-- The one that is taken away is not counted any more. -/
lemma countP_eraseIdx_add (here : xs[i]? = some a) :
    (xs.eraseIdx i).countP p + (p a).toNat = xs.countP p := by
  induction xs generalizing i with
  | nil => cases here
  | cons x xs ih =>
    cases i with
    | zero =>
      obtain rfl : x = a := Option.some.inj here
      simp only [List.eraseIdx_cons_zero, List.countP_cons]
      cases p x <;> simp
    | succ i =>
      have rest := ih (i := i) here
      simp only [List.eraseIdx_cons_succ, List.countP_cons]
      omega

/-- Only the old one can be missing afterwards. -/
lemma mem_set_of_mem (here : xs[i]? = some a) (mem : x ∈ xs) : x = a ∨ x ∈ xs.set i b := by
  obtain ⟨j, at'⟩ := List.mem_iff_getElem?.mp mem
  by_cases same : i = j
  · subst same
    exact .inl (Option.some.inj (at'.symm.trans here))
  · refine .inr (List.mem_iff_getElem?.mpr ⟨j, ?_⟩)
    rw [List.getElem?_set_ne same]
    exact at'

/-- Only the one that is taken away can be missing afterwards. -/
lemma mem_eraseIdx_of_mem (here : xs[i]? = some a) (mem : x ∈ xs) :
    x = a ∨ x ∈ xs.eraseIdx i := by
  obtain ⟨j, at'⟩ := List.mem_iff_getElem?.mp mem
  by_cases same : j = i
  · subst same
    exact .inl (Option.some.inj (at'.symm.trans here))
  · exact .inr (List.mem_eraseIdx_iff_getElem?.mpr ⟨j, same, at'⟩)

namespace Table

variable {κ ρ : Type*} {key : ρ → κ} [DecidableEq κ] {t : Table key} {r r' : ρ} {p : ρ → Bool}

lemma mem_put (mem : r' ∈ (t.put r).rows) : r' = r ∨ r' ∈ t.rows ∧ key r' ≠ key r := by
  have found : (t.put r).get (key r') = some r' := get_eq_some.mpr ⟨mem, rfl⟩
  rw [get_put] at found
  by_cases same : key r = key r'
  · rw [if_pos same] at found
    exact .inl (Option.some.inj found).symm
  · rw [if_neg same] at found
    exact .inr ⟨(get_eq_some.mp found).1, Ne.symm same⟩

lemma countP_replace_le {rows : List ρ} (nodup : (rows.map key).Nodup) :
    (rows.map fun x => if key x = key r then r else x).countP p ≤
      rows.countP p + (p r).toNat := by
  induction rows with
  | nil => simp
  | cons x rows ih =>
    obtain ⟨fresh, nodup⟩ := List.nodup_cons.mp nodup
    by_cases same : key x = key r
    · have others : (rows.map fun x => if key x = key r then r else x) = rows := by
        conv_rhs => rw [← List.map_id rows]
        apply List.map_congr_left
        intro y mem
        have ne : key y ≠ key r := fun eq => fresh (same ▸ eq ▸ List.mem_map_of_mem mem)
        rw [if_neg ne]
        rfl
      rw [List.map_cons, others, if_pos same, List.countP_cons, List.countP_cons]
      cases p r <;> simp
    · rw [List.map_cons, if_neg same, List.countP_cons, List.countP_cons]
      have rest := ih nodup
      omega

/-- A row that is put is counted at most once more. -/
lemma countP_put_le : (t.put r).rows.countP p ≤ t.rows.countP p + (p r).toNat := by
  unfold put
  split
  · case h_1 t' eq =>
    unfold insert at eq
    split at eq
    · cases eq
    · obtain rfl := Option.some.inj eq
      rw [List.countP_append, List.countP_singleton]
      cases p r <;> simp
  · exact countP_replace_le t.nodup

end Table

end Tacker.Basis
