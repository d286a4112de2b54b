import Mathlib.Data.Fintype.Basic
import Mathlib.Tactic.Lemma

/-!
# Families of optional values

A family of optional values is an optional family of values: it is there if every one of its members
is. A position of a key in a family of keys is the first index that has it.
-/

namespace Tacker.Basis

universe u

variable {n : Nat} {β γ : Fin n → Type u}

/-- All the values, if every one of them is there. -/
def sequence (f : ∀ i, Option (β i)) : Option (∀ i, β i) :=
  if all : ∀ i, (f i).isSome = true then some fun i => (f i).get (all i) else none

lemma sequence_eq_some {f : ∀ i, Option (β i)} {g : ∀ i, β i} :
    sequence f = some g ↔ ∀ i, f i = some (g i) := by
  unfold sequence
  by_cases all : ∀ i, (f i).isSome = true
  · rw [dif_pos all, Option.some.injEq]
    constructor
    · intro eq i
      rw [← eq, Option.some_get]
    · intro each
      funext i
      apply Option.some.inj
      rw [Option.some_get, each i]
  · rw [dif_neg all]
    constructor
    · intro eq
      cases eq
    · intro each
      exact absurd (fun i => by rw [each i]; rfl) all

lemma sequence_some (g : ∀ i, β i) : sequence (fun i => some (g i)) = some g :=
  sequence_eq_some.mpr fun _ => rfl

lemma sequence_isSome {f : ∀ i, Option (β i)} :
    (sequence f).isSome = true ↔ ∀ i, (f i).isSome = true := by
  unfold sequence
  by_cases all : ∀ i, (f i).isSome = true
  · rw [dif_pos all]
    exact ⟨fun _ => all, fun _ => rfl⟩
  · rw [dif_neg all]
    exact ⟨fun isSome => (by cases isSome), fun each => absurd each all⟩

/-- A family that is made of the members of another is there if all the steps are. -/
lemma sequence_bind (f : ∀ i, Option (β i)) (g : ∀ i, β i → Option (γ i)) :
    (sequence f).bind (fun v => sequence fun i => g i (v i)) =
      sequence fun i => (f i).bind (g i) := by
  cases made : sequence f with
  | some v =>
    have each : (fun i => (f i).bind (g i)) = fun i => g i (v i) := by
      funext i
      rw [sequence_eq_some.mp made i]
      rfl
    rw [each]
    rfl
  | none =>
    cases both : sequence fun i => (f i).bind (g i) with
    | none => rfl
    | some w =>
      have all : (sequence f).isSome = true := by
        rw [sequence_isSome]
        intro i
        obtain ⟨value, first, _⟩ := Option.bind_eq_some_iff.mp (sequence_eq_some.mp both i)
        rw [first]
        rfl
      rw [made] at all
      cases all

lemma sequence_map (f : ∀ i, Option (β i)) (g : ∀ i, β i → γ i) :
    (sequence fun i => (f i).map (g i)) = (sequence f).map fun v i => g i (v i) := by
  have steps : (fun i => (f i).map (g i)) = fun i => (f i).bind fun v => some (g i v) :=
    funext fun i => Option.map_eq_bind
  rw [steps, ← sequence_bind f fun i v => some (g i v), Option.map_eq_bind]
  apply congrArg
  funext v
  exact sequence_some fun i => g i (v i)

/-! ## Positions -/

/-- The first index that has the key. -/
def position (name : Fin n → String) (key : String) : Option (Fin n) :=
  (List.finRange n).find? fun i => name i = key

lemma position_name {name : Fin n → String} (inj : Function.Injective name) (i : Fin n) :
    position name (name i) = some i := by
  unfold position
  cases found : (List.finRange n).find? fun j => name j = name i with
  | none =>
    have notIt := List.find?_eq_none.mp found i (List.mem_finRange i)
    exact absurd (decide_eq_true rfl) notIt
  | some j =>
    have isIt := List.find?_some found
    rw [inj (of_decide_eq_true isIt)]

lemma name_of_position {name : Fin n → String} {key : String} {i : Fin n}
    (found : position name key = some i) : name i = key := by
  have isIt := List.find?_some found
  exact of_decide_eq_true isIt

end Tacker.Basis
