import Mathlib.Data.List.Nodup
import Mathlib.Data.List.Perm.Basic
import Mathlib.Logic.Function.Basic
import Mathlib.Tactic.Lemma
import Mathlib.Tactic.TypeStar

/-!
# Items on their way

Several threads take items and settle them later. An item that was taken is either settled or held
by exactly one thread, so that all of them are settled once no thread holds one.
-/

namespace Tacker.Basis

variable {ι α : Type*}

/-- Each of the taken items is settled or held, and no item is there twice. -/
structure InFlight (taken settled : List α) (held : ι → Option α) : Prop where
  nodup_taken : taken.Nodup
  nodup_settled : settled.Nodup
  mem_taken : ∀ a, a ∈ taken ↔ a ∈ settled ∨ ∃ i, held i = some a
  apart : ∀ i a, held i = some a → a ∉ settled
  single : ∀ i j a, held i = some a → held j = some a → i = j

namespace InFlight

variable {taken settled : List α} {held : ι → Option α} {i : ι} {a : α}

/-- Nothing is taken yet. -/
lemma none : InFlight ([] : List α) [] (fun _ : ι => none) where
  nodup_taken := List.nodup_nil
  nodup_settled := List.nodup_nil
  mem_taken a := by simp
  apart i a eq := by cases eq
  single i j a eq := by cases eq

variable [DecidableEq ι]

/-- A thread that holds nothing takes a new item. -/
lemma take (ok : InFlight taken settled held) (free : held i = Option.none) (fresh : a ∉ taken) :
    InFlight (taken ++ [a]) settled (Function.update held i (some a)) where
  nodup_taken := List.nodup_append.mpr ⟨ok.nodup_taken, List.nodup_singleton a, by
    rintro b mem c mem' rfl
    obtain rfl := List.mem_singleton.mp mem'
    exact fresh mem⟩
  nodup_settled := ok.nodup_settled
  mem_taken b := by
    rw [List.mem_append, List.mem_singleton, ok.mem_taken]
    constructor
    · rintro ((mem | ⟨j, eq⟩) | rfl)
      · exact .inl mem
      · have ne : j ≠ i := fun same => by simp [same, free] at eq
        exact .inr ⟨j, by rw [Function.update_of_ne ne, eq]⟩
      · exact .inr ⟨i, Function.update_self i _ held⟩
    · rintro (mem | ⟨j, eq⟩)
      · exact .inl (.inl mem)
      · by_cases same : j = i
        · rw [same, Function.update_self] at eq
          exact .inr (Option.some.inj eq).symm
        · rw [Function.update_of_ne same] at eq
          exact .inl (.inr ⟨j, eq⟩)
  apart j b eq := by
    by_cases same : j = i
    · rw [same, Function.update_self] at eq
      obtain rfl := Option.some.inj eq
      exact fun mem => fresh ((ok.mem_taken a).mpr (.inl mem))
    · rw [Function.update_of_ne same] at eq
      exact ok.apart j b eq
  single j k b eq eq' := by
    have new : ∀ l, l ≠ i → held l = some a → False :=
      fun l _ holds => fresh ((ok.mem_taken a).mpr (.inr ⟨l, holds⟩))
    by_cases same : j = i
    · by_cases same' : k = i
      · exact same.trans same'.symm
      · rw [same, Function.update_self] at eq
        rw [Function.update_of_ne same', ← eq] at eq'
        exact (new k same' eq').elim
    · rw [Function.update_of_ne same] at eq
      by_cases same' : k = i
      · rw [same', Function.update_self, ← eq] at eq'
        exact (new j same eq'.symm).elim
      · rw [Function.update_of_ne same'] at eq'
        exact ok.single j k b eq eq'

/-- A thread settles the item that it holds. -/
lemma settle (ok : InFlight taken settled held) (holds : held i = some a) :
    InFlight taken (settled ++ [a]) (Function.update held i Option.none) where
  nodup_taken := ok.nodup_taken
  nodup_settled := List.nodup_append.mpr ⟨ok.nodup_settled, List.nodup_singleton a, by
    rintro b mem c mem' rfl
    obtain rfl := List.mem_singleton.mp mem'
    exact ok.apart i b holds mem⟩
  mem_taken b := by
    rw [ok.mem_taken, List.mem_append, List.mem_singleton]
    constructor
    · rintro (mem | ⟨j, eq⟩)
      · exact .inl (.inl mem)
      · by_cases same : j = i
        · rw [same, holds] at eq
          exact .inl (.inr (Option.some.inj eq).symm)
        · exact .inr ⟨j, by rw [Function.update_of_ne same, eq]⟩
    · rintro ((mem | rfl) | ⟨j, eq⟩)
      · exact .inl mem
      · exact .inr ⟨i, holds⟩
      · have ne : j ≠ i := fun same => by rw [same, Function.update_self] at eq; cases eq
        exact .inr ⟨j, by rwa [Function.update_of_ne ne] at eq⟩
  apart j b eq := by
    have ne : j ≠ i := fun same => by rw [same, Function.update_self] at eq; cases eq
    rw [Function.update_of_ne ne] at eq
    rw [List.mem_append, List.mem_singleton]
    rintro (mem | rfl)
    · exact ok.apart j b eq mem
    · exact ne (ok.single j i b eq holds)
  single j k b eq eq' := by
    have ne : j ≠ i := fun same => by rw [same, Function.update_self] at eq; cases eq
    have ne' : k ≠ i := fun same => by rw [same, Function.update_self] at eq'; cases eq'
    rw [Function.update_of_ne ne] at eq
    rw [Function.update_of_ne ne'] at eq'
    exact ok.single j k b eq eq'

omit [DecidableEq ι] in
/-- No thread holds an item: all of them are settled. -/
lemma settled_perm (ok : InFlight taken settled held) (free : ∀ i, held i = Option.none) :
    settled.Perm taken := by
  apply (List.perm_ext_iff_of_nodup ok.nodup_settled ok.nodup_taken).mpr
  intro a
  rw [ok.mem_taken]
  simp [free]

end InFlight

end Tacker.Basis
