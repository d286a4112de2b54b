import Mathlib.Tactic.Lemma
import Mathlib.Tactic.TypeStar
import Mathlib.Data.List.Basic

/-!
# Loops that an exception ends

A loop whose body changes a state and may raise: what it has changed before it raises stays. Two
rules: what a loop establishes whose turns all succeed, and that a loop raises when one of its turns
would, whatever the others have done.
-/

namespace Tacker.Basis

variable {α σ ε : Type*} {f : α → σ → σ × Option ε}

/-- `for x in xs: f(x)`. -/
def forEach (f : α → σ → σ × Option ε) : List α → σ → σ × Option ε
  | [], s => (s, none)
  | x :: xs, s =>
    match f x s with
    | (s', none) => forEach f xs s'
    | (s', some e) => (s', some e)

lemma forEach_cons_none {x : α} {xs : List α} {s s' : σ} (turn : f x s = (s', none)) :
    forEach f (x :: xs) s = forEach f xs s' := by
  rw [forEach, turn]

lemma forEach_cons_raised {x : α} {xs : List α} {s : σ} (raised : (f x s).2 ≠ none) :
    (forEach f (x :: xs) s).2 ≠ none := by
  rw [forEach]
  cases turn : f x s with
  | mk s' e =>
    cases e with
    | none => exact absurd (by rw [turn]) raised
    | some e => exact Option.some_ne_none e

/-- Turns that all succeed, one after the other. -/
theorem forEach_ok {I : List α → σ → Prop} (xs : List α)
    (turn : ∀ front, ∀ x ∈ xs, ∀ s, I front s → ∃ s', f x s = (s', none) ∧ I (front ++ [x]) s')
    (front : List α) (s : σ) (start : I front s) :
    ∃ s', forEach f xs s = (s', none) ∧ I (front ++ xs) s' := by
  induction xs generalizing front s with
  | nil =>
    refine ⟨s, rfl, ?_⟩
    rw [List.append_nil]
    exact start
  | cons x xs ih =>
    obtain ⟨s', ran, next⟩ := turn front x List.mem_cons_self s start
    obtain ⟨s'', rest, last⟩ := ih
      (fun front y mem => turn front y (List.mem_cons_of_mem x mem)) (front ++ [x]) s' next
    refine ⟨s'', ?_, ?_⟩
    · rw [forEach_cons_none ran]
      exact rest
    · rw [List.append_assoc] at last
      exact last

/-- A turn that raises in every state the loop can be in. -/
theorem forEach_raises {J : σ → Prop} (xs : List α) (keeps : ∀ x ∈ xs, ∀ s, J s → J (f x s).1)
    (some : ∃ x ∈ xs, ∀ s, J s → (f x s).2 ≠ none) (s : σ) (start : J s) :
    (forEach f xs s).2 ≠ none := by
  induction xs generalizing s with
  | nil =>
    obtain ⟨x, mem, -⟩ := some
    cases mem
  | cons x xs ih =>
    by_cases ran : (f x s).2 = none
    · have turn : f x s = ((f x s).1, none) := Prod.ext rfl ran
      rw [forEach_cons_none turn]
      obtain ⟨y, mem, raises⟩ := some
      rcases List.mem_cons.mp mem with rfl | mem
      · exact absurd ran (raises s start)
      · apply ih (fun y mem => keeps y (List.mem_cons_of_mem x mem)) ⟨y, mem, raises⟩
        exact keeps x List.mem_cons_self s start
    · exact forEach_cons_raised ran

/-! ## Loops that only add to an output -/

variable {β : Type*} {g : α → List β × Option ε}

/-- A turn that adds what it emits to an output, and may raise then. -/
def emits (g : α → List β × Option ε) (x : α) (out : List β) : List β × Option ε :=
  (out ++ (g x).1, (g x).2)

lemma forEach_emits (xs : List α) (out : List β) :
    forEach (emits g) xs out =
      (out ++ (forEach (emits g) xs []).1, (forEach (emits g) xs []).2) := by
  induction xs generalizing out with
  | nil => simp [forEach]
  | cons x xs ih =>
    rw [forEach, forEach, emits, emits]
    cases (g x).2 with
    | none =>
      simp only
      rw [ih (out ++ (g x).1), ih ([] ++ (g x).1)]
      simp
    | some e => simp

/-- The loop ends at the first turn that raises. -/
lemma forEach_emits_cons (x : α) (xs : List α) :
    forEach (emits g) (x :: xs) [] =
      if (g x).2.isSome then g x
      else ((g x).1 ++ (forEach (emits g) xs []).1, (forEach (emits g) xs []).2) := by
  rw [forEach, emits]
  cases turn : g x with
  | mk out raised =>
    cases raised with
    | none =>
      simp only [List.nil_append]
      rw [forEach_emits]
      simp
    | some e => simp

lemma forEach_emits_raised {xs : List α} :
    (forEach (emits g) xs []).2 = none ↔ ∀ x ∈ xs, (g x).2 = none := by
  induction xs with
  | nil => simp [forEach]
  | cons x xs ih =>
    rw [forEach_emits_cons, List.forall_mem_cons]
    cases raised : (g x).2 with
    | none => simpa using ih
    | some e => simp [raised]

/-- What the loop emits is the first part of what its turns would emit on their own; the rest is lost
unless there is none after a turn that raises. -/
lemma forEach_emits_lost (xs : List α) :
    ∃ lost, xs.flatMap (fun x => (g x).1) = (forEach (emits g) xs []).1 ++ lost ∧
      (lost = [] ↔ ∀ before x after, xs = before ++ x :: after → (g x).2 ≠ none →
        ∀ y ∈ after, (g y).1 = []) := by
  induction xs with
  | nil =>
    refine ⟨[], rfl, iff_of_true rfl ?_⟩
    intro before x after eq
    cases before <;> cases eq
  | cons x xs ih =>
    rw [forEach_emits_cons, List.flatMap_cons]
    cases raised : (g x).2 with
    | none =>
      obtain ⟨lost, eq, silent⟩ := ih
      refine ⟨lost, by simp [eq], silent.trans ?_⟩
      constructor
      · intro later before y after split yRaised
        cases before with
        | nil =>
          obtain ⟨rfl, -⟩ := List.cons_eq_cons.mp split
          exact absurd raised yRaised
        | cons z before =>
          obtain ⟨-, split⟩ := List.cons_eq_cons.mp split
          exact later before y after split yRaised
      · intro later before y after split
        apply later (x :: before) y after
        rw [split]
        rfl
    | some e =>
      refine ⟨xs.flatMap fun y => (g y).1, by simp, ?_⟩
      rw [List.flatMap_eq_nil_iff]
      constructor
      · intro silent before y after split _ z mem
        apply silent
        cases before with
        | nil =>
          obtain ⟨-, rfl⟩ := List.cons_eq_cons.mp split
          exact mem
        | cons w before =>
          obtain ⟨-, rfl⟩ := List.cons_eq_cons.mp split
          exact List.mem_append_right _ (List.mem_cons_of_mem _ mem)
      · intro later
        exact later [] x xs rfl (by rw [raised]; exact Option.some_ne_none e)

end Tacker.Basis
