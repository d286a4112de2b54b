import Mathlib.Tactic.Lemma
import Mathlib.Tactic.TypeStar

/-!
# Greedy shift-reduce parsing

A parser that shifts one token after the other onto a stack, and after each of them reduces the top
of the stack as long as it can. An item of the stack stands for a segment of the tokens; where every
reduction respects that, the stack stands for all the tokens that were shifted.
-/

namespace Tacker.Basis

/-- What is done at the top of a stack, with the top as the first item. Each reduction leaves fewer
items. -/
structure Reducer (σ : Type*) where
  step : List σ → Option (List σ)
  shorter : ∀ {stack stack' : List σ}, step stack = some stack' → stack'.length < stack.length

namespace Reducer

variable {σ : Type*} (r : Reducer σ) {item : σ} {stack stack' tokens tokens' before : List σ}
  {n m : Nat}

/-! ## The parser -/

/-- At most so many reductions. -/
def reduceWith : Nat → List σ → List σ
  | 0, stack => stack
  | n + 1, stack =>
    match r.step stack with
    | some stack' => reduceWith n stack'
    | none => stack

/-- Reductions as long as there is one. -/
def reduce (stack : List σ) : List σ :=
  r.reduceWith stack.length stack

/-- A token on top of the stack, and all the reductions there are then. -/
def shift (stack : List σ) (token : σ) : List σ :=
  r.reduce (token :: stack)

/-- The stack after a sequence of tokens. -/
def run (stack tokens : List σ) : List σ :=
  tokens.foldl r.shift stack

/-! ## Reductions come to an end -/

lemma reduceWith_enough (enough : stack.length ≤ n) (enough' : stack.length ≤ m) :
    r.reduceWith n stack = r.reduceWith m stack := by
  induction n generalizing stack m with
  | zero =>
    obtain rfl : stack = [] := List.eq_nil_of_length_eq_zero (Nat.le_zero.mp enough)
    cases m with
    | zero => rfl
    | succ m =>
      rw [reduceWith, reduceWith]
      cases step : r.step [] with
      | none => rfl
      | some stack' => exact absurd (r.shorter step) (Nat.not_lt_zero _)
  | succ n ih =>
    cases m with
    | zero =>
      obtain rfl : stack = [] := List.eq_nil_of_length_eq_zero (Nat.le_zero.mp enough')
      rw [reduceWith, reduceWith]
      cases step : r.step [] with
      | none => rfl
      | some stack' => exact absurd (r.shorter step) (Nat.not_lt_zero _)
    | succ m =>
      rw [reduceWith, reduceWith]
      cases step : r.step stack with
      | none => rfl
      | some stack' =>
        have shorter := r.shorter step
        exact ih (by omega) (by omega)

/-- A reduction is followed by all the reductions there are then. -/
lemma reduce_of_some (step : r.step stack = some stack') : r.reduce stack = r.reduce stack' := by
  have shorter := r.shorter step
  rw [reduce, reduce]
  cases len : stack.length with
  | zero => omega
  | succ n =>
    rw [reduceWith, step]
    exact r.reduceWith_enough (by omega) (Nat.le_refl _)

/-- Without a reduction the stack stays as it is. -/
lemma reduce_of_none (step : r.step stack = none) : r.reduce stack = stack := by
  rw [reduce]
  cases stack.length with
  | zero => rfl
  | succ n => rw [reduceWith, step]

/-- After all the reductions there is none left. -/
lemma step_reduce (stack : List σ) : r.step (r.reduce stack) = none := by
  cases step : r.step stack with
  | none => rw [r.reduce_of_none step, step]
  | some stack' =>
    have shorter := r.shorter step
    rw [r.reduce_of_some step]
    exact step_reduce stack'
termination_by stack.length

/-! ## Sequences of tokens -/

@[simp] lemma run_nil : r.run stack [] = stack := rfl

lemma run_cons : r.run stack (item :: tokens) = r.run (r.shift stack item) tokens := rfl

lemma run_append : r.run stack (tokens ++ tokens') = r.run (r.run stack tokens) tokens' :=
  List.foldl_append

/-! ## What the stack stands for -/

/-- The items of the stack stand for one segment each, and together for all the tokens. -/
inductive Covers (Stands : σ → List σ → Prop) : List σ → List σ → Prop where
  | nil : Covers Stands [] []
  | cons {item : σ} {segment stack tokens : List σ} (stands : Stands item segment)
    (below : Covers Stands stack tokens) : Covers Stands (item :: stack) (tokens ++ segment)

variable {Stands : σ → List σ → Prop}

lemma Covers.singleton : Covers Stands [item] tokens ↔ Stands item tokens := by
  constructor
  · intro covers
    cases covers with
    | cons stands below =>
      cases below
      exact stands
  · exact fun stands => .cons stands .nil

/-- Every reduction leaves what the stack stands for as it is. -/
def Respects (Stands : σ → List σ → Prop) : Prop :=
  ∀ {stack stack' tokens : List σ}, r.step stack = some stack' → Covers Stands stack tokens →
    Covers Stands stack' tokens

variable {r}

lemma Respects.reduceWith (respects : r.Respects Stands) (covers : Covers Stands stack tokens) :
    Covers Stands (r.reduceWith n stack) tokens := by
  induction n generalizing stack with
  | zero => exact covers
  | succ n ih =>
    rw [Reducer.reduceWith]
    cases step : r.step stack with
    | none => exact covers
    | some stack' => exact ih (respects step covers)

/-- If a token stands for itself, the stack stands for the tokens that were shifted. -/
theorem Respects.run (respects : r.Respects Stands) (self : ∀ token, Stands token [token])
    (covers : Covers Stands stack before) :
    Covers Stands (r.run stack tokens) (before ++ tokens) := by
  induction tokens generalizing stack before with
  | nil =>
    rw [List.append_nil]
    exact covers
  | cons token tokens ih =>
    have shifted : Covers Stands (r.shift stack token) (before ++ [token]) :=
      respects.reduceWith (.cons (self token) covers)
    have all := ih shifted
    rwa [List.append_assoc, List.singleton_append] at all

end Reducer

end Tacker.Basis
