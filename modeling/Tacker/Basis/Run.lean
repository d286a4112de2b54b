import Mathlib.Tactic.Lemma
import Mathlib.Tactic.TypeStar

/-!
# Runs of a labelled transition system

A run records, for each step, the state the step was taken in and its label. Histories are read
from that trace, and an assumption on how a system is used is a guard: a predicate on the pairs
of a trace. Runs grow at the end, so that an induction on a run is an induction on the last step.
-/

namespace Tacker.Basis

variable {σ ε : Type*}

/-- `Run Step s tr u`: steps labelled as in `tr` lead from `s` to `u`. -/
inductive Run (Step : σ → ε → σ → Prop) (s : σ) : List (σ × ε) → σ → Prop where
  | nil : Run Step s [] s
  | snoc {tr t e u} : Run Step s tr t → Step t e u → Run Step s (tr ++ [(t, e)]) u

/-- Every pair of the trace meets the guard. -/
def Guarded (Guard : σ × ε → Prop) (tr : List (σ × ε)) : Prop :=
  ∀ p ∈ tr, Guard p

instance {Guard : σ × ε → Prop} [DecidablePred Guard] {tr : List (σ × ε)} :
    Decidable (Guarded Guard tr) :=
  inferInstanceAs (Decidable (∀ p ∈ tr, Guard p))

variable {Step : σ → ε → σ → Prop} {Guard Guard' : σ × ε → Prop} {s t u : σ} {e : ε}
  {tr tr₁ tr₂ : List (σ × ε)}

/-! ## Guards -/

@[simp] lemma Guarded.nil : Guarded Guard [] := by simp [Guarded]

@[simp] lemma Guarded.append :
    Guarded Guard (tr₁ ++ tr₂) ↔ Guarded Guard tr₁ ∧ Guarded Guard tr₂ := by
  simp only [Guarded, List.mem_append, or_imp, forall_and]

@[simp] lemma Guarded.singleton : Guarded Guard [(s, e)] ↔ Guard (s, e) := by simp [Guarded]

lemma Guarded.mono (gd : Guarded Guard tr) (imp : ∀ p, Guard p → Guard' p) : Guarded Guard' tr :=
  fun p mem => imp p (gd p mem)

/-! ## Composition -/

namespace Run

lemma single (st : Step s e t) : Run Step s [(s, e)] t :=
  snoc nil st

lemma trans (r₁ : Run Step s tr₁ t) (r₂ : Run Step t tr₂ u) : Run Step s (tr₁ ++ tr₂) u := by
  induction r₂ with
  | nil => simpa using r₁
  | snoc _ st ih => rw [← List.append_assoc]; exact snoc ih st

lemma cons (st : Step s e t) (r : Run Step t tr u) : Run Step s ((s, e) :: tr) u :=
  (single st).trans r

/-- A run can be cut wherever its trace can. -/
lemma split (r : Run Step s (tr₁ ++ tr₂) u) : ∃ t, Run Step s tr₁ t ∧ Run Step t tr₂ u := by
  generalize eq : tr₁ ++ tr₂ = tr at r
  induction r generalizing tr₂ with
  | nil =>
    obtain ⟨rfl, rfl⟩ := List.append_eq_nil_iff.mp eq
    exact ⟨s, nil, nil⟩
  | @snoc tr' t e u r st ih =>
    rcases List.eq_nil_or_concat tr₂ with rfl | ⟨init, last, rfl⟩
    · rw [List.append_nil] at eq
      exact ⟨u, eq ▸ snoc r st, nil⟩
    · rw [List.concat_eq_append, ← List.append_assoc] at eq
      obtain ⟨eq₁, eq₂⟩ := List.append_inj' eq rfl
      obtain ⟨m, r₁, r₂⟩ := ih eq₁
      obtain rfl := List.singleton_inj.mp eq₂
      exact ⟨m, r₁, by simpa using snoc r₂ st⟩

/-! ## Invariants -/

/-- What holds at first and is kept by every guarded step holds after every guarded run. -/
theorem invariant {Inv : σ → Prop}
    (keep : ∀ {t e u}, Guard (t, e) → Step t e u → Inv t → Inv u)
    (r : Run Step s tr u) (gd : Guarded Guard tr) (init : Inv s) : Inv u := by
  induction r with
  | nil => exact init
  | snoc _ st ih =>
    obtain ⟨gd, last⟩ := Guarded.append.mp gd
    exact keep (Guarded.singleton.mp last) st (ih gd)

/-- The rule without a guard. -/
theorem invariant' {Inv : σ → Prop} (keep : ∀ {t e u}, Step t e u → Inv t → Inv u)
    (r : Run Step s tr u) (init : Inv s) : Inv u := by
  induction r with
  | nil => exact init
  | snoc _ st ih => exact keep st ih

/-- The rule for an invariant that also speaks of the steps taken so far. -/
theorem invariant_hist {Inv : List (σ × ε) → σ → Prop}
    (keep : ∀ {tr t e u}, Run Step s tr t → Guarded Guard tr → Guard (t, e) → Step t e u →
      Inv tr t → Inv (tr ++ [(t, e)]) u)
    (r : Run Step s tr u) (gd : Guarded Guard tr) (init : Inv [] s) : Inv tr u := by
  induction r with
  | nil => exact init
  | snoc r st ih =>
    obtain ⟨gd, last⟩ := Guarded.append.mp gd
    exact keep r gd (Guarded.singleton.mp last) st (ih gd)

/-- The pair at a place of a trace is a step, taken in the state that the steps before it reach. -/
lemma at_place {p : σ × ε} (r : Run Step s (tr₁ ++ p :: tr₂) u) :
    Run Step s tr₁ p.1 ∧ ∃ t, Step p.1 p.2 t := by
  generalize eq : tr₁ ++ p :: tr₂ = tr at r
  induction r generalizing tr₂ with
  | nil => simp at eq
  | @snoc tr' m e u r st ih =>
    rcases List.eq_nil_or_concat tr₂ with rfl | ⟨init, last, rfl⟩
    · obtain ⟨rfl, eq'⟩ := List.append_inj' eq rfl
      obtain rfl := List.singleton_inj.mp eq'
      exact ⟨r, u, st⟩
    · rw [List.concat_eq_append, ← List.cons_append, ← List.append_assoc] at eq
      exact ih (List.append_inj' eq rfl).1

/-- Each pair of a trace is a step, taken in a state that the run reached. -/
lemma mem_step {p : σ × ε} (r : Run Step s tr u) (mem : p ∈ tr) :
    ∃ tr₁ tr₂ t, tr = tr₁ ++ p :: tr₂ ∧ Run Step s tr₁ p.1 ∧ Step p.1 p.2 t := by
  induction r with
  | nil => cases mem
  | @snoc tr' m e u r st ih =>
    rcases List.mem_append.mp mem with mem | mem
    · obtain ⟨tr₁, tr₂, t, eq, r₁, st₁⟩ := ih mem
      exact ⟨tr₁, tr₂ ++ [(m, e)], t, by simp [eq], r₁, st₁⟩
    · obtain rfl := List.mem_singleton.mp mem
      exact ⟨tr', [], u, rfl, r, st⟩

end Run

/-! ## Replaying the labels of a run

Where the step is a partial function, a run is replayed from its labels alone. -/

/-- The step relation of a partial step function. -/
def StepOf (next : σ → ε → Option σ) (s : σ) (e : ε) (t : σ) : Prop :=
  next s e = some t

/-- The trace and the last state of the run whose labels are given, if every label can be taken. -/
def replay (next : σ → ε → Option σ) : σ → List ε → Option (List (σ × ε) × σ)
  | s, [] => some ([], s)
  | s, e :: es => (next s e).bind fun t => (replay next t es).map fun r => ((s, e) :: r.1, r.2)

variable {next : σ → ε → Option σ}

lemma replay_run {es : List ε} {r : List (σ × ε) × σ} (eq : replay next s es = some r) :
    Run (StepOf next) s r.1 r.2 := by
  induction es generalizing s r with
  | nil =>
    cases eq
    exact .nil
  | cons e es ih =>
    obtain ⟨t, st, rest⟩ := Option.bind_eq_some_iff.mp eq
    obtain ⟨r', eq', rfl⟩ := Option.map_eq_some_iff.mp rest
    exact .cons st (ih eq')

/-- A decidable property of a replayed run is a property of some run. -/
theorem Run.of_replay (next : σ → ε → Option σ) (s : σ) (es : List ε)
    (P : List (σ × ε) → σ → Prop) [∀ tr u, Decidable (P tr u)]
    (ok : (replay next s es).any (fun r => decide (P r.1 r.2)) = true) :
    ∃ tr u, Run (StepOf next) s tr u ∧ P tr u := by
  cases eq : replay next s es with
  | none => simp [eq] at ok
  | some r =>
    rw [eq, Option.any_some] at ok
    exact ⟨r.1, r.2, replay_run eq, of_decide_eq_true ok⟩

end Tacker.Basis
