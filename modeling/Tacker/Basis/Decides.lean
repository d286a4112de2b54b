import Mathlib.Tactic.Lemma
import Mathlib.Tactic.TypeStar
import Mathlib.Data.List.Basic

/-!
# Tests that may raise

A test of a fallible language answers, or gets stuck on something it cannot read. `Decides` says
both at once: when the test is stuck, and what it tells otherwise. The rules follow the statements
such tests are made of: an early `return False`, a loop that ends at the first hit, and a loop that
collects what passes.
-/

namespace Tacker.Basis

variable {ε : Type*} {α : Type}

/-- The test raises if it is stuck; otherwise it tells whether the condition holds. -/
structure Decides (test : Except ε Bool) (stuck holds : Prop) : Prop where
  raises : stuck → ∃ e, test = .error e
  answers : ¬ stuck → ∃ b, test = .ok b ∧ (b = true ↔ holds)

/-- The loop reaches the element: none before it ends the loop. -/
def Reaches (ends : α → Prop) (xs : List α) (x : α) : Prop :=
  ∃ front back, xs = front ++ x :: back ∧ ∀ y ∈ front, ¬ ends y

lemma Reaches.mem {ends : α → Prop} {xs : List α} {x : α} (reaches : Reaches ends xs x) :
    x ∈ xs := by
  obtain ⟨front, back, rfl, -⟩ := reaches
  exact List.mem_append_right front List.mem_cons_self

lemma not_reaches_nil {ends : α → Prop} {x : α} : ¬ Reaches ends [] x := by
  rintro ⟨front, back, eq, -⟩
  cases front <;> cases eq

/-- The loop reaches its first element, and what it reaches later if that does not end it. -/
lemma reaches_cons {ends : α → Prop} {a x : α} {xs : List α} :
    Reaches ends (a :: xs) x ↔ x = a ∨ ¬ ends a ∧ Reaches ends xs x := by
  constructor
  · rintro ⟨front, back, eq, none⟩
    cases front with
    | nil =>
      obtain ⟨rfl, -⟩ := List.cons.inj eq
      exact Or.inl rfl
    | cons b front =>
      obtain ⟨rfl, rfl⟩ := List.cons.inj eq
      refine Or.inr ⟨none a List.mem_cons_self, front, back, rfl, fun y mem => ?_⟩
      exact none y (List.mem_cons_of_mem a mem)
  · rintro (rfl | ⟨goes, front, back, rfl, none⟩)
    · exact ⟨[], xs, rfl, fun y mem => by cases mem⟩
    · refine ⟨a :: front, back, rfl, fun y mem => ?_⟩
      rcases List.mem_cons.mp mem with rfl | mem
      · exact goes
      · exact none y mem

namespace Decides

variable {test next : Except ε Bool} {stuck stuck' holds holds' : Prop}

/-- A comparison of what is there. -/
lemma pure {b : Bool} (iff : b = true ↔ holds) : Decides (.ok b : Except ε Bool) False holds where
  raises := False.elim
  answers _ := ⟨b, rfl, iff⟩

/-- The early answers. -/
lemma no : Decides (.ok false : Except ε Bool) False False :=
  pure (by simp)

lemma yes : Decides (.ok true : Except ε Bool) False True :=
  pure (by simp)

/-- A reading of what is not there. -/
lemma error (e : ε) (holds : Prop) : Decides (.error e) True holds where
  raises _ := ⟨e, rfl⟩
  answers not := absurd trivial not

/-- Both sides may be stated in another way; the condition only has to agree when the test
answers. -/
lemma congr (dec : Decides test stuck holds) (iffStuck : stuck ↔ stuck')
    (iff : ¬ stuck' → (holds ↔ holds')) : Decides test stuck' holds' where
  raises is := dec.raises (iffStuck.mpr is)
  answers not := by
    obtain ⟨b, eq, tells⟩ := dec.answers (fun is => not (iffStuck.mp is))
    exact ⟨b, eq, tells.trans (iff not)⟩

/-- `if not test: return False`, and then the next test. -/
lemma guard (first : Decides test stuck holds) (second : Decides next stuck' holds') :
    Decides (test >>= fun b => if b = true then next else .ok false) (stuck ∨ holds ∧ stuck')
      (holds ∧ holds') where
  raises is := by
    by_cases stuckFirst : stuck
    · obtain ⟨e, eq⟩ := first.raises stuckFirst
      exact ⟨e, by rw [eq]; rfl⟩
    · obtain ⟨b, eq, tells⟩ := first.answers stuckFirst
      obtain ⟨is, is'⟩ := is.resolve_left stuckFirst
      obtain ⟨e, eq'⟩ := second.raises is'
      refine ⟨e, ?_⟩
      rw [eq, tells.mpr is]
      exact eq'
  answers not := by
    obtain ⟨b, eq, tells⟩ := first.answers (fun is => not (Or.inl is))
    cases b with
    | false =>
      refine ⟨false, by rw [eq]; rfl, ?_⟩
      simp only [Bool.false_eq_true, false_iff] at tells ⊢
      exact fun both => tells both.1
    | true =>
      have is : holds := tells.mp rfl
      obtain ⟨b', eq', tells'⟩ := second.answers (fun is' => not (Or.inr ⟨is, is'⟩))
      refine ⟨b', ?_, tells'.trans ⟨fun is' => ⟨is, is'⟩, And.right⟩⟩
      rw [eq]
      exact eq'

/-- `for x in xs: if test(x): return True`, and at the end `return False`. -/
theorem anyM {f : α → Except ε Bool} {stuck holds : α → Prop}
    (each : ∀ x, Decides (f x) (stuck x) (holds x)) (xs : List α) :
    Decides (xs.anyM f) (∃ x, Reaches holds xs x ∧ stuck x) (∃ x ∈ xs, holds x) := by
  induction xs with
  | nil =>
    apply (pure (b := false) _).congr
    · constructor
      · exact False.elim
      · rintro ⟨x, reaches, -⟩
        exact not_reaches_nil reaches
    · exact fun _ => Iff.rfl
    · simp
  | cons a xs ih =>
    have stuckIff : (∃ x, Reaches holds (a :: xs) x ∧ stuck x) ↔
        stuck a ∨ ¬ holds a ∧ ∃ x, Reaches holds xs x ∧ stuck x := by
      constructor
      · rintro ⟨x, reaches, is⟩
        rcases reaches_cons.mp reaches with rfl | ⟨goes, reaches⟩
        · exact Or.inl is
        · exact Or.inr ⟨goes, x, reaches, is⟩
      · rintro (is | ⟨goes, x, reaches, is⟩)
        · exact ⟨a, reaches_cons.mpr (Or.inl rfl), is⟩
        · exact ⟨x, reaches_cons.mpr (Or.inr ⟨goes, reaches⟩), is⟩
    have holdsIff : (∃ x ∈ a :: xs, holds x) ↔ holds a ∨ ∃ x ∈ xs, holds x := by
      simp only [List.mem_cons, exists_eq_or_imp]
    constructor
    · intro is
      by_cases stuckFirst : stuck a
      · obtain ⟨e, eq⟩ := (each a).raises stuckFirst
        exact ⟨e, by rw [List.anyM_cons, eq]; rfl⟩
      · obtain ⟨goes, more⟩ := (stuckIff.mp is).resolve_left stuckFirst
        obtain ⟨b, eq, tells⟩ := (each a).answers stuckFirst
        obtain ⟨e, eq'⟩ := ih.raises more
        refine ⟨e, ?_⟩
        cases b with
        | true => exact absurd (tells.mp rfl) goes
        | false =>
          rw [List.anyM_cons, eq]
          exact eq'
    · intro not
      obtain ⟨b, eq, tells⟩ := (each a).answers (fun is => not (stuckIff.mpr (Or.inl is)))
      cases b with
      | true =>
        refine ⟨true, by rw [List.anyM_cons, eq]; rfl, ?_⟩
        exact ⟨fun _ => holdsIff.mpr (Or.inl (tells.mp rfl)), fun _ => rfl⟩
      | false =>
        have goes : ¬ holds a := fun is => by cases tells.mpr is
        obtain ⟨b', eq', tells'⟩ := ih.answers
          (fun more => not (stuckIff.mpr (Or.inr ⟨goes, more⟩)))
        refine ⟨b', by rw [List.anyM_cons, eq]; exact eq', ?_⟩
        rw [tells', holdsIff, or_iff_right goes]

end Decides

/-! ## Collecting what passes -/

/-- `for x in xs: if test(x): found.append(x)`. -/
def collect (f : α → Except ε Bool) : List α → List α → Except ε (List α)
  | [], found => .ok found
  | x :: xs, found => do
    if ← f x then collect f xs (found ++ [x]) else collect f xs found

/-- What passes is collected in its order if no test is stuck. -/
theorem collect_ok {f : α → Except ε Bool} {stuck holds : α → Prop} [DecidablePred holds]
    (each : ∀ x, Decides (f x) (stuck x) (holds x)) (xs found : List α)
    (none : ∀ x ∈ xs, ¬ stuck x) :
    collect f xs found = .ok (found ++ xs.filter (fun x => decide (holds x))) := by
  induction xs generalizing found with
  | nil =>
    rw [List.filter_nil, List.append_nil]
    rfl
  | cons x xs ih =>
    have rest := fun y mem => none y (List.mem_cons_of_mem x mem)
    obtain ⟨b, eq, tells⟩ := (each x).answers (none x List.mem_cons_self)
    rw [collect, eq]
    cases b with
    | true =>
      have is : holds x := tells.mp rfl
      rw [List.filter_cons, if_pos (decide_eq_true is)]
      have more := ih (found ++ [x]) rest
      rw [List.append_assoc] at more
      exact more
    | false =>
      have isNot : ¬ holds x := fun is => by cases tells.mpr is
      rw [List.filter_cons, if_neg (fun eq => isNot (of_decide_eq_true eq))]
      exact ih found rest

/-- One stuck test ends the whole loop. -/
theorem collect_error {f : α → Except ε Bool} {stuck holds : α → Prop}
    (each : ∀ x, Decides (f x) (stuck x) (holds x)) (xs found : List α)
    (some : ∃ x ∈ xs, stuck x) : ∃ e, collect f xs found = .error e := by
  induction xs generalizing found with
  | nil =>
    obtain ⟨x, mem, -⟩ := some
    cases mem
  | cons x xs ih =>
    rw [collect]
    by_cases stuckFirst : stuck x
    · obtain ⟨e, eq⟩ := (each x).raises stuckFirst
      exact ⟨e, by rw [eq]; rfl⟩
    · obtain ⟨b, eq, -⟩ := (each x).answers stuckFirst
      have rest : ∃ y ∈ xs, stuck y := by
        obtain ⟨y, mem, is⟩ := some
        rcases List.mem_cons.mp mem with rfl | mem
        · exact absurd is stuckFirst
        · exact ⟨y, mem, is⟩
      rw [eq]
      cases b with
      | true => exact ih (found ++ [x]) rest
      | false => exact ih found rest

end Tacker.Basis
