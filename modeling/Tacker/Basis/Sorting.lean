import Mathlib.Data.List.Perm.Basic
import Tacker.Basis.Attempt

/-!
# Sorting with comparisons that may raise

A stable sort in descending order whose comparisons are computations. Where comparing works within
each class of elements and raises between two classes, a list is sorted exactly if all its elements
are of one class.
-/

namespace Tacker.Basis

variable {ε α : Type}

/-- The element is put before the first one that is not greater. -/
def insertDesc (lt : α → α → Except ε Bool) (a : α) : List α → Except ε (List α)
  | [] => .ok [a]
  | b :: bs => do
    if ← lt a b then
      let rest ← insertDesc lt a bs
      return b :: rest
    else return a :: b :: bs

/-- `sorted(…, reverse=True)`. -/
def sortDesc (lt : α → α → Except ε Bool) : List α → Except ε (List α)
  | [] => .ok []
  | a :: as => do
    let rest ← sortDesc lt as
    insertDesc lt a rest

variable {lt : α → α → Except ε Bool} {a b : α} {as bs cs : List α}

lemma insertDesc_cons_ok : insertDesc lt a (b :: bs) = .ok cs ↔
    (∃ rest, lt a b = .ok true ∧ insertDesc lt a bs = .ok rest ∧ cs = b :: rest) ∨
      lt a b = .ok false ∧ cs = a :: b :: bs := by
  rw [insertDesc, bind_ok]
  constructor
  · rintro ⟨less, eq, rest⟩
    cases less with
    | true =>
      obtain ⟨rest, eq', made⟩ := bind_ok.mp rest
      exact .inl ⟨rest, eq, eq', (pure_ok.mp made).symm⟩
    | false => exact .inr ⟨eq, (pure_ok.mp rest).symm⟩
  · rintro (⟨rest, eq, eq', rfl⟩ | ⟨eq, rfl⟩)
    · exact ⟨true, eq, bind_ok.mpr ⟨rest, eq', rfl⟩⟩
    · exact ⟨false, eq, rfl⟩

lemma sortDesc_cons_ok : sortDesc lt (a :: as) = .ok cs ↔
    ∃ rest, sortDesc lt as = .ok rest ∧ insertDesc lt a rest = .ok cs := by
  rw [sortDesc, bind_ok]

/-! ## Permutation -/

lemma insertDesc_perm (ok : insertDesc lt a bs = .ok cs) : cs.Perm (a :: bs) := by
  induction bs generalizing cs with
  | nil =>
    cases ok
    exact .refl _
  | cons b bs ih =>
    rcases insertDesc_cons_ok.mp ok with ⟨rest, -, inner, rfl⟩ | ⟨-, rfl⟩
    · exact ((ih inner).cons b).trans (List.Perm.swap a b bs)
    · exact .refl _

/-- A sorted list has the same elements. -/
theorem sortDesc_perm (ok : sortDesc lt as = .ok cs) : cs.Perm as := by
  induction as generalizing cs with
  | nil =>
    cases ok
    exact .refl _
  | cons a as ih =>
    obtain ⟨rest, ok, inserted⟩ := sortDesc_cons_ok.mp ok
    exact (insertDesc_perm inserted).trans ((ih ok).cons a)

/-! ## Order -/

variable {Ge : α → α → Prop}

lemma insertDesc_pairwise (trans : ∀ a b c, Ge a b → Ge b c → Ge a c)
    (greater : ∀ a b, lt a b = .ok true → Ge b a) (not : ∀ a b, lt a b = .ok false → Ge a b)
    (sorted : bs.Pairwise Ge) (ok : insertDesc lt a bs = .ok cs) : cs.Pairwise Ge := by
  induction bs generalizing cs with
  | nil =>
    cases ok
    exact List.pairwise_singleton Ge a
  | cons b bs ih =>
    obtain ⟨first, sorted⟩ := List.pairwise_cons.mp sorted
    rcases insertDesc_cons_ok.mp ok with ⟨rest, less, inner, rfl⟩ | ⟨least, rfl⟩
    · refine List.pairwise_cons.mpr ⟨fun c mem => ?_, ih sorted inner⟩
      rcases List.mem_cons.mp ((insertDesc_perm inner).mem_iff.mp mem) with rfl | mem
      · exact greater _ _ less
      · exact first c mem
    · refine List.pairwise_cons.mpr ⟨fun c mem => ?_, List.pairwise_cons.mpr ⟨first, sorted⟩⟩
      rcases List.mem_cons.mp mem with rfl | mem
      · exact not _ _ least
      · exact trans a b c (not a b least) (first c mem)

/-- A sorted list is in descending order. -/
theorem sortDesc_pairwise (trans : ∀ a b c, Ge a b → Ge b c → Ge a c)
    (greater : ∀ a b, lt a b = .ok true → Ge b a) (not : ∀ a b, lt a b = .ok false → Ge a b)
    (ok : sortDesc lt as = .ok cs) : cs.Pairwise Ge := by
  induction as generalizing cs with
  | nil =>
    cases ok
    exact List.Pairwise.nil
  | cons a as ih =>
    obtain ⟨rest, ok, inserted⟩ := sortDesc_cons_ok.mp ok
    exact insertDesc_pairwise trans greater not (ih ok) inserted

/-! ## Termination -/

variable {γ : Type} {cls : α → γ}

lemma insertDesc_total (within : ∀ a b, cls a = cls b → ∃ less, lt a b = .ok less)
    (same : ∀ b ∈ bs, cls a = cls b) : ∃ cs, insertDesc lt a bs = .ok cs := by
  induction bs with
  | nil => exact ⟨[a], rfl⟩
  | cons b bs ih =>
    obtain ⟨less, eq⟩ := within a b (same b List.mem_cons_self)
    cases less with
    | true =>
      obtain ⟨rest, ok⟩ := ih fun c mem => same c (List.mem_cons_of_mem b mem)
      exact ⟨b :: rest, insertDesc_cons_ok.mpr (.inl ⟨rest, eq, ok, rfl⟩)⟩
    | false => exact ⟨a :: b :: bs, insertDesc_cons_ok.mpr (.inr ⟨eq, rfl⟩)⟩

/-- A list is sorted without an exception exactly if its elements are of one class. -/
theorem sortDesc_total_iff (within : ∀ a b, (∃ less, lt a b = .ok less) ↔ cls a = cls b) :
    (∃ cs, sortDesc lt as = .ok cs) ↔ as.Pairwise fun a b => cls a = cls b := by
  induction as with
  | nil => exact ⟨fun _ => List.Pairwise.nil, fun _ => ⟨[], rfl⟩⟩
  | cons a as ih =>
    rw [List.pairwise_cons, ← ih]
    constructor
    · rintro ⟨cs, ok⟩
      obtain ⟨rest, ok, inserted⟩ := sortDesc_cons_ok.mp ok
      refine ⟨?_, rest, ok⟩
      have pairs := ih.mp ⟨rest, ok⟩
      have perm := sortDesc_perm ok
      cases rest with
      | nil =>
        intro b mem
        cases perm.mem_iff.mpr mem
      | cons b bs =>
        -- the element was compared with the first one of the rest
        have here : cls a = cls b := by
          apply (within a b).mp
          rcases insertDesc_cons_ok.mp inserted with ⟨-, less, -⟩ | ⟨least, -⟩
          · exact ⟨true, less⟩
          · exact ⟨false, least⟩
        have all := pairs.perm perm.symm fun eq => eq.symm
        intro c mem
        rcases List.mem_cons.mp (perm.mem_iff.mpr mem) with rfl | mem
        · exact here
        · exact here.trans (List.rel_of_pairwise_cons all mem)
    · rintro ⟨same, rest, ok⟩
      have sorted := sortDesc_perm ok
      obtain ⟨cs, inserted⟩ : ∃ cs, insertDesc lt a rest = .ok cs := by
        apply insertDesc_total fun a b => (within a b).mpr
        intro b mem
        exact same b (sorted.mem_iff.mp mem)
      exact ⟨cs, sortDesc_cons_ok.mpr ⟨rest, ok, inserted⟩⟩

end Tacker.Basis
