import Mathlib.Tactic.Lemma
import Mathlib.Tactic.TypeStar
import Mathlib.Data.List.Nodup
import Mathlib.Data.List.ProdSigma
import Mathlib.Data.Finset.Dedup

/-!
# Exact lists

A list that has every element of a kind once and no other. What a report, a page or a query result
should be is stated with it, and the list is put together from parts that are exact themselves.
-/

namespace Tacker.Basis

variable {α β γ : Type*}

/-- The list has every element that meets the condition, once, and no other. -/
structure Exactly (xs : List α) (p : α → Prop) : Prop where
  nodup : xs.Nodup
  mem (x : α) : x ∈ xs ↔ p x

namespace Exactly

variable {xs ys : List α} {p q : α → Prop}

lemma nil (none : ∀ x, ¬ p x) : Exactly [] p where
  nodup := List.nodup_nil
  mem x := by simp [none x]

lemma singleton (x : α) : Exactly [x] (fun y => y = x) where
  nodup := List.nodup_singleton x
  mem _ := List.mem_singleton

/-- The condition may be stated in another way. -/
lemma congr (h : Exactly xs p) (iff : ∀ x, p x ↔ q x) : Exactly xs q where
  nodup := h.nodup
  mem x := (h.mem x).trans (iff x)

/-- Two kinds that exclude each other are listed one after the other. -/
lemma append (hp : Exactly xs p) (hq : Exactly ys q) (disjoint : ∀ x, p x → ¬ q x) :
    Exactly (xs ++ ys) (fun x => p x ∨ q x) where
  nodup := by
    rw [List.nodup_append]
    refine ⟨hp.nodup, hq.nodup, fun x memX y memY eq => ?_⟩
    subst eq
    exact disjoint x ((hp.mem x).mp memX) ((hq.mem x).mp memY)
  mem x := by rw [List.mem_append, hp.mem, hq.mem]

/-- The kinds of an exact list of indices that exclude each other are listed one after the
other. -/
lemma flatMap {f : α → List β} {r : α → β → Prop} (h : Exactly xs p)
    (each : ∀ x, p x → Exactly (f x) (r x))
    (disjoint : ∀ x x' y, p x → p x' → r x y → r x' y → x = x') :
    Exactly (xs.flatMap f) (fun y => ∃ x, p x ∧ r x y) where
  nodup := by
    rw [List.nodup_flatMap]
    refine ⟨fun x mem => (each x ((h.mem x).mp mem)).nodup, ?_⟩
    refine h.nodup.pairwise_of_forall_ne (fun x mem x' mem' ne => ?_)
    intro y memY memY'
    have px := (h.mem x).mp mem
    have px' := (h.mem x').mp mem'
    exact ne (disjoint x x' y px px' (((each x px).mem y).mp memY) (((each x' px').mem y).mp memY'))
  mem y := by
    rw [List.mem_flatMap]
    constructor
    · rintro ⟨x, memX, memY⟩
      have px := (h.mem x).mp memX
      exact ⟨x, px, ((each x px).mem y).mp memY⟩
    · rintro ⟨x, px, rxy⟩
      exact ⟨x, (h.mem x).mpr px, ((each x px).mem y).mpr rxy⟩

/-- The elements whose identifier is one of the given ones, each under a tag. -/
lemma tagged [DecidableEq β] {ident : α → β} (nodup : (xs.map ident).Nodup) {s : Finset β}
    (known : ∀ k ∈ s, k ∈ xs.map ident) (tag : γ) :
    Exactly ((xs.filter (fun x => decide (ident x ∈ s))).map (fun x => (ident x, tag)))
      (fun key => key.2 = tag ∧ key.1 ∈ s) where
  nodup := by
    have part : ((xs.filter (fun x => decide (ident x ∈ s))).map ident).Nodup :=
      nodup.sublist (List.Sublist.map ident List.filter_sublist)
    have inj : Function.Injective (fun k : β => (k, tag)) := fun a b eq => congrArg Prod.fst eq
    have both := part.map inj
    rw [List.map_map] at both
    exact both
  mem key := by
    obtain ⟨k, t⟩ := key
    simp only [List.mem_map, List.mem_filter, decide_eq_true_eq, Prod.mk.injEq]
    constructor
    · rintro ⟨x, ⟨-, inS⟩, rfl, rfl⟩
      exact ⟨rfl, inS⟩
    · rintro ⟨rfl, inS⟩
      obtain ⟨x, mem, rfl⟩ := List.mem_map.mp (known k inS)
      exact ⟨x, ⟨mem, inS⟩, rfl, rfl⟩

end Exactly

/-- How often a tagged identifier occurs. -/
lemma count_tagged [DecidableEq β] [DecidableEq γ] (xs : List α) (ident : α → β) (s : Finset β)
    (tag tag' : γ) (k : β) :
    ((xs.filter (fun x => decide (ident x ∈ s))).map (fun x => (ident x, tag))).count (k, tag') =
      if tag = tag' ∧ k ∈ s then (xs.map ident).count k else 0 := by
  induction xs with
  | nil => simp
  | cons x xs ih =>
    by_cases inS : ident x ∈ s
    · rw [List.filter_cons_of_pos (by simpa using inS), List.map_cons, List.count_cons, ih,
        List.map_cons, List.count_cons]
      by_cases eq : ident x = k <;> by_cases tags : tag = tag' <;> simp_all
    · rw [List.filter_cons_of_neg (by simpa using inS), ih, List.map_cons, List.count_cons]
      by_cases eq : ident x = k <;> simp_all

/-- What is looked for by a key of its own is found exactly if it is there. -/
lemma find?_iff_of_nodup {key : α → β} {xs : List α} (nodup : (xs.map key).Nodup) {p : α → Bool} {k : β}
    (picks : ∀ x, p x = true → key x = k) {x : α} :
    xs.find? p = some x ↔ x ∈ xs ∧ p x = true := by
  constructor
  · intro found
    exact ⟨List.mem_of_find?_eq_some found, List.find?_some found⟩
  · rintro ⟨mem, picked⟩
    have isSome : (xs.find? p).isSome = true := List.find?_isSome.mpr ⟨x, mem, picked⟩
    obtain ⟨y, found⟩ := Option.isSome_iff_exists.mp isSome
    have same : key y = key x := (picks y (List.find?_some found)).trans (picks x picked).symm
    rw [found, List.inj_on_of_nodup_map nodup (List.mem_of_find?_eq_some found) mem same]

/-- Where the keys are unique, an element is found by its key. -/
lemma find?_key [DecidableEq β] {key : α → β} {xs : List α} (nodup : (xs.map key).Nodup) {x : α}
    (mem : x ∈ xs) : (xs.find? fun y => key y = key x) = some x := by
  apply (find?_iff_of_nodup (k := key x) nodup fun _ same => of_decide_eq_true same).mpr
  exact ⟨mem, decide_eq_true rfl⟩

/-- A traversal that succeeds at every element. -/
lemma mapM_eq_some {f : α → Option β} {g : α → β} {xs : List α}
    (each : ∀ x ∈ xs, f x = some (g x)) : xs.mapM f = some (xs.map g) := by
  induction xs with
  | nil => rfl
  | cons x xs ih =>
    have rest := ih (fun y mem => each y (List.mem_cons_of_mem x mem))
    rw [List.mapM_cons, each x List.mem_cons_self, rest]
    rfl

/-- A traversal that can be done at every element can be done. -/
lemma mapM_total {f : α → Option β} {xs : List α} (each : ∀ x ∈ xs, ∃ y, f x = some y) :
    ∃ ys, xs.mapM f = some ys := by
  induction xs with
  | nil => exact ⟨[], rfl⟩
  | cons x xs ih =>
    obtain ⟨y, eq⟩ := each x List.mem_cons_self
    obtain ⟨ys, rest⟩ := ih (fun z mem => each z (List.mem_cons_of_mem x mem))
    exact ⟨y :: ys, by rw [List.mapM_cons, eq, rest]; rfl⟩

/-- A traversal succeeds exactly if it does at every element, and lists what it finds. -/
lemma mapM_some_iff {f : α → Option β} {xs : List α} {ys : List β} :
    xs.mapM f = some ys ↔ (∀ x ∈ xs, (f x).isSome = true) ∧ ys = xs.filterMap f := by
  induction xs generalizing ys with
  | nil =>
    rw [List.mapM_nil, Option.pure_def, Option.some.injEq, List.filterMap_nil, eq_comm]
    exact ⟨fun eq => ⟨fun x mem => absurd mem List.not_mem_nil, eq⟩, fun both => both.2⟩
  | cons x xs ih =>
    rw [List.mapM_cons, List.filterMap_cons]
    cases found : f x with
    | none =>
      refine ⟨fun eq => (by cases eq), fun both => ?_⟩
      have isSome := both.1 x List.mem_cons_self
      rw [found] at isSome
      cases isSome
    | some y =>
      show (xs.mapM f).bind (fun rest => some (y :: rest)) = some ys ↔ _
      rw [Option.bind_eq_some_iff]
      constructor
      · rintro ⟨rest, eq, made⟩
        obtain rfl := Option.some.inj made
        obtain ⟨each, rfl⟩ := ih.mp eq
        refine ⟨fun x' mem => ?_, rfl⟩
        rcases List.mem_cons.mp mem with rfl | mem
        · rw [found]
          rfl
        · exact each x' mem
      · rintro ⟨each, rfl⟩
        exact ⟨_, ih.mpr ⟨fun x' mem => each x' (List.mem_cons_of_mem x mem), rfl⟩, rfl⟩

/-- Each result is that of an element. -/
lemma mem_of_mapM_some {f : α → Option β} {xs : List α} {ys : List β} {y : β}
    (made : xs.mapM f = some ys) (mem : y ∈ ys) : ∃ x ∈ xs, f x = some y := by
  rw [(mapM_some_iff.mp made).2] at mem
  exact List.mem_filterMap.mp mem

/-- A traversal that succeeds says so at each element. -/
lemma map_some_of_mapM {f : α → Option β} {xs : List α} {ys : List β} (eq : xs.mapM f = some ys) :
    ys.map some = xs.map f := by
  induction xs generalizing ys with
  | nil =>
    obtain rfl := Option.some.inj eq
    rfl
  | cons x xs ih =>
    rw [List.mapM_cons] at eq
    obtain ⟨y, found, eq⟩ := Option.bind_eq_some_iff.mp eq
    obtain ⟨rest, more, eq⟩ := Option.bind_eq_some_iff.mp eq
    obtain rfl := Option.some.inj eq
    rw [List.map_cons, List.map_cons, found, ih more]

/-- A traversal that fails does so at an element. -/
lemma exists_of_mapM_none {f : α → Option β} {xs : List α} (eq : xs.mapM f = none) :
    ∃ x ∈ xs, f x = none := by
  by_contra all
  push Not at all
  obtain ⟨ys, made⟩ := mapM_total (f := f) fun x mem => Option.ne_none_iff_exists'.mp (all x mem)
  rw [eq] at made
  cases made

/-- A traversal in which the elements of one kind have one thing to give, and the others none. -/
lemma mapM_flatten_filter {f : α → Option (List β)} {p : α → Bool} {g : α → Option β} {xs : List α}
    (chosen : ∀ x, p x = true → f x = (g x).map fun y => [y])
    (skipped : ∀ x, p x = false → f x = some []) :
    (xs.mapM f).map List.flatten = (xs.filter p).mapM g := by
  induction xs with
  | nil => rfl
  | cons x xs ih =>
    rw [List.mapM_cons]
    show ((f x).bind fun ys => (xs.mapM f).bind fun yss => some (ys :: yss)).map _ = _
    cases isChosen : p x with
    | true =>
      rw [chosen x isChosen, List.filter_cons_of_pos isChosen, List.mapM_cons, ← ih]
      cases g x with
      | none => rfl
      | some y =>
        cases xs.mapM f with
        | none => rfl
        | some yss => rfl
    | false =>
      rw [skipped x isChosen, List.filter_cons_of_neg (by simp [isChosen]), ← ih]
      cases xs.mapM f with
      | none => rfl
      | some yss => rfl

/-- A traversal within a traversal is one of the pairs. -/
lemma mapM_product {f : α → β → Option γ} {xs : List α} {ys : List β} :
    (xs.mapM fun x => ys.mapM (f x)).map List.flatten =
      (xs ×ˢ ys).mapM fun pair => f pair.1 pair.2 := by
  induction xs with
  | nil => rfl
  | cons x xs ih =>
    have row : (ys.map (Prod.mk x)).mapM (fun pair => f pair.1 pair.2) = ys.mapM (f x) := by
      rw [List.mapM_map]
      rfl
    rw [List.mapM_cons, List.product_cons, List.mapM_append, ← ih, row]
    cases ys.mapM (f x) with
    | none => rfl
    | some zs =>
      cases xs.mapM fun x => ys.mapM (f x) with
      | none => rfl
      | some zss => rfl

/-- A traversal of exactly listed indices that gives a list for each of them, all put together. -/
lemma Exactly.mapM {p : α → Prop} {r : α → γ → Prop} {xs : List α} (h : Exactly xs p)
    {f : α → Option (List β)} (key : β → γ)
    (each : ∀ x, p x → ∃ ys, f x = some ys ∧ Exactly (ys.map key) (r x))
    (disjoint : ∀ x x' k, p x → p x' → r x k → r x' k → x = x') :
    ∃ yss, xs.mapM f = some yss ∧ Exactly (yss.flatten.map key) (fun k => ∃ x, p x ∧ r x k) ∧
      ∀ y ∈ yss.flatten, ∃ x ys, p x ∧ f x = some ys ∧ y ∈ ys := by
  have total (x : α) (px : p x) : f x = some ((f x).getD []) := by
    obtain ⟨ys, eq, -⟩ := each x px
    rw [eq]; rfl
  refine ⟨xs.map (fun x => (f x).getD []),
    mapM_eq_some (fun x mem => total x ((h.mem x).mp mem)), ?_, ?_⟩
  · rw [← List.flatMap_def, List.map_flatMap]
    refine h.flatMap (fun x px => ?_) disjoint
    obtain ⟨ys, eq, exact⟩ := each x px
    rw [eq]
    exact exact
  · intro y mem
    rw [← List.flatMap_def, List.mem_flatMap] at mem
    obtain ⟨x, memX, memY⟩ := mem
    have px := (h.mem x).mp memX
    exact ⟨x, (f x).getD [], px, total x px, memY⟩

end Tacker.Basis
