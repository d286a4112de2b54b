import Mathlib.Tactic.Lemma
import Mathlib.Tactic.TypeStar
import Mathlib.Data.List.Basic

/-!
# Computations that succeeded

What is known of the parts of a computation that may raise, once it is known to have returned: a
sequence returned from each of its steps, a loop from each of its turns.
-/

namespace Tacker.Basis

variable {ε α β γ : Type}

/-- A sequence returns if its first step does and the rest does with what that returned. -/
lemma bind_ok {x : Except ε α} {f : α → Except ε β} {b : β} :
    (x >>= f) = .ok b ↔ ∃ a, x = .ok a ∧ f a = .ok b := by
  cases x with
  | error e => simp [bind, Except.bind]
  | ok a => simp [bind, Except.bind]

/-- A sequence raises if its first step does, or the rest does with what that returned. -/
lemma bind_error {x : Except ε α} {f : α → Except ε β} {e : ε} :
    (x >>= f) = .error e ↔ x = .error e ∨ ∃ a, x = .ok a ∧ f a = .error e := by
  cases x with
  | error e' => simp [bind, Except.bind]
  | ok a => simp [bind, Except.bind]

lemma map_ok {x : Except ε α} {f : α → β} {b : β} :
    (f <$> x) = .ok b ↔ ∃ a, x = .ok a ∧ f a = b := by
  cases x with
  | error e => simp [Functor.map, Except.map]
  | ok a => simp [Functor.map, Except.map]

lemma except_map_ok {x : Except ε α} {f : α → β} {b : β} :
    x.map f = .ok b ↔ ∃ a, x = .ok a ∧ f a = b :=
  map_ok

@[simp] lemma pure_ok {a b : α} : (pure a : Except ε α) = .ok b ↔ a = b := by
  simp [pure, Except.pure]

lemma toOption_eq_some {x : Except ε α} {a : α} : x.toOption = some a ↔ x = .ok a := by
  cases x <;> simp [Except.toOption]

/-- A computation of one element, known by what is read of its result. -/
lemma exists_of_toOption {x : Except ε (List α)} {f : α → β} {b : β}
    (eq : x.toOption.map (List.map f) = some [b]) : ∃ a, x = .ok [a] ∧ f a = b := by
  obtain ⟨as, returned, eq⟩ := Option.map_eq_some_iff.mp eq
  obtain ⟨a, rfl, read⟩ := List.map_eq_singleton_iff.mp eq
  exact ⟨a, toOption_eq_some.mp returned, read⟩

lemma foldlM_nil_ok {f : β → γ → Except ε β} {b b' : β} :
    [].foldlM f b = .ok b' ↔ b = b' := by
  rw [List.foldlM_nil, pure_ok]

lemma foldlM_cons_ok {f : β → γ → Except ε β} {b b' : β} {c : γ} {cs : List γ} :
    (c :: cs).foldlM f b = .ok b' ↔ ∃ next, f b c = .ok next ∧ cs.foldlM f next = .ok b' := by
  rw [List.foldlM_cons, bind_ok]

lemma mapM_nil_ok {f : α → Except ε β} {bs : List β} : [].mapM f = .ok bs ↔ bs = [] := by
  rw [List.mapM_nil, pure_ok, eq_comm]

lemma mapM_cons_ok {f : α → Except ε β} {a : α} {as : List α} {bs : List β} :
    (a :: as).mapM f = .ok bs ↔ ∃ b rest, f a = .ok b ∧ as.mapM f = .ok rest ∧ bs = b :: rest := by
  rw [List.mapM_cons, bind_ok]
  constructor
  · rintro ⟨b, eq, rest⟩
    obtain ⟨bs', eq', rest⟩ := bind_ok.mp rest
    exact ⟨b, bs', eq, eq', (pure_ok.mp rest).symm⟩
  · rintro ⟨b, rest, eq, eq', rfl⟩
    exact ⟨b, eq, bind_ok.mpr ⟨rest, eq', rfl⟩⟩

/-- A list of computations that all returned has a result for each. -/
lemma mapM_ok_length {f : α → Except ε β} {as : List α} {bs : List β} (eq : as.mapM f = .ok bs) :
    bs.length = as.length := by
  induction as generalizing bs with
  | nil =>
    rw [mapM_nil_ok.mp eq]
    rfl
  | cons a as ih =>
    obtain ⟨b, rest, -, eq', rfl⟩ := mapM_cons_ok.mp eq
    rw [List.length_cons, List.length_cons, ih eq']

lemma mem_of_mapM_ok {f : α → Except ε β} {as : List α} {bs : List β} (eq : as.mapM f = .ok bs)
    {b : β} : b ∈ bs ↔ ∃ a ∈ as, f a = .ok b := by
  induction as generalizing bs with
  | nil => simp [mapM_nil_ok.mp eq]
  | cons a as ih =>
    obtain ⟨b', rest, eq', eq'', rfl⟩ := mapM_cons_ok.mp eq
    simp [ih eq'', eq', eq_comm]

/-- A list of computations that all returned returned for each element. -/
lemma mapM_ok_of_mem {f : α → Except ε β} {as : List α} {bs : List β} (eq : as.mapM f = .ok bs)
    {a : α} (mem : a ∈ as) : ∃ b, f a = .ok b := by
  induction as generalizing bs with
  | nil => cases mem
  | cons a' as ih =>
    obtain ⟨b, rest, eq', eq'', rfl⟩ := mapM_cons_ok.mp eq
    rcases List.mem_cons.mp mem with rfl | mem
    · exact ⟨b, eq'⟩
    · exact ih eq'' mem

/-- Each element has its result among the results. -/
lemma result_of_mapM_ok {f : α → Except ε β} {as : List α} {bs : List β} (eq : as.mapM f = .ok bs)
    {a : α} (mem : a ∈ as) : ∃ b ∈ bs, f a = .ok b := by
  induction as generalizing bs with
  | nil => cases mem
  | cons a' as ih =>
    obtain ⟨b, rest, eq', eq'', rfl⟩ := mapM_cons_ok.mp eq
    rcases List.mem_cons.mp mem with rfl | mem
    · exact ⟨b, List.mem_cons_self, eq'⟩
    · obtain ⟨b', mem', made⟩ := ih eq'' mem
      exact ⟨b', List.mem_cons_of_mem b mem', made⟩

/-- A list of computations returns exactly if each of them does. -/
lemma mapM_ok_total {f : α → Except ε β} {as : List α} :
    (∃ bs, as.mapM f = .ok bs) ↔ ∀ a ∈ as, ∃ b, f a = .ok b := by
  constructor
  · rintro ⟨bs, eq⟩ a mem
    exact mapM_ok_of_mem eq mem
  · intro each
    induction as with
    | nil => exact ⟨[], mapM_nil_ok.mpr rfl⟩
    | cons a as ih =>
      obtain ⟨b, eq⟩ := each a List.mem_cons_self
      obtain ⟨bs, eq'⟩ := ih fun a' mem => each a' (List.mem_cons_of_mem a mem)
      exact ⟨b :: bs, mapM_cons_ok.mpr ⟨b, bs, eq, eq', rfl⟩⟩

/-- A list of computations that all returned, result by result. -/
lemma forall₂_of_mapM_ok {f : α → Except ε β} {as : List α} {bs : List β}
    (eq : as.mapM f = .ok bs) : List.Forall₂ (fun a b => f a = .ok b) as bs := by
  induction as generalizing bs with
  | nil =>
    rw [mapM_nil_ok.mp eq]
    exact .nil
  | cons a as ih =>
    obtain ⟨b, rest, eq', eq'', rfl⟩ := mapM_cons_ok.mp eq
    exact .cons eq' (ih eq'')

/-- What is read of the results is what is read of the elements. -/
lemma map_of_mapM_ok {f : α → Except ε β} {as : List α} {bs : List β} {g : β → γ} {h : α → γ}
    (eq : as.mapM f = .ok bs) (reads : ∀ a ∈ as, ∀ b, f a = .ok b → g b = h a) :
    bs.map g = as.map h := by
  induction as generalizing bs with
  | nil =>
    rw [mapM_nil_ok.mp eq]
    rfl
  | cons a as ih =>
    obtain ⟨b, rest, eq', eq'', rfl⟩ := mapM_cons_ok.mp eq
    rw [List.map_cons, List.map_cons, reads a List.mem_cons_self b eq',
      ih eq'' fun a mem => reads a (List.mem_cons_of_mem _ mem)]

/-- A loop that returned keeps what each of its turns keeps. -/
lemma foldlM_ok_induct {P : β → Prop} {f : β → γ → Except ε β} {cs : List γ} {b b' : β}
    (start : P b) (keeps : ∀ c ∈ cs, ∀ b b', P b → f b c = .ok b' → P b')
    (eq : cs.foldlM f b = .ok b') : P b' := by
  induction cs generalizing b with
  | nil =>
    rw [← foldlM_nil_ok.mp eq]
    exact start
  | cons c cs ih =>
    obtain ⟨next, step, eq⟩ := foldlM_cons_ok.mp eq
    apply ih (keeps c List.mem_cons_self b next start step) _ eq
    intro c mem
    exact keeps c (List.mem_cons_of_mem _ mem)

/-- A loop returns if each of its turns does. -/
lemma foldlM_total {f : β → γ → Except ε β} {cs : List γ}
    (each : ∀ c ∈ cs, ∀ b, ∃ b', f b c = .ok b') (b : β) : ∃ b', cs.foldlM f b = .ok b' := by
  induction cs generalizing b with
  | nil => exact ⟨b, foldlM_nil_ok.mpr rfl⟩
  | cons c cs ih =>
    obtain ⟨next, step⟩ := each c List.mem_cons_self b
    obtain ⟨b', eq⟩ := ih (fun c mem => each c (List.mem_cons_of_mem _ mem)) next
    exact ⟨b', foldlM_cons_ok.mpr ⟨next, step, eq⟩⟩

/-- A list of computations that raises does so in one of them. -/
lemma mapM_error {f : α → Except ε β} {as : List α} {e : ε} (raised : as.mapM f = .error e) :
    ∃ a ∈ as, f a = .error e := by
  induction as with
  | nil =>
    rw [List.mapM_nil] at raised
    cases raised
  | cons a as ih =>
    rw [List.mapM_cons] at raised
    rcases bind_error.mp raised with here | ⟨b, _, later⟩
    · exact ⟨a, List.mem_cons_self, here⟩
    · rcases bind_error.mp later with later | ⟨bs, _, absurd⟩
      · obtain ⟨a', mem, raised'⟩ := ih later
        exact ⟨a', List.mem_cons_of_mem a mem, raised'⟩
      · cases absurd

lemma anyM_cons (f : α → Except ε Bool) (a : α) (as : List α) :
    (a :: as).anyM f = f a >>= fun b => if b then .ok true else as.anyM f := by
  rw [List.anyM]
  apply congrArg (fun g => f a >>= g)
  funext b
  cases b with
  | true => rfl
  | false => rfl

/-- A search returns if each test does that comes before a test that is passed. -/
lemma anyM_ok_total {f : α → Except ε Bool} {as : List α} :
    (∃ b, as.anyM f = .ok b) ↔ ∀ front a rest, as = front ++ a :: rest →
      (∀ x ∈ front, f x = .ok false) → ∃ b, f a = .ok b := by
  induction as with
  | nil =>
    refine ⟨fun _ front a rest same => ?_, fun _ => ⟨false, rfl⟩⟩
    cases front <;> cases same
  | cons a as ih =>
    rw [anyM_cons]
    constructor
    · rintro ⟨b, returned⟩ front a' rest same before
      obtain ⟨here, first, later⟩ := bind_ok.mp returned
      cases front with
      | nil =>
        obtain ⟨rfl, _⟩ := List.cons_eq_cons.mp same
        exact ⟨here, first⟩
      | cons x front =>
        obtain ⟨rfl, rfl⟩ := List.cons_eq_cons.mp same
        obtain rfl := Except.ok.inj (first.symm.trans (before a List.mem_cons_self))
        exact ih.mp ⟨b, later⟩ front a' rest rfl fun x mem =>
          before x (List.mem_cons_of_mem a mem)
    · intro each
      obtain ⟨here, first⟩ := each [] a as rfl fun x mem => absurd mem List.not_mem_nil
      rw [first]
      cases here with
      | true => exact ⟨true, rfl⟩
      | false =>
        apply ih.mpr
        intro front a' rest same before
        apply each (a :: front) a' rest (congrArg (List.cons a) same)
        intro x mem
        rcases List.mem_cons.mp mem with rfl | mem
        · exact first
        · exact before x mem

/-- A search that raises does so in one of its tests. -/
lemma anyM_error {f : α → Except ε Bool} {as : List α} {e : ε} (raised : as.anyM f = .error e) :
    ∃ a ∈ as, f a = .error e := by
  induction as with
  | nil => cases raised
  | cons a as ih =>
    rw [anyM_cons] at raised
    rcases bind_error.mp raised with here | ⟨b, _, later⟩
    · exact ⟨a, List.mem_cons_self, here⟩
    · cases b with
      | true => cases later
      | false =>
        obtain ⟨a', mem, raised'⟩ := ih later
        exact ⟨a', List.mem_cons_of_mem a mem, raised'⟩

/-! ## What raises first -/

/-- One of the computations raises, and those before it return. -/
inductive FirstRaises (f : α → Except ε β) (e : ε) : List α → Prop where
  | here {x : α} {xs : List α} (raised : f x = .error e) : FirstRaises f e (x :: xs)
  | later {x : α} {xs : List α} {b : β} (returned : f x = .ok b) (rest : FirstRaises f e xs) :
    FirstRaises f e (x :: xs)

lemma firstRaises_iff {f : α → Except ε β} {e : ε} {as : List α} :
    FirstRaises f e as ↔ ∃ before a after, as = before ++ a :: after ∧
      (∀ a' ∈ before, ∃ b, f a' = .ok b) ∧ f a = .error e := by
  constructor
  · intro first
    induction first with
    | @here a as raised => exact ⟨[], a, as, rfl, by simp, raised⟩
    | @later a as b returned rest ih =>
      obtain ⟨before, a', after, rfl, returns, raised⟩ := ih
      exact ⟨a :: before, a', after, rfl, List.forall_mem_cons.mpr ⟨⟨b, returned⟩, returns⟩, raised⟩
  · rintro ⟨before, a, after, rfl, returns, raised⟩
    induction before with
    | nil => exact .here raised
    | cons a' before ih =>
      obtain ⟨⟨b, returned⟩, returns⟩ := List.forall_mem_cons.mp returns
      exact .later returned (ih returns)

/-- Of two lists the second is reached if the first one returns. -/
lemma firstRaises_append {f : α → Except ε β} {e : ε} {as as' : List α} :
    FirstRaises f e (as ++ as') ↔
      FirstRaises f e as ∨ (∀ a ∈ as, ∃ b, f a = .ok b) ∧ FirstRaises f e as' := by
  induction as with
  | nil =>
    constructor
    · exact fun first => .inr ⟨by simp, first⟩
    · rintro (none | ⟨-, first⟩)
      · cases none
      · exact first
  | cons a as ih =>
    constructor
    · intro first
      cases first with
      | here raised => exact .inl (.here raised)
      | later returned rest =>
        rcases ih.mp rest with inFirst | ⟨returns, inSecond⟩
        · exact .inl (.later returned inFirst)
        · exact .inr ⟨List.forall_mem_cons.mpr ⟨⟨_, returned⟩, returns⟩, inSecond⟩
    · rintro (first | ⟨returns, first⟩)
      · cases first with
        | here raised => exact .here raised
        | later returned rest => exact .later returned (ih.mpr (.inl rest))
      · obtain ⟨⟨b, returned⟩, returns⟩ := List.forall_mem_cons.mp returns
        exact .later returned (ih.mpr (.inr ⟨returns, first⟩))

/-- A list of computations raises what is raised first. -/
lemma mapM_error_iff {f : α → Except ε β} {e : ε} {as : List α} :
    as.mapM f = .error e ↔ FirstRaises f e as := by
  induction as with
  | nil =>
    rw [List.mapM_nil]
    constructor
    · intro raised
      cases raised
    · intro first
      cases first
  | cons a as ih =>
    rw [List.mapM_cons, bind_error]
    constructor
    · rintro (raised | ⟨b, returned, raised⟩)
      · exact .here raised
      · rcases bind_error.mp raised with raised | ⟨bs, _, absurd⟩
        · exact .later returned (ih.mp raised)
        · cases absurd
    · intro first
      cases first with
      | here raised => exact .inl raised
      | later returned rest => exact .inr ⟨_, returned, bind_error.mpr (.inl (ih.mpr rest))⟩

/-- A loop without results raises what is raised first. -/
lemma forM_error_iff {f : α → Except ε PUnit} {e : ε} {as : List α} :
    as.forM f = .error e ↔ FirstRaises f e as := by
  induction as with
  | nil =>
    constructor
    · intro raised
      cases raised
    · intro first
      cases first
  | cons a as ih =>
    change (f a >>= fun _ => as.forM f) = .error e ↔ _
    rw [bind_error]
    constructor
    · rintro (raised | ⟨_, returned, raised⟩)
      · exact .here raised
      · exact .later returned (ih.mp raised)
    · intro first
      cases first with
      | here raised => exact .inl raised
      | later returned rest => exact .inr ⟨_, returned, ih.mpr rest⟩

end Tacker.Basis
