import Tacker.Basis.ForEach

/-!
# Transactions

An action changes a state and may raise. A transaction is an action of which nothing stays when it
raises. Two kinds of rules: what is known of the parts of a sequence, a transaction or a loop that
returned, and what is kept whether they return or raise.
-/

namespace Tacker.Basis

variable {α σ ε : Type*}

/-- A change of a state that may raise. -/
abbrev Action (σ ε : Type*) := σ → σ × Option ε

namespace Action

/-- `raise e`. -/
def fail (e : ε) : Action σ ε := fun s => (s, some e)

/-- One action after the other; what raises ends the sequence. -/
def seq (first second : Action σ ε) : Action σ ε := fun s =>
  match first s with
  | (s', none) => second s'
  | (s', some e) => (s', some e)

/-- All of the action, or nothing of it. -/
def transaction (body : Action σ ε) : Action σ ε := fun s =>
  match body s with
  | (s', none) => (s', none)
  | (_, some e) => (s, some e)

/-- The action returns in the second state. -/
def Returns (action : Action σ ε) (s t : σ) : Prop :=
  action s = (t, none)

variable {first second body : Action σ ε} {s t : σ} {e : ε}

/-! ## What returns -/

lemma returns_iff : Returns body s t ↔ (body s).2 = none ∧ (body s).1 = t := by
  constructor
  · intro returned
    rw [Returns] at returned
    rw [returned]
    exact ⟨rfl, rfl⟩
  · rintro ⟨quiet, rfl⟩
    exact Prod.ext rfl quiet

/-- An action either returns or raises. -/
lemma returns_or_raises (body : Action σ ε) (s : σ) :
    (∃ t, Returns body s t) ∨ ∃ e, (body s).2 = some e := by
  cases raised : (body s).2 with
  | none => exact .inl ⟨(body s).1, returns_iff.mpr ⟨raised, rfl⟩⟩
  | some e => exact .inr ⟨e, rfl⟩

lemma seq_of_returns (returned : Returns first s t) : seq first second s = second t := by
  rw [seq, show first s = (t, none) from returned]

lemma seq_of_raises (raised : (first s).2 = some e) : seq first second s = ((first s).1, some e) := by
  have eq : first s = ((first s).1, some e) := Prod.ext rfl raised
  rw [seq, eq]

lemma seq_returns : Returns (seq first second) s t ↔ ∃ m, Returns first s m ∧ Returns second m t := by
  constructor
  · intro returned
    rcases returns_or_raises first s with ⟨m, inner⟩ | ⟨e, raised⟩
    · refine ⟨m, inner, ?_⟩
      rw [Returns, seq_of_returns inner] at returned
      exact returned
    · rw [Returns, seq_of_raises raised] at returned
      cases returned
  · rintro ⟨m, inner, outer⟩
    rw [Returns, seq_of_returns inner]
    exact outer

lemma transaction_of_raises (raised : (body s).2 = some e) : transaction body s = (s, some e) := by
  have eq : body s = ((body s).1, some e) := Prod.ext rfl raised
  rw [transaction, eq]

lemma transaction_of_returns (returned : Returns body s t) : transaction body s = (t, none) := by
  rw [transaction, show body s = (t, none) from returned]

lemma transaction_returns : Returns (transaction body) s t ↔ Returns body s t := by
  constructor
  · intro returned
    rcases returns_or_raises body s with ⟨m, inner⟩ | ⟨e, raised⟩
    · rw [Returns, transaction_of_returns inner] at returned
      cases returned
      exact inner
    · rw [Returns, transaction_of_raises raised] at returned
      cases returned
  · exact transaction_of_returns

/-- A transaction that raises has changed nothing. -/
lemma transaction_cases (body : Action σ ε) (s : σ) :
    (transaction body s).1 = s ∨ Returns body s (transaction body s).1 := by
  rcases returns_or_raises body s with ⟨t, returned⟩ | ⟨e, raised⟩
  · apply Or.inr
    rw [transaction_of_returns returned]
    exact returned
  · apply Or.inl
    rw [transaction_of_raises raised]

lemma transaction_raised (raised : (transaction body s).2 = some e) :
    (transaction body s).1 = s := by
  rcases transaction_cases body s with same | returned
  · exact same
  · rw [transaction_of_returns returned] at raised
    cases raised

lemma forEach_nil_returns {f : α → Action σ ε} : Returns (forEach f []) s t ↔ s = t := by
  constructor
  · intro returned
    cases returned
    rfl
  · rintro rfl
    rfl

lemma forEach_cons (f : α → Action σ ε) (x : α) (xs : List α) :
    forEach f (x :: xs) = seq (f x) (forEach f xs) := by
  funext s
  rfl

lemma forEach_cons_returns {f : α → Action σ ε} {x : α} {xs : List α} :
    Returns (forEach f (x :: xs)) s t ↔ ∃ m, Returns (f x) s m ∧ Returns (forEach f xs) m t := by
  rw [forEach_cons]
  exact seq_returns

/-- A loop returns as one whose turns return alike. -/
lemma forEach_returns_congr {f g : α → Action σ ε} (alike : ∀ x s t, Returns (f x) s t ↔ Returns (g x) s t)
    (xs : List α) (s t : σ) : Returns (forEach f xs) s t ↔ Returns (forEach g xs) s t := by
  induction xs generalizing s with
  | nil => rw [forEach_nil_returns, forEach_nil_returns]
  | cons x xs ih =>
    rw [forEach_cons_returns, forEach_cons_returns]
    apply exists_congr
    intro m
    rw [alike, ih]

/-- A loop that returns: each turn establishes something, which the later turns leave, and all of them
keep an invariant. -/
lemma forEach_returns {J : σ → Prop} {P : α → σ → Prop} {f : α → Action σ ε} {xs : List α}
    (turn : ∀ x ∈ xs, ∀ s t, J s → Returns (f x) s t → J t ∧ P x t)
    (stays : ∀ x, ∀ y ∈ xs, ∀ s t, J s → Returns (f y) s t → P x s → P x t)
    (start : J s) (returned : Returns (forEach f xs) s t) : J t ∧ ∀ x ∈ xs, P x t := by
  suffices later : J t ∧ (∀ x ∈ xs, P x t) ∧ ∀ x, P x s → P x t from ⟨later.1, later.2.1⟩
  induction xs generalizing s with
  | nil =>
    obtain rfl := forEach_nil_returns.mp returned
    refine ⟨start, ?_, fun x had => had⟩
    intro x mem
    cases mem
  | cons x xs ih =>
    obtain ⟨m, first, rest⟩ := forEach_cons_returns.mp returned
    obtain ⟨next, made⟩ := turn x List.mem_cons_self s m start first
    obtain ⟨last, each, kept⟩ := ih (fun y mem => turn y (List.mem_cons_of_mem x mem))
      (fun y z mem => stays y z (List.mem_cons_of_mem x mem)) next rest
    refine ⟨last, List.forall_mem_cons.mpr ⟨kept x made, each⟩, ?_⟩
    intro y had
    exact kept y (stays y x List.mem_cons_self s m start first had)

/-! ## What is kept

An invariant is kept if it holds after the action, whether that returns or raises. -/

section Keeps

variable {J : σ → Prop}

/-- The action keeps the invariant. -/
def Keeps (J : σ → Prop) (action : Action σ ε) : Prop :=
  ∀ s, J s → J (action s).1

lemma keeps_fail : Keeps J (fail e : Action σ ε) := fun _ holds => holds

lemma keeps_seq (inFirst : Keeps J first) (inSecond : Keeps J second) :
    Keeps J (seq first second) := by
  intro s holds
  rcases returns_or_raises first s with ⟨m, returned⟩ | ⟨e, raised⟩
  · rw [seq_of_returns returned]
    obtain ⟨-, same⟩ := returns_iff.mp returned
    exact inSecond m (same ▸ inFirst s holds)
  · rw [seq_of_raises raised]
    exact inFirst s holds

/-- A transaction keeps what its body keeps when it returns. -/
lemma keeps_transaction (inBody : ∀ s t, J s → Returns body s t → J t) :
    Keeps J (transaction body) := by
  intro s holds
  rcases transaction_cases body s with same | returned
  · rw [same]
    exact holds
  · exact inBody s _ holds returned

lemma keeps_forEach {f : α → Action σ ε} {xs : List α} (inTurn : ∀ x ∈ xs, Keeps J (f x)) :
    Keeps J (forEach f xs) := by
  induction xs with
  | nil => exact fun _ holds => holds
  | cons x xs ih =>
    rw [forEach_cons]
    apply keeps_seq (inTurn x List.mem_cons_self)
    exact ih fun y mem => inTurn y (List.mem_cons_of_mem x mem)

end Keeps

end Action

end Tacker.Basis
