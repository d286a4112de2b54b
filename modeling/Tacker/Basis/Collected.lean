import Mathlib.Data.List.Flatten
import Mathlib.Data.List.Perm.Basic
import Mathlib.Tactic.Lemma

/-!
# Batches that collect what they read

Batches of inputs are read one input after the other. What a batch has collected is handed over in
one message when all of its inputs are read, and lost if one of them raises. A message is stored
part by part; a part that raises takes the rest of its message with it. Batches and messages are
worked on in any order.
-/

namespace Tacker.Basis

/-- What is done with an input, with a finished batch and with a part of a message. -/
structure Collector (σ τ α ι μ : Type) where
  /-- Reads an input of a batch that started at the time. `none` stands for an exception. -/
  read : σ → τ → α → Option (List ι)
  /-- Makes the parts of a message. -/
  pack : List ι → List μ
  /-- Stores a part; `false` stands for an exception, which may come after a change. -/
  store : σ → μ → σ × Bool

namespace Collector

variable {σ τ α ι μ : Type}

/-- A batch that is being read. -/
structure Batch (τ α ι : Type) where
  now : τ
  todo : List α
  collected : List ι := []

/-- The data, the batches that are being read, the messages that are not stored yet, and the items
that were ever collected. -/
structure State (σ τ α ι μ : Type) where
  db : σ
  batches : List (Batch τ α ι) := []
  casts : List (List μ) := []
  history : List ι := []

/-- A step of a batch, of a message or of others that change the data. -/
inductive Event (σ τ α : Type) where
  /-- A batch arrives. -/
  | start (now : τ) (todo : List α)
  /-- The next input of a batch is read. -/
  | read (i : Nat)
  /-- A batch ends. -/
  | cast (i : Nat)
  /-- The next part of a message is stored. -/
  | store (i : Nat)
  /-- The data are changed. -/
  | change (db : σ)

variable (c : Collector σ τ α ι μ)

/-- The next input of the batch at the index is read. -/
def readNext (s : State σ τ α ι μ) (i : Nat) (b : Batch τ α ι) : Option (State σ τ α ι μ) :=
  match b.todo with
  | [] => none
  | a :: todo =>
    match c.read s.db b.now a with
    | none => some { s with batches := s.batches.eraseIdx i }
    | some items => some { s with
        batches := s.batches.set i { b with todo := todo, collected := b.collected ++ items }
        history := s.history ++ items }

/-- The batch at the index is handed over, if all of its inputs are read. -/
def castBatch (s : State σ τ α ι μ) (i : Nat) (b : Batch τ α ι) : Option (State σ τ α ι μ) :=
  match b.todo with
  | [] => some { s with
      batches := s.batches.eraseIdx i
      casts := s.casts ++ [c.pack b.collected] }
  | _ :: _ => none

/-- The next part of the message at the index is stored. -/
def storeNext (s : State σ τ α ι μ) (i : Nat) : List μ → State σ τ α ι μ
  | [] => { s with casts := s.casts.eraseIdx i }
  | part :: parts =>
    match c.store s.db part with
    | (db, true) => { s with db := db, casts := s.casts.set i parts }
    | (db, false) => { s with db := db, casts := s.casts.eraseIdx i }

/-- One step. -/
def step (s : State σ τ α ι μ) : Event σ τ α → Option (State σ τ α ι μ)
  | .start now todo => some { s with batches := s.batches ++ [⟨now, todo, []⟩] }
  | .read i => s.batches[i]?.bind (c.readNext s i)
  | .cast i => s.batches[i]?.bind (c.castBatch s i)
  | .store i => s.casts[i]?.map (c.storeNext s i)
  | .change db => some { s with db := db }

/-! ## What a step does -/

/-- The list has the element at the index. -/
structure At {β : Type} (l : List β) (i : Nat) (b : β) (before after : List β) : Prop where
  split : l = before ++ b :: after
  index : before.length = i

lemma at_of_getElem? {β : Type} {l : List β} {i : Nat} {b : β} (found : l[i]? = some b) :
    ∃ before after, At l i b before after ∧ l.eraseIdx i = before ++ after ∧
      ∀ b', l.set i b' = before ++ b' :: after := by
  obtain ⟨lt, rfl⟩ := List.getElem?_eq_some_iff.mp found
  refine ⟨l.take i, l.drop (i + 1), ⟨?_, ?_⟩, ?_, ?_⟩
  · rw [List.getElem_cons_drop, List.take_append_drop]
  · exact List.length_take_of_le (Nat.le_of_lt lt)
  · exact List.eraseIdx_eq_take_drop_succ ..
  · intro b'
    rw [List.set_eq_take_append_cons_drop, if_pos lt]

/-- The steps, with the lists cut where they change. -/
inductive Moves (s : State σ τ α ι μ) : Event σ τ α → State σ τ α ι μ → Prop where
  | start (now : τ) (todo : List α) :
    Moves s (.start now todo) { s with batches := s.batches ++ [⟨now, todo, []⟩] }
  | read {i : Nat} {now : τ} {a : α} {todo : List α} {collected items : List ι}
    {before after : List (Batch τ α ι)} :
    At s.batches i ⟨now, a :: todo, collected⟩ before after → c.read s.db now a = some items →
    Moves s (.read i) { s with
      batches := before ++ ⟨now, todo, collected ++ items⟩ :: after
      history := s.history ++ items }
  | raise {i : Nat} {now : τ} {a : α} {todo : List α} {collected : List ι}
    {before after : List (Batch τ α ι)} :
    At s.batches i ⟨now, a :: todo, collected⟩ before after → c.read s.db now a = none →
    Moves s (.read i) { s with batches := before ++ after }
  | cast {i : Nat} {now : τ} {collected : List ι} {before after : List (Batch τ α ι)} :
    At s.batches i ⟨now, [], collected⟩ before after →
    Moves s (.cast i) { s with
      batches := before ++ after
      casts := s.casts ++ [c.pack collected] }
  | done {i : Nat} {before after : List (List μ)} :
    At s.casts i [] before after →
    Moves s (.store i) { s with casts := before ++ after }
  | store {i : Nat} {part : μ} {parts : List μ} {before after : List (List μ)} {db : σ} :
    At s.casts i (part :: parts) before after → c.store s.db part = (db, true) →
    Moves s (.store i) { s with db := db, casts := before ++ parts :: after }
  | fail {i : Nat} {part : μ} {parts : List μ} {before after : List (List μ)} {db : σ} :
    At s.casts i (part :: parts) before after → c.store s.db part = (db, false) →
    Moves s (.store i) { s with db := db, casts := before ++ after }
  | change (db : σ) : Moves s (.change db) { s with db := db }

variable {c} {s t : State σ τ α ι μ} {e : Event σ τ α}

lemma readNext_moves {i : Nat} {b : Batch τ α ι} (found : s.batches[i]? = some b)
    (moved : c.readNext s i b = some t) : c.Moves s (.read i) t := by
  obtain ⟨before, after, split, erased, set⟩ := at_of_getElem? found
  obtain ⟨now, todo, collected⟩ := b
  cases todo with
  | nil => cases moved
  | cons a todo =>
    rw [readNext] at moved
    cases read : c.read s.db now a with
    | none =>
      simp only [read, erased] at moved
      obtain rfl := Option.some.inj moved
      exact .raise split read
    | some items =>
      simp only [read, set] at moved
      obtain rfl := Option.some.inj moved
      exact .read split read

lemma castBatch_moves {i : Nat} {b : Batch τ α ι} (found : s.batches[i]? = some b)
    (moved : c.castBatch s i b = some t) : c.Moves s (.cast i) t := by
  obtain ⟨before, after, split, erased, -⟩ := at_of_getElem? found
  obtain ⟨now, todo, collected⟩ := b
  cases todo with
  | nil =>
    simp only [castBatch, erased] at moved
    obtain rfl := Option.some.inj moved
    exact .cast split
  | cons a todo => cases moved

lemma storeNext_moves {i : Nat} {parts : List μ} (found : s.casts[i]? = some parts) :
    c.Moves s (.store i) (c.storeNext s i parts) := by
  obtain ⟨before, after, split, erased, set⟩ := at_of_getElem? found
  cases parts with
  | nil =>
    simp only [storeNext, erased]
    exact .done split
  | cons part parts =>
    rw [storeNext]
    cases stored : c.store s.db part with
    | mk db ok =>
      cases ok with
      | true =>
        simp only [set]
        exact .store split stored
      | false =>
        simp only [erased]
        exact .fail split stored

theorem moves_of_step (moved : c.step s e = some t) : c.Moves s e t := by
  cases e with
  | start now todo =>
    obtain rfl := Option.some.inj moved
    exact .start now todo
  | read i =>
    obtain ⟨b, found, moved⟩ := Option.bind_eq_some_iff.mp moved
    exact readNext_moves found moved
  | cast i =>
    obtain ⟨b, found, moved⟩ := Option.bind_eq_some_iff.mp moved
    exact castBatch_moves found moved
  | store i =>
    obtain ⟨parts, found, rfl⟩ := Option.map_eq_some_iff.mp moved
    exact storeNext_moves found
  | change db =>
    obtain rfl := Option.some.inj moved
    exact .change db

/-- The step of an input that is read. -/
lemma step_read {i : Nat} {now : τ} {a : α} {todo : List α} {collected items : List ι}
    (found : s.batches[i]? = some ⟨now, a :: todo, collected⟩)
    (read : c.read s.db now a = some items) :
    c.step s (.read i) = some { s with
      batches := s.batches.set i ⟨now, todo, collected ++ items⟩
      history := s.history ++ items } := by
  rw [step, found, Option.bind_some, readNext]
  simp only [read]

/-- A list of one element is cut at it. -/
lemma At.singleton {β : Type} {i : Nat} {b b' : β} {before after : List β}
    (split : At [b] i b' before after) : before = [] ∧ after = [] ∧ b' = b := by
  cases before with
  | nil =>
    obtain ⟨isHead, isTail⟩ := List.cons_eq_cons.mp split.split
    exact ⟨rfl, isTail.symm, isHead.symm⟩
  | cons x before =>
    have isTail := (List.cons_eq_cons.mp split.split).2
    cases before <;> cases isTail

/-! ## What is on its way -/

/-- The items of the messages and of the batches; `unpack` tells the items of a part. -/
def pending (unpack : μ → List ι) (s : State σ τ α ι μ) : List ι :=
  s.casts.flatten.flatMap unpack ++ s.batches.flatMap Batch.collected

/-- What a step does to the items: it adds those that it reads, stores those of a part, or loses
some. -/
inductive Handles (c : Collector σ τ α ι μ) (unpack : μ → List ι) (s : State σ τ α ι μ) :
    Event σ τ α → State σ τ α ι μ → Prop where
  | read {i : Nat} {now : τ} {a : α} {todo : List α} {collected items : List ι}
    {t : State σ τ α ι μ} :
    s.batches[i]? = some ⟨now, a :: todo, collected⟩ → c.read s.db now a = some items →
    t.db = s.db → t.history = s.history ++ items →
    (pending unpack t).Perm (pending unpack s ++ items) → Handles c unpack s (.read i) t
  | store {i : Nat} (part : μ) {t : State σ τ α ι μ} :
    t.db = (c.store s.db part).1 → t.history = s.history →
    (unpack part ++ pending unpack t).Subperm (pending unpack s) → Handles c unpack s (.store i) t
  | change (db : σ) : Handles c unpack s (.change db) { s with db := db }
  | move {e : Event σ τ α} {t : State σ τ α ι μ} :
    t.db = s.db → t.history = s.history → (pending unpack t).Subperm (pending unpack s) →
    Handles c unpack s e t

lemma At.getElem? {β : Type} {l before after : List β} {i : Nat} {b : β}
    (split : At l i b before after) : l[i]? = some b := by
  rw [split.split, ← split.index, List.getElem?_append_right (Nat.le_refl _), Nat.sub_self]
  rfl

variable {unpack : μ → List ι}

/-- Nothing happens to an item but that. -/
theorem Moves.handles (moves : c.Moves s e t)
    (packs : ∀ items, ((c.pack items).flatMap unpack).Perm items) : Handles c unpack s e t := by
  cases moves with
  | start now todo =>
    refine Handles.move rfl rfl ?_
    simp only [pending, List.flatMap_append, List.flatMap_cons, List.flatMap_nil, List.append_nil]
    exact List.Subperm.refl _
  | @read i now a todo collected items before after split read =>
    refine Handles.read split.getElem? read rfl rfl ?_
    simp only [pending, split.split, List.flatMap_append, List.flatMap_cons, List.append_assoc]
    apply List.Perm.append_left
    apply List.Perm.append_left
    apply List.Perm.append_left
    exact List.perm_append_comm
  | raise split read =>
    refine Handles.move rfl rfl ?_
    simp only [pending, split.split, List.flatMap_append, List.flatMap_cons]
    apply List.Sublist.subperm
    apply List.Sublist.append_left
    apply List.Sublist.append_left
    exact List.sublist_append_right _ _
  | @cast i now collected before after split =>
    refine Handles.move rfl rfl ?_
    apply List.Perm.subperm
    simp only [pending, split.split, List.flatten_append, List.flatten_cons, List.flatten_nil,
      List.append_nil, List.flatMap_append, List.flatMap_cons, List.append_assoc]
    apply List.Perm.append_left
    have packed := (packs collected).append_right
      (before.flatMap Batch.collected ++ after.flatMap Batch.collected)
    exact packed.trans (List.perm_append_comm_assoc _ _ _)
  | done split =>
    refine Handles.move rfl rfl ?_
    simp only [pending, split.split, List.flatten_append, List.flatten_cons, List.nil_append]
    exact List.Subperm.refl _
  | @store i part parts before after db split stored =>
    apply Handles.store part
    · rw [stored]
    · rfl
    · apply List.Perm.subperm
      simp only [pending, split.split, List.flatten_append, List.flatten_cons, List.flatMap_append,
        List.flatMap_cons, List.append_assoc, List.cons_append]
      exact List.perm_append_comm_assoc _ _ _
  | @fail i part parts before after db split stored =>
    apply Handles.store part
    · rw [stored]
    · rfl
    · simp only [pending, split.split, List.flatten_append, List.flatten_cons, List.flatMap_append,
        List.flatMap_cons, List.append_assoc, List.cons_append]
      apply (List.perm_append_comm_assoc _ _ _).subperm.trans
      apply List.Sublist.subperm
      apply List.Sublist.append_left
      apply List.Sublist.append_left
      exact List.sublist_append_right _ _
  | change db => exact .change db

/-! ## Items of a kind, in their order -/

/-- The items of the kind, in the order in which they will be stored if the messages are worked on in
the order in which they were cast. -/
def pendingOf (unpack : μ → List ι) (p : ι → Bool) (s : State σ τ α ι μ) : List ι :=
  (pending unpack s).filter p

/-- The batches that have an item of the kind. -/
def holders (p : ι → Bool) (batches : List (Batch τ α ι)) : List (Batch τ α ι) :=
  batches.filter fun b => b.collected.any p

/-- A batch that has an item of the kind is the only one that has. -/
def Single (p : ι → Bool) (s : State σ τ α ι μ) : Prop :=
  (holders p s.batches).length ≤ 1

/-- A step that keeps the items of the kind in order: they are read by one batch at a time, they are
not lost, and earlier messages are stored first. -/
structure InTurn (c : Collector σ τ α ι μ) (unpack : μ → List ι) (p : ι → Bool)
    (s : State σ τ α ι μ) (e : Event σ τ α) : Prop where
  read : ∀ i now a todo collected before after items, e = .read i →
    At s.batches i ⟨now, a :: todo, collected⟩ before after → c.read s.db now a = some items →
    items.filter p ≠ [] → ∀ b ∈ before ++ after, b.collected.filter p = []
  raise : ∀ i now a todo collected before after, e = .read i →
    At s.batches i ⟨now, a :: todo, collected⟩ before after → c.read s.db now a = none →
    collected.filter p = []
  store : ∀ i part parts before after, e = .store i →
    At s.casts i (part :: parts) before after → (unpack part).filter p ≠ [] →
    (before.flatten.flatMap unpack).filter p = []
  fail : ∀ i part parts before after db, e = .store i →
    At s.casts i (part :: parts) before after → c.store s.db part = (db, false) →
    ((part :: parts).flatMap unpack).filter p = []

/-- What a step does to the items of the kind. -/
inductive Turn (c : Collector σ τ α ι μ) (unpack : μ → List ι) (p : ι → Bool)
    (s : State σ τ α ι μ) : Event σ τ α → State σ τ α ι μ → Prop where
  | read {i : Nat} {now : τ} {a : α} {todo : List α} {collected items : List ι}
    {t : State σ τ α ι μ} :
    s.batches[i]? = some ⟨now, a :: todo, collected⟩ → c.read s.db now a = some items →
    t.db = s.db → t.history = s.history ++ items →
    pendingOf unpack p t = pendingOf unpack p s ++ items.filter p → Turn c unpack p s (.read i) t
  | store {i : Nat} (part : μ) {t : State σ τ α ι μ} :
    c.store s.db part = (t.db, true) → t.history = s.history →
    pendingOf unpack p s = (unpack part).filter p ++ pendingOf unpack p t →
    Turn c unpack p s (.store i) t
  | fail {i : Nat} (part : μ) {t : State σ τ α ι μ} :
    c.store s.db part = (t.db, false) → t.history = s.history →
    pendingOf unpack p t = pendingOf unpack p s → Turn c unpack p s (.store i) t
  | change (db : σ) : Turn c unpack p s (.change db) { s with db := db }
  | move {e : Event σ τ α} {t : State σ τ α ι μ} :
    t.db = s.db → t.history = s.history → pendingOf unpack p t = pendingOf unpack p s →
    Turn c unpack p s e t

variable {p : ι → Bool}

/-- The items of the kind in batches that have none. -/
lemma filter_collected {bs : List (Batch τ α ι)} (none : holders p bs = []) :
    (bs.flatMap Batch.collected).filter p = [] := by
  rw [List.filter_flatMap, List.flatMap_eq_nil_iff]
  intro b mem
  have silent := List.filter_eq_nil_iff.mp none b mem
  rw [List.filter_eq_nil_iff]
  intro item isIn holds
  exact silent (List.any_eq_true.mpr ⟨item, isIn, holds⟩)

lemma holders_eq_nil {bs : List (Batch τ α ι)} (none : ∀ b ∈ bs, b.collected.filter p = []) :
    holders p bs = [] := by
  apply List.filter_eq_nil_iff.mpr
  intro b mem holds
  obtain ⟨item, isIn, holds⟩ := List.any_eq_true.mp holds
  exact List.filter_eq_nil_iff.mp (none b mem) item isIn holds

/-- The other batches of one that has an item of the kind have none. -/
lemma others_silent {b : Batch τ α ι} {before after : List (Batch τ α ι)}
    (single : (holders p (before ++ b :: after)).length ≤ 1) (holds : b.collected.any p = true) :
    holders p before = [] ∧ holders p after = [] := by
  rw [holders, List.filter_append, List.filter_cons, if_pos holds, List.length_append,
    List.length_cons] at single
  constructor
  · apply List.eq_nil_of_length_eq_zero
    rw [holders]
    omega
  · apply List.eq_nil_of_length_eq_zero
    rw [holders]
    omega

lemma filter_eq_nil_of_any {l : List ι} (none : l.any p = false) : l.filter p = [] := by
  rw [List.filter_eq_nil_iff]
  intro item isIn holds
  rw [List.any_eq_false] at none
  exact none item isIn holds

lemma single_sublist {batches : List (Batch τ α ι)} (single : Single p s)
    (sublist : batches.Sublist s.batches) : (holders p batches).length ≤ 1 :=
  Nat.le_trans (sublist.filter _).length_le single

lemma single_same {b b' : Batch τ α ι} {before after : List (Batch τ α ι)}
    (single : (holders p (before ++ b :: after)).length ≤ 1)
    (same : b'.collected.any p = b.collected.any p) :
    (holders p (before ++ b' :: after)).length ≤ 1 := by
  rw [holders, List.filter_append, List.length_append, List.filter_cons] at single ⊢
  rw [same]
  cases holds : b.collected.any p with
  | true =>
    rw [holds] at single
    exact single
  | false =>
    rw [holds] at single
    exact single

/-- Steps in turn keep the items of the kind in order. -/
theorem Moves.turn (moves : c.Moves s e t)
    (packs : ∀ items, ((c.pack items).flatMap unpack).filter p = items.filter p)
    (single : Single p s) (inTurn : InTurn c unpack p s e) :
    Single p t ∧ Turn c unpack p s e t := by
  cases moves with
  | start now todo =>
    constructor
    · show (holders p (s.batches ++ _)).length ≤ 1
      rw [Single, holders] at single
      rw [holders, List.filter_append]
      simpa using single
    · refine Turn.move rfl rfl ?_
      simp [pendingOf, pending]
  | @read i now a todo collected items before after split read =>
    have single' : (holders p (before ++ ⟨now, a :: todo, collected⟩ :: after)).length ≤ 1 := by
      rw [← split.split]
      exact single
    by_cases none : items.filter p = []
    · constructor
      · apply single_same single'
        show (collected ++ items).any p = collected.any p
        rw [List.any_append, List.any_eq_false.mpr (List.filter_eq_nil_iff.mp none),
          Bool.or_false]
      · refine Turn.read split.getElem? read rfl rfl ?_
        simp only [pendingOf, pending, split.split, List.filter_append, List.flatMap_append,
          List.flatMap_cons, none, List.append_nil]
    · have silent := inTurn.read i now a todo collected before after items rfl split read none
      have silentBefore : holders p before = [] :=
        holders_eq_nil fun b mem => silent b (List.mem_append_left _ mem)
      have silentAfter : holders p after = [] :=
        holders_eq_nil fun b mem => silent b (List.mem_append_right _ mem)
      constructor
      · show (holders p (before ++ _ :: after)).length ≤ 1
        rw [holders, List.filter_append, List.filter_cons]
        rw [holders] at silentBefore silentAfter
        rw [silentBefore, silentAfter]
        by_cases holds : (collected ++ items).any p = true
        · rw [if_pos holds]
          exact Nat.le_refl _
        · rw [if_neg holds]
          exact Nat.zero_le _
      · refine Turn.read split.getElem? read rfl rfl ?_
        simp only [pendingOf, pending, split.split, List.filter_append, List.flatMap_append,
          List.flatMap_cons, filter_collected silentAfter, List.append_nil, List.append_assoc]
  | @raise i now a todo collected before after split read =>
    have silent := inTurn.raise i now a todo collected before after rfl split read
    constructor
    · apply single_sublist single
      rw [split.split]
      exact (List.Sublist.refl before).append (List.sublist_cons_self _ _)
    · refine Turn.move rfl rfl ?_
      simp only [pendingOf, pending, split.split, List.filter_append, List.flatMap_append,
        List.flatMap_cons, silent, List.nil_append]
  | @cast i now collected before after split =>
    have single' : (holders p (before ++ ⟨now, [], collected⟩ :: after)).length ≤ 1 := by
      rw [← split.split]
      exact single
    constructor
    · apply single_sublist single
      rw [split.split]
      exact (List.Sublist.refl before).append (List.sublist_cons_self _ _)
    · refine Turn.move rfl rfl ?_
      simp only [pendingOf, pending, split.split, List.flatten_append, List.flatten_cons,
        List.flatten_nil, List.append_nil, List.flatMap_append, List.flatMap_cons,
        List.filter_append, packs, List.append_assoc]
      cases holds : collected.any p with
      | true =>
        obtain ⟨silentBefore, silentAfter⟩ := others_silent single' holds
        rw [filter_collected silentBefore, filter_collected silentAfter, List.nil_append,
          List.nil_append]
      | false => rw [filter_eq_nil_of_any holds, List.nil_append, List.nil_append]
  | done split =>
    refine ⟨single, Turn.move rfl rfl ?_⟩
    simp only [pendingOf, pending, split.split, List.flatten_append, List.flatten_cons,
      List.nil_append]
  | @store i part parts before after db split stored =>
    refine ⟨single, Turn.store part stored rfl ?_⟩
    simp only [pendingOf, pending, split.split, List.flatten_append, List.flatten_cons,
      List.cons_append, List.flatMap_append, List.flatMap_cons, List.filter_append,
      List.append_assoc]
    by_cases none : (unpack part).filter p = []
    · rw [none, List.nil_append, List.nil_append]
    · rw [inTurn.store i part parts before after rfl split none, List.nil_append, List.nil_append]
  | @fail i part parts before after db split stored =>
    refine ⟨single, Turn.fail part stored rfl ?_⟩
    have silent := inTurn.fail i part parts before after db rfl split stored
    simp only [pendingOf, pending, split.split, List.flatten_append, List.flatten_cons,
      List.flatMap_append, List.filter_append, silent, List.nil_append]
  | change db => exact ⟨single, .change db⟩

end Collector

end Tacker.Basis
