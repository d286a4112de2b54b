import Tacker.Conductor.ChangeLcmOpState
import Tacker.Subsc.MatchedSubscs

/-!
# What the recovery leaves behind

The recovery ends normally, with every interrupted occurrence in the state meant for it and all
others as they were, exactly when every interrupted occurrence can be announced.
-/

namespace Tacker.Conductor

open Tacker.Basis
open Tacker.Objects (LcmOperationState)
open Tacker.Subsc (SomeStuck)

variable {order : RowOrder} {clock : String → Nat} {s s' : State} {lcmocc : LcmOpOcc}
  {inst : VnfInstance} {states : LcmOperationState × LcmOperationState}

/-- A state that an operation is in while the conductor works on it. -/
def isInterrupted : LcmOperationState → Bool
  | .starting | .processing | .rollingBack => true
  | _ => false

/-- What the recovery is to make of an occurrence. -/
def recovered (clock : String → Nat) (lcmocc : LcmOpOcc) : LcmOpOcc :=
  match lcmocc.operationState with
  | .starting =>
    { lcmocc with
      operationState := .rolledBack
      stateEnteredTime := clock lcmocc.id
      error := .set Lcm.conductorProcessingError }
  | .processing | .rollingBack =>
    { lcmocc with
      operationState := .failedTemp
      stateEnteredTime := clock lcmocc.id
      error := .set Lcm.conductorProcessingError }
  | _ => lcmocc

/-- The notification of the recovered occurrence raises nothing: the instance is stored, no filter
gets stuck on it, and the `vimConnectionInfo` that the local NFVO reads of a rolled back
instantiation is set. -/
def Recoverable (s : State) (lcmocc : LcmOpOcc) : Prop :=
  ∃ inst, s.insts.get lcmocc.vnfInstanceId = some inst ∧
    ¬ SomeStuck (·.vnfInstanceSubscriptionFilter) inst.toVnfInstance s.subscs ∧
    (lcmocc.operation = .instantiate → lcmocc.operationState = .starting →
      inst.vimConnectionInfo ≠ none)

/-- What the recovery does not write. -/
structure SameContext (s s' : State) : Prop where
  insts : s'.insts = s.insts
  subscs : s'.subscs = s.subscs

lemma SameContext.trans {s₁ s₂ s₃ : State} (first : SameContext s₁ s₂)
    (second : SameContext s₂ s₃) : SameContext s₁ s₃ where
  insts := second.insts.trans first.insts
  subscs := second.subscs.trans first.subscs

lemma SameContext.recoverable (same : SameContext s s') :
    Recoverable s' lcmocc ↔ Recoverable s lcmocc := by
  unfold Recoverable
  rw [same.insts, same.subscs]

/-! ## One occurrence -/

/-- The local NFVO takes every notification of the recovery if `vimConnectionInfo` is set where it
reads it. -/
lemma recvLcmoccNotification_ok (nfvo : LocalNfvo)
    (afterState : lcmocc.operationState = .rolledBack ∨ lcmocc.operationState = .failedTemp)
    (set : lcmocc.operation = .instantiate → lcmocc.operationState = .rolledBack →
      inst.vimConnectionInfo ≠ none) :
    ∃ nfvo', nfvo.recvLcmoccNotification lcmocc inst = .ok nfvo' := by
  unfold LocalNfvo.recvLcmoccNotification
  cases op : lcmocc.operation with
  | instantiate =>
    rcases afterState with state | state
    · obtain ⟨vimInfos, eq⟩ := Option.ne_none_iff_exists'.mp (set op state)
      show ∃ nfvo', nfvo.recvInstantiate lcmocc.operationState inst = .ok nfvo'
      rw [state, LocalNfvo.recvInstantiate, eq]
      cases selected : selectVimInfo vimInfos with
      | none => exact ⟨nfvo, by simp [Subsc.load, bind, Except.bind, selected]⟩
      | some vimInfo =>
        exact ⟨nfvo.deleteImages vimInfo inst.id, by simp [Subsc.load, bind, Except.bind, selected]⟩
    · exact ⟨nfvo, by rw [state]; rfl⟩
  | terminate => rcases afterState with state | state <;> exact ⟨_, by rw [state]; rfl⟩
  | _ => exact ⟨_, rfl⟩

/-- It raises for a rolled back instantiation without `vimConnectionInfo`. -/
lemma recvLcmoccNotification_raises (nfvo : LocalNfvo) (lcmocc : LcmOpOcc)
    (op : lcmocc.operation = .instantiate) (state : lcmocc.operationState = .rolledBack)
    (unset : inst.vimConnectionInfo = none) :
    nfvo.recvLcmoccNotification lcmocc inst = .error ⟨"vimConnectionInfo"⟩ := by
  unfold LocalNfvo.recvLcmoccNotification
  rw [op]
  show nfvo.recvInstantiate lcmocc.operationState inst = .error ⟨"vimConnectionInfo"⟩
  rw [state, LocalNfvo.recvInstantiate, unset]
  rfl

/-- A notification writes neither instances nor subscriptions nor occurrences. -/
lemma sendLcmoccNotification_keeps (lcmocc : LcmOpOcc) (inst : VnfInstance) (s : State) :
    SameContext s (sendLcmoccNotification lcmocc inst s).1 := by
  unfold sendLcmoccNotification
  split
  · exact ⟨rfl, rfl⟩
  · dsimp only
    split
    · exact ⟨rfl, rfl⟩
    · exact ⟨rfl, rfl⟩

lemma changeLcmocc_keeps {afterState : LcmOperationState} :
    SameContext s (changeLcmocc clock afterState lcmocc s).1 := by
  unfold changeLcmocc
  split
  · exact ⟨rfl, rfl⟩
  · case h_2 inst _ =>
    have kept := sendLcmoccNotification_keeps (recoveredAs clock afterState lcmocc) inst
      { s with lcmoccs := s.lcmoccs.put (recoveredAs clock afterState lcmocc) }
    exact ⟨kept.insts, kept.subscs⟩

/-- The states the recovery leads to. -/
lemma afterState_cases (mem : states ∈ Lcm.stateList) :
    states.2 = .rolledBack ∧ states.1 = .starting ∨
      states.2 = .failedTemp ∧ states.1 ≠ .starting := by
  simp only [Lcm.stateList, List.mem_cons, List.not_mem_nil, or_false] at mem
  rcases mem with rfl | rfl | rfl
  · exact Or.inl ⟨rfl, rfl⟩
  · exact Or.inr ⟨rfl, by decide⟩
  · exact Or.inr ⟨rfl, by decide⟩

/-- A recoverable occurrence is stored as meant. -/
lemma changeLcmocc_ok (mem : states ∈ Lcm.stateList) (state : lcmocc.operationState = states.1)
    (ok : Recoverable s lcmocc) :
    ∃ s', changeLcmocc clock states.2 lcmocc s = (s', none) ∧ SameContext s s' ∧
      s'.lcmoccs = s.lcmoccs.put (recoveredAs clock states.2 lcmocc) := by
  obtain ⟨inst, get, free, set⟩ := ok
  have found := (Subsc.collect_iff (Subsc.decides_matchLccn .vnfLcmOperationOccurrenceNotification
    (some lcmocc.operation) (some states.2)) s.subscs).mpr free
  obtain ⟨nfvo, took⟩ : ∃ nfvo', s.nfvo.recvLcmoccNotification (recoveredAs clock states.2 lcmocc)
      inst = .ok nfvo' := by
    apply recvLcmoccNotification_ok
    · show states.2 = .rolledBack ∨ states.2 = .failedTemp
      rcases afterState_cases mem with ⟨after, -⟩ | ⟨after, -⟩
      · exact Or.inl after
      · exact Or.inr after
    · intro op after
      apply set op
      rcases afterState_cases mem with ⟨-, before⟩ | ⟨failed, -⟩
      · exact state.trans before
      · have after : states.2 = .rolledBack := after
        cases failed.symm.trans after
  unfold changeLcmocc
  rw [get]
  dsimp only
  unfold sendLcmoccNotification
  have found : Subsc.getLcmoccSubscs s.subscs (recoveredAs clock states.2 lcmocc).operation
      (recoveredAs clock states.2 lcmocc).operationState inst.toVnfInstance = .ok _ := found
  dsimp only
  rw [found]
  dsimp only
  rw [took]
  exact ⟨_, rfl, ⟨rfl, rfl⟩, rfl⟩

/-- Any other one ends the recovery. -/
lemma changeLcmocc_raises (mem : states ∈ Lcm.stateList) (state : lcmocc.operationState = states.1)
    (not : ¬ Recoverable s lcmocc) : (changeLcmocc clock states.2 lcmocc s).2 ≠ none := by
  unfold changeLcmocc
  cases get : s.insts.get lcmocc.vnfInstanceId with
  | none => exact Option.some_ne_none _
  | some inst =>
    dsimp only
    unfold sendLcmoccNotification
    by_cases stuck : SomeStuck (·.vnfInstanceSubscriptionFilter) inst.toVnfInstance s.subscs
    · obtain ⟨ex, raised⟩ := collect_error
        (Subsc.decides_matchLccn .vnfLcmOperationOccurrenceNotification (some lcmocc.operation)
          (some states.2)) s.subscs [] stuck
      have raised : Subsc.getLcmoccSubscs s.subscs (recoveredAs clock states.2 lcmocc).operation
          (recoveredAs clock states.2 lcmocc).operationState inst.toVnfInstance = .error ex := raised
      dsimp only
      rw [raised]
      exact Option.some_ne_none _
    · have unset : lcmocc.operation = .instantiate ∧ lcmocc.operationState = .starting ∧
          inst.vimConnectionInfo = none := by
        by_contra set
        apply not
        refine ⟨inst, get, stuck, fun op starting unset => set ⟨op, starting, unset⟩⟩
      obtain ⟨op, starting, unset⟩ := unset
      have after : states.2 = .rolledBack := by
        rcases afterState_cases mem with ⟨after, -⟩ | ⟨-, other⟩
        · exact after
        · exact absurd (state.symm.trans starting) other
      have raised := recvLcmoccNotification_raises s.nfvo (recoveredAs clock states.2 lcmocc)
        op after unset
      dsimp only
      split
      · exact Option.some_ne_none _
      · rw [raised]
        exact Option.some_ne_none _

/-! ## The occurrences of one state -/

/-- The rows of a query for the occurrences of a state. -/
lemma mem_query {row : LcmOpOcc} :
    row ∈ order.arrange (s.lcmoccs.select (fun row => row.operationState = states.1)) ↔
      s.lcmoccs.get row.id = some row ∧ row.operationState = states.1 := by
  rw [(order.perm _).mem_iff, Table.mem_select, decide_eq_true_eq]

/-- What a part of the loop has done to the occurrences. -/
def Changed (clock : String → Nat) (afterState : LcmOperationState) (s : State)
    (front : List LcmOpOcc) (s' : State) : Prop :=
  SameContext s s' ∧ ∀ id, s'.lcmoccs.get id =
    (s.lcmoccs.get id).map (fun row => if row ∈ front then recoveredAs clock afterState row else row)

/-- One more turn. -/
lemma Changed.turn {front : List LcmOpOcc} {s₁ : State}
    (changed : Changed clock states.2 s front s₁) (mem : states ∈ Lcm.stateList)
    (get : s.lcmoccs.get lcmocc.id = some lcmocc) (state : lcmocc.operationState = states.1)
    (ok : Recoverable s lcmocc) :
    ∃ s', changeLcmocc clock states.2 lcmocc s₁ = (s', none) ∧
      Changed clock states.2 s (front ++ [lcmocc]) s' := by
  obtain ⟨same, gets⟩ := changed
  obtain ⟨s', ran, same', lcmoccs⟩ := changeLcmocc_ok mem state (same.recoverable.mpr ok)
  refine ⟨s', ran, same.trans same', fun id => ?_⟩
  rw [lcmoccs, Table.get_put]
  by_cases this : lcmocc.id = id
  · have this : (recoveredAs clock states.2 lcmocc).id = id := this
    rw [if_pos this, ← this]
    show _ = (s.lcmoccs.get lcmocc.id).map _
    rw [get, Option.map_some, if_pos (List.mem_append_right front List.mem_cons_self)]
  · have other : (recoveredAs clock states.2 lcmocc).id ≠ id := this
    rw [if_neg other, gets]
    cases found : s.lcmoccs.get id with
    | none => rfl
    | some row =>
      have distinct : row ≠ lcmocc := by
        rintro rfl
        exact this (Table.key_of_get found)
      rw [Option.map_some, Option.map_some]
      simp only [List.mem_append, List.mem_singleton, distinct, or_false]

/-- The inner loop over occurrences that are all recoverable. -/
lemma changeLcmoccsIn_ok (order : RowOrder) (clock : String → Nat) (mem : states ∈ Lcm.stateList)
    (all : ∀ row ∈ s.lcmoccs.rows, row.operationState = states.1 → Recoverable s row) :
    ∃ s', changeLcmoccsIn order clock states s = (s', none) ∧ SameContext s s' ∧
      ∀ id, s'.lcmoccs.get id = (s.lcmoccs.get id).map
        (fun row => if row.operationState = states.1 then recoveredAs clock states.2 row else row) := by
  have turn : ∀ front, ∀ row ∈ order.arrange (s.lcmoccs.select (fun row =>
      row.operationState = states.1)), ∀ s₁, Changed clock states.2 s front s₁ →
      ∃ s', changeLcmocc clock states.2 row s₁ = (s', none) ∧
        Changed clock states.2 s (front ++ [row]) s' := by
    intro front row inQuery s₁ changed
    obtain ⟨get, state⟩ := mem_query.mp inQuery
    exact changed.turn mem get state (all row (Table.get_eq_some.mp get).1 state)
  obtain ⟨s', ran, same, gets⟩ := forEach_ok _ turn [] s ⟨⟨rfl, rfl⟩, fun id => by simp⟩
  refine ⟨s', ran, same, fun id => ?_⟩
  rw [gets id]
  cases get : s.lcmoccs.get id with
  | none => rfl
  | some row =>
    obtain rfl := Table.key_of_get get
    simp only [List.nil_append, Option.map_some, mem_query, get, true_and]

/-- The inner loop over occurrences one of which is not recoverable. -/
lemma changeLcmoccsIn_raises (mem : states ∈ Lcm.stateList)
    (some : ∃ row ∈ s.lcmoccs.rows, row.operationState = states.1 ∧ ¬ Recoverable s row) :
    (changeLcmoccsIn order clock states s).2 ≠ none := by
  obtain ⟨row, memRow, state, not⟩ := some
  apply forEach_raises (J := SameContext s)
  · exact fun x _ s₁ same => same.trans changeLcmocc_keeps
  · refine ⟨row, mem_query.mpr ⟨Table.get_eq_some.mpr ⟨memRow, rfl⟩, state⟩, fun s₁ same => ?_⟩
    exact changeLcmocc_raises mem state (fun ok => not (same.recoverable.mp ok))
  · exact ⟨rfl, rfl⟩

/-! ## The whole recovery -/

/-- One turn of the outer loop, in a state in which the occurrences of some states have been
handled: it succeeds if those of the next state are recoverable, and raises otherwise. -/
lemma changeLcmoccsIn_cases (order : RowOrder) (clock : String → Nat) {s₁ : State}
    (f : LcmOpOcc → LcmOpOcc) (states : LcmOperationState × LcmOperationState)
    (mem : states ∈ Lcm.stateList) (same : SameContext s s₁)
    (gets : ∀ id, s₁.lcmoccs.get id = (s.lcmoccs.get id).map f)
    (keeps : ∀ row, (f row).operationState = states.1 ↔ row.operationState = states.1)
    (untouched : ∀ row, row.operationState = states.1 → f row = row) :
    ((∀ row ∈ s.lcmoccs.rows, row.operationState = states.1 → Recoverable s row) ∧
      ∃ s₂, changeLcmoccsIn order clock states s₁ = (s₂, none) ∧ SameContext s s₂ ∧
        ∀ id, s₂.lcmoccs.get id = (s.lcmoccs.get id).map
          (fun row => if row.operationState = states.1 then recoveredAs clock states.2 row
            else f row)) ∨
    (¬ (∀ row ∈ s.lcmoccs.rows, row.operationState = states.1 → Recoverable s row) ∧
      (changeLcmoccsIn order clock states s₁).2 ≠ none) := by
  by_cases all : ∀ row ∈ s.lcmoccs.rows, row.operationState = states.1 → Recoverable s row
  · refine Or.inl ⟨all, ?_⟩
    obtain ⟨s₂, ran, same', gets'⟩ := changeLcmoccsIn_ok order clock mem
      (fun row memRow state => by
        have get := Table.get_eq_some.mpr ⟨memRow, rfl⟩
        rw [gets] at get
        obtain ⟨old, getOld, eq⟩ := Option.map_eq_some_iff.mp get
        have stateOld : old.operationState = states.1 := (keeps old).mp (eq ▸ state)
        have isOld : row = old := eq.symm.trans (untouched old stateOld)
        rw [isOld]
        exact same.recoverable.mpr (all old (Table.get_eq_some.mp getOld).1 stateOld))
    refine ⟨s₂, ran, same.trans same', fun id => ?_⟩
    rw [gets', gets, Option.map_map]
    congr 1
    funext row
    show (if (f row).operationState = states.1 then recoveredAs clock states.2 (f row)
      else f row) = _
    by_cases state : row.operationState = states.1
    · rw [if_pos ((keeps row).mpr state), if_pos state, untouched row state]
    · rw [if_neg (fun is => state ((keeps row).mp is)), if_neg state]
  · refine Or.inr ⟨all, ?_⟩
    apply changeLcmoccsIn_raises mem
    push Not at all
    obtain ⟨row, memRow, state, not⟩ := all
    have get := gets row.id
    rw [Table.get_eq_some.mpr ⟨memRow, rfl⟩, Option.map_some, untouched row state] at get
    exact ⟨row, (Table.get_eq_some.mp get).1, state, fun ok => not (same.recoverable.mp ok)⟩

/-- The recovery ends normally; no interrupted occurrence is left, and every occurrence is what the
recovery is to make of it. -/
def Recovers (order : RowOrder) (clock : String → Nat) (s : State) : Prop :=
  ∃ s', changeLcmOpState order clock s = (s', none) ∧
    (∀ row ∈ s'.lcmoccs.rows, isInterrupted row.operationState = false) ∧
    ∀ id, s'.lcmoccs.get id = (s.lcmoccs.get id).map (recovered clock)

lemma not_recovers (raised : (changeLcmOpState order clock s).2 ≠ none) :
    ¬ Recovers order clock s := by
  rintro ⟨s', ran, -⟩
  exact raised (congrArg Prod.snd ran)

lemma isInterrupted_recovered (row : LcmOpOcc) :
    isInterrupted (recovered clock row).operationState = false := by
  unfold recovered
  split
  · rfl
  · rfl
  · rfl
  · cases state : row.operationState <;> first | rfl | contradiction

/-- The rows as they were inserted. -/
def RowOrder.inserted : RowOrder where
  arrange rows := rows
  perm _ := List.Perm.refl _

/-- The conductor was stopped while a new instance was being instantiated and another one healed. -/
def stoppedEarly : State where
  lcmoccs := {
    rows := [⟨"inst-occ", "new", .instantiate, .starting, 0, .unset⟩,
      ⟨"heal-occ", "old", .heal, .processing, 0, .unset⟩]
    nodup := by decide }
  insts := {
    rows := [⟨⟨"new", some "new", "vnfd", "provider", "product", "1.0", "1.0"⟩, none⟩,
      ⟨⟨"old", some "old", "vnfd", "provider", "product", "1.0", "1.0"⟩,
        some [("vim", { vimType := "ETSINFV.OPENSTACK_KEYSTONE.V_3" })]⟩]
    nodup := by decide }
  subscs := []

end Tacker.Conductor
