import Tacker.Usage.UsageStates

/-!
# What the conductors remember

A conductor that runs an operation remembers the VNFD that the instance had when it began, and no
other operation of the instance is run meanwhile, so that this is the VNFD which the instance still
has when the operation completes.
-/

namespace Tacker.Usage

open Tacker.Basis
open Tacker.Conductor (VnfInstance LocalNfvo PackageUsageState)
open Tacker.Objects (LcmOperationState)

variable {κ : Type} [DecidableEq κ] {s t : State κ} {process : κ} {inst : VnfInstance}
  {operation : Operation κ} {state : LcmOperationState}

/-- What the conductors remember. -/
structure Registered (s : State κ) : Prop where
  alone : ∀ {id id' operation operation' process process'}, s.operations.get id = some operation →
    s.operations.get id' = some operation' → operation.runner = .conductor process →
    operation'.runner = .conductor process' →
    operation.vnfInstanceId = operation'.vnfInstanceId → id = id'
  registered : ∀ {id operation process inst}, s.operations.get id = some operation →
    operation.runner = .conductor process → operation.operationState = .processing →
    s.insts.get operation.vnfInstanceId = some inst →
    (s.nfvo process).instVnfdId inst.id = some inst.vnfdId
  there : ∀ {id operation process}, s.operations.get id = some operation →
    operation.runner = .conductor process → s.insts.get operation.vnfInstanceId ≠ none
  spent : ∀ process, (s.nfvo process).usageStates = []

omit [DecidableEq κ] in
/-- Nobody runs an operation of an instance that is not locked. -/
lemma not_run_of_unlocked {instId : String} (unlocked : s.isLocked instId = false) {id : String}
    (found : s.operations.get id = some operation) (here : operation.vnfInstanceId = instId) :
    operation.runner ≠ .conductor process := by
  intro runner
  have not := List.any_eq_false.mp unlocked operation (Table.get_eq_some.mp found).1
  rw [here, runner, decide_eq_true rfl] at not
  exact not rfl

/-- A conductor that is idle runs no operation. -/
lemma not_run_of_idle (idle : s.isRunning process = false) {id : String}
    (found : s.operations.get id = some operation) : operation.runner ≠ .conductor process := by
  intro runner
  have not := List.any_eq_false.mp idle operation (Table.get_eq_some.mp found).1
  rw [runner, decide_eq_true rfl] at not
  exact not rfl

/-! ## Notifications -/

/-- Only completed operations lead to updates. -/
lemma recvVnfdChange_usageStates {nfvo : LocalNfvo} (state : LcmOperationState) (inst : VnfInstance)
    (going : state ≠ .completed) : (nfvo.recvVnfdChange state inst).usageStates = nfvo.usageStates := by
  cases state with
  | completed => exact absurd rfl going
  | _ => rfl

/-- What is remembered of other instances stays. -/
lemma recvVnfdChange_others {nfvo : LocalNfvo} (state : LcmOperationState) {instId : String}
    (other : instId ≠ inst.id) :
    (nfvo.recvVnfdChange state inst).instVnfdId instId = nfvo.instVnfdId instId := by
  cases state with
  | processing => exact Function.update_of_ne other _ _
  | failedTemp => exact Function.update_of_ne other _ _
  | completed =>
    rw [LocalNfvo.recvVnfdChange]
    split
    · exact Function.update_of_ne other _ _
    · split
      · exact Function.update_of_ne other _ _
      · exact Function.update_of_ne other _ _
  | _ => rfl

/-- What the process has remembered of the instances after the notification. -/
lemma notify_instVnfdId (process' : κ) {instId : String} (other : process' ≠ process ∨ instId ≠ inst.id) :
    ((s.notify process state inst).nfvo process').instVnfdId instId =
      (s.nfvo process').instVnfdId instId := by
  show (Function.update s.nfvo process _ process').instVnfdId instId = _
  by_cases same : process' = process
  · subst same
    rw [Function.update_self]
    exact recvVnfdChange_others state (other.resolve_left fun ne => ne rfl)
  · rw [Function.update_of_ne same]

lemma notify_usageStates (spent : ∀ process, (s.nfvo process).usageStates = []) (process' : κ) :
    ((s.notify process state inst).nfvo process').usageStates = [] := by
  show (Function.update s.nfvo process _ process').usageStates = []
  by_cases same : process' = process
  · subst same
    rw [Function.update_self]
  · rw [Function.update_of_ne same]
    exact spent process'

/-- A notification of an operation that goes on begins no update. -/
lemma notify_updates (spent : ∀ process, (s.nfvo process).usageStates = [])
    (going : state ≠ .completed) :
    (s.notify process state inst).updates = s.updates ++ [⟨process, []⟩] := by
  show s.updates ++ [⟨process, (LocalNfvo.usageStates _).map updateVnfPkgUsageState⟩] = _
  rw [recvVnfdChange_usageStates state inst going, spent process]
  rfl

/-- A notification that an operation completed begins the update of both usage states if the VNFD is not
the one that was remembered. -/
lemma notify_completed (inst : VnfInstance) (spent : ∀ process, (s.nfvo process).usageStates = []) {vnfdId : String}
    (remembered : (s.nfvo process).instVnfdId inst.id = some vnfdId) :
    (s.notify process .completed inst).updates = s.updates ++ [⟨process,
      if vnfdId ≠ inst.vnfdId then [.query vnfdId, .save inst.vnfdId .inUse] else []⟩] := by
  show s.updates ++ [⟨process, (LocalNfvo.usageStates _).map updateVnfPkgUsageState⟩] = _
  rw [LocalNfvo.recvVnfdChange, remembered]
  dsimp only
  split
  · rw [spent process]
    rfl
  · rw [spent process]
    rfl

/-! ## Operations that go on and end -/

/-- An operation goes on, run by the process or by nobody. -/
lemma Registered.record (registered : Registered s) {id : String} (found : Found s id operation inst)
    {runner : Runner κ} (others : ∀ {id' operation'}, s.operations.get id' = some operation' → id' ≠ id →
      operation'.vnfInstanceId = operation.vnfInstanceId → operation'.runner ≠ .conductor process)
    (runs : runner = .nobody ∨ runner = .conductor process ∧ s.isLocked inst.id = false) :
    Registered (s.record process inst operation state runner) := by
  have key : operation.id = id := (Table.get_eq_some.mp found.row).2
  have instKey : inst.id = operation.vnfInstanceId := (Table.get_eq_some.mp found.inst).2
  have rows : ∀ {id' operation'},
      (s.record process inst operation state runner).operations.get id' = some operation' →
      (id' = id ∧ operation' = { operation with operationState := state, runner := runner }) ∨
        (id' ≠ id ∧ s.operations.get id' = some operation') := by
    intro id' operation' there
    replace there : (s.operations.put { operation with operationState := state, runner := runner }).get
      id' = some operation' := there
    rw [Table.get_put] at there
    split at there
    · case isTrue same =>
      cases there
      exact .inl ⟨same.symm.trans key, rfl⟩
    · case isFalse ne => exact .inr ⟨fun same => ne (key.trans same.symm), there⟩
  have free : ∀ {process'}, runner = .conductor process' → ∀ {id' operation' process''},
      s.operations.get id' = some operation' → operation'.vnfInstanceId = operation.vnfInstanceId →
      operation'.runner ≠ .conductor process'' := by
    rintro process' rfl id' operation' process'' there same
    rcases runs with nobody | ⟨-, unlocked⟩
    · cases nobody
    · exact not_run_of_unlocked unlocked there (same.trans instKey.symm)
  refine ⟨?_, ?_, ?_, notify_usageStates registered.spent⟩
  · intro id₁ id₂ operation₁ operation₂ process₁ process₂ there₁ there₂ run₁ run₂ same
    rcases rows there₁ with ⟨rfl, rfl⟩ | ⟨ne₁, there₁⟩
    · rcases rows there₂ with ⟨rfl, rfl⟩ | ⟨ne₂, there₂⟩
      · rfl
      · exact absurd run₂ (free run₁ there₂ same.symm)
    · rcases rows there₂ with ⟨rfl, rfl⟩ | ⟨ne₂, there₂⟩
      · exact absurd run₁ (free run₂ there₁ same)
      · exact registered.alone there₁ there₂ run₁ run₂ same
  · intro id' operation' process' inst' there run processing there'
    rcases rows there with ⟨rfl, rfl⟩ | ⟨ne, there⟩
    · cases found.inst.symm.trans there'
      rcases runs with nobody | ⟨conductor, -⟩
      · cases nobody.symm.trans run
      · cases conductor.symm.trans run
        show (Function.update s.nfvo process _ process).instVnfdId inst.id = _
        obtain rfl : state = .processing := processing
        rw [Function.update_self]
        exact Function.update_self inst.id _ _
    · have same := registered.registered there run processing there'
      have instKey' : inst'.id = operation'.vnfInstanceId := (Table.get_eq_some.mp there').2
      refine (notify_instVnfdId process' ?_).trans same
      by_cases here : process' = process
      · right
        rw [instKey, instKey']
        intro same'
        exact others there ne same' (here ▸ run)
      · exact .inl here
  · intro id' operation' process' there run
    rcases rows there with ⟨rfl, rfl⟩ | ⟨-, there⟩
    · show s.insts.get operation.vnfInstanceId ≠ none
      rw [found.inst]
      exact Option.some_ne_none _
    · exact registered.there there run

/-- An operation ends; its instance may change if nobody runs another operation of it. -/
lemma Registered.finish (registered : Registered s) {id : String} (found : Found s id operation inst)
    {insts : Table (fun inst : VnfInstance => inst.id)} {inst' : VnfInstance} (same : inst'.id = inst.id)
    (elsewhere : ∀ id', id' ≠ inst.id → insts.get id' = s.insts.get id')
    (others : ∀ {id' operation'}, s.operations.get id' = some operation' → id' ≠ id →
      operation'.vnfInstanceId = operation.vnfInstanceId →
      (∀ process', operation'.runner ≠ .conductor process') ∨
        insts = s.insts ∧ operation'.runner ≠ .conductor process) :
    Registered ({ s with insts := insts }.finish process inst' operation state) := by
  have key : operation.id = id := (Table.get_eq_some.mp found.row).2
  have instKey : inst.id = operation.vnfInstanceId := (Table.get_eq_some.mp found.inst).2
  have rows : ∀ {id' operation'},
      (State.finish { s with insts := insts } process inst' operation state).operations.get id' =
        some operation' → id' ≠ id ∧ s.operations.get id' = some operation' := by
    intro id' operation' there
    replace there : (s.operations.erase operation.id).get id' = some operation' := there
    rw [Table.get_erase] at there
    split at there
    · cases there
    · case isFalse ne => exact ⟨fun same => ne (key.trans same.symm), there⟩
  have unchanged : ∀ {id' operation' process'}, s.operations.get id' = some operation' → id' ≠ id →
      operation'.runner = .conductor process' →
      insts.get operation'.vnfInstanceId = s.insts.get operation'.vnfInstanceId := by
    intro id' operation' process' there ne run
    by_cases here : operation'.vnfInstanceId = operation.vnfInstanceId
    · rcases others there ne here with idle | ⟨rfl, -⟩
      · exact absurd run (idle process')
      · rfl
    · apply elsewhere
      rw [instKey]
      exact here
  refine ⟨?_, ?_, ?_, notify_usageStates registered.spent⟩
  · intro id₁ id₂ operation₁ operation₂ process₁ process₂ there₁ there₂ run₁ run₂ same
    exact registered.alone (rows there₁).2 (rows there₂).2 run₁ run₂ same
  · intro id₁ operation₁ process₁ inst₁ there run processing there'
    obtain ⟨ne, there⟩ := rows there
    replace there' : insts.get operation₁.vnfInstanceId = some inst₁ := there'
    rw [unchanged there ne run] at there'
    refine (notify_instVnfdId process₁ ?_).trans (registered.registered there run processing there')
    by_cases here : process₁ = process
    · right
      have instKey₁ : inst₁.id = operation₁.vnfInstanceId := (Table.get_eq_some.mp there').2
      rw [instKey₁, same, instKey]
      intro same'
      rcases others there ne same' with idle | ⟨-, other⟩
      · exact idle process₁ run
      · exact other (here ▸ run)
    · exact .inl here
  · intro id₁ operation₁ process₁ there run
    obtain ⟨ne, there⟩ := rows there
    show insts.get operation₁.vnfInstanceId ≠ none
    rw [unchanged there ne run]
    exact registered.there there run

/-! ## Other steps -/

omit [DecidableEq κ] in
/-- Nothing changes for the operations that are run. -/
lemma Registered.congr (registered : Registered s) (nfvo : t.nfvo = s.nfvo)
    (operations : ∀ {id operation process}, t.operations.get id = some operation →
      operation.runner = .conductor process → s.operations.get id = some operation)
    (insts : ∀ {id operation process}, s.operations.get id = some operation →
      operation.runner = .conductor process →
      t.insts.get operation.vnfInstanceId = s.insts.get operation.vnfInstanceId) : Registered t where
  alone := by
    intro id₁ id₂ operation₁ operation₂ process₁ process₂ there₁ there₂ run₁ run₂ same
    exact registered.alone (operations there₁ run₁) (operations there₂ run₂) run₁ run₂ same
  registered := by
    intro id operation process inst there run processing there'
    rw [insts (operations there run) run] at there'
    rw [nfvo]
    exact registered.registered (operations there run) run processing there'
  there := by
    intro id operation process there run
    rw [insts (operations there run) run]
    exact registered.there (operations there run) run
  spent := by
    rw [nfvo]
    exact registered.spent

/-- A conductor crashes. -/
lemma Registered.crash (registered : Registered s) (process : κ) {updates : List (Update κ)} :
    Registered { s with
      nfvo := Function.update s.nfvo process {}
      updates := updates
      operations := s.operations.mapRows (·.interrupted process) (Operation.interrupted_id process) } := by
  have rows : ∀ {id operation process'},
      (s.operations.mapRows (·.interrupted process) (Operation.interrupted_id process)).get id = some operation →
      operation.runner = .conductor process' →
      s.operations.get id = some operation ∧ process' ≠ process := by
    intro id operation process' there run
    rw [Table.get_mapRows] at there
    obtain ⟨before, found, rfl⟩ := Option.map_eq_some_iff.mp there
    replace run : (if before.runner = .conductor process then Runner.nobody else before.runner) =
      .conductor process' := run
    split at run
    · cases run
    · case isFalse other =>
      have same : before.interrupted process = before := by
        rw [Operation.interrupted, if_neg other]
      rw [same]
      exact ⟨found, fun here => other (here ▸ run)⟩
  refine ⟨?_, ?_, ?_, fun process' => ?_⟩
  · intro id₁ id₂ operation₁ operation₂ process₁ process₂ there₁ there₂ run₁ run₂ same
    exact registered.alone (rows there₁ run₁).1 (rows there₂ run₂).1 run₁ run₂ same
  · intro id operation process' inst there run processing there'
    obtain ⟨there, other⟩ := rows there run
    show (Function.update s.nfvo process {} process').instVnfdId inst.id = _
    rw [Function.update_of_ne other]
    exact registered.registered there run processing there'
  · intro id operation process' there run
    exact registered.there (rows there run).1 run
  · show (Function.update s.nfvo process {} process').usageStates = []
    by_cases same : process' = process
    · subst same
      rw [Function.update_self]
    · rw [Function.update_of_ne same]
      exact registered.spent process'

end Tacker.Usage
