import Mathlib.Logic.Function.Basic
import Tacker.Basis.Run
import Tacker.Conductor.ChangeLcmOpState

/-!
# Usage states of VNF packages

How the local NFVO keeps the usage states of the packages while instances are created, deleted and
moved to other packages. The API server and the conductors are processes with a `LocalNfvo` each. A
step is one transaction on the instances together with the notification that it is followed by, or
one access of `_update_vnf_pkg_usage_state` to the database, so that the updates of different
processes interleave. Only the operations that may change the VNFD of an instance are shown.
-/

namespace Tacker.Usage

open Tacker.Basis
open Tacker.Conductor (VnfInstance LocalNfvo PackageUsageState)
open Tacker.Objects (LcmOperationState)

/-- What `_update_vnf_pkg_usage_state` has still to do. -/
inductive Access where
  /-- The package is no longer in use, if no instance refers to the VNFD. -/
  | query (vnfdId : String)
  /-- The usage state is saved. -/
  | save (vnfdId : String) (state : PackageUsageState)
deriving DecidableEq

/-- The VNFD that the access is for. -/
def Access.vnfdId : Access → String
  | .query vnfdId | .save vnfdId _ => vnfdId

/-- `_update_vnf_pkg_usage_state` when it is called. -/
def updateVnfPkgUsageState : String × PackageUsageState → Access
  | (vnfdId, .notInUse) => .query vnfdId
  | (vnfdId, .inUse) => .save vnfdId .inUse

/-- The operations that may change the VNFD of an instance. -/
inductive Kind where
  | modifyInfo
  | changeVnfpkg
deriving DecidableEq

/-- Who has an operation: the message for the conductors, a conductor, which holds the lock of the
instance meanwhile, or nobody. -/
inductive Runner (κ : Type) where
  | message
  | conductor (process : κ)
  | nobody
deriving DecidableEq

/-- The conductor that runs an operation. -/
def Runner.process? {κ : Type} : Runner κ → Option κ
  | .conductor process => some process
  | _ => none

/-- An operation that has not ended. -/
structure Operation (κ : Type) where
  id : String
  vnfInstanceId : String
  operation : Kind
  vnfdId : Option String
  operationState : LcmOperationState
  runner : Runner κ

/-- What a process has still to do to the usage states. -/
structure Update (κ : Type) where
  process : κ
  accesses : List Access

/-- The database and the processes. A package is known by its VNFD. -/
structure State (κ : Type) where
  insts : Table (fun inst : VnfInstance => inst.id)
  packages : String → Option PackageUsageState
  operations : Table (fun operation : Operation κ => operation.id)
  nfvo : κ → LocalNfvo
  updates : List (Update κ)

/-- The steps. -/
inductive Event (κ : Type) where
  | onboard (vnfdId : String)
  | removePackage (vnfdId : String)
  | create (process : κ) (inst : VnfInstance)
  | delete (process : κ) (instId : String)
  | request (id instId : String) (operation : Kind) (vnfdId : Option String)
  | start (process : κ) (id : String)
  | reject (process : κ) (id : String)
  | complete (id : String)
  | failTemp (id : String)
  | retry (process : κ) (id : String)
  | rollback (process : κ) (id : String)
  | rolledBack (id : String)
  | fail (id : String)
  | recover (process : κ) (id : String)
  | access (place : ℕ)
  | crash (process : κ)

variable {κ : Type} [DecidableEq κ]

/-- Some instance refers to the VNFD. -/
def State.refers (s : State κ) (vnfdId : String) : Bool :=
  s.insts.rows.any fun inst => inst.vnfdId = vnfdId

/-- A conductor holds the lock of the instance. -/
def State.isLocked (s : State κ) (instId : String) : Bool :=
  s.operations.rows.any fun operation =>
    operation.vnfInstanceId = instId && operation.runner.process?.isSome

/-- The conductor runs an operation. -/
def State.isRunning (s : State κ) (process : κ) : Bool :=
  s.operations.rows.any fun operation => operation.runner = .conductor process

/-- `check_lcmocc_in_progress`: whether it passes. It looks for `FAILED_TEMP` only. -/
def State.checkLcmoccInProgress (s : State κ) (instId : String) : Bool :=
  !s.operations.rows.any fun operation =>
    operation.vnfInstanceId = instId && operation.operationState = .failedTemp

/-- `recv_lcmocc_notification` of a process, for an operation that may change the VNFD. -/
def State.notify (s : State κ) (process : κ) (operationState : LcmOperationState) (inst : VnfInstance) :
    State κ :=
  let nfvo := (s.nfvo process).recvVnfdChange operationState inst
  { s with
    nfvo := Function.update s.nfvo process { nfvo with usageStates := [] }
    updates := s.updates ++ [⟨process, nfvo.usageStates.map updateVnfPkgUsageState⟩] }

/-- The process sets out to update a usage state. -/
def State.update (s : State κ) (process : κ) (vnfdId : String) (state : PackageUsageState) : State κ :=
  { s with updates := s.updates ++ [⟨process, [updateVnfPkgUsageState (vnfdId, state)]⟩] }

/-- The operation is recorded in the given state and with the given runner, and the process notifies
of it. -/
def State.record (s : State κ) (process : κ) (inst : VnfInstance) (operation : Operation κ)
    (operationState : LcmOperationState) (runner : Runner κ) : State κ :=
  { s with
    operations := s.operations.put
      { operation with operationState := operationState, runner := runner } }.notify
    process operationState inst

/-- The operation has ended in the given state, and the process notifies of it. -/
def State.finish (s : State κ) (process : κ) (inst : VnfInstance) (operation : Operation κ)
    (operationState : LcmOperationState) : State κ :=
  { s with operations := s.operations.erase operation.id }.notify process operationState inst

/-- The instance with the VNFD that the operation asks for. -/
def moved (operation : Operation κ) (inst : VnfInstance) : VnfInstance :=
  { inst with vnfdId := operation.vnfdId.getD inst.vnfdId }

/-- The operation after its conductor crashed, if that is the given one. -/
def Operation.interrupted (operation : Operation κ) (process : κ) : Operation κ :=
  { operation with
    runner := if operation.runner = .conductor process then .nobody else operation.runner }

lemma Operation.interrupted_id (process : κ) (operation : Operation κ) :
    (operation.interrupted process).id = operation.id := rfl

/-- `onboarded_show`, as far as the requests need it: the package is there. -/
def State.isOnboarded (s : State κ) (vnfdId : String) : Bool :=
  (s.packages vnfdId).isSome

/-- The checks of `update` and `change_vnfpkg`. -/
def State.accepts (s : State κ) (inst : VnfInstance) (operation : Kind) : Option String → Bool
  | none => operation = .modifyInfo
  | some vnfdId => s.isOnboarded vnfdId || operation = .modifyInfo && vnfdId = inst.vnfdId

/-- One access of `_update_vnf_pkg_usage_state`. -/
def State.access (s : State κ) (place : ℕ) (update : Update κ) : State κ :=
  match update.accesses with
  | [] => s
  | .query vnfdId :: rest =>
    if s.isOnboarded vnfdId && !s.refers vnfdId then
      { s with updates := s.updates.set place { update with accesses := .save vnfdId .notInUse :: rest } }
    else { s with updates := s.updates.set place { update with accesses := rest } }
  | .save vnfdId state :: rest =>
    { s with
      packages := Function.update s.packages vnfdId ((s.packages vnfdId).map fun _ => state)
      updates := s.updates.set place { update with accesses := rest } }

/-- One step. -/
def next (s : State κ) : Event κ → Option (State κ)
  | .onboard vnfdId =>
    if s.isOnboarded vnfdId then none
    else some { s with packages := Function.update s.packages vnfdId (some .notInUse) }
  | .removePackage vnfdId =>
    if s.packages vnfdId = some .notInUse then
      some { s with packages := Function.update s.packages vnfdId none }
    else none
  | .create process inst =>
    if s.isOnboarded inst.vnfdId then
      (s.insts.insert inst).map fun insts =>
        { s with insts := insts }.update process inst.vnfdId .inUse
    else none
  | .delete process instId => do
    let inst ← s.insts.get instId
    if !s.isLocked instId && s.checkLcmoccInProgress instId then
      some ({ s with insts := s.insts.erase instId }.update process inst.vnfdId .notInUse)
    else none
  | .request id instId operation vnfdId => do
    let inst ← s.insts.get instId
    if !s.isLocked instId && s.checkLcmoccInProgress instId && s.accepts inst operation vnfdId then
      let operations ← s.operations.insert
        { id := id
          vnfInstanceId := instId
          operation := operation
          vnfdId := vnfdId
          operationState := if operation = .modifyInfo then .processing else .starting
          runner := .message }
      some { s with operations := operations }
    else none
  | .start process id => do
    let operation ← s.operations.get id
    let inst ← s.insts.get operation.vnfInstanceId
    if !s.isLocked inst.id && operation.runner = .message then
      some (s.record process inst operation .processing (.conductor process))
    else none
  | .reject process id => do
    let operation ← s.operations.get id
    let inst ← s.insts.get operation.vnfInstanceId
    if !s.isLocked inst.id && operation.runner = .message && operation.operationState = .starting then
      some (s.finish process inst operation .rolledBack)
    else none
  | .complete id => do
    let operation ← s.operations.get id
    let inst ← s.insts.get operation.vnfInstanceId
    let process ← operation.runner.process?
    if operation.operationState = .processing then
      some ({ s with insts := s.insts.put (moved operation inst) }.finish process
        (moved operation inst) operation .completed)
    else none
  | .failTemp id => do
    let operation ← s.operations.get id
    let inst ← s.insts.get operation.vnfInstanceId
    let process ← operation.runner.process?
    some (s.record process inst operation .failedTemp .nobody)
  | .retry process id => do
    let operation ← s.operations.get id
    let inst ← s.insts.get operation.vnfInstanceId
    if !s.isLocked inst.id && operation.operationState = .failedTemp then
      some (s.record process inst operation .processing (.conductor process))
    else none
  | .rollback process id => do
    let operation ← s.operations.get id
    let inst ← s.insts.get operation.vnfInstanceId
    if !s.isLocked inst.id && operation.operationState = .failedTemp then
      some (s.record process inst operation .rollingBack (.conductor process))
    else none
  | .rolledBack id => do
    let operation ← s.operations.get id
    let inst ← s.insts.get operation.vnfInstanceId
    let process ← operation.runner.process?
    if operation.operationState = .rollingBack then
      some (s.finish process inst operation .rolledBack)
    else none
  | .fail id => do
    let operation ← s.operations.get id
    if !s.isLocked operation.vnfInstanceId && operation.operationState = .failedTemp then
      some { s with operations := s.operations.erase id }
    else none
  | .recover process id => do
    let operation ← s.operations.get id
    let inst ← s.insts.get operation.vnfInstanceId
    if operation.runner.process? = none && !s.isRunning process then
      match operation.operationState with
      | .starting => some (s.finish process inst operation .rolledBack)
      | .processing | .rollingBack => some (s.record process inst operation .failedTemp .nobody)
      | _ => none
    else none
  | .access place => (s.updates[place]?).map (s.access place)
  | .crash process =>
    some { s with
      nfvo := Function.update s.nfvo process {}
      updates := s.updates.filter fun update => update.process ≠ process
      operations := s.operations.mapRows (·.interrupted process) (Operation.interrupted_id process) }

/-!
## The steps of the usage states

What each step does, one rule for each outcome.
-/

variable {s t : State κ} {e : Event κ}

/-- The operation is in the database, and so is its instance. -/
structure Found (s : State κ) (id : String) (operation : Operation κ) (inst : VnfInstance) : Prop where
  row : s.operations.get id = some operation
  inst : s.insts.get operation.vnfInstanceId = some inst

/-- The outcomes of the steps. -/
inductive Takes (s : State κ) : Event κ → State κ → Prop where
  | onboard {vnfdId} (missing : s.packages vnfdId = none) : Takes s (.onboard vnfdId)
      { s with packages := Function.update s.packages vnfdId (some .notInUse) }
  | removePackage {vnfdId} (free : s.packages vnfdId = some .notInUse) :
      Takes s (.removePackage vnfdId) { s with packages := Function.update s.packages vnfdId none }
  | create {process inst insts} (onboarded : s.isOnboarded inst.vnfdId = true)
      (fresh : s.insts.insert inst = some insts) : Takes s (.create process inst)
        ({ s with insts := insts }.update process inst.vnfdId .inUse)
  | delete {process instId inst} (found : s.insts.get instId = some inst)
      (unlocked : s.isLocked instId = false) : Takes s (.delete process instId)
        ({ s with insts := s.insts.erase instId }.update process inst.vnfdId .notInUse)
  | request {id instId kind vnfdId inst operation operations} (found : s.insts.get instId = some inst)
      (accepts : s.accepts inst kind vnfdId = true) (new : operation.vnfInstanceId = instId)
      (asks : operation.vnfdId = vnfdId) (sent : operation.runner = .message)
      (fresh : s.operations.insert operation = some operations) :
      Takes s (.request id instId kind vnfdId) { s with operations := operations }
  | start {process id operation inst} (found : Found s id operation inst)
      (unlocked : s.isLocked inst.id = false) : Takes s (.start process id)
        (s.record process inst operation .processing (.conductor process))
  | reject {process id operation inst} (found : Found s id operation inst)
      (unlocked : s.isLocked inst.id = false) : Takes s (.reject process id)
        (s.finish process inst operation .rolledBack)
  | complete {id operation inst process} (found : Found s id operation inst)
      (runner : operation.runner = .conductor process)
      (state : operation.operationState = .processing) : Takes s (.complete id)
        ({ s with insts := s.insts.put (moved operation inst) }.finish process
          (moved operation inst) operation .completed)
  | failTemp {id operation inst process} (found : Found s id operation inst)
      (runner : operation.runner = .conductor process) : Takes s (.failTemp id)
        (s.record process inst operation .failedTemp .nobody)
  | retry {process id operation inst} (found : Found s id operation inst)
      (unlocked : s.isLocked inst.id = false) : Takes s (.retry process id)
        (s.record process inst operation .processing (.conductor process))
  | rollback {process id operation inst} (found : Found s id operation inst)
      (unlocked : s.isLocked inst.id = false) : Takes s (.rollback process id)
        (s.record process inst operation .rollingBack (.conductor process))
  | rolledBack {id operation inst process} (found : Found s id operation inst)
      (runner : operation.runner = .conductor process) : Takes s (.rolledBack id)
        (s.finish process inst operation .rolledBack)
  | fail {id} : Takes s (.fail id) { s with operations := s.operations.erase id }
  | recoverStarting {process id operation inst} (found : Found s id operation inst)
      (idle : s.isRunning process = false) : Takes s (.recover process id)
        (s.finish process inst operation .rolledBack)
  | recover {process id operation inst} (found : Found s id operation inst)
      (idle : s.isRunning process = false) : Takes s (.recover process id)
        (s.record process inst operation .failedTemp .nobody)
  | access {place update} (there : s.updates[place]? = some update) :
      Takes s (.access place) (s.access place update)
  | crash {process} : Takes s (.crash process)
      { s with
        nfvo := Function.update s.nfvo process {}
        updates := s.updates.filter fun update => update.process ≠ process
        operations := s.operations.mapRows (·.interrupted process) (Operation.interrupted_id process) }

omit [DecidableEq κ] in
/-- The runner is a conductor. -/
lemma runner_of_process {runner : Runner κ} {process : κ} (eq : runner.process? = some process) :
    runner = .conductor process := by
  cases runner with
  | conductor process' =>
    cases eq
    rfl
  | message => cases eq
  | nobody => cases eq

omit [DecidableEq κ] in
/-- The operation and its instance were read. -/
lemma found_of_bind {id : String} {f : Operation κ → VnfInstance → Option (State κ)}
    (eq : ((s.operations.get id).bind fun operation =>
      (s.insts.get operation.vnfInstanceId).bind fun inst => f operation inst) = some t) :
    ∃ operation inst, Found s id operation inst ∧ f operation inst = some t := by
  obtain ⟨operation, there, eq⟩ := Option.bind_eq_some_iff.mp eq
  obtain ⟨inst, found, eq⟩ := Option.bind_eq_some_iff.mp eq
  exact ⟨operation, inst, ⟨there, found⟩, eq⟩

/-- A step has one of the outcomes. -/
theorem takes_of_next (eq : next s e = some t) : Takes s e t := by
  cases e with
  | onboard vnfdId =>
    rw [next] at eq
    split at eq
    · cases eq
    · case isFalse missing =>
      cases eq
      exact .onboard (by simpa [State.isOnboarded] using missing)
  | removePackage vnfdId =>
    obtain ⟨free, ⟨⟩⟩ := Option.ite_none_right_eq_some.mp eq
    exact .removePackage free
  | create process inst =>
    obtain ⟨onboarded, eq⟩ := Option.ite_none_right_eq_some.mp eq
    obtain ⟨insts, fresh, rfl⟩ := Option.map_eq_some_iff.mp eq
    exact .create onboarded fresh
  | delete process instId =>
    obtain ⟨inst, found, eq⟩ := Option.bind_eq_some_iff.mp eq
    obtain ⟨free, ⟨⟩⟩ := Option.ite_none_right_eq_some.mp eq
    exact .delete found (Bool.eq_false_of_not_eq_true' (Bool.and_eq_true_iff.mp free).1)
  | request id instId kind vnfdId =>
    obtain ⟨inst, found, eq⟩ := Option.bind_eq_some_iff.mp eq
    obtain ⟨free, eq⟩ := Option.ite_none_right_eq_some.mp eq
    obtain ⟨operations, fresh, ⟨⟩⟩ := Option.bind_eq_some_iff.mp eq
    exact .request found (Bool.and_eq_true_iff.mp free).2 rfl rfl rfl fresh
  | start process id =>
    obtain ⟨operation, inst, found, eq⟩ := found_of_bind eq
    obtain ⟨free, ⟨⟩⟩ := Option.ite_none_right_eq_some.mp eq
    exact .start found (Bool.eq_false_of_not_eq_true' (Bool.and_eq_true_iff.mp free).1)
  | reject process id =>
    obtain ⟨operation, inst, found, eq⟩ := found_of_bind eq
    obtain ⟨free, ⟨⟩⟩ := Option.ite_none_right_eq_some.mp eq
    exact .reject found
      (Bool.eq_false_of_not_eq_true' (Bool.and_eq_true_iff.mp (Bool.and_eq_true_iff.mp free).1).1)
  | complete id =>
    obtain ⟨operation, inst, found, eq⟩ := found_of_bind eq
    obtain ⟨process, runner, eq⟩ := Option.bind_eq_some_iff.mp eq
    obtain ⟨state, ⟨⟩⟩ := Option.ite_none_right_eq_some.mp eq
    exact .complete found (runner_of_process runner) state
  | failTemp id =>
    obtain ⟨operation, inst, found, eq⟩ := found_of_bind eq
    obtain ⟨process, runner, ⟨⟩⟩ := Option.bind_eq_some_iff.mp eq
    exact .failTemp found (runner_of_process runner)
  | retry process id =>
    obtain ⟨operation, inst, found, eq⟩ := found_of_bind eq
    obtain ⟨free, ⟨⟩⟩ := Option.ite_none_right_eq_some.mp eq
    exact .retry found (Bool.eq_false_of_not_eq_true' (Bool.and_eq_true_iff.mp free).1)
  | rollback process id =>
    obtain ⟨operation, inst, found, eq⟩ := found_of_bind eq
    obtain ⟨free, ⟨⟩⟩ := Option.ite_none_right_eq_some.mp eq
    exact .rollback found (Bool.eq_false_of_not_eq_true' (Bool.and_eq_true_iff.mp free).1)
  | rolledBack id =>
    obtain ⟨operation, inst, found, eq⟩ := found_of_bind eq
    obtain ⟨process, runner, eq⟩ := Option.bind_eq_some_iff.mp eq
    obtain ⟨-, ⟨⟩⟩ := Option.ite_none_right_eq_some.mp eq
    exact .rolledBack found (runner_of_process runner)
  | fail id =>
    obtain ⟨operation, -, eq⟩ := Option.bind_eq_some_iff.mp eq
    obtain ⟨-, ⟨⟩⟩ := Option.ite_none_right_eq_some.mp eq
    exact .fail
  | recover process id =>
    obtain ⟨operation, inst, found, eq⟩ := found_of_bind eq
    obtain ⟨free, eq⟩ := Option.ite_none_right_eq_some.mp eq
    have idle := Bool.eq_false_of_not_eq_true' (Bool.and_eq_true_iff.mp free).2
    split at eq
    · cases eq
      exact .recoverStarting found idle
    · cases eq
      exact .recover found idle
    · cases eq
      exact .recover found idle
    · cases eq
  | access place =>
    obtain ⟨update, there, rfl⟩ := Option.map_eq_some_iff.mp eq
    exact .access there
  | crash process =>
    cases eq
    exact .crash

end Tacker.Usage
