import Tacker.Basis.Run
import Tacker.Lcm.Database
import Tacker.Lcm.Driver

/-!
# The handlers of one VNF instance

The API server and the conductor as a state machine. Every handler is a thread whose program
counter stands before the next statement with an effect that another thread can see: a lock
operation, a database query or transaction, a cast. Copies of rows that a handler has loaded are
part of its program counter. The handlers are those of `controller/vnflcm_v2.py`,
`conductor/vnflcm_auto.py` and `conductor/conductor_v2.py`; the lock is
`coordinate.lock_vnf_instance`.
-/

namespace Tacker.Lcm
open Tacker.Basis Tacker.Objects

/-! ## Requests -/

/-- A request for an LCM operation, by a client or by an automatic trigger in the conductor. -/
inductive Request where
  | api (params : OperationParams)
  | autoScale (req : ScaleVnfRequest)
  | autoHeal
deriving DecidableEq

namespace Request

/-- The body of the request. -/
def params : Request → OperationParams
  | api params => params
  | autoScale req => .scale req
  | autoHeal => .heal

/-- `auto_invocation`. -/
def isAuto : Request → Bool
  | api _ => false
  | autoScale _ | autoHeal => true

/-- Whether the handler is decorated with `lock_vnf_instance`. The API handlers `scale` and `heal`
are not; `_auto_scale_pre` and `_auto_heal_pre` are. -/
def takesLock : Request → Bool
  | api (.scale _) | api .heal => false
  | _ => true

end Request

/-- Whether the handler of the operation accepts the `instantiationState`. -/
def admits : LcmOperationType → InstantiationState → Bool
  | .instantiate, state => state = .notInstantiated
  | .modifyInfo, _ => true
  | _, state => state = .instantiated

/-- The checks of the parameters against the loaded instance. Only SCALE has one that depends on
what this model keeps of the instance; it also sets the default of `numberOfSteps`. -/
def checkParams (inst : VnfInstance) : OperationParams → Except ProblemDetails OperationParams
  | .scale req => do
    let numSteps := req.numberOfSteps.getD 1
    checkScaleLevel inst req.aspectId req.type numSteps
    return .scale { req with numberOfSteps := some numSteps }
  | params => .ok params

/-- A request on an occurrence. -/
inductive Task where
  | retry
  | rollback
  | fail
deriving DecidableEq

/-- The methods of the conductor that the API server casts to. -/
inductive Method where
  | startLcmOp
  | retryLcmOp
  | rollbackLcmOp
  | modifyVnfinfo
deriving DecidableEq

namespace Method

/-- The `operationState` the consistency check of the handler wants. -/
def expected : Method → LcmOperationState
  | startLcmOp => .starting
  | retryLcmOp | rollbackLcmOp => .failedTemp
  | modifyVnfinfo => .processing

/-- The `operationState` under which the handler announces that it has begun. -/
def begun : Method → LcmOperationState
  | startLcmOp => .starting
  | retryLcmOp | modifyVnfinfo => .processing
  | rollbackLcmOp => .rollingBack

/-- The `operationState` while the VIM driver works. -/
def working : Method → LcmOperationState
  | rollbackLcmOp => .rollingBack
  | _ => .processing

end Method

/-- A cast that the conductor has not taken yet. -/
structure Cast where
  method : Method
  lcmoccId : Uuid
deriving DecidableEq

/-- The method a new occurrence is handed over with. -/
def startMethod (op : LcmOperationType) : Method :=
  if op = .modifyInfo then .modifyVnfinfo else .startLcmOp

/-! ## Threads -/

abbrev ThreadId := Nat

/-- The program counters. -/
inductive Thread where
  | idle
  -- a request for an LCM operation
  | lock (r : Request)
  | getInst (r : Request)
  | check (r : Request) (inst : VnfInstance)
  | create (r : Request) (params : OperationParams)
  | cast (locked : Bool) (c : Cast)
  | unlock
  | unlockAuto (occ : LcmOpOcc)
  -- a request on an occurrence
  | loadTask (k : Task) (id : Uuid)
  | lockTask (k : Task) (occ : LcmOpOcc)
  | checkTask (k : Task) (occ : LcmOpOcc)
  | fail (occ : LcmOpOcc) (grants : Option (GrantRequest × Grant))
  -- a handler of the conductor
  | load (c : Cast)
  | wait (m : Method) (occ : LcmOpOcc)
  | enter (m : Method) (occ : LcmOpOcc)
  | mark (m : Method) (occ : LcmOpOcc) (inst : VnfInstance)
  | announce (m : Method) (occ : LcmOpOcc) (inst : VnfInstance)
  | grant (occ : LcmOpOcc) (inst : VnfInstance)
  | notify (occ : LcmOpOcc) (inst : VnfInstance) (grantReq : GrantRequest) (grant : Grant)
  | lookup (m : Method) (occ : LcmOpOcc) (inst : VnfInstance)
  | work (m : Method) (occ : LcmOpOcc) (inst : VnfInstance)
      (grants : Option (GrantRequest × Grant))
  | report
  -- the periodic database synchronization
  | lockSync
  | sync
  | storeSync (inst : VnfInstance)
deriving DecidableEq

namespace Thread

/-- Whether the thread is inside a function decorated with `lock_vnf_instance`. -/
def owns : Thread → Bool
  | idle | lock _ | loadTask _ _ | lockTask _ _ | load _ | wait _ _ | lockSync => false
  | getInst r | check r _ | create r _ => r.takesLock
  | cast locked _ => locked
  | _ => true

/-- Whether the thread runs in the conductor. -/
def inConductor : Thread → Bool
  | lock r | getInst r | check r _ | create r _ => r.isAuto
  | idle | cast _ _ | unlock | loadTask _ _ | lockTask _ _ | checkTask _ _ | fail _ _ => false
  | _ => true

end Thread

/-- The state all threads share. -/
structure Shared where
  db : Db
  lock : Option ThreadId := none
  casts : List Cast := []

/-- What a thread does next. -/
inductive Action where
  -- the next statement
  | go
  -- the lock is taken, or the attempt to take it is given up
  | acquire
  | expire
  -- the identifier and the time of a new occurrence
  | create (id : Uuid) (now : Nat)
  -- the NFVO grants
  | granted (grantId : Uuid)
  -- the VIM driver is done
  | done (answer : VimAnswer)
  | synced (info : InstantiatedVnfInfo)
  -- an exception in a try block, and one that nothing catches
  | failed (ex : ProblemDetails)
  | abort
deriving DecidableEq

namespace Shared

/-- The lock is taken if it is free. -/
def take (sh : Shared) (t : ThreadId) (th : Thread) : Option (Shared × Thread) :=
  if sh.lock = none then some ({ sh with lock := some t }, th) else none

/-- The attempt to take the lock ends the handler; another thread holds the lock. -/
def giveUp (sh : Shared) : Option (Shared × Thread) :=
  if sh.lock = none then none else some (sh, .idle)

/-- The handler ends, and with it its hold of the lock. -/
def leave (sh : Shared) (th : Thread) : Shared × Thread :=
  (if th.owns then { sh with lock := none } else sh, .idle)

/-- The occurrence is stored and the handler goes on. -/
def store (sh : Shared) (occ : LcmOpOcc) (th : Thread) : Shared × Thread :=
  ({ sh with db := sh.db.updateLcmocc occ }, th)

/-- The `except` clauses: the occurrence is stored with the state and the error. -/
def except (sh : Shared) (occ : LcmOpOcc) (opState : LcmOperationState) (ex : ProblemDetails) :
    Shared × Thread :=
  sh.store (setLcmoccError (updateLcmoccStatus occ opState) ex) .report

end Shared

/-- The exception of the database if a primary key is taken. -/
def duplicateEntry : ProblemDetails where
  status := 500
  detail := "Duplicate entry for key 'PRIMARY'"

/-- The grant request of an occurrence. -/
def makeGrantReq (occ : LcmOpOcc) (inst : VnfInstance) : GrantRequest where
  vnfLcmOpOccId := occ.id
  vnfdId := inst.vnfdId
  operation := occ.operation
  isAutomaticInvocation := occ.isAutomaticInvocation

/-- The occurrence that is stored when the main process is done: a retry clears the error. -/
def completed (m : Method) (occ : LcmOpOcc) : LcmOpOcc :=
  { updateLcmoccStatus occ .completed with
    error := if m = .retryLcmOp then .null else occ.error }

/-- The occurrence that is stored when the rollback is done: the data of the user's script is
deleted from the error. -/
def rolledBack (occ : LcmOpOcc) : LcmOpOcc :=
  { updateLcmoccStatus occ .rolledBack with
    error :=
      match occ.error with
      | .set error => .set { error with userScriptErrHandlingData := none }
      | error => error }

/-- The outcome of the last try block of a handler: what it stores of the instance and the
occurrence. -/
def outcome (vnfd : String → Vnfd) (m : Method) (occ : LcmOpOcc) (inst : VnfInstance)
    (answer : VimAnswer) : Except ProblemDetails (Option VnfInstance × LcmOpOcc) :=
  match m with
  | .rollbackLcmOp => do
    let inst' ← rollback occ.operationParams answer inst
    let stored := if rollbackStoresInst occ.operationParams then some inst' else none
    return (stored, rolledBack occ)
  | m => do
    let inst' ← process (vnfd (vnfdIdFor occ.operationParams inst)) occ.operationParams answer inst
    return (some inst', completed m occ)

/-- One step of a thread. -/
def Thread.next (vnfd : String → Vnfd) (t : ThreadId) (sh : Shared) :
    Thread → Action → Option (Shared × Thread)
  | .lock r, .acquire => sh.take t (.getInst r)
  | .lock _, .expire => sh.giveUp
  | .getInst r, .go =>
    if admits r.params.operation sh.db.inst.instantiationState then
      some (sh, .check r sh.db.inst)
    else
      some (sh.leave (.getInst r))
  | .check r inst, .go =>
    if sh.db.checkLcmoccInProgress then
      match checkParams inst r.params with
      | .ok params => some (sh, .create r params)
      | .error _ => some (sh.leave (.check r inst))
    else
      some (sh.leave (.check r inst))
  | .create r params, .create id now =>
    let occ := newLcmocc id now params (initialState params.operation) r.isAuto
    (sh.db.createLcmocc occ).map fun db =>
      ({ sh with db := db },
        if r.isAuto then .unlockAuto occ
        else .cast r.takesLock ⟨startMethod params.operation, id⟩)
  | .cast locked c, .go =>
    some ({ sh with casts := c :: sh.casts }, if locked then .unlock else .idle)
  | .unlock, .go => some (sh.leave .unlock)
  | .unlockAuto occ, .go => some ((sh.leave (.unlockAuto occ)).1, .wait .startLcmOp occ)
  | .loadTask k id, .go =>
    match sh.db.lcmoccs.get id with
    | none => some (sh, .idle)
    | some occ => some (sh, .lockTask k occ)
  | .lockTask k occ, .acquire => sh.take t (.checkTask k occ)
  | .lockTask _ _, .expire => sh.giveUp
  | .checkTask k occ, .go =>
    if occ.operationState = .failedTemp then
      match k with
      | .retry => some (sh, .cast true ⟨.retryLcmOp, occ.id⟩)
      | .rollback => some (sh, .cast true ⟨.rollbackLcmOp, occ.id⟩)
      | .fail =>
        match sh.db.getGrantReqAndGrant occ with
        | .ok grants => some (sh, .fail occ grants)
        | .error _ => some (sh.leave (.checkTask k occ))
    else
      some (sh.leave (.checkTask k occ))
  | .fail occ grants, .go =>
    some ({ sh with db := sh.db.finish none (updateLcmoccStatus occ .failed) grants }, .unlock)
  | .load c, .go =>
    match sh.db.lcmoccs.get c.lcmoccId with
    | none => some (sh, .idle)
    | some occ => some (sh, .wait c.method occ)
  | .wait m occ, .acquire => sh.take t (.enter m occ)
  | .wait _ _, .expire => sh.giveUp
  | .enter m occ, .go =>
    -- just consistency check
    if occ.operationState = m.expected then
      match m with
      | .startLcmOp | .modifyVnfinfo => some (sh, .announce m occ sh.db.inst)
      | .retryLcmOp | .rollbackLcmOp => some (sh, .mark m occ sh.db.inst)
    else
      some (sh.leave (.enter m occ))
  | .mark m occ inst, .go =>
    let occ := updateLcmoccStatus occ m.begun
    some (sh.store occ (.announce m occ inst))
  | .announce m occ inst, .go =>
    match m with
    | .startLcmOp => some (sh, .grant occ inst)
    | .modifyVnfinfo => some (sh, .work m occ inst none)
    | .retryLcmOp | .rollbackLcmOp => some (sh, .lookup m occ inst)
  | .grant occ inst, .granted grantId =>
    let occ := { updateLcmoccStatus occ .processing with grantId := some grantId }
    match sh.db.saveGrants occ (makeGrantReq occ inst) ⟨grantId⟩ with
    | some db => some ({ sh with db := db }, .notify occ inst (makeGrantReq occ inst) ⟨grantId⟩)
    | none => some (sh.except occ .rolledBack duplicateEntry)
  | .grant occ _, .failed ex => some (sh.except occ .rolledBack ex)
  | .notify occ inst grantReq gr, .go =>
    some (sh, .work .startLcmOp occ inst (some (grantReq, gr)))
  | .lookup m occ inst, .go =>
    match sh.db.getGrantReqAndGrant occ with
    | .ok grants => some (sh, .work m occ inst grants)
    | .error ex => some (sh.except occ .failedTemp ex)
  | .lookup _ occ _, .failed ex => some (sh.except occ .failedTemp ex)
  | .work m occ inst grants, .done answer =>
    match outcome vnfd m occ inst answer with
    | .ok (inst', occ') => some ({ sh with db := sh.db.finish inst' occ' grants }, .report)
    | .error ex => some (sh.except occ .failedTemp ex)
  | .work _ occ _ _, .failed ex => some (sh.except occ .failedTemp ex)
  | .report, .go => some (sh.leave .report)
  | .lockSync, .acquire => sh.take t .sync
  | .lockSync, .expire => sh.giveUp
  | .sync, .go =>
    if sh.db.isLcmoccFailureStatus = some false then
      some (sh, .storeSync sh.db.inst)
    else
      some (sh.leave .sync)
  | .storeSync inst, .synced info =>
    some ({ sh with db := sh.db.updateInst { inst with instantiatedVnfInfo := some info } },
      .report)
  | .idle, .abort => none
  | th, .abort => some (sh.leave th)
  | _, _ => none

/-! ## The whole system -/

/-- The conductor process: at its start it first goes over the occurrences left behind
(`_change_lcm_op_state`), one kind after the other and one occurrence after the other. -/
inductive Conductor where
  | up
  | down
  | scan (kinds : List (LcmOperationState × LcmOperationState))
  | recover (afterState : LcmOperationState) (occs : List LcmOpOcc)
      (kinds : List (LcmOperationState × LcmOperationState))
deriving DecidableEq

/-- `state_list` of `_change_lcm_op_state`. -/
def stateList : List (LcmOperationState × LcmOperationState) :=
  [(.starting, .rolledBack), (.processing, .failedTemp), (.rollingBack, .failedTemp)]

/-- The state of the system. -/
structure State extends Shared where
  threads : List Thread := []
  conductor : Conductor := .up

/-- What happens next. -/
inductive Event where
  | request (r : Request)
  | task (k : Task) (id : Uuid)
  | deliver (c : Cast)
  | syncDb
  | act (t : ThreadId) (a : Action)
  -- the conductor process ends; it starts again; it takes a step of its recovery
  | stop
  | restart
  | recover
deriving DecidableEq

namespace State

/-- A new instance, nothing going on. -/
def init (inst : VnfInstance) : State where
  db := { inst := inst }

/-- A new thread. -/
def spawn (s : State) (th : Thread) : State :=
  { s with threads := s.threads ++ [th] }

/-- The first program counter of a request. -/
def startOf (r : Request) : Thread :=
  if r.takesLock then .lock r else .getInst r

/-- The end of the conductor process: its threads are gone, and the lock with them. -/
def crash (s : State) : State :=
  { s with
    conductor := .down
    lock := if (s.lock.bind (s.threads[·]?)).any Thread.inConductor then none else s.lock
    threads := s.threads.map fun th => if th.inConductor then .idle else th }

/-- One step of `_change_lcm_op_state`. -/
def recoverNext (s : State) : Option State :=
  match s.conductor with
  | .scan [] => some { s with conductor := .up }
  | .scan ((beforeState, afterState) :: kinds) =>
    some { s with conductor := .recover afterState (s.db.lcmoccsIn beforeState) kinds }
  | .recover _ [] kinds => some { s with conductor := .scan kinds }
  | .recover afterState (occ :: occs) kinds =>
    let occ := setLcmoccError (updateLcmoccStatus occ afterState) conductorProcessingError
    some { s with db := s.db.updateLcmocc occ, conductor := .recover afterState occs kinds }
  | _ => none

end State

/-- One step of the system. -/
def next (vnfd : String → Vnfd) (s : State) : Event → Option State
  | .request r =>
    if r.isAuto ∧ s.conductor ≠ .up then none else some (s.spawn (State.startOf r))
  | .task k id => some (s.spawn (.loadTask k id))
  | .deliver c =>
    if s.conductor = .up ∧ c ∈ s.casts then
      some ({ s with casts := s.casts.erase c }.spawn (.load c))
    else
      none
  | .syncDb => if s.conductor = .up then some (s.spawn .lockSync) else none
  | .act t a =>
    s.threads[t]?.bind fun th => (th.next vnfd t s.toShared a).map fun r =>
      { s with toShared := r.1, threads := s.threads.set t r.2 }
  | .stop => if s.conductor = .down then none else some s.crash
  | .restart =>
    if s.conductor = .down then some { s with conductor := .scan stateList } else none
  | .recover => s.recoverNext

/-- The steps of the system. -/
abbrev Step (vnfd : String → Vnfd) : State → Event → State → Prop :=
  StepOf (next vnfd)

end Tacker.Lcm
