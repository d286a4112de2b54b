import Tacker.Basis.Table
import Tacker.Basis.ForEach
import Tacker.Lcm.System
import Tacker.Subsc.MatchFilter

/-!
# Recovery of interrupted operations

`_change_lcm_op_state` of `conductor/conductor_v2.py`, which the conductor runs when it starts, with
what it calls: `send_lcmocc_notification` of `nfvo/nfvo_client.py` and `recv_lcmocc_notification` of
`nfvo/local_nfvo.py` for the local NFVO. A notification is sent by a thread of its own, so that its
failure raises nothing here; what is written before an exception stays written.
-/

namespace Tacker.Conductor

open Tacker.Basis
open Tacker.Objects (LcmOperationState ProblemDetails Attr)
open Tacker.Subsc (LcmOperationType LifecycleChangeNotificationsFilter Subscription CannotLoad load)

/-! ## Data -/

/-- `VnfLcmOpOccV2`, with the attributes that the recovery reads or writes. -/
structure LcmOpOcc where
  id : String
  vnfInstanceId : String
  operation : LcmOperationType
  operationState : LcmOperationState
  stateEnteredTime : Nat
  error : Attr ProblemDetails
deriving DecidableEq

/-- `VimConnectionInfo`. -/
structure VimConnectionInfo where
  vimId : Option String := none
  vimType : String
deriving DecidableEq

/-- `VnfInstanceV2`, as far as filters and the local NFVO read it; a dictionary in the order of its
keys. -/
structure VnfInstance extends Subsc.VnfInstance where
  vimConnectionInfo : Option (List (String × VimConnectionInfo))
deriving DecidableEq

/-- `PackageUsageStateType`. -/
inductive PackageUsageState where
  | inUse
  | notInUse
deriving DecidableEq

/-- The attributes of `LocalNfvo`, and what it asked Glance and the package management to do. -/
structure LocalNfvo where
  instVimInfo : String → Option VimConnectionInfo := fun _ => none
  instVnfdId : String → Option String := fun _ => none
  glanceDeletions : List (VimConnectionInfo × String) := []
  usageStates : List (String × PackageUsageState) := []

/-- The database, the local NFVO and the notifications that are sent. -/
structure State where
  lcmoccs : Table LcmOpOcc.id
  insts : Table (fun inst : VnfInstance => inst.id)
  subscs : List (Subscription LifecycleChangeNotificationsFilter)
  nfvo : LocalNfvo := {}
  sent : List (String × LcmOpOcc) := []

/-- What ends the recovery early: `VnfInstanceNotFound`, or reading an attribute that is not set. -/
inductive Raised where
  | vnfInstanceNotFound (instId : String)
  | cannotLoad (ex : CannotLoad)
deriving DecidableEq

/-! ## The local NFVO -/

/-- `select_vim_info`: the first item. -/
def selectVimInfo : List (String × VimConnectionInfo) → Option VimConnectionInfo
  | [] => none
  | (_, value) :: _ =>
    if value.vimType = "kubernetes" then
      some { value with vimType := "ETSINFV.KUBERNETES.V_1" }
    else
      some value

namespace LocalNfvo

/-- `_glance_delete_images` if the VIM is OpenStack; it catches every exception. -/
def deleteImages (nfvo : LocalNfvo) (vimInfo : VimConnectionInfo) (instId : String) : LocalNfvo :=
  if vimInfo.vimType = "ETSINFV.OPENSTACK_KEYSTONE.V_3" then
    { nfvo with glanceDeletions := nfvo.glanceDeletions ++ [(vimInfo, instId)] }
  else
    nfvo

/-- The branch of `recv_lcmocc_notification` for TERMINATE. -/
def recvTerminate (nfvo : LocalNfvo) (opState : LcmOperationState) (inst : VnfInstance) :
    Except CannotLoad LocalNfvo :=
  match opState with
  | .processing => do
    let vimInfos ← load "vimConnectionInfo" inst.vimConnectionInfo
    .ok { nfvo with
      instVimInfo := Function.update nfvo.instVimInfo inst.id (selectVimInfo vimInfos) }
  | .failedTemp =>
    .ok { nfvo with instVimInfo := Function.update nfvo.instVimInfo inst.id none }
  | .completed =>
    let popped := { nfvo with instVimInfo := Function.update nfvo.instVimInfo inst.id none }
    match nfvo.instVimInfo inst.id with
    | none => .ok popped
    | some vimInfo => .ok (popped.deleteImages vimInfo inst.id)
  | _ => .ok nfvo

/-- The branch of `recv_lcmocc_notification` for MODIFY_INFO and CHANGE_VNFPKG. -/
def recvVnfdChange (nfvo : LocalNfvo) (opState : LcmOperationState) (inst : VnfInstance) :
    LocalNfvo :=
  match opState with
  | .processing =>
    { nfvo with instVnfdId := Function.update nfvo.instVnfdId inst.id (some inst.vnfdId) }
  | .failedTemp => { nfvo with instVnfdId := Function.update nfvo.instVnfdId inst.id none }
  | .completed =>
    let popped := { nfvo with instVnfdId := Function.update nfvo.instVnfdId inst.id none }
    match nfvo.instVnfdId inst.id with
    | none => popped
    | some vnfdId =>
      if vnfdId ≠ inst.vnfdId then
        { popped with
          usageStates := popped.usageStates ++ [(vnfdId, .notInUse), (inst.vnfdId, .inUse)] }
      else
        popped
  | _ => nfvo

/-- The branch of `recv_lcmocc_notification` for INSTANTIATE. -/
def recvInstantiate (nfvo : LocalNfvo) (opState : LcmOperationState) (inst : VnfInstance) :
    Except CannotLoad LocalNfvo :=
  match opState with
  | .rolledBack => do
    match selectVimInfo (← load "vimConnectionInfo" inst.vimConnectionInfo) with
    | none => .ok nfvo
    | some vimInfo => .ok (nfvo.deleteImages vimInfo inst.id)
  | _ => .ok nfvo

/-- `recv_lcmocc_notification`. -/
def recvLcmoccNotification (nfvo : LocalNfvo) (lcmocc : LcmOpOcc) (inst : VnfInstance) :
    Except CannotLoad LocalNfvo :=
  match lcmocc.operation with
  | .terminate => nfvo.recvTerminate lcmocc.operationState inst
  | .modifyInfo | .changeVnfpkg => .ok (nfvo.recvVnfdChange lcmocc.operationState inst)
  | .instantiate => nfvo.recvInstantiate lcmocc.operationState inst
  | _ => .ok nfvo

end LocalNfvo

/-! ## The recovery -/

/-- `send_lcmocc_notification`, with the local NFVO. -/
def sendLcmoccNotification (lcmocc : LcmOpOcc) (inst : VnfInstance) (s : State) :
    State × Option Raised :=
  match Subsc.getLcmoccSubscs s.subscs lcmocc.operation lcmocc.operationState
      inst.toVnfInstance with
  | .error ex => (s, some (.cannotLoad ex))
  | .ok subscs =>
    let sent := subscs.map (fun subsc : Subscription _ => (subsc.id, lcmocc))
    let s := { s with sent := s.sent ++ sent }
    match s.nfvo.recvLcmoccNotification lcmocc inst with
    | .error ex => (s, some (.cannotLoad ex))
    | .ok nfvo => ({ s with nfvo := nfvo }, none)

/-- `update_lcmocc_status`. -/
def updateLcmoccStatus (lcmocc : LcmOpOcc) (opState : LcmOperationState) (now : Nat) : LcmOpOcc :=
  { lcmocc with operationState := opState, stateEnteredTime := now }

/-- `_set_lcmocc_error`. -/
def setLcmoccError (lcmocc : LcmOpOcc) (error : ProblemDetails) : LcmOpOcc :=
  { lcmocc with error := .set error }

/-- The occurrence as the recovery stores it. -/
def recoveredAs (clock : String → Nat) (afterState : LcmOperationState) (lcmocc : LcmOpOcc) :
    LcmOpOcc :=
  setLcmoccError (updateLcmoccStatus lcmocc afterState (clock lcmocc.id))
    Lcm.conductorProcessingError

/-- The body of the inner loop of `_change_lcm_op_state`; `clock` tells when an occurrence is
handled. -/
def changeLcmocc (clock : String → Nat) (afterState : LcmOperationState) (lcmocc : LcmOpOcc)
    (s : State) : State × Option Raised :=
  match s.insts.get lcmocc.vnfInstanceId with
  | none => (s, some (.vnfInstanceNotFound lcmocc.vnfInstanceId))
  | some inst =>
    let lcmocc := recoveredAs clock afterState lcmocc
    sendLcmoccNotification lcmocc inst { s with lcmoccs := s.lcmoccs.put lcmocc }

/-- The order in which the database returns the rows of a query that asks for none. -/
structure RowOrder where
  arrange : List LcmOpOcc → List LcmOpOcc
  perm (rows : List LcmOpOcc) : (arrange rows).Perm rows

/-- The body of the outer loop of `_change_lcm_op_state`. -/
def changeLcmoccsIn (order : RowOrder) (clock : String → Nat)
    (states : LcmOperationState × LcmOperationState) (s : State) : State × Option Raised :=
  forEach (changeLcmocc clock states.2)
    (order.arrange (s.lcmoccs.select (fun row => row.operationState = states.1))) s

/-- `_change_lcm_op_state`. -/
def changeLcmOpState (order : RowOrder) (clock : String → Nat) (s : State) :
    State × Option Raised :=
  forEach (changeLcmoccsIn order clock) Lcm.stateList s

end Tacker.Conductor
