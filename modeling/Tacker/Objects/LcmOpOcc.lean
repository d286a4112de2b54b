import Tacker.Objects.VnfInstance

/-!
# LCM operation occurrences

The stored record of a requested LCM operation, and the two records that exist while the operation
needs its grant. The class of `operationParams` is determined by `operation`
(`OperationParam.coerce`), so here the parameters determine the operation.
-/

namespace Tacker.Objects

/-- `LcmOperationStateType`. -/
inductive LcmOperationState where
  | starting
  | processing
  | completed
  | failedTemp
  | failed
  | rollingBack
  | rolledBack
deriving DecidableEq

/-- `LcmOperationType`, as far as the controller implements it. -/
inductive LcmOperationType where
  | instantiate
  | scale
  | terminate
  | heal
  | changeExtConn
  | modifyInfo
  | changeVnfpkg
deriving DecidableEq

/-- `InstantiateVnfRequestV2`. -/
structure InstantiateVnfRequest where
  flavourId : String
  instantiationLevelId : Option String := none
  localizationLanguage : Option String := none
deriving DecidableEq

/-- The values of `ScaleVnfRequestV2.type`. -/
inductive ScaleType where
  | scaleOut
  | scaleIn
deriving DecidableEq

/-- `ScaleVnfRequestV2`; the body of a request may leave `numberOfSteps` out. -/
structure ScaleVnfRequest where
  type : ScaleType
  aspectId : String
  numberOfSteps : Option Int := none
deriving DecidableEq

/-- `operationParams`, by operation. The attributes that only a VIM driver reads are left out. -/
inductive OperationParams where
  | instantiate (req : InstantiateVnfRequest)
  | scale (req : ScaleVnfRequest)
  | terminate
  | heal
  | changeExtConn
  | modifyInfo (vnfdId : Option String)
  | changeVnfpkg (vnfdId : String)
deriving DecidableEq

/-- `operation`. -/
def OperationParams.operation : OperationParams → LcmOperationType
  | instantiate _ => .instantiate
  | scale _ => .scale
  | terminate => .terminate
  | heal => .heal
  | changeExtConn => .changeExtConn
  | modifyInfo _ => .modifyInfo
  | changeVnfpkg _ => .changeVnfpkg

/-- `ProblemDetails`. -/
structure ProblemDetails where
  status : Nat
  detail : String
  userScriptErrHandlingData : Option KeyValuePairs := none
deriving DecidableEq

/-- An attribute of an object: unset, set to `None`, or set. -/
inductive Attr (α : Type) where
  | unset
  | null
  | set (a : α)
deriving DecidableEq

/-- The value stored for an attribute over the one there: an unset attribute is not written, and
`None` is loaded as unset. -/
def Attr.assign {α : Type} (new old : Attr α) : Attr α :=
  match new with
  | unset => old
  | null => unset
  | set a => set a

/-- `VnfLcmOpOccV2`. -/
structure LcmOpOcc where
  id : Uuid
  operationState : LcmOperationState
  startTime : Nat
  operationParams : OperationParams
  isAutomaticInvocation : Bool
  grantId : Option Uuid := none
  error : Attr ProblemDetails := .unset
deriving DecidableEq

/-- `operation`. -/
abbrev LcmOpOcc.operation (occ : LcmOpOcc) : LcmOperationType :=
  occ.operationParams.operation

/-- What `session.merge` stores for a row. -/
def LcmOpOcc.mergeInto (occ row : LcmOpOcc) : LcmOpOcc :=
  { occ with grantId := occ.grantId <|> row.grantId, error := occ.error.assign row.error }

/-- `update_lcmocc_status`. -/
def updateLcmoccStatus (occ : LcmOpOcc) (opState : LcmOperationState) : LcmOpOcc :=
  { occ with operationState := opState }

/-- `_set_lcmocc_error`. -/
def setLcmoccError (occ : LcmOpOcc) (error : ProblemDetails) : LcmOpOcc :=
  { occ with error := .set error }

/-- The `operationState` a new occurrence is created with. -/
def initialState (op : LcmOperationType) : LcmOperationState :=
  if op = .modifyInfo then .processing else .starting

/-- `new_lcmocc`. -/
def newLcmocc (id : Uuid) (now : Nat) (params : OperationParams) (opState : LcmOperationState)
    (autoInvocation : Bool) : LcmOpOcc where
  id := id
  operationState := opState
  startTime := now
  operationParams := params
  isAutomaticInvocation := autoInvocation

/-- `GrantRequestV1`, with the attributes all operations share. Its primary key is
`vnfLcmOpOccId`. -/
structure GrantRequest where
  vnfLcmOpOccId : Uuid
  vnfdId : String
  operation : LcmOperationType
  isAutomaticInvocation : Bool
deriving DecidableEq

/-- `GrantV1`; its identifier is drawn by the NFVO. -/
structure Grant where
  id : Uuid
deriving DecidableEq

end Tacker.Objects
