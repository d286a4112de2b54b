import Mathlib.Data.List.AList
import Tacker.Objects.LcmOpOcc

/-!
# The LCM driver

The VIM-independent part of `conductor/vnflcm_driver_v2.py` and the checks that
`common/vnf_instance_utils.py` makes for it. What a VIM driver and the scripts of the VNF package
answer is a parameter: they hand back an `instantiatedVnfInfo` whose VIM-independent part is either
unset (the driver built a new object) or the one they were given.
-/

namespace Tacker.Lcm
open Tacker.Objects

/-! ## The VNFD -/

/-- A policy of type `tosca.policies.nfv.InstantiationLevels`: the default level, and for each
level the scale level of each aspect. -/
structure InstantiationLevels where
  defaultLevel : Option String
  levels : AList (fun _ : String => AList (fun _ : String => Int))

/-- A policy of type `tosca.policies.nfv.ScalingAspects`: `max_scale_level` by aspect. -/
abbrev ScalingAspects := AList (fun _ : String => Int)

/-- The policies of a VNFD, by flavour. -/
structure Vnfd where
  instantiationLevels : String → List InstantiationLevels
  scalingAspects : String → List ScalingAspects

namespace Vnfd

/-- `get_default_instantiation_level`. -/
def getDefaultInstantiationLevel (vnfd : Vnfd) (flavourId : String) : Option String :=
  (vnfd.instantiationLevels flavourId).head?.bind InstantiationLevels.defaultLevel

/-- `get_scale_info_from_inst_level`. -/
def getScaleInfoFromInstLevel (vnfd : Vnfd) (flavourId : String) (instLevel : Option String) :
    AList (fun _ : String => Int) :=
  match vnfd.instantiationLevels flavourId with
  | [] => ∅
  | policy :: _ => (instLevel.bind policy.levels.lookup).getD ∅

/-- `get_max_scale_level`. -/
def getMaxScaleLevel (vnfd : Vnfd) (flavourId aspectId : String) : Int :=
  ((vnfd.scalingAspects flavourId).findSome? (AList.lookup aspectId)).getD 0

/-- The instantiation levels respect `max_scale_level`. -/
def LevelsRespectMax (vnfd : Vnfd) : Prop :=
  ∀ flavourId instLevel aspectId level,
    (vnfd.getScaleInfoFromInstLevel flavourId instLevel).lookup aspectId = some level →
      0 ≤ level ∧ level ≤ vnfd.getMaxScaleLevel flavourId aspectId

end Vnfd

/-! ## Exceptions -/

/-- The exception `InvalidScaleAspectId`. -/
def invalidScaleAspectId (aspectId : String) : ProblemDetails where
  status := 400
  detail := s!"Invalid aspectId '{aspectId}'."

/-- The exception `InvalidScaleNumberOfSteps`. -/
def invalidScaleNumberOfSteps (numSteps : Int) : ProblemDetails where
  status := 400
  detail := s!"Invalid numberOfSteps '{numSteps}'."

/-- The exception `RollbackNotSupported`. -/
def rollbackNotSupported (op : String) : ProblemDetails where
  status := 422
  detail := s!"Rollback of {op} is not supported."

/-- An exception that is not a `SolException`: an attribute that is not set was read. -/
def attributeNotSet (attr : String) : ProblemDetails where
  status := 500
  detail := s!"Cannot load '{attr}' in the base class"

/-- The exception `ConductorProcessingError`. -/
def conductorProcessingError : ProblemDetails where
  status := 500
  detail := "Failure due to conductor processing error."

/-! ## Scale levels -/

/-- The level recorded for an aspect: that of the first entry. -/
def levelOf (infos : Option (List ScaleInfo)) (aspectId : String) : Option Int :=
  ((infos.getD []).find? (fun info => info.aspectId = aspectId)).map ScaleInfo.scaleLevel

/-- `_get_current_scale_level`. -/
def getCurrentScaleLevel (inst : VnfInstance) (aspectId : String) : Option Int :=
  levelOf (inst.instantiatedVnfInfo.bind InstantiatedVnfInfo.scaleStatus) aspectId

/-- `_get_max_scale_level`. -/
def getMaxScaleLevel (inst : VnfInstance) (aspectId : String) : Option Int :=
  levelOf (inst.instantiatedVnfInfo.bind InstantiatedVnfInfo.maxScaleLevels) aspectId

/-- The number of steps with the sign of the scale type. -/
def signedSteps (scaleType : ScaleType) (numSteps : Int) : Int :=
  match scaleType with
  | .scaleOut => numSteps
  | .scaleIn => numSteps * -1

/-- `check_scale_level`. -/
def checkScaleLevel (inst : VnfInstance) (aspectId : String) (scaleType : ScaleType)
    (numSteps : Int) : Except ProblemDetails Unit :=
  match getCurrentScaleLevel inst aspectId, getMaxScaleLevel inst aspectId with
  | some scaleLevel, some maxScaleLevel =>
    let scaleLevel := scaleLevel + signedSteps scaleType numSteps
    if scaleLevel < 0 ∨ scaleLevel > maxScaleLevel then
      .error (invalidScaleNumberOfSteps numSteps)
    else
      .ok ()
  | _, _ => .error (invalidScaleAspectId aspectId)

/-- The adjustment of `scaleStatus` by a scale operation: the first entry of the aspect. -/
def adjustScaleStatus (aspectId : String) (numSteps : Int) : List ScaleInfo → List ScaleInfo
  | [] => []
  | info :: infos =>
    if info.aspectId = aspectId then
      { info with scaleLevel := info.scaleLevel + numSteps } :: infos
    else
      info :: adjustScaleStatus aspectId numSteps infos

/-! ## `_make_inst_info_common` -/

/-- The part of it for INSTANTIATE: the levels are those of the VNFD. -/
def instantiateInfo (vnfd : Vnfd) (req : InstantiateVnfRequest) (info : InstantiatedVnfInfo) :
    InstantiatedVnfInfo :=
  let instLevel := req.instantiationLevelId <|> vnfd.getDefaultInstantiationLevel req.flavourId
  let scaleInfo := vnfd.getScaleInfoFromInstLevel req.flavourId instLevel
  let scaleStatus := scaleInfo.entries.map fun e => ScaleInfo.mk e.1 e.2
  let maxScaleLevels := scaleStatus.map fun obj =>
    ScaleInfo.mk obj.aspectId (vnfd.getMaxScaleLevel req.flavourId obj.aspectId)
  let info :=
    if scaleStatus.isEmpty then info
    else { info with scaleStatus := some scaleStatus, maxScaleLevels := some maxScaleLevels }
  match req.localizationLanguage with
  | none => info
  | some lang => { info with localizationLanguage := some lang }

/-- The part of it for the operations that keep what was recorded. -/
def inheritInfo (saved info : InstantiatedVnfInfo) : InstantiatedVnfInfo :=
  let info :=
    match saved.scaleStatus with
    | none => info
    | some scaleStatus =>
      { info with scaleStatus := some scaleStatus, maxScaleLevels := saved.maxScaleLevels }
  match saved.localizationLanguage with
  | none => info
  | some lang => { info with localizationLanguage := some lang }

/-- The part of it for SCALE. -/
def scaleInfo (req : ScaleVnfRequest) (info : InstantiatedVnfInfo) :
    Except ProblemDetails InstantiatedVnfInfo :=
  match req.numberOfSteps, info.scaleStatus with
  | none, _ => .error (attributeNotSet "numberOfSteps")
  | some _, none => .error (attributeNotSet "scaleStatus")
  | some numSteps, some scaleStatus => .ok
    { info with
      scaleStatus := some (adjustScaleStatus req.aspectId (signedSteps req.type numSteps) scaleStatus) }

/-- `_make_inst_info_common`. -/
def makeInstInfoCommon (vnfd : Vnfd) (params : OperationParams) (instSaved inst : VnfInstance) :
    Except ProblemDetails VnfInstance :=
  match inst.instantiatedVnfInfo with
  -- the operation is MODIFY_INFO and the instance was never instantiated
  | none => .ok inst
  | some info =>
    match params, instSaved.instantiatedVnfInfo with
    | .instantiate req, _ =>
      .ok { inst with instantiatedVnfInfo := some (instantiateInfo vnfd req info) }
    | .terminate, _ => .ok inst
    | _, none => .error (attributeNotSet "instantiatedVnfInfo")
    | .scale req, some saved => do
      let info ← scaleInfo req (inheritInfo saved info)
      return { inst with instantiatedVnfInfo := some info }
    | _, some saved => .ok { inst with instantiatedVnfInfo := some (inheritInfo saved info) }

/-! ## `process` and `rollback` -/

/-- What a VIM driver and the scripts leave: the VIM-dependent attributes of `info`, and whether
the object is the one they were given. -/
structure VimAnswer where
  info : InstantiatedVnfInfo
  keeps : Bool
deriving DecidableEq

/-- The `instantiatedVnfInfo` after the VIM driver is done. -/
def VimAnswer.infoFrom (answer : VimAnswer) (old : Option InstantiatedVnfInfo) :
    InstantiatedVnfInfo :=
  let kept := if answer.keeps then old else none
  { answer.info with
    scaleStatus := kept.bind InstantiatedVnfInfo.scaleStatus
    maxScaleLevels := kept.bind InstantiatedVnfInfo.maxScaleLevels
    localizationLanguage := kept.bind InstantiatedVnfInfo.localizationLanguage }

/-- The instance with the `instantiatedVnfInfo` that the VIM driver leaves. -/
def VimAnswer.applyTo (answer : VimAnswer) (inst : VnfInstance) : VnfInstance :=
  { inst with instantiatedVnfInfo := some (answer.infoFrom inst.instantiatedVnfInfo) }

/-- `terminate_process`. -/
def terminateProcess (inst : VnfInstance) : Except ProblemDetails VnfInstance :=
  match inst.instantiatedVnfInfo with
  | none => .error (attributeNotSet "instantiatedVnfInfo")
  | some info => .ok
    { inst with
      instantiationState := .notInstantiated
      instantiatedVnfInfo := some { flavourId := info.flavourId, vnfState := .stopped } }

/-- The main process of each operation: `instantiate_process`, `scale_process` and so on. -/
def mainProcess (params : OperationParams) (answer : VimAnswer) (inst : VnfInstance) :
    Except ProblemDetails VnfInstance :=
  match params with
  | .instantiate _ => .ok { answer.applyTo inst with instantiationState := .instantiated }
  | .terminate => terminateProcess inst
  | .scale _ | .heal | .changeExtConn => .ok (answer.applyTo inst)
  | .changeVnfpkg vnfdId => .ok { answer.applyTo inst with vnfdId := vnfdId }
  | .modifyInfo vnfdId => .ok { inst with vnfdId := vnfdId.getD inst.vnfdId }

/-- The VNFD that the handlers get before they work. -/
def vnfdIdFor (params : OperationParams) (inst : VnfInstance) : String :=
  match params with
  | .changeVnfpkg vnfdId => vnfdId
  | _ => inst.vnfdId

/-- `process`: the main process, then the VIM-independent part. -/
def process (vnfd : Vnfd) (params : OperationParams) (answer : VimAnswer) (inst : VnfInstance) :
    Except ProblemDetails VnfInstance := do
  let inst' ← mainProcess params answer inst
  makeInstInfoCommon vnfd params inst inst'

/-- `rollback`: there is none for TERMINATE, HEAL and SCALE_IN. -/
def rollback (params : OperationParams) (answer : VimAnswer) (inst : VnfInstance) :
    Except ProblemDetails VnfInstance :=
  match params with
  | .terminate => .error (rollbackNotSupported "TERMINATE")
  | .heal => .error (rollbackNotSupported "HEAL")
  | .scale req =>
    match req.type with
    | .scaleIn => .error (rollbackNotSupported "SCALE IN")
    | .scaleOut => .ok (answer.applyTo inst)
  | .instantiate _ | .changeExtConn | .changeVnfpkg _ => .ok (answer.applyTo inst)
  | .modifyInfo _ => .ok inst

/-- The operations after whose rollback the instance is stored. -/
def rollbackStoresInst (params : OperationParams) : Bool :=
  params.operation = .changeExtConn ∨ params.operation = .changeVnfpkg

end Tacker.Lcm
