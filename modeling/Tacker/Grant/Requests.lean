import Tacker.Grant.PlacementConstraints
import Tacker.Grant.RemovedVnfcs

/-!
# Grant requests

`instantiate_grant` and `scale_grant` of `conductor/vnflcm_driver_v2.py`, with
`get_scale_vdu_and_num` of `common/vnfd_utils.py`. The names of link ports are a set in the source;
the definitions of the other ports stand in the order of the VNFD here. The additional parameters
are passed on and left out.
-/

namespace Tacker.Grant

open Tacker.Basis

/-! ## Data -/

/-- `VnfExtCpConfig`. -/
structure VnfExtCpConfig where
  linkPortId : Option String := none

/-- `VnfExtCpData`, with the values of its `cpConfig`. -/
structure VnfExtCpData where
  cpdId : String
  cpConfig : List VnfExtCpConfig

/-- `ExtVirtualLinkData`. -/
structure ExtVirtualLinkData where
  extCps : List VnfExtCpData

/-- `ExtManagedVirtualLinkData`, with the identifiers of its link ports. -/
structure ExtManagedVirtualLinkData where
  vnfVirtualLinkDescId : String
  vnfLinkPort : Option (List String) := none

/-- `InstantiateVnfRequestV2`. -/
structure InstantiateVnfRequest where
  flavourId : String
  instantiationLevelId : Option String := none
  extVirtualLinks : Option (List ExtVirtualLinkData) := none
  extManagedVirtualLinks : Option (List ExtManagedVirtualLinkData) := none

/-- `type` of a scale request. -/
inductive ScaleType where
  | scaleOut
  | scaleIn
deriving DecidableEq

/-- `ScaleVnfRequestV2`. -/
structure ScaleVnfRequest where
  type : ScaleType
  aspectId : String
  numberOfSteps : Nat

/-- `GrantRequestV1`, with the attributes that the operations set. -/
structure GrantRequest where
  flavourId : Option String := none
  instantiationLevelId : Option String := none
  addResources : Option (List ResourceDefinition) := none
  removeResources : Option (List ResourceDefinition) := none
  updateResources : Option (List ResourceDefinition) := none
  placementConstraints : Option (List PlacementConstraint) := none

/-- An attribute that is set if there is something to list. -/
def unlessEmpty {α : Type*} : List α → Option (List α)
  | [] => none
  | a :: as => some (a :: as)

@[simp]
lemma unlessEmpty_getD {α : Type*} (as : List α) : (unlessEmpty as).getD [] = as := by
  cases as with
  | nil => rfl
  | cons a as => rfl

/-! ## Instantiate -/

/-- `_get_link_ports`. -/
def InstantiateVnfRequest.linkPorts (req : InstantiateVnfRequest) : List String :=
  ((req.extVirtualLinks.getD []).flatMap fun extVl => extVl.extCps.flatMap fun extCp =>
    (extCp.cpConfig.filter fun cpConfig => cpConfig.linkPortId.isSome).map fun _ => extCp.cpdId) ++
  ((req.extManagedVirtualLinks.getD []).filter fun extMgdVl => extMgdVl.vnfLinkPort.isSome).map
    (·.vnfVirtualLinkDescId)

/-- The level of the request, else the default level. -/
def InstantiateVnfRequest.instLevel (req : InstantiateVnfRequest) (flavour : Flavour) :
    Option String :=
  match req.instantiationLevelId with
  | some instLevel => some instLevel
  | none => flavour.getDefaultInstantiationLevel

/-- `range` of a number; of `None` it raises. -/
def rangeOf (num : Option Nat) : Except Raised Nat :=
  match num with
  | some num => .ok num
  | none => .error .typeError

/-- The definitions for a VDU. -/
def newVduAddReses (uuids : Uuids) (flavour : Flavour) (req : InstantiateVnfRequest)
    (node : NodeTemplate) : Except Raised (List ResourceDefinition) := do
  let num ← rangeOf (flavour.getVduNum node.name (req.instLevel flavour))
  return makeResDefForNewVdu uuids node.name num
    ((flavour.getVduCps node.name).filter fun cpName => cpName ∉ req.linkPorts)
    (getVduStorages node)

/-- The definitions for the virtual links that are not managed externally. -/
def newVlAddReses (uuids : Uuids) (flavour : Flavour) (req : InstantiateVnfRequest) :
    List ResourceDefinition :=
  let extMgdVls := (req.extManagedVirtualLinks.getD []).map (·.vnfVirtualLinkDescId)
  ((flavour.names .vnfVirtualLink).filter fun name => name ∉ extMgdVls).map fun name =>
    ⟨uuids.of (.newVl name), .vl, name, none⟩

/-- `add_reses` of `instantiate_grant`. -/
def instantiateAddReses (uuids : Uuids) (flavour : Flavour) (req : InstantiateVnfRequest) :
    Except Raised (List ResourceDefinition) := do
  let vdus ← (flavour.nodes .vduCompute).mapM (newVduAddReses uuids flavour req)
  return vdus.flatten ++ newVlAddReses uuids flavour req

/-- `instantiate_grant`. -/
def instantiateGrant (uuids : Uuids) (bestEffort : Bool) (vnfd : Vnfd)
    (req : InstantiateVnfRequest) (inst : Option InstantiatedVnfInfo) :
    Except Raised GrantRequest :=
  match vnfd req.flavourId with
  | none => .error (.flavourIdNotFound req.flavourId)
  | some flavour => do
    let addReses ← instantiateAddReses uuids flavour req
    let plcConsts ← makePlacementconstraints bestEffort flavour addReses
      ((inst.map InstantiatedVnfInfo.vnfcs).getD [])
    return {
      flavourId := some req.flavourId
      instantiationLevelId := req.instantiationLevelId
      addResources := unlessEmpty addReses
      placementConstraints := unlessEmpty plcConsts }

/-! ## Scale -/

/-- `vdu_num_inst[vdu_name] = num_inst`. -/
def setNum (vduNumInst : List (String × Nat)) (vdu : String × Nat) : List (String × Nat) :=
  if vdu.1 ∈ vduNumInst.map Prod.fst then
    vduNumInst.map fun vdu' => if vdu'.1 = vdu.1 then vdu else vdu'
  else vduNumInst ++ [vdu]

/-- The targets of a policy, with the number of instances of the delta. -/
def targetsWithNum (delta : String) (aspectDelta : List String × Option Nat) :
    Except Raised (List (String × Nat)) :=
  match aspectDelta.2 with
  | some numInst => .ok (aspectDelta.1.map fun vduName => (vduName, numInst))
  | none => .error (.deltaMissingInVnfd delta)

/-- `get_scale_vdu_and_num`. -/
def getScaleVduAndNum (flavour : Flavour) (aspectId : String) :
    Except Raised (List (String × Nat)) :=
  match flavour.stepDelta aspectId with
  | none => .ok []
  | some delta => do
    let vdus ← (flavour.aspectDeltas aspectId delta).mapM (targetsWithNum delta)
    return vdus.flatten.foldl setNum []

/-- The first VNFC of a VDU. -/
def vduSample (vnfcs : List VnfcResourceInfo) (vduName : String) : Option VnfcResourceInfo :=
  vnfcs.find? fun instVnfc => instVnfc.vduId = vduName

/-- The definitions for a VDU, made like its sample. -/
def sampleAddReses (uuids : Uuids) (instInfo : InstantiatedVnfInfo) (numSteps : Nat)
    (vdu : (String × Nat) × VnfcResourceInfo) : Except Raised (List ResourceDefinition) := do
  let storages ← storagesOf instInfo vdu.2
  return makeResDefForNewVdu uuids vdu.1.1 (vdu.1.2 * numSteps) (vdu.2.cps.map (·.cpdId))
    (storages.map (·.virtualStorageDescId))

/-- `add_reses` of `_make_scale_out_grant_request`: the VDUs without a sample are passed over. -/
def scaleOutAddReses (uuids : Uuids) (instInfo : InstantiatedVnfInfo) (numSteps : Nat)
    (vduNumInst : List (String × Nat)) : Except Raised (List ResourceDefinition) := do
  let vnfcs ← load "vnfcResourceInfo" instInfo.vnfcResourceInfo
  let samples := vduNumInst.filterMap fun vdu =>
    (vduSample vnfcs vdu.1).map fun instVnfc => (vdu, instVnfc)
  let vdus ← samples.mapM (sampleAddReses uuids instInfo numSteps)
  return vdus.flatten

/-- The VNFCs of a VDU that are selected: the loop ends when the count is reached. -/
def selectVnfcs (vduName : String) (numInst : Nat) :
    Nat → List VnfcResourceInfo → List VnfcResourceInfo
  | _, [] => []
  | count, instVnfc :: vnfcs =>
    if instVnfc.vduId = vduName then
      instVnfc :: if count + 1 = numInst then [] else selectVnfcs vduName numInst (count + 1) vnfcs
    else selectVnfcs vduName numInst count vnfcs

/-- `rm_vnfcs` of `_make_scale_in_grant_request`. -/
def scaleInRmVnfcs (vnfcs : List VnfcResourceInfo) (numSteps : Nat)
    (vduNumInst : List (String × Nat)) : List VnfcResourceInfo :=
  vduNumInst.flatMap fun vdu => selectVnfcs vdu.1 (vdu.2 * numSteps) 0 vnfcs

/-- `rm_reses` of `_make_scale_in_grant_request`. -/
def scaleInRmReses (uuids : Uuids) (instInfo : InstantiatedVnfInfo) (numSteps : Nat)
    (vduNumInst : List (String × Nat)) : Except Raised (List ResourceDefinition) := do
  let vnfcs ← load "vnfcResourceInfo" instInfo.vnfcResourceInfo
  let (rmReses, _) ←
    makeResDefForRemoveVnfcs uuids instInfo (scaleInRmVnfcs vnfcs numSteps vduNumInst)
  return rmReses

/-- `_make_scale_out_grant_request`. -/
def makeScaleOutGrantRequest (uuids : Uuids) (bestEffort : Bool) (flavour : Flavour)
    (instInfo : InstantiatedVnfInfo) (numSteps : Nat) (vduNumInst : List (String × Nat)) :
    Except Raised GrantRequest := do
  let addReses ← scaleOutAddReses uuids instInfo numSteps vduNumInst
  let plcConsts ← makePlacementconstraints bestEffort flavour addReses instInfo.vnfcs
  return {
    flavourId := some instInfo.flavourId
    addResources := unlessEmpty addReses
    placementConstraints := unlessEmpty plcConsts }

/-- `_make_scale_in_grant_request`. -/
def makeScaleInGrantRequest (uuids : Uuids) (instInfo : InstantiatedVnfInfo) (numSteps : Nat)
    (vduNumInst : List (String × Nat)) : Except Raised GrantRequest := do
  let rmReses ← scaleInRmReses uuids instInfo numSteps vduNumInst
  return { flavourId := some instInfo.flavourId, removeResources := unlessEmpty rmReses }

/-- `scale_grant`. -/
def scaleGrant (uuids : Uuids) (bestEffort : Bool) (vnfd : Vnfd) (req : ScaleVnfRequest)
    (instInfo : InstantiatedVnfInfo) : Except Raised GrantRequest :=
  match vnfd instInfo.flavourId with
  | none => .error .attributeError
  | some flavour => do
    let vduNumInst ← getScaleVduAndNum flavour req.aspectId
    if vduNumInst = [] then .error (.invalidScaleAspectId req.aspectId)
    else
      match req.type with
      | .scaleOut =>
        makeScaleOutGrantRequest uuids bestEffort flavour instInfo req.numberOfSteps vduNumInst
      | .scaleIn => makeScaleInGrantRequest uuids instInfo req.numberOfSteps vduNumInst

/-!
## Grant requests that remove resources

`terminate_grant`, `heal_grant` and `change_ext_conn_grant` of `conductor/vnflcm_driver_v2.py`. The
removed and the added definitions of a VNFC or a virtual link come from calls of `generate_uuid`
with the same number.
-/

/-! ## Virtual links -/

/-- The virtual links of an instance, numbered. -/
def InstantiatedVnfInfo.vls (instInfo : InstantiatedVnfInfo) :
    List (VnfVirtualLinkResourceInfo × Nat) :=
  (instInfo.vnfVirtualLinkResourceInfo.getD []).zipIdx

/-- The definition of a virtual link that is removed. -/
def removedVl (uuids : Uuids) (instVl : VnfVirtualLinkResourceInfo × Nat) :
    ResourceDefinition where
  id := uuids.of (.removedVl instVl.2)
  type := .vl
  resourceTemplateId := instVl.1.vnfVirtualLinkDescId
  resource := some instVl.1.networkResource

/-- The definition of the virtual link that is added in its place. -/
def addedVl (uuids : Uuids) (instVl : VnfVirtualLinkResourceInfo × Nat) : ResourceDefinition where
  id := uuids.of (.addedVl instVl.2)
  type := .vl
  resourceTemplateId := instVl.1.vnfVirtualLinkDescId

/-! ## Terminate -/

/-- `rm_reses` of `terminate_grant`. -/
def terminateRmReses (uuids : Uuids) (instInfo : InstantiatedVnfInfo) :
    Except Raised (List ResourceDefinition) := do
  let (rmReses, _) ← makeResDefForRemoveVnfcs uuids instInfo instInfo.vnfcs
  return rmReses ++ instInfo.vls.map (removedVl uuids)

/-- `terminate_grant`. -/
def terminateGrant (uuids : Uuids) (instInfo : InstantiatedVnfInfo) :
    Except Raised GrantRequest := do
  let rmReses ← terminateRmReses uuids instInfo
  return { removeResources := unlessEmpty rmReses }

/-! ## Heal -/

/-- `_get_obj_by_id` among the VNFCs; reading an attribute of what is not found raises. -/
def getVnfcById (instInfo : InstantiatedVnfInfo) (vnfcResourceInfoId : String) :
    Except Raised VnfcResourceInfo := do
  let vnfcs ← load "vnfcResourceInfo" instInfo.vnfcResourceInfo
  match vnfcs.find? fun instVnfc => instVnfc.id = vnfcResourceInfoId with
  | some instVnfc => return instVnfc
  | none => .error .attributeError

/-- The storages that are healed with a VNFC. -/
def healedStorages (instInfo : InstantiatedVnfInfo) (isAll : Bool) (instVnfc : VnfcResourceInfo) :
    Except Raised (List VirtualStorageResourceInfo) :=
  if isAll = true then storagesOf instInfo instVnfc else return []

/-- What `_set_rm_add_reses` appends for a VNFC and its storages. -/
def rmAddReses (uuids : Uuids) (instVnfc : VnfcResourceInfo)
    (storages : List VirtualStorageResourceInfo) (i : Nat) :
    List ResourceDefinition × List ResourceDefinition :=
  (serverDef (uuids.of (.removed i)) instVnfc ::
      storages.map (storageDef (uuids.of (.removed i))),
    newVnfcResDefs (uuids.of (.added i)) instVnfc.vduId [] (storages.map (·.virtualStorageDescId)))

/-- A turn of the loop of `_make_SOL002_heal_grant_request`. -/
def healVnfc (uuids : Uuids) (instInfo : InstantiatedVnfInfo) (isAll : Bool)
    (vnfc : VnfcInfo × Nat) : Except Raised (List ResourceDefinition × List ResourceDefinition) := do
  let instVnfc ← getVnfcById instInfo vnfc.1.vnfcResourceInfoId
  let storages ← healedStorages instInfo isAll instVnfc
  return rmAddReses uuids instVnfc storages vnfc.2

/-- `rm_reses` and `add_reses` of `_make_SOL002_heal_grant_request`. -/
def makeSol002HealReses (uuids : Uuids) (instInfo : InstantiatedVnfInfo)
    (vnfcInstanceId : List String) (isAll : Bool) :
    Except Raised (List ResourceDefinition × List ResourceDefinition) := do
  let vnfcInfo ← load "vnfcInfo" instInfo.vnfcInfo
  let healed := vnfcInfo.filter fun vnfc => vnfc.id ∈ vnfcInstanceId
  let each ← healed.zipIdx.mapM (healVnfc uuids instInfo isAll)
  return (each.flatMap Prod.fst, each.flatMap Prod.snd)

/-- `rm_reses` and `add_reses` of `_make_SOL003_heal_grant_request`. -/
def makeSol003HealReses (uuids : Uuids) (instInfo : InstantiatedVnfInfo) (isAll : Bool) :
    Except Raised (List ResourceDefinition × List ResourceDefinition) := do
  if isAll = true then
    let (rmReses, addReses) ← makeResDefForRemoveVnfcs uuids instInfo instInfo.vnfcs
    return (rmReses ++ instInfo.vls.map (removedVl uuids),
      addReses ++ instInfo.vls.map (addedVl uuids))
  else
    let each := instInfo.vnfcs.zipIdx.map fun instVnfc => rmAddReses uuids instVnfc.1 [] instVnfc.2
    return (each.flatMap Prod.fst, each.flatMap Prod.snd)

/-- `rm_reses` and `add_reses` of `heal_grant`. -/
def healReses (uuids : Uuids) (instInfo : InstantiatedVnfInfo)
    (vnfcInstanceId : Option (List String)) (isAll : Bool) :
    Except Raised (List ResourceDefinition × List ResourceDefinition) :=
  match vnfcInstanceId with
  | some vnfcInstanceId => makeSol002HealReses uuids instInfo vnfcInstanceId isAll
  | none => makeSol003HealReses uuids instInfo isAll

/-- `heal_grant`: what is added is listed only when something is removed. -/
def healGrant (uuids : Uuids) (instInfo : InstantiatedVnfInfo)
    (vnfcInstanceId : Option (List String)) (isAll : Bool) : Except Raised GrantRequest := do
  let (rmReses, addReses) ← healReses uuids instInfo vnfcInstanceId isAll
  return {
    flavourId := some instInfo.flavourId
    addResources := if rmReses = [] then none else some addReses
    removeResources := unlessEmpty rmReses }

/-! ## Change external connectivity -/

/-- `cp_names`: the CPs that the request is about. -/
def requestedCps (extVirtualLinks : List ExtVirtualLinkData) : List String :=
  extVirtualLinks.flatMap fun extVl => extVl.extCps.map (·.cpdId)

/-- `link_ports`: the CPs that the request gives a link port for. -/
def requestedLinkPorts (extVirtualLinks : List ExtVirtualLinkData) : List String :=
  extVirtualLinks.flatMap fun extVl => extVl.extCps.flatMap fun extCp =>
    (extCp.cpConfig.filter fun cpConfig => cpConfig.linkPortId.isSome).map fun _ => extCp.cpdId

/-- The CPs of a VNFC that are changed. -/
def changedCps (extVirtualLinks : List ExtVirtualLinkData) (instVnfc : VnfcResourceInfo) :
    List VnfcCpInfo :=
  instVnfc.cps.filter fun cpInfo => cpInfo.cpdId ∈ requestedCps extVirtualLinks

/-- The CPs of a VNFC whose ports are removed. -/
def replacedCps (extVirtualLinks : List ExtVirtualLinkData) (instVnfc : VnfcResourceInfo) :
    List VnfcCpInfo :=
  (changedCps extVirtualLinks instVnfc).filter fun cpInfo => cpInfo.vnfExtCpId.isSome

/-- `update_reses`, `add_reses` and `rm_reses` of a turn of the loop. -/
def changeExtConnVnfc (uuids : Uuids) (extVirtualLinks : List ExtVirtualLinkData)
    (instVnfc : VnfcResourceInfo × Nat) :
    List ResourceDefinition × List ResourceDefinition × List Noted :=
  if changedCps extVirtualLinks instVnfc.1 = [] then ([], [], [])
  else
    ([serverDef (uuids.of (.added instVnfc.2)) instVnfc.1],
      ((changedCps extVirtualLinks instVnfc.1).filter fun cpInfo =>
        cpInfo.cpdId ∉ requestedLinkPorts extVirtualLinks).map
          (portDef (uuids.of (.added instVnfc.2))),
      (replacedCps extVirtualLinks instVnfc.1).map fun cpInfo =>
        (portDef (uuids.of (.removed instVnfc.2)) cpInfo, cpInfo.vnfExtCpId))

/-- `change_ext_conn_grant`. -/
def changeExtConnGrant (uuids : Uuids) (instInfo : InstantiatedVnfInfo)
    (extVirtualLinks : List ExtVirtualLinkData) : Except Raised GrantRequest := do
  let vnfcs ← load "vnfcResourceInfo" instInfo.vnfcResourceInfo
  let each := vnfcs.zipIdx.map (changeExtConnVnfc uuids extVirtualLinks)
  return {
    addResources := unlessEmpty (each.flatMap (·.2.1))
    removeResources := unlessEmpty
      ((fillHandles instInfo.extPorts (each.flatMap (·.2.2))).map Prod.fst)
    updateResources := unlessEmpty (each.flatMap (·.1)) }

end Tacker.Grant
