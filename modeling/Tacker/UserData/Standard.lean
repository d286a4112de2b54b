import Tacker.UserData.Params

/-!
# External managed virtual links in a template

`apply_ext_managed_vls` and `apply_ext_managed_vls_from_inst` of `common/common_script_utils.py`: the
network of an external managed virtual link and its subnets are taken out of the template, and the
references to the network become its identifier.
-/

namespace Tacker.UserData

open Tacker.Basis

/-- `value == {'get_resource': vl_name}`. -/
def isGetResource (vlName : String) (value : Value) : Bool :=
  value.keys = [.str "get_resource"] &&
    match value.get? "get_resource" with
    | some (.atom (.str s)) => s = vlName
    | _ => false

/-- `_change`: every reference to the link, in dictionaries of dictionaries, is replaced. -/
def change (vlName networkId : String) : Value → Value
  | .obj ks unique value => .obj ks unique fun key =>
    if isGetResource vlName (value key) then text networkId else change vlName networkId (value key)
  | value => value

/-- The resource is a subnet of the link. -/
def isSubnetOf (vlName : String) (resData : Value) : Except Raised Bool := do
  match ← item resData "type" with
  | .atom (.str "OS::Neutron::Subnet") =>
    let properties ← getOrEmpty resData "properties"
    let network ← getOrEmpty properties "network"
    if network.isDict then
      match network.get? "get_resource" with
      | some (.atom (.str net)) => return net = vlName
      | _ => return false
    else .error .attributeError
  | _ => return false

/-- `del_reses`: the names of the network and of its subnets. -/
def delReses (vlName : String) (resources : Value) : Except Raised (List Key) := do
  let found ← resources.keys.mapM fun name => do
    let isSubnet ← isSubnetOf vlName ((resources.get? name).getD .null)
    return (if name = .str vlName then [name] else []) ++ (if isSubnet then [name] else [])
  return found.flatten

/-- `hot_dict['resources'].pop(res_name)`. -/
def popRes (resources : Value) (name : Key) : Except Raised Value :=
  if (resources.get? name).isSome then .ok (resources.del name) else .error .keyError

/-- `_apply_ext_managed_vls` for one link. -/
def applyExtManagedVl (hotDict : Value) (mgdVl : ExtManagedVl) : Except Raised Value := do
  let resources ← getOrEmpty hotDict "resources"
  let _ ← keysOf resources
  let names ← delReses mgdVl.vnfVirtualLinkDescId resources
  let changed ← resources.mapValuesM fun _ res =>
    .ok (change mgdVl.vnfVirtualLinkDescId mgdVl.resourceId res)
  let left ← names.foldlM popRes changed
  return if (hotDict.get? "resources").isSome then hotDict.set "resources" left else hotDict

/-- `_apply_ext_managed_vls`. -/
def applyExtManagedVls (hotDict : Value) (mgdVls : List ExtManagedVl) : Except Raised Value :=
  mgdVls.foldlM applyExtManagedVl hotDict

/-- The links that `apply_ext_managed_vls` applies. -/
def mgdVlsOfReq (req : Req) (grant : Grant) : List ExtManagedVl :=
  grant.extManagedVirtualLinks ++ req.extManagedVirtualLinks

/-- `apply_ext_managed_vls`. -/
def applyExtManagedVlsFromReq (hotDict : Value) (req : Req) (grant : Grant) :
    Except Raised Value :=
  applyExtManagedVls hotDict (mgdVlsOfReq req grant)

/-- `apply_ext_managed_vls_from_inst`. -/
def applyExtManagedVlsFromInst (hotDict : Value) (inst : Inst) : Except Raised Value :=
  applyExtManagedVls hotDict inst.extManagedVirtualLinkInfo

/-!
## The standard user data class

`StandardUserData` of `userdata_standard.py`: every VNFC has a resource of its own in the template
of the stack, named after its VDU and its index. The files of the package are left out.
-/

/-- The fields that a user data class returns. -/
structure Fields where
  template : Option Value := none
  nfv : Option Value := none
  /-- `'existing': False`: the fields are the full content. -/
  full : Bool := false

/-! ## Common steps -/

/-- The template without the resources of the VDUs, and these. -/
structure Popped where
  vdus : List (String × Value)
  hot : Value

/-- `popped_vdu[vdu_name] = top_hot.get('resources', {}).pop(vdu_name)`. -/
def popVdu (p : Popped) (vduName : String) : Except Raised Popped := do
  let resources ← getOrEmpty p.hot "resources"
  let _ ← keysOf resources
  let vdu ← item resources vduName
  return ⟨p.vdus ++ [(vduName, vdu)], p.hot.set "resources" (resources.del vduName)⟩

/-- The base HOT of the flavour, with the VDU resources taken out. -/
def popVdus (vnfd : Vnfd) (flavourId : String) : Except Raised Popped := do
  match vnfd.baseHot flavourId with
  | none => .error .keyError
  | some topHot => (vnfd.vduNodes flavourId).foldlM popVdu ⟨[], topHot⟩

/-- `popped_vdu[vdu_name]`. -/
def Popped.vdu (p : Popped) (vduName : String) : Except Raised Value :=
  match p.vdus.find? fun vdu => vdu.1 = vduName with
  | some vdu => .ok vdu.2
  | none => .error .keyError

/-- `top_hot['resources'][name] = res`. -/
def setRes (hot : Value) (name : String) (res : Value) : Except Raised Value := do
  let resources ← item hot "resources"
  if resources.isDict then return hot.set "resources" (resources.set name res)
  else .error .typeError

/-- The resource of a VDU under an index, added to the template. -/
def addVduRes (p : Popped) (hot : Value) (vduName : String) (vduIdx : Nat) :
    Except Raised Value := do
  let vdu ← p.vdu vduName
  let res ← addIdxToVduTemplate vdu vduIdx
  setRes hot (addIdx vduName vduIdx) res

/-- One turn of the loop over the recorded VNFCs. -/
def addInstVnfc (p : Popped) (hot : Value) (instVnfc : VnfcResourceInfo) : Except Raised Value :=
  match instVnfc.vduIdx with
  | none => .ok hot
  | some vduIdx => addVduRes p hot instVnfc.vduId vduIdx

/-- The template of the package with the resources of the recorded VNFCs. -/
def instHot (vnfd : Vnfd) (inst : Inst) : Except Raised Value := do
  let p ← popVdus vnfd inst.flavourId
  inst.vnfcResourceInfo.foldlM (addInstVnfc p) p.hot

/-- The resources that a grant request adds for the VDUs of the package, with the index each of them
gets, counted from the next one of its VDU. -/
def numberVdus (vduNodes : List String) (next : String → Nat) :
    List ResourceDef → List (ResourceDef × Nat)
  | [] => []
  | res :: reses =>
    if res.type = "COMPUTE" ∧ res.resourceTemplateId ∈ vduNodes then
      (res, next res.resourceTemplateId) ::
        numberVdus vduNodes
          (Function.update next res.resourceTemplateId (next res.resourceTemplateId + 1)) reses
    else numberVdus vduNodes next reses

/-- The resources that a scale-out adds, with their indices. -/
def addedBy (csar : Csar) (inst : Inst) (grantReq : GrantReq) : List (ResourceDef × Nat) :=
  numberVdus ((csar inst.vnfdId).vduNodes inst.flavourId) (getCurrentCapacity · inst)
    grantReq.addResources

/-- The template with a resource for every VNFC that the grant request adds. -/
def addHot (p : Popped) (added : List (ResourceDef × Nat)) : Except Raised Value :=
  added.foldlM (fun hot res => addVduRes p hot res.1.resourceTemplateId res.2) p.hot

/-- `zones[vdu_name_idx]`: the zone that the grant has for the VNFC. -/
def zoneOf (grant : Grant) (added : List (ResourceDef × Nat)) (vduNameIdx : String) :
    Except Raised (Option String) :=
  match added.find? fun res => addIdx res.1.resourceTemplateId res.2 = vduNameIdx with
  | some res => .ok (getParamZoneByVnfc res.1.id grant)
  | none => .error .keyError

/-- `rm_idx` of the key of a parameter. -/
def rmIdxKey : Key → Except Raised String
  | .str name => .ok (rmIdx name)
  | _ => .error .attributeError

/-- The values of a VDU: flavour, image and zone, where the template asks for them. -/
def fillVdu (vnfd : Vnfd) (flavourId : String) (grant : Grant) (added : List (ResourceDef × Nat))
    (vduNameIdx : Key) (vduValue : Value) : Except Raised Value := do
  let vduName ← rmIdxKey vduNameIdx
  let v := if ← hasKey vduValue "computeFlavourId" then
    vduValue.set "computeFlavourId" (orNone (getParamFlavor vduName flavourId vnfd grant))
    else vduValue
  let v := if ← hasKey v "vcImageId" then
    v.set "vcImageId" (orNone (getParamImage vduName flavourId vnfd grant)) else v
  if ← hasKey v "locationConstraints" then
    match vduNameIdx with
    | .str name =>
      let zone ← zoneOf grant added name
      return v.set "locationConstraints" (orNone zone)
    | _ => .error .keyError
  else return v

/-- The values of a connection point: its network and its fixed IPs, where the template asks for
them. -/
def fillCp (network : String → Option String)
    (fixedIps : String → Except Raised (Option (List FixedIp))) (cpNameIdx : Key)
    (cpValue : Value) : Except Raised Value := do
  let cpName ← rmIdxKey cpNameIdx
  let v := if ← hasKey cpValue "network" then
    cpValue.set "network" (orNone (network cpName)) else cpValue
  if ← hasKey v "fixed_ips" then
    let ips ← makeFixedIps cpValue (← fixedIps cpName)
    return v.set "fixed_ips" ips
  else return v

/-- The values under a key of the `nfv` dictionary, written anew. -/
def fillAt (nfvDict : Value) (key : Key) (fill : Key → Value → Except Raised Value) :
    Except Raised Value := do
  let d ← getOrEmpty nfvDict key
  let _ ← keysOf d
  let d' ← d.mapValuesM fill
  return if (nfvDict.get? key).isSome then nfvDict.set key d' else nfvDict

/-- The parameters whose value is `None` are left out. -/
def excludeNone (v : Value) : Value :=
  v.keys.foldl (fun t k => if ((v.get? k).getD .empty).isNull then t.del k else t) v

/-! ## Operations -/

/-- What `instantiate` and `_scale_out` make of the resources to add: the template with their VDUs,
before the parameters are filled in. -/
def addedHot (vnfd : Vnfd) (flavourId : String) (next : String → Nat) (grantReq : GrantReq) :
    Except Raised (List (ResourceDef × Nat) × Value) := do
  let p ← popVdus vnfd flavourId
  let added := numberVdus (vnfd.vduNodes flavourId) next grantReq.addResources
  let topHot ← addHot p added
  return (added, topHot)

namespace StandardUserData

/-- `instantiate`; the flavour is that of the request. -/
def instantiate (csar : Csar) (flavourId : String) (req : Req) (inst : Inst) (grantReq : GrantReq)
    (grant : Grant) : Except Raised Fields := do
  let vnfd := csar inst.vnfdId
  let (added, topHot) ← addedHot vnfd flavourId (fun _ => 0) grantReq
  let nfvDict ← initNfvDict topHot
  let nfvDict ← fillAt nfvDict "VDU" (fillVdu vnfd flavourId grant added)
  let nfvDict ← fillAt nfvDict "CP"
    (fillCp (fun cp => getParamNetwork (.str cp) grant req)
      (fun cp => getParamFixedIps (.str cp) grant req))
  let topHot ← applyExtManagedVlsFromReq topHot req grant
  return { template := some topHot, nfv := some (mergeAdditionalParams nfvDict req grant) }

/-- `_scale_out`. -/
def scaleOut (csar : Csar) (req : Req) (inst : Inst) (grantReq : GrantReq) (grant : Grant) :
    Except Raised Fields := do
  let vnfd := csar inst.vnfdId
  let (added, topHot) ← addedHot vnfd inst.flavourId (getCurrentCapacity · inst) grantReq
  let nfvDict ← initNfvDict topHot
  let nfvDict ← fillAt nfvDict "VDU" fun key v => do
    let filled ← fillVdu vnfd inst.flavourId grant added key v
    return excludeNone filled
  let nfvDict ← fillAt nfvDict "CP" fun key v => do
    let filled ← fillCp (fun cp => getParamNetworkFromInst (.str cp) inst)
      (fun cp => getParamFixedIpsFromInst (.str cp) inst) key v
    return excludeNone filled
  let topHot ← applyExtManagedVlsFromInst topHot inst
  return { template := some topHot, nfv := some (mergeAdditionalParams nfvDict req grant) }

/-- The names that `_scale_in` deletes. The index of a VNFC that is not recorded is the one that was
read before, if any. -/
def removedNames (inst : Inst) : Option Nat → List ResourceDef → Except Raised (List String)
  | _, [] => .ok []
  | vduIdx, res :: reses =>
    if res.type = "COMPUTE" then do
      let vduIdx ← match
          inst.vnfcResourceInfo.find? fun instVnfc => instVnfc.resourceId = res.resourceId with
        | some instVnfc => orRaise instVnfc.vduIdx .keyError
        | none => orRaise vduIdx .unboundLocalError
      let rest ← removedNames inst (some vduIdx) reses
      return addIdx res.resourceTemplateId vduIdx :: rest
    else removedNames inst vduIdx reses

/-- A patch of the template that deletes resources. -/
def deleting (names : List String) : Value :=
  .dict [(.str "resources", .dict (names.map fun name => (.str name, .null)))]

/-- `_scale_in`. -/
def scaleIn (inst : Inst) (grantReq : GrantReq) : Except Raised Fields := do
  let names ← removedNames inst none grantReq.removeResources
  return { template := some (deleting names) }

/-- The names that `scale_rollback` deletes, counted from the next index of each VDU. -/
def rolledBackNames (vduNodes : List String) (next : String → Nat) :
    List ResourceDef → Except Raised (List String)
  | [] => .ok []
  | res :: reses =>
    if res.type = "COMPUTE" then
      if res.resourceTemplateId ∈ vduNodes then do
        let rest ← rolledBackNames vduNodes
          (Function.update next res.resourceTemplateId (next res.resourceTemplateId + 1)) reses
        return addIdx res.resourceTemplateId (next res.resourceTemplateId) :: rest
      else .error .keyError
    else rolledBackNames vduNodes next reses

/-- `scale_rollback`. -/
def scaleRollback (csar : Csar) (inst : Inst) (grantReq : GrantReq) : Except Raised Fields := do
  let vnfd := csar inst.vnfdId
  let names ← rolledBackNames (vnfd.vduNodes inst.flavourId) (getCurrentCapacity · inst)
    grantReq.addResources
  return { template := some (deleting names) }

/-- `_get_new_cps_from_req`. -/
def getNewCpsFromReq (cps : Value) (req : Req) (grant : Grant) : Except Raised Value := do
  let names ← keysOf cps
  Json.buildDict (fun cpNameIdx => do
    let cpName ← rmIdxKey cpNameIdx
    let cpValue ← item cps cpNameIdx
    newCp (getParamNetwork (.str cpName) grant req) (getParamFixedIps (.str cpName) grant req)
      cpValue) names

/-- `change_ext_conn`. -/
def changeExtConn (csar : Csar) (req : Req) (inst : Inst) (grant : Grant) :
    Except Raised Fields := do
  let topHot ← instHot (csar inst.vnfdId) inst
  let nfvDict ← initNfvDict topHot
  let cps ← cpsOf nfvDict
  let newCps ← getNewCpsFromReq cps req grant
  return { nfv := some (mergeAdditionalParams ((.empty : Value).set "CP" newCps) req grant) }

/-- `change_ext_conn_rollback`. -/
def changeExtConnRollback (inst : Inst) : Fields :=
  { nfv := some inst.nfv }

/-- One turn of the loop of `heal` over the VNFCs to remove: a new image, if the grant has one. -/
def healVnfc (inst : Inst) (grant : Grant) (vdus : Value) (res : ResourceDef) :
    Except Raised Value :=
  match inst.vnfcResourceInfo.find? fun instVnfc => instVnfc.resourceId = res.resourceId with
  | none => .ok vdus
  | some instVnfc => do
    let vduIdx ← orRaise instVnfc.vduIdx .keyError
    match getGrantImage instVnfc.vduId grant with
    | some image => setIn vdus (addIdx instVnfc.vduId vduIdx) "vcImageId" (text image)
    | none => return vdus

/-- `heal`. -/
def heal (req : Req) (inst : Inst) (grantReq : GrantReq) (grant : Grant) : Except Raised Fields := do
  let vdus ← getOrEmpty inst.nfv "VDU"
  let vdus ← (grantReq.removeResources.filter fun res => res.type = "COMPUTE").foldlM
    (healVnfc inst grant) vdus
  return { nfv := some (mergeAdditionalParams ((.empty : Value).set "VDU" vdus) req grant) }

/-- The new flavour and image of a VNFC that `change_vnfpkg` replaces. -/
def changeVdu (vnfd : Vnfd) (flavourId : String) (grant : Grant) (newVdus vdus : Value)
    (vduNameIdx : Key) : Except Raised Value := do
  let vduName ← rmIdxKey vduNameIdx
  let vduValue ← item newVdus vduNameIdx
  let vdus ← if ← hasKey vduValue "computeFlavourId" then
      setIn vdus vduNameIdx "computeFlavourId"
        (orNone (getParamFlavor vduName flavourId vnfd grant))
    else pure vdus
  if ← hasKey vduValue "vcImageId" then
    setIn vdus vduNameIdx "vcImageId" (orNone (getParamImage vduName flavourId vnfd grant))
  else return vdus

/-- The template with the resources of some VNFCs only. -/
def hotOf (topHot : Value) (vnfcs : List VnfcResourceInfo) : Except Raised Value := do
  let resources ← getOrEmpty topHot "resources"
  let names : List String :=
    vnfcs.filterMap fun instVnfc => instVnfc.vduIdx.map (addIdx instVnfc.vduId)
  let reses ← names.mapM fun (name : String) => do
    let res ← item resources name
    return (Key.str name, res)
  return .dict [("resources", .dict reses)]

/-- The parameters of a connection point in `change_vnfpkg`: those of the request or the grant, or
else the stored ones. -/
def changeCp (reqCps curCps : Value) (cpName : Key) : Except Raised (Option Value) :=
  match reqCps.get? cpName with
  | some cpValue => .ok (some cpValue)
  | none => some <$> item curCps cpName

/-- `change_vnfpkg`. -/
def changeVnfpkg (csar : Csar) (req : Req) (inst : Inst) (grantReq : GrantReq) (grant : Grant) :
    Except Raised Fields := do
  let vnfd := csar grantReq.dstVnfdId
  let topHot ← instHot vnfd inst
  let targetVnfcResIds :=
    (grantReq.removeResources.filter fun res => res.type = "COMPUTE").map (·.resourceId)
  let isTarget := fun instVnfc : VnfcResourceInfo => instVnfc.resourceId ∈ targetVnfcResIds
  let curHot ← hotOf topHot (inst.vnfcResourceInfo.filter fun instVnfc => ¬ isTarget instVnfc)
  let newHot ← hotOf topHot (inst.vnfcResourceInfo.filter fun instVnfc => isTarget instVnfc)
  let curNfvDict ← initNfvDict curHot
  let newNfvDict ← initNfvDict newHot
  let newVdus ← getOrEmpty newNfvDict "VDU"
  let vdus ← getOrEmpty inst.nfv "VDU"
  let newNames ← keysOf newVdus
  let vdus ← newNames.foldlM (changeVdu vnfd inst.flavourId grant newVdus) vdus
  let curCpsOfHot ← cpsOf curNfvDict
  let newCpsOfHot ← cpsOf newNfvDict
  let cps := newCpsOfHot.keys.foldl
    (fun t k => t.set k ((newCpsOfHot.get? k).getD .null)) curCpsOfHot
  let curCps ← cpsOf inst.nfv
  let reqCps ← getNewCpsFromReq cps req grant
  let cps ← Json.buildDict (changeCp reqCps curCps) cps.keys
  let topHot ← applyExtManagedVlsFromReq topHot req grant
  let nfvDict := (Json.empty.set (.str "VDU") vdus).set (.str "CP") cps
  return { template := some topHot
           nfv := some (mergeAdditionalParams nfvDict req grant)
           full := true }

/-- `change_vnfpkg_rollback`. -/
def changeVnfpkgRollback (csar : Csar) (req : Req) (inst : Inst) (grant : Grant) :
    Except Raised Fields := do
  let topHot ← instHot (csar inst.vnfdId) inst
  let topHot ← applyExtManagedVlsFromReq topHot req grant
  return { template := some topHot, nfv := some inst.nfv, full := true }

end StandardUserData

end Tacker.UserData
