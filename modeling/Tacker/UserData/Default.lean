import Tacker.UserData.Params
import Tacker.UserData.Standard

/-!
# The default user data class

`DefaultUserData` of `userdata_default.py`: the VNFCs of a VDU are a group of the template whose
size is the parameter `desired_capacity`, and the fields of an operation patch the parameters only.
-/

namespace Tacker.UserData

open Tacker.Basis

/-- `get_param_capacity`. -/
def getParamCapacity (vduName : String) (inst : Inst) (grantReq : GrantReq) : Int :=
  let ofVdu := fun res : ResourceDef => res.type = "COMPUTE" ∧ res.resourceTemplateId = vduName
  (getCurrentCapacity vduName inst : Int) + grantReq.addResources.countP ofVdu -
    grantReq.removeResources.countP ofVdu

/-- The parameters that the template of the flavour takes from `nfv`. -/
def baseNfvDict (vnfd : Vnfd) (flavourId : String) : Except Raised Value :=
  match vnfd.baseHot flavourId with
  | none => .error .keyError
  | some topHot => initNfvDict topHot

namespace DefaultUserData

/-- `new_vdus`: the capacity of every VDU whose capacity is a parameter. -/
def newCapacities (capacity : String → Int) (vdus : Value) : Except Raised Value := do
  let names ← keysOf vdus
  Json.buildDict (fun vduName => do
    let vduValue ← item vdus vduName
    if ← hasKey vduValue "desired_capacity" then
      let count := match vduName with
        | .str name => capacity name
        | _ => 0
      return some ((.empty : Value).set "desired_capacity" (.atom (.int count)))
    else return none) names

/-- The dictionary that `scale` and `scale_rollback` return. -/
def scaleFields (csar : Csar) (inst : Inst) (capacity : String → Int) : Except Raised Value := do
  let nfvDict ← baseNfvDict (csar inst.vnfdId) inst.flavourId
  let vdus ← getOrEmpty nfvDict "VDU"
  let newVdus ← newCapacities capacity vdus
  return (.empty : Value).set "VDU" newVdus

/-- `scale`. -/
def scale (csar : Csar) (inst : Inst) (grantReq : GrantReq) : Except Raised Value :=
  scaleFields csar inst fun vduName => getParamCapacity vduName inst grantReq

/-- `scale_rollback`. -/
def scaleRollback (csar : Csar) (inst : Inst) : Except Raised Value :=
  scaleFields csar inst fun vduName => getCurrentCapacity vduName inst

/-- What `_get_new_cps_from_req` and `_get_new_cps_from_inst` have in common. -/
def getNewCps (network : Key → Option String)
    (fixedIps : Key → Except Raised (Option (List FixedIp))) (cps : Value) :
    Except Raised Value := do
  let names ← keysOf cps
  Json.buildDict (fun cpName => do
    let cpValue ← item cps cpName
    newCp (network cpName) (fixedIps cpName) cpValue) names

/-- `_get_new_cps_from_req`. -/
def getNewCpsFromReq (cps : Value) (req : Req) (grant : Grant) : Except Raised Value :=
  getNewCps (getParamNetwork · grant req) (getParamFixedIps · grant req) cps

/-- `_get_new_cps_from_inst`. -/
def getNewCpsFromInst (cps : Value) (inst : Inst) : Except Raised Value :=
  getNewCps (getParamNetworkFromInst · inst) (getParamFixedIpsFromInst · inst) cps

/-- `change_ext_conn`. -/
def changeExtConn (csar : Csar) (req : Req) (inst : Inst) (grant : Grant) :
    Except Raised Value := do
  let nfvDict ← baseNfvDict (csar inst.vnfdId) inst.flavourId
  let cps ← cpsOf nfvDict
  let newCps ← getNewCpsFromReq cps req grant
  return (.empty : Value).set "CP" newCps

/-- `change_ext_conn_rollback`. -/
def changeExtConnRollback (csar : Csar) (inst : Inst) : Except Raised Value := do
  let nfvDict ← baseNfvDict (csar inst.vnfdId) inst.flavourId
  let cps ← cpsOf nfvDict
  let newCps ← getNewCpsFromInst cps inst
  return (.empty : Value).set "CP" newCps

end DefaultUserData

/-!
## The stack

What the driver submits to Heat: the fields of a user data class, laid over what the stack has.
-/

/-- The template of a stack and its parameter `nfv`. -/
structure Stack where
  template : Value
  nfv : Value

/-- What an update leaves in a part of the stack. -/
def updatePart (full : Bool) (orig : Value) (field : Option Value) : Value :=
  match field with
  | none => orig
  | some patch => if full then patch else orig.jsonMergePatch patch

/-- `_update_fields` and `update_stack`: fields that are not the full content are merge patches, and
what they do not have stays. -/
def updateFields (stack : Stack) (fields : Fields) : Stack where
  template := updatePart fields.full stack.template fields.template
  nfv := updatePart fields.full stack.nfv fields.nfv

/-- The user data classes of the repository. -/
inductive UserDataClass where
  | default
  | standard
deriving DecidableEq

/-- Fields with parameters only. -/
def nfvField (nfv : Value) : Fields :=
  { nfv := some nfv }

namespace UserDataClass

/-- `change_ext_conn` of the class. -/
def changeExtConn (cls : UserDataClass) (csar : Csar) (req : Req) (inst : Inst) (grant : Grant) :
    Except Raised Fields :=
  match cls with
  | .default => nfvField <$> DefaultUserData.changeExtConn csar req inst grant
  | .standard => StandardUserData.changeExtConn csar req inst grant

/-- `scale` of the class, for a scale-out. -/
def scaleOut (cls : UserDataClass) (csar : Csar) (req : Req) (inst : Inst) (grantReq : GrantReq)
    (grant : Grant) : Except Raised Fields :=
  match cls with
  | .default => nfvField <$> DefaultUserData.scale csar inst grantReq
  | .standard => StandardUserData.scaleOut csar req inst grantReq grant

/-- `scale_rollback` of the class. -/
def scaleRollback (cls : UserDataClass) (csar : Csar) (inst : Inst) (grantReq : GrantReq) :
    Except Raised Fields :=
  match cls with
  | .default => nfvField <$> DefaultUserData.scaleRollback csar inst
  | .standard => StandardUserData.scaleRollback csar inst grantReq

/-- `change_ext_conn_rollback` of the class. -/
def changeExtConnRollback (cls : UserDataClass) (csar : Csar) (inst : Inst) :
    Except Raised Fields :=
  match cls with
  | .default => nfvField <$> DefaultUserData.changeExtConnRollback csar inst
  | .standard => return StandardUserData.changeExtConnRollback inst

end UserDataClass

/-! ## A package -/

/-- `{ get_param: […] }`. -/
def getParamOf (path : List String) : Value :=
  .dict [("get_param", .list (path.map text))]

/-- The base HOT of a package with one VDU, which has a zone and a connection point. -/
def vdu1Hot : Value :=
  .dict [("resources", .dict [("VDU1", .dict
    [("type", text "VDU1.yaml"),
      ("properties", .dict
        [("zone", getParamOf ["nfv", "VDU", "VDU1", "locationConstraints"]),
          ("net", getParamOf ["nfv", "CP", "VDU1_CP1", "network"])])])])]

/-- The package with one VDU. -/
def vdu1Vnfd : Vnfd where
  vduNodes _ := ["VDU1"]
  baseHot _ := some vdu1Hot
  computeFlavor _ _ := none
  swImage _ := []

/-- An instance of the package with one VNFC, which was instantiated without a zone. -/
def vdu1Inst : Inst where
  vnfdId := "vnfd"
  flavourId := "simple"
  vnfcResourceInfo := [⟨"server-0", "VDU1", "server-0", some 0⟩]
  extVirtualLinkInfo := [{ resourceId := "net-0", extCps := [{ cpdId := "VDU1_CP1" }] }]
  nfv := .dict
    [("VDU", .dict [("VDU1-0", .dict [("locationConstraints", .null)])]),
      ("CP", .dict [("VDU1_CP1-0", .dict [("network", text "net-0")])])]

/-!
## Further calls of the default user data class

`instantiate` and `change_vnfpkg` of `DefaultUserData`, which fill in the parameters of VDUs and
connection points alike. The files of the package are left out.
-/

/-- `get_param_zone`. -/
def getParamZone (vduName : String) (grantReq : GrantReq) (grant : Grant) : Option String := do
  let zones ← grant.zones
  let addResources ← grant.addResources
  addResources.findSome? fun res => do
    let zoneId ← res.zoneId
    grantReq.addResources.findSome? fun reqRes =>
      if reqRes.id = res.resourceDefinitionId ∧ reqRes.resourceTemplateId = vduName then
        (zones.find? fun zone => zone.id = zoneId).map (·.zoneId)
      else none

/-- What is found for the name of a VDU; nothing is found for another key. -/
def forName (vduName : Key) (find : String → Option String) : Value :=
  match vduName with
  | .str name => orNone (find name)
  | _ => .null

/-- `vdu_value[key] = value` where the template asks for it. -/
def fillKey (key : Key) (value vduValue : Value) : Except Raised Value := do
  if ← hasKey vduValue key then return vduValue.set key value else return vduValue

/-- The values of a connection point: its network and its fixed IPs, where the template asks for
them. -/
def fillCpValue (network : Option String) (fixedIps : Except Raised (Option (List FixedIp)))
    (cpValue : Value) : Except Raised Value := do
  let v := if ← hasKey cpValue "network" then
    cpValue.set "network" (orNone network) else cpValue
  if ← hasKey v "fixed_ips" then
    let ips ← makeFixedIps cpValue (← fixedIps)
    return v.set "fixed_ips" ips
  else return v

/-- The standard class does the same under the name without its index. -/
lemma fillCp_str {network : String → Option String}
    {fixedIps : String → Except Raised (Option (List FixedIp))} {nameIdx : String}
    {cpValue : Value} : fillCp network fixedIps (.str nameIdx) cpValue =
      fillCpValue (network (rmIdx nameIdx)) (fixedIps (rmIdx nameIdx)) cpValue := rfl

namespace DefaultUserData

/-- The capacity that the template asks for; another key is the name of no VDU. -/
def capacityOf (inst : Inst) (grantReq : GrantReq) : Key → Int
  | .str name => getParamCapacity name inst grantReq
  | _ => 0

/-- The values of a VDU: flavour, image, zone and capacity, where the template asks for them. -/
def fillVdu (vnfd : Vnfd) (flavourId : String) (inst : Inst) (grantReq : GrantReq) (grant : Grant)
    (vduName : Key) (vduValue : Value) : Except Raised Value := do
  let v ← fillKey "computeFlavourId"
    (forName vduName fun name => getParamFlavor name flavourId vnfd grant) vduValue
  let v ← fillKey "vcImageId"
    (forName vduName fun name => getParamImage name flavourId vnfd grant) v
  let v ← fillKey "locationConstraints"
    (forName vduName fun name => getParamZone name grantReq grant) v
  fillKey "desired_capacity" (.atom (.int (capacityOf inst grantReq vduName))) v

/-- `instantiate`; the flavour is that of the request. -/
def instantiate (csar : Csar) (flavourId : String) (req : Req) (inst : Inst) (grantReq : GrantReq)
    (grant : Grant) : Except Raised Fields := do
  let vnfd := csar inst.vnfdId
  let topHot ← orRaise (vnfd.baseHot flavourId) .keyError
  let nfvDict ← initNfvDict topHot
  let nfvDict ← fillAt nfvDict "VDU" (fillVdu vnfd flavourId inst grantReq grant)
  let nfvDict ← fillAt nfvDict "CP" fun cpName =>
    fillCpValue (getParamNetwork cpName grant req) (getParamFixedIps cpName grant req)
  let topHot ← applyExtManagedVlsFromReq topHot req grant
  return { template := some topHot, nfv := some (mergeAdditionalParams nfvDict req grant) }

/-- `new_vdus[vdu_name]` of `change_vnfpkg`: the flavour and the image that the template asks for. -/
def newVdu (vnfd : Vnfd) (flavourId : String) (grant : Grant) (vduName : Key) (vduValue : Value) :
    Except Raised (Option Value) := do
  let new := if ← hasKey vduValue "computeFlavourId" then
    some ((.empty : Value).set "computeFlavourId"
      (forName vduName fun name => getParamFlavor name flavourId vnfd grant)) else none
  if ← hasKey vduValue "vcImageId" then
    return some ((new.getD .empty).set "vcImageId"
      (forName vduName fun name => getParamImage name flavourId vnfd grant))
  else return new

/-- `change_vnfpkg`. -/
def changeVnfpkg (csar : Csar) (req : Req) (inst : Inst) (grantReq : GrantReq) (grant : Grant) :
    Except Raised Value := do
  let vnfd := csar grantReq.dstVnfdId
  let nfvDict ← baseNfvDict vnfd inst.flavourId
  let vdus ← getOrEmpty nfvDict "VDU"
  let names ← keysOf vdus
  let newVdus ← Json.buildDict (fun vduName => do
    let vduValue ← item vdus vduName
    newVdu vnfd inst.flavourId grant vduName vduValue) names
  let cps ← cpsOf nfvDict
  let newCps ← getNewCpsFromReq cps req grant
  return (Json.empty.set (.str "VDU") newVdus).set (.str "CP") newCps

end DefaultUserData

end Tacker.UserData
