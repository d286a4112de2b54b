import Tacker.UserData.Template

/-!
# What user data classes are given

The instance, the request, the grant and the package as a user data class sees them, and the
functions of `common/common_script_utils.py` that pick a parameter out of these. A list that is not
set is read as the empty list, as `get(…, [])` does.
-/

namespace Tacker.UserData

open Tacker.Basis

/-! ## Data -/

/-- One of the `ipAddresses` of a connection point. -/
structure IpAddresses where
  fixedAddresses : Option (List String) := none
  subnetId : Option String := none
deriving DecidableEq

/-- `cpProtocolData`; the addresses are those of `ipOverEthernet`. -/
structure CpProtocolData where
  ipOverEthernet : Option (List IpAddresses) := none
deriving DecidableEq

/-- A value of `cpConfig`. -/
structure CpConfig where
  cpProtocolData : List CpProtocolData := []
deriving DecidableEq

/-- `VnfExtCpData`. -/
structure ExtCp where
  cpdId : String
  cpConfig : List CpConfig := []
deriving DecidableEq

/-- An external virtual link: of a request or grant with its `extCps`, of an instance with its
`currentVnfExtCpData` and the `resourceId` of its handle. -/
structure ExtVl where
  resourceId : String
  extCps : List ExtCp := []
deriving DecidableEq

/-- `extManagedVirtualLinks` of a request or grant; `extManagedVirtualLinkInfo` of an instance with
the `resourceId` of its network. -/
structure ExtManagedVl where
  vnfVirtualLinkDescId : String
  resourceId : String
deriving DecidableEq

/-- What user data classes read of a request. -/
structure Req where
  extVirtualLinks : List ExtVl := []
  extManagedVirtualLinks : List ExtManagedVl := []
  additionalParams : Value := .empty

/-- A resource definition of a grant request; `resourceId` is that of its `resource`. -/
structure ResourceDef where
  id : String
  type : String
  resourceTemplateId : String
  resourceId : String := ""
deriving DecidableEq

/-- What user data classes read of a grant request. -/
structure GrantReq where
  addResources : List ResourceDef := []
  removeResources : List ResourceDef := []
  dstVnfdId : String := ""

/-- One of the `zones` of a grant. -/
structure ZoneInfo where
  id : String
  zoneId : String
deriving DecidableEq

/-- One of the `addResources` of a grant. -/
structure GrantInfo where
  resourceDefinitionId : String
  zoneId : Option String := none
deriving DecidableEq

/-- What user data classes read of a grant; `vimAssets` by the identifier in the VNFD. -/
structure Grant where
  extVirtualLinks : List ExtVl := []
  extManagedVirtualLinks : List ExtManagedVl := []
  additionalParams : Value := .empty
  zones : Option (List ZoneInfo) := none
  addResources : Option (List GrantInfo) := none
  computeResourceFlavours : List (String × String) := []
  softwareImages : List (String × String) := []

/-- `VnfcResourceInfo`. -/
structure VnfcResourceInfo where
  id : String
  vduId : String
  resourceId : String
  vduIdx : Option Nat
deriving DecidableEq

/-- What user data classes read of an instance. -/
structure Inst where
  vnfdId : String
  flavourId : String
  vnfcResourceInfo : List VnfcResourceInfo := []
  extVirtualLinkInfo : List ExtVl := []
  extManagedVirtualLinkInfo : List ExtManagedVl := []
  /-- `instantiatedVnfInfo.metadata.nfv`. -/
  nfv : Value := .empty

/-- What user data classes read of a package, by the flavour. -/
structure Vnfd where
  /-- The keys of `get_vdu_nodes`. -/
  vduNodes : String → List String
  /-- `get_base_hot(flavour_id)['template']`. -/
  baseHot : String → Option Value
  /-- `get_compute_flavor`. -/
  computeFlavor : String → String → Option String
  /-- `get_sw_image`. -/
  swImage : String → List (String × String)

/-- The packages, by the identifier of the VNFD: `get_vnfd`. -/
abbrev Csar := String → Vnfd

/-! ## Parameters of VDUs -/

/-- `get_param_flavor`. -/
def getParamFlavor (vduName flavourId : String) (vnfd : Vnfd) (grant : Grant) : Option String :=
  match grant.computeResourceFlavours.find? fun flavour => flavour.1 = vduName with
  | some flavour => some flavour.2
  | none => vnfd.computeFlavor flavourId vduName

/-- `get_param_image` without the fallback to the VNFD. -/
def getGrantImage (vduName : String) (grant : Grant) : Option String :=
  (grant.softwareImages.find? fun image => image.1 = vduName).map Prod.snd

/-- `get_param_image`. -/
def getParamImage (vduName flavourId : String) (vnfd : Vnfd) (grant : Grant) : Option String :=
  match getGrantImage vduName grant with
  | some image => some image
  | none => ((vnfd.swImage flavourId).find? fun image => image.1 = vduName).map Prod.snd

/-- `get_param_zone_by_vnfc`. -/
def getParamZoneByVnfc (resId : String) (grant : Grant) : Option String := do
  let zones ← grant.zones
  let addResources ← grant.addResources
  let res ← addResources.find? fun res => res.resourceDefinitionId = resId
  let zoneId ← res.zoneId
  let zone ← zones.find? fun zone => zone.id = zoneId
  return zone.zoneId

/-- `get_current_capacity`. -/
def getCurrentCapacity (vduName : String) (inst : Inst) : Nat :=
  inst.vnfcResourceInfo.countP fun instVnfc => instVnfc.vduId = vduName

/-! ## Parameters of connection points -/

/-- A fixed IP that the request or the instance gives a connection point. -/
structure FixedIp where
  ipAddress : Option String
  subnet : Option String
deriving DecidableEq

/-- What `_get_fixed_ips_from_extcp` makes of one address. -/
def fixedIp (ip : IpAddresses) : Except Raised (Option FixedIp) :=
  match ip.fixedAddresses with
  | some [] => .error .indexError
  | some (address :: _) => .ok (some ⟨some address, ip.subnetId⟩)
  | none => .ok (ip.subnetId.map fun subnet => ⟨none, some subnet⟩)

/-- `_get_fixed_ips_from_extcp`. -/
def getFixedIpsFromExtcp (extcp : ExtCp) : Except Raised (List FixedIp) := do
  let addresses := extcp.cpConfig.flatMap fun cpConf =>
    cpConf.cpProtocolData.flatMap fun protData => protData.ipOverEthernet.getD []
  let found ← addresses.mapM fixedIp
  return found.filterMap id

/-- The first connection point of the links that has the name, with the network of its link. -/
def findCp (cpName : Key) (vls : List ExtVl) : Option (String × ExtCp) :=
  vls.findSome? fun vl =>
    (vl.extCps.find? fun extcp => .str extcp.cpdId = cpName).map fun extcp => (vl.resourceId, extcp)

/-- `get_param_network`. -/
def getParamNetwork (cpName : Key) (grant : Grant) (req : Req) : Option String :=
  (findCp cpName (grant.extVirtualLinks ++ req.extVirtualLinks)).map Prod.fst

/-- `get_param_fixed_ips`. -/
def getParamFixedIps (cpName : Key) (grant : Grant) (req : Req) :
    Except Raised (Option (List FixedIp)) :=
  (findCp cpName (grant.extVirtualLinks ++ req.extVirtualLinks)).mapM
    fun found => getFixedIpsFromExtcp found.2

/-- `get_param_network_from_inst`. -/
def getParamNetworkFromInst (cpName : Key) (inst : Inst) : Option String :=
  (findCp cpName inst.extVirtualLinkInfo).map Prod.fst

/-- `get_param_fixed_ips_from_inst`. -/
def getParamFixedIpsFromInst (cpName : Key) (inst : Inst) :
    Except Raised (Option (List FixedIp)) :=
  (findCp cpName inst.extVirtualLinkInfo).mapM fun found => getFixedIpsFromExtcp found.2

/-- `'key' in d`, where `d` has to be a dictionary. -/
def hasKey (d : Value) (key : Key) : Except Raised Bool :=
  if d.isDict then .ok (d.get? key).isSome else .error .typeError

/-- A value that may be `None`. -/
def orNone (s : Option String) : Value :=
  (s.map text).getD .null

/-- One of the fixed IPs of the template with the values it asks for. -/
def fillFixedIp (ips : Value) (ext : FixedIp) : Except Raised Value := do
  let ips := if ← hasKey ips "subnet" then ips.set "subnet" (orNone ext.subnet) else ips
  let ips := if ← hasKey ips "ip_address" then ips.set "ip_address" (orNone ext.ipAddress) else ips
  return ips

/-- The fixed IPs of the template with their values, from the index on, up to the first that the
template does not have. -/
def fillFixedIps (templateIps : Value) : Nat → List FixedIp → Except Raised (List Value)
  | _, [] => .ok []
  | i, ext :: exts => do
    if ← hasKey templateIps (.int i) then
      let ips ← item templateIps (.int i)
      let filled ← fillFixedIp ips ext
      let rest ← fillFixedIps templateIps (i + 1) exts
      return filled :: rest
    else return []

/-- `fixed_ips` of a connection point; without addresses `len(None)` raises. -/
def makeFixedIps (cpValue : Value) (extFixedIps : Option (List FixedIp)) : Except Raised Value := do
  match extFixedIps with
  | none => .error .typeError
  | some exts =>
    let filled ← fillFixedIps ((cpValue.get? "fixed_ips").getD .null) 0 exts
    return .list filled

/-! ## The `nfv` dictionary -/

/-- The `nfv` part of `additionalParams` laid over the dictionary. -/
def mergeNfv (nfvDict additionalParams : Value) : Value :=
  ((additionalParams.get? "nfv").map nfvDict.jsonMergePatch).getD nfvDict

/-- `_merge_additional_params`. -/
def mergeAdditionalParams (nfvDict : Value) (req : Req) (grant : Grant) : Value :=
  mergeNfv (mergeNfv nfvDict req.additionalParams) grant.additionalParams

/-- What `_get_new_cps_from_req` and `_get_new_cps_from_inst` make of a connection point: nothing if
it is not connected. -/
def newCp (network : Option String) (fixedIps : Except Raised (Option (List FixedIp)))
    (cpValue : Value) : Except Raised (Option Value) := do
  let hasNetwork ← hasKey cpValue "network"
  if hasNetwork && network.isNone then return none
  let new := if hasNetwork then some ((.empty : Value).set "network" (orNone network)) else none
  if ← hasKey cpValue "fixed_ips" then
    let ips ← makeFixedIps cpValue (← fixedIps)
    return some ((new.getD .empty).set "fixed_ips" ips)
  else return new

/-- `nfv_dict.get('CP', {})`. -/
def cpsOf (nfvDict : Value) : Except Raised Value :=
  getOrEmpty nfvDict "CP"

end Tacker.UserData
