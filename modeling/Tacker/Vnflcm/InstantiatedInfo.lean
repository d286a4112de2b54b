import Tacker.Basis.Supply

/-!
# Instantiated VNF info

`_build_instantiated_vnf_info` of `vnflcm/utils.py`: the VNFCs, the external connection points and the
links of a VNF as they are recorded before it is instantiated. The identifiers that are generated are
numbered, so that no two of them are the same. Storages, compute resources and the state are left out,
and the numbers of instances that `_convert_desired_capacity` computes are given with the VNFD.
-/

namespace Tacker.Vnflcm

open Tacker.Basis

/-! ## The VNFD -/

/-- The types of nodes that are looked at, and the others. -/
inductive NodeType where
  | vduCompute
  | vduCp
  | vnfVirtualLink
  | other
deriving DecidableEq

/-- A requirement of a node. -/
structure Requirement where
  virtualBinding : Option String := none
  virtualLink : Option String := none
deriving DecidableEq

/-- A node template with its name. -/
structure NodeTemplate where
  name : String
  type : NodeType
  requirements : List Requirement := []
deriving DecidableEq

/-- A VNFD, with the number of instances of each VDU. -/
structure Vnfd where
  nodeTemplates : List NodeTemplate
  desiredCapacity : String → Nat
  names_nodup : (nodeTemplates.map NodeTemplate.name).Nodup

/-- The names of the connection points that require something, once for each such requirement. -/
def cpsRequiring (holds : Requirement → Bool) (nodeTemplates : List NodeTemplate) : List String :=
  nodeTemplates.flatMap fun t =>
    if t.type = .vduCp then (t.requirements.filter holds).map fun _ => t.name else []

/-- `_get_cp_for_vdu`. -/
def getCpForVdu (vdu : String) : List NodeTemplate → List String :=
  cpsRequiring fun r => r.virtualBinding = some vdu

/-- `_get_cp_for_vl`. -/
def getCpForVl (vl : String) : List NodeTemplate → List String :=
  cpsRequiring fun r => r.virtualLink = some vl

/-- The resources of a VDU. -/
structure VduResource where
  vdu : String
  cps : List String
  count : Nat
deriving DecidableEq

/-- `_get_compute_nodes`. -/
def Vnfd.getComputeNodes (vnfd : Vnfd) : List VduResource :=
  (vnfd.nodeTemplates.filter fun t => t.type = .vduCompute).map fun t =>
    ⟨t.name, getCpForVdu t.name vnfd.nodeTemplates, vnfd.desiredCapacity t.name⟩

/-- `_get_virtual_link_nodes`. -/
def Vnfd.getVirtualLinkNodes (vnfd : Vnfd) : List (String × List String) :=
  (vnfd.nodeTemplates.filter fun t => t.type = .vnfVirtualLink).map fun t =>
    (t.name, getCpForVl t.name vnfd.nodeTemplates)

/-! ## The request -/

/-- `IpAddressReq`. -/
structure IpAddressReq where
  type : String
  subnetId : Option String := none
  fixedAddresses : List String := []
  numDynamicAddresses : Option Nat := none
deriving DecidableEq

/-- `IpOverEthernetAddressData`. -/
structure IpOverEthernetAddressData where
  macAddress : Option String := none
  ipAddresses : List IpAddressReq := []
deriving DecidableEq

/-- `CpProtocolData`. -/
structure CpProtocolData where
  layerProtocol : String
  ipOverEthernet : Option IpOverEthernetAddressData := none
deriving DecidableEq

/-- `VnfExtCpConfig`. -/
structure VnfExtCpConfig where
  linkPortId : Option String := none
  cpProtocolData : List CpProtocolData := []
deriving DecidableEq

/-- `VnfExtCpData`. -/
structure VnfExtCpData where
  cpdId : String
  cpConfig : List VnfExtCpConfig := []
deriving DecidableEq

/-- `ResourceHandle`. -/
structure ResourceHandle where
  vimConnectionId : Option String := none
  resourceId : String := ""
  vimLevelResourceType : Option String := none
deriving DecidableEq

/-- `ExtLinkPortData`. -/
structure ExtLinkPortData where
  id : String
  resourceHandle : ResourceHandle := {}
deriving DecidableEq

/-- `ExtVirtualLinkData`. -/
structure ExtVirtualLinkData where
  id : String
  resourceId : String
  vimConnectionId : Option String := none
  extCps : List VnfExtCpData := []
  extLinkPorts : List ExtLinkPortData := []
deriving DecidableEq

/-- `ExtManagedVirtualLinkData`. -/
structure ExtManagedVirtualLinkData where
  id : String
  vnfVirtualLinkDescId : String
  resourceId : String
  vimConnectionId : Option String := none
deriving DecidableEq

/-- `InstantiateVnfRequest`. -/
structure InstantiateVnfRequest where
  extVirtualLinks : List ExtVirtualLinkData := []
  extManagedVirtualLinks : List ExtManagedVirtualLinkData := []
deriving DecidableEq

/-! ## What is recorded -/

/-- An identifier that was generated. -/
abbrev Uuid := Nat

/-- `IpAddress`. -/
structure IpAddress where
  type : String
  subnetId : Option String
  isDynamic : Bool
  addresses : List String
deriving DecidableEq

/-- `IpOverEthernetAddressInfo`. -/
structure IpOverEthernetAddressInfo where
  macAddress : Option String
  ipAddresses : List IpAddress
deriving DecidableEq

/-- `CpProtocolInfo`. -/
structure CpProtocolInfo where
  layerProtocol : String
  ipOverEthernet : Option IpOverEthernetAddressInfo
deriving DecidableEq

/-- `VnfcCpInfo`. -/
structure VnfcCpInfo where
  id : Uuid
  cpdId : String
  vnfExtCpId : Option String := none
  cpProtocolInfo : List CpProtocolInfo := []
  vnfLinkPortId : Option Uuid := none
deriving DecidableEq

/-- `VnfcResourceInfo`. -/
structure VnfcResourceInfo where
  id : Uuid
  vduId : String
  vnfcCpInfo : List VnfcCpInfo
deriving DecidableEq

/-- `VnfExtCpInfo`. -/
structure VnfExtCpInfo where
  id : Uuid
  cpdId : String
  cpProtocolInfo : List CpProtocolInfo
  extLinkPortId : Option String
  associatedVnfcCpId : Option Uuid
deriving DecidableEq

/-- `ExtLinkPortInfo`. -/
structure ExtLinkPortInfo where
  id : String
  resourceHandle : ResourceHandle
  cpInstanceId : Option Uuid
deriving DecidableEq

/-- `ExtVirtualLinkInfo`. -/
structure ExtVirtualLinkInfo where
  id : String
  resourceHandle : ResourceHandle
  extLinkPorts : List ExtLinkPortInfo
deriving DecidableEq

/-- `VnfLinkPortInfo`. -/
structure VnfLinkPortInfo where
  id : Uuid
  resourceHandle : ResourceHandle
  cpInstanceId : Uuid
deriving DecidableEq

/-- `VnfVirtualLinkResourceInfo`. -/
structure VnfVirtualLinkResourceInfo where
  id : Uuid
  vnfVirtualLinkDescId : String
  networkResource : ResourceHandle
  vnfLinkPorts : List VnfLinkPortInfo
deriving DecidableEq

/-- `ExtManagedVirtualLinkInfo`. -/
structure ExtManagedVirtualLinkInfo where
  id : String
  vnfVirtualLinkDescId : String
  networkResource : ResourceHandle
  vnfLinkPorts : List VnfLinkPortInfo
deriving DecidableEq

/-- `InstantiatedVnfInfo`. -/
structure InstantiatedVnfInfo where
  vnfcResourceInfo : List VnfcResourceInfo
  extCpInfo : List VnfExtCpInfo
  extVirtualLinkInfo : List ExtVirtualLinkInfo
  vnfVirtualLinkResourceInfo : List VnfVirtualLinkResourceInfo
  extManagedVirtualLinkInfo : List ExtManagedVirtualLinkInfo
deriving DecidableEq

/-! ## Protocols -/

/-- `_build_ip_over_ethernet_address_info`. -/
def buildIpOverEthernetAddressInfo (data : CpProtocolData) : Option IpOverEthernetAddressInfo :=
  data.ipOverEthernet.map fun address => {
    macAddress := address.macAddress
    ipAddresses := address.ipAddresses.map fun ip => {
      type := ip.type
      subnetId := ip.subnetId
      isDynamic := ip.numDynamicAddresses.getD 0 ≠ 0
      addresses := ip.fixedAddresses } }

/-- `_build_cp_protocol_info`. -/
def buildCpProtocolInfo (data : CpProtocolData) : CpProtocolInfo where
  layerProtocol := data.layerProtocol
  ipOverEthernet := buildIpOverEthernetAddressInfo data

/-- `_set_cp_protocol_info`. -/
def setCpProtocolInfo (extCp : VnfExtCpData) : List CpProtocolInfo :=
  extCp.cpConfig.flatMap fun config => config.cpProtocolData.map buildCpProtocolInfo

/-! ## VNFCs -/

/-- The external connection points of all links, each with its link. -/
def InstantiateVnfRequest.extCps (req : InstantiateVnfRequest) :
    List (ExtVirtualLinkData × VnfExtCpData) :=
  req.extVirtualLinks.flatMap fun link => link.extCps.map fun extCp => (link, extCp)

/-- `_set_vnf_exp_cp_id_protocol_data`, for one external connection point. -/
def setVnfExpCpIdProtocolData (info : VnfcCpInfo) (extCp : VnfExtCpData) : VnfcCpInfo :=
  if extCp.cpdId = info.cpdId then
    { info with
      cpProtocolInfo := setCpProtocolInfo extCp
      vnfExtCpId := match extCp.cpConfig with
        | [] => info.vnfExtCpId
        | config :: _ => config.linkPortId }
  else info

/-- `_build_vnf_cp_info`, for one connection point. -/
def buildVnfCpInfo (req : InstantiateVnfRequest) (cp : String) : Supply VnfcCpInfo := fun n =>
  ((req.extCps.map Prod.snd).foldl setVnfExpCpIdProtocolData { id := n, cpdId := cp }, n + 1)

/-- `_build_vnfc_resource_info`. -/
def buildVnfcResourceInfo (req : InstantiateVnfRequest) (resource : VduResource) :
    Supply VnfcResourceInfo := fun n =>
  let cps := Supply.traverse (buildVnfCpInfo req) resource.cps (n + 1)
  (⟨n, resource.vdu, cps.1⟩, cps.2)

/-- `_get_vnfc_resource_info`. -/
def getVnfcResourceInfo (vnfd : Vnfd) (req : InstantiateVnfRequest) :
    Supply (List VnfcResourceInfo) :=
  Supply.traverse (buildVnfcResourceInfo req)
    (vnfd.getComputeNodes.flatMap fun resource => List.replicate resource.count resource)

/-! ## External connection points -/

/-- `_get_ext_link_port_id`. -/
def getExtLinkPortId (link : ExtVirtualLinkData) (cpdId : String) : Option String :=
  (link.extLinkPorts.find? fun port => port.id = cpdId).map ExtLinkPortData.id

/-- `_get_associated_vnfc_cp_id`: it returns the identifier of the VNFC. -/
def getAssociatedVnfcCpId (vnfcInfo : List VnfcResourceInfo) (cpdId : String) : Option Uuid :=
  (vnfcInfo.find? fun vnfc => vnfc.vnfcCpInfo.any fun cp => cp.cpdId = cpdId).map
    VnfcResourceInfo.id

/-- What is recorded of one external connection point. -/
def buildExtCpInfo (vnfcInfo : List VnfcResourceInfo) (link : ExtVirtualLinkData)
    (extCp : VnfExtCpData) : Supply VnfExtCpInfo := fun n =>
  ({ id := n
     cpdId := extCp.cpdId
     cpProtocolInfo := setCpProtocolInfo extCp
     extLinkPortId := getExtLinkPortId link extCp.cpdId
     associatedVnfcCpId := getAssociatedVnfcCpId vnfcInfo extCp.cpdId }, n + 1)

/-- `_set_ext_cp_info`. -/
def setExtCpInfo (req : InstantiateVnfRequest) (vnfcInfo : List VnfcResourceInfo) :
    Supply (List VnfExtCpInfo) :=
  Supply.traverse (fun pair => buildExtCpInfo vnfcInfo pair.1 pair.2) req.extCps

/-! ## External virtual links -/

/-- `_set_ext_link_port`: the loop over the external connection points leaves the last one. -/
def setExtLinkPort (link : ExtVirtualLinkData) (extCpInfo : List VnfExtCpInfo) :
    List ExtLinkPortInfo :=
  link.extLinkPorts.map fun port => {
    id := port.id
    resourceHandle := port.resourceHandle
    cpInstanceId :=
      if link.extCps = [] then none else extCpInfo.foldl (fun _ extCp => some extCp.id) none }

/-- `_set_ext_virtual_link_info`. -/
def setExtVirtualLinkInfo (req : InstantiateVnfRequest) (extCpInfo : List VnfExtCpInfo) :
    List ExtVirtualLinkInfo :=
  req.extVirtualLinks.map fun link => {
    id := link.id
    resourceHandle := { resourceId := link.resourceId, vimConnectionId := link.vimConnectionId }
    extLinkPorts := setExtLinkPort link extCpInfo }

/-! ## Virtual links -/

/-- An assignment to an entry of a dictionary. -/
def setEntry (key : String) (value : List String) :
    List (String × List String) → List (String × List String)
  | [] => [(key, value)]
  | entry :: dict =>
    if entry.1 = key then (key, value) :: dict else entry :: setEntry key value dict

/-- `virtual_link_nodes_with_cp`. -/
def virtualLinkNodesWithCp (vnfd : Vnfd) (req : InstantiateVnfRequest) :
    List (String × List String) :=
  req.extVirtualLinks.foldl
    (fun dict link => setEntry link.id (link.extCps.map VnfExtCpData.cpdId) dict)
    vnfd.getVirtualLinkNodes

/-- `_get_network_resource`. -/
def getNetworkResource (req : InstantiateVnfRequest) (vlNode : String) : ResourceHandle :=
  match req.extManagedVirtualLinks.find? fun vl => vl.vnfVirtualLinkDescId = vlNode with
  | some vl => ⟨vl.vimConnectionId, vl.resourceId, some "OS::Neutron::Net"⟩
  | none =>
    match req.extVirtualLinks.find? fun link => link.id = vlNode with
    | some link => ⟨link.vimConnectionId, link.resourceId, some "OS::Neutron::Net"⟩
    | none => {}

/-- The resource handle of a link port after one external connection point. -/
def setPortHandle (cp : String) (handle : ResourceHandle)
    (pair : ExtVirtualLinkData × VnfExtCpData) : ResourceHandle :=
  if pair.2.cpdId = cp then
    match pair.2.cpConfig.findSome? VnfExtCpConfig.linkPortId with
    | some linkPortId => ⟨pair.1.vimConnectionId, linkPortId, some "OS::Neutron::Port"⟩
    | none => handle
  else handle

/-- `_get_vnf_link_port_info`, for a connection point of a VNFC. -/
def getVnfLinkPortInfo (req : InstantiateVnfRequest) (cp : String) (cpInstanceId : Uuid) :
    Supply VnfLinkPortInfo := fun n =>
  (⟨n, req.extCps.foldl (setPortHandle cp) {}, cpInstanceId⟩, n + 1)

/-- A connection point of a VNFC gets a link port if it is of the name. -/
def linkCp (req : InstantiateVnfRequest) (cp : String) (info : VnfcCpInfo) :
    Supply (VnfcCpInfo × List VnfLinkPortInfo) := fun n =>
  if info.cpdId = cp then
    let port := getVnfLinkPortInfo req cp info.id n
    (({ info with vnfLinkPortId := some port.1.id }, [port.1]), port.2)
  else ((info, []), n)

/-- The connection points of a VNFC. -/
def linkVnfc (req : InstantiateVnfRequest) (cp : String) (vnfc : VnfcResourceInfo) :
    Supply (VnfcResourceInfo × List VnfLinkPortInfo) := fun n =>
  let linked := Supply.traverse (linkCp req cp) vnfc.vnfcCpInfo n
  (({ vnfc with vnfcCpInfo := linked.1.map Prod.fst }, linked.1.flatMap Prod.snd), linked.2)

/-- One name of a connection point, and then the others of the list. -/
def linkNames (req : InstantiateVnfRequest) :
    List String → List VnfcResourceInfo → Supply (List VnfcResourceInfo × List VnfLinkPortInfo)
  | [], vnfcs, n => ((vnfcs, []), n)
  | cp :: cps, vnfcs, n =>
    let linked := Supply.traverse (linkVnfc req cp) vnfcs n
    let rest := linkNames req cps (linked.1.map Prod.fst) linked.2
    ((rest.1.1, linked.1.flatMap Prod.snd ++ rest.1.2), rest.2)

/-- One virtual link after the other. -/
def linkNodes (req : InstantiateVnfRequest) :
    List (String × List String) → List VnfcResourceInfo →
      Supply (List VnfcResourceInfo × List VnfVirtualLinkResourceInfo)
  | [], vnfcs, n => ((vnfcs, []), n)
  | (node, cps) :: nodes, vnfcs, n =>
    let linked := linkNames req cps vnfcs (n + 1)
    let rest := linkNodes req nodes linked.1.1 linked.2
    ((rest.1.1, ⟨n, node, getNetworkResource req node, linked.1.2⟩ :: rest.1.2), rest.2)

/-- `_build_vnf_virtual_link_resource_info`, with the VNFCs whose connection points it changes. -/
def buildVnfVirtualLinkResourceInfo (vnfd : Vnfd) (req : InstantiateVnfRequest)
    (vnfcs : List VnfcResourceInfo) :
    Supply (List VnfcResourceInfo × List VnfVirtualLinkResourceInfo) :=
  linkNodes req (virtualLinkNodesWithCp vnfd req) vnfcs

/-- `_build_ext_managed_virtual_link_info`: the last virtual link of the name gives its ports. -/
def buildExtManagedVirtualLinkInfo (req : InstantiateVnfRequest)
    (vls : List VnfVirtualLinkResourceInfo) : List ExtManagedVirtualLinkInfo :=
  req.extManagedVirtualLinks.map fun managed => {
    id := managed.id
    vnfVirtualLinkDescId := managed.vnfVirtualLinkDescId
    networkResource := ⟨managed.vimConnectionId, managed.resourceId, some "OS::Neutron::Net"⟩
    vnfLinkPorts := vls.foldl (fun ports vl =>
      if managed.vnfVirtualLinkDescId = vl.vnfVirtualLinkDescId then vl.vnfLinkPorts else ports) [] }

/-- `_build_instantiated_vnf_info`. -/
def buildInstantiatedVnfInfo (vnfd : Vnfd) (req : InstantiateVnfRequest) : Supply InstantiatedVnfInfo :=
  fun n =>
  let vnfcs := getVnfcResourceInfo vnfd req n
  let extCps := setExtCpInfo req vnfcs.1 vnfcs.2
  let vls := buildVnfVirtualLinkResourceInfo vnfd req vnfcs.1 extCps.2
  ({ vnfcResourceInfo := vls.1.1
     extCpInfo := extCps.1
     extVirtualLinkInfo := setExtVirtualLinkInfo req extCps.1
     vnfVirtualLinkResourceInfo := vls.1.2
     extManagedVirtualLinkInfo := buildExtManagedVirtualLinkInfo req vls.1.2 }, vls.2)

end Tacker.Vnflcm
