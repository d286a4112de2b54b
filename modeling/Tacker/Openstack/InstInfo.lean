import Tacker.Objects.LcmOpOcc

/-!
# The instance information of the OpenStack driver

`_make_instantiated_vnf_info` of `infra_drivers/openstack/openstack.py` and what it calls: after
each operation the driver makes the `instantiatedVnfInfo` anew from the resources of the Heat stack
and from the virtual links of the request or of the old information. The metadata of the stack and
of the VNFCs and `vnfcInfo` are left out.
-/

namespace Tacker.Openstack
open Tacker.Objects

/-! ## What the driver reads -/

/-- A resource of the stack, as Heat lists it. The last two attributes are those by which the
VNFCs are sorted. -/
structure HeatRes where
  resourceName : String
  resourceType : String
  physicalResourceId : String
  parentResource : Option String := none
  requiredBy : List String := []
  vduIdx : Nat := 0
  creationTime : Nat := 0
deriving DecidableEq

/-- A node template of type `tosca.nodes.nfv.VduCp`: the targets of its requirements. -/
structure VduCp where
  name : String
  virtualBinding : List String := []
  virtualLink : Option String := none
deriving DecidableEq

/-- The node templates of a flavour of the VNFD. -/
structure Flavour where
  vdus : List String := []
  storages : List String := []
  virtualLinks : List String := []
  vduCps : List VduCp := []

/-- `ExtLinkPortData`. -/
structure ExtLinkPortData where
  id : String
  resourceHandle : ResourceHandle

/-- `ExtVirtualLinkData`. -/
structure ExtVirtualLinkData where
  id : String
  resourceId : String
  vimConnectionId : Option String := none
  extCps : List VnfExtCpData
  extLinkPorts : Option (List ExtLinkPortData) := none

/-- `ExtManagedVirtualLinkData`. -/
structure ExtManagedVirtualLinkData where
  id : String
  vnfVirtualLinkDescId : String
  resourceId : String
  vimConnectionId : Option String := none

/-- The virtual links of a request or of its grant, whichever has them. -/
structure Links where
  extVirtualLinks : Option (List ExtVirtualLinkData) := none
  extManagedVirtualLinks : Option (List ExtManagedVirtualLinkData) := none

/-- What `_make_instantiated_vnf_info` has besides the stack and the links: the flavour, the key of
the VIM connection and `_proto_data_to_info`. -/
structure Env where
  flavour : Flavour
  vimKey : String
  protoDataToInfo : String → String

namespace Flavour

/-- `get_vdu_cps`. -/
def getVduCps (f : Flavour) (vduName : String) : List String :=
  (f.vduCps.filter fun cp => vduName ∈ cp.virtualBinding).map VduCp.name

/-- `get_vl_name_from_cp`. -/
def getVlNameFromCp (f : Flavour) (cpName : String) : Option String :=
  (f.vduCps.find? fun cp => cp.name = cpName).bind VduCp.virtualLink

end Flavour

/-- `get_reses_by_types`, then `_get_checked_reses`. The physical identifiers of the resources of a
stack differ, so that the dictionary by these identifiers is a list. -/
def getCheckedReses (resourceType : String) (names : List String) (heatReses : List HeatRes) :
    List HeatRes :=
  heatReses.filter fun res => res.resourceType = resourceType ∧ res.resourceName ∈ names

namespace Env

/-- `storage_reses`. -/
def storageReses (env : Env) : List HeatRes → List HeatRes :=
  getCheckedReses "OS::Cinder::Volume" env.flavour.storages

/-- `server_reses`. -/
def serverReses (env : Env) : List HeatRes → List HeatRes :=
  getCheckedReses "OS::Nova::Server" env.flavour.vdus

/-- `network_reses`. -/
def networkReses (env : Env) : List HeatRes → List HeatRes :=
  getCheckedReses "OS::Neutron::Net" env.flavour.virtualLinks

/-- `port_reses`. -/
def portReses (env : Env) : List HeatRes → List HeatRes :=
  getCheckedReses "OS::Neutron::Port" (env.flavour.vduCps.map VduCp.name)

/-- `_res_to_handle`. -/
def resToHandle (env : Env) (res : HeatRes) : ResourceHandle where
  resourceId := res.physicalResourceId
  vimConnectionId := some env.vimKey
  vimLevelResourceType := some res.resourceType

/-- `_find_vl_name`. -/
def findVlName (env : Env) (portRes : HeatRes) : Option String :=
  env.flavour.getVlNameFromCp portRes.resourceName

end Env

/-! ## Identifiers -/

/-- `LINK_PORT_PREFIX`. -/
def linkPortPrefix : String := "req-"

/-- `_is_link_port`. -/
def isLinkPort (linkPortId : String) : Bool :=
  linkPortPrefix.toList.isPrefixOf linkPortId.toList

/-- `_make_cp_info_id`. -/
def makeCpInfoId (linkPortId : String) : String :=
  "cp-" ++ linkPortId

/-- `_make_combination_id`. -/
def makeCombinationId (a b : String) : String :=
  a ++ "-" ++ b

/-! ## External virtual links -/

/-- The configuration of a link port: the first connection point that has one, with its key. -/
def findLinkPortConfig (extCps : List VnfExtCpData) (linkPortId : String) :
    Option (String × String) :=
  extCps.findSome? fun extCp =>
    (extCp.cpConfig.find? fun e => e.2.linkPortId = some linkPortId).map fun e =>
      (extCp.cpdId, e.1)

/-- `_make_link_ports`: the ports and the connection points that it appends. -/
def makeLinkPorts (reqExtVl : ExtVirtualLinkData) : List ExtLinkPortInfo × List VnfExtCpInfo :=
  let ports := reqExtVl.extLinkPorts.getD []
  (ports.map fun p => ⟨p.id, p.resourceHandle, some (makeCpInfoId p.id)⟩,
    ports.map fun p =>
      let config := findLinkPortConfig reqExtVl.extCps p.id
      { id := makeCpInfoId p.id, extLinkPortId := some p.id,
        cpdId := config.map Prod.fst, cpConfigId := config.map Prod.snd })

/-- `_make_ext_vl_from_req`. -/
def makeExtVlFromReq (reqExtVl : ExtVirtualLinkData) : ExtVirtualLinkInfo where
  id := reqExtVl.id
  resourceHandle :=
    { resourceId := reqExtVl.resourceId, vimConnectionId := reqExtVl.vimConnectionId }
  extLinkPorts := some (makeLinkPorts reqExtVl).1
  currentVnfExtCpData := reqExtVl.extCps

/-- External virtual links with the connection points of their ports; `none` is what
`_find_ext_cp_info` returns for a port without one. -/
abbrev ExtLinks := List ExtVirtualLinkInfo × List (Option VnfExtCpInfo)

/-- `_make_ext_vl_info_from_req`. -/
def makeExtVlInfoFromReq (req : Links) : ExtLinks :=
  let reqExtVls := req.extVirtualLinks.getD []
  (reqExtVls.map makeExtVlFromReq, reqExtVls.flatMap fun vl => (makeLinkPorts vl).2.map some)

/-- `_find_ext_cp_info`. -/
def findExtCpInfo (linkPort : ExtLinkPortInfo) (extCpInfos : List VnfExtCpInfo) :
    Option VnfExtCpInfo :=
  extCpInfos.find? fun extCp => some extCp.id = linkPort.cpInstanceId

/-- `_is_ext_vl_link_port`. -/
def isExtVlLinkPort (portId : String) (extCpData : List VnfExtCpData) : Bool :=
  extCpData.any fun extCp => extCp.cpConfig.any fun e => e.2.linkPortId = some portId

/-- The ports of a virtual link that `_make_ext_vl_info_from_inst` keeps. -/
def keptPorts (extVl : ExtVirtualLinkInfo) : List ExtLinkPortInfo :=
  (extVl.extLinkPorts.getD []).filter fun p => isExtVlLinkPort p.id extVl.currentVnfExtCpData

/-- `_make_ext_vl_info_from_inst`. -/
def makeExtVlInfoFromInst (old : InstantiatedVnfInfo) : ExtLinks :=
  let extVls := old.extVirtualLinkInfo.getD []
  (extVls.map fun vl => { vl with extLinkPorts := vl.extLinkPorts.map fun _ => keptPorts vl },
    extVls.flatMap fun vl =>
      (keptPorts vl).map fun p => findExtCpInfo p (old.extCpInfo.getD []))

/-- What `_make_ext_vl_info_from_req_and_inst` makes of one old virtual link; `none` in the place
of the link if all its connection points have moved to another one. -/
def mergeExtVl (reqExtVls : List ExtVirtualLinkData) (oldCpInfos : List VnfExtCpInfo)
    (extVl : ExtVirtualLinkInfo) :
    Option (Option ExtVirtualLinkInfo × List (Option VnfExtCpInfo)) := do
  let reqAllCpNames := reqExtVls.flatMap fun vl => vl.extCps.map VnfExtCpData.cpdId
  let ports ← (extVl.extLinkPorts.getD []).mapM fun p => do
    let extCp ← findExtCpInfo p oldCpInfos
    let cpdId ← extCp.cpdId
    return (p, extCp, cpdId)
  let kept := ports.filter fun (p, _, cpdId) =>
    cpdId ∉ reqAllCpNames ∧ isExtVlLinkPort p.id extVl.currentVnfExtCpData
  let reqExtVl := reqExtVls.find? fun vl => vl.id = extVl.id
  let new := (reqExtVl.map makeLinkPorts).getD ([], [])
  let newExtCpData :=
    extVl.currentVnfExtCpData.filter (fun cp => cp.cpdId ∉ reqAllCpNames) ++
      (reqExtVl.map ExtVirtualLinkData.extCps).getD []
  let info :=
    if newExtCpData.isEmpty then none
    else some
      { extVl with
        currentVnfExtCpData := newExtCpData
        extLinkPorts := some (kept.map (fun k => k.1) ++ new.1) }
  return (info, kept.map (fun k => some k.2.1) ++ new.2.map some)

/-- `_make_ext_vl_info_from_req_and_inst`; `none` where it raises. -/
def makeExtVlInfoFromReqAndInst (req : Links) (old : InstantiatedVnfInfo) : Option ExtLinks :=
  match req.extVirtualLinks with
  -- may happen in case of change_vnfpkg
  | none => some (makeExtVlInfoFromInst old)
  | some reqExtVls => do
    let oldExtVls := old.extVirtualLinkInfo.getD []
    let added := reqExtVls.filter fun vl => vl.id ∉ oldExtVls.map ExtVirtualLinkInfo.id
    let merged ← oldExtVls.mapM (mergeExtVl reqExtVls (old.extCpInfo.getD []))
    return (added.map makeExtVlFromReq ++ merged.filterMap (fun m => m.1),
      added.flatMap (fun vl => (makeLinkPorts vl).2.map some) ++ merged.flatMap (fun m => m.2))

/-- The link with one more port. -/
def addExtPort (extVl : ExtVirtualLinkInfo) (port : ExtLinkPortInfo) : ExtVirtualLinkInfo :=
  { extVl with extLinkPorts := some (extVl.extLinkPorts.getD [] ++ [port]) }

/-- Whether a connection point belongs to the link. -/
def hasCp (extVl : ExtVirtualLinkInfo) (cpName : String) : Bool :=
  extVl.currentVnfExtCpData.any fun extCp => extCp.cpdId = cpName

/-- The port is appended to the first link that has its connection point
(`_find_ext_vl_by_cp_name`). -/
def linkExtPort (cpName : String) (port : ExtLinkPortInfo) :
    List ExtVirtualLinkInfo → List ExtVirtualLinkInfo
  | [] => []
  | vl :: vls =>
    if hasCp vl cpName then addExtPort vl port :: vls else vl :: linkExtPort cpName port vls

namespace Env

/-- The external link port made of a port of the stack. -/
def extPort (env : Env) (res : HeatRes) : ExtLinkPortInfo where
  id := res.physicalResourceId
  resourceHandle := env.resToHandle res
  cpInstanceId := some (makeCpInfoId res.physicalResourceId)

/-- The connection point of a port of the stack, with the protocol data of the link it belongs
to. -/
def extCpInfo (env : Env) (extVls : List ExtVirtualLinkInfo) (res : HeatRes) : VnfExtCpInfo :=
  let extCpData := extVls.findSome? fun vl =>
    vl.currentVnfExtCpData.find? fun extCp => extCp.cpdId = res.resourceName
  let config := extCpData.bind fun extCp =>
    extCp.cpConfig.find? fun e => e.2.cpProtocolData.isSome
  { id := makeCpInfoId res.physicalResourceId
    extLinkPortId := some res.physicalResourceId
    cpdId := some res.resourceName
    cpProtocolInfo := (config.bind fun e => e.2.cpProtocolData).map (List.map env.protoDataToInfo)
    cpConfigId := config.map Prod.fst }

/-- `_link_ext_port_info`, for the links. -/
def linkExtPortInfo (env : Env) (portReses : List HeatRes) (extVls : List ExtVirtualLinkInfo) :
    List ExtVirtualLinkInfo :=
  portReses.foldl (fun vls res => linkExtPort res.resourceName (env.extPort res) vls) extVls

end Env

/-! ## Internal and externally managed virtual links -/

/-- `_make_ext_mgd_vl_info_from_req`. The link ports of the request are stored under an attribute
that the object does not have, and so are not stored. -/
def makeExtMgdVlInfoFromReq (f : Flavour) (req : Links) : List ExtManagedVirtualLinkInfo :=
  let reqMgdVls := req.extManagedVirtualLinks.getD []
  (reqMgdVls.filter fun vl => vl.vnfVirtualLinkDescId ∈ f.virtualLinks).map fun vl =>
    { id := vl.id
      vnfVirtualLinkDescId := vl.vnfVirtualLinkDescId
      networkResource := { resourceId := vl.resourceId, vimConnectionId := vl.vimConnectionId } }

/-- `_make_ext_mgd_vl_info_from_inst`. -/
def makeExtMgdVlInfoFromInst (old : InstantiatedVnfInfo) : List ExtManagedVirtualLinkInfo :=
  (old.extManagedVirtualLinkInfo.getD []).map fun vl =>
    { vl with vnfLinkPorts := vl.vnfLinkPorts.map (List.filter fun p => isLinkPort p.id) }

/-- The link with one more port. -/
def addVnfPort (vl : VnfVirtualLinkResourceInfo) (port : VnfLinkPortInfo) :
    VnfVirtualLinkResourceInfo :=
  { vl with vnfLinkPorts := some (vl.vnfLinkPorts.getD [] ++ [port]) }

/-- The port is appended to the link that the dictionary `vl_name_to_info` has for its name: the
last one of that name. -/
def linkVnfPort (vlName : String) (port : VnfLinkPortInfo) :
    List VnfVirtualLinkResourceInfo → List VnfVirtualLinkResourceInfo
  | [] => []
  | vl :: vls =>
    if vl.vnfVirtualLinkDescId = vlName ∧ vlName ∉ vls.map (·.vnfVirtualLinkDescId) then
      addVnfPort vl port :: vls
    else
      vl :: linkVnfPort vlName port vls

namespace Env

/-- The server that a port is connected to: it requires the port, and has its connection point
(`_find_vnfc_cp_info`). -/
def findServer (env : Env) (serverReses : List HeatRes) (portRes : HeatRes) : Option HeatRes :=
  serverReses.find? fun server => server.resourceName ∈ portRes.requiredBy ∧
    portRes.parentResource = server.parentResource ∧
    portRes.resourceName ∈ env.flavour.getVduCps server.resourceName

/-- The identifier of the VNFC connection point of a port. -/
def vnfcCpId (env : Env) (serverReses : List HeatRes) (portRes : HeatRes) : Option String :=
  (env.findServer serverReses portRes).map fun server =>
    makeCombinationId portRes.resourceName server.physicalResourceId

/-- The internal link port made of a port of the stack, as `_link_vnfc_cp_info` leaves it. -/
def vnfPort (env : Env) (serverReses : List HeatRes) (res : HeatRes) : VnfLinkPortInfo where
  id := res.physicalResourceId
  resourceHandle := env.resToHandle res
  cpInstanceId := env.vnfcCpId serverReses res
  cpInstanceType :=
    some (if (env.vnfcCpId serverReses res).isSome then "VNFC_CP" else "EXT_CP")

/-- The linking of the internal ports to the virtual links. -/
def linkVnfPortInfo (env : Env) (serverReses portReses : List HeatRes)
    (vls : List VnfVirtualLinkResourceInfo) : List VnfVirtualLinkResourceInfo :=
  portReses.foldl
    (fun vls res =>
      match env.findVlName res with
      | some vlName => linkVnfPort vlName (env.vnfPort serverReses res) vls
      | none => vls) vls

/-! ## The whole information -/

/-- `storage_infos`. -/
def storageInfos (env : Env) (heatReses : List HeatRes) : List VirtualStorageResourceInfo :=
  (env.storageReses heatReses).map fun res =>
    ⟨res.physicalResourceId, res.resourceName, env.resToHandle res⟩

/-- The connection points of a VNFC, as `_link_vnfc_cp_info` leaves them. -/
def vnfcCpInfos (env : Env) (heatReses : List HeatRes) (server : HeatRes) : List VnfcCpInfo :=
  (env.flavour.getVduCps server.resourceName).map fun cp =>
    let id := makeCombinationId cp server.physicalResourceId
    let ports := env.portReses heatReses
    let linked := fun (external : Bool) =>
      (ports.filter fun res =>
        env.vnfcCpId (env.serverReses heatReses) res = some id ∧
          (env.findVlName res).isNone = external).getLast?
    { id := id
      cpdId := cp
      vnfExtCpId := (linked true).map fun res => makeCpInfoId res.physicalResourceId
      vnfLinkPortId := (linked false).map HeatRes.physicalResourceId }

/-- `vnfc_res_infos`, sorted so that the newest comes first. -/
def vnfcResInfos (env : Env) (heatReses : List HeatRes) : List VnfcResourceInfo :=
  let servers := (env.serverReses heatReses).mergeSort fun a b =>
    b.vduIdx < a.vduIdx ∨ b.vduIdx = a.vduIdx ∧ b.creationTime ≤ a.creationTime
  servers.map fun server =>
    let storageIds := ((env.storageReses heatReses).filter fun res =>
      server.parentResource = res.parentResource).map HeatRes.physicalResourceId
    let cpInfos := env.vnfcCpInfos heatReses server
    { id := server.physicalResourceId
      vduId := server.resourceName
      computeResource := env.resToHandle server
      storageResourceIds := if storageIds.isEmpty then none else some storageIds
      vnfcCpInfo := if cpInfos.isEmpty then none else some cpInfos }

/-- `vnf_vl_res_infos`. -/
def vnfVlResInfos (env : Env) (heatReses : List HeatRes) : List VnfVirtualLinkResourceInfo :=
  (env.networkReses heatReses).map fun res =>
    { id := res.physicalResourceId
      vnfVirtualLinkDescId := res.resourceName
      networkResource := env.resToHandle res }

/-- The external connection point that a port belongs to is associated with that of its VNFC. -/
def associateExtCp (env : Env) (serverReses : List HeatRes) (extCpInfos : List VnfExtCpInfo)
    (portRes : HeatRes) : List VnfExtCpInfo :=
  match env.vnfcCpId serverReses portRes,
    extCpInfos.findIdx? (fun cp => cp.extLinkPortId = some portRes.physicalResourceId) with
  | some vnfcCpId, some i =>
    extCpInfos.modify i fun cp => { cp with associatedVnfcCpId := some vnfcCpId }
  | _, _ => extCpInfos

end Env

/-- A list attribute is set only if the list is not empty. -/
def setIfAny {α : Type} (l : List α) : Option (List α) :=
  if l.isEmpty then none else some l

/-- `_make_instantiated_vnf_info` once the links it starts from are known; `none` where it raises,
which is when the connection point of a port is missing. -/
def makeInfoFrom (env : Env) (flavourId : String) (heatReses : List HeatRes) (ext : ExtLinks)
    (extMgdVls : List ExtManagedVirtualLinkInfo) : Option InstantiatedVnfInfo := do
  let serverReses := env.serverReses heatReses
  let portReses := env.portReses heatReses
  let oldCpInfos ← ext.2.mapM id
  let extPortReses := portReses.filter fun res => env.findVlName res = none
  let extCpInfos := oldCpInfos ++ extPortReses.map (env.extCpInfo ext.1)
  let vnfVls := env.vnfVlResInfos heatReses
  let vls := env.linkVnfPortInfo serverReses portReses (vnfVls ++ extMgdVls)
  return {
    flavourId := flavourId
    vnfState := .started
    virtualStorageResourceInfo := setIfAny (env.storageInfos heatReses)
    vnfcResourceInfo := setIfAny (env.vnfcResInfos heatReses)
    vnfVirtualLinkResourceInfo := setIfAny (vls.take vnfVls.length)
    extVirtualLinkInfo := setIfAny (env.linkExtPortInfo extPortReses ext.1)
    extManagedVirtualLinkInfo := setIfAny (vls.drop vnfVls.length)
    extCpInfo := setIfAny (extPortReses.foldl (env.associateExtCp serverReses) extCpInfos) }

/-- The driver: the flavours of the VNFD, the key of the VIM connection and
`_proto_data_to_info`. -/
structure Driver where
  flavours : String → Flavour
  vimKey : String
  protoDataToInfo : String → String

/-- The flavour that is at work. -/
def Driver.env (d : Driver) (flavourId : String) : Env where
  flavour := d.flavours flavourId
  vimKey := d.vimKey
  protoDataToInfo := d.protoDataToInfo

/-- `_make_instantiated_vnf_info`: for INSTANTIATE, with the flavour of the request. -/
def Driver.makeInfoOfReq (d : Driver) (heatReses : List HeatRes) (flavourId : String)
    (req : Links) : Option InstantiatedVnfInfo :=
  let env := d.env flavourId
  makeInfoFrom env flavourId heatReses (makeExtVlInfoFromReq req)
    (makeExtMgdVlInfoFromReq env.flavour req)

/-- `_make_instantiated_vnf_info`: for the other operations and for their rollback. -/
def Driver.makeInfoOfInst (d : Driver) (heatReses : List HeatRes) (op : LcmOperationType)
    (isRollback : Bool) (req : Links) (old : InstantiatedVnfInfo) : Option InstantiatedVnfInfo := do
  let ext ←
    if (op = .changeExtConn ∨ op = .changeVnfpkg) ∧ isRollback = false then
      makeExtVlInfoFromReqAndInst req old
    else
      some (makeExtVlInfoFromInst old)
  makeInfoFrom (d.env old.flavourId) old.flavourId heatReses ext (makeExtMgdVlInfoFromInst old)

end Tacker.Openstack
