import Tacker.Grant.Blocks

/-!
# Definitions for removed VNFCs

`_make_res_def_for_remove_vnfcs` of `conductor/vnflcm_driver_v2.py`, which terminate, scale-in and
heal share. The definition of a port is noted under the identifier of its external CP or its link
port, and gets its handle when a virtual link with that port is found.
-/

namespace Tacker.Grant

open Tacker.Basis

/-- A removed resource with the key of `vnfc_cps` that it is noted under. -/
abbrev Noted := ResourceDefinition × Option String

/-- The key that a CP is noted under; none if its port is not to be deleted. -/
def VnfcCpInfo.portKey (cpInfo : VnfcCpInfo) : Option String :=
  cpInfo.vnfExtCpId.or cpInfo.vnfLinkPortId

/-- The CPs whose ports are removed with the VNFC. -/
def VnfcResourceInfo.removedCps (instVnfc : VnfcResourceInfo) : List VnfcCpInfo :=
  instVnfc.cps.filter fun cpInfo => cpInfo.portKey.isSome

/-- The definition of the server of a VNFC. -/
def serverDef (rmVduResId : String) (instVnfc : VnfcResourceInfo) : ResourceDefinition where
  id := rmVduResId
  type := .compute
  resourceTemplateId := instVnfc.vduId
  resource := some instVnfc.computeResource

/-- The definition of the port of a CP, without its handle. -/
def portDef (rmVduResId : String) (cpInfo : VnfcCpInfo) : ResourceDefinition where
  id := makeCombinationId cpInfo.cpdId rmVduResId
  type := .linkport
  resourceTemplateId := cpInfo.cpdId

/-- The definition of a storage. -/
def storageDef (rmVduResId : String) (instStr : VirtualStorageResourceInfo) :
    ResourceDefinition where
  id := makeCombinationId instStr.virtualStorageDescId rmVduResId
  type := .storage
  resourceTemplateId := instStr.virtualStorageDescId
  resource := some instStr.storageResource

/-- A turn of the loop over the VNFCs: what is removed, and what is added in its place. -/
def makeResDefForRemoveVnfc (uuids : Uuids) (instInfo : InstantiatedVnfInfo)
    (instVnfc : VnfcResourceInfo) (i : Nat) :
    Except Raised (List Noted × List ResourceDefinition) := do
  let storages ← storagesOf instInfo instVnfc
  let rmVduResId := uuids.of (.removed i)
  return (
    (serverDef rmVduResId instVnfc, none) ::
      (instVnfc.removedCps.map (fun cpInfo => (portDef rmVduResId cpInfo, cpInfo.portKey)) ++
        storages.map fun instStr => (storageDef rmVduResId instStr, none)),
    newVnfcResDefs (uuids.of (.added i)) instVnfc.vduId
      (instVnfc.removedCps.map (·.cpdId)) (storages.map (·.virtualStorageDescId)))

/-! ## Handles of ports -/

/-- The handle of a port: it goes to the definition that was noted last under the key. -/
def fillHandle (key : String) (handle : ResourceHandle) : List Noted → List Noted
  | [] => []
  | (res, key') :: noted =>
    if some key ∈ noted.map Prod.snd then (res, key') :: fillHandle key handle noted
    else if key' = some key then ({ res with resource := some handle }, key') :: noted
    else (res, key') :: noted

/-- The ports of the virtual links of the instance, each with the key that it is looked up by. -/
def InstantiatedVnfInfo.vlPorts (instInfo : InstantiatedVnfInfo) :
    List (String × ResourceHandle) :=
  (instInfo.vnfVirtualLinkResourceInfo.getD []).flatMap fun instVl =>
    (instVl.vnfLinkPorts.getD []).map fun port => (port.id, port.resourceHandle)

/-- The ports of the external virtual links. -/
def InstantiatedVnfInfo.extPorts (instInfo : InstantiatedVnfInfo) :
    List (String × ResourceHandle) :=
  (instInfo.extVirtualLinkInfo.getD []).flatMap fun extVl =>
    (extVl.extLinkPorts.getD []).filterMap fun port =>
      port.cpInstanceId.map fun cpInstanceId => (cpInstanceId, port.resourceHandle)

/-- The ports of the externally managed virtual links. -/
def InstantiatedVnfInfo.extMgdPorts (instInfo : InstantiatedVnfInfo) :
    List (String × ResourceHandle) :=
  (instInfo.extManagedVirtualLinkInfo.getD []).flatMap fun extMgdVl =>
    (extMgdVl.vnfLinkPorts.getD []).filterMap fun port =>
      port.cpInstanceId.map fun _ => (port.id, port.resourceHandle)

/-- The ports in the order in which their handles are filled in. -/
def InstantiatedVnfInfo.ports (instInfo : InstantiatedVnfInfo) : List (String × ResourceHandle) :=
  instInfo.vlPorts ++ instInfo.extPorts ++ instInfo.extMgdPorts

/-- The loops over the virtual links. -/
def fillHandles (ports : List (String × ResourceHandle)) (noted : List Noted) : List Noted :=
  ports.foldl (fun noted port => fillHandle port.1 port.2 noted) noted

/-- The handle that is filled in last under a key. -/
def lastHandle (key : String) (ports : List (String × ResourceHandle)) : Option ResourceHandle :=
  ((ports.filter fun port => port.1 = key).getLast?).map Prod.snd

/-- The definitions after the loops over the virtual links: of those noted under one key, the last
one has the handle. -/
def filled (ports : List (String × ResourceHandle)) : List Noted → List Noted
  | [] => []
  | (res, none) :: noted => (res, none) :: filled ports noted
  | (res, some key) :: noted =>
    if some key ∈ noted.map Prod.snd then (res, some key) :: filled ports noted
    else
      ({ res with resource := (lastHandle key ports).or res.resource }, some key) ::
        filled ports noted

/-- `_make_res_def_for_remove_vnfcs`: `rm_reses`, and `add_reses` as it is with `re_create`. -/
def makeResDefForRemoveVnfcs (uuids : Uuids) (instInfo : InstantiatedVnfInfo)
    (instVnfcs : List VnfcResourceInfo) :
    Except Raised (List ResourceDefinition × List ResourceDefinition) := do
  let each ← instVnfcs.zipIdx.mapM fun instVnfc =>
    makeResDefForRemoveVnfc uuids instInfo instVnfc.1 instVnfc.2
  return ((fillHandles instInfo.ports (each.flatMap Prod.fst)).map Prod.fst,
    each.flatMap Prod.snd)

/-! ## What the definitions are made of -/

/-- The block of a removed VNFC. -/
def removedBlock (instInfo : InstantiatedVnfInfo) (instVnfc : VnfcResourceInfo × Nat) : Block where
  call := .removed instVnfc.2
  isServer := true
  resourceTemplateId := instVnfc.1.vduId
  resource := some instVnfc.1.computeResource
  cpNames := instVnfc.1.removedCps.map (·.cpdId)
  storageNames := storageNames instInfo instVnfc.1

/-- The block of the VNFC that is added in its place. -/
def addedBlock (instInfo : InstantiatedVnfInfo) (instVnfc : VnfcResourceInfo × Nat) : Block where
  call := .added instVnfc.2
  isServer := true
  resourceTemplateId := instVnfc.1.vduId
  cpNames := instVnfc.1.removedCps.map (·.cpdId)
  storageNames := storageNames instInfo instVnfc.1

/-- What is removed of a VNFC, before the handles of the ports are filled in. -/
def notedDefs (uuids : Uuids) (instInfo : InstantiatedVnfInfo)
    (instVnfc : VnfcResourceInfo × Nat) : List Noted :=
  (serverDef (uuids.of (.removed instVnfc.2)) instVnfc.1, none) ::
    (instVnfc.1.removedCps.map (fun cpInfo =>
      (portDef (uuids.of (.removed instVnfc.2)) cpInfo, cpInfo.portKey)) ++
    (foundStorages instInfo instVnfc.1).map fun instStr =>
      (storageDef (uuids.of (.removed instVnfc.2)) instStr, none))

variable {uuids : Uuids} {instInfo : InstantiatedVnfInfo} {noted : List Noted}

/-- A turn of the loop over the VNFCs. -/
lemma makeResDefForRemoveVnfc_ok {instVnfc : VnfcResourceInfo} {i : Nat}
    {made : List Noted × List ResourceDefinition}
    (eq : makeResDefForRemoveVnfc uuids instInfo instVnfc i = .ok made) :
    made = (notedDefs uuids instInfo (instVnfc, i),
      (addedBlock instInfo (instVnfc, i)).reses uuids) := by
  obtain ⟨storages, read, eq⟩ := bind_ok.mp eq
  cases storagesOf_ok read
  cases eq
  rfl

/-- The loop over the VNFCs. -/
lemma makeResDefForRemoveVnfcs_ok {instVnfcs : List VnfcResourceInfo}
    {rmReses addReses : List ResourceDefinition}
    (eq : makeResDefForRemoveVnfcs uuids instInfo instVnfcs = .ok (rmReses, addReses)) :
    rmReses = (fillHandles instInfo.ports
      (instVnfcs.zipIdx.flatMap (notedDefs uuids instInfo))).map Prod.fst ∧
    addReses = (instVnfcs.zipIdx.map (addedBlock instInfo)).flatMap (Block.reses uuids) := by
  obtain ⟨each, turns, eq⟩ := bind_ok.mp eq
  cases eq
  have removed : each.map Prod.fst = instVnfcs.zipIdx.map (notedDefs uuids instInfo) := by
    apply map_of_mapM_ok turns
    intro instVnfc _ made turn
    rw [makeResDefForRemoveVnfc_ok turn]
  have added : each.map Prod.snd =
      (instVnfcs.zipIdx.map (addedBlock instInfo)).map (Block.reses uuids) := by
    rw [List.map_map]
    apply map_of_mapM_ok turns
    intro instVnfc _ made turn
    rw [makeResDefForRemoveVnfc_ok turn]
    rfl
  refine ⟨?_, ?_⟩
  · rw [List.flatMap_def, removed, ← List.flatMap_def]
  · rw [List.flatMap_def, added, ← List.flatMap_def]

/-- Only the definitions of ports are noted. -/
def PortsNoted (noted : List Noted) : Prop :=
  ∀ entry ∈ noted, entry.2.isSome = true → entry.1.type = .linkport

lemma portsNoted_notedDefs (instVnfc : VnfcResourceInfo × Nat) :
    PortsNoted (notedDefs uuids instInfo instVnfc) := by
  intro entry mem some
  rcases List.mem_cons.mp mem with rfl | mem
  · cases some
  · rcases List.mem_append.mp mem with mem | mem
    · obtain ⟨cpInfo, _, rfl⟩ := List.mem_map.mp mem
      rfl
    · obtain ⟨instStr, _, rfl⟩ := List.mem_map.mp mem
      cases some

/-- A handle changes nothing but the handle of a port. -/
lemma map_bare_fillHandle (ports : PortsNoted noted) (key : String) (handle : ResourceHandle) :
    (fillHandle key handle noted).map (fun entry => (bare entry.1, entry.2)) =
      noted.map fun entry => (bare entry.1, entry.2) := by
  induction noted with
  | nil => rfl
  | cons entry noted ih =>
    obtain ⟨res, key'⟩ := entry
    have ih := ih fun entry mem => ports entry (List.mem_cons_of_mem _ mem)
    rw [fillHandle]
    by_cases later : some key ∈ noted.map Prod.snd
    · rw [if_pos later, List.map_cons, ih, List.map_cons]
    · rw [if_neg later]
      by_cases here : key' = some key
      · have port : res.type = .linkport := ports (res, key') List.mem_cons_self (by rw [here]; rfl)
        rw [if_pos here, List.map_cons, List.map_cons]
        simp [bare, port]
      · rw [if_neg here]

lemma portsNoted_fillHandle (ports : PortsNoted noted) (key : String) (handle : ResourceHandle) :
    PortsNoted (fillHandle key handle noted) := by
  intro entry mem some
  have kept := List.mem_map_of_mem (f := fun entry : Noted => (bare entry.1, entry.2)) mem
  rw [map_bare_fillHandle ports] at kept
  obtain ⟨entry', mem', eq⟩ := List.mem_map.mp kept
  obtain ⟨sameRes, sameKey⟩ := Prod.mk.inj eq
  rw [← bare_type, ← sameRes, bare_type]
  exact ports entry' mem' (sameKey ▸ some)

lemma map_bare_fillHandles (handles : List (String × ResourceHandle)) (ports : PortsNoted noted) :
    (fillHandles handles noted).map (fun entry => (bare entry.1, entry.2)) =
      noted.map fun entry => (bare entry.1, entry.2) := by
  induction handles generalizing noted with
  | nil => rfl
  | cons port handles ih =>
    show (fillHandles handles (fillHandle port.1 port.2 noted)).map _ = _
    rw [ih (portsNoted_fillHandle ports port.1 port.2), map_bare_fillHandle ports]

lemma bare_notedDefs (instVnfc : VnfcResourceInfo × Nat) :
    (notedDefs uuids instInfo instVnfc).map (fun entry => bare entry.1) =
      (removedBlock instInfo instVnfc).reses uuids := by
  simp only [notedDefs, Block.reses, removedBlock, List.map_cons, List.map_append, List.map_map,
    storageNames]
  rfl

/-- The removed definitions are made of the blocks of the VNFCs. -/
theorem madeOf_removed {instVnfcs : List VnfcResourceInfo}
    {rmReses addReses : List ResourceDefinition}
    (eq : makeResDefForRemoveVnfcs uuids instInfo instVnfcs = .ok (rmReses, addReses)) :
    MadeOf uuids (instVnfcs.zipIdx.map (removedBlock instInfo)) rmReses := by
  obtain ⟨rfl, _⟩ := makeResDefForRemoveVnfcs_ok eq
  have ports : PortsNoted (instVnfcs.zipIdx.flatMap (notedDefs uuids instInfo)) := by
    intro entry mem
    obtain ⟨instVnfc, _, mem⟩ := List.mem_flatMap.mp mem
    exact portsNoted_notedDefs instVnfc entry mem
  have kept := congrArg (List.map Prod.fst) (map_bare_fillHandles instInfo.ports ports)
  rw [List.map_map, List.map_map] at kept
  rw [MadeOf, List.map_map, List.flatMap_map]
  refine kept.trans ?_
  rw [List.map_flatMap]
  apply List.flatMap_congr
  intro instVnfc _
  exact bare_notedDefs instVnfc

end Tacker.Grant
