import Tacker.Vnflcm.LinkPorts

/-!
# Changed external connectivity

`_update_instantiated_vnf_info` of `vnflcm/utils.py`. An entry that the request mentions is updated by
the first data that mention it, and no entry is added or taken away, so that a requested link is
recorded as requested exactly if nearly all of it was recorded before.
-/

namespace Tacker.Vnflcm

/-! ## The update -/

section Entries

variable {α ρ : Type}

/-- The entries of a list, those that are mentioned being updated. -/
def updateEntries (found : String → Option ρ) (key : α → String) (update : ρ → α → α)
    (entries : List α) : List α :=
  entries.map fun entry =>
    match found (key entry) with
    | some data => update data entry
    | none => entry

variable {found : String → Option ρ} {key : α → String} {update : ρ → α → α} {entries : List α}

/-- What is not mentioned is kept, in its order. -/
lemma updateEntries_kept
    (keepsKey : ∀ entry data, found (key entry) = some data → key (update data entry) = key entry) :
    (updateEntries found key update entries).filter (fun entry => (found (key entry)).isNone) =
      entries.filter fun entry => (found (key entry)).isNone := by
  unfold updateEntries
  induction entries with
  | nil => rfl
  | cons entry entries ih =>
    rw [List.map_cons]
    cases isFound : found (key entry) with
    | none =>
      rw [List.filter_cons_of_pos (by simp [isFound]), List.filter_cons_of_pos (by simp [isFound]), ih]
    | some data =>
      have same := keepsKey entry data isFound
      rw [List.filter_cons_of_neg (by simp [same, isFound]),
        List.filter_cons_of_neg (by simp [isFound]), ih]

/-- The updated entries that were mentioned by certain data. -/
lemma exists_updated {data : ρ} {k : String} (isFound : found k = some data)
    (keepsKey : ∀ entry data, found (key entry) = some data → key (update data entry) = key entry)
    {p : α → Prop} :
    (∃ entry ∈ updateEntries found key update entries, key entry = k ∧ p entry) ↔
      ∃ entry ∈ entries, key entry = k ∧ p (update data entry) := by
  unfold updateEntries
  constructor
  · rintro ⟨entry', mem', isKey, holds⟩
    obtain ⟨entry, mem, rfl⟩ := List.mem_map.mp mem'
    refine ⟨entry, mem, ?_⟩
    cases mentioned : found (key entry) with
    | none =>
      rw [mentioned] at isKey
      rw [isKey, isFound] at mentioned
      cases mentioned
    | some data' =>
      rw [mentioned] at isKey holds
      have same := (keepsKey entry data' mentioned).symm.trans isKey
      rw [same, isFound] at mentioned
      obtain rfl := Option.some.inj mentioned
      exact ⟨same, holds⟩
  · rintro ⟨entry, mem, isKey, holds⟩
    have mentioned : found (key entry) = some data := isKey ▸ isFound
    refine ⟨update data entry, List.mem_map.mpr ⟨entry, mem, ?_⟩, ?_, holds⟩
    · rw [mentioned]
    · exact (keepsKey entry data mentioned).trans isKey

end Entries

/-- The first external connection point of a name in the request. -/
def findExtCp (links : List ExtVirtualLinkData) (cpdId : String) : Option VnfExtCpData :=
  (links.flatMap ExtVirtualLinkData.extCps).find? fun extCp => extCp.cpdId = cpdId

/-- The first link of an identifier in the request. -/
def findLink (links : List ExtVirtualLinkData) (id : String) : Option ExtVirtualLinkData :=
  links.find? fun link => link.id = id

/-- `_update` of an external connection point. -/
def updateExtCp (extCp : VnfExtCpData) (info : VnfExtCpInfo) : VnfExtCpInfo where
  id := info.id
  cpdId := extCp.cpdId
  cpProtocolInfo := setCpProtocolInfo extCp
  extLinkPortId := none
  associatedVnfcCpId := info.associatedVnfcCpId

/-- `_update_ext_cp_info`. -/
def updateExtCpInfo (links : List ExtVirtualLinkData) : List VnfExtCpInfo → List VnfExtCpInfo :=
  updateEntries (findExtCp links) VnfExtCpInfo.cpdId updateExtCp

/-- `_update` of an external link. -/
def updateExtVirtualLink (link : ExtVirtualLinkData) (info : ExtVirtualLinkInfo) :
    ExtVirtualLinkInfo where
  id := info.id
  resourceHandle := {
    resourceId := link.resourceId
    vimConnectionId := info.resourceHandle.vimConnectionId }
  extLinkPorts := info.extLinkPorts

/-- `_update_ext_virtual_link_info`. -/
def updateExtVirtualLinkInfo (links : List ExtVirtualLinkData) :
    List ExtVirtualLinkInfo → List ExtVirtualLinkInfo :=
  updateEntries (findLink links) ExtVirtualLinkInfo.id updateExtVirtualLink

/-- `_update` of the resource of a virtual link. -/
def updateVnfVirtualLinkResource (link : ExtVirtualLinkData) (info : VnfVirtualLinkResourceInfo) :
    VnfVirtualLinkResourceInfo :=
  { info with networkResource := { info.networkResource with resourceId := link.resourceId } }

/-- `_update_vnf_virtual_link_resource_info`. -/
def updateVnfVirtualLinkResourceInfo (links : List ExtVirtualLinkData) :
    List VnfVirtualLinkResourceInfo → List VnfVirtualLinkResourceInfo :=
  updateEntries (findLink links) VnfVirtualLinkResourceInfo.vnfVirtualLinkDescId
    updateVnfVirtualLinkResource

/-- `_update_instantiated_vnf_info`, with the external links of the request. -/
def updateInstantiatedVnfInfo (links : List ExtVirtualLinkData) (info : InstantiatedVnfInfo) :
    InstantiatedVnfInfo :=
  { info with
    extCpInfo := updateExtCpInfo links info.extCpInfo
    extVirtualLinkInfo := updateExtVirtualLinkInfo links info.extVirtualLinkInfo
    vnfVirtualLinkResourceInfo :=
      updateVnfVirtualLinkResourceInfo links info.vnfVirtualLinkResourceInfo }

/-! ## What the update is to record -/

/-- A recorded link port, as it is requested. -/
def ExtLinkPortInfo.data (port : ExtLinkPortInfo) : ExtLinkPortData :=
  ⟨port.id, port.resourceHandle⟩

/-- A connection point of a VNFC with this descriptor is connected to a link, by one of the link ports
that are recorded for it. -/
def Connected (info : InstantiatedVnfInfo) (linkId cpdId : String) : Prop :=
  ∃ vl ∈ info.vnfVirtualLinkResourceInfo, vl.vnfVirtualLinkDescId = linkId ∧
    ∃ port ∈ vl.vnfLinkPorts, ∃ cp ∈ cpsOf info.vnfcResourceInfo,
      cp.id = port.cpInstanceId ∧ cp.cpdId = cpdId

/-- A recorded link has the link ports of a requested one, and its VIM connection if one is given. -/
structure PortsAs (link : ExtVirtualLinkData) (info : ExtVirtualLinkInfo) : Prop where
  ports (port : ExtLinkPortData) :
    port ∈ info.extLinkPorts.map ExtLinkPortInfo.data ↔ port ∈ link.extLinkPorts
  vimConnection {id : String} (given : link.vimConnectionId = some id) :
    info.resourceHandle.vimConnectionId = some id

/-- A link is recorded with the requested resource, link ports and connection points. -/
structure Recorded (link : ExtVirtualLinkData) (info : InstantiatedVnfInfo) : Prop where
  entry : ∃ entry ∈ info.extVirtualLinkInfo, entry.id = link.id ∧
    entry.resourceHandle.resourceId = link.resourceId ∧ PortsAs link entry
  connected (cpdId : String) :
    Connected info link.id cpdId ↔ ∃ extCp ∈ link.extCps, extCp.cpdId = cpdId
  configured : ∀ extCp ∈ link.extCps, ∃ entry ∈ info.extCpInfo,
    entry.cpdId = extCp.cpdId ∧ entry.cpProtocolInfo = setCpProtocolInfo extCp

/-- After the update, what is requested is recorded, and what is not mentioned is as it was. -/
structure Updated (links : List ExtVirtualLinkData) (info info' : InstantiatedVnfInfo) : Prop where
  recorded : ∀ link ∈ links, Recorded link info'
  linksKept : (info'.extVirtualLinkInfo.filter fun entry => (findLink links entry.id).isNone) =
    info.extVirtualLinkInfo.filter fun entry => (findLink links entry.id).isNone
  extCpsKept : (info'.extCpInfo.filter fun entry => (findExtCp links entry.cpdId).isNone) =
    info.extCpInfo.filter fun entry => (findExtCp links entry.cpdId).isNone
  resourcesKept : (info'.vnfVirtualLinkResourceInfo.filter fun entry =>
      (findLink links entry.vnfVirtualLinkDescId).isNone) =
    info.vnfVirtualLinkResourceInfo.filter fun entry =>
      (findLink links entry.vnfVirtualLinkDescId).isNone

/-- All of a requested link but its resource and the protocols of its connection points is recorded
already, and what is requested of these two is what is requested first. -/
structure AlreadyRecorded (links : List ExtVirtualLinkData) (link : ExtVirtualLinkData)
    (info : InstantiatedVnfInfo) : Prop where
  entry : ∃ entry ∈ info.extVirtualLinkInfo, entry.id = link.id ∧ PortsAs link entry
  resource {first : ExtVirtualLinkData} (isFirst : findLink links link.id = some first) :
    first.resourceId = link.resourceId
  connected (cpdId : String) :
    Connected info link.id cpdId ↔ ∃ extCp ∈ link.extCps, extCp.cpdId = cpdId
  extCps : ∀ extCp ∈ link.extCps, ∃ entry ∈ info.extCpInfo, entry.cpdId = extCp.cpdId
  protocols {extCp : VnfExtCpData} (mem : extCp ∈ link.extCps) {first : VnfExtCpData}
    (isFirst : findExtCp links extCp.cpdId = some first) :
    setCpProtocolInfo first = setCpProtocolInfo extCp

/-! ## What the update records -/

variable {links : List ExtVirtualLinkData} {link : ExtVirtualLinkData} {info : InstantiatedVnfInfo}

lemma findExtCp_cpdId {cpdId : String} {extCp : VnfExtCpData}
    (isFirst : findExtCp links cpdId = some extCp) : extCp.cpdId = cpdId := by
  have picked := List.find?_some isFirst
  exact of_decide_eq_true picked

lemma exists_findLink (mem : link ∈ links) : ∃ first, findLink links link.id = some first :=
  Option.isSome_iff_exists.mp (List.find?_isSome.mpr ⟨link, mem, decide_eq_true rfl⟩)

lemma exists_findExtCp (mem : link ∈ links) {extCp : VnfExtCpData} (isCp : extCp ∈ link.extCps) :
    ∃ first, findExtCp links extCp.cpdId = some first :=
  Option.isSome_iff_exists.mp (List.find?_isSome.mpr
    ⟨extCp, List.mem_flatMap.mpr ⟨link, mem, isCp⟩, decide_eq_true rfl⟩)

/-- What is connected stays connected. -/
lemma connected_iff {cpdId : String} (mem : link ∈ links) :
    Connected (updateInstantiatedVnfInfo links info) link.id cpdId ↔ Connected info link.id cpdId := by
  obtain ⟨first, isFirst⟩ := exists_findLink mem
  have keeps (vl : VnfVirtualLinkResourceInfo) (data : ExtVirtualLinkData)
      (_ : findLink links vl.vnfVirtualLinkDescId = some data) :
      (updateVnfVirtualLinkResource data vl).vnfVirtualLinkDescId = vl.vnfVirtualLinkDescId := rfl
  exact exists_updated isFirst keeps

lemma entry_iff {first : ExtVirtualLinkData} (isFirst : findLink links link.id = some first) :
    (∃ entry ∈ (updateInstantiatedVnfInfo links info).extVirtualLinkInfo, entry.id = link.id ∧
        entry.resourceHandle.resourceId = link.resourceId ∧ PortsAs link entry) ↔
      first.resourceId = link.resourceId ∧
        ∃ entry ∈ info.extVirtualLinkInfo, entry.id = link.id ∧ PortsAs link entry := by
  have keeps (entry : ExtVirtualLinkInfo) (data : ExtVirtualLinkData)
      (_ : findLink links entry.id = some data) :
      (updateExtVirtualLink data entry).id = entry.id := rfl
  refine (exists_updated isFirst keeps).trans ?_
  constructor
  · rintro ⟨entry, mem, isId, resource, as⟩
    exact ⟨resource, entry, mem, isId, ⟨as.ports, as.vimConnection⟩⟩
  · rintro ⟨resource, entry, mem, isId, as⟩
    exact ⟨entry, mem, isId, resource, ⟨as.ports, as.vimConnection⟩⟩

lemma configured_iff {extCp first : VnfExtCpData} (isFirst : findExtCp links extCp.cpdId = some first) :
    (∃ entry ∈ (updateInstantiatedVnfInfo links info).extCpInfo, entry.cpdId = extCp.cpdId ∧
        entry.cpProtocolInfo = setCpProtocolInfo extCp) ↔
      (∃ entry ∈ info.extCpInfo, entry.cpdId = extCp.cpdId) ∧
        setCpProtocolInfo first = setCpProtocolInfo extCp := by
  have keeps (entry : VnfExtCpInfo) (data : VnfExtCpData)
      (isFound : findExtCp links entry.cpdId = some data) :
      (updateExtCp data entry).cpdId = entry.cpdId := findExtCp_cpdId isFound
  refine (exists_updated isFirst keeps).trans ?_
  constructor
  · rintro ⟨entry, mem, isCpd, protocols⟩
    exact ⟨⟨entry, mem, isCpd⟩, protocols⟩
  · rintro ⟨⟨entry, mem, isCpd⟩, protocols⟩
    exact ⟨entry, mem, isCpd, protocols⟩

/-- A requested link is recorded exactly if it was already, but for its resource and protocols. -/
lemma recorded_iff (mem : link ∈ links) :
    Recorded link (updateInstantiatedVnfInfo links info) ↔ AlreadyRecorded links link info := by
  obtain ⟨first, isFirst⟩ := exists_findLink mem
  constructor
  · intro recorded
    obtain ⟨resource, entry⟩ := (entry_iff isFirst).mp recorded.entry
    refine ⟨entry, ?_, fun cpdId => ?_, fun extCp isCp => ?_, ?_⟩
    · intro first' isFirst'
      rw [isFirst] at isFirst'
      obtain rfl := Option.some.inj isFirst'
      exact resource
    · rw [← connected_iff mem]
      exact recorded.connected cpdId
    · obtain ⟨firstCp, isFirstCp⟩ := exists_findExtCp mem isCp
      exact ((configured_iff isFirstCp).mp (recorded.configured extCp isCp)).1
    · intro extCp isCp firstCp isFirstCp
      exact ((configured_iff isFirstCp).mp (recorded.configured extCp isCp)).2
  · intro already
    refine ⟨(entry_iff isFirst).mpr ⟨already.resource isFirst, already.entry⟩, fun cpdId => ?_, ?_⟩
    · rw [connected_iff mem]
      exact already.connected cpdId
    · intro extCp isCp
      obtain ⟨firstCp, isFirstCp⟩ := exists_findExtCp mem isCp
      exact (configured_iff isFirstCp).mpr ⟨already.extCps extCp isCp, already.protocols isCp isFirstCp⟩

/-- An update records what is requested and keeps the rest exactly if all that is requested but the
resources and protocols was recorded before. -/
theorem updated_iff_already (links : List ExtVirtualLinkData) (info : InstantiatedVnfInfo) :
    Updated links info (updateInstantiatedVnfInfo links info) ↔
      ∀ link ∈ links, AlreadyRecorded links link info := by
  constructor
  · intro updated link mem
    exact (recorded_iff mem).mp (updated.recorded link mem)
  · intro already
    refine ⟨fun link mem => (recorded_iff mem).mpr (already link mem), ?_, ?_, ?_⟩
    · exact updateEntries_kept fun _ _ _ => rfl
    · exact updateEntries_kept fun _ _ isFound => findExtCp_cpdId isFound
    · exact updateEntries_kept fun _ _ _ => rfl

/-- A VNF whose only connection point is connected to one link. -/
def onNet1 : InstantiatedVnfInfo where
  vnfcResourceInfo := [⟨0, "VDU1", [{ id := 1, cpdId := "CP1", vnfLinkPortId := some 4 }]⟩]
  extCpInfo := [⟨2, "CP1", [], none, some 0⟩]
  extVirtualLinkInfo := [⟨"net1", { resourceId := "res1" }, []⟩]
  vnfVirtualLinkResourceInfo := [⟨3, "net1", { resourceId := "res1" }, [⟨4, {}, 1⟩]⟩]
  extManagedVirtualLinkInfo := []

/-- A request to connect it to another link. -/
def toNet2 : List ExtVirtualLinkData :=
  [{ id := "net2", resourceId := "res2", extCps := [{ cpdId := "CP1" }] }]

/-- A link that was not there before is not recorded. -/
theorem new_link_missed : ¬ Updated toNet2 onNet1 (updateInstantiatedVnfInfo toNet2 onNet1) := by
  intro updated
  obtain ⟨entry, mem, isId, -⟩ := (updated.recorded _ List.mem_cons_self).entry
  rw [List.mem_singleton.mp mem] at isId
  exact absurd isId (by decide)

end Tacker.Vnflcm
