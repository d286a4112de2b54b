import Tacker.Grant.Counts
import Tacker.Grant.Handles
import Tacker.Grant.Requests

/-!
# Accuracy of removals

The grant requests for terminate, scale-in, heal and changed external connectivity list what they
remove with the handles of the resources themselves, each of them once, if and only if the VNFCs in
question share no port and no storage. What heal adds corresponds to what it removes.
-/

namespace Tacker.Grant

open Tacker.Basis

/-! ## Recorded instances -/

/-- All ports of the externally managed virtual links. -/
def InstantiatedVnfInfo.mgdLinkPorts (instInfo : InstantiatedVnfInfo) :
    List (String × ResourceHandle) :=
  (instInfo.extManagedVirtualLinkInfo.getD []).flatMap fun extMgdVl =>
    (extMgdVl.vnfLinkPorts.getD []).map fun port => (port.id, port.resourceHandle)

/-- What the infra drivers record: the identifiers of external CPs (with the prefix `cp-`) are none
of link ports, and a managed port that a CP names also names a CP. -/
structure RecordedInst where
  info : InstantiatedVnfInfo
  extApart : ∀ instVnfc ∈ info.vnfcs, ∀ cpInfo ∈ instVnfc.cps, ∀ key,
    cpInfo.vnfExtCpId = some key →
      key ∉ info.vlPorts.map Prod.fst ∧ key ∉ info.mgdLinkPorts.map Prod.fst
  linkApart : ∀ instVnfc ∈ info.vnfcs, ∀ cpInfo ∈ instVnfc.cps, ∀ key,
    cpInfo.vnfLinkPortId = some key → key ∉ info.extPorts.map Prod.fst
  linked : ∀ instVnfc ∈ info.vnfcs, ∀ cpInfo ∈ instVnfc.cps, ∀ key,
    cpInfo.vnfLinkPortId = some key → ∀ vls, info.extManagedVirtualLinkInfo = some vls →
      ∀ extMgdVl ∈ vls, ∀ port ∈ extMgdVl.vnfLinkPorts.getD [], port.id = key →
        port.cpInstanceId.isSome = true

/-- The port of a CP: where the instance records an external port for the external CP, else a link
port with the identifier. -/
def portHandles (instInfo : InstantiatedVnfInfo) (cpInfo : VnfcCpInfo) : List ResourceHandle :=
  match cpInfo.vnfExtCpId, cpInfo.vnfLinkPortId with
  | some key, _ => handlesAt key instInfo.extPorts
  | none, some key => handlesAt key instInfo.vlPorts ++ handlesAt key instInfo.mgdLinkPorts
  | none, none => []

/-- The server of a VNFC. -/
def serverStand (instVnfc : VnfcResourceInfo) : Stand where
  type := .compute
  resourceTemplateId := instVnfc.vduId
  resources := [instVnfc.computeResource]

/-- The port of a CP. -/
def portStand (instInfo : InstantiatedVnfInfo) (cpInfo : VnfcCpInfo) : Stand where
  type := .linkport
  resourceTemplateId := cpInfo.cpdId
  resources := portHandles instInfo cpInfo

/-- A storage. -/
def storageStand (instStr : VirtualStorageResourceInfo) : Stand where
  type := .storage
  resourceTemplateId := instStr.virtualStorageDescId
  resources := [instStr.storageResource]

/-- A virtual link. -/
def vlStand (instVl : VnfVirtualLinkResourceInfo) : Stand where
  type := .vl
  resourceTemplateId := instVl.vnfVirtualLinkDescId
  resources := [instVl.networkResource]

/-- What is removed with a VNFC. -/
def vnfcStands (instInfo : InstantiatedVnfInfo) (instVnfc : VnfcResourceInfo) : List Stand :=
  serverStand instVnfc ::
    (instVnfc.removedCps.map (portStand instInfo) ++
      (foundStorages instInfo instVnfc).map storageStand)

/-! ## Requests -/

/-- The requests that remove resources. -/
inductive RemovalRequest where
  | terminate
  | scaleIn (flavour : Flavour) (aspectId : String) (numberOfSteps : Nat)
  | heal (vnfcInstanceId : Option (List String)) (isAll : Bool)
  | changeExtConn (extVirtualLinks : List ExtVirtualLinkData)

/-- The VNFC that an entry of `vnfcInfo` is about. -/
def vnfcOfInfo (instInfo : InstantiatedVnfInfo) (vnfc : VnfcInfo) : List VnfcResourceInfo :=
  (instInfo.vnfcs.find? fun instVnfc => instVnfc.id = vnfc.vnfcResourceInfoId).toList

/-- The VNFCs that a heal request names. -/
def healedVnfcs (instInfo : InstantiatedVnfInfo) (vnfcInstanceId : List String) :
    List VnfcResourceInfo :=
  ((instInfo.vnfcInfo.getD []).filter fun vnfc => vnfc.id ∈ vnfcInstanceId).flatMap
    (vnfcOfInfo instInfo)

/-- What is healed of a VNFC that a heal request names. -/
def healStands (instInfo : InstantiatedVnfInfo) (isAll : Bool) (instVnfc : VnfcResourceInfo) :
    List Stand :=
  serverStand instVnfc ::
    if isAll = true then (foundStorages instInfo instVnfc).map storageStand else []

namespace RemovalRequest

/-- The grant request. -/
def grant (uuids : Uuids) (instInfo : InstantiatedVnfInfo) :
    RemovalRequest → Except Raised GrantRequest
  | terminate => terminateGrant uuids instInfo
  | scaleIn flavour aspectId numSteps =>
    scaleGrant uuids true (fun _ => some flavour) ⟨.scaleIn, aspectId, numSteps⟩ instInfo
  | heal vnfcInstanceId isAll => healGrant uuids instInfo vnfcInstanceId isAll
  | changeExtConn extVirtualLinks => changeExtConnGrant uuids instInfo extVirtualLinks

/-- What the request removes. -/
def stands (instInfo : InstantiatedVnfInfo) : RemovalRequest → List Stand
  | terminate =>
    instInfo.vnfcs.flatMap (vnfcStands instInfo) ++
      (instInfo.vnfVirtualLinkResourceInfo.getD []).map vlStand
  | scaleIn flavour aspectId numSteps =>
    (scaleInRmVnfcs instInfo.vnfcs numSteps (aspectVdus flavour aspectId)).flatMap
      (vnfcStands instInfo)
  | heal none true =>
    instInfo.vnfcs.flatMap (vnfcStands instInfo) ++
      (instInfo.vnfVirtualLinkResourceInfo.getD []).map vlStand
  | heal none false => instInfo.vnfcs.map serverStand
  | heal (some vnfcInstanceId) isAll =>
    (healedVnfcs instInfo vnfcInstanceId).flatMap (healStands instInfo isAll)
  | changeExtConn extVirtualLinks =>
    instInfo.vnfcs.flatMap fun instVnfc =>
      (replacedCps extVirtualLinks instVnfc).map (portStand instInfo)

/-- The CPs whose ports the request removes. -/
def removedCps (instInfo : InstantiatedVnfInfo) : RemovalRequest → List VnfcCpInfo
  | terminate => instInfo.vnfcs.flatMap VnfcResourceInfo.removedCps
  | scaleIn flavour aspectId numSteps =>
    (scaleInRmVnfcs instInfo.vnfcs numSteps (aspectVdus flavour aspectId)).flatMap
      VnfcResourceInfo.removedCps
  | heal none true => instInfo.vnfcs.flatMap VnfcResourceInfo.removedCps
  | heal none false => []
  | heal (some _) _ => []
  | changeExtConn extVirtualLinks => instInfo.vnfcs.flatMap (replacedCps extVirtualLinks)

/-- The VNFCs in question share nothing: no two CPs name one port, and the instance records each
resource that is removed once, no two of them with one handle. -/
def SharesNothing (instInfo : InstantiatedVnfInfo) (request : RemovalRequest) : Prop :=
  ((request.removedCps instInfo).filterMap VnfcCpInfo.portKey).Nodup ∧
    Separate (request.stands instInfo)

end RemovalRequest

/-- A definition of the VNFC that a call is about. -/
def OwnedBy (uuids : Uuids) (call : UuidCall) (res : ResourceDefinition) : Prop :=
  res.id = uuids.of call ∨ res.id = makeCombinationId res.resourceTemplateId (uuids.of call)

/-- An added definition is of the type, the template and the VNFC of a removed one. -/
def Corresponds (uuids : Uuids) (removed added : ResourceDefinition) : Prop :=
  removed.type = added.type ∧ removed.resourceTemplateId = added.resourceTemplateId ∧
    ∃ i, (OwnedBy uuids (.removed i) removed ∧ OwnedBy uuids (.added i) added) ∨
      (removed.id = uuids.of (.removedVl i) ∧ added.id = uuids.of (.addedVl i))

namespace RemovalRequest

/-- What heal adds corresponds to what it removes. -/
def AddsAgain (uuids : Uuids) (grantReq : GrantRequest) : RemovalRequest → Prop
  | heal _ _ => List.Forall₂ (Corresponds uuids) (grantReq.removeResources.getD [])
      (grantReq.addResources.getD [])
  | _ => True

end RemovalRequest

/-! ## Ports of recorded instances -/

lemma handlesAt_append (key : String) (ports ports' : List (String × ResourceHandle)) :
    handlesAt key (ports ++ ports') = handlesAt key ports ++ handlesAt key ports' := by
  rw [handlesAt, List.filter_append, List.map_append]
  rfl

lemma handlesAt_absent {key : String} {ports : List (String × ResourceHandle)}
    (absent : key ∉ ports.map Prod.fst) : handlesAt key ports = [] := by
  rw [handlesAt, List.map_eq_nil_iff, List.filter_eq_nil_iff]
  intro port mem same
  rw [← of_decide_eq_true same] at absent
  exact absent (List.mem_map_of_mem mem)

lemma extMgdPorts_subset {instInfo : InstantiatedVnfInfo} {key : String}
    (mem : key ∈ instInfo.extMgdPorts.map Prod.fst) :
    key ∈ instInfo.mgdLinkPorts.map Prod.fst := by
  obtain ⟨port, listed, rfl⟩ := List.mem_map.mp mem
  obtain ⟨extMgdVl, vlMem, listed⟩ := List.mem_flatMap.mp listed
  obtain ⟨portInfo, portMem, eq⟩ := List.mem_filterMap.mp listed
  obtain ⟨_, _, rfl⟩ := Option.map_eq_some_iff.mp eq
  apply List.mem_map.mpr
  refine ⟨_, List.mem_flatMap.mpr ⟨extMgdVl, vlMem, List.mem_map_of_mem portMem⟩, rfl⟩

/-- The managed ports under a key whose ports all name a CP. -/
lemma handlesAt_extMgdPorts {instInfo : InstantiatedVnfInfo} {key : String}
    (linked : ∀ vls, instInfo.extManagedVirtualLinkInfo = some vls →
      ∀ extMgdVl ∈ vls, ∀ port ∈ extMgdVl.vnfLinkPorts.getD [], port.id = key →
        port.cpInstanceId.isSome = true) :
    handlesAt key instInfo.extMgdPorts = handlesAt key instInfo.mgdLinkPorts := by
  have each : ∀ ports : List VnfLinkPortInfo,
      (∀ port ∈ ports, port.id = key → port.cpInstanceId.isSome = true) →
      (ports.filterMap fun port => port.cpInstanceId.map fun _ =>
        (port.id, port.resourceHandle)).filter (fun port => decide (port.1 = key)) =
      (ports.map fun port => (port.id, port.resourceHandle)).filter
        fun port => decide (port.1 = key) := by
    intro ports linked
    induction ports with
    | nil => rfl
    | cons port ports ih =>
      obtain ⟨first, rest⟩ := List.forall_mem_cons.mp linked
      rw [List.filterMap_cons, List.map_cons, List.filter_cons]
      by_cases same : port.id = key
      · obtain ⟨cpInstanceId, isSet⟩ := Option.isSome_iff_exists.mp (first same)
        rw [isSet, Option.map_some, List.filter_cons, if_pos (decide_eq_true same),
          if_pos (decide_eq_true same), ih rest]
      · rw [if_neg (show ¬ decide (port.id = key) = true by simpa using same), ← ih rest]
        cases port.cpInstanceId with
        | none => rfl
        | some cpInstanceId =>
          rw [Option.map_some, List.filter_cons,
            if_neg (show ¬ decide (port.id = key) = true by simpa using same)]
  rw [handlesAt, handlesAt, InstantiatedVnfInfo.extMgdPorts, InstantiatedVnfInfo.mgdLinkPorts,
    List.filter_flatMap, List.filter_flatMap]
  congr 1
  apply List.flatMap_congr
  intro extMgdVl mem
  apply each
  cases isSet : instInfo.extManagedVirtualLinkInfo with
  | none =>
    rw [isSet] at mem
    cases mem
  | some vls =>
    rw [isSet] at mem
    exact linked vls isSet extMgdVl mem

variable {inst : RecordedInst} {uuids : Uuids} {instVnfc : VnfcResourceInfo} {cpInfo : VnfcCpInfo}
  {key : String}

/-- The port of a CP is looked up under its key. -/
lemma portHandles_eq (recorded : instVnfc ∈ inst.info.vnfcs) (mem : cpInfo ∈ instVnfc.cps)
    (noted : cpInfo.portKey = some key) :
    portHandles inst.info cpInfo = handlesAt key inst.info.ports := by
  rw [InstantiatedVnfInfo.ports, handlesAt_append, handlesAt_append, portHandles]
  cases ext : cpInfo.vnfExtCpId with
  | some extKey =>
    rw [VnfcCpInfo.portKey, ext] at noted
    cases noted
    obtain ⟨noVl, noMgd⟩ := inst.extApart instVnfc recorded cpInfo mem _ ext
    rw [handlesAt_absent noVl, handlesAt_absent fun mem => noMgd (extMgdPorts_subset mem),
      List.nil_append, List.append_nil]
  | none =>
    rw [VnfcCpInfo.portKey, ext, Option.none_or] at noted
    have noExt := inst.linkApart instVnfc recorded cpInfo mem key noted
    rw [noted, handlesAt_absent noExt, List.append_nil,
      handlesAt_extMgdPorts (inst.linked instVnfc recorded cpInfo mem key noted)]

/-- The port of an external CP is looked up among the external ports. -/
lemma portHandles_ext (ext : cpInfo.vnfExtCpId = some key) :
    portHandles inst.info cpInfo = handlesAt key inst.info.extPorts := by
  rw [portHandles, ext]

/-! ## Definitions and what they stand for -/

lemma forall₂_flatMap_of_forall₂ {α β γ δ : Type*} {R : γ → δ → Prop} {as : List α} {bs : List β}
    {f : β → List γ} {g : α → List δ}
    (each : List.Forall₂ (fun a b => List.Forall₂ R (f b) (g a)) as bs) :
    List.Forall₂ R (bs.flatMap f) (as.flatMap g) := by
  induction each with
  | nil => exact .nil
  | cons first _ ih => exact List.rel_append first ih

lemma forall₂_flatMap {α β γ : Type*} {R : β → γ → Prop} {as : List α} {f : α → List β}
    {g : α → List γ} (each : ∀ a ∈ as, List.Forall₂ R (f a) (g a)) :
    List.Forall₂ R (as.flatMap f) (as.flatMap g) :=
  forall₂_flatMap_of_forall₂ (List.forall₂_same.mpr each)

lemma forall₂_map_map {α β γ : Type*} {R : β → γ → Prop} {as : List α} {f : α → β} {g : α → γ}
    (each : ∀ a ∈ as, R (f a) (g a)) : List.Forall₂ R (as.map f) (as.map g) := by
  rw [List.forall₂_map_left_iff, List.forall₂_map_right_iff]
  exact List.forall₂_same.mpr each

lemma zipIdx_flatMap {α β : Type*} (as : List α) (f : α → List β) :
    (as.zipIdx.flatMap fun numbered => f numbered.1) = as.flatMap f := by
  rw [← List.flatMap_map (f := Prod.fst) (g := f), List.zipIdx_map_fst]

lemma zipIdx_map {α β : Type*} (as : List α) (f : α → β) :
    (as.zipIdx.map fun numbered => f numbered.1) = as.map f := by
  rw [show (fun numbered : α × Nat => f numbered.1) = f ∘ Prod.fst from rfl, ← List.map_map,
    List.zipIdx_map_fst]

lemma carries_server (instVnfc : VnfcResourceInfo) (id : String) :
    Carries (serverDef id instVnfc) (serverStand instVnfc) :=
  ⟨rfl, rfl, _, rfl, rfl⟩

lemma carries_storages (storages : List VirtualStorageResourceInfo) (id : String) :
    List.Forall₂ Carries (storages.map (storageDef id)) (storages.map storageStand) :=
  forall₂_map_map fun _ _ => ⟨rfl, rfl, _, rfl, rfl⟩

/-- The definitions of a VNFC wait for the ports they stand for. -/
lemma waits_notedDefs (recorded : instVnfc ∈ inst.info.vnfcs) (i : Nat) :
    List.Forall₂ (Waits inst.info.ports) (notedDefs uuids inst.info (instVnfc, i))
      (vnfcStands inst.info instVnfc) := by
  refine .cons (carries_server instVnfc _) (List.rel_append ?_ ?_)
  · apply forall₂_map_map
    intro cpInfo mem
    obtain ⟨mem, some⟩ := List.mem_filter.mp mem
    obtain ⟨key, noted⟩ := Option.isSome_iff_exists.mp some
    rw [Waits, show (portDef (uuids.of (.removed i)) cpInfo, cpInfo.portKey).2 = _ from noted]
    exact ⟨rfl, rfl, rfl, portHandles_eq recorded mem noted⟩
  · exact forall₂_map_map fun _ _ => ⟨rfl, rfl, _, rfl, rfl⟩

lemma waits_vnfcs {instVnfcs : List VnfcResourceInfo}
    (recorded : ∀ instVnfc ∈ instVnfcs, instVnfc ∈ inst.info.vnfcs) :
    List.Forall₂ (Waits inst.info.ports) (instVnfcs.zipIdx.flatMap (notedDefs uuids inst.info))
      (instVnfcs.flatMap (vnfcStands inst.info)) := by
  rw [← zipIdx_flatMap instVnfcs (vnfcStands inst.info)]
  apply forall₂_flatMap
  rintro ⟨instVnfc, i⟩ mem
  exact waits_notedDefs (recorded instVnfc (List.fst_mem_of_mem_zipIdx mem)) i

/-- The keys that the definitions of VNFCs are noted under. -/
lemma keys_notedDefs (instInfo : InstantiatedVnfInfo) (instVnfcs : List VnfcResourceInfo) :
    (instVnfcs.zipIdx.flatMap (notedDefs uuids instInfo)).filterMap Prod.snd =
      (instVnfcs.flatMap VnfcResourceInfo.removedCps).filterMap VnfcCpInfo.portKey := by
  rw [List.filterMap_flatMap, List.filterMap_flatMap, ← zipIdx_flatMap instVnfcs]
  apply List.flatMap_congr
  rintro ⟨instVnfc, i⟩ _
  rw [notedDefs, List.filterMap_cons_none rfl, List.filterMap_append, List.filterMap_map,
    List.filterMap_map]
  have none : (foundStorages instInfo instVnfc).filterMap (Prod.snd ∘ fun instStr =>
      (storageDef (uuids.of (.removed i)) instStr, (none : Option String))) = [] :=
    List.filterMap_eq_nil_iff.mpr fun _ _ => rfl
  rw [none, List.append_nil]
  rfl

lemma carries_vls (instInfo : InstantiatedVnfInfo) :
    List.Forall₂ Carries (instInfo.vls.map (removedVl uuids))
      ((instInfo.vnfVirtualLinkResourceInfo.getD []).map vlStand) := by
  rw [← zipIdx_map _ vlStand]
  exact forall₂_map_map fun _ _ => ⟨rfl, rfl, _, rfl, rfl⟩

/-! ## Each request -/

/-- What `_make_res_def_for_remove_vnfcs` makes, with definitions that carry their handles. -/
lemma accurate_removed_iff {instVnfcs : List VnfcResourceInfo}
    {rmReses addReses reses' : List ResourceDefinition} {stands' : List Stand}
    (made : makeResDefForRemoveVnfcs uuids inst.info instVnfcs = .ok (rmReses, addReses))
    (recorded : ∀ instVnfc ∈ instVnfcs, instVnfc ∈ inst.info.vnfcs)
    (carry : List.Forall₂ Carries reses' stands') :
    Accurate (rmReses ++ reses') (instVnfcs.flatMap (vnfcStands inst.info) ++ stands') ↔
      ((instVnfcs.flatMap VnfcResourceInfo.removedCps).filterMap VnfcCpInfo.portKey).Nodup ∧
        Separate (instVnfcs.flatMap (vnfcStands inst.info) ++ stands') := by
  obtain ⟨rfl, _⟩ := makeResDefForRemoveVnfcs_ok made
  rw [accurate_filled_iff (waits_vnfcs recorded) carry, keys_notedDefs]

lemma mem_vnfcsOf_scaleInRmVnfcs {vnfcs : List VnfcResourceInfo} {numSteps : Nat}
    {vduNumInst : List (String × Nat)}
    (mem : instVnfc ∈ scaleInRmVnfcs vnfcs numSteps vduNumInst) : instVnfc ∈ vnfcs := by
  obtain ⟨vdu, _, selected⟩ := List.mem_flatMap.mp mem
  exact (of_mem_vnfcsOf ((selectVnfcs_sublist _ _ _).mem selected)).1

/-- A heal request removes the servers and storages of the VNFC that an entry is about. -/
lemma healVnfc_ok {isAll : Bool} {vnfc : VnfcInfo × Nat} {instInfo : InstantiatedVnfInfo}
    {made : List ResourceDefinition × List ResourceDefinition}
    (eq : healVnfc uuids instInfo isAll vnfc = .ok made) :
    ∃ instVnfc, vnfcOfInfo instInfo vnfc.1 = [instVnfc] ∧
      made = rmAddReses uuids instVnfc
        (if isAll = true then foundStorages instInfo instVnfc else []) vnfc.2 := by
  obtain ⟨instVnfc, found, eq⟩ := bind_ok.mp eq
  obtain ⟨storages, read, eq⟩ := bind_ok.mp eq
  cases eq
  obtain ⟨vnfcs, loaded, found⟩ := bind_ok.mp found
  refine ⟨instVnfc, ?_, ?_⟩
  · rw [vnfcOfInfo, InstantiatedVnfInfo.vnfcs, load_ok.mp loaded, Option.getD_some]
    cases search : vnfcs.find? fun instVnfc => instVnfc.id = vnfc.1.vnfcResourceInfoId with
    | none =>
      rw [search] at found
      cases found
    | some instVnfc' =>
      rw [search] at found
      cases found
      rfl
  · cases isAll with
    | true =>
      cases storagesOf_ok read
      rfl
    | false =>
      cases read
      rfl

lemma carries_rmAddReses (instInfo : InstantiatedVnfInfo) (instVnfc : VnfcResourceInfo)
    (isAll : Bool) (i : Nat) :
    List.Forall₂ Carries
      (rmAddReses uuids instVnfc
        (if isAll = true then foundStorages instInfo instVnfc else []) i).1
      (healStands instInfo isAll instVnfc) := by
  refine .cons (carries_server instVnfc _) ?_
  cases isAll with
  | true => exact carries_storages _ _
  | false => exact .nil

/-- The definitions that a heal request with `vnfcInstanceId` removes. -/
lemma carries_sol002 {instInfo : InstantiatedVnfInfo} {vnfcInstanceId : List String}
    {isAll : Bool} {rmReses addReses : List ResourceDefinition}
    (made : makeSol002HealReses uuids instInfo vnfcInstanceId isAll = .ok (rmReses, addReses)) :
    List.Forall₂ Carries rmReses
      ((healedVnfcs instInfo vnfcInstanceId).flatMap (healStands instInfo isAll)) := by
  obtain ⟨vnfcInfo, loaded, made⟩ := bind_ok.mp made
  obtain ⟨each, turns, made⟩ := bind_ok.mp made
  cases made
  rw [healedVnfcs, load_ok.mp loaded, Option.getD_some, List.flatMap_assoc,
    ← zipIdx_flatMap (vnfcInfo.filter fun vnfc => vnfc.id ∈ vnfcInstanceId)]
  apply forall₂_flatMap_of_forall₂
  apply (forall₂_of_mapM_ok turns).imp
  intro vnfc made turn
  obtain ⟨instVnfc, found, rfl⟩ := healVnfc_ok turn
  rw [found, List.flatMap_singleton]
  exact carries_rmAddReses instInfo instVnfc isAll vnfc.2

/-- What is noted of a VNFC when its external connectivity is changed. -/
lemma noted_changeExtConnVnfc (extVirtualLinks : List ExtVirtualLinkData)
    (instVnfc : VnfcResourceInfo × Nat) :
    (changeExtConnVnfc uuids extVirtualLinks instVnfc).2.2 =
      (replacedCps extVirtualLinks instVnfc.1).map fun cpInfo =>
        (portDef (uuids.of (.removed instVnfc.2)) cpInfo, cpInfo.vnfExtCpId) := by
  rw [changeExtConnVnfc]
  by_cases none : changedCps extVirtualLinks instVnfc.1 = []
  · rw [if_pos none, replacedCps, none]
    rfl
  · rw [if_neg none]

/-- The ports that are removed when the external connectivity is changed. -/
lemma accurate_changeExtConn_iff (extVirtualLinks : List ExtVirtualLinkData)
    (vnfcs : List VnfcResourceInfo) :
    Accurate ((fillHandles inst.info.extPorts
        ((vnfcs.zipIdx.map (changeExtConnVnfc uuids extVirtualLinks)).flatMap (·.2.2))).map
          Prod.fst)
      (vnfcs.flatMap fun instVnfc =>
        (replacedCps extVirtualLinks instVnfc).map (portStand inst.info)) ↔
      ((vnfcs.flatMap (replacedCps extVirtualLinks)).filterMap VnfcCpInfo.portKey).Nodup ∧
        Separate (vnfcs.flatMap fun instVnfc =>
          (replacedCps extVirtualLinks instVnfc).map (portStand inst.info)) := by
  have noted : (vnfcs.zipIdx.map (changeExtConnVnfc uuids extVirtualLinks)).flatMap (·.2.2) =
      vnfcs.zipIdx.flatMap fun instVnfc =>
        (replacedCps extVirtualLinks instVnfc.1).map fun cpInfo =>
          (portDef (uuids.of (.removed instVnfc.2)) cpInfo, cpInfo.vnfExtCpId) := by
    rw [List.flatMap_map]
    apply List.flatMap_congr
    intro instVnfc _
    exact noted_changeExtConnVnfc extVirtualLinks instVnfc
  have isExt : ∀ instVnfc : VnfcResourceInfo, ∀ cpInfo ∈ replacedCps extVirtualLinks instVnfc,
      ∃ key, cpInfo.vnfExtCpId = some key := by
    intro instVnfc cpInfo mem
    exact Option.isSome_iff_exists.mp (List.mem_filter.mp mem).2
  have waits : List.Forall₂ (Waits inst.info.extPorts)
      (vnfcs.zipIdx.flatMap fun instVnfc =>
        (replacedCps extVirtualLinks instVnfc.1).map fun cpInfo =>
          (portDef (uuids.of (.removed instVnfc.2)) cpInfo, cpInfo.vnfExtCpId))
      (vnfcs.flatMap fun instVnfc =>
        (replacedCps extVirtualLinks instVnfc).map (portStand inst.info)) := by
    rw [← zipIdx_flatMap vnfcs fun instVnfc =>
      (replacedCps extVirtualLinks instVnfc).map (portStand inst.info)]
    apply forall₂_flatMap
    rintro ⟨instVnfc, i⟩ _
    apply forall₂_map_map
    intro cpInfo mem
    obtain ⟨key, ext⟩ := isExt instVnfc cpInfo mem
    rw [Waits, show (portDef (uuids.of (.removed i)) cpInfo, cpInfo.vnfExtCpId).2 = _ from ext]
    exact ⟨rfl, rfl, rfl, portHandles_ext ext⟩
  have keys : (vnfcs.zipIdx.flatMap fun instVnfc =>
      (replacedCps extVirtualLinks instVnfc.1).map fun cpInfo =>
        (portDef (uuids.of (.removed instVnfc.2)) cpInfo, cpInfo.vnfExtCpId)).filterMap Prod.snd =
      (vnfcs.flatMap (replacedCps extVirtualLinks)).filterMap VnfcCpInfo.portKey := by
    rw [List.filterMap_flatMap, List.filterMap_flatMap, ← zipIdx_flatMap vnfcs]
    apply List.flatMap_congr
    rintro ⟨instVnfc, i⟩ _
    rw [List.filterMap_map]
    apply List.filterMap_congr
    intro cpInfo mem
    obtain ⟨key, ext⟩ := isExt instVnfc cpInfo mem
    show cpInfo.vnfExtCpId = cpInfo.portKey
    rw [VnfcCpInfo.portKey, ext]
    rfl
  have both := accurate_filled_iff waits (.nil : List.Forall₂ Carries [] [])
  rw [List.append_nil, List.append_nil, keys] at both
  rw [noted]
  exact both

/-! ## What heal adds -/

lemma Corresponds.of_bare {removed added : ResourceDefinition} :
    Corresponds uuids (bare removed) added ↔ Corresponds uuids removed added := by
  simp [Corresponds, OwnedBy]

lemma corresponds_part {type : ResourceType} {name : String} {resource : Option ResourceHandle}
    (i : Nat) :
    Corresponds uuids ⟨makeCombinationId name (uuids.of (.removed i)), type, name, resource⟩
      ⟨makeCombinationId name (uuids.of (.added i)), type, name, none⟩ :=
  ⟨rfl, rfl, i, .inl ⟨.inr rfl, .inr rfl⟩⟩

/-- The definitions of a removed VNFC and those of the VNFC that is added in its place. -/
lemma corresponds_blocks (instInfo : InstantiatedVnfInfo) (instVnfc : VnfcResourceInfo × Nat) :
    List.Forall₂ (Corresponds uuids) ((removedBlock instInfo instVnfc).reses uuids)
      ((addedBlock instInfo instVnfc).reses uuids) := by
  refine .cons ⟨rfl, rfl, instVnfc.2, .inl ⟨.inl rfl, .inl rfl⟩⟩ (List.rel_append ?_ ?_)
  · exact forall₂_map_map fun _ _ => corresponds_part instVnfc.2
  · exact forall₂_map_map fun _ _ => corresponds_part instVnfc.2

/-- What is added in the place of removed VNFCs. -/
lemma corresponds_removed {instInfo : InstantiatedVnfInfo} {instVnfcs : List VnfcResourceInfo}
    {rmReses addReses : List ResourceDefinition}
    (made : makeResDefForRemoveVnfcs uuids instInfo instVnfcs = .ok (rmReses, addReses)) :
    List.Forall₂ (Corresponds uuids) rmReses addReses := by
  have removed := madeOf_removed made
  obtain ⟨_, rfl⟩ := makeResDefForRemoveVnfcs_ok made
  have corresponds : List.Forall₂ (Corresponds uuids) (rmReses.map bare)
      ((instVnfcs.zipIdx.map (addedBlock instInfo)).flatMap (Block.reses uuids)) := by
    rw [removed, List.flatMap_map, List.flatMap_map]
    exact forall₂_flatMap fun instVnfc _ => corresponds_blocks instInfo instVnfc
  rw [List.forall₂_map_left_iff] at corresponds
  exact corresponds.imp fun _ _ => Corresponds.of_bare.mp

lemma corresponds_rmAddReses (instVnfc : VnfcResourceInfo)
    (storages : List VirtualStorageResourceInfo) (i : Nat) :
    List.Forall₂ (Corresponds uuids) (rmAddReses uuids instVnfc storages i).1
      (rmAddReses uuids instVnfc storages i).2 := by
  refine .cons ⟨rfl, rfl, i, .inl ⟨.inl rfl, .inl rfl⟩⟩ ?_
  show List.Forall₂ _ (storages.map _) (([] : List ResourceDefinition) ++ _)
  rw [List.nil_append, List.map_map]
  exact forall₂_map_map fun _ _ => corresponds_part i

lemma corresponds_vls (instInfo : InstantiatedVnfInfo) :
    List.Forall₂ (Corresponds uuids) (instInfo.vls.map (removedVl uuids))
      (instInfo.vls.map (addedVl uuids)) :=
  forall₂_map_map fun instVl _ => ⟨rfl, rfl, instVl.2, .inr ⟨rfl, rfl⟩⟩

/-- What a heal request adds corresponds to what it removes. -/
theorem corresponds_heal {instInfo : InstantiatedVnfInfo}
    {vnfcInstanceId : Option (List String)} {isAll : Bool}
    {rmReses addReses : List ResourceDefinition}
    (made : healReses uuids instInfo vnfcInstanceId isAll = .ok (rmReses, addReses)) :
    List.Forall₂ (Corresponds uuids) rmReses addReses := by
  cases vnfcInstanceId with
  | some vnfcInstanceId =>
    obtain ⟨vnfcInfo, _, made⟩ := bind_ok.mp made
    obtain ⟨each, turns, made⟩ := bind_ok.mp made
    cases made
    apply forall₂_flatMap
    intro pair mem
    obtain ⟨vnfc, _, turn⟩ := (mem_of_mapM_ok turns).mp mem
    obtain ⟨instVnfc, _, rfl⟩ := healVnfc_ok turn
    exact corresponds_rmAddReses _ _ _
  | none =>
    cases isAll with
    | true =>
      obtain ⟨⟨rm, add⟩, removed, made⟩ := bind_ok.mp made
      cases made
      exact List.rel_append (corresponds_removed removed) (corresponds_vls instInfo)
    | false =>
      cases made
      rw [List.flatMap_map, List.flatMap_map]
      exact forall₂_flatMap fun instVnfc _ => corresponds_rmAddReses _ _ _

/-! ## All requests -/

namespace RemovalRequest

/-- What a grant request says of removals: each removed definition carries the handle of the
resource that it stands for, no two stand for one resource, and what heal adds corresponds to what
it removes. -/
def Accounts (uuids : Uuids) (inst : RecordedInst) (grantReq : GrantRequest)
    (request : RemovalRequest) : Prop :=
  Accurate (grantReq.removeResources.getD []) (request.stands inst.info) ∧
    request.AddsAgain uuids grantReq

/-- Definitions that carry their handles need different resources only. -/
lemma accurate_carried_iff {reses : List ResourceDefinition} {stands : List Stand}
    (carry : List.Forall₂ Carries reses stands) :
    Accurate reses stands ↔ (([] : List VnfcCpInfo).filterMap VnfcCpInfo.portKey).Nodup ∧
      Separate stands :=
  (accurate_iff_of_carry carry).trans (and_iff_right List.nodup_nil).symm

/-- The removals of a heal request. -/
lemma accurate_heal_iff {vnfcInstanceId : Option (List String)} {isAll : Bool}
    {rmReses addReses : List ResourceDefinition}
    (made : healReses uuids inst.info vnfcInstanceId isAll = .ok (rmReses, addReses)) :
    Accurate rmReses ((heal vnfcInstanceId isAll).stands inst.info) ↔
      (heal vnfcInstanceId isAll).SharesNothing inst.info := by
  cases vnfcInstanceId with
  | some vnfcInstanceId => exact accurate_carried_iff (carries_sol002 made)
  | none =>
    cases isAll with
    | true =>
      obtain ⟨⟨rm, add⟩, removed, made⟩ := bind_ok.mp made
      cases made
      exact accurate_removed_iff removed (fun _ mem => mem) (carries_vls inst.info)
    | false =>
      cases made
      apply accurate_carried_iff
      show List.Forall₂ Carries _ (inst.info.vnfcs.map serverStand)
      rw [List.flatMap_map, ← zipIdx_map inst.info.vnfcs serverStand, List.map_eq_flatMap]
      exact forall₂_flatMap fun instVnfc _ => .cons (carries_server instVnfc.1 _) .nil

/-- A resource of a Heat stack. -/
structure HeatResource where
  physicalResourceId : String
  resourceName : String
  resourceType : String
  parentResource : Option String := none

/-- `_res_to_handle`. -/
def HeatResource.toHandle (vimKey : String) (res : HeatResource) : ResourceHandle where
  resourceId := res.physicalResourceId
  vimConnectionId := some vimKey
  vimLevelResourceType := some res.resourceType

/-- `storage_infos` of `_make_instantiated_vnf_info`. -/
def makeStorageInfos (vimKey : String) (storageReses : List HeatResource) :
    List VirtualStorageResourceInfo :=
  storageReses.map fun res => ⟨res.physicalResourceId, res.resourceName, res.toHandle vimKey⟩

/-- `vnfc_res_infos` of `_make_instantiated_vnf_info`: a VNFC has the storages that have the parent
resource of its server. -/
def makeVnfcResInfos (flavour : Flavour) (vimKey : String)
    (serverReses storageReses : List HeatResource) : List VnfcResourceInfo :=
  serverReses.map fun res =>
    { id := res.physicalResourceId
      vduId := res.resourceName
      computeResource := res.toHandle vimKey
      vnfcCpInfo := unlessEmpty ((flavour.getVduCps res.resourceName).map fun cp => { cpdId := cp })
      storageResourceIds := unlessEmpty
        ((storageReses.filter fun storage => storage.parentResource = res.parentResource).map
          (·.physicalResourceId)) }

/-- A flavour with two VDUs that require a storage each. -/
def twoVdus : Flavour where
  nodeTemplates :=
    [{ name := "VDU1", type := .vduCompute, requirements := [{ virtualStorage := some "Volume1" }] },
      { name := "VDU2", type := .vduCompute, requirements := [{ virtualStorage := some "Volume2" }] },
      { name := "Volume1", type := .virtualBlockStorage },
      { name := "Volume2", type := .virtualBlockStorage }]
  policies := []
  groups := []
  unique := by decide
  storagesNodes := by decide
  targetsVdus := by
    intro key
    cases key <;> decide

/-- What is recorded of servers and volumes that are resources of the stack itself. -/
def stackInfo (serverNames storageNames : List String) : InstantiatedVnfInfo where
  flavourId := "simple"
  vnfcResourceInfo := some <| makeVnfcResInfos twoVdus "vim1"
    (serverNames.map fun name => ⟨makeCombinationId "server" name, name, "OS::Nova::Server", none⟩)
    (storageNames.map fun name =>
      ⟨makeCombinationId "volume" name, name, "OS::Cinder::Volume", none⟩)
  virtualStorageResourceInfo := some <| makeStorageInfos "vim1"
    (storageNames.map fun name =>
      ⟨makeCombinationId "volume" name, name, "OS::Cinder::Volume", none⟩)

lemma not_mem_cps_stackInfo {serverNames storageNames : List String} {instVnfc : VnfcResourceInfo}
    {cpInfo : VnfcCpInfo} (recorded : instVnfc ∈ (stackInfo serverNames storageNames).vnfcs) :
    cpInfo ∉ instVnfc.cps := by
  intro mem
  obtain ⟨res, _, rfl⟩ := List.mem_map.mp recorded
  have mem : cpInfo ∈ ([] : List VnfcCpInfo) := mem
  cases mem

/-- An instance with servers and volumes of the stack itself. -/
def inOneStack (serverNames storageNames : List String) : RecordedInst where
  info := stackInfo serverNames storageNames
  extApart _ recorded _ mem := absurd mem (not_mem_cps_stackInfo recorded)
  linkApart _ recorded _ mem := absurd mem (not_mem_cps_stackInfo recorded)
  linked _ recorded _ mem := absurd mem (not_mem_cps_stackInfo recorded)

end RemovalRequest

end Tacker.Grant
