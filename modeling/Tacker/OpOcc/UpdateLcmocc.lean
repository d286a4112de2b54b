import Tacker.Basis.Listing
import Tacker.Objects.LcmOpOcc
import Mathlib.Data.Finset.Image
import Mathlib.Data.Finset.Union

/-!
# What an operation changed

`update_lcmocc` of `common/lcm_op_occ_utils.py`: after a successful operation the saved instance is
compared with the updated one and the differences are recorded in the occurrence. Reading an unset
attribute raises, which is `none` here.
-/

namespace Tacker.OpOcc

open Tacker.Objects Tacker.Basis

/-! ## Records -/

/-- The values of `changeType`. -/
inductive ChangeType where
  | added
  | removed
  | modified
  | linkPortAdded
  | linkPortRemoved
deriving DecidableEq

/-- `AffectedVnfcV2`. -/
structure AffectedVnfc where
  id : String
  vduId : String
  changeType : ChangeType
  computeResource : ResourceHandle
  zoneId : Option String := none
  metadata : Option KeyValuePairs := none
  affectedVnfcCpIds : Option (List String) := none
  addedStorageResourceIds : Option (List String) := none
  removedStorageResourceIds : Option (List String) := none
deriving DecidableEq

/-- `AffectedVirtualLinkV2`. -/
structure AffectedVirtualLink where
  id : String
  vnfVirtualLinkDescId : String
  changeType : ChangeType
  networkResource : ResourceHandle
  vnfLinkPortIds : Option (List String) := none
deriving DecidableEq

/-- `AffectedExtLinkPortV2`. -/
structure AffectedExtLinkPort where
  id : String
  changeType : ChangeType
  extCpInstanceId : String
  resourceHandle : ResourceHandle
deriving DecidableEq

/-- `AffectedVirtualStorageV2`. -/
structure AffectedVirtualStorage where
  id : String
  virtualStorageDescId : String
  changeType : ChangeType
  storageResource : ResourceHandle
deriving DecidableEq

/-- `VnfLcmOpOccV2_ResourceChanges`. A list is set only if it has an element. -/
structure ResourceChanges where
  affectedVnfcs : Option (List AffectedVnfc) := none
  affectedVirtualLinks : Option (List AffectedVirtualLink) := none
  affectedExtLinkPorts : Option (List AffectedExtLinkPort) := none
  affectedVirtualStorages : Option (List AffectedVirtualStorage) := none
deriving DecidableEq

/-- `VnfcInfoV2`, which is also `VnfcInfoModificationsV2`. -/
structure VnfcInfo where
  id : String
  vnfcConfigurableProperties : Option KeyValuePairs := none
deriving DecidableEq

/-- `VnfInfoModificationsV2`; the first five attributes are also those of
`ModificationsTriggeredByVnfPkgChangeV2`. -/
structure VnfInfoModifications where
  vnfdId : Option String := none
  vnfProvider : Option String := none
  vnfProductName : Option String := none
  vnfSoftwareVersion : Option String := none
  vnfdVersion : Option String := none
  vnfInstanceName : Option String := none
  vnfInstanceDescription : Option String := none
  vnfConfigurableProperties : Option KeyValuePairs := none
  metadata : Option KeyValuePairs := none
  extensions : Option KeyValuePairs := none
  vimConnectionInfo : Option KeyValuePairs := none
  vnfcInfoModifications : Option (List VnfcInfo) := none
deriving DecidableEq

/-- `VnfInstanceV2` with its descriptive attributes. `vnfcInfo` is the attribute of
`instantiatedVnfInfo`. -/
structure DescribedInstance extends VnfInstance where
  vnfProvider : String
  vnfProductName : String
  vnfSoftwareVersion : String
  vnfdVersion : String
  vnfInstanceName : Option String := none
  vnfInstanceDescription : Option String := none
  vnfConfigurableProperties : Option KeyValuePairs := none
  metadata : Option KeyValuePairs := none
  extensions : Option KeyValuePairs := none
  vimConnectionInfo : Option KeyValuePairs := none
  vnfcInfo : Option (List VnfcInfo) := none
deriving DecidableEq

/-- `VnfLcmOpOccV2` with the attributes that record what was changed. -/
structure RecordedOpOcc extends LcmOpOcc where
  resourceChanges : Option ResourceChanges := none
  changedInfo : Option VnfInfoModifications := none
  changedExtConnectivity : Option (List ExtVirtualLinkInfo) := none
  modificationsTriggeredByVnfPkgChange : Option VnfInfoModifications := none
deriving DecidableEq

/-! ## Sets -/

/-- The order in which a set of strings is iterated; nothing is known of it. -/
structure SetOrder where
  iter : Finset String → List String
  exact (s : Finset String) : Exactly (iter s) (· ∈ s)

/-- The identifiers in a list that may be unset. -/
def idSet {α : Type} (ident : α → String) (objs : Option (List α)) : Finset String :=
  ((objs.getD []).map ident).toFinset

/-- What `_calc_diff` returns. -/
structure Diff where
  removed : Finset String
  added : Finset String
  common : Finset String

/-- `_calc_diff`. -/
def calcDiff {α : Type} (ident : α → String) (saved objs : Option (List α)) : Diff where
  removed := idSet ident saved \ idSet ident objs
  added := idSet ident objs \ idSet ident saved
  common := idSet ident saved ∩ idSet ident objs

/-- An attribute that is set only if there is something to put into it. -/
def setIfAny {α : Type} (xs : List α) : Option (List α) :=
  if xs.isEmpty then none else some xs

/-- The elements of a list attribute whose identifier is in the set. -/
def withIds {α : Type} (ident : α → String) (objs : Option (List α)) (ids : Finset String) :
    List α :=
  (objs.getD []).filter (fun obj => decide (ident obj ∈ ids))

/-! ## VNFCs and storages -/

/-- `_make_affected_strg`. -/
def makeAffectedStrg (changeType : ChangeType) (strg : VirtualStorageResourceInfo) :
    AffectedVirtualStorage where
  id := strg.id
  virtualStorageDescId := strg.virtualStorageDescId
  changeType := changeType
  storageResource := strg.storageResource

/-- `_make_affected_vnfc`. -/
def makeAffectedVnfc (changeType : ChangeType) (strgs : Finset String) (vnfc : VnfcResourceInfo) :
    AffectedVnfc :=
  let strIds := (vnfc.storageResourceIds.getD []).filter (fun strId => decide (strId ∈ strgs))
  { id := vnfc.id
    vduId := vnfc.vduId
    changeType := changeType
    computeResource := vnfc.computeResource
    zoneId := vnfc.zoneId
    metadata := vnfc.metadata
    affectedVnfcCpIds := vnfc.vnfcCpInfo.map (·.map (·.id))
    addedStorageResourceIds := if changeType = .added then setIfAny strIds else none
    removedStorageResourceIds := if changeType = .added then none else setIfAny strIds }

/-- `_make_affected_vnfc_modified`. -/
def makeAffectedVnfcModified (order : SetOrder) (vnfc vnfcSaved : VnfcResourceInfo) :
    Option AffectedVnfc := do
  let metadata ← vnfc.metadata
  let affected : AffectedVnfc :=
    { id := vnfc.id
      vduId := vnfc.vduId
      changeType := .modified
      computeResource := vnfc.computeResource
      metadata := metadata
      affectedVnfcCpIds := vnfc.vnfcCpInfo.map (·.map (·.id)) }
  match vnfc.storageResourceIds with
  | none => some affected
  | some ids => do
    let idsSaved ← vnfcSaved.storageResourceIds
    some { affected with
      addedStorageResourceIds := setIfAny (order.iter (ids.toFinset \ idsSaved.toFinset))
      removedStorageResourceIds := setIfAny (order.iter (idsSaved.toFinset \ ids.toFinset)) }

/-- `_get_vnfc` and `_get_ext_vl`: the first with the identifier. -/
def getById {α : Type} (ident : α → String) (objs : Option (List α)) (objId : String) : Option α :=
  (objs.getD []).find? (fun obj => ident obj = objId)

/-- The report of a VNFC that is there before and after, if its metadata changed. -/
def compareVnfc (order : SetOrder) (saved info : InstantiatedVnfInfo) (objId : String) :
    Option (List AffectedVnfc) := do
  let vnfc ← getById (·.id) info.vnfcResourceInfo objId
  let vnfcSaved ← getById (·.id) saved.vnfcResourceInfo objId
  let metadata ← vnfc.metadata
  let metadataSaved ← vnfcSaved.metadata
  if metadata ≠ metadataSaved then do
    let affected ← makeAffectedVnfcModified order vnfc vnfcSaved
    some [affected]
  else
    some []

/-- `affected_vnfcs`. -/
def affectedVnfcs (order : SetOrder) (op : LcmOperationType) (saved info : InstantiatedVnfInfo) :
    Option (List AffectedVnfc) := do
  let strgs := calcDiff (·.id) saved.virtualStorageResourceInfo info.virtualStorageResourceInfo
  let vnfcs := calcDiff (·.id) saved.vnfcResourceInfo info.vnfcResourceInfo
  let removed := (withIds (·.id) saved.vnfcResourceInfo vnfcs.removed).map
    (makeAffectedVnfc .removed strgs.removed)
  let added := (withIds (·.id) info.vnfcResourceInfo vnfcs.added).map
    (makeAffectedVnfc .added strgs.added)
  let modified ←
    if op = .changeVnfpkg then (order.iter vnfcs.common).mapM (compareVnfc order saved info)
    else some []
  some (removed ++ added ++ modified.flatten)

/-- `affected_strgs`. -/
def affectedStrgs (saved info : InstantiatedVnfInfo) : List AffectedVirtualStorage :=
  let strgs := calcDiff (·.id) saved.virtualStorageResourceInfo info.virtualStorageResourceInfo
  (withIds (·.id) saved.virtualStorageResourceInfo strgs.removed).map (makeAffectedStrg .removed) ++
    (withIds (·.id) info.virtualStorageResourceInfo strgs.added).map (makeAffectedStrg .added)

/-! ## Virtual links -/

/-- `_make_affected_vl`. -/
def makeAffectedVl (changeType : ChangeType) (vl : VnfVirtualLinkResourceInfo) :
    AffectedVirtualLink where
  id := vl.id
  vnfVirtualLinkDescId := vl.vnfVirtualLinkDescId
  changeType := changeType
  networkResource := vl.networkResource
  vnfLinkPortIds := vl.vnfLinkPorts.map (·.map (·.id))

/-- One turn of the search of `_make_affected_vls_link_port_change`, which does not stop at the
link it looks for. -/
def searchVl (vlId : String) (found : Option VnfVirtualLinkResourceInfo × Finset String)
    (vl : VnfVirtualLinkResourceInfo) : Option VnfVirtualLinkResourceInfo × Finset String :=
  if vl.id = vlId then
    (some vl, if vl.vnfLinkPorts.isSome then idSet (·.id) vl.vnfLinkPorts else found.2)
  else
    found

/-- The link found, and its ports. -/
def vlAndPorts (vlId : String) (vls : Option (List VnfVirtualLinkResourceInfo)) :
    Option VnfVirtualLinkResourceInfo × Finset String :=
  (vls.getD []).foldl (searchVl vlId) (none, ∅)

/-- The report of the ports a link got or lost; there is none without ports. -/
def reportPorts (order : SetOrder) (changeType : ChangeType)
    (vl : Option VnfVirtualLinkResourceInfo) (ports : Finset String) :
    Option (List AffectedVirtualLink) :=
  if ports = ∅ then
    some []
  else do
    let vl ← vl
    some [{
      id := vl.id
      vnfVirtualLinkDescId := vl.vnfVirtualLinkDescId
      changeType := changeType
      networkResource := vl.networkResource
      vnfLinkPortIds := order.iter ports }]

/-- One turn of the loop of `_make_affected_vls_link_port_change`. -/
def compareVl (order : SetOrder) (vlsSaved vls : Option (List VnfVirtualLinkResourceInfo))
    (vlId : String) : Option (List AffectedVirtualLink) := do
  let (oldVl, oldPorts) := vlAndPorts vlId vlsSaved
  let (newVl, newPorts) := vlAndPorts vlId vls
  let added ← reportPorts order .linkPortAdded newVl (newPorts \ oldPorts)
  let removed ← reportPorts order .linkPortRemoved oldVl (oldPorts \ newPorts)
  some (added ++ removed)

/-- `_make_affected_vls_link_port_change`. -/
def makeAffectedVlsLinkPortChange (order : SetOrder)
    (vlsSaved vls : Option (List VnfVirtualLinkResourceInfo)) (commonVls : Finset String) :
    Option (List AffectedVirtualLink) := do
  let affected ← (order.iter commonVls).mapM (compareVl order vlsSaved vls)
  some affected.flatten

/-- The part of `affected_vls` about one attribute, with the change types for a link that is there
on one side only. -/
def affectedVlsOf (order : SetOrder) (removedType addedType : ChangeType)
    (vlsSaved vls : Option (List VnfVirtualLinkResourceInfo)) :
    Option (List AffectedVirtualLink) := do
  let diff := calcDiff (·.id) vlsSaved vls
  let removed := (withIds (·.id) vlsSaved diff.removed).map (makeAffectedVl removedType)
  let added := (withIds (·.id) vls diff.added).map (makeAffectedVl addedType)
  let changed ← makeAffectedVlsLinkPortChange order vlsSaved vls diff.common
  some (removed ++ added ++ changed)

/-- The internal part of `affected_vls`. -/
def affectedInternalVls (order : SetOrder) (saved info : InstantiatedVnfInfo) :
    Option (List AffectedVirtualLink) :=
  affectedVlsOf order .removed .added saved.vnfVirtualLinkResourceInfo
    info.vnfVirtualLinkResourceInfo

/-- The externally managed part of `affected_vls`. -/
def affectedManagedVls (order : SetOrder) (saved info : InstantiatedVnfInfo) :
    Option (List AffectedVirtualLink) :=
  affectedVlsOf order .linkPortRemoved .linkPortAdded saved.extManagedVirtualLinkInfo
    info.extManagedVirtualLinkInfo

/-! ## External link ports -/

/-- The ports of all external virtual links. -/
def extPorts (vls : Option (List ExtVirtualLinkInfo)) : List ExtLinkPortInfo :=
  (vls.getD []).flatMap (fun vl => vl.extLinkPorts.getD [])

/-- The reports of the ports whose identifier is in the set. -/
def reportExtPorts (changeType : ChangeType) (vls : Option (List ExtVirtualLinkInfo))
    (ports : Finset String) : Option (List AffectedExtLinkPort) :=
  ((extPorts vls).filter (fun port => decide (port.id ∈ ports))).mapM fun port => do
    let cpInstanceId ← port.cpInstanceId
    some {
      id := port.id
      changeType := changeType
      extCpInstanceId := cpInstanceId
      resourceHandle := port.resourceHandle }

/-- `_make_affected_ext_link_ports`. -/
def makeAffectedExtLinkPorts (saved info : InstantiatedVnfInfo) :
    Option (List AffectedExtLinkPort) := do
  let diff := calcDiff (·.id) (some (extPorts saved.extVirtualLinkInfo))
    (some (extPorts info.extVirtualLinkInfo))
  let added ← reportExtPorts .added info.extVirtualLinkInfo diff.added
  let removed ← reportExtPorts .removed saved.extVirtualLinkInfo diff.removed
  some (added ++ removed)

/-! ## Descriptive attributes -/

/-- `_check_modification`, with the attribute set if it holds. -/
def checkModification {α : Type} [DecidableEq α] (saved value : Option α) : Option α :=
  if value = saved then none else value

/-- `_check_modification_inst`. -/
def checkModificationInst (obj : VnfInfoModifications) (instSaved inst : DescribedInstance) :
    VnfInfoModifications :=
  let changed (attr : DescribedInstance → String) (old : Option String) : Option String :=
    if attr instSaved ≠ attr inst then some (attr inst) else old
  { obj with
    vnfdId := some inst.vnfdId
    vnfProvider := changed (·.vnfProvider) obj.vnfProvider
    vnfProductName := changed (·.vnfProductName) obj.vnfProductName
    vnfSoftwareVersion := changed (·.vnfSoftwareVersion) obj.vnfSoftwareVersion
    vnfdVersion := changed (·.vnfdVersion) obj.vnfdVersion }

/-- The `vnfcConfigurableProperties` of a VNFC, the empty dictionary if unset. -/
def configurableProperties (vnfc : Option VnfcInfo) : KeyValuePairs :=
  (vnfc.bind (·.vnfcConfigurableProperties)).getD ∅

/-- `vnfc_info_mod`. -/
def vnfcInfoMod (instSaved inst : DescribedInstance) : List VnfcInfo :=
  (inst.vnfcInfo.getD []).filterMap fun vnfc =>
    let propSaved := configurableProperties (getById (·.id) instSaved.vnfcInfo vnfc.id)
    let prop := configurableProperties (some vnfc)
    if prop ≠ propSaved then some { id := vnfc.id, vnfcConfigurableProperties := prop } else none

/-- `_change_vnf_info`. -/
def changeVnfInfo (instSaved inst : DescribedInstance) : VnfInfoModifications :=
  let modify : VnfInfoModifications :=
    if instSaved.vnfdId ≠ inst.vnfdId then checkModificationInst {} instSaved inst else {}
  { modify with
    vnfInstanceName := checkModification instSaved.vnfInstanceName inst.vnfInstanceName
    vnfInstanceDescription :=
      checkModification instSaved.vnfInstanceDescription inst.vnfInstanceDescription
    vnfConfigurableProperties :=
      checkModification instSaved.vnfConfigurableProperties inst.vnfConfigurableProperties
    metadata := checkModification instSaved.metadata inst.metadata
    extensions := checkModification instSaved.extensions inst.extensions
    vimConnectionInfo := checkModification instSaved.vimConnectionInfo inst.vimConnectionInfo
    vnfcInfoModifications := setIfAny (vnfcInfoMod instSaved inst) }

/-- `_create_modifications_triggered_by_vnfpkg_change`. -/
def modificationsTriggeredByVnfpkgChange (instSaved inst : DescribedInstance) :
    VnfInfoModifications :=
  { checkModificationInst {} instSaved inst with
    vnfConfigurableProperties :=
      checkModification instSaved.vnfConfigurableProperties inst.vnfConfigurableProperties
    metadata := checkModification instSaved.metadata inst.metadata
    extensions := checkModification instSaved.extensions inst.extensions }

/-! ## External connectivity -/

/-- `currentVnfExtCpData` as `to_dict` gives it, sorted by `cpdId`. -/
def cpData (vl : ExtVirtualLinkInfo) :
    List (String × Finmap (fun _ : String => VnfExtCpConfig)) :=
  let sorted := vl.currentVnfExtCpData.mergeSort (fun x y => decide (x.cpdId ≤ y.cpdId))
  sorted.map (fun data => (data.cpdId, (data.cpConfig.map (fun c => ⟨c.1, c.2⟩)).toFinmap))

/-- The ports of an external virtual link, with the resource each is on. -/
def portResources (vl : ExtVirtualLinkInfo) : Finset (String × String) :=
  ((vl.extLinkPorts.getD []).map (fun port => (port.id, port.resourceHandle.resourceId))).toFinset

/-- An external virtual link that is there before and after, if its connection points or ports
changed. -/
def compareExtVl (saved info : InstantiatedVnfInfo) (extVlId : String) :
    Option (List ExtVirtualLinkInfo) := do
  let extVl ← getById (·.id) info.extVirtualLinkInfo extVlId
  let extVlSaved ← getById (·.id) saved.extVirtualLinkInfo extVlId
  some (if cpData extVl ≠ cpData extVlSaved ∨ portResources extVl ≠ portResources extVlSaved then
    [extVl] else [])

/-- `chg_ext_conn`; it is made after CHANGE_EXT_CONN only. -/
def chgExtConn (order : SetOrder) (op : LcmOperationType) (saved info : InstantiatedVnfInfo) :
    Option (List ExtVirtualLinkInfo) :=
  if op = .changeExtConn then do
    let diff := calcDiff (·.id) saved.extVirtualLinkInfo info.extVirtualLinkInfo
    let added ← (order.iter diff.added).mapM (getById (·.id) info.extVirtualLinkInfo)
    let changed ← (order.iter diff.common).mapM (compareExtVl saved info)
    some (added ++ changed.flatten)
  else
    some []

/-! ## The whole record -/

/-- `VnfInstanceV2_InstantiatedVnfInfo()`, the dummy for an instance that was not instantiated
before. -/
def InstantiatedVnfInfo.dummy : InstantiatedVnfInfo where
  flavourId := ""
  vnfState := .stopped

/-- The four lists of `resourceChanges`, before it is decided which are set. -/
structure Affected where
  vnfcs : List AffectedVnfc
  internalVls : List AffectedVirtualLink
  managedVls : List AffectedVirtualLink
  extLinkPorts : List AffectedExtLinkPort
  strgs : List AffectedVirtualStorage

/-- All differences between the saved and the updated information. -/
def affected (order : SetOrder) (op : LcmOperationType) (saved info : InstantiatedVnfInfo) :
    Option Affected := do
  let vnfcs ← affectedVnfcs order op saved info
  let internalVls ← affectedInternalVls order saved info
  let managedVls ← affectedManagedVls order saved info
  let extLinkPorts ← makeAffectedExtLinkPorts saved info
  some {
    vnfcs := vnfcs
    internalVls := internalVls
    managedVls := managedVls
    extLinkPorts := extLinkPorts
    strgs := affectedStrgs saved info }

/-- `change_info`. -/
def Affected.changeInfo (found : Affected) : ResourceChanges where
  affectedVnfcs := setIfAny found.vnfcs
  affectedVirtualLinks := setIfAny (found.internalVls ++ found.managedVls)
  affectedVirtualStorages := setIfAny found.strgs
  affectedExtLinkPorts := setIfAny found.extLinkPorts

/-- What the assignments to `lcmocc` leave. -/
def RecordedOpOcc.record (lcmocc : RecordedOpOcc) (instSaved inst : DescribedInstance)
    (found : Affected) (extConn : List ExtVirtualLinkInfo) : RecordedOpOcc :=
  { lcmocc with
    modificationsTriggeredByVnfPkgChange :=
      if lcmocc.operation = .changeVnfpkg then
        some (modificationsTriggeredByVnfpkgChange instSaved inst)
      else lcmocc.modificationsTriggeredByVnfPkgChange
    resourceChanges :=
      if found.changeInfo = {} then lcmocc.resourceChanges else some found.changeInfo
    changedExtConnectivity := setIfAny extConn <|> lcmocc.changedExtConnectivity }

/-- `update_lcmocc`. -/
def updateLcmocc (order : SetOrder) (lcmocc : RecordedOpOcc) (instSaved inst : DescribedInstance) :
    Option RecordedOpOcc :=
  if lcmocc.operation = .modifyInfo then
    some { lcmocc with changedInfo := some (changeVnfInfo instSaved inst) }
  else do
    let saved := instSaved.instantiatedVnfInfo.getD InstantiatedVnfInfo.dummy
    let info ← inst.instantiatedVnfInfo
    let found ← affected order lcmocc.operation saved info
    let extConn ← chgExtConn order lcmocc.operation saved info
    some (lcmocc.record instSaved inst found extConn)

end Tacker.OpOcc
