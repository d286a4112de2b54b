import Tacker.Basis.Merged
import Tacker.Basis.Table
import Tacker.Fields.Kinds

/-!
# Modifying the information of an instance

`modify_info_process` of `conductor/vnflcm_driver_v2.py` and `_change_vnf_info` of
`common/lcm_op_occ_utils.py`, for the attributes that a `MODIFY_INFO` request speaks of. An exception
is `none`. The saved instance is a clone that shares nothing with the one that is modified.
-/

namespace Tacker.Modify

open Tacker.Basis Tacker.Basis.Json
open Tacker.Fields (Atom Json str)

/-! ## Values -/

/-- A scalar as Python compares it: `True` is 1 and `1.0` is 1. -/
def key : Atom → String ⊕ Rat
  | .str value => .inl value
  | .bool value => .inr (if value then 1 else 0)
  | .int value => .inr value
  | .float value => .inr value

/-- `==` of scalars in Python. -/
def pyEq (a b : Atom) : Bool :=
  decide (key a = key b)

/-- `KeyValuePairs`: a dictionary. -/
structure Pairs where
  doc : Json
  dict : doc.isDict = true

/-- `{}`. -/
def Pairs.empty : Pairs := ⟨.empty, rfl⟩

/-- `json_merge_patch(base, patch)`. -/
def Pairs.merge (base patch : Pairs) : Pairs where
  doc := jsonMergePatch base.doc patch.doc
  dict := by rw [isDict_jsonMergePatch, patch.dict]

/-! ## VIM connections -/

/-- `VimConnectionInfo`. -/
structure VimConnectionInfo where
  vimId : Option String := none
  vimType : Option String := none
  interfaceInfo : Option Pairs := none
  accessInfo : Option Pairs := none
  extra : Option Pairs := none

/-- The names of its fields. -/
def fieldNames : List String := ["vimId", "vimType", "interfaceInfo", "accessInfo", "extra"]

lemma nodup_fieldNames : fieldNames.Nodup := by decide

namespace VimConnectionInfo

/-- The primitive of a field that is set. -/
def member (info : VimConnectionInfo) (name : String) : Option Json :=
  if name = "vimId" then info.vimId.map str
  else if name = "vimType" then info.vimType.map str
  else if name = "interfaceInfo" then info.interfaceInfo.map Pairs.doc
  else if name = "accessInfo" then info.accessInfo.map Pairs.doc
  else if name = "extra" then info.extra.map Pairs.doc
  else none

/-- `to_dict`. -/
def toDict (info : VimConnectionInfo) : Json :=
  .obj (fieldNames.filter fun name => (info.member name).isSome)
    (nodup_fieldNames.filter _) fun name => (info.member name).getD .null

/-- A text field of a dictionary; one that is not there or `None` is not set. -/
def readText : Option Json → Option (Option String)
  | none => some none
  | some .null => some none
  | some (.atom (.str value)) => some (some value)
  | _ => none

/-- A field with a dictionary. -/
def readPairs : Option Json → Option (Option Pairs)
  | none => some none
  | some .null => some none
  | some (.obj keys unique value) => some (some ⟨.obj keys unique value, rfl⟩)
  | _ => none

/-- `from_dict`. -/
def fromDict (doc : Json) : Option VimConnectionInfo := do
  let vimId ← readText (doc.get? "vimId")
  let vimType ← readText (doc.get? "vimType")
  let interfaceInfo ← readPairs (doc.get? "interfaceInfo")
  let accessInfo ← readPairs (doc.get? "accessInfo")
  let extra ← readPairs (doc.get? "extra")
  return ⟨vimId, vimType, interfaceInfo, accessInfo, extra⟩

end VimConnectionInfo

/-- `vimConnectionInfo`: the connections by their names. -/
structure VimInfos where
  keys : List String
  unique : keys.Nodup
  value : String → VimConnectionInfo

/-- `to_dict()['vimConnectionInfo']`. -/
def VimInfos.toDict (infos : VimInfos) : Json :=
  .obj infos.keys infos.unique fun name => (infos.value name).toDict

/-- `{key: objects.VimConnectionInfo.from_dict(value) for key, value in merge.items()}`. -/
def VimInfos.fromDict : Json → Option VimInfos
  | .obj keys unique value =>
    if keys.all fun name => (VimConnectionInfo.fromDict (value name)).isSome then
      some ⟨keys, unique, fun name => (VimConnectionInfo.fromDict (value name)).getD {}⟩
    else none
  | _ => none

/-! ## Instances and requests -/

/-- `VnfcInfoV2`. -/
structure VnfcInfo where
  id : String
  vnfcConfigurableProperties : Option Pairs := none

/-- `VnfInstanceV2`. `vnfcInfo` is the attribute of `instantiatedVnfInfo`. -/
structure VnfInstance where
  vnfInstanceName : Option String := none
  vnfInstanceDescription : Option String := none
  vnfdId : String
  vnfProvider : String
  vnfProductName : String
  vnfSoftwareVersion : String
  vnfdVersion : String
  vnfConfigurableProperties : Option Pairs := none
  metadata : Option Pairs := none
  extensions : Option Pairs := none
  vimConnectionInfo : Option VimInfos := none
  vnfcInfo : Option (Table VnfcInfo.id) := none

/-- `VnfcInfoModificationsV2`. -/
structure VnfcInfoModifications where
  id : String
  vnfcConfigurableProperties : Pairs

/-- `VnfInfoModificationRequest`. -/
structure VnfInfoModificationRequest where
  vnfInstanceName : Option String := none
  vnfInstanceDescription : Option String := none
  vnfdId : Option String := none
  vnfConfigurableProperties : Option Pairs := none
  metadata : Option Pairs := none
  extensions : Option Pairs := none
  vimConnectionInfo : Option VimInfos := none
  vnfcInfoModifications : Option (List VnfcInfoModifications) := none

/-- `VnfInfoModificationsV2`. -/
structure VnfInfoModifications where
  vnfInstanceName : Option String := none
  vnfInstanceDescription : Option String := none
  vnfConfigurableProperties : Option Pairs := none
  metadata : Option Pairs := none
  extensions : Option Pairs := none
  vimConnectionInfo : Option VimInfos := none
  vnfdId : Option String := none
  vnfProvider : Option String := none
  vnfProductName : Option String := none
  vnfSoftwareVersion : Option String := none
  vnfdVersion : Option String := none
  vnfcInfoModifications : Option (List VnfcInfoModifications) := none

/-- What the NFVO tells of a VNFD: the information of its package, and `get_vnfd_properties`, which
finds no values at the moment. -/
structure NewVnfd where
  vnfProvider : String
  vnfProductName : String
  vnfSoftwareVersion : String
  vnfdVersion : String
  vnfConfigurableProperties : Pairs := .empty
  metadata : Pairs := .empty
  extensions : Pairs := .empty

/-! ## Modifying -/

/-- `_modify_from_vnfd_prop`. -/
def modifyFromVnfdProp (attr : Option Pairs) (prop : Pairs) : Option Pairs :=
  if prop.doc.keys = [] then attr else some ((attr.getD .empty).merge prop)

/-- `_modify_from_req`. -/
def modifyFromReq (attr req : Option Pairs) : Option Pairs :=
  match req with
  | none => attr
  | some patch => some ((attr.getD .empty).merge patch)

/-- `_modify_inst_vnfd_id`. -/
def modifyInstVnfdId (inst : VnfInstance) (vnfd : NewVnfd) : VnfInstance :=
  { inst with
    vnfProvider := vnfd.vnfProvider
    vnfProductName := vnfd.vnfProductName
    vnfSoftwareVersion := vnfd.vnfSoftwareVersion
    vnfdVersion := vnfd.vnfdVersion
    vnfConfigurableProperties :=
      modifyFromVnfdProp inst.vnfConfigurableProperties vnfd.vnfConfigurableProperties
    metadata := modifyFromVnfdProp inst.metadata vnfd.metadata
    extensions := modifyFromVnfdProp inst.extensions vnfd.extensions }

/-- The instance with the VNFD of the request, if that is another one. -/
def modifyVnfd (getVnfd : String → Option NewVnfd) (req : VnfInfoModificationRequest)
    (inst : VnfInstance) : Option VnfInstance :=
  match req.vnfdId with
  | none => some inst
  | some vnfdId =>
    if vnfdId = inst.vnfdId then some inst
    else (getVnfd vnfdId).map (modifyInstVnfdId { inst with vnfdId := vnfdId })

/-- A string of the mapping's schema. -/
def identifierInVnf : Json → Option String
  | .atom (.str value) => if 1 ≤ value.length ∧ value.length ≤ 255 then some value else none
  | _ => none

/-- The identifiers of an array. -/
def identifiers : Json → Option (List String)
  | .arr size item => (List.finRange size).mapM fun i => identifierInVnf (item i)
  | _ => none

/-- `check_metadata_format`. -/
def checkMetadataFormat (metadata : Json) : Bool :=
  match metadata.get? "VDU_VNFc_mapping" with
  | none => true
  | some mapping =>
    mapping.isDict && (mapping.keys.mapM fun vdu => (mapping.get? vdu).bind identifiers).any
      fun vnfcInfoIds => decide vnfcInfoIds.flatten.Nodup

/-- `_merge_vim_connection_info`. -/
def mergeVimConnectionInfo (inst req : Option VimInfos) : Option VimInfos :=
  match inst, req with
  | some instViminfo, some reqViminfo =>
    VimInfos.fromDict (jsonMergePatch instViminfo.toDict reqViminfo.toDict)
  | _, _ => none

/-- A turn of the loop over `vnfcInfoModifications`. -/
def modifyVnfc (vnfcInfo : Table VnfcInfo.id) (vnfcMod : VnfcInfoModifications) :
    Table VnfcInfo.id :=
  match vnfcInfo.get vnfcMod.id with
  | none => vnfcInfo
  | some info =>
    vnfcInfo.put { info with
      vnfcConfigurableProperties := some ((info.vnfcConfigurableProperties.getD .empty).merge
        vnfcMod.vnfcConfigurableProperties) }

/-- The loop over `vnfcInfoModifications`. -/
def modifyVnfcs (vnfcInfo : Option (Table VnfcInfo.id)) (vnfcMods : List VnfcInfoModifications) :
    Option (Option (Table VnfcInfo.id)) :=
  match vnfcMods, vnfcInfo with
  | [], _ => some vnfcInfo
  | _ :: _, none => none
  | _ :: _, some infos => some (some (vnfcMods.foldl modifyVnfc infos))

/-- The name and the description of the request. -/
def modifyNames (req : VnfInfoModificationRequest) (inst : VnfInstance) : VnfInstance :=
  { inst with
    vnfInstanceName := req.vnfInstanceName.orElse fun _ => inst.vnfInstanceName
    vnfInstanceDescription :=
      req.vnfInstanceDescription.orElse fun _ => inst.vnfInstanceDescription }

/-- The loop over the three dictionaries. -/
def modifyAttrs (req : VnfInfoModificationRequest) (inst : VnfInstance) : VnfInstance :=
  { inst with
    vnfConfigurableProperties :=
      modifyFromReq inst.vnfConfigurableProperties req.vnfConfigurableProperties
    metadata := modifyFromReq inst.metadata req.metadata
    extensions := modifyFromReq inst.extensions req.extensions }

/-- The connections, which are merged if the request has any. -/
def modifyVimConnectionInfo (inst req : Option VimInfos) : Option (Option VimInfos) :=
  match req with
  | none => some inst
  | some _ => (mergeVimConnectionInfo inst req).map some

/-- `modify_info_process`. -/
def modifyInfoProcess (getVnfd : String → Option NewVnfd) (req : VnfInfoModificationRequest)
    (inst : VnfInstance) : Option VnfInstance := do
  let inst ← modifyVnfd getVnfd req (modifyNames req inst)
  let inst := modifyAttrs req inst
  if inst.metadata.all fun metadata => checkMetadataFormat metadata.doc then do
    let vimConnectionInfo ← modifyVimConnectionInfo inst.vimConnectionInfo req.vimConnectionInfo
    let vnfcInfo ← modifyVnfcs inst.vnfcInfo (req.vnfcInfoModifications.getD [])
    some { inst with vimConnectionInfo := vimConnectionInfo, vnfcInfo := vnfcInfo }
  else none

/-! ## Recording -/

/-- `_check_modification`: the attribute, if it is another one than before. -/
def checkModification {β : Type} (eq : β → β → Bool) (saved attr : Option β) : Option β :=
  match attr with
  | none => none
  | some value =>
    match saved with
    | none => some value
    | some valueSaved => if eq valueSaved value then none else some value

/-- `==` of two dictionaries. -/
def eqPairs (saved attr : Pairs) : Bool :=
  eqBy pyEq saved.doc attr.doc

/-- `==` of two `vimConnectionInfo`. -/
def eqVimInfos (saved attr : VimInfos) : Bool :=
  eqBy pyEq saved.toDict attr.toDict

/-- The changes of the VNFCs: properties that are not set are read as empty. -/
def changedVnfcs (vnfcInfoSaved vnfcInfo : Option (Table VnfcInfo.id)) :
    List VnfcInfoModifications :=
  ((vnfcInfo.map Table.rows).getD []).filterMap fun vnfc =>
    let propSaved := ((vnfcInfoSaved.bind fun saved => saved.get vnfc.id).bind
      VnfcInfo.vnfcConfigurableProperties).getD .empty
    let prop := vnfc.vnfcConfigurableProperties.getD .empty
    if eqPairs prop propSaved then none else some ⟨vnfc.id, prop⟩

/-- `_change_vnf_info`: `changedInfo` of the occurrence. -/
def changeVnfInfo (saved inst : VnfInstance) : VnfInfoModifications :=
  let other (attr : VnfInstance → String) : Option String :=
    if saved.vnfdId ≠ inst.vnfdId ∧ attr saved ≠ attr inst then some (attr inst) else none
  { vnfdId := if saved.vnfdId ≠ inst.vnfdId then some inst.vnfdId else none
    vnfProvider := other VnfInstance.vnfProvider
    vnfProductName := other VnfInstance.vnfProductName
    vnfSoftwareVersion := other VnfInstance.vnfSoftwareVersion
    vnfdVersion := other VnfInstance.vnfdVersion
    vnfInstanceName :=
      checkModification (fun a b => decide (a = b)) saved.vnfInstanceName inst.vnfInstanceName
    vnfInstanceDescription := checkModification (fun a b => decide (a = b))
      saved.vnfInstanceDescription inst.vnfInstanceDescription
    vnfConfigurableProperties := checkModification eqPairs saved.vnfConfigurableProperties
      inst.vnfConfigurableProperties
    metadata := checkModification eqPairs saved.metadata inst.metadata
    extensions := checkModification eqPairs saved.extensions inst.extensions
    vimConnectionInfo :=
      checkModification eqVimInfos saved.vimConnectionInfo inst.vimConnectionInfo
    vnfcInfoModifications :=
      if changedVnfcs saved.vnfcInfo inst.vnfcInfo = [] then none
      else some (changedVnfcs saved.vnfcInfo inst.vnfcInfo) }

end Tacker.Modify
