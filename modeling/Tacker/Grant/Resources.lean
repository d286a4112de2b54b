import Mathlib.Data.List.Basic
import Tacker.Basis.Attempt
import Tacker.Basis.SelfDelimiting

/-!
# Resource definitions

The resources that an instance records, and the resource definitions of
`conductor/vnflcm_driver_v2.py`. Their identifiers come from `generate_uuid`, whose calls are told
apart by where they stand; an attribute that may be unset is an `Option`.
-/

namespace Tacker.Grant

open Tacker.Basis

/-! ## Recorded resources -/

/-- `ResourceHandle`. -/
structure ResourceHandle where
  resourceId : String
  vimConnectionId : Option String := none
  vimLevelResourceType : Option String := none
deriving DecidableEq

/-- `VnfcResourceInfoV2_VnfcCpInfo`. -/
structure VnfcCpInfo where
  cpdId : String
  vnfExtCpId : Option String := none
  vnfLinkPortId : Option String := none
deriving DecidableEq

/-- `VnfcResourceInfoV2`. -/
structure VnfcResourceInfo where
  id : String
  vduId : String
  computeResource : ResourceHandle
  vnfcCpInfo : Option (List VnfcCpInfo) := none
  storageResourceIds : Option (List String) := none
deriving DecidableEq

/-- `VirtualStorageResourceInfoV2`. -/
structure VirtualStorageResourceInfo where
  id : String
  virtualStorageDescId : String
  storageResource : ResourceHandle
deriving DecidableEq

/-- `VnfLinkPortInfoV2`. -/
structure VnfLinkPortInfo where
  id : String
  resourceHandle : ResourceHandle
  cpInstanceId : Option String := none
deriving DecidableEq

/-- `VnfVirtualLinkResourceInfoV2`. -/
structure VnfVirtualLinkResourceInfo where
  vnfVirtualLinkDescId : String
  networkResource : ResourceHandle
  vnfLinkPorts : Option (List VnfLinkPortInfo) := none
deriving DecidableEq

/-- `ExtLinkPortInfoV2`. -/
structure ExtLinkPortInfo where
  id : String
  resourceHandle : ResourceHandle
  cpInstanceId : Option String := none
deriving DecidableEq

/-- `ExtVirtualLinkInfoV2`. -/
structure ExtVirtualLinkInfo where
  id : String
  extLinkPorts : Option (List ExtLinkPortInfo) := none
deriving DecidableEq

/-- `ExtManagedVirtualLinkInfoV2`. -/
structure ExtManagedVirtualLinkInfo where
  id : String
  vnfLinkPorts : Option (List VnfLinkPortInfo) := none
deriving DecidableEq

/-- `VnfcInfoV2`. -/
structure VnfcInfo where
  id : String
  vnfcResourceInfoId : String
deriving DecidableEq

/-- `VnfInstanceV2_InstantiatedVnfInfo`. -/
structure InstantiatedVnfInfo where
  flavourId : String
  vnfcResourceInfo : Option (List VnfcResourceInfo) := none
  virtualStorageResourceInfo : Option (List VirtualStorageResourceInfo) := none
  vnfVirtualLinkResourceInfo : Option (List VnfVirtualLinkResourceInfo) := none
  extVirtualLinkInfo : Option (List ExtVirtualLinkInfo) := none
  extManagedVirtualLinkInfo : Option (List ExtManagedVirtualLinkInfo) := none
  vnfcInfo : Option (List VnfcInfo) := none
deriving DecidableEq

/-- The VNFCs, none if the attribute is unset. -/
def InstantiatedVnfInfo.vnfcs (instInfo : InstantiatedVnfInfo) : List VnfcResourceInfo :=
  instInfo.vnfcResourceInfo.getD []

/-- The CPs, none if the attribute is unset. -/
def VnfcResourceInfo.cps (instVnfc : VnfcResourceInfo) : List VnfcCpInfo :=
  instVnfc.vnfcCpInfo.getD []

/-- The storages, none if the attribute is unset. -/
def VnfcResourceInfo.storageIds (instVnfc : VnfcResourceInfo) : List String :=
  instVnfc.storageResourceIds.getD []

/-! ## Exceptions -/

/-- What is raised while a grant request is made. -/
inductive Raised where
  | flavourIdNotFound (flavourId : String)
  | invalidScaleAspectId (aspectId : String)
  | deltaMissingInVnfd (delta : String)
  /-- An attribute is read that is not set: `NotImplementedError` of the base class. -/
  | cannotLoad (attrname : String)
  /-- `range` of what is not a number. -/
  | typeError
  /-- An attribute of `None` is read. -/
  | attributeError
deriving DecidableEq

/-- An attribute that is read without a look at whether it is set. -/
def load {α : Type*} (attrname : String) (attr : Option α) : Except Raised α :=
  match attr with
  | some value => .ok value
  | none => .error (.cannotLoad attrname)

@[simp]
lemma load_ok {α : Type*} {attrname : String} {attr : Option α} {value : α} :
    load attrname attr = .ok value ↔ attr = some value := by
  cases attr with
  | some value' => simp [load]
  | none => simp [load]

/-! ## Identifiers -/

/-- The calls of `generate_uuid` for one grant request. -/
inductive UuidCall where
  | newVdu (vduName : String) (i : Nat)
  | newVl (name : String)
  | removed (i : Nat)
  | added (i : Nat)
  | removedVl (i : Nat)
  | addedVl (i : Nat)
deriving DecidableEq

/-- Generated identifiers: as they have one length, none of them is the end of another one. -/
structure Uuids where
  of : UuidCall → String
  apart : ∀ {call call'}, (of call).toList <:+ (of call').toList → call = call'

/-- `_make_combination_id`. -/
def makeCombinationId (a b : String) : String := a ++ "-" ++ b

namespace Uuids

variable {uuids : Uuids} {call call' : UuidCall} {a a' : String}

lemma of_inj : uuids.of call = uuids.of call' ↔ call = call' := by
  apply Iff.intro
  · intro eq
    exact uuids.apart (eq ▸ List.suffix_rfl)
  · intro eq
    rw [eq]

lemma toList_makeCombinationId (a b : String) :
    (makeCombinationId a b).toList = (a.toList ++ ['-']) ++ b.toList := by
  simp [makeCombinationId]

/-- A combination with a generated identifier tells both parts. -/
lemma makeCombinationId_inj :
    makeCombinationId a (uuids.of call) = makeCombinationId a' (uuids.of call') ↔
      a = a' ∧ call = call' := by
  apply Iff.intro
  · intro eq
    have chars := congrArg String.toList eq
    rw [toList_makeCombinationId, toList_makeCombinationId] at chars
    have same : call = call' := by
      rcases List.suffix_or_suffix_of_suffix (List.suffix_append _ _)
        (chars ▸ List.suffix_append (a'.toList ++ ['-']) (uuids.of call').toList) with ends | ends
      · exact uuids.apart ends
      · exact (uuids.apart ends).symm
    refine ⟨?_, same⟩
    rw [same] at chars
    have fronts := List.append_cancel_right (List.append_cancel_right chars)
    exact String.toList_inj.mp fronts
  · rintro ⟨rfl, rfl⟩
    rfl

/-- A generated identifier is no combination with one. -/
lemma of_ne_makeCombinationId : uuids.of call ≠ makeCombinationId a (uuids.of call') := by
  intro eq
  have chars := congrArg String.toList eq
  rw [toList_makeCombinationId] at chars
  have same : call' = call := uuids.apart (chars ▸ List.suffix_append _ _)
  rw [same] at chars
  have lengths := congrArg List.length chars
  rw [List.length_append, List.length_append, List.length_singleton] at lengths
  omega

/-- A call by number, text and number. -/
def parts : UuidCall → Nat × List Char × Nat
  | .newVdu vduName i => (0, vduName.toList, i)
  | .newVl name => (1, name.toList, 0)
  | .removed i => (2, [], i)
  | .added i => (3, [], i)
  | .removedVl i => (4, [], i)
  | .addedVl i => (5, [], i)

lemma parts_injective : Function.Injective parts := by
  intro call call' eq
  cases call <;> cases call' <;> simp_all [parts, String.toList_inj]

/-- Identifiers that are written backwards, so that none of them is the end of another one. -/
def spelled : Uuids where
  of call := String.ofList (codePair codeNat (codePair codeText codeNat) (parts call)).reverse
  apart := by
    intro call call' ends
    rw [String.toList_ofList, String.toList_ofList, List.reverse_suffix] at ends
    have delimiting := (selfDelimiting_codeNat.pair
      (selfDelimiting_codeText.pair selfDelimiting_codeNat)).comp parts_injective
    exact delimiting.eq_of_isPrefix ends

end Uuids

/-! ## Definitions of resources -/

/-- The type of a resource definition. -/
inductive ResourceType where
  | compute
  | vl
  | storage
  | linkport
deriving DecidableEq

/-- `ResourceDefinitionV1`. -/
structure ResourceDefinition where
  id : String
  type : ResourceType
  resourceTemplateId : String
  resource : Option ResourceHandle := none
deriving DecidableEq

/-- The definitions for one new VNFC. -/
def newVnfcResDefs (vduResId vduName : String) (cpNames storageNames : List String) :
    List ResourceDefinition :=
  ⟨vduResId, .compute, vduName, none⟩ ::
    (cpNames.map (fun cpName =>
      ⟨makeCombinationId cpName vduResId, .linkport, cpName, none⟩) ++
    storageNames.map fun storageName =>
      ⟨makeCombinationId storageName vduResId, .storage, storageName, none⟩)

/-- `_make_res_def_for_new_vdu`. -/
def makeResDefForNewVdu (uuids : Uuids) (vduName : String) (numInst : Nat)
    (cpNames storageNames : List String) : List ResourceDefinition :=
  (List.range numInst).flatMap fun i =>
    newVnfcResDefs (uuids.of (.newVdu vduName i)) vduName cpNames storageNames

/-- `_get_obj_by_id` among the storages; reading an attribute of what is not found raises. -/
def getStorageById (storages : List VirtualStorageResourceInfo) (storageId : String) :
    Except Raised VirtualStorageResourceInfo :=
  match storages.find? fun storage => storage.id = storageId with
  | some storage => .ok storage
  | none => .error .attributeError

/-- The storages of a VNFC, as the instance records them. -/
def storagesOf (instInfo : InstantiatedVnfInfo) (instVnfc : VnfcResourceInfo) :
    Except Raised (List VirtualStorageResourceInfo) :=
  instVnfc.storageIds.mapM fun storageId => do
    getStorageById (← load "virtualStorageResourceInfo" instInfo.virtualStorageResourceInfo)
      storageId

/-- The storages that are found for a VNFC. -/
def foundStorages (instInfo : InstantiatedVnfInfo) (instVnfc : VnfcResourceInfo) :
    List VirtualStorageResourceInfo :=
  instVnfc.storageIds.filterMap fun storageId =>
    (instInfo.virtualStorageResourceInfo.getD []).find? fun storage => storage.id = storageId

/-- The names of the storages that are found for a VNFC. -/
def storageNames (instInfo : InstantiatedVnfInfo) (instVnfc : VnfcResourceInfo) : List String :=
  (foundStorages instInfo instVnfc).map (·.virtualStorageDescId)

lemma getStorageById_ok {storages : List VirtualStorageResourceInfo} {storageId : String}
    {storage : VirtualStorageResourceInfo} :
    getStorageById storages storageId = .ok storage ↔
      storages.find? (fun storage => storage.id = storageId) = some storage := by
  rw [getStorageById]
  cases storages.find? fun storage => storage.id = storageId with
  | none => simp
  | some storage' => simp

/-- The storages of a VNFC, when they can be read. -/
lemma storagesOf_ok {instInfo : InstantiatedVnfInfo} {instVnfc : VnfcResourceInfo}
    {storages : List VirtualStorageResourceInfo}
    (read : storagesOf instInfo instVnfc = .ok storages) :
    storages = foundStorages instInfo instVnfc := by
  have found : storages.map some = instVnfc.storageIds.map fun storageId =>
      (instInfo.virtualStorageResourceInfo.getD []).find? fun storage =>
        storage.id = storageId := by
    apply map_of_mapM_ok read
    intro storageId storage _ one
    obtain ⟨all, loaded, one⟩ := bind_ok.mp one
    rw [load_ok.mp loaded, Option.getD_some, getStorageById_ok.mp one]
  have kept := congrArg (List.filterMap id) found
  rw [List.filterMap_map, List.filterMap_map] at kept
  exact (List.filterMap_some).symm.trans kept

/-- A definition for new VNFCs is a COMPUTE definition of the VDU, or bears the name of a CP or a
storage. -/
lemma mem_makeResDefForNewVdu {uuids : Uuids} {vduName : String} {numInst : Nat}
    {cpNames storageNames : List String} {res : ResourceDefinition}
    (mem : res ∈ makeResDefForNewVdu uuids vduName numInst cpNames storageNames) :
    (res.type = .compute ∧ res.resourceTemplateId = vduName) ∨
    (res.type = .linkport ∧ res.resourceTemplateId ∈ cpNames) ∨
    (res.type = .storage ∧ res.resourceTemplateId ∈ storageNames) := by
  obtain ⟨i, _, mem⟩ := List.mem_flatMap.mp mem
  rcases List.mem_cons.mp mem with rfl | mem
  · exact .inl ⟨rfl, rfl⟩
  · rcases List.mem_append.mp mem with mem | mem
    · obtain ⟨cpName, cpMem, rfl⟩ := List.mem_map.mp mem
      exact .inr (.inl ⟨rfl, cpMem⟩)
    · obtain ⟨storageName, storageMem, rfl⟩ := List.mem_map.mp mem
      exact .inr (.inr ⟨rfl, storageMem⟩)

end Tacker.Grant
