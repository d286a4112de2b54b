import Mathlib.Tactic.Lemma
import Mathlib.Data.Finmap

/-!
# VNF instances

The objects of `objects/v2` that a stored VNF instance is made of. An attribute that may be unset
is an `Option`; a dictionary is a finite map, so that two of them are compared as Python compares
dictionaries. Attributes that no modelled function reads or writes are left out.
-/

namespace Tacker.Objects

/-- Identifiers that are drawn by `uuidutils.generate_uuid`: only their equality matters. -/
abbrev Uuid := Nat

/-- `KeyValuePairs`: a dictionary, each value as its JSON text. -/
abbrev KeyValuePairs := Finmap (fun _ : String => String)

/-- `ResourceHandle`. -/
structure ResourceHandle where
  resourceId : String
  vimConnectionId : Option String := none
  vimLevelResourceType : Option String := none
deriving DecidableEq

/-- `ScaleInfoV2`: a scaling aspect and a level of it. -/
structure ScaleInfo where
  aspectId : String
  scaleLevel : Int
deriving DecidableEq

/-- `VnfLinkPortInfoV2`. -/
structure VnfLinkPortInfo where
  id : String
  resourceHandle : ResourceHandle
  cpInstanceId : Option String := none
  cpInstanceType : Option String := none
deriving DecidableEq

/-- `ExtLinkPortInfoV2`. -/
structure ExtLinkPortInfo where
  id : String
  resourceHandle : ResourceHandle
  cpInstanceId : Option String := none
deriving DecidableEq

/-- `VnfExtCpConfig`. -/
structure VnfExtCpConfig where
  linkPortId : Option String := none
  cpProtocolData : Option (List String) := none
deriving DecidableEq

/-- `VnfExtCpData`: the configurations of the external connection points of one CPD, by key. -/
structure VnfExtCpData where
  cpdId : String
  cpConfig : List (String × VnfExtCpConfig)
deriving DecidableEq

/-- `VnfExtCpInfoV2`. -/
structure VnfExtCpInfo where
  id : String
  cpdId : Option String := none
  cpConfigId : Option String := none
  cpProtocolInfo : Option (List String) := none
  extLinkPortId : Option String := none
  associatedVnfcCpId : Option String := none
deriving DecidableEq

/-- `ExtVirtualLinkInfoV2`. -/
structure ExtVirtualLinkInfo where
  id : String
  resourceHandle : ResourceHandle
  extLinkPorts : Option (List ExtLinkPortInfo) := none
  currentVnfExtCpData : List VnfExtCpData := []
deriving DecidableEq

/-- `VnfVirtualLinkResourceInfoV2`. -/
structure VnfVirtualLinkResourceInfo where
  id : String
  vnfVirtualLinkDescId : String
  networkResource : ResourceHandle
  vnfLinkPorts : Option (List VnfLinkPortInfo) := none
deriving DecidableEq

/-- `ExtManagedVirtualLinkInfoV2` has the same attributes. -/
abbrev ExtManagedVirtualLinkInfo := VnfVirtualLinkResourceInfo

/-- `VnfcResourceInfoV2_VnfcCpInfo`. -/
structure VnfcCpInfo where
  id : String
  cpdId : String
  vnfExtCpId : Option String := none
  vnfLinkPortId : Option String := none
deriving DecidableEq

/-- `VnfcResourceInfoV2`. -/
structure VnfcResourceInfo where
  id : String
  vduId : String
  computeResource : ResourceHandle
  zoneId : Option String := none
  storageResourceIds : Option (List String) := none
  vnfcCpInfo : Option (List VnfcCpInfo) := none
  metadata : Option KeyValuePairs := none
deriving DecidableEq

/-- `VirtualStorageResourceInfoV2`. -/
structure VirtualStorageResourceInfo where
  id : String
  virtualStorageDescId : String
  storageResource : ResourceHandle
deriving DecidableEq

/-- `VnfOperationalStateType`. -/
inductive VnfState where
  | started
  | stopped
deriving DecidableEq

/-- `VnfInstanceV2_InstantiatedVnfInfo`. -/
structure InstantiatedVnfInfo where
  flavourId : String
  vnfState : VnfState
  scaleStatus : Option (List ScaleInfo) := none
  maxScaleLevels : Option (List ScaleInfo) := none
  localizationLanguage : Option String := none
  extCpInfo : Option (List VnfExtCpInfo) := none
  extVirtualLinkInfo : Option (List ExtVirtualLinkInfo) := none
  extManagedVirtualLinkInfo : Option (List ExtManagedVirtualLinkInfo) := none
  vnfcResourceInfo : Option (List VnfcResourceInfo) := none
  vnfVirtualLinkResourceInfo : Option (List VnfVirtualLinkResourceInfo) := none
  virtualStorageResourceInfo : Option (List VirtualStorageResourceInfo) := none
deriving DecidableEq

/-- The values of `instantiationState`. -/
inductive InstantiationState where
  | notInstantiated
  | instantiated
deriving DecidableEq

/-- `VnfInstanceV2`. -/
structure VnfInstance where
  vnfdId : String
  instantiationState : InstantiationState
  instantiatedVnfInfo : Option InstantiatedVnfInfo := none
deriving DecidableEq

/-- What `session.merge` stores for a row: attributes the object does not have set stay as they
are. -/
def VnfInstance.mergeInto (inst row : VnfInstance) : VnfInstance :=
  { inst with instantiatedVnfInfo := inst.instantiatedVnfInfo <|> row.instantiatedVnfInfo }

/-- The instance as `VnflcmControllerV2.create` stores it. -/
def VnfInstance.created (vnfdId : String) : VnfInstance where
  vnfdId := vnfdId
  instantiationState := .notInstantiated

end Tacker.Objects
