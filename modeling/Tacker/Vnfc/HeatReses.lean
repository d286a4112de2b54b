import Tacker.Basis.Attempt
import Tacker.Basis.Sorting
import Tacker.Basis.Table
import Tacker.UserData.Template

/-!
# VNFCs made of the resources of a stack

The part of `_make_instantiated_vnf_info` of `infra_drivers/openstack/openstack.py` that makes
`vnfcResourceInfo`: which servers there are, which storages they have, what their metadata tell of
their place in the stack, and how they are sorted. The times of a stack are points in time; what a
server takes from `nfv` and its connection points are left out.
-/

namespace Tacker.Vnfc

open Tacker.Basis
open Tacker.UserData (rpartition)

/-! ## Integers of a text -/

/-- The zeros of the decimal digits of Unicode; each is followed by the other nine. -/
def decimalZeros : List Nat :=
  [0x30, 0x660, 0x6F0, 0x7C0, 0x966, 0x9E6, 0xA66, 0xAE6, 0xB66, 0xBE6, 0xC66, 0xCE6, 0xD66, 0xDE6,
    0xE50, 0xED0, 0xF20, 0x1040, 0x1090, 0x17E0, 0x1810, 0x1946, 0x19D0, 0x1A80, 0x1A90, 0x1B50,
    0x1BB0, 0x1C40, 0x1C50, 0xA620, 0xA8D0, 0xA900, 0xA9D0, 0xA9F0, 0xAA50, 0xABF0, 0xFF10, 0x104A0,
    0x10D30, 0x11066, 0x110F0, 0x11136, 0x111D0, 0x112F0, 0x11450, 0x114D0, 0x11650, 0x116C0,
    0x11730, 0x118E0, 0x11950, 0x11C50, 0x11D50, 0x11DA0, 0x11F50, 0x16A60, 0x16AC0, 0x16B50,
    0x1D7CE, 0x1D7D8, 0x1D7E2, 0x1D7EC, 0x1D7F6, 0x1E140, 0x1E2F0, 0x1E4F0, 0x1E950, 0x1FBF0]

/-- The value of a decimal digit. -/
def digitValue (c : Char) : Option Nat :=
  (decimalZeros.find? fun zero => zero ≤ c.toNat ∧ c.toNat < zero + 10).map (c.toNat - ·)

/-- White space of Unicode. -/
def isSpace (c : Char) : Bool :=
  (0x09 ≤ c.toNat ∧ c.toNat ≤ 0x0D) ∨ (0x1C ≤ c.toNat ∧ c.toNat ≤ 0x20) ∨
    (0x2000 ≤ c.toNat ∧ c.toNat ≤ 0x200A) ∨
    c.toNat ∈ [0x85, 0xA0, 0x1680, 0x2028, 0x2029, 0x202F, 0x205F, 0x3000]

/-- The digits after the ones read so far; a single underscore may stand between two. -/
def readDigits : Nat → List Char → Option Nat
  | n, [] => some n
  | n, '_' :: c :: cs => (digitValue c).bind fun d => readDigits (10 * n + d) cs
  | n, c :: cs => (digitValue c).bind fun d => readDigits (10 * n + d) cs

/-- Digits, at least one. -/
def readNumber : List Char → Option Nat
  | [] => none
  | c :: cs => (digitValue c).bind fun d => readDigits d cs

/-- `str.strip()`. -/
def strip (text : List Char) : List Char :=
  ((text.dropWhile isSpace).reverse.dropWhile isSpace).reverse

/-- `int(text)`. -/
def pyInt (text : String) : Option Int :=
  match strip text.toList with
  | '+' :: cs => (readNumber cs).map Int.ofNat
  | '-' :: cs => (readNumber cs).map fun n => -Int.ofNat n
  | cs => (readNumber cs).map Int.ofNat

/-! ## Resources -/

/-- The Python exceptions. -/
inductive Raised where
  | valueError
  | typeError
deriving DecidableEq

/-- A resource of the stack, as Heat lists it with those of the nested stacks. -/
structure HeatRes where
  resourceName : String
  resourceType : String
  physicalResourceId : String
  parentResource : Option String := none
  stackId : Option String := none
  creationTime : Nat := 0
deriving DecidableEq

/-- `get_parent_resource`. -/
def getParentResource (heatRes : HeatRes) (heatReses : List HeatRes) : Option HeatRes :=
  match heatRes.parentResource with
  | none => none
  | some parent =>
    if parent = "" then none else heatReses.find? fun res => res.resourceName = parent

/-- `get_reses_by_types`, then `_get_checked_reses`. -/
def getCheckedReses (resourceType : String) (names : List String) (heatReses : List HeatRes) :
    Table HeatRes.physicalResourceId :=
  Table.ofList (heatReses.filter fun res =>
    res.resourceType = resourceType ∧ res.resourceName ∈ names)

/-- A flavour of the VNFD: the node templates of its VDUs with the targets of their
`virtual_storage` requirements, and those of the virtual block storages. -/
structure Flavour where
  vduNodes : List (String × List String)
  storageNodes : List String

namespace Flavour

/-- `get_vdu_storages`. -/
def getVduStorages (flavour : Flavour) (vduName : String) : List String :=
  (flavour.vduNodes.filter fun vdu => vdu.1 = vduName).flatMap Prod.snd

/-- `server_reses`. -/
def serverReses (flavour : Flavour) (heatReses : List HeatRes) :
    Table HeatRes.physicalResourceId :=
  getCheckedReses "OS::Nova::Server" (flavour.vduNodes.map Prod.fst) heatReses

/-- `storage_reses`. -/
def storageReses (flavour : Flavour) (heatReses : List HeatRes) :
    Table HeatRes.physicalResourceId :=
  getCheckedReses "OS::Cinder::Volume" flavour.storageNodes heatReses

end Flavour

/-! ## Metadata -/

/-- The metadata of a VNFC; a missing key is `none`. -/
structure VnfcMetadata where
  creationTime : Nat
  stackId : Option String
  parentStackId : Option (Option String) := none
  parentResourceName : Option String := none
  vduIdx : Option (Option Int) := none
deriving DecidableEq

/-- `_get_vdu_idx`. -/
def getVduIdx (vduWithIdx : String) : Except Raised (Option Int) :=
  match rpartition vduWithIdx with
  | none => .ok none
  | some part =>
    match pyInt part.2 with
    | some idx => .ok (some idx)
    | none => .error .valueError

/-- `_make_vnfc_metadata`. -/
def makeVnfcMetadata (serverRes : HeatRes) (heatReses : List HeatRes) :
    Except Raised VnfcMetadata :=
  let metadata : VnfcMetadata :=
    { creationTime := serverRes.creationTime, stackId := serverRes.stackId }
  match getParentResource serverRes heatReses with
  | none => .ok metadata
  | some parentRes =>
    if (getParentResource parentRes heatReses).any
        fun res => res.resourceType = "OS::Heat::AutoScalingGroup" then
      .ok { metadata with
        parentStackId := some parentRes.stackId
        parentResourceName := some parentRes.resourceName }
    else do
      let idx ← getVduIdx parentRes.resourceName
      return { metadata with vduIdx := some idx }

/-! ## VNFCs -/

/-- `VnfcResourceInfoV2`; its compute resource is the server of the same identifier. -/
structure VnfcResourceInfo where
  id : String
  vduId : String
  storageResourceIds : Option (List String) := none
  metadata : VnfcMetadata
deriving DecidableEq

/-- The storages of a server. -/
def storageIdsOf (storageReses : Table HeatRes.physicalResourceId) (serverRes : HeatRes) :
    List String :=
  (storageReses.rows.filter fun storageRes =>
    serverRes.parentResource = storageRes.parentResource).map HeatRes.physicalResourceId

/-- The VNFC of a server. -/
def makeVnfcResInfo (heatReses : List HeatRes) (storageReses : Table HeatRes.physicalResourceId)
    (serverRes : HeatRes) : Except Raised VnfcResourceInfo := do
  let metadata ← makeVnfcMetadata serverRes heatReses
  let storageIds := storageIdsOf storageReses serverRes
  return {
    id := serverRes.physicalResourceId
    vduId := serverRes.resourceName
    storageResourceIds := if storageIds = [] then none else some storageIds
    metadata := metadata }

/-- `vnfc_res_infos`. -/
def makeVnfcResInfos (flavour : Flavour) (heatReses : List HeatRes) :
    Except Raised (List VnfcResourceInfo) :=
  (flavour.serverReses heatReses).rows.mapM
    (makeVnfcResInfo heatReses (flavour.storageReses heatReses))

/-! ## Sorting -/

/-- `_get_key`. -/
def getKey (vnfc : VnfcResourceInfo) : Option Int × Nat :=
  (vnfc.metadata.vduIdx.getD (some 0), vnfc.metadata.creationTime)

/-- `<` of two keys: the first components that differ are compared, and an index is not compared with
`None`. -/
def keyLt (vnfc vnfc' : VnfcResourceInfo) : Except Raised Bool :=
  if (getKey vnfc).1 = (getKey vnfc').1 then .ok (decide ((getKey vnfc).2 < (getKey vnfc').2))
  else
    match (getKey vnfc).1, (getKey vnfc').1 with
    | some idx, some idx' => .ok (decide (idx < idx'))
    | _, _ => .error .typeError

/-- `sorted_vnfc_res_infos`. -/
def sortedVnfcResInfos (flavour : Flavour) (heatReses : List HeatRes) :
    Except Raised (List VnfcResourceInfo) := do
  let vnfcResInfos ← makeVnfcResInfos flavour heatReses
  sortDesc keyLt vnfcResInfos

end Tacker.Vnfc
