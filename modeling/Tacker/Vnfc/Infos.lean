import Mathlib.Data.List.Dedup
import Mathlib.Data.List.TakeDrop
import Mathlib.Data.List.TakeWhile
import Tacker.Vnfc.Order

/-!
# VNFCs as clients see them

`vnfcInfo` as the drivers make it: the OpenStack driver uses the entries again that are there for a
server and gives each the identifier that `metadata['VDU_VNFc_mapping']` has for it. The configurable
properties are of any type, since nobody but `MODIFY_INFO` looks into them; the state, which is the
same for all, is left out.
-/

namespace Tacker.Vnfc

open Tacker.Basis
open Tacker.UserData (rpartition)

/-- `VnfcInfoV2`. -/
structure VnfcInfo (P : Type) where
  id : String
  vduId : String
  vnfcResourceInfoId : String
  vnfcConfigurableProperties : Option P := none
deriving DecidableEq

/-! ## The mapping -/

/-- `metadata['VDU_VNFc_mapping']`: the identifiers of the VNFCs of each VDU, by their indices. -/
structure Mapping where
  entries : List (String × List String)
  unique : (entries.map Prod.fst).Nodup

/-- `dict.get`. -/
def Mapping.get? (mapping : Mapping) (vduId : String) : Option (List String) :=
  (mapping.entries.find? fun entry => entry.1 = vduId).map Prod.snd

/-- All identifiers in the mapping. -/
def Mapping.allVnfcInfoIds (mapping : Mapping) : List String :=
  mapping.entries.flatMap Prod.snd

/-- `check_metadata_format`, for a mapping of the right form: no identifier is there twice. -/
def checkMetadataFormat (mapping : Mapping) : Bool :=
  mapping.allVnfcInfoIds.dedup.length = mapping.allVnfcInfoIds.length

/-- The index of a VNFC in its VDU. -/
def VnfcResourceInfo.vduIdx (vnfc : VnfcResourceInfo) : Option Int :=
  vnfc.metadata.vduIdx.join

/-- The identifier that the mapping has for a VNFC. -/
def mappedId (mapping : Option Mapping) (vnfc : VnfcResourceInfo) : Option String := do
  let idx ← vnfc.vduIdx
  let mapping ← mapping
  let ids ← mapping.get? vnfc.vduId
  if idx < ids.length then ids[idx.toNat]? else none

/-- The default identifier of a VNFC. -/
def defaultId (vnfc : VnfcResourceInfo) : String :=
  vnfc.vduId ++ "-" ++ vnfc.id

/-- `_make_vnfc_info_id`. -/
def makeVnfcInfoId (mapping : Option Mapping) (vnfc : VnfcResourceInfo) : String :=
  (mappedId mapping vnfc).getD (defaultId vnfc)

/-! ## The entries -/

variable {P : Type}

/-- The entry of a VNFC: the one that is there for its server, or a new one. -/
def makeVnfcInfo (mapping : Option Mapping) (old : List (VnfcInfo P)) (vnfc : VnfcResourceInfo) :
    VnfcInfo P :=
  match old.find? fun info => info.vnfcResourceInfoId = vnfc.id with
  | some info => { info with id := makeVnfcInfoId mapping vnfc }
  | none =>
    { id := makeVnfcInfoId mapping vnfc, vduId := vnfc.vduId, vnfcResourceInfoId := vnfc.id }

/-- `vnfc_infos`, of the sorted VNFCs. -/
def makeVnfcInfos (mapping : Option Mapping) (old : List (VnfcInfo P))
    (vnfcs : List VnfcResourceInfo) : List (VnfcInfo P) :=
  vnfcs.map (makeVnfcInfo mapping old)

variable {mapping : Option Mapping} {old : List (VnfcInfo P)} {vnfc vnfc' : VnfcResourceInfo}
  {info : VnfcInfo P}

@[simp] lemma id_makeVnfcInfo : (makeVnfcInfo mapping old vnfc).id = makeVnfcInfoId mapping vnfc := by
  unfold makeVnfcInfo
  cases old.find? fun info => info.vnfcResourceInfoId = vnfc.id with
  | none => rfl
  | some info => rfl

@[simp] lemma vnfcResourceInfoId_makeVnfcInfo :
    (makeVnfcInfo mapping old vnfc).vnfcResourceInfoId = vnfc.id := by
  unfold makeVnfcInfo
  cases found : old.find? fun info => info.vnfcResourceInfoId = vnfc.id with
  | none => rfl
  | some info => exact of_decide_eq_true (List.find?_some found :)

/-! ## What the mapping tells -/

lemma Mapping.mem_of_get? {mapping : Mapping} {vduId : String} {ids : List String}
    (found : mapping.get? vduId = some ids) : (vduId, ids) ∈ mapping.entries := by
  obtain ⟨entry, isFound, rfl⟩ := Option.map_eq_some_iff.mp found
  have isIt : entry.1 = vduId := of_decide_eq_true (List.find?_some isFound :)
  rw [← isIt]
  exact List.mem_of_find?_eq_some isFound

lemma checkMetadataFormat_iff {mapping : Mapping} :
    checkMetadataFormat mapping = true ↔ mapping.allVnfcInfoIds.Nodup := by
  unfold checkMetadataFormat
  rw [decide_eq_true_iff]
  constructor
  · intro same
    have eq := (List.dedup_sublist mapping.allVnfcInfoIds).eq_of_length same
    rw [← eq]
    exact List.nodup_dedup _
  · intro unique
    rw [List.Nodup.dedup unique]

lemma mappedId_eq_some {id : String} : mappedId mapping vnfc = some id ↔
    ∃ idx m ids, vnfc.vduIdx = some idx ∧ mapping = some m ∧ m.get? vnfc.vduId = some ids ∧
      idx < ids.length ∧ ids[idx.toNat]? = some id := by
  unfold mappedId
  constructor
  · intro eq
    obtain ⟨idx, isIdx, eq⟩ := Option.bind_eq_some_iff.mp eq
    obtain ⟨m, isMapping, eq⟩ := Option.bind_eq_some_iff.mp eq
    obtain ⟨ids, found, eq⟩ := Option.bind_eq_some_iff.mp eq
    by_cases within : idx < ids.length
    · rw [if_pos within] at eq
      exact ⟨idx, m, ids, isIdx, isMapping, found, within, eq⟩
    · rw [if_neg within] at eq
      cases eq
  · rintro ⟨idx, m, ids, isIdx, rfl, found, within, eq⟩
    rw [isIdx, Option.bind_eq_bind, Option.bind_some, Option.bind_eq_bind, Option.bind_some,
      Option.bind_eq_bind, found, Option.bind_some, if_pos within, eq]

/-- In an accepted mapping an identifier is there for one VDU and one index. -/
lemma same_place {m : Mapping} {vduId vduId' id : String} {ids ids' : List String} {i j : Nat}
    (unique : m.allVnfcInfoIds.Nodup) (mem : (vduId, ids) ∈ m.entries)
    (mem' : (vduId', ids') ∈ m.entries) (here : ids[i]? = some id) (here' : ids'[j]? = some id) :
    vduId = vduId' ∧ i = j := by
  unfold Mapping.allVnfcInfoIds at unique
  obtain ⟨each, disjoint⟩ := List.nodup_flatMap.mp unique
  have same : (vduId, ids) = (vduId', ids') := by
    by_contra ne
    have apart := List.Pairwise.forall_of_forall_of_flip
      (R := fun a b => a ≠ b → List.Disjoint a.2 b.2) (fun _ _ ne => absurd rfl ne)
      (disjoint.imp (fun {a b} (apart : List.Disjoint a.2 b.2) _ => apart))
      (disjoint.imp (fun {a b} (apart : List.Disjoint a.2 b.2) _ => List.Disjoint.symm apart))
      mem mem' ne
    exact apart (List.mem_of_getElem? here) (List.mem_of_getElem? here')
  obtain ⟨rfl, rfl⟩ := Prod.mk.inj same
  obtain ⟨within, eq⟩ := List.getElem?_eq_some_iff.mp here
  obtain ⟨within', eq'⟩ := List.getElem?_eq_some_iff.mp here'
  exact ⟨rfl, (List.Nodup.getElem_inj_iff (each _ mem)).mp (eq.trans eq'.symm)⟩

/-! ## Indices -/

lemma mem_strip {c : Char} {text : List Char} (mem : c ∈ strip text) : c ∈ text := by
  unfold strip at mem
  have mem := (List.dropWhile_sublist _).subset (List.mem_reverse.mp mem)
  exact (List.dropWhile_sublist _).subset (List.mem_reverse.mp mem)

/-- A text without a minus sign is no negative number. -/
lemma pyInt_nonneg {text : String} {n : Int} (plain : '-' ∉ text.toList)
    (eq : pyInt text = some n) : 0 ≤ n := by
  unfold pyInt at eq
  split at eq
  · obtain ⟨k, -, rfl⟩ := Option.map_eq_some_iff.mp eq
    exact Int.natCast_nonneg k
  · case h_2 cs stripped =>
    apply absurd _ plain
    apply mem_strip
    rw [stripped]
    exact List.mem_cons_self
  · obtain ⟨k, -, rfl⟩ := Option.map_eq_some_iff.mp eq
    exact Int.natCast_nonneg k

/-- The index of a group is not negative. -/
lemma getVduIdx_nonneg {name : String} {n : Int} (eq : getVduIdx name = .ok (some n)) : 0 ≤ n := by
  rcases getVduIdx_ok.mp eq with ⟨-, none⟩ | ⟨part, n', found, read, some⟩
  · cases none
  · obtain rfl := Option.some.inj some
    apply pyInt_nonneg _ read
    unfold rpartition at found
    split at found
    · cases found
    · case h_2 tail c head split =>
      obtain rfl := Option.some.inj found
      intro mem
      rw [String.toList_ofList, List.mem_reverse] at mem
      have taken : tail = name.toList.reverse.takeWhile (· ≠ '-') := by
        rw [List.span_eq_takeWhile_dropWhile] at split
        exact (congrArg Prod.fst split).symm
      rw [taken] at mem
      have isNot := List.mem_takeWhile_imp mem
      simp at isNot

lemma vduIdx_nonneg {serverRes : HeatRes} {heatReses : List HeatRes} {n : Int}
    (made : MadeOf heatReses serverRes vnfc) (eq : vnfc.vduIdx = some n) : 0 ≤ n := by
  have idx : idxOf heatReses serverRes = .ok vnfc.metadata.vduIdx := by
    rw [← vduIdx_makeVnfcMetadata, made.metadata]
    rfl
  have some : vnfc.metadata.vduIdx = some (some n) := Option.join_eq_some_iff.mp eq
  rw [some] at idx
  unfold idxOf at idx
  cases group : groupOf heatReses serverRes with
  | none =>
    rw [group] at idx
    cases idx
  | some name =>
    rw [group] at idx
    obtain ⟨inner, read, eq⟩ := map_ok.mp idx
    obtain rfl := Option.some.inj eq
    exact getVduIdx_nonneg read

end Tacker.Vnfc
