import Tacker.Basis.Attempt
import Tacker.Basis.Listing
import Tacker.Kubernetes.PodNames
import Tacker.Lcm.Database
import Tacker.Lcm.ScaleLevels

/-!
# Instances on Kubernetes

What `infra_drivers/kubernetes` records of an instance, and the package it goes by. Of a manifest the
members besides the kind, the name and `spec.replicas` are left out, since nothing of what follows
depends on them.
-/

namespace Tacker.Kubernetes

open Tacker.Basis Tacker.Objects

/-- The errors of the driver and the Python exceptions that may get through. -/
inductive Fault where
  | dbSyncNoDiff
  | dbSyncFailed
  | deltaMissingInVnfd (delta : String)
  | k8sOperationFailed
  | k8sOperationTimeout
  | keyError
  | indexError
  | typeError
  | zeroDivisionError
  | unboundLocalError
  | notImplementedError
deriving DecidableEq

/-! ## The record -/

/-- The manifest of a resource. -/
structure Manifest where
  kind : Kind
  name : String
  replicas : Option Int := none
deriving DecidableEq

/-- `metadata['vdu_reses']`: a dictionary of manifests. -/
structure VduReses where
  items : List (String × Manifest)
  unique : (items.map Prod.fst).Nodup

/-- `VnfcResourceInfoV2`, whose `resourceId` is its `id`. -/
structure VnfcResourceInfo where
  id : String
  vduId : String
  vimLevelResourceType : Kind
deriving DecidableEq

/-- `instantiatedVnfInfo`. -/
structure InstInfo where
  flavourId : String
  scaleStatus : Option (List ScaleInfo) := none
  maxScaleLevels : Option (List ScaleInfo) := none
  vduReses : VduReses
  vnfcResourceInfo : List VnfcResourceInfo := []

/-- An instance. -/
structure Inst where
  vnfdId : String
  info : InstInfo

namespace VduReses

/-- The manifest of a VDU. -/
def get? (vduReses : VduReses) (vdu : String) : Option Manifest :=
  (vduReses.items.find? fun item => item.1 = vdu).map Prod.snd

lemma keys_setReplicas {items : List (String × Manifest)} {vdu : String} {n : Int} :
    (items.map fun item => if item.1 = vdu then (item.1, { item.2 with replicas := some n })
      else item).map Prod.fst = items.map Prod.fst := by
  rw [List.map_map]
  apply List.map_congr_left
  intro item _
  show (if item.1 = vdu then _ else item).1 = item.1
  by_cases same : item.1 = vdu
  · rw [if_pos same]
  · rw [if_neg same]

/-- `vdu_reses[vdu]['spec']['replicas'] = n`. -/
def setReplicas (vduReses : VduReses) (vdu : String) (n : Int) : VduReses where
  items := vduReses.items.map fun item =>
    if item.1 = vdu then (item.1, { item.2 with replicas := some n }) else item
  unique := by
    rw [keys_setReplicas]
    exact vduReses.unique

/-- The replicas recorded for a VDU. -/
def replicas (vduReses : VduReses) (vdu : String) : Option Int :=
  (vduReses.get? vdu).bind Manifest.replicas

lemma get?_of_mem {vduReses : VduReses} {item : String × Manifest} (mem : item ∈ vduReses.items) :
    vduReses.get? item.1 = some item.2 := by
  rw [get?, find?_key vduReses.unique mem]
  rfl

lemma mem_of_get? {vduReses : VduReses} {vdu : String} {res : Manifest}
    (found : vduReses.get? vdu = some res) : (vdu, res) ∈ vduReses.items := by
  obtain ⟨item, isFound, rfl⟩ := Option.map_eq_some_iff.mp found
  have isIt := List.find?_some isFound
  have same : item.1 = vdu := of_decide_eq_true isIt
  rw [← same]
  exact List.mem_of_find?_eq_some isFound

lemma get?_setReplicas {vduReses : VduReses} {vdu vdu' : String} {n : Int} :
    (vduReses.setReplicas vdu n).get? vdu' =
      if vdu' = vdu then (vduReses.get? vdu').map fun res => { res with replicas := some n }
      else vduReses.get? vdu' := by
  obtain ⟨items, unique⟩ := vduReses
  show ((items.map fun item => if item.1 = vdu then (item.1, { item.2 with replicas := some n })
      else item).find? fun item => item.1 = vdu').map Prod.snd =
    if vdu' = vdu then ((items.find? fun item => item.1 = vdu').map Prod.snd).map _
    else (items.find? fun item => item.1 = vdu').map Prod.snd
  clear unique
  induction items with
  | nil => simp
  | cons item items ih =>
    rw [List.map_cons]
    by_cases isVdu : item.1 = vdu
    · rw [if_pos isVdu]
      by_cases found : item.1 = vdu'
      · rw [List.find?_cons_of_pos (by simpa using found),
          List.find?_cons_of_pos (by simpa using found), if_pos (found.symm.trans isVdu)]
        rfl
      · rw [List.find?_cons_of_neg (by simpa using found),
          List.find?_cons_of_neg (by simpa using found), ih]
    · rw [if_neg isVdu]
      by_cases found : item.1 = vdu'
      · rw [List.find?_cons_of_pos (by simpa using found),
          List.find?_cons_of_pos (by simpa using found), if_neg (fun eq => isVdu (found.trans eq))]
      · rw [List.find?_cons_of_neg (by simpa using found),
          List.find?_cons_of_neg (by simpa using found), ih]

lemma replicas_setReplicas {vduReses : VduReses} {vdu vdu' : String} {n : Int} :
    (vduReses.setReplicas vdu n).replicas vdu' =
      if vdu' = vdu then (vduReses.get? vdu').map fun _ => n else vduReses.replicas vdu' := by
  rw [replicas, get?_setReplicas]
  by_cases same : vdu' = vdu
  · rw [if_pos same, if_pos same]
    cases vduReses.get? vdu' <;> rfl
  · rw [if_neg same, if_neg same]
    rfl

end VduReses

/-- `_get_current_vdu_num`. -/
def getCurrentVduNum (info : InstInfo) (vdu : String) : Nat :=
  info.vnfcResourceInfo.countP fun vnfc => vnfc.vduId = vdu

/-- `_update_vnfc_info`, with the names of the running pods. -/
def updateVnfcInfo (allPods : List String) (info : InstInfo) : InstInfo :=
  { info with
    vnfcResourceInfo := allPods.flatMap fun podName =>
      (info.vduReses.items.filter fun item =>
        isMatchPodNaming item.2.kind item.2.name podName).map fun item =>
          ⟨podName, item.1, item.2.kind⟩ }

/-! ## The package -/

/-- A policy of type `VduScalingAspectDeltas`: the number of instances by the name of a delta. -/
structure VduScalingAspectDeltas where
  aspect : Option String
  deltas : List (String × Int)
  targets : List String

/-- A policy of type `VduInitialDelta`. -/
structure VduInitialDelta where
  numberOfInstances : Option Int
  targets : List String

/-- `vdu_profile` of a VDU. -/
structure VduProfile where
  maxNumberOfInstances : Option Int := none
  minNumberOfInstances : Option Int := none

/-- A flavour of a package. The `ScalingAspects` policies are given by the step deltas of each
aspect. -/
structure Flavour where
  scalingAspects : List (List (String × List String))
  vduScalingAspectDeltas : List VduScalingAspectDeltas
  vduInitialDeltas : List VduInitialDelta
  vduProfile : String → VduProfile

/-- A package, by its flavours. -/
abbrev Vnfd := String → Flavour

/-- The entry of a key in a dictionary. -/
def lookup {α : Type} (key : String) (items : List (String × α)) : Option α :=
  (items.find? fun item => item.1 = key).map Prod.snd

/-- The name of the delta of an aspect: the first one of its step deltas. -/
def stepDelta (flavour : Flavour) (aspectId : String) : Except Fault (Option String) :=
  match flavour.scalingAspects.findSome? (lookup aspectId) with
  | none => .ok none
  | some stepDeltas =>
    match stepDeltas with
    | [] => .error .indexError
    | delta :: _ => .ok (some delta)

/-- `get_scale_vdu_and_num`. -/
def getScaleVduAndNum (flavour : Flavour) (aspectId : String) :
    Except Fault (List (String × Int)) := do
  match ← stepDelta flavour aspectId with
  | none => return []
  | some delta =>
    (flavour.vduScalingAspectDeltas.filter fun aspectDelta =>
      aspectDelta.aspect = some aspectId).foldlM (fun vduNumInst aspectDelta =>
        match lookup delta aspectDelta.deltas with
        | none => .error (.deltaMissingInVnfd delta)
        | some numInst => .ok ((aspectDelta.targets.map fun vdu => (vdu, numInst)) ++ vduNumInst)) []

/-- `get_initial_delta`. -/
def getInitialDelta (flavour : Flavour) (vduId : String) : Except Fault (Option Int) :=
  match flavour.vduInitialDeltas.find? fun policy => vduId ∈ policy.targets with
  | none => .error .unboundLocalError
  | some policy => .ok policy.numberOfInstances

/-!
## Database synchronization

`sync_db` takes over the pods that the cluster runs and computes the scale levels from their number,
one VDU after the other. What comes from outside, the package and two kinds of listings of the
cluster, may be an error in place of an answer.
-/

/-! ## The code -/

/-- `set(…)` of VDUs, in the order in which it is gone through. -/
structure SetOrder where
  order : List String → List String
  nodup : ∀ vdus, (order vdus).Nodup
  mem : ∀ vdus vdu, vdu ∈ order vdus ↔ vdu ∈ vdus

/-- What a synchronization learns from outside: the packages, the running pods when the VNFCs are
taken over, and the running pods when those of a VDU are counted. -/
structure Report where
  getVnfd : String → Except Fault Vnfd
  allPods : Except Fault (List String)
  podsFor : String → Except Fault (List String)
  vduOrder : SetOrder

/-- `diff_check_and_update_vnfc`. -/
def diffCheckAndUpdateVnfc (report : Report) (info : InstInfo) : Except Fault InstInfo := do
  let allPods ← report.allPods
  let next := updateVnfcInfo allPods info
  let oldPodsNames : List String := info.vnfcResourceInfo.map (·.id)
  let newPodsNames : List String := next.vnfcResourceInfo.map (·.id)
  if oldPodsNames ⊆ newPodsNames ∧ newPodsNames ⊆ oldPodsNames then .error .dbSyncNoDiff
  else return next

/-- `_get_pod_information`, as far as it is used: the number of pods, by name. -/
def getPodInformation (report : Report) (info : InstInfo) (vduId : String) : Except Fault Nat := do
  let allPods ← report.podsFor vduId
  match info.vnfcResourceInfo.find? fun vnfc => vnfc.vduId = vduId with
  | none => return 0
  | some vnfc =>
    let resourceName := getResourceName vnfc.id vnfc.vimLevelResourceType
    return (allPods.filter
      (isMatchPodNaming vnfc.vimLevelResourceType resourceName)).toFinset.card

/-- `inst_vnf.scaleLevel = scale_level`, for the first entry of the aspect. -/
def setScaleLevel (aspectId : String) (scaleLevel : Int) : List ScaleInfo → List ScaleInfo
  | [] => []
  | instVnf :: rest =>
    if instVnf.aspectId = aspectId then { instVnf with scaleLevel := scaleLevel } :: rest
    else instVnf :: setScaleLevel aspectId scaleLevel rest

/-- A value that must not be `None`. -/
def orTypeError {α : Type} : Option α → Except Fault α
  | some a => .ok a
  | none => .error .typeError

/-- `_check_pod_range`. -/
def checkPodRange (flavour : Flavour) (vduId : String) (currentPodNum : Int) :
    Except Fault Unit := do
  let vduProfile := flavour.vduProfile vduId
  let maxNumber ← orTypeError vduProfile.maxNumberOfInstances
  if currentPodNum > maxNumber then .error .dbSyncFailed
  else do
    let minNumber ← orTypeError vduProfile.minNumberOfInstances
    if currentPodNum < minNumber then .error .dbSyncFailed else return ()

/-- The aspect that `_calc_scale_level` finds for a VDU; an empty name is none. -/
def aspectOf (flavour : Flavour) (vduId : String) : Option String :=
  ((flavour.vduScalingAspectDeltas.find? fun aspectDelta =>
    vduId ∈ aspectDelta.targets).bind (·.aspect)).filter (· ≠ "")

/-- `_calc_scale_level`. -/
def calcScaleLevel (vnfd : Vnfd) (vduId : String) (currentPodNum : Int) (info : InstInfo) :
    Except Fault InstInfo := do
  let flavour := vnfd info.flavourId
  match aspectOf flavour vduId with
  | none => return info
  | some aspectId =>
    let vduNumInst ← getScaleVduAndNum flavour aspectId
    let initialDelta ← getInitialDelta flavour vduId
    let initialDelta ← orTypeError initialDelta
    let delta ← orTypeError (lookup vduId vduNumInst)
    if delta = 0 then .error .zeroDivisionError
    else if (currentPodNum - initialDelta).fmod delta ≠ 0 then .error .dbSyncFailed
    else
      match info.scaleStatus with
      | none => .error .notImplementedError
      | some scaleStatus =>
        let scaleLevel := (currentPodNum - initialDelta).fdiv delta
        let _ ← checkPodRange flavour vduId currentPodNum
        return { info with scaleStatus := some (setScaleLevel aspectId scaleLevel scaleStatus) }

/-- The replicas of a VDU become the number of its VNFCs, if the manifest has any. -/
def takeReplicas (vduId : String) (info : InstInfo) : Except Fault InstInfo :=
  match info.vduReses.get? vduId with
  | none => .error .keyError
  | some res =>
    match res.replicas with
    | none => .ok info
    | some _ =>
      .ok { info with vduReses := info.vduReses.setReplicas vduId (getCurrentVduNum info vduId) }

/-- What `sync_db` does for one VDU. -/
def syncVdu (report : Report) (vnfdId : String) (info : InstInfo) (vduId : String) :
    Except Fault InstInfo := do
  let currentPodNum ← getPodInformation report info vduId
  let info ← takeReplicas vduId info
  let vnfd ← report.getVnfd vnfdId
  calcScaleLevel vnfd vduId currentPodNum info

/-- `sync_db`. -/
def syncDb (report : Report) (inst : Inst) : Except Fault Inst := do
  let info ← diffCheckAndUpdateVnfc report inst.info
  let vduIdList := report.vduOrder.order (info.vnfcResourceInfo.map (·.vduId))
  let info ← vduIdList.foldlM (syncVdu report inst.vnfdId) info
  return { inst with info := info }

/-- The rows of one instance: its occurrences, and the attributes of it that the driver works on. -/
structure Db where
  lcm : Lcm.Db
  inst : Inst

/-- `_sync_inst`: the outcome, with the database that it leaves. -/
def syncInst (report : Report) (db : Db) : Except Fault Unit × Db :=
  match db.lcm.isLcmoccFailureStatus with
  | none => (.error .indexError, db)
  | some true => (.error .dbSyncFailed, db)
  | some false =>
    match syncDb report db.inst with
    | .error fault => (.error fault, db)
    | .ok vnfInst => (.ok (), { db with inst := vnfInst })

end Tacker.Kubernetes
