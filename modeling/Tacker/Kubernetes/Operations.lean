import Tacker.Kubernetes.SyncedLevels
import Tacker.Basis.Run

/-!
# Operations on Kubernetes

The operations of `infra_drivers/kubernetes/kubernetes.py` and what they make of the stored record.
Nothing is stored of an operation that fails. What the cluster answers while an operation is carried
out is a part of the event; whether it accepts the writes and whether the resources of an
instantiation become ready is told as a whole.
-/

namespace Tacker.Kubernetes

open Tacker.Basis Tacker.Objects

/-! ## Requests and answers -/

/-- `ResourceDefinitionV1`. -/
structure ResourceDef where
  type : String
  resourceTemplateId : String
  resourceId : String := ""

/-- The VDUs of the `COMPUTE` definitions. -/
def computeVdus (resDefs : List ResourceDef) : List String :=
  (resDefs.filter fun resDef => resDef.type = "COMPUTE").map (·.resourceTemplateId)

/-- `vdus_num.setdefault(vdu, 0)` and `vdus_num[vdu] += 1`. -/
def addOne (vdu : String) : List (String × Int) → List (String × Int)
  | [] => [(vdu, 1)]
  | item :: vdusNum =>
    if item.1 = vdu then (vdu, item.2 + 1) :: vdusNum else item :: addOne vdu vdusNum

/-- `_get_vdus_num_from_grant_req_res_defs`. -/
def getVdusNum (resDefs : List ResourceDef) : List (String × Int) :=
  (computeVdus resDefs).foldl (fun vdusNum vdu => addOne vdu vdusNum) []

/-- A pod, as the cluster lists it. -/
structure Pod where
  name : String
  deleting : Bool := false

/-- What the cluster reads back for a resource. -/
structure ResStatus where
  replicas : Int
  desiredNumberScheduled : Int
  running : Bool

/-- What the cluster answers: whether it accepts the writes and the resources become ready, all pods,
the running pods when the wait for the resource of a VDU ends with the resource as it is then, and
the running pods when the VNFCs are taken over. -/
structure Cluster where
  accepts : Bool
  ready : Bool
  existing : List String
  waited : String → List Pod
  status : String → ResStatus
  allPods : List String

/-- The manifests of a package: those in the files of the request, and the VDU of each name. -/
structure Manifests where
  k8sReses : List Manifest
  vduIds : String → Option String

/-- `TARGET_KIND`. -/
def Kind.target : Kind → Bool
  | other _ => false
  | _ => true

/-! ## Records of manifests -/

/-- No manifests. -/
def VduReses.empty : VduReses where
  items := []
  unique := List.nodup_nil

/-- `vdu_reses[vdu] = res`. -/
def VduReses.set (vduReses : VduReses) (vdu : String) (res : Manifest) : VduReses :=
  if absent : vdu ∈ vduReses.items.map Prod.fst then
    { items := vduReses.items.map fun item => if item.1 = vdu then (vdu, res) else item
      unique := by
        have keys : (vduReses.items.map fun item => if item.1 = vdu then (vdu, res)
            else item).map Prod.fst = vduReses.items.map Prod.fst := by
          rw [List.map_map]
          apply List.map_congr_left
          intro item _
          show (if item.1 = vdu then _ else item).1 = item.1
          by_cases same : item.1 = vdu
          · rw [if_pos same, same]
          · rw [if_neg same]
        rw [keys]
        exact vduReses.unique }
  else
    { items := vduReses.items ++ [(vdu, res)]
      unique := by
        rw [List.map_append, List.nodup_append]
        refine ⟨vduReses.unique, List.nodup_singleton _, fun key mem key' mem' eq => ?_⟩
        rw [eq, List.mem_singleton.mp mem'] at mem
        exact absent mem }

/-- `_select_vdu_reses`. -/
def selectVduReses (manifests : Manifests) : VduReses :=
  manifests.k8sReses.foldl (fun vduReses res =>
    if res.kind.target then
      match manifests.vduIds res.name with
      | some vdu => vduReses.set vdu res
      | none => vduReses
    else vduReses) .empty

/-- The replicas of a VDU, if an instantiation is told a number for it. -/
def setNum (vdusNum : List (String × Int)) (vduReses : VduReses) (item : String × Manifest) :
    VduReses :=
  match lookup item.1 vdusNum with
  | some num => if item.2.kind.scalable then vduReses.setReplicas item.1 num else vduReses
  | none => vduReses

/-- The replicas of the VDUs that an instantiation is told a number for. -/
def setInstantiated (vdusNum : List (String × Int)) (vduReses : VduReses) : VduReses :=
  vduReses.items.foldl (setNum vdusNum) vduReses

/-- The replicas of VDUs are written, for the kinds that are asked for: each is `_get_vdu_res`, and
the request to the cluster with the manifest that it leaves. -/
def writeReplicas (cluster : Cluster) (kinds : Kind → Bool) :
    List (String × Int) → VduReses → Except Fault VduReses
  | [], vduReses => .ok vduReses
  | (vdu, num) :: vdusNum, vduReses =>
    match vduReses.get? vdu with
    | none => .error .keyError
    | some res =>
      if kinds res.kind then
        if cluster.accepts then
          writeReplicas cluster kinds vdusNum (vduReses.setReplicas vdu num)
        else .error .k8sOperationFailed
      else writeReplicas cluster kinds vdusNum vduReses

/-! ## Waiting -/

/-- `is_update`. -/
def isUpdate (kind : Kind) (podsInfo : List Pod) (oldPodsNames : List String) (status : ResStatus) :
    Bool :=
  match kind with
  | .pod => status.running
  | .daemonSet => podsInfo.all (fun pod => pod.name ∉ oldPodsNames) &&
    (podsInfo.length : Int) = status.desiredNumberScheduled
  | .statefulSet => podsInfo.all (fun pod => !pod.deleting) &&
    (podsInfo.length : Int) = status.replicas
  | _ => podsInfo.all (fun pod => pod.name ∉ oldPodsNames) &&
    (podsInfo.length : Int) = status.replicas

/-- The pods of a resource. -/
def podsOf (res : Manifest) (pods : List Pod) : List Pod :=
  pods.filter fun pod => isMatchPodNaming res.kind res.name pod.name

/-- `_wait_k8s_reses_updated`: for the VDUs whose resources are waited for. -/
def waitUpdated (cluster : Cluster) (vduReses : VduReses) (vdus : List String)
    (oldPodsNames : List String) : Except Fault Unit :=
  if vdus.all (fun vdu => (vduReses.get? vdu).all fun res =>
      isUpdate res.kind (podsOf res (cluster.waited vdu)) oldPodsNames (cluster.status vdu)) then
    .ok ()
  else .error .k8sOperationTimeout

/-! ## Operations -/

/-- `_instantiate`. The scale levels are those that the LCM driver makes of the package. -/
def instantiate (cluster : Cluster) (flavourId : String)
    (scaleStatus maxScaleLevels : Option (List ScaleInfo)) (addResources : List ResourceDef)
    (manifests : Manifests) : Except Fault InstInfo :=
  if cluster.accepts then
    if cluster.ready then
      .ok (updateVnfcInfo cluster.allPods
        { flavourId := flavourId
          scaleStatus := scaleStatus
          maxScaleLevels := maxScaleLevels
          vduReses := setInstantiated (getVdusNum addResources) (selectVduReses manifests) })
    else .error .k8sOperationTimeout
  else .error .k8sOperationFailed

/-- `_scale_k8s_resource`. -/
def scaleK8sResource (cluster : Cluster) (vdusNum : List (String × Int)) (info : InstInfo) :
    Except Fault InstInfo := do
  let vduReses ← writeReplicas cluster Kind.scalable vdusNum info.vduReses
  let scaled := (vdusNum.map Prod.fst).filter fun vdu =>
    (vduReses.get? vdu).any fun res => res.kind.scalable
  waitUpdated cluster vduReses scaled []
  return updateVnfcInfo cluster.allPods { info with vduReses := vduReses }

/-- The numbers that a scale-out asks for. -/
def scaleOutNums (info : InstInfo) (addResources : List ResourceDef) : List (String × Int) :=
  (getVdusNum addResources).map fun vdu => (vdu.1, getCurrentVduNum info vdu.1 + vdu.2)

/-- The numbers that a scale-in asks for. -/
def scaleInNums (info : InstInfo) (removeResources : List ResourceDef) : List (String × Int) :=
  (getVdusNum removeResources).map fun vdu => (vdu.1, getCurrentVduNum info vdu.1 - vdu.2)

/-- The numbers that the rollback of a scale-out asks for. -/
def scaleRollbackNums (info : InstInfo) (addResources : List ResourceDef) : List (String × Int) :=
  (getVdusNum addResources).map fun vdu => (vdu.1, (getCurrentVduNum info vdu.1 : Int))

/-- The level of the aspect that was scaled: `_make_inst_info_common`. -/
def adjustLevel (aspectId : String) (numSteps : Int) (info : InstInfo) : Except Fault InstInfo :=
  match info.scaleStatus with
  | none => .error .notImplementedError
  | some scaleStatus =>
    .ok { info with scaleStatus := some (Lcm.adjustScaleStatus aspectId numSteps scaleStatus) }

/-- The VNFCs that are healed and run, of those that the grant request removes. -/
def healTargets (cluster : Cluster) (removeResources : List ResourceDef) (info : InstInfo) :
    List VnfcResourceInfo :=
  info.vnfcResourceInfo.filter fun vnfc =>
    vnfc.id ∈ (removeResources.filter fun resDef => resDef.type = "COMPUTE").map (·.resourceId) ∧
      vnfc.id ∈ cluster.existing

/-- `_heal`. -/
def heal (cluster : Cluster) (removeResources : List ResourceDef) (info : InstInfo) :
    Except Fault InstInfo := do
  let targets := healTargets cluster removeResources info
  if targets.all (fun vnfc => (info.vduReses.get? vnfc.vduId).isSome) then
    if cluster.accepts then
      waitUpdated cluster info.vduReses (targets.map (·.vduId)) (targets.map (·.id))
      return updateVnfcInfo cluster.allPods info
    else .error .k8sOperationFailed
  else .error .keyError

/-- The manifests that a rolling update applies: `vdu_res.patch()`. -/
def patched (addResources : List ResourceDef) (vduReses : VduReses) : List (String × Manifest) :=
  (getVdusNum addResources).filterMap fun vdu => (vduReses.get? vdu.1).map fun res =>
    (vdu.1, { res with replicas := some vdu.2 })

/-- `_change_vnfpkg_rolling_update`. -/
def rollingUpdate (cluster : Cluster) (addResources : List ResourceDef) (oldPodsNames : List String)
    (info : InstInfo) : Except Fault InstInfo := do
  let vdusNum := getVdusNum addResources
  let vduReses ← writeReplicas cluster (fun _ => true) vdusNum info.vduReses
  waitUpdated cluster vduReses (vdusNum.map Prod.fst) oldPodsNames
  return updateVnfcInfo cluster.allPods { info with vduReses := vduReses }

/-- `_change_vnfpkg`. -/
def changeVnfpkg (cluster : Cluster) (addResources : List ResourceDef) (manifests : Manifests)
    (info : InstInfo) : Except Fault InstInfo :=
  let oldPodsNames := (info.vnfcResourceInfo.filter fun vnfc =>
    vnfc.vduId ∈ computeVdus addResources).map (·.id)
  rollingUpdate cluster addResources oldPodsNames { info with vduReses := selectVduReses manifests }

/-- `_change_vnfpkg_rollback`. -/
def changeVnfpkgRollback (cluster : Cluster) (addResources : List ResourceDef)
    (currentPods : List String) (info : InstInfo) : Except Fault InstInfo :=
  let originalPods := info.vnfcResourceInfo.map (·.id)
  rollingUpdate cluster addResources (currentPods.filter fun pod => pod ∉ originalPods) info

/-! ## Events -/

/-- An operation. -/
inductive Op where
  | instantiate (flavourId : String) (scaleStatus maxScaleLevels : Option (List ScaleInfo))
      (addResources : List ResourceDef) (manifests : Manifests)
  | scaleOut (aspectId : String) (numSteps : Int) (addResources : List ResourceDef)
  | scaleIn (aspectId : String) (numSteps : Int) (removeResources : List ResourceDef)
  | scaleRollback (addResources : List ResourceDef)
  | heal (removeResources : List ResourceDef)
  | changeVnfpkg (vnfdId : String) (addResources : List ResourceDef) (manifests : Manifests)
  | changeVnfpkgRollback (addResources : List ResourceDef) (currentPods : List String)
  | syncDb (report : Report)

/-- An operation with what the cluster answers. -/
structure Event where
  op : Op
  cluster : Cluster

/-- An instance as it is stored, which has a record only when it was instantiated. -/
structure State where
  vnfdId : String
  info : Option InstInfo := none

/-- What is stored of an operation that changes the record. -/
def storing (s : State) (vnfdId : String) (change : InstInfo → Except Fault InstInfo) :
    Except Fault State :=
  match s.info with
  | none => .error .notImplementedError
  | some info => do
    let next ← change info
    return ⟨vnfdId, some next⟩

/-- What is stored of an operation. The rollback of a scale-out stores nothing. -/
def State.stored (s : State) (e : Event) : Except Fault State :=
  match e.op with
  | .instantiate flavourId scaleStatus maxScaleLevels addResources manifests => do
    let info ← instantiate e.cluster flavourId scaleStatus maxScaleLevels addResources manifests
    return { s with info := some info }
  | .scaleOut aspectId numSteps addResources => storing s s.vnfdId fun info => do
    let next ← scaleK8sResource e.cluster (scaleOutNums info addResources) info
    adjustLevel aspectId numSteps next
  | .scaleIn aspectId numSteps removeResources => storing s s.vnfdId fun info => do
    let next ← scaleK8sResource e.cluster (scaleInNums info removeResources) info
    adjustLevel aspectId (numSteps * -1) next
  | .scaleRollback _ => .ok s
  | .heal removeResources => storing s s.vnfdId (heal e.cluster removeResources)
  | .changeVnfpkg vnfdId addResources manifests =>
    storing s vnfdId (changeVnfpkg e.cluster addResources manifests)
  | .changeVnfpkgRollback addResources currentPods =>
    storing s s.vnfdId (changeVnfpkgRollback e.cluster addResources currentPods)
  | .syncDb report => storing s s.vnfdId fun info => do
    let inst ← syncDb report ⟨s.vnfdId, info⟩
    return inst.info

/-- One step: an operation that fails leaves the record as it is. -/
def OpStep (s : State) (e : Event) (s' : State) : Prop :=
  s.stored e = .ok s' ∨ (∃ fault, s.stored e = .error fault) ∧ s' = s

end Tacker.Kubernetes
