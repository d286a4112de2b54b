import Tacker.Kubernetes.Operations

/-!
# The VNFCs that an operation leaves

Every operation on Kubernetes lists the running pods anew, for the resources that are recorded. An
operation changes the replicas of these resources and nothing that a pod is matched by, besides the
change of the package, which takes the resources of the new one.
-/

namespace Tacker.Kubernetes

open Tacker.Basis

/-! ## What pods are matched by -/

/-- The kind and the name of the resource of each VDU. -/
def VduReses.named (vduReses : VduReses) : List (String × Kind × String) :=
  vduReses.items.map fun item => (item.1, item.2.kind, item.2.name)

/-- The VNFCs of running pods. -/
def matchedVnfcs (allPods : List String) (named : List (String × Kind × String)) :
    List VnfcResourceInfo :=
  allPods.flatMap fun podName =>
    (named.filter fun res => isMatchPodNaming res.2.1 res.2.2 podName).map fun res =>
      ⟨podName, res.1, res.2.1⟩

variable {allPods : List String} {info next : InstInfo} {vduReses vduReses' : VduReses}
  {cluster : Cluster} {report : Report}

lemma vnfcs_updateVnfcInfo :
    (updateVnfcInfo allPods info).vnfcResourceInfo = matchedVnfcs allPods info.vduReses.named := by
  unfold updateVnfcInfo matchedVnfcs VduReses.named
  show List.flatMap _ allPods = List.flatMap _ allPods
  congr 1
  funext podName
  rw [List.filter_map, List.map_map]
  rfl

lemma mem_matchedVnfcs {named : List (String × Kind × String)} {vnfc : VnfcResourceInfo} :
    vnfc ∈ matchedVnfcs allPods named ↔ ∃ podName ∈ allPods, ∃ res ∈ named,
      isMatchPodNaming res.2.1 res.2.2 podName = true ∧ vnfc = ⟨podName, res.1, res.2.1⟩ := by
  simp only [matchedVnfcs, List.mem_flatMap, List.mem_map, List.mem_filter, and_assoc]
  constructor
  · rintro ⟨podName, running, res, mem, isMatch, rfl⟩
    exact ⟨podName, running, res, mem, isMatch, rfl⟩
  · rintro ⟨podName, running, res, mem, isMatch, rfl⟩
    exact ⟨podName, running, res, mem, isMatch, rfl⟩

/-! ## What operations leave of it -/

@[simp] lemma named_setReplicas {vdu : String} {n : Int} :
    (vduReses.setReplicas vdu n).named = vduReses.named := by
  unfold VduReses.named VduReses.setReplicas
  rw [List.map_map]
  apply List.map_congr_left
  intro item _
  show (fun item : String × Manifest => (item.1, item.2.kind, item.2.name))
    (if item.1 = vdu then (item.1, { item.2 with replicas := some n }) else item) = _
  by_cases same : item.1 = vdu
  · rw [if_pos same]
  · rw [if_neg same]

lemma named_writeReplicas {kinds : Kind → Bool} {vdusNum : List (String × Int)}
    (eq : writeReplicas cluster kinds vdusNum vduReses = .ok vduReses') :
    vduReses'.named = vduReses.named := by
  induction vdusNum generalizing vduReses with
  | nil =>
    cases eq
    rfl
  | cons item vdusNum ih =>
    obtain ⟨vdu, num⟩ := item
    simp only [writeReplicas] at eq
    cases found : vduReses.get? vdu with
    | none =>
      rw [found] at eq
      cases eq
    | some res =>
      simp only [found] at eq
      by_cases asked : kinds res.kind = true
      · rw [if_pos asked] at eq
        by_cases accepts : cluster.accepts = true
        · rw [if_pos accepts] at eq
          rw [ih eq, named_setReplicas]
        · rw [if_neg accepts] at eq
          cases eq
      · rw [if_neg asked] at eq
        exact ih eq

lemma vnfcs_scaleK8sResource {vdusNum : List (String × Int)}
    (eq : scaleK8sResource cluster vdusNum info = .ok next) :
    next.vnfcResourceInfo = matchedVnfcs cluster.allPods info.vduReses.named := by
  obtain ⟨vduReses, written, eq⟩ := bind_ok.mp eq
  obtain ⟨_, -, eq⟩ := bind_ok.mp eq
  obtain rfl := pure_ok.mp eq
  rw [vnfcs_updateVnfcInfo]
  show matchedVnfcs _ vduReses.named = _
  rw [named_writeReplicas written]

lemma vnfcs_adjustLevel {aspectId : String} {numSteps : Int}
    (eq : adjustLevel aspectId numSteps info = .ok next) :
    next.vnfcResourceInfo = info.vnfcResourceInfo := by
  unfold adjustLevel at eq
  cases status : info.scaleStatus with
  | none =>
    rw [status] at eq
    cases eq
  | some scaleStatus =>
    rw [status] at eq
    cases eq
    rfl

lemma vnfcs_heal {removeResources : List ResourceDef}
    (eq : heal cluster removeResources info = .ok next) :
    next.vnfcResourceInfo = matchedVnfcs cluster.allPods info.vduReses.named := by
  unfold heal at eq
  by_cases found : (healTargets cluster removeResources info).all
      (fun vnfc => (info.vduReses.get? vnfc.vduId).isSome) = true
  · simp only [if_pos found] at eq
    by_cases accepts : cluster.accepts = true
    · rw [if_pos accepts] at eq
      obtain ⟨_, -, eq⟩ := bind_ok.mp eq
      obtain rfl := pure_ok.mp eq
      exact vnfcs_updateVnfcInfo
    · rw [if_neg accepts] at eq
      cases eq
  · simp only [if_neg found] at eq
    cases eq

lemma vnfcs_changeVnfpkg {addResources : List ResourceDef} {manifests : Manifests}
    (eq : changeVnfpkg cluster addResources manifests info = .ok next) :
    next.vnfcResourceInfo = matchedVnfcs cluster.allPods (selectVduReses manifests).named := by
  unfold changeVnfpkg rollingUpdate at eq
  obtain ⟨vduReses, written, eq⟩ := bind_ok.mp eq
  obtain ⟨_, -, eq⟩ := bind_ok.mp eq
  obtain rfl := pure_ok.mp eq
  rw [vnfcs_updateVnfcInfo]
  show matchedVnfcs _ vduReses.named = _
  rw [named_writeReplicas written]

/-! ## The synchronization -/

lemma vnfcs_takeReplicas {vduId : String} (eq : takeReplicas vduId info = .ok next) :
    next.vnfcResourceInfo = info.vnfcResourceInfo := by
  unfold takeReplicas at eq
  cases found : info.vduReses.get? vduId with
  | none =>
    rw [found] at eq
    cases eq
  | some res =>
    simp only [found] at eq
    cases replicas : res.replicas with
    | none =>
      rw [replicas] at eq
      cases eq
      rfl
    | some num =>
      rw [replicas] at eq
      cases eq
      rfl

lemma vnfcs_syncVdu {vnfdId vduId : String} (eq : syncVdu report vnfdId info vduId = .ok next) :
    next.vnfcResourceInfo = info.vnfcResourceInfo := by
  obtain ⟨num, -, eq⟩ := bind_ok.mp eq
  obtain ⟨mid, taken, eq⟩ := bind_ok.mp eq
  obtain ⟨vnfd, -, eq⟩ := bind_ok.mp eq
  rw [(calcScaleLevel_ok eq).1.vnfcs, vnfcs_takeReplicas taken]

lemma vnfcs_syncVdus {vnfdId : String} {vdus : List String}
    (eq : vdus.foldlM (syncVdu report vnfdId) info = .ok next) :
    next.vnfcResourceInfo = info.vnfcResourceInfo := by
  induction vdus generalizing info with
  | nil => rw [foldlM_nil_ok.mp eq]
  | cons vduId vdus ih =>
    obtain ⟨mid, step, eq⟩ := foldlM_cons_ok.mp eq
    rw [ih eq, vnfcs_syncVdu step]

lemma vnfcs_syncDb {inst stored : Inst} (eq : syncDb report inst = .ok stored) :
    ∃ pods, report.allPods = .ok pods ∧
      stored.info.vnfcResourceInfo = matchedVnfcs pods inst.info.vduReses.named := by
  obtain ⟨info, taken, eq⟩ := bind_ok.mp eq
  obtain ⟨info', loop, eq⟩ := bind_ok.mp eq
  obtain rfl := pure_ok.mp eq
  obtain ⟨pods, allPods, -⟩ := bind_ok.mp taken
  refine ⟨pods, allPods, ?_⟩
  rw [diffCheckAndUpdateVnfc_ok allPods taken] at loop
  show info'.vnfcResourceInfo = _
  rw [vnfcs_syncVdus loop, vnfcs_updateVnfcInfo]

/-! ## All of them -/

/-- The operations that leave other VNFCs when they complete. -/
def Op.rebuilds : Op → Bool
  | .scaleOut _ _ _ => true
  | .scaleIn _ _ _ => true
  | .heal _ => true
  | .changeVnfpkg _ _ _ => true
  | .syncDb _ => true
  | _ => false

/-- The running pods that an operation finds. -/
def Event.pods (e : Event) : List String :=
  match e.op with
  | .syncDb report => report.allPods.toOption.getD []
  | _ => e.cluster.allPods

/-- The resources that it matches them with. -/
def Op.named (info : InstInfo) : Op → List (String × Kind × String)
  | .changeVnfpkg _ _ manifests => (selectVduReses manifests).named
  | _ => info.vduReses.named

lemma storing_ok {s s' : State} {vnfdId : String} {change : InstInfo → Except Fault InstInfo}
    (isInfo : s.info = some info) (eq : storing s vnfdId change = .ok s') :
    ∃ next, change info = .ok next ∧ s'.info = some next := by
  unfold storing at eq
  rw [isInfo] at eq
  obtain ⟨next, changed, eq⟩ := bind_ok.mp eq
  obtain rfl := pure_ok.mp eq
  exact ⟨next, changed, rfl⟩

/-- Every operation that completes leaves the VNFCs of the running pods. -/
theorem vnfcs_stored {s s' : State} {e : Event} (rebuilds : e.op.rebuilds = true)
    (isInfo : s.info = some info) (eq : s.stored e = .ok s') :
    ∃ next, s'.info = some next ∧ next.vnfcResourceInfo = matchedVnfcs e.pods (e.op.named info) := by
  obtain ⟨op, cluster⟩ := e
  cases op with
  | instantiate => cases rebuilds
  | scaleRollback => cases rebuilds
  | changeVnfpkgRollback => cases rebuilds
  | scaleOut aspectId numSteps addResources =>
    obtain ⟨next, changed, isNext⟩ := storing_ok isInfo eq
    obtain ⟨mid, scaled, adjusted⟩ := bind_ok.mp changed
    exact ⟨next, isNext, (vnfcs_adjustLevel adjusted).trans (vnfcs_scaleK8sResource scaled)⟩
  | scaleIn aspectId numSteps removeResources =>
    obtain ⟨next, changed, isNext⟩ := storing_ok isInfo eq
    obtain ⟨mid, scaled, adjusted⟩ := bind_ok.mp changed
    exact ⟨next, isNext, (vnfcs_adjustLevel adjusted).trans (vnfcs_scaleK8sResource scaled)⟩
  | heal removeResources =>
    obtain ⟨next, changed, isNext⟩ := storing_ok isInfo eq
    exact ⟨next, isNext, vnfcs_heal changed⟩
  | changeVnfpkg vnfdId addResources manifests =>
    obtain ⟨next, changed, isNext⟩ := storing_ok isInfo eq
    exact ⟨next, isNext, vnfcs_changeVnfpkg changed⟩
  | syncDb report =>
    obtain ⟨next, changed, isNext⟩ := storing_ok isInfo eq
    obtain ⟨inst, synced, rest⟩ := bind_ok.mp changed
    obtain rfl := pure_ok.mp rest
    obtain ⟨pods, allPods, vnfcs⟩ := vnfcs_syncDb synced
    refine ⟨_, isNext, ?_⟩
    rw [vnfcs]
    show _ = matchedVnfcs (report.allPods.toOption.getD []) _
    rw [allPods]
    rfl

end Tacker.Kubernetes
