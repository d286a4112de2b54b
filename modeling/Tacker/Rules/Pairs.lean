import Tacker.Rules.MakeRules

/-!
# Pairs that have a rule

What `make_rules` should produce is said of a monitoring, be it of a PM job or of a threshold: the
pairs of a metric and a monitored object or sub-object that have a rule, and the rule of each. The
code pairs every metric with everything that has pods, which is right exactly if every metric belongs
to everything that has pods.
-/

namespace Tacker.Rules

open Tacker.Basis
open Tacker.Prometheus (usagePrefixes)

/-! ## What the rules are to be -/

/-- What is monitored: objects, or sub-objects of an object, with the metrics that are asked for. -/
structure Monitoring where
  type : PmType
  id : String
  objectType : ObjectType
  monitored : List (String × Option String)
  Asked : String → Prop
  collectionPeriod : Int
  reportingPeriod : Int

/-- A metric belongs to the object that it names; those of connection points name none and belong to
every object. -/
def Belongs (objectType : ObjectType) (metric obj : String) : Prop :=
  objectType.ofCompute = true → ∃ pre ∈ usagePrefixes, metric = pre ++ obj

/-- A pod of a deployment that runs for an instance. -/
def PodOf (inst : Inst) (pod : String) : Prop :=
  ∃ resources ∈ inst.getVnfcResourceInfo, ∃ r ∈ resources, r.computeResource.deploymentPod = some pod

/-- A pod of a deployment that runs a VNFC of an instance. -/
def VnfcPodOf (inst : Inst) (subObj pod : String) : Prop :=
  ∃ info ∈ inst.instantiatedVnfInfo, ∃ resources ∈ info.vnfcResourceInfo,
    ∃ vnfcs ∈ info.vnfcInfo, ∃ vnfc ∈ vnfcs, vnfc.id = subObj ∧
      ∃ r ∈ resources, vnfc.vnfcResourceInfoId = some r.id ∧
        r.computeResource.deploymentPod = some pod

namespace Monitoring

variable (env : Env) (mon : Monitoring)

/-- The sub-object whose pods are meant; those of a connection point are its object's. -/
def runsIn (subject : String × Option String) : Option String :=
  if mon.objectType.ofCompute then subject.2 else none

/-- An object or sub-object has a pod. -/
def HasPods (subject : String × Option String) : Prop :=
  match mon.runsIn subject with
  | none => ∃ pod, PodOf (env.insts subject.1) pod
  | some subObj => ∃ pod, VnfcPodOf (env.insts subject.1) subObj pod

/-- The pods of an object or sub-object as a query names them. -/
def ownPods (subject : String × Option String) : Option String :=
  match mon.runsIn subject with
  | none => (env.insts subject.1).getPodRegexp env.setOrder
  | some subObj =>
    ((env.insts subject.1).getComputeResourceBySubObj subObj).bind ComputeResource.resourceId

/-- What the query is about when the pods are these. -/
def argsFor (subject : String × Option String) (pods : String) : PromArgs where
  pod := pods
  collectionPeriod := mon.collectionPeriod
  reportingPeriod := mon.reportingPeriod
  subObjectInstanceId := if mon.objectType.ofCompute then "*" else subject.2.getD "*"
  namespaceName := (env.insts subject.1).getNamespace

/-- The rule of a metric and a subject with these pods. -/
def ruleWith (metric : String) (subject : String × Option String) (pods : String) : Option Rule :=
  (makePromQl env mon.type (targetOf metric) (mon.argsFor env subject pods)).map fun expr =>
    ⟨mon.type, mon.id, subject.1, subject.2, metric, expr, mon.collectionPeriod⟩

/-- The rule of a metric and a subject, with the subject's own namespace and pods. -/
def ruleFor (metric : String) (subject : String × Option String) : Option Rule :=
  (mon.ownPods env subject).bind (mon.ruleWith env metric subject)

/-- A metric that is asked for and a subject it belongs to that is monitored and has pods. -/
structure IsPair (metric : String) (subject : String × Option String) : Prop where
  asked : mon.Asked metric
  monitored : subject ∈ mon.monitored
  belongs : Belongs mon.objectType metric subject.1
  hasPods : mon.HasPods env subject

/-- The rules are those of the pairs, each of which has one. -/
def Meets (rules : List Rule) : Prop :=
  Exactly (rules.map some) fun rule =>
    ∃ metric subject, mon.IsPair env metric subject ∧ rule = mon.ruleFor env metric subject

/-! ## What it takes -/

/-- There is a query for the metric. -/
def HasQuery (metric : String) : Prop :=
  (env.promQl mon.type (targetOf metric)).isSome = true

/-- What is monitored and has pods. -/
def withPods : List (String × Option String) :=
  mon.monitored.filter fun subject => (mon.ownPods env subject).isSome

/-- Every metric belongs to everything that has pods, which is listed once; without a query for one of
the metrics there is no rule at all. -/
structure Paired : Prop where
  without {metric : String} (asked : mon.Asked metric) (pods : mon.withPods env ≠ [])
    (missing : ¬ mon.HasQuery env metric) (metric' : String) (asked' : mon.Asked metric')
    (subject : String × Option String) (mem : subject ∈ mon.withPods env) :
    ¬ Belongs mon.objectType metric' subject.1
  each (all : ∀ metric, mon.Asked metric → mon.withPods env = [] ∨ mon.HasQuery env metric)
    (metric : String) (asked : mon.Asked metric) :
    (mon.withPods env).Nodup ∧
      ∀ subject ∈ mon.withPods env, Belongs mon.objectType metric subject.1

end Monitoring

/-! ## Pods -/

variable {env : Env} {mon : Monitoring} {inst : Inst} {metric metric' : String}
  {subject subject' : String × Option String}

lemma podRegexp_isSome : (inst.getPodRegexp env.setOrder).isSome = true ↔ ∃ pod, PodOf inst pod := by
  unfold Inst.getPodRegexp PodOf
  cases inst.getVnfcResourceInfo with
  | none => simp
  | some resources =>
    let pods := resources.filterMap fun r => r.computeResource.deploymentPod
    have empty : env.setOrder.order (pods.map podPattern) = [] ↔ pods = [] := by
      rw [List.eq_nil_iff_forall_not_mem, ← List.map_eq_nil_iff (f := podPattern),
        List.eq_nil_iff_forall_not_mem]
      exact forall_congr' fun pattern => not_congr (env.setOrder.mem _ pattern)
    have found : (∃ pod, ∃ resources' ∈ some resources, ∃ r ∈ resources',
        r.computeResource.deploymentPod = some pod) ↔ pods ≠ [] := by
      rw [Ne, List.eq_nil_iff_forall_not_mem, not_forall_not]
      refine exists_congr fun pod => ?_
      simp only [Option.mem_some_iff, exists_eq_left', pods, List.mem_filterMap]
    rw [found]
    show (if resources = [] then none else if env.setOrder.order (pods.map podPattern) = []
      then none else some _ : Option String).isSome = true ↔ _
    by_cases none : resources = []
    · simp [none, pods]
    · by_cases noPods : pods = []
      · rw [if_neg none, if_pos (empty.mpr noPods)]
        simp [noPods]
      · rw [if_neg none, if_neg (fun eq => noPods (empty.mp eq))]
        simp [noPods]

lemma deploymentPod_eq {resource : ComputeResource} (deployed : resource.deploymentPod.isSome = true) :
    resource.deploymentPod = resource.resourceId := by
  unfold ComputeResource.deploymentPod at deployed ⊢
  by_cases isDeployment : resource.vimLevelResourceType = some "Deployment"
  · rw [if_pos isDeployment]
  · rw [if_neg isDeployment] at deployed
    cases deployed

lemma vnfc_found {vnfcs : List VnfcInfo} {info : InstantiatedVnfInfo}
    (isVnfcs : info.vnfcInfo = some vnfcs) (subObj : String) (vnfc : VnfcInfo) :
    vnfcs.find? (fun x => x.vnfcResourceInfoId.isSome && x.id = subObj) = some vnfc ↔
      vnfc ∈ vnfcs ∧ (vnfc.vnfcResourceInfoId.isSome && vnfc.id = subObj) = true := by
  have nodup := info.vnfcs_nodup
  rw [isVnfcs] at nodup
  exact find?_iff_of_nodup (k := subObj) nodup fun x picked =>
    of_decide_eq_true (Bool.and_eq_true_iff.mp picked).2

lemma resource_found {resources : List VnfcResourceInfo} {info : InstantiatedVnfInfo}
    (isResources : info.vnfcResourceInfo = some resources) (key : String) (r : VnfcResourceInfo) :
    resources.find? (fun x => some x.id = some key && x.computeResource.deploymentPod.isSome) =
        some r ↔
      r ∈ resources ∧ (some r.id = some key && r.computeResource.deploymentPod.isSome) = true := by
  have nodup := info.resources_nodup
  rw [isResources] at nodup
  exact find?_iff_of_nodup (k := key) nodup fun x picked =>
    Option.some.inj (of_decide_eq_true (Bool.and_eq_true_iff.mp picked).1)

/-- The compute resource of a sub-object is that of the pod that runs it. -/
lemma computeResource_eq {subObj pod : String} :
    (inst.getComputeResourceBySubObj subObj).bind ComputeResource.resourceId = some pod ↔
      VnfcPodOf inst subObj pod := by
  constructor
  · intro found
    obtain ⟨resource, eq, isPod⟩ := Option.bind_eq_some_iff.mp found
    obtain ⟨info, isInfo, eq⟩ := Option.bind_eq_some_iff.mp eq
    obtain ⟨resources, isResources, eq⟩ := Option.bind_eq_some_iff.mp eq
    obtain ⟨vnfcs, isVnfcs, eq⟩ := Option.bind_eq_some_iff.mp eq
    obtain ⟨vnfc, isVnfc, eq⟩ := Option.bind_eq_some_iff.mp eq
    obtain ⟨r, isResource, eq⟩ := Option.bind_eq_some_iff.mp eq
    obtain rfl := Option.some.inj eq
    obtain ⟨memVnfc, picked⟩ := (vnfc_found isVnfcs subObj vnfc).mp isVnfc
    obtain ⟨hasId, isSub⟩ := Bool.and_eq_true_iff.mp picked
    obtain ⟨key, isKey⟩ := Option.isSome_iff_exists.mp hasId
    rw [isKey] at isResource
    obtain ⟨memResource, picked⟩ := (resource_found isResources key r).mp isResource
    obtain ⟨sameId, deployed⟩ := Bool.and_eq_true_iff.mp picked
    refine ⟨info, isInfo, resources, isResources, vnfcs, isVnfcs, vnfc, memVnfc,
      of_decide_eq_true isSub, r, memResource, isKey.trans (of_decide_eq_true sameId).symm, ?_⟩
    exact (deploymentPod_eq deployed).trans isPod
  · rintro ⟨info, isInfo, resources, isResources, vnfcs, isVnfcs, vnfc, memVnfc, isSub, r,
      memResource, isKey, isPod⟩
    have deployed : r.computeResource.deploymentPod.isSome = true := by
      rw [isPod]
      rfl
    have isVnfc := (vnfc_found isVnfcs subObj vnfc).mpr ⟨memVnfc, by simp [isKey, isSub]⟩
    have isResource := (resource_found isResources r.id r).mpr
      ⟨memResource, by simp [deployed]⟩
    have eq : inst.getComputeResourceBySubObj subObj = some r.computeResource := by
      unfold Inst.getComputeResourceBySubObj
      rw [isInfo]
      show (info.vnfcResourceInfo.bind fun _ => info.vnfcInfo.bind _) = _
      rw [isResources, isVnfcs]
      show (vnfcs.find? _).bind _ = _
      rw [isVnfc]
      show (resources.find? _).bind _ = _
      rw [isKey, isResource]
      rfl
    rw [eq]
    exact (deploymentPod_eq deployed).symm.trans isPod

lemma ownPods_isSome : (mon.ownPods env subject).isSome = true ↔ mon.HasPods env subject := by
  unfold Monitoring.ownPods Monitoring.HasPods
  cases mon.runsIn subject with
  | none => exact podRegexp_isSome
  | some subObj =>
    rw [Option.isSome_iff_exists]
    exact exists_congr fun pod => computeResource_eq

lemma mem_withPods :
    subject ∈ mon.withPods env ↔ subject ∈ mon.monitored ∧ mon.HasPods env subject := by
  rw [Monitoring.withPods, List.mem_filter, ownPods_isSome]

/-! ## Pairs -/

namespace Monitoring

lemma ruleWith_isSome (pods : String) :
    (mon.ruleWith env metric subject pods).isSome = true ↔ mon.HasQuery env metric := by
  unfold ruleWith makePromQl HasQuery
  cases env.promQl mon.type (targetOf metric) with
  | none => simp
  | some query => simp

lemma ruleFor_isSome (mem : subject ∈ mon.withPods env) :
    (mon.ruleFor env metric subject).isSome = true ↔ mon.HasQuery env metric := by
  obtain ⟨pods, isPods⟩ := Option.isSome_iff_exists.mp (List.mem_filter.mp mem).2
  rw [ruleFor, isPods]
  exact ruleWith_isSome pods

/-- The labels of a rule tell the pair that it is for. -/
lemma pair_of_ruleFor {rule : Rule} (made : mon.ruleFor env metric subject = some rule) :
    metric = rule.metric ∧ subject = (rule.objectInstanceId, rule.subObjectInstanceId) := by
  obtain ⟨pods, -, made⟩ := Option.bind_eq_some_iff.mp made
  obtain ⟨expr, -, eq⟩ := Option.map_eq_some_iff.mp made
  subst eq
  exact ⟨rfl, rfl⟩

lemma ruleFor_inj (isSome : (mon.ruleFor env metric subject).isSome = true)
    (eq : mon.ruleFor env metric subject = mon.ruleFor env metric' subject') :
    metric = metric' ∧ subject = subject' := by
  obtain ⟨rule, made⟩ := Option.isSome_iff_exists.mp isSome
  obtain ⟨isMetric, isSubject⟩ := pair_of_ruleFor made
  obtain ⟨isMetric', isSubject'⟩ := pair_of_ruleFor (eq.symm.trans made)
  exact ⟨isMetric.trans isMetric'.symm, isSubject.trans isSubject'.symm⟩

lemma isPair_iff : mon.IsPair env metric subject ↔
    mon.Asked metric ∧ subject ∈ mon.withPods env ∧ Belongs mon.objectType metric subject.1 := by
  rw [mem_withPods]
  exact ⟨fun pair => ⟨pair.asked, ⟨pair.monitored, pair.hasPods⟩, pair.belongs⟩,
    fun ⟨asked, ⟨monitored, hasPods⟩, belongs⟩ => ⟨asked, monitored, belongs, hasPods⟩⟩

/-- Without any rule, there must be no pair. -/
lemma meets_nil : mon.Meets env [] ↔ ∀ metric subject, ¬ mon.IsPair env metric subject := by
  constructor
  · intro meets metric subject pair
    have mem := (meets.mem (mon.ruleFor env metric subject)).mpr ⟨metric, subject, pair, rfl⟩
    cases mem
  · rintro no
    apply Exactly.nil
    rintro rule ⟨metric, subject, pair, -⟩
    exact no metric subject pair

section Pods

variable {obj subObj pods : String}

lemma ownPods_object :
    mon.ownPods env (obj, none) = (env.insts obj).getPodRegexp env.setOrder := by
  unfold ownPods runsIn
  rw [ite_self]

lemma ownPods_vnfc (isCompute : mon.objectType.ofCompute = true) :
    mon.ownPods env (obj, some subObj) =
      ((env.insts obj).getComputeResourceBySubObj subObj).bind ComputeResource.resourceId := by
  unfold ownPods runsIn
  rw [if_pos isCompute]

lemma ownPods_cp (notCompute : ¬ mon.objectType.ofCompute = true) :
    mon.ownPods env (obj, some subObj) = (env.insts obj).getPodRegexp env.setOrder := by
  unfold ownPods runsIn
  rw [if_neg notCompute]

/-- Without resources, nothing has pods. -/
lemma ownPods_eq_none (noResources : (env.insts subject.1).getVnfcResourceInfo.getD [] = []) :
    mon.ownPods env subject = none := by
  rw [← Option.not_isSome_iff_eq_none, ownPods_isSome, HasPods]
  cases mon.runsIn subject with
  | none =>
    rintro ⟨pod, resources, isResources, r, mem, -⟩
    rw [isResources] at noResources
    obtain rfl : resources = [] := noResources
    cases mem
  | some subObj =>
    rintro ⟨pod, info, isInfo, resources, isResources, vnfcs, -, vnfc, -, -, r, mem, -⟩
    rw [Inst.getVnfcResourceInfo, isInfo, Option.bind_some, isResources] at noResources
    obtain rfl : resources = [] := noResources
    cases mem

variable (env mon)

lemma argsFor_object : mon.argsFor env (obj, none) pods =
    { pod := pods, collectionPeriod := mon.collectionPeriod
      reportingPeriod := mon.reportingPeriod, namespaceName := (env.insts obj).getNamespace } := by
  unfold argsFor
  rw [Option.getD_none, ite_self]

lemma argsFor_vnfc (isCompute : mon.objectType.ofCompute = true) :
    mon.argsFor env (obj, some subObj) pods =
      { pod := pods, collectionPeriod := mon.collectionPeriod
        reportingPeriod := mon.reportingPeriod, namespaceName := (env.insts obj).getNamespace } := by
  unfold argsFor
  rw [if_pos isCompute]

lemma argsFor_cp (notCompute : ¬ mon.objectType.ofCompute = true) :
    mon.argsFor env (obj, some subObj) pods =
      { pod := pods, collectionPeriod := mon.collectionPeriod
        reportingPeriod := mon.reportingPeriod, subObjectInstanceId := subObj
        namespaceName := (env.insts obj).getNamespace } := by
  unfold argsFor
  rw [if_neg notCompute]
  rfl

end Pods

section Turns

variable {α : Type} {subjectOf : α → String × Option String} {xs : List α}

/-- A loop that goes on where there are no pods makes the rules for what has pods. -/
lemma turns_eq (subjectOf : α → String × Option String) {turn : α → Option (List Rule)}
    (skips : ∀ x, mon.ownPods env (subjectOf x) = none → turn x = some [])
    (makes : ∀ x pods, mon.ownPods env (subjectOf x) = some pods →
      turn x = (mon.ruleWith env metric (subjectOf x) pods).map fun rule => [rule]) :
    (xs.mapM turn).map List.flatten =
      ((xs.map subjectOf).filter fun subject => (mon.ownPods env subject).isSome).mapM
        (mon.ruleFor env metric) := by
  rw [List.filter_map, List.mapM_map]
  apply mapM_flatten_filter
  · intro x isSome
    obtain ⟨pods, isPods⟩ := Option.isSome_iff_exists.mp isSome
    rw [makes x pods isPods]
    show _ = (mon.ruleFor env metric (subjectOf x)).map _
    rw [ruleFor, isPods]
    rfl
  · intro x isNone
    exact skips x (Option.isNone_iff_eq_none.mp (by simpa using isNone))

/-- Nothing has pods. -/
lemma no_pods (lacks : ∀ x, mon.ownPods env (subjectOf x) = none) :
    (xs.map subjectOf).filter (fun subject => (mon.ownPods env subject).isSome) = [] := by
  rw [List.filter_eq_nil_iff]
  intro subject mem
  obtain ⟨x, -, rfl⟩ := List.mem_map.mp mem
  rw [lacks x]
  simp

/-- Everything has the same pods. -/
lemma same_pods (pods : String) (same : ∀ x, mon.ownPods env (subjectOf x) = some pods) :
    ((xs.map subjectOf).filter fun subject => (mon.ownPods env subject).isSome).mapM
        (mon.ruleFor env metric) =
      xs.mapM fun x => mon.ruleWith env metric (subjectOf x) pods := by
  have all : (xs.map subjectOf).filter (fun subject => (mon.ownPods env subject).isSome) =
      xs.map subjectOf := by
    rw [List.filter_eq_self]
    intro subject mem
    obtain ⟨x, -, rfl⟩ := List.mem_map.mp mem
    rw [same x]
    rfl
  have each : mon.ruleFor env metric ∘ subjectOf =
      fun x => mon.ruleWith env metric (subjectOf x) pods := by
    funext x
    show mon.ruleFor env metric (subjectOf x) = _
    rw [ruleFor, same x]
    rfl
  rw [all, List.mapM_map, each]

end Turns

/-- What is left of the rules of all metrics. -/
lemma produced_eq {decomposed : Option (List String)} {rulesFor : String → Option (List Rule)}
    (each : ∀ metric, rulesFor metric = (mon.withPods env).mapM (mon.ruleFor env metric)) :
    (do
      let metrics ← decomposed
      let rules ← metrics.mapM rulesFor
      if rules.flatten = [] then none else some rules.flatten).getD [] =
      ((decomposed.getD [] ×ˢ mon.withPods env).mapM fun pair =>
        mon.ruleFor env pair.1 pair.2).getD [] := by
  cases decomposed with
  | none => rfl
  | some metrics =>
    rw [Option.getD_some, ← mapM_product]
    rw [funext each]
    show ((metrics.mapM fun metric => (mon.withPods env).mapM (mon.ruleFor env metric)).bind
      fun rules => if rules.flatten = [] then none else some rules.flatten).getD [] = _
    cases metrics.mapM fun metric => (mon.withPods env).mapM (mon.ruleFor env metric) with
    | none => rfl
    | some rules =>
      show (if rules.flatten = [] then none else some rules.flatten).getD [] = rules.flatten
      by_cases nothing : rules.flatten = []
      · rw [if_pos nothing, nothing]
        rfl
      · rw [if_neg nothing]
        rfl

/-- With a query for every metric, everything that has pods must be paired with every metric. -/
lemma meets_of_made {metrics : List String} {rules : List Rule} (nodup : metrics.Nodup)
    (exact : ∀ metric, metric ∈ metrics ↔ mon.Asked metric)
    (made : (metrics ×ˢ mon.withPods env).mapM (fun pair => mon.ruleFor env pair.1 pair.2) =
      some rules) :
    mon.Meets env rules ↔ ∀ metric, mon.Asked metric → (mon.withPods env).Nodup ∧
      ∀ subject ∈ mon.withPods env, Belongs mon.objectType metric subject.1 := by
  have each := (mapM_some_iff.mp made).1
  have isSome {metric subject} (asked : mon.Asked metric) (mem : subject ∈ mon.withPods env) :
      (mon.ruleFor env metric subject).isSome = true :=
    each (metric, subject) (List.mem_product.mpr ⟨(exact metric).mpr asked, mem⟩)
  unfold Meets
  rw [map_some_of_mapM made]
  constructor
  · intro meets metric asked
    constructor
    · have row : ((mon.withPods env).map (Prod.mk metric)).Sublist (metrics ×ˢ mon.withPods env) :=
        List.sublist_flatten_of_mem (List.mem_map.mpr ⟨metric, (exact metric).mpr asked, rfl⟩)
      exact (meets.nodup.of_map.sublist row).of_map
    · intro subject mem
      have inRules : mon.ruleFor env metric subject ∈
          (metrics ×ˢ mon.withPods env).map fun pair => mon.ruleFor env pair.1 pair.2 :=
        List.mem_map.mpr ⟨(metric, subject),
          List.mem_product.mpr ⟨(exact metric).mpr asked, mem⟩, rfl⟩
      obtain ⟨metric', subject', pair, eq⟩ := (meets.mem _).mp inRules
      obtain ⟨rfl, rfl⟩ := ruleFor_inj (isSome asked mem) eq
      exact pair.belongs
  · intro paired
    constructor
    · refine List.Nodup.map_on ?_ ?_
      · rintro ⟨metric, subject⟩ mem ⟨metric', subject'⟩ - eq
        obtain ⟨asked, mem⟩ := List.mem_product.mp mem
        obtain ⟨rfl, rfl⟩ := ruleFor_inj (isSome ((exact metric).mp asked) mem) eq
        rfl
      · cases metrics with
        | nil => exact List.nodup_nil
        | cons metric rest =>
          exact nodup.product (paired metric ((exact metric).mp List.mem_cons_self)).1
    · intro rule
      rw [List.mem_map]
      constructor
      · rintro ⟨⟨metric, subject⟩, mem, rfl⟩
        obtain ⟨asked, mem⟩ := List.mem_product.mp mem
        have asked := (exact metric).mp asked
        exact ⟨metric, subject, isPair_iff.mpr ⟨asked, mem, (paired metric asked).2 subject mem⟩, rfl⟩
      · rintro ⟨metric, subject, pair, rfl⟩
        obtain ⟨asked, mem, -⟩ := isPair_iff.mp pair
        exact ⟨(metric, subject), List.mem_product.mpr ⟨(exact metric).mpr asked, mem⟩, rfl⟩

/-- What is produced from every metric and everything that has pods is what it should be exactly if
they are paired. -/
theorem meets_iff {metrics : List String} (nodup : metrics.Nodup)
    (exact : ∀ metric, metric ∈ metrics ↔ mon.Asked metric) :
    mon.Meets env (((metrics ×ˢ mon.withPods env).mapM fun pair =>
      mon.ruleFor env pair.1 pair.2).getD []) ↔ mon.Paired env := by
  cases made : (metrics ×ˢ mon.withPods env).mapM fun pair => mon.ruleFor env pair.1 pair.2 with
  | none =>
    obtain ⟨⟨metric, subject⟩, mem, failed⟩ := exists_of_mapM_none made
    obtain ⟨asked, mem⟩ := List.mem_product.mp mem
    have asked := (exact metric).mp asked
    have missing : ¬ mon.HasQuery env metric := by
      rw [← ruleFor_isSome mem, failed]
      simp
    have pods : mon.withPods env ≠ [] := List.ne_nil_of_mem mem
    rw [Option.getD_none, meets_nil]
    constructor
    · intro no
      refine ⟨fun _ _ _ metric' asked' subject' mem' belongs => ?_, fun all => ?_⟩
      · exact no metric' subject' (isPair_iff.mpr ⟨asked', mem', belongs⟩)
      · rcases all metric asked with nil | query
        · exact absurd nil pods
        · exact absurd query missing
    · intro paired metric' subject' pair
      obtain ⟨asked', mem', belongs⟩ := isPair_iff.mp pair
      exact paired.without asked pods missing metric' asked' subject' mem' belongs
  | some rules =>
    have queries {metric : String} (asked : mon.Asked metric) (pods : mon.withPods env ≠ []) :
        mon.HasQuery env metric := by
      obtain ⟨subject, mem⟩ := List.exists_mem_of_ne_nil _ pods
      apply (ruleFor_isSome mem).mp
      exact (mapM_some_iff.mp made).1 (metric, subject)
        (List.mem_product.mpr ⟨(exact metric).mpr asked, mem⟩)
    rw [Option.getD_some, meets_of_made nodup exact made]
    constructor
    · intro each
      exact ⟨fun asked pods missing => absurd (queries asked pods) missing,
        fun _ metric asked => each metric asked⟩
    · intro paired metric asked
      refine paired.each (fun metric' asked' => ?_) metric asked
      exact (em (mon.withPods env = [])).imp_right (queries asked')

end Monitoring

end Tacker.Rules
