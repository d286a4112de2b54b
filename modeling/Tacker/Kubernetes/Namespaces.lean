import Mathlib.Data.List.Dedup
import Tacker.Basis.Attempt

/-!
# Namespaces of the manifests

`get_k8s_reses_from_json_files` of `kubernetes_utils.py` after the files have been read. Which kinds
are namespaced is known in two places: the names in `SUPPORTED_NAMESPACE_KIND`, and the classes of
`kubernetes_resource.py`. The members of a manifest that are read are missing or have their shapes.
-/

namespace Tacker.Kubernetes

open Tacker.Basis

/-! ## Kinds -/

/-- `SUPPORTED_NAMESPACE_KIND`. Between two of its names there is no comma, so that they are one. -/
def supportedNamespaceKind : List String :=
  ["Binding", "ConfigMap", "ControllerRevision", "DaemonSet", "Deployment",
    "HorizontalPodAutoscaler", "Job", "Lease", "LimitRange", "LocalSubjectAccessReview",
    "NetworkPolicy", "PersistentVolumeClaim", "Pod", "PodTemplate", "ReplicaSet", "ResourceQuota",
    "Role" ++ "RoleBinding", "Secret", "Service", "ServiceAccount", "StatefulSet"]

/-- `UNLABELED_KIND`. -/
def unlabeledKind : List String :=
  ["SubjectAccessReview", "LocalSubjectAccessReview", "SelfSubjectAccessReview",
    "SelfSubjectRulesReview", "TokenReview"]

/-- What a class of `kubernetes_resource.py` is derived from. -/
inductive ResourceClass where
  | commonResource
  | namespacedResource
  | clusterResource
  | authenticationResource
deriving DecidableEq

/-- The subclasses of `NamespacedResource`. -/
def namespacedResources : List String :=
  ["ConfigMap", "LimitRange", "PersistentVolumeClaim", "Pod", "PodTemplate", "ResourceQuota",
    "Secret", "Service", "ServiceAccount", "ControllerRevision", "DaemonSet", "Deployment",
    "ReplicaSet", "StatefulSet", "HorizontalPodAutoscaler", "Job", "Lease", "NetworkPolicy", "Role",
    "RoleBinding"]

/-- The subclasses of `ClusterResource`. -/
def clusterResources : List String :=
  ["Namespace", "Node", "PersistentVolume", "APIService", "ClusterRole", "ClusterRoleBinding",
    "PriorityClass", "StorageClass", "VolumeAttachment"]

/-- The subclasses of `AuthenticationResource`. -/
def authenticationResources : List String :=
  ["TokenReview", "LocalSubjectAccessReview", "SelfSubjectAccessReview", "SelfSubjectRulesReview",
    "SubjectAccessReview"]

/-- The other subclasses of `CommonResource`. -/
def commonResources : List String :=
  ["ComponentStatus", "Container", "Volume"]

/-- `getattr(kubernetes_resource, kind)`, for a kind of Kubernetes. -/
def classOf (kind : String) : Option ResourceClass :=
  if kind ∈ namespacedResources then some .namespacedResource
  else if kind ∈ clusterResources then some .clusterResource
  else if kind ∈ authenticationResources then some .authenticationResource
  else if kind ∈ commonResources then some .commonResource
  else none

/-! ## Manifests and resources -/

/-- `metadata` of a manifest. -/
structure Metadata where
  name : Option String := none
  nameSpace : Option String := none
  labels : Option (List (String × String)) := none
deriving DecidableEq

/-- A manifest. -/
structure K8sRes where
  kind : Option String := none
  metadata : Option Metadata := none
deriving DecidableEq

/-- The attributes of a `CommonResource`. -/
structure CommonResource where
  kind : String
  cls : ResourceClass
  nameSpace : Option String
  name : Option String
  instId : Option String
deriving DecidableEq

/-- The exceptions. -/
inductive ManifestFault where
  | k8sInvalidManifestFound
  | namespaceNotUniform
deriving DecidableEq

/-- `VNF_INSTANCE_ID_LABEL`. -/
def vnfInstanceIdLabel : String := "tacker_vnf_instance_id"

namespace K8sRes

/-- The namespace that the manifest names. -/
def named (res : K8sRes) : Option String :=
  res.metadata.bind Metadata.nameSpace

/-- The kind is in `SUPPORTED_NAMESPACE_KIND`. -/
def listed (res : K8sRes) : Bool :=
  res.kind.any (· ∈ supportedNamespaceKind)

/-- The namespace of a listed kind is set. -/
def setNamespace (nameSpace : Option String) (res : K8sRes) : K8sRes :=
  if res.listed then
    let metadata := res.metadata.getD {}
    match nameSpace with
    | none => { res with
        metadata := some { metadata with
          nameSpace := some (metadata.nameSpace.getD "default") } }
    | some nameSpace => { res with
        metadata := some { metadata with nameSpace := some nameSpace } }
  else res

/-- The label that identifies the instance is set. -/
def setLabel (instId : String) (res : K8sRes) : K8sRes :=
  if res.kind.any (· ∈ unlabeledKind) then res
  else
    let metadata := res.metadata.getD {}
    { res with
      metadata := some { metadata with
        labels := some (((metadata.labels.getD []).filter (·.1 ≠ vnfInstanceIdLabel)) ++
          [(vnfInstanceIdLabel, instId)]) } }

/-- `not k8s_res.get('kind')`. -/
def kindless (res : K8sRes) : Bool :=
  res.kind = none || res.kind = some ""

/-- The body of the first loop. -/
def prepare (nameSpace : Option String) (instId : String) (res : K8sRes) :
    Except ManifestFault K8sRes :=
  if res.kindless then .error .k8sInvalidManifestFound
  else .ok ((res.setNamespace nameSpace).setLabel instId)

/-- `cls(k8s_api_client, k8s_res)`, if there is the class. -/
def toResource (res : K8sRes) : Option CommonResource := do
  let kind ← res.kind
  let cls ← classOf kind
  return {
    kind := kind
    cls := cls
    nameSpace := res.named
    name := res.metadata.bind Metadata.name
    instId := (res.metadata.bind Metadata.labels).bind fun labels =>
      (labels.find? (·.1 = vnfInstanceIdLabel)).map Prod.snd }

end K8sRes

/-- The check of the namespaces, and the one that is returned. -/
def checkNamespace (nameSpace : Option String) (k8sResources : List K8sRes) :
    Except ManifestFault String :=
  match nameSpace with
  | some nameSpace => .ok nameSpace
  | none =>
    match ((k8sResources.filter K8sRes.listed).filterMap K8sRes.named).dedup with
    | [] => .ok "default"
    | [nameSpace] => .ok nameSpace
    | _ => .error .namespaceNotUniform

/-- `get_k8s_reses_from_json_files`, on the manifests of the files. -/
def getK8sReses (nameSpace : Option String) (instId : String) (manifests : List K8sRes) :
    Except ManifestFault (List CommonResource × String) := do
  let k8sResources ← manifests.mapM (K8sRes.prepare nameSpace instId)
  let nameSpace ← checkNamespace nameSpace k8sResources
  return (k8sResources.filterMap K8sRes.toResource, nameSpace)

/-! ## What the function is for -/

namespace K8sRes

/-- The kind is a subclass of `NamespacedResource`. -/
def namespaced (res : K8sRes) : Bool :=
  res.kind.bind classOf = some .namespacedResource

/-- The namespace in which a resource ends up if none is requested. -/
def endsIn (res : K8sRes) : String :=
  res.named.getD "default"

end K8sRes

/-- A manifest has no kind, or the namespaced resources end up in different namespaces. -/
def Refused (nameSpace : Option String) (manifests : List K8sRes) : Prop :=
  (∃ res ∈ manifests, res.kindless = true) ∨
  nameSpace = none ∧ ∃ res ∈ manifests, ∃ res' ∈ manifests,
    res.namespaced = true ∧ res'.namespaced = true ∧ res.endsIn ≠ res'.endsIn

/-- The manifests are refused, or every namespaced resource has the namespace that is returned. -/
def InOneNamespace (nameSpace : Option String) (manifests : List K8sRes) :
    Except ManifestFault (List CommonResource × String) → Prop
  | .error _ => Refused nameSpace manifests
  | .ok (reses, returned) => ¬ Refused nameSpace manifests ∧
    (∀ requested, nameSpace = some requested → returned = requested) ∧
    reses.map CommonResource.kind =
      manifests.filterMap (fun res => res.kind.filter fun kind => (classOf kind).isSome) ∧
    ∀ res ∈ reses, res.cls = .namespacedResource → res.nameSpace = some returned

/-! ## When it does it -/

namespace K8sRes

variable {res : K8sRes}

/-- The kind is namespaced and not listed. -/
def missed (res : K8sRes) : Bool :=
  res.kind = some "Role" || res.kind = some "RoleBinding"

lemma classOf_iff {kind : String} :
    classOf kind = some .namespacedResource ↔ kind ∈ namespacedResources := by
  unfold classOf
  constructor
  · intro eq
    split at eq
    · assumption
    · split at eq
      · cases eq
      · split at eq
        · cases eq
        · split at eq
          · cases eq
          · cases eq
  · intro mem
    rw [if_pos mem]

/-- The names of the list miss two of the classes. -/
lemma missed_iff : res.missed = true ↔ res.namespaced = true ∧ res.listed = false := by
  have only : ∀ kind ∈ namespacedResources, kind ∈ supportedNamespaceKind ∨ kind = "Role" ∨
    kind = "RoleBinding" := by decide
  have not : ∀ kind, kind = "Role" ∨ kind = "RoleBinding" →
      kind ∈ namespacedResources ∧ kind ∉ supportedNamespaceKind := by
    rintro kind (rfl | rfl)
    · decide
    · decide
  unfold missed namespaced listed
  cases res.kind with
  | none => simp
  | some kind =>
    simp only [Option.some.injEq, Bool.or_eq_true, decide_eq_true_eq, Option.bind_some, classOf_iff,
      Option.any_some, decide_eq_false_iff_not]
    constructor
    · exact not kind
    · rintro ⟨mem, out⟩
      exact (only kind mem).resolve_left out

/-! ## The manifests after the loop -/

@[simp] lemma kind_setNamespace {nameSpace : Option String} :
    (res.setNamespace nameSpace).kind = res.kind := by
  unfold setNamespace
  split
  · cases nameSpace with
    | none => rfl
    | some nameSpace => rfl
  · rfl

@[simp] lemma kind_setLabel {instId : String} : (res.setLabel instId).kind = res.kind := by
  unfold setLabel
  split
  · rfl
  · rfl

@[simp] lemma named_setLabel {instId : String} : (res.setLabel instId).named = res.named := by
  unfold setLabel named
  split
  · rfl
  · cases res.metadata with
    | none => rfl
    | some metadata => rfl

lemma named_setNamespace {nameSpace : Option String} :
    (res.setNamespace nameSpace).named =
      if res.listed then some (nameSpace.getD res.endsIn) else res.named := by
  unfold setNamespace endsIn named
  split
  · cases nameSpace with
    | none =>
      cases res.metadata with
      | none => rfl
      | some metadata => rfl
    | some nameSpace => rfl
  · rfl

/-- The manifest after the first loop. -/
def prepared (nameSpace : Option String) (instId : String) (res : K8sRes) : K8sRes :=
  (res.setNamespace nameSpace).setLabel instId

variable {nameSpace : Option String} {instId : String}

@[simp] lemma kind_prepared : (res.prepared nameSpace instId).kind = res.kind := by
  rw [prepared, kind_setLabel, kind_setNamespace]

@[simp] lemma listed_prepared : (res.prepared nameSpace instId).listed = res.listed := by
  rw [listed, listed, kind_prepared]

lemma named_prepared : (res.prepared nameSpace instId).named =
    if res.listed then some (nameSpace.getD res.endsIn) else res.named := by
  rw [prepared, named_setLabel, named_setNamespace]

end K8sRes

variable {nameSpace : Option String} {instId : String} {manifests : List K8sRes}

/-- Every manifest has a kind. -/
lemma mapM_prepare (all : ∀ res ∈ manifests, res.kindless = false) :
    manifests.mapM (K8sRes.prepare nameSpace instId) =
      .ok (manifests.map (K8sRes.prepared nameSpace instId)) := by
  induction manifests with
  | nil => rfl
  | cons res manifests ih =>
    have here : K8sRes.prepare nameSpace instId res = .ok (res.prepared nameSpace instId) := by
      rw [K8sRes.prepare, all res List.mem_cons_self]
      rfl
    rw [List.mapM_cons, here, ih fun r mem => all r (List.mem_cons_of_mem res mem)]
    rfl

/-- A manifest has no kind. -/
lemma mapM_prepare_error (some : ∃ res ∈ manifests, res.kindless = true) :
    ∃ fault, manifests.mapM (K8sRes.prepare nameSpace instId) = .error fault := by
  cases eq : manifests.mapM (K8sRes.prepare nameSpace instId) with
  | error fault => exact ⟨fault, rfl⟩
  | ok k8sResources =>
    obtain ⟨res, mem, kindless⟩ := some
    obtain ⟨made, eq'⟩ := mapM_ok_of_mem eq mem
    rw [K8sRes.prepare, if_pos kindless] at eq'
    cases eq'

/-- The resources of the namespaced classes have the namespace exactly if their manifests do. -/
lemma all_in_iff {ms : List K8sRes} {returned : String} :
    (∀ res ∈ ms.filterMap K8sRes.toResource, res.cls = .namespacedResource →
        res.nameSpace = some returned) ↔
      ∀ res ∈ ms, res.namespaced = true → res.named = some returned := by
  constructor
  · intro all res mem namespaced
    obtain ⟨kind, eq, cls⟩ := Option.bind_eq_some_iff.mp (of_decide_eq_true namespaced)
    have made : ∃ made, res.toResource = some made ∧ made.cls = .namespacedResource ∧
        made.nameSpace = res.named := by
      unfold K8sRes.toResource
      rw [eq]
      simp only [bind, Option.bind, cls]
      exact ⟨_, rfl, rfl, rfl⟩
    obtain ⟨made, eq, cls, nameSpace⟩ := made
    rw [← nameSpace]
    exact all made (List.mem_filterMap.mpr ⟨res, mem, eq⟩) cls
  · intro all made mem cls
    obtain ⟨res, there, eq⟩ := List.mem_filterMap.mp mem
    obtain ⟨kind, has, eq⟩ := Option.bind_eq_some_iff.mp eq
    obtain ⟨cls', found, eq⟩ := Option.bind_eq_some_iff.mp eq
    cases eq
    obtain rfl : cls' = .namespacedResource := cls
    apply all res there
    apply decide_eq_true
    rw [has, Option.bind_some]
    exact found

/-- There is a resource for each manifest whose kind has a class. -/
lemma kinds_toResource {ms : List K8sRes} :
    (ms.filterMap K8sRes.toResource).map CommonResource.kind =
      ms.filterMap (fun res => res.kind.filter fun kind => (classOf kind).isSome) := by
  rw [List.map_filterMap]
  apply List.filterMap_congr
  intro res _
  unfold K8sRes.toResource
  cases res.kind with
  | none => rfl
  | some kind =>
    cases found : classOf kind with
    | none => simp [Option.filter, found]
    | some cls => simp [Option.filter, found]

/-! ## The uniformity check -/

/-- The listed manifests all end up in the namespace, which is the default one if there are none. -/
def ListedIn (manifests : List K8sRes) (nameSpace : String) : Prop :=
  (∀ res ∈ manifests, res.listed = true → res.endsIn = nameSpace) ∧
  ((∀ res ∈ manifests, res.listed = false) → nameSpace = "default")

/-- Two of the listed manifests end up in different namespaces. -/
def ListedApart (manifests : List K8sRes) : Prop :=
  ∃ res ∈ manifests, ∃ res' ∈ manifests, res.listed = true ∧ res'.listed = true ∧
    res.endsIn ≠ res'.endsIn

lemma named_listed : ((manifests.map (K8sRes.prepared none instId)).filter K8sRes.listed).filterMap
    K8sRes.named = (manifests.filter K8sRes.listed).map K8sRes.endsIn := by
  induction manifests with
  | nil => rfl
  | cons res manifests ih =>
    cases listed : res.listed with
    | false =>
      rw [List.map_cons, List.filter_cons_of_neg (by simp [listed]),
        List.filter_cons_of_neg (by simp [listed])]
      exact ih
    | true =>
      have named : (res.prepared none instId).named = some res.endsIn := by
        rw [K8sRes.named_prepared, if_pos listed]
        rfl
      rw [List.map_cons, List.filter_cons_of_pos (by simp [listed]),
        List.filter_cons_of_pos (by simp [listed]), List.filterMap_cons_some named, ih]
      rfl

lemma mem_listed {nameSpace : String} : nameSpace ∈ (manifests.filter K8sRes.listed).map
    K8sRes.endsIn ↔ ∃ res ∈ manifests, res.listed = true ∧ res.endsIn = nameSpace := by
  simp only [List.mem_map, List.mem_filter, and_assoc]

/-- Without a request the namespace of the listed manifests is returned, unless they have two. -/
lemma checkNamespace_none (instId : String) (manifests : List K8sRes) :
    (∃ nameSpace, checkNamespace none (manifests.map (K8sRes.prepared none instId)) = .ok nameSpace ∧
      ListedIn manifests nameSpace) ∨
    (∃ fault, checkNamespace none (manifests.map (K8sRes.prepared none instId)) = .error fault) ∧
      ListedApart manifests := by
  simp only [checkNamespace, named_listed]
  split
  · case h_1 none =>
    refine .inl ⟨_, rfl, ?_, fun _ => rfl⟩
    intro res mem listed
    have mem' := List.mem_dedup.mpr (mem_listed.mpr ⟨res, mem, listed, rfl⟩)
    rw [none] at mem'
    cases mem'
  · case h_2 nameSpace one =>
    have mem_iff : ∀ x, x ∈ (manifests.filter K8sRes.listed).map K8sRes.endsIn ↔ x = nameSpace := by
      intro x
      rw [← List.mem_dedup, one, List.mem_singleton]
    refine .inl ⟨nameSpace, rfl, ?_, ?_⟩
    · intro res mem listed
      exact (mem_iff res.endsIn).mp (mem_listed.mpr ⟨res, mem, listed, rfl⟩)
    · intro none
      obtain ⟨res, mem, listed, -⟩ := mem_listed.mp ((mem_iff nameSpace).mpr rfl)
      rw [none res mem] at listed
      cases listed
  · case h_3 not_nil not_single =>
    refine .inr ⟨⟨_, rfl⟩, ?_⟩
    cases dedup : ((manifests.filter K8sRes.listed).map K8sRes.endsIn).dedup with
    | nil => exact absurd dedup not_nil
    | cons x rest =>
      cases rest with
      | nil => exact absurd dedup (not_single x)
      | cons y rest =>
        have nodup := List.nodup_dedup ((manifests.filter K8sRes.listed).map K8sRes.endsIn)
        rw [dedup] at nodup
        have ne : x ≠ y := fun eq => (List.nodup_cons.mp nodup).1 (eq ▸ List.mem_cons_self)
        have here : ∀ z ∈ x :: y :: rest, ∃ res ∈ manifests, res.listed = true ∧ res.endsIn = z := by
          intro z mem
          exact mem_listed.mp (List.mem_dedup.mp (dedup ▸ mem))
        obtain ⟨res, mem, listed, eq⟩ := here x List.mem_cons_self
        obtain ⟨res', mem', listed', eq'⟩ := here y (List.mem_cons_of_mem x List.mem_cons_self)
        exact ⟨res, mem, res', mem', listed, listed', by rw [eq, eq']; exact ne⟩

/-! ## The condition -/

/-- The namespaced resources end up in different namespaces. -/
def Apart (manifests : List K8sRes) : Prop :=
  ∃ res ∈ manifests, ∃ res' ∈ manifests, res.namespaced = true ∧ res'.namespaced = true ∧
    res.endsIn ≠ res'.endsIn

/-- Every role and role binding names the namespace itself. -/
def RolesIn (manifests : List K8sRes) (nameSpace : String) : Prop :=
  ∀ res ∈ manifests, res.missed = true → res.named = some nameSpace

/-- The roles name the namespace that is requested, or without a request that of the listed
manifests; where these have two, so have the namespaced resources. -/
def RolesFollow (nameSpace : Option String) (manifests : List K8sRes) : Prop :=
  match nameSpace with
  | some nameSpace => RolesIn manifests nameSpace
  | none => (∃ nameSpace, ListedIn manifests nameSpace ∧ RolesIn manifests nameSpace) ∨
    ListedApart manifests ∧ Apart manifests

lemma ListedIn.not_apart {nameSpace : String} (within : ListedIn manifests nameSpace) :
    ¬ ListedApart manifests := by
  rintro ⟨res, mem, res', mem', listed, listed', ne⟩
  apply ne
  rw [within.1 res mem listed, within.1 res' mem' listed']

lemma ListedIn.unique {one other : String} (within : ListedIn manifests one)
    (within' : ListedIn manifests other) : one = other := by
  by_cases none : ∀ res ∈ manifests, res.listed = false
  · rw [within.2 none, within'.2 none]
  · push Not at none
    obtain ⟨res, mem, listed⟩ := none
    have listed : res.listed = true := by simpa using listed
    rw [← within.1 res mem listed, within'.1 res mem listed]

/-- A namespaced kind is listed or missed. -/
lemma K8sRes.listed_or_missed {res : K8sRes} (namespaced : res.namespaced = true) :
    res.listed = true ∨ res.missed = true := by
  cases listed : res.listed with
  | true => exact .inl rfl
  | false => exact .inr (K8sRes.missed_iff.mpr ⟨namespaced, listed⟩)

/-- The namespaced resources have the namespace exactly if the roles name it. -/
lemma all_prepared_iff {returned : String}
    (listed : ∀ res ∈ manifests, res.listed = true → nameSpace.getD res.endsIn = returned) :
    (∀ res ∈ (manifests.map (K8sRes.prepared nameSpace instId)).filterMap K8sRes.toResource,
      res.cls = .namespacedResource → res.nameSpace = some returned) ↔
        RolesIn manifests returned := by
  rw [all_in_iff]
  constructor
  · intro all res mem missed
    obtain ⟨namespaced, out⟩ := K8sRes.missed_iff.mp missed
    have named := all (res.prepared nameSpace instId) (List.mem_map_of_mem mem)
      (by rw [K8sRes.namespaced, K8sRes.kind_prepared]; exact namespaced)
    rw [K8sRes.named_prepared, if_neg (by simp [out])] at named
    exact named
  · intro roles made mem namespaced
    obtain ⟨res, there, rfl⟩ := List.mem_map.mp mem
    rw [K8sRes.namespaced, K8sRes.kind_prepared] at namespaced
    rw [K8sRes.named_prepared]
    cases within : res.listed with
    | true => rw [if_pos rfl, listed res there within]
    | false =>
      rw [if_neg Bool.false_ne_true]
      exact roles res there (K8sRes.missed_iff.mpr ⟨namespaced, within⟩)

/-- Where the roles name the namespace of the listed manifests, all namespaced resources do. -/
lemma not_apart {returned : String} (listed : ListedIn manifests returned)
    (roles : RolesIn manifests returned) : ¬ Apart manifests := by
  have here : ∀ res ∈ manifests, res.namespaced = true → res.endsIn = returned := by
    intro res mem namespaced
    rcases K8sRes.listed_or_missed namespaced with within | missed
    · exact listed.1 res mem within
    · rw [K8sRes.endsIn, roles res mem missed]
      rfl
  rintro ⟨res, mem, res', mem', namespaced, namespaced', ne⟩
  apply ne
  rw [here res mem namespaced, here res' mem' namespaced']

lemma map_kind_prepared :
    (manifests.map (K8sRes.prepared nameSpace instId)).filterMap
      (fun res => res.kind.filter fun kind => (classOf kind).isSome) =
    manifests.filterMap (fun res => res.kind.filter fun kind => (classOf kind).isSome) := by
  rw [List.filterMap_map]
  apply List.filterMap_congr
  intro res _
  simp only [Function.comp, K8sRes.kind_prepared]

/-- The manifests are refused, or all namespaced resources have the namespace that is returned,
exactly if a manifest has no kind or the roles follow the other resources. -/
theorem in_one_namespace_iff (nameSpace : Option String) (instId : String)
    (manifests : List K8sRes) :
    InOneNamespace nameSpace manifests (getK8sReses nameSpace instId manifests) ↔
      (∃ res ∈ manifests, res.kindless = true) ∨ RolesFollow nameSpace manifests := by
  by_cases kindless : ∃ res ∈ manifests, res.kindless = true
  · obtain ⟨fault, eq⟩ : ∃ fault, manifests.mapM (K8sRes.prepare nameSpace instId) = .error fault :=
      mapM_prepare_error kindless
    have raises : getK8sReses nameSpace instId manifests = .error fault := by
      rw [getK8sReses, eq]
      rfl
    rw [raises]
    exact ⟨fun _ => .inl kindless, fun _ => .inl kindless⟩
  · have all : ∀ res ∈ manifests, res.kindless = false := by
      intro res mem
      rw [← Bool.not_eq_true]
      exact fun no => kindless ⟨res, mem, no⟩
    have checks : getK8sReses nameSpace instId manifests =
        (checkNamespace nameSpace (manifests.map (K8sRes.prepared nameSpace instId))).bind
          fun returned => .ok ((manifests.map (K8sRes.prepared nameSpace instId)).filterMap
            K8sRes.toResource, returned) := by
      rw [getK8sReses, mapM_prepare all]
      rfl
    rw [checks, or_iff_right kindless]
    cases nameSpace with
    | some requested =>
      show ¬ Refused _ _ ∧ _ ∧ _ ∧ _ ↔ RolesIn manifests requested
      rw [all_prepared_iff fun _ _ _ => rfl]
      constructor
      · rintro ⟨-, -, -, roles⟩
        exact roles
      · intro roles
        refine ⟨?_, ?_, ?_, roles⟩
        · rintro (no | ⟨none, -⟩)
          · exact kindless no
          · cases none
        · intro other eq
          exact Option.some.inj eq
        · rw [kinds_toResource, map_kind_prepared]
    | none =>
      rcases checkNamespace_none instId manifests with
        ⟨returned, eq, listed⟩ | ⟨⟨fault, eq⟩, apart⟩
      · rw [eq]
        show ¬ Refused _ _ ∧ _ ∧ _ ∧ _ ↔ _
        rw [all_prepared_iff listed.1]
        constructor
        · rintro ⟨-, -, -, roles⟩
          exact .inl ⟨returned, listed, roles⟩
        · intro follow
          have roles : RolesIn manifests returned := by
            rcases follow with ⟨other, listed', roles⟩ | ⟨apart, -⟩
            · rw [listed.unique listed']
              exact roles
            · exact absurd apart listed.not_apart
          refine ⟨?_, ?_, ?_, roles⟩
          · rintro (no | ⟨-, differ⟩)
            · exact kindless no
            · exact not_apart listed roles differ
          · intro other eq
            cases eq
          · rw [kinds_toResource, map_kind_prepared]
      · rw [eq]
        show Refused _ _ ↔ _
        constructor
        · rintro (no | ⟨-, differ⟩)
          · exact absurd no kindless
          · exact .inr ⟨apart, differ⟩
        · rintro (⟨returned, listed, -⟩ | ⟨-, differ⟩)
          · exact absurd apart listed.not_apart
          · exact .inr ⟨rfl, differ⟩

/-- The manifest of a pod or of a role that names no namespace. -/
def unnamed (kind : String) : K8sRes where
  kind := some kind
  metadata := some { name := some "one" }

/-- The pod is put into the requested namespace, the role is not. -/
theorem role_left_behind :
    ¬ ∀ (nameSpace : Option String) (instId : String) (manifests : List K8sRes),
      InOneNamespace nameSpace manifests (getK8sReses nameSpace instId manifests) := by
  intro right
  have here := right (some "vnf") "inst" [unnamed "Pod", unnamed "Role"]
  have made : getK8sReses (some "vnf") "inst" [unnamed "Pod", unnamed "Role"] =
      .ok ([⟨"Pod", .namespacedResource, some "vnf", some "one", some "inst"⟩,
        ⟨"Role", .namespacedResource, none, some "one", some "inst"⟩], "vnf") := rfl
  rw [made] at here
  exact absurd (here.2.2.2 _ (List.mem_cons_of_mem _ List.mem_cons_self) rfl) (by decide)

end Tacker.Kubernetes
