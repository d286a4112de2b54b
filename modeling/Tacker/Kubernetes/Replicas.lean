import Tacker.Kubernetes.Operations

/-!
# Recorded replicas

The manifests that are recorded for the VDUs carry a number of replicas, and the VNFCs are those of
the pods that run. The two numbers agree after an operation that writes the replicas of a VDU and
waits for its pods; for the other VDUs they agree only if nothing has happened to the pods, and a
change of the package records what the new manifests have.
-/

namespace Tacker.Kubernetes

open Tacker.Basis Tacker.Objects

/-- The recorded replicas of a VDU are the number of its VNFCs. -/
def Synced (info : InstInfo) : Prop :=
  ∀ vdu num, info.vduReses.replicas vdu = some num → num = getCurrentVduNum info vdu

/-- The record of the instance, if there is one, is synced. -/
def State.Synced (s : State) : Prop :=
  ∀ info, s.info = some info → Kubernetes.Synced info

/-! ## What is asked of the cluster and of the packages -/

/-- The number of running pods of a resource when the VNFCs are taken over. -/
def Cluster.num (cluster : Cluster) (res : Manifest) : Nat :=
  cluster.allPods.countP (isMatchPodNaming res.kind res.name)

/-- The cluster follows a number that it was told: read back at the end of the wait, the resource has
that number of replicas, and no pod of it comes or goes until the VNFCs are taken over. A resource of
a kind without replicas has just that number of pods. -/
def Cluster.Follows (cluster : Cluster) (vdu : String) (res : Manifest) (num : Int) : Prop :=
  if res.kind.scalable = true then
    (cluster.status vdu).replicas = num ∧ cluster.num res = (podsOf res (cluster.waited vdu)).length
  else (cluster.num res : Int) = num

/-- What is asked of an operation that writes the replicas of some VDUs, of certain kinds, and takes
over the pods of all of them: the cluster follows, and as many pods of the others run as are
recorded. -/
structure WriteMeets (cluster : Cluster) (kinds : Kind → Bool) (vdusNum : List (String × Int))
    (info : InstInfo) : Prop where
  written : ∀ vdu num res, lookup vdu vdusNum = some num → info.vduReses.get? vdu = some res →
    kinds res.kind = true → cluster.Follows vdu res num
  others : ∀ vdu res, info.vduReses.get? vdu = some res →
    (lookup vdu vdusNum = none ∨ kinds res.kind = false) →
    cluster.num res = getCurrentVduNum info vdu

/-- What is asked of a change of the package besides: the manifests of the VDUs that are not changed
have the replicas that these have now. -/
structure ChangeMeets (cluster : Cluster) (vdusNum : List (String × Int)) (vduReses : VduReses)
    (info : InstInfo) : Prop where
  written : ∀ vdu num res, lookup vdu vdusNum = some num → vduReses.get? vdu = some res →
    cluster.Follows vdu res num
  others : ∀ vdu res num, vduReses.get? vdu = some res → lookup vdu vdusNum = none →
    res.replicas = some num →
    num = getCurrentVduNum info vdu ∧ cluster.num res = getCurrentVduNum info vdu

/-- A manifest after the replicas of some VDUs were written. -/
def written (kinds : Kind → Bool) (vdusNum : List (String × Int)) (vdu : String) (res : Manifest) :
    Manifest :=
  match lookup vdu vdusNum with
  | some num => if kinds res.kind = true then { res with replicas := some num } else res
  | none => res

/-- What is asked of a step, by operation. An instantiation gets as many pods as the manifests that
it sends have replicas, and a synchronization passes over a VDU without pods, which must have been
without VNFCs. -/
def Meets (step : State × Event) : Prop :=
  match step.2.op with
  | .instantiate _ _ _ addResources manifests => ∀ vdu res num,
    (selectVduReses manifests).get? vdu = some res →
    (written Kind.scalable (getVdusNum addResources) vdu res).replicas = some num →
    num = step.2.cluster.num res
  | .scaleOut _ _ addResources => ∀ info, step.1.info = some info →
    WriteMeets step.2.cluster Kind.scalable (scaleOutNums info addResources) info
  | .scaleIn _ _ removeResources => ∀ info, step.1.info = some info →
    WriteMeets step.2.cluster Kind.scalable (scaleInNums info removeResources) info
  | .scaleRollback _ => True
  | .heal _ => ∀ info, step.1.info = some info → WriteMeets step.2.cluster (fun _ => true) [] info
  | .changeVnfpkg _ addResources manifests => ∀ info, step.1.info = some info →
    ChangeMeets step.2.cluster (getVdusNum addResources) (selectVduReses manifests) info
  | .changeVnfpkgRollback addResources _ => ∀ info, step.1.info = some info →
    WriteMeets step.2.cluster (fun _ => true) (getVdusNum addResources) info
  | .syncDb report => ∀ info pods, step.1.info = some info → report.allPods = .ok pods →
    ∀ vdu num, info.vduReses.replicas vdu = some num → podNum pods info vdu = 0 → num = 0

/-! ## Writing replicas -/

lemma lookup_cons {α : Type} {key : String} {item : String × α} {items : List (String × α)} :
    lookup key (item :: items) = if item.1 = key then some item.2 else lookup key items := by
  by_cases same : item.1 = key
  · rw [if_pos same, lookup, List.find?_cons_of_pos (by simpa using same)]
    rfl
  · rw [if_neg same, lookup, List.find?_cons_of_neg (by simpa using same)]
    rfl

lemma lookup_eq_none {α : Type} {key : String} {items : List (String × α)} :
    lookup key items = none ↔ key ∉ items.map Prod.fst := by
  rw [lookup, Option.map_eq_none_iff, List.find?_eq_none, List.mem_map]
  constructor
  · rintro none ⟨item, mem, same⟩
    exact none item mem (decide_eq_true same)
  · intro absent item mem same
    exact absent ⟨item, mem, of_decide_eq_true same⟩

lemma lookup_addOne {vdu vdu' : String} {vdusNum : List (String × Int)} :
    lookup vdu' (addOne vdu vdusNum) =
      if vdu = vdu' then some ((lookup vdu' vdusNum).getD 0 + 1) else lookup vdu' vdusNum := by
  induction vdusNum with
  | nil =>
    show lookup vdu' [(vdu, 1)] = _
    rw [lookup_cons]
    rfl
  | cons item vdusNum ih =>
    unfold addOne
    by_cases here : item.1 = vdu
    · rw [if_pos here, lookup_cons, lookup_cons, here]
      by_cases same : vdu = vdu'
      · rw [if_pos same, if_pos same, if_pos same]
        rfl
      · rw [if_neg same, if_neg same, if_neg same]
    · rw [if_neg here, lookup_cons, lookup_cons, ih]
      by_cases same : vdu = vdu'
      · have notHere : ¬ item.1 = vdu' := fun eq => here (eq.trans same.symm)
        rw [if_pos same, if_neg notHere, if_neg notHere, if_pos same]
      · rw [if_neg same, if_neg same]

lemma keys_addOne {vdu : String} {vdusNum : List (String × Int)}
    (unique : (vdusNum.map Prod.fst).Nodup) : ((addOne vdu vdusNum).map Prod.fst).Nodup := by
  induction vdusNum with
  | nil => exact List.nodup_singleton vdu
  | cons item vdusNum ih =>
    obtain ⟨fresh, unique⟩ := List.nodup_cons.mp unique
    unfold addOne
    by_cases here : item.1 = vdu
    · rw [if_pos here]
      exact List.nodup_cons.mpr ⟨here ▸ fresh, unique⟩
    · rw [if_neg here]
      apply List.nodup_cons.mpr ⟨?_, ih unique⟩
      apply lookup_eq_none.mp
      rw [lookup_addOne, if_neg (fun eq => here eq.symm)]
      exact lookup_eq_none.mpr fresh

lemma keys_nodup (resDefs : List ResourceDef) : ((getVdusNum resDefs).map Prod.fst).Nodup := by
  suffices all : ∀ (vdus : List String) (vdusNum : List (String × Int)),
      (vdusNum.map Prod.fst).Nodup →
      ((vdus.foldl (fun vdusNum vdu => addOne vdu vdusNum) vdusNum).map Prod.fst).Nodup by
    exact all (computeVdus resDefs) [] List.nodup_nil
  intro vdus
  induction vdus with
  | nil => exact fun _ unique => unique
  | cons vdu vdus ih => exact fun vdusNum unique => ih _ (keys_addOne unique)

/-- The number of a VDU is the number of its definitions. -/
lemma lookup_getVdusNum {vdu : String} {num : Int} (resDefs : List ResourceDef)
    (found : lookup vdu (getVdusNum resDefs) = some num) :
    vdu ∈ computeVdus resDefs ∧ num = (computeVdus resDefs).count vdu := by
  suffices all : ∀ (vdus : List String) (vdusNum : List (String × Int)),
      lookup vdu (vdus.foldl (fun vdusNum vdu => addOne vdu vdusNum) vdusNum) =
        if vdu ∈ vdus then some ((lookup vdu vdusNum).getD 0 + vdus.count vdu)
        else lookup vdu vdusNum by
    rw [getVdusNum, all] at found
    by_cases mem : vdu ∈ computeVdus resDefs
    · rw [if_pos mem] at found
      refine ⟨mem, ?_⟩
      rw [← Option.some.inj found]
      show (0 : Int) + _ = _
      rw [Int.zero_add]
    · rw [if_neg mem] at found
      cases found
  intro vdus
  induction vdus with
  | nil => exact fun _ => rfl
  | cons vdu' vdus ih =>
    intro vdusNum
    rw [List.foldl_cons, ih, lookup_addOne]
    by_cases same : vdu' = vdu
    · subst same
      rw [if_pos rfl, if_pos List.mem_cons_self, List.count_cons_self]
      by_cases mem : vdu' ∈ vdus
      · rw [if_pos mem]
        show some ((lookup vdu' vdusNum).getD 0 + 1 + (vdus.count vdu' : Int)) = some _
        rw [Int.natCast_add, Int.add_assoc, Int.add_comm 1]
        rfl
      · rw [if_neg mem, List.count_eq_zero_of_not_mem mem]
        rfl
    · rw [if_neg same, List.count_cons_of_ne same]
      by_cases mem : vdu ∈ vdus
      · rw [if_pos mem, if_pos (List.mem_cons_of_mem _ mem)]
      · rw [if_neg mem, if_neg (by simp [mem, Ne.symm same])]

lemma written_kind {kinds : Kind → Bool} {vdusNum : List (String × Int)} {vdu : String}
    {res : Manifest} : (written kinds vdusNum vdu res).kind = res.kind ∧
      (written kinds vdusNum vdu res).name = res.name := by
  unfold written
  cases lookup vdu vdusNum with
  | none => exact ⟨rfl, rfl⟩
  | some num =>
    simp only []
    by_cases isKind : kinds res.kind = true
    · rw [if_pos isKind]
      exact ⟨rfl, rfl⟩
    · rw [if_neg isKind]
      exact ⟨rfl, rfl⟩

lemma writeReplicas_ok {cluster : Cluster} {kinds : Kind → Bool} {vdusNum : List (String × Int)}
    {vduReses next : VduReses} (unique : (vdusNum.map Prod.fst).Nodup)
    (eq : writeReplicas cluster kinds vdusNum vduReses = .ok next) (vdu : String) :
    next.get? vdu = (vduReses.get? vdu).map (written kinds vdusNum vdu) := by
  induction vdusNum generalizing vduReses with
  | nil =>
    obtain rfl := Except.ok.inj eq
    exact Option.map_id'.symm
  | cons item vdusNum ih =>
    obtain ⟨vdu', num⟩ := item
    obtain ⟨fresh, unique⟩ := List.nodup_cons.mp unique
    unfold writeReplicas at eq
    cases found : vduReses.get? vdu' with
    | none =>
      rw [found] at eq
      cases eq
    | some res =>
      simp only [found] at eq
      by_cases isKind : kinds res.kind = true
      · rw [if_pos isKind] at eq
        by_cases accepted : cluster.accepts = true
        · rw [if_pos accepted] at eq
          rw [ih unique eq, VduReses.get?_setReplicas]
          by_cases same : vdu = vdu'
          · subst same
            have notAgain : lookup vdu vdusNum = none := lookup_eq_none.mpr fresh
            rw [if_pos rfl, found]
            show some (written kinds vdusNum vdu _) = some (written kinds _ vdu res)
            simp [written, lookup_cons, notAgain, isKind]
          · rw [if_neg same]
            have ne : ¬ vdu' = vdu := fun eq => same eq.symm
            apply Option.map_congr
            intro res' _
            simp only [written, lookup_cons, if_neg ne]
        · rw [if_neg accepted] at eq
          cases eq
      · rw [if_neg isKind] at eq
        rw [ih unique eq]
        by_cases same : vdu = vdu'
        · subst same
          have notAgain : lookup vdu vdusNum = none := lookup_eq_none.mpr fresh
          rw [found]
          simp [written, lookup_cons, notAgain, isKind]
        · have ne : ¬ vdu' = vdu := fun eq => same eq.symm
          apply Option.map_congr
          intro res' _
          simp only [written, lookup_cons, if_neg ne]

/-! ## Waiting for pods -/

lemma isUpdate_scalable {kind : Kind} {podsInfo : List Pod} {oldPodsNames : List String}
    {status : ResStatus} (scalable : kind.scalable = true)
    (updated : isUpdate kind podsInfo oldPodsNames status = true) :
    (podsInfo.length : Int) = status.replicas := by
  cases kind with
  | deployment => exact of_decide_eq_true (Bool.and_eq_true_iff.mp updated).2
  | replicaSet => exact of_decide_eq_true (Bool.and_eq_true_iff.mp updated).2
  | statefulSet => exact of_decide_eq_true (Bool.and_eq_true_iff.mp updated).2
  | pod => cases scalable
  | daemonSet => cases scalable
  | other name => cases scalable

lemma waitUpdated_ok {cluster : Cluster} {vduReses : VduReses} {vdus oldPodsNames : List String}
    (eq : waitUpdated cluster vduReses vdus oldPodsNames = .ok ()) {vdu : String}
    (mem : vdu ∈ vdus) {res : Manifest} (found : vduReses.get? vdu = some res) :
    isUpdate res.kind (podsOf res (cluster.waited vdu)) oldPodsNames (cluster.status vdu) = true := by
  unfold waitUpdated at eq
  by_cases all : vdus.all (fun vdu => (vduReses.get? vdu).all fun res =>
      isUpdate res.kind (podsOf res (cluster.waited vdu)) oldPodsNames (cluster.status vdu)) = true
  · have one := List.all_eq_true.mp all vdu mem
    rw [found] at one
    exact one
  · rw [if_neg all] at eq
    cases eq

/-- A resource that was waited for has the number of pods that the cluster was told. -/
lemma num_of_follows {cluster : Cluster} {vdu : String} {res : Manifest} {num : Int}
    {oldPodsNames : List String} (follows : cluster.Follows vdu res num)
    (updated : isUpdate res.kind (podsOf res (cluster.waited vdu)) oldPodsNames
      (cluster.status vdu) = true) : (cluster.num res : Int) = num := by
  unfold Cluster.Follows at follows
  by_cases scalable : res.kind.scalable = true
  · rw [if_pos scalable] at follows
    rw [follows.2, isUpdate_scalable scalable updated, follows.1]
  · rw [if_neg scalable] at follows
    exact follows

/-! ## The operations -/

/-- A record of the running pods is synced if the recorded replicas are the numbers of pods. -/
lemma synced_update {cluster : Cluster} {info : InstInfo}
    (nums : ∀ vdu res num, info.vduReses.get? vdu = some res → res.replicas = some num →
      num = cluster.num res) : Synced (updateVnfcInfo cluster.allPods info) := by
  intro vdu num replicas
  obtain ⟨res, found, isNum⟩ := Option.bind_eq_some_iff.mp replicas
  rw [getCurrentVduNum_updateVnfcInfo, nums vdu res num found isNum]
  have found : info.vduReses.get? vdu = some res := found
  rw [podNum, found]
  rfl

lemma synced_adjustLevel {aspectId : String} {numSteps : Int} {info next : InstInfo}
    (eq : adjustLevel aspectId numSteps info = .ok next) (synced : Synced info) : Synced next := by
  unfold adjustLevel at eq
  cases status : info.scaleStatus with
  | none =>
    rw [status] at eq
    cases eq
  | some scaleStatus =>
    rw [status] at eq
    cases eq
    exact synced

/-- Writing replicas and taking over the pods leaves a synced record, if the manifests that are not
written have the numbers of the pods. -/
lemma synced_written {cluster : Cluster} {kinds : Kind → Bool} {vdusNum : List (String × Int)}
    {info : InstInfo} {next : VduReses} (unique : (vdusNum.map Prod.fst).Nodup)
    (eq : writeReplicas cluster kinds vdusNum info.vduReses = .ok next)
    (nums : ∀ vdu num res, lookup vdu vdusNum = some num → info.vduReses.get? vdu = some res →
      kinds res.kind = true → cluster.num res = num)
    (others : ∀ vdu num res, info.vduReses.get? vdu = some res →
      (lookup vdu vdusNum = none ∨ kinds res.kind = false) → res.replicas = some num →
      num = cluster.num res) :
    Synced (updateVnfcInfo cluster.allPods { info with vduReses := next }) := by
  apply synced_update
  intro vdu res' num found replicas
  have found : next.get? vdu = some res' := found
  rw [writeReplicas_ok unique eq] at found
  obtain ⟨res, before, rfl⟩ := Option.map_eq_some_iff.mp found
  have same : cluster.num (written kinds vdusNum vdu res) = cluster.num res := by
    rw [Cluster.num, written_kind.1, written_kind.2]
    rfl
  rw [same]
  unfold written at replicas
  cases asked : lookup vdu vdusNum with
  | none =>
    rw [asked] at replicas
    exact others vdu num res before (Or.inl asked) replicas
  | some num' =>
    simp only [asked] at replicas
    by_cases isKind : kinds res.kind = true
    · rw [if_pos isKind] at replicas
      cases replicas
      exact (nums vdu num res asked before isKind).symm
    · rw [if_neg isKind] at replicas
      exact others vdu num res before (Or.inr (Bool.eq_false_of_not_eq_true isKind)) replicas

/-- The wait after the replicas were written is one for the manifests from before. -/
lemma waited_written {cluster : Cluster} {kinds : Kind → Bool} {vdusNum : List (String × Int)}
    {vduReses next : VduReses} {vdus oldPodsNames : List String} {vdu : String} {res : Manifest}
    (unique : (vdusNum.map Prod.fst).Nodup)
    (eq : writeReplicas cluster kinds vdusNum vduReses = .ok next)
    (waits : waitUpdated cluster next vdus oldPodsNames = .ok ()) (mem : vdu ∈ vdus)
    (found : vduReses.get? vdu = some res) :
    isUpdate res.kind (podsOf res (cluster.waited vdu)) oldPodsNames (cluster.status vdu) = true := by
  have after : next.get? vdu = some (written kinds vdusNum vdu res) := by
    rw [writeReplicas_ok unique eq, found]
    rfl
  have updated := waitUpdated_ok waits mem after
  rw [podsOf, written_kind.1, written_kind.2] at updated
  exact updated

/-- The manifests that an operation does not write keep the numbers of the pods. -/
lemma WriteMeets.kept {cluster : Cluster} {kinds : Kind → Bool} {vdusNum : List (String × Int)}
    {info : InstInfo} (meets : WriteMeets cluster kinds vdusNum info) (synced : Synced info)
    {vdu : String} {num : Int} {res : Manifest} (found : info.vduReses.get? vdu = some res)
    (other : lookup vdu vdusNum = none ∨ kinds res.kind = false)
    (replicas : res.replicas = some num) : num = cluster.num res := by
  have recorded : info.vduReses.replicas vdu = some num := by
    rw [VduReses.replicas, found]
    exact replicas
  rw [synced vdu num recorded, meets.others vdu res found other]

lemma mem_keys {vdu : String} {num : Int} {vdusNum : List (String × Int)}
    (asked : lookup vdu vdusNum = some num) : vdu ∈ vdusNum.map Prod.fst := by
  by_contra absent
  cases (lookup_eq_none.mpr absent).symm.trans asked

lemma synced_scaleK8sResource {cluster : Cluster} {vdusNum : List (String × Int)}
    {info next : InstInfo} (unique : (vdusNum.map Prod.fst).Nodup)
    (eq : scaleK8sResource cluster vdusNum info = .ok next)
    (meets : WriteMeets cluster Kind.scalable vdusNum info) (synced : Synced info) :
    Synced next := by
  obtain ⟨vduReses, writes, eq⟩ := bind_ok.mp eq
  obtain ⟨⟨⟩, waits, eq⟩ := bind_ok.mp eq
  obtain rfl := pure_ok.mp eq
  apply synced_written unique writes
  · intro vdu num res asked found isKind
    apply num_of_follows (meets.written vdu num res asked found isKind)
    apply waited_written unique writes waits _ found
    apply List.mem_filter.mpr ⟨mem_keys asked, _⟩
    rw [writeReplicas_ok unique writes, found]
    show (written Kind.scalable vdusNum vdu res).kind.scalable = true
    rw [written_kind.1]
    exact isKind
  · intro vdu num res found other
    exact meets.kept synced found other

lemma synced_rollingUpdate {cluster : Cluster} {addResources : List ResourceDef}
    {oldPodsNames : List String} {info next : InstInfo}
    (eq : rollingUpdate cluster addResources oldPodsNames info = .ok next)
    (follows : ∀ vdu num res, lookup vdu (getVdusNum addResources) = some num →
      info.vduReses.get? vdu = some res → cluster.Follows vdu res num)
    (others : ∀ vdu num res, info.vduReses.get? vdu = some res →
      lookup vdu (getVdusNum addResources) = none → res.replicas = some num →
      num = cluster.num res) : Synced next := by
  obtain ⟨vduReses, writes, eq⟩ := bind_ok.mp eq
  obtain ⟨⟨⟩, waits, eq⟩ := bind_ok.mp eq
  obtain rfl := pure_ok.mp eq
  have unique := keys_nodup addResources
  apply synced_written unique writes
  · intro vdu num res asked found _
    exact num_of_follows (follows vdu num res asked found)
      (waited_written unique writes waits (mem_keys asked) found)
  · intro vdu num res found other
    exact others vdu num res found (other.resolve_right Bool.noConfusion)

lemma synced_heal {cluster : Cluster} {removeResources : List ResourceDef} {info next : InstInfo}
    (eq : heal cluster removeResources info = .ok next)
    (meets : WriteMeets cluster (fun _ => true) [] info) (synced : Synced info) : Synced next := by
  suffices isNext : next = updateVnfcInfo cluster.allPods info by
    rw [isNext]
    apply synced_update
    intro vdu res num found replicas
    exact meets.kept synced found (Or.inl rfl) replicas
  unfold heal at eq
  by_cases all : (healTargets cluster removeResources info).all
      (fun vnfc => (info.vduReses.get? vnfc.vduId).isSome) = true
  · rw [if_pos all] at eq
    by_cases accepted : cluster.accepts = true
    · rw [if_pos accepted] at eq
      obtain ⟨_, _, eq⟩ := bind_ok.mp eq
      exact (pure_ok.mp eq).symm
    · rw [if_neg accepted] at eq
      cases eq
  · rw [if_neg all] at eq
    cases eq

/-! ## Instantiation -/

lemma get?_setNum {vdusNum : List (String × Int)} {vduReses : VduReses} {item : String × Manifest}
    (found : vduReses.get? item.1 = some item.2) (vdu : String) :
    (setNum vdusNum vduReses item).get? vdu =
      if vdu = item.1 then some (written Kind.scalable vdusNum item.1 item.2)
      else vduReses.get? vdu := by
  have unchanged : vduReses.get? vdu =
      if vdu = item.1 then some item.2 else vduReses.get? vdu := by
    by_cases here : vdu = item.1
    · rw [if_pos here, here, found]
    · rw [if_neg here]
  unfold setNum written
  cases lookup item.1 vdusNum with
  | none => exact unchanged
  | some num =>
    by_cases scalable : item.2.kind.scalable = true
    · simp only [if_pos scalable]
      rw [VduReses.get?_setReplicas]
      by_cases here : vdu = item.1
      · rw [if_pos here, if_pos here, here, found]
        rfl
      · rw [if_neg here, if_neg here]
    · simp only [if_neg scalable]
      exact unchanged

lemma foldl_setNum {vdusNum : List (String × Int)} {items : List (String × Manifest)}
    {vduReses : VduReses} (unique : (items.map Prod.fst).Nodup)
    (same : ∀ item ∈ items, vduReses.get? item.1 = some item.2) (vdu : String) :
    (items.foldl (setNum vdusNum) vduReses).get? vdu =
      if vdu ∈ items.map Prod.fst then
        (vduReses.get? vdu).map (written Kind.scalable vdusNum vdu) else vduReses.get? vdu := by
  induction items generalizing vduReses with
  | nil => rfl
  | cons item items ih =>
    obtain ⟨fresh, unique⟩ := List.nodup_cons.mp unique
    have first := same item List.mem_cons_self
    rw [List.foldl_cons, ih unique, get?_setNum first, List.map_cons]
    · by_cases here : vdu = item.1
      · subst here
        rw [if_pos rfl, if_neg fresh, if_pos List.mem_cons_self, first]
        rfl
      · rw [if_neg here]
        by_cases mem : vdu ∈ items.map Prod.fst
        · rw [if_pos mem, if_pos (List.mem_cons_of_mem _ mem)]
        · rw [if_neg mem, if_neg (List.not_mem_cons_of_ne_of_not_mem here mem)]
    · intro item' mem
      rw [get?_setNum first, if_neg fun eq : item'.1 = item.1 => fresh (eq ▸ List.mem_map_of_mem mem)]
      exact same item' (List.mem_cons_of_mem _ mem)

lemma get?_setInstantiated {vdusNum : List (String × Int)} {vduReses : VduReses} {vdu : String} :
    (setInstantiated vdusNum vduReses).get? vdu =
      (vduReses.get? vdu).map (written Kind.scalable vdusNum vdu) := by
  rw [setInstantiated, foldl_setNum vduReses.unique fun item mem => VduReses.get?_of_mem mem]
  by_cases mem : vdu ∈ vduReses.items.map Prod.fst
  · rw [if_pos mem]
  · rw [if_neg mem]
    have absent : vduReses.get? vdu = none := lookup_eq_none.mpr mem
    rw [absent]
    rfl

lemma synced_instantiate {cluster : Cluster} {flavourId : String}
    {scaleStatus maxScaleLevels : Option (List ScaleInfo)} {addResources : List ResourceDef}
    {manifests : Manifests} {info : InstInfo}
    (eq : instantiate cluster flavourId scaleStatus maxScaleLevels addResources manifests = .ok info)
    (meets : ∀ vdu res num, (selectVduReses manifests).get? vdu = some res →
      (written Kind.scalable (getVdusNum addResources) vdu res).replicas = some num →
      num = cluster.num res) : Synced info := by
  unfold instantiate at eq
  by_cases accepted : cluster.accepts = true
  · rw [if_pos accepted] at eq
    by_cases ready : cluster.ready = true
    · rw [if_pos ready] at eq
      obtain rfl := Except.ok.inj eq
      apply synced_update
      intro vdu res' num found replicas
      have found : (setInstantiated (getVdusNum addResources) (selectVduReses manifests)).get? vdu =
        some res' := found
      rw [get?_setInstantiated] at found
      obtain ⟨res, before, rfl⟩ := Option.map_eq_some_iff.mp found
      rw [meets vdu res num before replicas, Cluster.num, Cluster.num, written_kind.1,
        written_kind.2]
    · rw [if_neg ready] at eq
      cases eq
  · rw [if_neg accepted] at eq
    cases eq

/-! ## Synchronization -/

/-- What is known of the replicas after some VDUs. -/
structure ReplicasTaken (vdus : List String) (info info' : InstInfo) : Prop where
  vnfcs : info'.vnfcResourceInfo = info.vnfcResourceInfo
  visited : ∀ vdu num, vdu ∈ vdus → info'.vduReses.replicas vdu = some num →
    num = getCurrentVduNum info vdu
  passed : ∀ vdu, vdu ∉ vdus → info'.vduReses.replicas vdu = info.vduReses.replicas vdu

lemma taken_takeReplicas {vduId : String} {info info' : InstInfo}
    (eq : takeReplicas vduId info = .ok info') : ReplicasTaken [vduId] info info' := by
  unfold takeReplicas at eq
  cases found : info.vduReses.get? vduId with
  | none =>
    rw [found] at eq
    cases eq
  | some res =>
    rw [found] at eq
    cases replicas : res.replicas with
    | none =>
      simp only [replicas] at eq
      obtain rfl := Except.ok.inj eq
      refine ⟨rfl, fun vdu num mem recorded => ?_, fun _ _ => rfl⟩
      rw [List.mem_singleton.mp mem, VduReses.replicas, found] at recorded
      cases replicas.symm.trans recorded
    | some n =>
      simp only [replicas] at eq
      obtain rfl := Except.ok.inj eq
      refine ⟨rfl, fun vdu num mem recorded => ?_, fun vdu absent => ?_⟩
      · obtain rfl := List.mem_singleton.mp mem
        have recorded : (info.vduReses.setReplicas vdu (getCurrentVduNum info vdu)).replicas vdu =
          some num := recorded
        rw [VduReses.replicas_setReplicas, if_pos rfl, found] at recorded
        exact (Option.some.inj recorded).symm
      · show (info.vduReses.setReplicas vduId _).replicas vdu = _
        rw [VduReses.replicas_setReplicas, if_neg fun eq => absent (List.mem_singleton.mpr eq)]

lemma taken_syncVdu {report : Report} {vnfdId vduId : String} {info info' : InstInfo}
    (eq : syncVdu report vnfdId info vduId = .ok info') : ReplicasTaken [vduId] info info' := by
  obtain ⟨num, -, eq⟩ := bind_ok.mp eq
  obtain ⟨mid, midEq, eq⟩ := bind_ok.mp eq
  obtain ⟨vnfd, -, eq⟩ := bind_ok.mp eq
  have taken := taken_takeReplicas midEq
  obtain ⟨synced, reses⟩ := calcScaleLevel_ok eq
  refine ⟨synced.vnfcs.trans taken.vnfcs, ?_, ?_⟩
  · rw [reses]
    exact taken.visited
  · rw [reses]
    exact taken.passed

lemma taken_foldlM {report : Report} {vnfdId : String} {vdus : List String} {info info' : InstInfo}
    (eq : vdus.foldlM (syncVdu report vnfdId) info = .ok info') :
    ReplicasTaken vdus info info' := by
  induction vdus generalizing info with
  | nil =>
    obtain rfl := foldlM_nil_ok.mp eq
    exact ⟨rfl, fun _ _ mem => absurd mem List.not_mem_nil, fun _ _ => rfl⟩
  | cons vduId vdus ih =>
    obtain ⟨mid, turn, eq⟩ := foldlM_cons_ok.mp eq
    have first := taken_syncVdu turn
    have rest := ih eq
    have nums : ∀ vdu, getCurrentVduNum mid vdu = getCurrentVduNum info vdu := by
      intro vdu
      rw [getCurrentVduNum, getCurrentVduNum, first.vnfcs]
    refine ⟨rest.vnfcs.trans first.vnfcs, fun vdu num mem recorded => ?_, fun vdu absent => ?_⟩
    · by_cases again : vdu ∈ vdus
      · rw [rest.visited vdu num again recorded, nums]
      · rw [rest.passed vdu again] at recorded
        have here : vdu ∈ [vduId] := List.mem_singleton.mpr
          ((List.mem_cons.mp mem).resolve_right again)
        exact first.visited vdu num here recorded
    · rw [rest.passed vdu fun mem => absent (List.mem_cons_of_mem _ mem)]
      apply first.passed
      intro mem
      exact absent (List.mem_singleton.mp mem ▸ List.mem_cons_self)

lemma mem_vdus_of_num {info : InstInfo} {vdu : String} (num : getCurrentVduNum info vdu ≠ 0) :
    vdu ∈ info.vnfcResourceInfo.map (·.vduId) := by
  obtain ⟨vnfc, mem, isVdu⟩ := List.countP_pos_iff.mp (Nat.pos_of_ne_zero num)
  exact List.mem_map.mpr ⟨vnfc, mem, of_decide_eq_true isVdu⟩

lemma synced_syncDb {report : Report} {inst stored : Inst} (eq : syncDb report inst = .ok stored)
    (meets : ∀ pods, report.allPods = .ok pods → ∀ vdu num,
      inst.info.vduReses.replicas vdu = some num → podNum pods inst.info vdu = 0 → num = 0) :
    Synced stored.info := by
  obtain ⟨info, taken, eq⟩ := bind_ok.mp eq
  obtain ⟨pods, listed, -⟩ := bind_ok.mp taken
  obtain rfl := diffCheckAndUpdateVnfc_ok listed taken
  obtain ⟨info', loop, eq⟩ := bind_ok.mp eq
  obtain rfl := pure_ok.mp eq
  have after := taken_foldlM loop
  intro vdu num recorded
  have same : getCurrentVduNum info' vdu = podNum pods inst.info vdu := by
    rw [getCurrentVduNum, after.vnfcs]
    exact getCurrentVduNum_updateVnfcInfo
  show num = getCurrentVduNum info' vdu
  by_cases mem : vdu ∈ report.vduOrder.order
      ((updateVnfcInfo pods inst.info).vnfcResourceInfo.map (·.vduId))
  · rw [after.visited vdu num mem recorded, getCurrentVduNum, getCurrentVduNum, after.vnfcs]
  · have recorded : info'.vduReses.replicas vdu = some num := recorded
    rw [after.passed vdu mem] at recorded
    have noPods : podNum pods inst.info vdu = 0 := by
      by_contra some
      rw [← getCurrentVduNum_updateVnfcInfo] at some
      exact mem ((report.vduOrder.mem _ _).mpr (mem_vdus_of_num some))
    rw [same, noPods]
    exact meets pods listed vdu num recorded noPods

end Tacker.Kubernetes
