import Tacker.Kubernetes.SyncDb

/-!
# Scale levels after a synchronization

A synchronization goes through the VDUs that have pods and writes the level that it computes from
the pods of each. The VDUs of an aspect that have none are passed over, the level that stays is that
of the last VDU of the aspect, and no level is compared with the greatest one.
-/

namespace Tacker.Kubernetes

open Tacker.Basis Tacker.Objects Tacker.Lcm

/-! ## What the levels should be -/

/-- The VDU is one of the aspect. -/
def InAspect (flavour : Flavour) (aspectId vduId : String) : Prop :=
  ∃ aspectDelta ∈ flavour.vduScalingAspectDeltas,
    aspectDelta.aspect = some aspectId ∧ vduId ∈ aspectDelta.targets

/-- The number of instances of a VDU at level zero. -/
def initialOf (flavour : Flavour) (vduId : String) : Option Int :=
  (getInitialDelta flavour vduId).toOption.join

/-- The number of instances of a VDU that a level adds. -/
def deltaOf (flavour : Flavour) (aspectId vduId : String) : Option Int :=
  (getScaleVduAndNum flavour aspectId).toOption.bind (lookup vduId)

/-- The number is that of the VDU at the level. -/
def NumAt (flavour : Flavour) (aspectId vduId : String) (level num : Int) : Prop :=
  ∃ initialDelta delta, initialOf flavour vduId = some initialDelta ∧
    deltaOf flavour aspectId vduId = some delta ∧ num = initialDelta + level * delta

/-- Every VDU of every aspect has the VNFCs of the recorded level, which is one of the aspect. -/
def Scaled (flavour : Flavour) (info : InstInfo) : Prop :=
  ∀ aspectId vduId, InAspect flavour aspectId vduId → ∃ level maxLevel,
    levelOf info.scaleStatus aspectId = some level ∧
    levelOf info.maxScaleLevels aspectId = some maxLevel ∧ 0 ≤ level ∧ level ≤ maxLevel ∧
    NumAt flavour aspectId vduId level (getCurrentVduNum info vduId)

/-! ## What the pods have to be -/

/-- The number of reported pods of a VDU. -/
def podNum (pods : List String) (info : InstInfo) (vduId : String) : Nat :=
  match info.vduReses.get? vduId with
  | none => 0
  | some res => pods.countP (isMatchPodNaming res.kind res.name)

/-- The VDUs in the order in which a synchronization goes through them. -/
def vdusInOrder (report : Report) (pods : List String) (info : InstInfo) : List String :=
  report.vduOrder.order ((updateVnfcInfo pods info).vnfcResourceInfo.map (·.vduId))

/-- The last VDU that has pods and whose level counts for the aspect. -/
def lastVdu (flavour : Flavour) (aspectId : String) (vdus : List String) : Option String :=
  (vdus.filter fun vduId => aspectOf flavour vduId = some aspectId).getLast?

/-- The reported pods are those of a level of the aspect, for all of its VDUs. If none of them has a
pod, it is the level that is recorded already, and the last one of those that have pods is counted as
it was listed. -/
structure PodsAt (report : Report) (pods : List String) (flavour : Flavour) (info : InstInfo)
    (aspectId : String) (level : Int) : Prop where
  inRange : ∃ maxLevel, levelOf info.maxScaleLevels aspectId = some maxLevel ∧
    0 ≤ level ∧ level ≤ maxLevel
  atLevel : ∀ vduId, InAspect flavour aspectId vduId →
    NumAt flavour aspectId vduId level (podNum pods info vduId)
  recorded : ∃ before, levelOf info.scaleStatus aspectId = some before ∧
    (lastVdu flavour aspectId (vdusInOrder report pods info) = none → before = level)
  counted : ∀ vduId, lastVdu flavour aspectId (vdusInOrder report pods info) = some vduId →
    getPodInformation report (updateVnfcInfo pods info) vduId = .ok (podNum pods info vduId)

/-! ## The VNFCs that are taken over -/

lemma getCurrentVduNum_append {vnfcs vnfcs' : List VnfcResourceInfo} {info : InstInfo}
    {vdu : String} :
    getCurrentVduNum { info with vnfcResourceInfo := vnfcs ++ vnfcs' } vdu =
      getCurrentVduNum { info with vnfcResourceInfo := vnfcs } vdu +
        getCurrentVduNum { info with vnfcResourceInfo := vnfcs' } vdu := by
  rw [getCurrentVduNum, List.countP_append]
  rfl

/-- A pod is taken over once for a VDU whose naming rule it meets. -/
lemma countP_of_pod {items : List (String × Manifest)} (unique : (items.map Prod.fst).Nodup)
    {podName vdu : String} :
    ((items.filter fun item => isMatchPodNaming item.2.kind item.2.name podName).map fun item =>
        VnfcResourceInfo.mk podName item.1 item.2.kind).countP (fun vnfc => vnfc.vduId = vdu) =
      if ((items.find? fun item => item.1 = vdu).map Prod.snd).any
        (fun res => isMatchPodNaming res.kind res.name podName) = true then 1 else 0 := by
  rw [List.countP_map]
  induction items with
  | nil => rfl
  | cons item items ih =>
    obtain ⟨fresh, unique⟩ := List.nodup_cons.mp unique
    have ih := ih unique
    by_cases isVdu : item.1 = vdu
    · subst isVdu
      have absent : items.find? (fun item' => item'.1 = item.1) = none := by
        rw [List.find?_eq_none]
        intro item' mem eq
        have same : item'.1 = item.1 := of_decide_eq_true eq
        exact fresh (same ▸ List.mem_map_of_mem mem)
      rw [absent] at ih
      rw [List.find?_cons_of_pos (by simp)]
      by_cases matched : isMatchPodNaming item.2.kind item.2.name podName = true
      · rw [List.filter_cons, if_pos matched, List.countP_cons_of_pos (by simp), ih]
        simp [matched]
      · rw [List.filter_cons, if_neg matched, ih]
        simp [matched]
    · rw [List.find?_cons_of_neg (by simpa using isVdu), ← ih]
      by_cases matched : isMatchPodNaming item.2.kind item.2.name podName = true
      · rw [List.filter_cons, if_pos matched, List.countP_cons_of_neg (by simpa using isVdu)]
      · rw [List.filter_cons, if_neg matched]

/-- A VDU has the VNFCs of the reported pods. -/
lemma getCurrentVduNum_updateVnfcInfo {pods : List String} {info : InstInfo} {vdu : String} :
    getCurrentVduNum (updateVnfcInfo pods info) vdu = podNum pods info vdu := by
  rw [podNum]
  induction pods with
  | nil => cases info.vduReses.get? vdu <;> rfl
  | cons podName pods ih =>
    rw [updateVnfcInfo, List.flatMap_cons, getCurrentVduNum_append]
    show getCurrentVduNum { info with vnfcResourceInfo := _ } vdu +
      getCurrentVduNum (updateVnfcInfo pods info) vdu = _
    rw [ih, getCurrentVduNum, countP_of_pod info.vduReses.unique]
    show (if Option.any _ (info.vduReses.get? vdu) = true then 1 else 0) + _ = _
    cases info.vduReses.get? vdu with
    | none => rfl
    | some res =>
      show (if isMatchPodNaming res.kind res.name podName = true then 1 else 0) +
        pods.countP (isMatchPodNaming res.kind res.name) =
          (podName :: pods).countP (isMatchPodNaming res.kind res.name)
      by_cases matched : isMatchPodNaming res.kind res.name podName = true
      · rw [if_pos matched, List.countP_cons_of_pos matched, Nat.add_comm]
      · rw [if_neg matched, List.countP_cons_of_neg matched, Nat.zero_add]

/-- If the same pods are listed again, and the name of the resource has no period, as many are
counted as were taken over. -/
theorem getPodInformation_of_plain {report : Report} {pods : List String} {info : InstInfo}
    {vdu : String} (again : report.podsFor vdu = .ok pods) (unique : pods.Nodup)
    (plain : ∀ res, info.vduReses.get? vdu = some res → '.' ∉ res.name.toList) :
    getPodInformation report (updateVnfcInfo pods info) vdu = .ok (podNum pods info vdu) := by
  rw [getPodInformation, again]
  simp only [bind, Except.bind]
  cases found : (updateVnfcInfo pods info).vnfcResourceInfo.find? fun vnfc => vnfc.vduId = vdu with
  | none =>
    have noVnfc : getCurrentVduNum (updateVnfcInfo pods info) vdu = 0 :=
      List.countP_eq_zero.mpr (List.find?_eq_none.mp found)
    rw [← getCurrentVduNum_updateVnfcInfo, noVnfc]
    rfl
  | some vnfc =>
    have isIt := List.find?_some found
    have ofVdu : vnfc.vduId = vdu := of_decide_eq_true isIt
    obtain ⟨podName, -, ofPod⟩ := List.mem_flatMap.mp (List.mem_of_find?_eq_some found)
    obtain ⟨item, inFilter, rfl⟩ := List.mem_map.mp ofPod
    obtain ⟨isItem, matched⟩ := List.mem_filter.mp inFilter
    subst ofVdu
    have res := VduReses.get?_of_mem isItem
    show Except.ok (List.toFinset (pods.filter (isMatchPodNaming item.2.kind
      (getResourceName podName item.2.kind)))).card = Except.ok (podNum pods info item.1)
    rw [getResourceName_of_match (plain item.2 res) matched,
      List.toFinset_card_of_nodup (unique.filter _), podNum, res]
    exact congrArg Except.ok List.countP_eq_length_filter.symm

/-! ## One VDU -/

lemma levelOf_setScaleLevel {aspectId aspectId' : String} {level : Int} {infos : List ScaleInfo} :
    levelOf (some (setScaleLevel aspectId level infos)) aspectId' =
      if aspectId' = aspectId then (levelOf (some infos) aspectId').map fun _ => level
      else levelOf (some infos) aspectId' := by
  induction infos with
  | nil => simp [setScaleLevel, levelOf_nil]
  | cons info infos ih =>
    unfold setScaleLevel
    by_cases own : info.aspectId = aspectId
    · rw [if_pos own, levelOf_cons, levelOf_cons]
      by_cases same : aspectId' = aspectId
      · subst same
        simp [own]
      · rw [if_neg same]
        have ne : ¬ info.aspectId = aspectId' := fun eq => same (eq.symm.trans own)
        simp [ne]
    · rw [if_neg own, levelOf_cons, levelOf_cons, ih]
      by_cases same : aspectId' = aspectId
      · subst same
        simp [own]
      · rw [if_neg same, if_neg same]

/-- What a synchronization of one VDU does to the record, for the number of pods that it counts. -/
structure VduSynced (flavour : Flavour) (vduId : String) (num : Int) (info info' : InstInfo) :
    Prop where
  vnfcs : info'.vnfcResourceInfo = info.vnfcResourceInfo
  flavourId : info'.flavourId = info.flavourId
  maxScaleLevels : info'.maxScaleLevels = info.maxScaleLevels
  others : ∀ aspectId, aspectOf flavour vduId ≠ some aspectId →
    levelOf info'.scaleStatus aspectId = levelOf info.scaleStatus aspectId
  level : ∀ aspectId, aspectOf flavour vduId = some aspectId → ∃ initialDelta delta level,
    initialOf flavour vduId = some initialDelta ∧ deltaOf flavour aspectId vduId = some delta ∧
    delta ≠ 0 ∧ num = initialDelta + level * delta ∧
    levelOf info'.scaleStatus aspectId = (levelOf info.scaleStatus aspectId).map fun _ => level

lemma orTypeError_ok {α : Type} {x : Option α} {a : α} : orTypeError x = .ok a ↔ x = some a := by
  cases x with
  | none =>
    constructor
    · intro eq
      cases eq
    · intro eq
      cases eq
  | some b =>
    rw [Option.some.injEq]
    exact ⟨fun eq => Except.ok.inj eq, fun eq => congrArg Except.ok eq⟩

lemma calcScaleLevel_ok {vnfd : Vnfd} {vduId : String} {num : Int} {info info' : InstInfo}
    (eq : calcScaleLevel vnfd vduId num info = .ok info') :
    VduSynced (vnfd info.flavourId) vduId num info info' ∧ info'.vduReses = info.vduReses := by
  rw [calcScaleLevel] at eq
  cases aspect : aspectOf (vnfd info.flavourId) vduId with
  | none =>
    rw [aspect] at eq
    obtain rfl := pure_ok.mp eq
    refine ⟨⟨rfl, rfl, rfl, fun _ _ => rfl, fun aspectId isIt => ?_⟩, rfl⟩
    cases aspect.symm.trans isIt
  | some aspectId =>
    rw [aspect] at eq
    obtain ⟨vduNumInst, nums, eq⟩ := bind_ok.mp eq
    obtain ⟨initial, initialEq, eq⟩ := bind_ok.mp eq
    obtain ⟨initialDelta, isInitial, eq⟩ := bind_ok.mp eq
    obtain ⟨delta, isDelta, eq⟩ := bind_ok.mp eq
    have isInitial := orTypeError_ok.mp isInitial
    have isDelta := orTypeError_ok.mp isDelta
    by_cases zero : delta = 0
    · rw [if_pos zero] at eq
      cases eq
    rw [if_neg zero] at eq
    by_cases rest : (num - initialDelta).fmod delta ≠ 0
    · rw [if_pos rest] at eq
      cases eq
    rw [if_neg rest] at eq
    cases status : info.scaleStatus with
    | none =>
      rw [status] at eq
      cases eq
    | some scaleStatus =>
      rw [status] at eq
      obtain ⟨inRange, -, eq⟩ := bind_ok.mp eq
      obtain rfl := pure_ok.mp eq
      refine ⟨⟨rfl, rfl, rfl, fun aspectId' ne => ?_, fun aspectId' isIt => ?_⟩, rfl⟩
      · show levelOf (some (setScaleLevel _ _ _)) aspectId' = _
        have other : ¬ aspectId' = aspectId := fun eq => ne (eq ▸ aspect)
        rw [levelOf_setScaleLevel, if_neg other, status]
      · obtain rfl := Option.some.inj (aspect.symm.trans isIt)
        refine ⟨initialDelta, delta, (num - initialDelta).fdiv delta, ?_, ?_, zero, ?_, ?_⟩
        · rw [initialOf, initialEq, isInitial]
          rfl
        · rw [deltaOf, nums]
          exact isDelta
        · have divides := Int.mul_fdiv_add_fmod (num - initialDelta) delta
          rw [not_not.mp rest, Int.mul_comm] at divides
          omega
        · show levelOf (some (setScaleLevel _ _ _)) aspectId = _
          rw [levelOf_setScaleLevel, if_pos rfl, status]

lemma takeReplicas_ok {vduId : String} {info info' : InstInfo}
    (eq : takeReplicas vduId info = .ok info') :
    ∃ vduReses, info' = { info with vduReses := vduReses } := by
  unfold takeReplicas at eq
  cases found : info.vduReses.get? vduId with
  | none =>
    rw [found] at eq
    cases eq
  | some res =>
    rw [found] at eq
    cases replicas : res.replicas with
    | none =>
      simp only [replicas] at eq
      cases eq
      exact ⟨info.vduReses, rfl⟩
    | some n =>
      simp only [replicas] at eq
      cases eq
      exact ⟨_, rfl⟩

lemma syncVdu_ok {report : Report} {vnfdId vduId : String} {vnfd : Vnfd} {info info' : InstInfo}
    (package : report.getVnfd vnfdId = .ok vnfd)
    (eq : syncVdu report vnfdId info vduId = .ok info') :
    ∃ num : Nat, getPodInformation report info vduId = .ok num ∧
      VduSynced (vnfd info.flavourId) vduId num info info' := by
  obtain ⟨num, counted, eq⟩ := bind_ok.mp eq
  obtain ⟨mid, midEq, eq⟩ := bind_ok.mp eq
  obtain ⟨vnfd', package', eq⟩ := bind_ok.mp eq
  rw [package] at package'
  cases package'
  obtain ⟨vduReses, rfl⟩ := takeReplicas_ok midEq
  obtain ⟨synced, -⟩ := calcScaleLevel_ok eq
  exact ⟨num, counted, ⟨synced.vnfcs, synced.flavourId, synced.maxScaleLevels, synced.others,
    synced.level⟩⟩

/-! ## All VDUs -/

/-- What is known of an aspect after some VDUs: the level is the one from before, or the one of the
last VDU of the aspect. -/
structure AspectSynced (report : Report) (flavour : Flavour) (vdus : List String)
    (info info' : InstInfo) (aspectId : String) : Prop where
  passed : lastVdu flavour aspectId vdus = none →
    levelOf info'.scaleStatus aspectId = levelOf info.scaleStatus aspectId
  level : ∀ vduId, lastVdu flavour aspectId vdus = some vduId → ∃ initialDelta delta level,
    ∃ num : Nat, initialOf flavour vduId = some initialDelta ∧
    deltaOf flavour aspectId vduId = some delta ∧ delta ≠ 0 ∧
    getPodInformation report info vduId = .ok num ∧ (num : Int) = initialDelta + level * delta ∧
    levelOf info'.scaleStatus aspectId = (levelOf info.scaleStatus aspectId).map fun _ => level

lemma lastVdu_cons {flavour : Flavour} {aspectId vduId : String} {vdus : List String} :
    lastVdu flavour aspectId (vduId :: vdus) =
      match lastVdu flavour aspectId vdus with
      | some last => some last
      | none => if aspectOf flavour vduId = some aspectId then some vduId else none := by
  unfold lastVdu
  by_cases own : aspectOf flavour vduId = some aspectId
  · rw [List.filter_cons_of_pos (by simpa using own), List.getLast?_cons, if_pos own]
    cases (vdus.filter fun vduId => aspectOf flavour vduId = some aspectId).getLast? <;> rfl
  · rw [List.filter_cons_of_neg (by simpa using own), if_neg own]
    cases (vdus.filter fun vduId => aspectOf flavour vduId = some aspectId).getLast? <;> rfl

/-- The number of pods that is counted depends on the VNFCs only. -/
lemma getPodInformation_congr {report : Report} {info info' : InstInfo} {vduId : String}
    (same : info'.vnfcResourceInfo = info.vnfcResourceInfo) :
    getPodInformation report info' vduId = getPodInformation report info vduId := by
  rw [getPodInformation, getPodInformation, same]

lemma foldlM_syncVdu_ok {report : Report} {vnfdId : String} {vnfd : Vnfd} {vdus : List String}
    {info info' : InstInfo} (package : report.getVnfd vnfdId = .ok vnfd)
    (eq : vdus.foldlM (syncVdu report vnfdId) info = .ok info') :
    info'.vnfcResourceInfo = info.vnfcResourceInfo ∧
      info'.maxScaleLevels = info.maxScaleLevels ∧
      ∀ aspectId, AspectSynced report (vnfd info.flavourId) vdus info info' aspectId := by
  induction vdus generalizing info with
  | nil =>
    obtain rfl := foldlM_nil_ok.mp eq
    refine ⟨rfl, rfl, fun aspectId => ⟨fun _ => rfl, fun vduId isLast => ?_⟩⟩
    cases isLast
  | cons vduId vdus ih =>
    obtain ⟨next, step, eq⟩ := foldlM_cons_ok.mp eq
    obtain ⟨num, counted, synced⟩ := syncVdu_ok package step
    obtain ⟨vnfcs, maxLevels, rest⟩ := ih eq
    rw [synced.flavourId] at rest
    refine ⟨vnfcs.trans synced.vnfcs, maxLevels.trans synced.maxScaleLevels, fun aspectId => ?_⟩
    have rest := rest aspectId
    cases last : lastVdu (vnfd info.flavourId) aspectId vdus with
    | some last' =>
      constructor
      · intro none
        rw [lastVdu_cons, last] at none
        cases none
      · intro vduId' isLast
        rw [lastVdu_cons, last] at isLast
        cases isLast
        obtain ⟨initialDelta, delta, level, num', initialEq, deltaEq, ne, counted', numEq, after⟩ :=
          rest.level last' last
        rw [getPodInformation_congr synced.vnfcs] at counted'
        refine ⟨initialDelta, delta, level, num', initialEq, deltaEq, ne, counted', numEq, ?_⟩
        rw [after]
        by_cases own : aspectOf (vnfd info.flavourId) vduId = some aspectId
        · obtain ⟨-, -, level', -, -, -, -, before⟩ := synced.level aspectId own
          rw [before, Option.map_map]
          rfl
        · rw [synced.others aspectId own]
    | none =>
      have passed := rest.passed last
      by_cases own : aspectOf (vnfd info.flavourId) vduId = some aspectId
      · obtain ⟨initialDelta, delta, level, initialEq, deltaEq, ne, numEq, after⟩ :=
          synced.level aspectId own
        constructor
        · intro none
          rw [lastVdu_cons, last] at none
          simp [own] at none
        · intro vduId' isLast
          rw [lastVdu_cons, last] at isLast
          simp only [own, if_true] at isLast
          cases isLast
          exact ⟨initialDelta, delta, level, num, initialEq, deltaEq, ne, counted, numEq,
            passed.trans after⟩
      · constructor
        · intro _
          rw [passed, synced.others aspectId own]
        · intro vduId' isLast
          rw [lastVdu_cons, last] at isLast
          simp [own] at isLast

lemma aspectOf_inAspect {flavour : Flavour} {aspectId vduId : String}
    (eq : aspectOf flavour vduId = some aspectId) : InAspect flavour aspectId vduId := by
  obtain ⟨found, -⟩ := Option.filter_eq_some_iff.mp eq
  obtain ⟨aspectDelta, isFirst, aspect⟩ := Option.bind_eq_some_iff.mp found
  have isTarget := List.find?_some isFirst
  exact ⟨aspectDelta, List.mem_of_find?_eq_some isFirst, aspect, of_decide_eq_true isTarget⟩

lemma aspectOf_lastVdu {flavour : Flavour} {aspectId vduId : String} {vdus : List String}
    (isLast : lastVdu flavour aspectId vdus = some vduId) :
    aspectOf flavour vduId = some aspectId := by
  have mem := List.mem_of_getLast? isLast
  exact of_decide_eq_true (List.mem_filter.mp mem).2

/-! ## The synchronization -/

lemma diffCheckAndUpdateVnfc_ok {report : Report} {info info' : InstInfo} {pods : List String}
    (allPods : report.allPods = .ok pods)
    (eq : diffCheckAndUpdateVnfc report info = .ok info') : info' = updateVnfcInfo pods info := by
  obtain ⟨pods', allPods', eq⟩ := bind_ok.mp eq
  rw [allPods] at allPods'
  cases allPods'
  by_cases same : info.vnfcResourceInfo.map (·.id) ⊆
      (updateVnfcInfo pods info).vnfcResourceInfo.map (·.id) ∧
      (updateVnfcInfo pods info).vnfcResourceInfo.map (·.id) ⊆ info.vnfcResourceInfo.map (·.id)
  · rw [if_pos same] at eq
    cases eq
  · rw [if_neg same] at eq
    exact (pure_ok.mp eq).symm

/-- The VNFCs, the greatest levels and what is known of the aspects after a synchronization. -/
lemma syncDb_ok {report : Report} {inst stored : Inst} {vnfd : Vnfd} {pods : List String}
    (package : report.getVnfd inst.vnfdId = .ok vnfd) (allPods : report.allPods = .ok pods)
    (eq : syncDb report inst = .ok stored) :
    stored.info.vnfcResourceInfo = (updateVnfcInfo pods inst.info).vnfcResourceInfo ∧
      stored.info.maxScaleLevels = inst.info.maxScaleLevels ∧
      ∀ aspectId, AspectSynced report (vnfd inst.info.flavourId)
        (vdusInOrder report pods inst.info) (updateVnfcInfo pods inst.info) stored.info aspectId := by
  obtain ⟨info, taken, eq⟩ := bind_ok.mp eq
  obtain rfl := diffCheckAndUpdateVnfc_ok allPods taken
  obtain ⟨info', loop, eq⟩ := bind_ok.mp eq
  obtain rfl := pure_ok.mp eq
  exact foldlM_syncVdu_ok package loop

/-- Levels are right after a synchronization exactly if the pods were those of a level. -/
lemma scaled_iff {report : Report} {inst stored : Inst} {vnfd : Vnfd} {pods : List String}
    (package : report.getVnfd inst.vnfdId = .ok vnfd) (allPods : report.allPods = .ok pods)
    (eq : syncDb report inst = .ok stored) :
    Scaled (vnfd inst.info.flavourId) stored.info ↔
      ∀ aspectId, (∃ vduId, InAspect (vnfd inst.info.flavourId) aspectId vduId) →
        ∃ level, PodsAt report pods (vnfd inst.info.flavourId) inst.info aspectId level := by
  obtain ⟨vnfcs, maxLevels, aspects⟩ := syncDb_ok package allPods eq
  have nums : ∀ vduId, getCurrentVduNum stored.info vduId = podNum pods inst.info vduId := by
    intro vduId
    rw [← getCurrentVduNum_updateVnfcInfo, getCurrentVduNum, vnfcs]
    rfl
  constructor
  · intro scaled aspectId ⟨vduId, isVdu⟩
    obtain ⟨level, maxLevel, levelEq, maxEq, pos, le, -⟩ := scaled aspectId vduId isVdu
    have same : ∀ vduId, InAspect (vnfd inst.info.flavourId) aspectId vduId →
        NumAt (vnfd inst.info.flavourId) aspectId vduId level (podNum pods inst.info vduId) := by
      intro vduId isVdu
      obtain ⟨level', -, levelEq', -, -, -, numAt⟩ := scaled aspectId vduId isVdu
      rw [levelEq] at levelEq'
      cases levelEq'
      rw [nums] at numAt
      exact numAt
    refine ⟨level, ⟨maxLevel, by rw [← maxLevels, maxEq], pos, le⟩, same, ?_, ?_⟩
    · cases last : lastVdu (vnfd inst.info.flavourId) aspectId (vdusInOrder report pods inst.info) with
      | none =>
        have before := (aspects aspectId).passed last
        rw [levelEq] at before
        exact ⟨level, before.symm, fun _ => rfl⟩
      | some last' =>
        obtain ⟨-, -, level', -, -, -, -, -, -, after⟩ := (aspects aspectId).level last' last
        rw [levelEq] at after
        obtain ⟨before, beforeEq, -⟩ := Option.map_eq_some_iff.mp after.symm
        exact ⟨before, beforeEq, fun none => by cases none⟩
    · intro vduId isLast
      obtain ⟨initialDelta, delta, level', num, initialEq, deltaEq, -, counted, numEq, after⟩ :=
        (aspects aspectId).level vduId isLast
      rw [levelEq] at after
      obtain ⟨before, -, sameLevel⟩ := Option.map_eq_some_iff.mp after.symm
      obtain ⟨initialDelta', delta', initialEq', deltaEq', numAt⟩ :=
        same vduId (aspectOf_inAspect (aspectOf_lastVdu isLast))
      rw [initialEq] at initialEq'
      rw [deltaEq] at deltaEq'
      cases initialEq'
      cases deltaEq'
      rw [counted]
      have isNum : (num : Int) = podNum pods inst.info vduId := by rw [numEq, numAt, sameLevel]
      rw [Int.ofNat.inj isNum]
  · intro fits aspectId vduId isVdu
    obtain ⟨level, ⟨maxLevel, maxEq, pos, le⟩, atLevel, ⟨before, beforeEq, passed⟩, counted⟩ :=
      fits aspectId ⟨vduId, isVdu⟩
    refine ⟨level, maxLevel, ?_, by rw [maxLevels, maxEq], pos, le, ?_⟩
    · cases last : lastVdu (vnfd inst.info.flavourId) aspectId (vdusInOrder report pods inst.info) with
      | none =>
        rw [(aspects aspectId).passed last]
        show levelOf inst.info.scaleStatus aspectId = some level
        rw [beforeEq, passed last]
      | some last' =>
        obtain ⟨initialDelta, delta, level', num, initialEq, deltaEq, ne, counted', numEq, after⟩ :=
          (aspects aspectId).level last' last
        obtain ⟨initialDelta', delta', initialEq', deltaEq', numAt⟩ :=
          atLevel last' (aspectOf_inAspect (aspectOf_lastVdu last))
        rw [initialEq] at initialEq'
        rw [deltaEq] at deltaEq'
        cases initialEq'
        cases deltaEq'
        rw [counted last' last] at counted'
        cases counted'
        have steps : level * delta = level' * delta := by omega
        rw [after]
        show (levelOf inst.info.scaleStatus aspectId).map _ = some level
        rw [beforeEq, Int.eq_of_mul_eq_mul_right ne steps]
        rfl
    · rw [nums]
      exact atLevel vduId isVdu

/-- A synchronization that fails leaves the database as it is, and one that succeeds stores an
instance with the right levels exactly if the reported pods are those of a level for every aspect. -/
theorem syncInst_scaled_iff (report : Report) (db : Db) :
    (∀ fault db', syncInst report db = (.error fault, db') → db' = db) ∧
    ∀ db', syncInst report db = (.ok (), db') → ∀ vnfd pods,
      report.getVnfd db.inst.vnfdId = .ok vnfd → report.allPods = .ok pods →
      (Scaled (vnfd db.inst.info.flavourId) db'.inst.info ↔
        ∀ aspectId, (∃ vduId, InAspect (vnfd db.inst.info.flavourId) aspectId vduId) →
          ∃ level, PodsAt report pods (vnfd db.inst.info.flavourId) db.inst.info aspectId level) := by
  unfold syncInst
  cases status : db.lcm.isLcmoccFailureStatus with
  | none =>
    refine ⟨fun fault db' eq => ?_, fun db' eq => ?_⟩
    · exact (Prod.mk.inj eq).2.symm
    · cases (Prod.mk.inj eq).1
  | some failing =>
    cases failing with
    | true =>
      refine ⟨fun fault db' eq => ?_, fun db' eq => ?_⟩
      · exact (Prod.mk.inj eq).2.symm
      · cases (Prod.mk.inj eq).1
    | false =>
      cases synced : syncDb report db.inst with
      | error fault =>
        refine ⟨fun fault db' eq => ?_, fun db' eq => ?_⟩
        · exact (Prod.mk.inj eq).2.symm
        · cases (Prod.mk.inj eq).1
      | ok stored =>
        refine ⟨fun fault db' eq => ?_, fun db' eq vnfd pods package allPods => ?_⟩
        · cases (Prod.mk.inj eq).1
        · obtain rfl := (Prod.mk.inj eq).2
          exact scaled_iff package allPods synced

/-! ## An instance -/

/-- A package with a VDU that has one instance more at each level. -/
def vdu1Flavour : Flavour where
  scalingAspects := [[("vdu1_aspect", ["delta_1"])]]
  vduScalingAspectDeltas := [⟨some "vdu1_aspect", [("delta_1", 1)], ["VDU1"]⟩]
  vduInitialDeltas := [⟨some 1, ["VDU1"]⟩]
  vduProfile := fun _ => ⟨some 3, some 1⟩

/-- The instance with one pod. -/
def vdu1Inst : Inst where
  vnfdId := "vnfd"
  info :=
    { flavourId := "simple"
      scaleStatus := some [⟨"vdu1_aspect", 0⟩]
      maxScaleLevels := some [⟨"vdu1_aspect", 2⟩]
      vduReses := ⟨[("VDU1", ⟨.deployment, "vdu1", some 1⟩)], by decide⟩
      vnfcResourceInfo := [⟨"vdu1-5f9c-x2k7q", "VDU1", .deployment⟩] }

/-- The database after its instantiation. -/
def vdu1Db : Db where
  lcm :=
    { inst := .created "vnfd"
      lcmoccs := ⟨[⟨0, .completed, 0, .heal, false, none, .unset⟩], by decide⟩ }
  inst := vdu1Inst

/-- The VDUs in the order in which they come up. -/
def dedupOrder : SetOrder where
  order := List.dedup
  nodup := List.nodup_dedup
  mem _ _ := List.mem_dedup

/-- A cluster with some running pods. -/
def clusterOf (pods : List String) : Report where
  getVnfd _ := .ok fun _ => vdu1Flavour
  allPods := .ok pods
  podsFor _ := .ok pods
  vduOrder := dedupOrder

lemma inAspect_vdu1 {aspectId vduId : String} (isVdu : InAspect vdu1Flavour aspectId vduId) :
    aspectId = "vdu1_aspect" ∧ vduId = "VDU1" := by
  obtain ⟨aspectDelta, mem, aspect, isTarget⟩ := isVdu
  obtain rfl := List.mem_singleton.mp mem
  exact ⟨(Option.some.inj aspect).symm, List.mem_singleton.mp isTarget⟩

/-- One pod more than is recorded. -/
def twoPods : List String :=
  ["vdu1-5f9c-x2k7q", "vdu1-5f9c-a3b4c"]

/-- `syncInst_scaled_iff` for a cluster that runs one pod more than is recorded. -/
theorem syncInst_scaled_vdu1 :
    ∃ db', syncInst (clusterOf twoPods) vdu1Db = (.ok (), db') ∧
      Scaled vdu1Flavour db'.inst.info := by
  have scaled := (syncInst_scaled_iff (clusterOf twoPods) vdu1Db).2 _ rfl (fun _ => vdu1Flavour)
    twoPods rfl rfl
  refine ⟨_, rfl, scaled.mpr ?_⟩
  intro aspectId ⟨vduId, isVdu⟩
  obtain ⟨rfl, -⟩ := inAspect_vdu1 isVdu
  refine ⟨1, ⟨2, rfl, by decide, by decide⟩, fun vduId isVdu => ?_, ⟨0, rfl, fun eq => ?_⟩,
    fun vduId _ => ?_⟩
  · obtain ⟨-, rfl⟩ := inAspect_vdu1 isVdu
    exact ⟨1, 1, rfl, rfl, by decide⟩
  · have last : lastVdu vdu1Flavour "vdu1_aspect" (vdusInOrder (clusterOf twoPods) twoPods
        vdu1Db.inst.info) = some "VDU1" := by decide
    cases last.symm.trans eq
  · apply getPodInformation_of_plain rfl (by decide)
    intro res found
    have isItem := List.mem_singleton.mp (VduReses.mem_of_get? found)
    rw [(Prod.mk.inj isItem).2]
    decide

/-- A VDU without pods is passed over: its VNFCs are gone, and the level stays as it was. -/
theorem vdu_without_pods_skipped :
    ∃ db', syncInst (clusterOf []) vdu1Db = (.ok (), db') ∧
      getCurrentVduNum db'.inst.info "VDU1" = 0 ∧
      levelOf db'.inst.info.scaleStatus "vdu1_aspect" = some 0 ∧
      initialOf vdu1Flavour "VDU1" = some 1 ∧ ¬ Scaled vdu1Flavour db'.inst.info := by
  refine ⟨_, rfl, rfl, rfl, rfl, fun scaled => ?_⟩
  obtain ⟨level, -, levelEq, -, -, -, initialDelta, delta, initialEq, deltaEq, num⟩ :=
    scaled "vdu1_aspect" "VDU1" ⟨_, List.mem_singleton_self _, rfl, List.mem_singleton_self _⟩
  cases levelEq
  cases initialEq
  cases deltaEq
  have gone : (0 : Int) = 1 + 0 * 1 := num
  cases gone

end Tacker.Kubernetes
