import Tacker.UserData.Indices
import Tacker.Basis.Listing
import Mathlib.Data.List.Dedup

/-!
# Grant requests for scaling

The grant requests that `conductor/vnflcm_driver_v2.py` makes for a scale request, and what the
infra driver maps the added VNFCs to. Of the resource definitions only those of type `COMPUTE` are
followed up, since the user data classes skip the others; the identifiers that are generated are
parameters.
-/

namespace Tacker.UserData

open Tacker.Basis

/-- The VDUs of a scaling aspect with the number of instances that a step adds or removes:
`get_scale_vdu_and_num`. -/
structure VduNums where
  nums : List (String × Int)
  unique : (nums.map Prod.fst).Nodup

/-- What the scaling policies of the packages say, by VNFD, flavour and aspect. -/
abbrev Policies := String → String → String → VduNums

/-! ## Scale-out -/

/-- `_make_res_def_for_new_vdu`. -/
def makeResDefForNewVdu (newId : String → Nat → String) (vduName : String) (numInst : Int) :
    List ResourceDef :=
  (List.range numInst.toNat).map fun i => ⟨newId vduName i, "COMPUTE", vduName, ""⟩

/-- `_make_scale_out_grant_request`: the VDUs that have a VNFC, which is the sample. -/
def makeScaleOutGrantRequest (newId : String → Nat → String) (inst : Inst) (numSteps : Nat)
    (vduNumInst : VduNums) : GrantReq where
  addResources :=
    (vduNumInst.nums.filter fun vdu =>
      inst.vnfcResourceInfo.any fun instVnfc => instVnfc.vduId = vdu.1).flatMap fun vdu =>
        makeResDefForNewVdu newId vdu.1 (vdu.2 * numSteps)

/-- The `COMPUTE` resources of a VDU to add. -/
def addedOf (vduName : String) (reses : List ResourceDef) : Nat :=
  reses.countP fun res => res.type = "COMPUTE" ∧ res.resourceTemplateId = vduName

/-- `_get_additional_vdu_id`: the names that the AZ reselection is done for. -/
def getAdditionalVduId (grantReq : GrantReq) (inst : Inst) : List String :=
  let addVdus := ((grantReq.addResources.filter fun res => res.type = "COMPUTE").map
    (·.resourceTemplateId)).dedup
  addVdus.flatMap fun vduName =>
    (List.range (addedOf vduName grantReq.addResources)).map fun i =>
      addIdx vduName (getCurrentCapacity vduName inst + i)

/-! ## Scale-in -/

/-- The VNFCs of a VDU that are selected: the loop stops when the count is reached. -/
def selectVnfcs (vduName : String) (numInst : Int) :
    Int → List VnfcResourceInfo → List VnfcResourceInfo
  | _, [] => []
  | count, instVnfc :: rest =>
    if instVnfc.vduId = vduName then
      instVnfc :: if count + 1 = numInst then [] else selectVnfcs vduName numInst (count + 1) rest
    else selectVnfcs vduName numInst count rest

/-- `_make_res_def_for_remove_vnfcs`. -/
def makeResDefForRemoveVnfc (newId : String → String) (instVnfc : VnfcResourceInfo) : ResourceDef :=
  ⟨newId instVnfc.id, "COMPUTE", instVnfc.vduId, instVnfc.resourceId⟩

/-- `rm_vnfcs` of `_make_scale_in_grant_request`. -/
def rmVnfcs (inst : Inst) (numSteps : Nat) (vduNumInst : VduNums) : List VnfcResourceInfo :=
  vduNumInst.nums.flatMap fun vdu =>
    selectVnfcs vdu.1 (vdu.2 * numSteps) 0 inst.vnfcResourceInfo

/-- `_make_scale_in_grant_request`. -/
def makeScaleInGrantRequest (newId : String → String) (inst : Inst) (numSteps : Nat)
    (vduNumInst : VduNums) : GrantReq where
  removeResources := (rmVnfcs inst numSteps vduNumInst).map (makeResDefForRemoveVnfc newId)

/-! ## The numbers -/

/-- The delta of a VDU, if it is one of the list. -/
def deltaOf (vduName : String) (nums : List (String × Int)) : Int :=
  ((nums.find? fun vdu => vdu.1 = vduName).map Prod.snd).getD 0

/-- The number of instances of a VDU that a scale request is about. -/
def VduNums.of (vduNumInst : VduNums) (vduName : String) (numSteps : Nat) : Nat :=
  (deltaOf vduName vduNumInst.nums * numSteps).toNat

lemma deltaOf_cons {vduName : String} {vdu : String × Int} {nums : List (String × Int)} :
    deltaOf vduName (vdu :: nums) = if vdu.1 = vduName then vdu.2 else deltaOf vduName nums := by
  by_cases same : vdu.1 = vduName
  · rw [if_pos same, deltaOf, List.find?_cons_of_pos (by simpa using same)]
    rfl
  · rw [if_neg same, deltaOf, List.find?_cons_of_neg (by simpa using same)]
    rfl

lemma deltaOf_absent {vduName : String} {nums : List (String × Int)}
    (absent : vduName ∉ nums.map Prod.fst) : deltaOf vduName nums = 0 := by
  induction nums with
  | nil => rfl
  | cons vdu nums ih =>
    obtain ⟨ne, absent⟩ := not_or.mp fun mem => absent (List.mem_cons.mpr mem)
    rw [deltaOf_cons, if_neg fun eq => ne eq.symm, ih absent]

lemma capacity_pos_iff {vduName : String} {inst : Inst} :
    0 < getCurrentCapacity vduName inst ↔
      (inst.vnfcResourceInfo.any fun instVnfc => instVnfc.vduId = vduName) = true := by
  rw [getCurrentCapacity, List.countP_pos_iff, List.any_eq_true]

lemma addedOf_makeResDefForNewVdu {newId : String → Nat → String} {vduName vduName' : String}
    {numInst : Int} :
    addedOf vduName (makeResDefForNewVdu newId vduName' numInst) =
      if vduName' = vduName then numInst.toNat else 0 := by
  rw [addedOf, makeResDefForNewVdu, List.countP_map]
  by_cases same : vduName' = vduName
  · rw [if_pos same]
    have all : List.countP ((fun res : ResourceDef =>
        decide (res.type = "COMPUTE" ∧ res.resourceTemplateId = vduName)) ∘
        fun i => ⟨newId vduName' i, "COMPUTE", vduName', ""⟩) (List.range numInst.toNat) =
        (List.range numInst.toNat).length := by
      apply List.countP_eq_length.mpr
      intro i _
      simp [same]
    rw [all, List.length_range]
  · rw [if_neg same]
    apply List.countP_eq_zero.mpr
    intro i _
    simp [same]

/-- The grant request adds as many resources for a VDU as the scale request is about, if the VDU has
a VNFC. -/
lemma addedOf_scaleOut {newId : String → Nat → String} {inst : Inst} {numSteps : Nat}
    {vduNumInst : VduNums} {vduName : String} :
    addedOf vduName (makeScaleOutGrantRequest newId inst numSteps vduNumInst).addResources =
      if 0 < getCurrentCapacity vduName inst then vduNumInst.of vduName numSteps else 0 := by
  obtain ⟨nums, unique⟩ := vduNumInst
  show addedOf vduName ((nums.filter fun vdu =>
      inst.vnfcResourceInfo.any fun instVnfc => instVnfc.vduId = vdu.1).flatMap fun vdu =>
        makeResDefForNewVdu newId vdu.1 (vdu.2 * numSteps)) =
    if _ then (deltaOf vduName nums * numSteps).toNat else 0
  simp only [capacity_pos_iff]
  induction nums with
  | nil => simp [addedOf, deltaOf]
  | cons vdu nums ih =>
    obtain ⟨fresh, unique⟩ := List.nodup_cons.mp unique
    have ih := ih unique
    rw [deltaOf_cons]
    by_cases sample : (inst.vnfcResourceInfo.any fun instVnfc => instVnfc.vduId = vdu.1) = true
    · rw [List.filter_cons, if_pos sample, List.flatMap_cons, addedOf, List.countP_append]
      show addedOf vduName _ + addedOf vduName _ = _
      rw [ih, addedOf_makeResDefForNewVdu]
      by_cases same : vdu.1 = vduName
      · subst same
        rw [if_pos rfl, if_pos sample, if_pos rfl, if_pos sample, deltaOf_absent fresh]
        simp
      · rw [if_neg same, if_neg same, Nat.zero_add]
    · rw [List.filter_cons, if_neg sample, ih]
      by_cases same : vdu.1 = vduName
      · subst same
        rw [if_neg sample, if_neg sample]
      · rw [if_neg same]

/-- The indices that a list of resources gets for a VDU. -/
lemma mem_numberVdus {vduNodes : List String} {next : String → Nat} {reses : List ResourceDef}
    {vduName : String} {vduIdx : Nat} :
    (∃ res ∈ numberVdus vduNodes next reses, res.1.resourceTemplateId = vduName ∧ res.2 = vduIdx) ↔
      vduName ∈ vduNodes ∧ next vduName ≤ vduIdx ∧ vduIdx < next vduName + addedOf vduName reses := by
  induction reses generalizing next with
  | nil =>
    simp only [numberVdus, List.not_mem_nil, false_and, exists_false, false_iff, addedOf,
      List.countP_nil, Nat.add_zero]
    omega
  | cons res reses ih =>
    unfold numberVdus
    by_cases isVdu : res.type = "COMPUTE" ∧ res.resourceTemplateId ∈ vduNodes
    · rw [if_pos isVdu]
      simp only [List.mem_cons, exists_eq_or_imp]
      rw [ih]
      by_cases same : res.resourceTemplateId = vduName
      · subst same
        have count : addedOf res.resourceTemplateId (res :: reses) =
            addedOf res.resourceTemplateId reses + 1 := by
          rw [addedOf, List.countP_cons_of_pos (by simp [isVdu.1])]
          rfl
        rw [Function.update_self, count]
        have isNode := isVdu.2
        simp only [isNode, true_and]
        omega
      · have count : addedOf vduName (res :: reses) = addedOf vduName reses := by
          rw [addedOf, List.countP_cons_of_neg (by simp [same])]
          rfl
        have ne : ¬ vduName = res.resourceTemplateId := fun eq => same eq.symm
        rw [Function.update_of_ne ne, count]
        simp [same]
    · rw [if_neg isVdu, ih]
      by_cases counted : res.type = "COMPUTE" ∧ res.resourceTemplateId = vduName
      · have notNode : vduName ∉ vduNodes := by
          intro mem
          exact isVdu ⟨counted.1, by rw [counted.2]; exact mem⟩
        simp [notNode]
      · have count : addedOf vduName (res :: reses) = addedOf vduName reses := by
          rw [addedOf, List.countP_cons_of_neg (by simpa using counted)]
          rfl
        rw [count]

/-- The name of an index is added exactly if the index is one of the next ones of its VDU. -/
lemma mem_namesOf {vduNodes : List String} {next : String → Nat} {reses : List ResourceDef}
    {vduName : String} {vduIdx : Nat} :
    addIdx vduName vduIdx ∈ namesOf (numberVdus vduNodes next reses) ↔
      vduName ∈ vduNodes ∧ next vduName ≤ vduIdx ∧ vduIdx < next vduName + addedOf vduName reses := by
  rw [← mem_numberVdus, namesOf, List.mem_map]
  apply exists_congr
  intro res
  apply and_congr_right'
  constructor
  · intro eq
    exact addIdx_inj eq
  · rintro ⟨rfl, rfl⟩
    rfl

/-- No two resources that are added get the same name. -/
lemma namesOf_nodup {vduNodes : List String} {next : String → Nat} {reses : List ResourceDef} :
    (namesOf (numberVdus vduNodes next reses)).Nodup := by
  induction reses generalizing next with
  | nil => exact List.nodup_nil
  | cons res reses ih =>
    unfold numberVdus
    by_cases isVdu : res.type = "COMPUTE" ∧ res.resourceTemplateId ∈ vduNodes
    · rw [if_pos isVdu]
      show (addIdx res.resourceTemplateId (next res.resourceTemplateId) :: namesOf _).Nodup
      apply List.nodup_cons.mpr ⟨_, ih⟩
      rw [mem_namesOf, Function.update_self]
      omega
    · rw [if_neg isVdu]
      exact ih

/-- The zone of an added resource is the one that the grant has for its definition. -/
lemma zoneOf_added {grant : Grant} {added : List (ResourceDef × Nat)} (unique : (namesOf added).Nodup)
    {res : ResourceDef × Nat} (mem : res ∈ added) :
    zoneOf grant added (addIdx res.1.resourceTemplateId res.2) =
      .ok (getParamZoneByVnfc res.1.id grant) := by
  have found := find?_key unique mem
  rw [zoneOf, found]

/-- The names that the AZ reselection is done for are those of the next indices. -/
lemma mem_getAdditionalVduId {grantReq : GrantReq} {inst : Inst} {vduName : String} {vduIdx : Nat} :
    addIdx vduName vduIdx ∈ getAdditionalVduId grantReq inst ↔
      getCurrentCapacity vduName inst ≤ vduIdx ∧
        vduIdx < getCurrentCapacity vduName inst + addedOf vduName grantReq.addResources := by
  have asked : vduName ∈ ((grantReq.addResources.filter fun res => res.type = "COMPUTE").map
      (·.resourceTemplateId)).dedup ↔ 0 < addedOf vduName grantReq.addResources := by
    rw [List.mem_dedup, List.mem_map, addedOf, List.countP_pos_iff]
    apply exists_congr
    intro res
    rw [List.mem_filter, decide_eq_true_iff, decide_eq_true_iff]
    exact and_assoc
  rw [getAdditionalVduId, List.mem_flatMap]
  constructor
  · rintro ⟨vduName', -, mem⟩
    obtain ⟨i, lt, eq⟩ := List.mem_map.mp mem
    obtain ⟨rfl, rfl⟩ := addIdx_inj eq
    have lt := List.mem_range.mp lt
    omega
  · rintro ⟨le, lt⟩
    refine ⟨vduName, asked.mpr (by omega), List.mem_map.mpr ?_⟩
    refine ⟨vduIdx - getCurrentCapacity vduName inst, List.mem_range.mpr (by omega), ?_⟩
    rw [Nat.add_sub_cancel' le]

/-- The loop selects the first VNFCs of the VDU, as many as it has to. -/
lemma selectVnfcs_eq {vduName : String} {numInst count : Int} {vnfcs : List VnfcResourceInfo}
    (lt : count < numInst) :
    selectVnfcs vduName numInst count vnfcs =
      (vnfcs.filter fun instVnfc => instVnfc.vduId = vduName).take (numInst - count).toNat := by
  induction vnfcs generalizing count with
  | nil => simp [selectVnfcs]
  | cons vnfc vnfcs ih =>
    unfold selectVnfcs
    by_cases ofVdu : vnfc.vduId = vduName
    · have size : (numInst - count).toNat = (numInst - (count + 1)).toNat + 1 := by omega
      rw [if_pos ofVdu, List.filter_cons_of_pos (by simpa using ofVdu), size, List.take_succ_cons]
      by_cases last : count + 1 = numInst
      · rw [if_pos last, last, Int.sub_self]
        rfl
      · rw [if_neg last, ih (by omega)]
    · rw [if_neg ofVdu, List.filter_cons_of_neg (by simpa using ofVdu), ih lt]

/-- A VDU without VNFCs has none to select. -/
lemma selectVnfcs_absent {vduName : String} {numInst count : Int} {vnfcs : List VnfcResourceInfo}
    (absent : ∀ vnfc ∈ vnfcs, vnfc.vduId ≠ vduName) :
    selectVnfcs vduName numInst count vnfcs = [] := by
  induction vnfcs generalizing count with
  | nil => rfl
  | cons vnfc vnfcs ih =>
    unfold selectVnfcs
    rw [if_neg (absent vnfc List.mem_cons_self)]
    exact ih fun vnfc mem => absent vnfc (List.mem_cons_of_mem _ mem)

lemma selectVnfcs_subset {vduName : String} {numInst count : Int} {vnfcs : List VnfcResourceInfo} :
    ∀ vnfc ∈ selectVnfcs vduName numInst count vnfcs, vnfc ∈ vnfcs ∧ vnfc.vduId = vduName := by
  induction vnfcs generalizing count with
  | nil => simp [selectVnfcs]
  | cons vnfc vnfcs ih =>
    intro vnfc' mem
    unfold selectVnfcs at mem
    by_cases ofVdu : vnfc.vduId = vduName
    · rw [if_pos ofVdu] at mem
      rcases List.mem_cons.mp mem with rfl | mem
      · exact ⟨List.mem_cons_self, ofVdu⟩
      · by_cases last : count + 1 = numInst
        · rw [if_pos last] at mem
          cases mem
        · rw [if_neg last] at mem
          obtain ⟨mem, ofVdu'⟩ := ih vnfc' mem
          exact ⟨List.mem_cons_of_mem _ mem, ofVdu'⟩
    · rw [if_neg ofVdu] at mem
      obtain ⟨mem, ofVdu'⟩ := ih vnfc' mem
      exact ⟨List.mem_cons_of_mem _ mem, ofVdu'⟩

/-- The names that a scale-in deletes are those of the VNFCs it removes. -/
lemma removedNames_ok {newId : String → String} {inst : Inst} {vnfcs : List VnfcResourceInfo}
    {prev : Option Nat} {names : List String}
    (unique : (inst.vnfcResourceInfo.map (·.resourceId)).Nodup)
    (within : ∀ vnfc ∈ vnfcs, vnfc ∈ inst.vnfcResourceInfo)
    (eq : StandardUserData.removedNames inst prev (vnfcs.map (makeResDefForRemoveVnfc newId)) =
      .ok names) :
    ∀ vduName vduIdx, addIdx vduName vduIdx ∈ names ↔
      ∃ vnfc ∈ vnfcs, vnfc.vduId = vduName ∧ vnfc.vduIdx = some vduIdx := by
  induction vnfcs generalizing prev names with
  | nil =>
    cases eq
    simp
  | cons vnfc vnfcs ih =>
    have found : inst.vnfcResourceInfo.find? (fun instVnfc =>
        instVnfc.resourceId = (makeResDefForRemoveVnfc newId vnfc).resourceId) = some vnfc :=
      find?_key unique (within vnfc List.mem_cons_self)
    have compute : (makeResDefForRemoveVnfc newId vnfc).type = "COMPUTE" := rfl
    rw [List.map_cons, StandardUserData.removedNames, if_pos compute, found] at eq
    obtain ⟨vduIdx', idx, eq⟩ := bind_ok.mp eq
    obtain ⟨rest, restEq, eq⟩ := bind_ok.mp eq
    obtain rfl := pure_ok.mp eq
    have isIdx : vnfc.vduIdx = some vduIdx' := by
      cases recorded : vnfc.vduIdx with
      | none =>
        rw [recorded] at idx
        cases idx
      | some i =>
        rw [recorded] at idx
        cases idx
        rfl
    intro vduName vduIdx
    rw [List.mem_cons, ih (fun vnfc mem => within vnfc (List.mem_cons_of_mem _ mem)) restEq]
    simp only [List.mem_cons, exists_eq_or_imp]
    apply or_congr_left
    rw [isIdx, Option.some.injEq]
    constructor
    · intro eq
      obtain ⟨rfl, rfl⟩ := addIdx_inj eq
      exact ⟨rfl, rfl⟩
    · rintro ⟨rfl, rfl⟩
      rfl

lemma mem_take_downFrom {n k i : Nat} : some i ∈ (downFrom n).take k ↔ n - k ≤ i ∧ i < n := by
  rw [downFrom, ← List.map_take, List.mem_map]
  simp only [Option.some.injEq, exists_eq_right]
  rw [List.take_reverse, List.mem_reverse, List.length_range, List.range_eq_range',
    List.drop_range']
  rw [List.mem_range'_1]
  omega

/-- The VNFCs of a VDU that a scale-in selects are those of the highest indices. -/
lemma mem_rmVnfcs {inst : Inst} {numSteps : Nat} {vduNumInst : VduNums} {vduName : String}
    {vduIdx : Nat} (indices : indicesOf vduName inst = downFrom (getCurrentCapacity vduName inst))
    (positive : ∀ vdu ∈ vduNumInst.nums,
      0 < vdu.2 * numSteps ∨ getCurrentCapacity vdu.1 inst = 0) :
    (∃ vnfc ∈ rmVnfcs inst numSteps vduNumInst, vnfc.vduId = vduName ∧ vnfc.vduIdx = some vduIdx) ↔
      getCurrentCapacity vduName inst - vduNumInst.of vduName numSteps ≤ vduIdx ∧
        vduIdx < getCurrentCapacity vduName inst := by
  have selected : (∃ vnfc ∈ rmVnfcs inst numSteps vduNumInst,
      vnfc.vduId = vduName ∧ vnfc.vduIdx = some vduIdx) ↔
      ∃ vdu ∈ vduNumInst.nums, vdu.1 = vduName ∧
        ∃ vnfc ∈ selectVnfcs vduName (vdu.2 * numSteps) 0 inst.vnfcResourceInfo,
          vnfc.vduIdx = some vduIdx := by
    constructor
    · rintro ⟨vnfc, mem, ofVdu, idx⟩
      obtain ⟨vdu, inNums, mem⟩ := List.mem_flatMap.mp mem
      have same : vdu.1 = vduName := by rw [← (selectVnfcs_subset vnfc mem).2, ofVdu]
      subst same
      exact ⟨vdu, inNums, rfl, vnfc, mem, idx⟩
    · rintro ⟨vdu, inNums, rfl, vnfc, mem, idx⟩
      exact ⟨vnfc, List.mem_flatMap.mpr ⟨vdu, inNums, mem⟩, (selectVnfcs_subset vnfc mem).2, idx⟩
  rw [selected]
  by_cases inNums : vduName ∈ vduNumInst.nums.map Prod.fst
  · obtain ⟨vdu, isNum, rfl⟩ := List.mem_map.mp inNums
    have only : ∀ vdu' ∈ vduNumInst.nums, vdu'.1 = vdu.1 → vdu' = vdu := fun vdu' mem same =>
      List.inj_on_of_nodup_map vduNumInst.unique mem isNum same
    have delta : deltaOf vdu.1 vduNumInst.nums = vdu.2 := by
      rw [deltaOf, find?_key vduNumInst.unique isNum]
      rfl
    have justIt : (∃ vdu' ∈ vduNumInst.nums, vdu'.1 = vdu.1 ∧
        ∃ vnfc ∈ selectVnfcs vdu.1 (vdu'.2 * numSteps) 0 inst.vnfcResourceInfo,
          vnfc.vduIdx = some vduIdx) ↔
        ∃ vnfc ∈ selectVnfcs vdu.1 (vdu.2 * numSteps) 0 inst.vnfcResourceInfo,
          vnfc.vduIdx = some vduIdx := by
      constructor
      · rintro ⟨vdu', mem, same, rest⟩
        rwa [only vdu' mem same] at rest
      · exact fun rest => ⟨vdu, isNum, rfl, rest⟩
    rw [justIt, VduNums.of, delta]
    rcases positive vdu isNum with pos | none
    · rw [selectVnfcs_eq pos, Int.sub_zero, ← mem_take_downFrom, ← indices, indicesOf,
        ← List.map_take, List.mem_map]
    · have absent : ∀ vnfc ∈ inst.vnfcResourceInfo, vnfc.vduId ≠ vdu.1 := by
        intro vnfc mem eq
        have isZero := List.countP_eq_zero.mp none vnfc mem
        exact isZero (decide_eq_true eq)
      rw [selectVnfcs_absent absent, none]
      simp
  · have absent : ∀ vdu ∈ vduNumInst.nums, vdu.1 ≠ vduName := fun vdu mem eq =>
      inNums (List.mem_map.mpr ⟨vdu, mem, eq⟩)
    rw [VduNums.of, deltaOf_absent inNums]
    constructor
    · rintro ⟨vdu, mem, same, -⟩
      exact absurd same (absent vdu mem)
    · rintro ⟨le, lt⟩
      simp at le
      omega

end Tacker.UserData
