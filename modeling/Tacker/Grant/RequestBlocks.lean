import Tacker.Grant.Placement

/-!
# Blocks of grant requests

The blocks that the grant requests for instantiate and scale-out are made of, and the VNFCs that a
scale-in selects.
-/

namespace Tacker.Grant

open Tacker.Basis

/-! ## What is made for one VDU -/

section

variable {α β κ : Type*} {key : α → κ} {items : List α} {f : α → List β} {p : κ → β → Bool} {a : α}

/-- Of what is made key by key, the part of one key is what is made for it. -/
lemma filter_flatMap_of_keyed (unique : (items.map key).Nodup)
    (own : ∀ a ∈ items, ∀ b ∈ f a, ∀ k, p k b = true ↔ k = key a) (mem : a ∈ items) :
    (items.flatMap f).filter (p (key a)) = f a := by
  induction items with
  | nil => cases mem
  | cons a' items ih =>
    obtain ⟨absent, unique⟩ := List.nodup_cons.mp unique
    obtain ⟨first, rest⟩ := List.forall_mem_cons.mp own
    rw [List.flatMap_cons, List.filter_append]
    rcases List.mem_cons.mp mem with rfl | mem
    · have others : (items.flatMap f).filter (p (key a)) = [] := by
        apply List.filter_eq_nil_iff.mpr
        intro b bMem holds
        obtain ⟨a'', mem'', bMem⟩ := List.mem_flatMap.mp bMem
        rw [(rest a'' mem'' b bMem (key a)).mp holds] at absent
        exact absent (List.mem_map_of_mem mem'')
      rw [others, List.append_nil]
      exact List.filter_eq_self.mpr fun b bMem => (first b bMem (key a)).mpr rfl
    · have others : (f a').filter (p (key a)) = [] := by
        apply List.filter_eq_nil_iff.mpr
        intro b bMem holds
        rw [← (first b bMem (key a)).mp holds] at absent
        exact absent (List.mem_map_of_mem mem)
      rw [others, List.nil_append, ih unique rest mem]

end

lemma blocksOf_append (vduName : String) (blocks blocks' : List Block) :
    blocksOf vduName (blocks ++ blocks') = blocksOf vduName blocks ++ blocksOf vduName blocks' :=
  List.filter_append ..

lemma blocksOf_other {vduName : String} {blocks : List Block}
    (others : ∀ block ∈ blocks, ¬ (block.isServer = true ∧ block.resourceTemplateId = vduName)) :
    blocksOf vduName blocks = [] := by
  apply List.filter_eq_nil_iff.mpr
  intro block mem own
  exact others block mem (of_decide_eq_true own)

/-- Of blocks that are made VDU by VDU, those of one VDU are made for it. -/
lemma blocksOf_flatMap {α : Type*} (key : α → String) {items : List α} {f : α → List Block} {a : α}
    (unique : (items.map key).Nodup)
    (each : ∀ a ∈ items, ∀ block ∈ f a,
      block.isServer = true ∧ block.resourceTemplateId = key a) (mem : a ∈ items) :
    blocksOf (key a) (items.flatMap f) = f a := by
  have own : ∀ a ∈ items, ∀ block ∈ f a, ∀ vduName,
      decide (block.isServer = true ∧ block.resourceTemplateId = vduName) = true ↔
        vduName = key a := by
    intro a mem block blockMem vduName
    obtain ⟨server, name⟩ := each a mem block blockMem
    rw [decide_eq_true_iff, and_iff_right server, name]
    exact eq_comm
  exact filter_flatMap_of_keyed unique own mem

/-- The blocks for new VNFCs of a VDU. -/
def newBlocks (vduName : String) (numInst : Nat) (cps storages : List String) : List Block :=
  (List.range numInst).map fun i =>
    { call := .newVdu vduName i
      isServer := true
      resourceTemplateId := vduName
      cpNames := cps
      storageNames := storages }

variable {vduName : String} {numInst : Nat} {cps storages : List String} {uuids : Uuids}

lemma makeResDefForNewVdu_eq :
    makeResDefForNewVdu uuids vduName numInst cps storages =
      (newBlocks vduName numInst cps storages).flatMap (Block.reses uuids) := by
  rw [newBlocks, List.flatMap_map]
  rfl

lemma of_mem_newBlocks {block : Block}
    (mem : block ∈ newBlocks vduName numInst cps storages) :
    block.isServer = true ∧ block.resourceTemplateId = vduName ∧ block.cpNames = cps ∧
      block.storageNames = storages ∧ ∃ i, block.call = .newVdu vduName i := by
  obtain ⟨i, _, rfl⟩ := List.mem_map.mp mem
  exact ⟨rfl, rfl, rfl, rfl, i, rfl⟩

lemma calls_newBlocks_nodup :
    ((newBlocks vduName numInst cps storages).map Block.call).Nodup := by
  rw [newBlocks, List.map_map]
  apply List.nodup_range.map
  intro i i' eq
  exact (UuidCall.newVdu.inj eq).2

/-- New VNFCs of different VDUs have different identifiers. -/
lemma calls_nodup_flatMap {α : Type*} {key : α → String} {items : List α}
    {num : α → Nat} {cpsOf storagesOf : α → List String} (unique : (items.map key).Nodup) :
    ((items.flatMap fun a => newBlocks (key a) (num a) (cpsOf a) (storagesOf a)).map
      Block.call).Nodup := by
  rw [List.map_flatMap, List.nodup_flatMap]
  refine ⟨fun a _ => calls_newBlocks_nodup, ?_⟩
  apply (List.pairwise_map.mp unique).imp
  intro a a' ne call mem mem'
  obtain ⟨block, blockMem, rfl⟩ := List.mem_map.mp mem
  obtain ⟨block', blockMem', same⟩ := List.mem_map.mp mem'
  obtain ⟨_, _, _, _, i, eq⟩ := of_mem_newBlocks blockMem
  obtain ⟨_, _, _, _, i', eq'⟩ := of_mem_newBlocks blockMem'
  rw [eq, eq'] at same
  exact ne (UuidCall.newVdu.inj same).1.symm

/-! ## The blocks of the requests -/

/-- The number of instances of a VDU that a level asks for. -/
def numOf (flavour : Flavour) (req : InstantiateVnfRequest) (node : NodeTemplate) : Nat :=
  (flavour.getVduNum node.name (req.instLevel flavour)).getD 0

/-- The ports of a VDU that an instantiate request leaves to be made. -/
def portNames (flavour : Flavour) (req : InstantiateVnfRequest) (node : NodeTemplate) :
    List String :=
  (flavour.getVduCps node.name).filter fun cpName => cpName ∉ req.linkPorts

/-- The blocks of an instantiate request. -/
def instantiateBlocks (flavour : Flavour) (req : InstantiateVnfRequest) : List Block :=
  ((flavour.nodes .vduCompute).flatMap fun node =>
    newBlocks node.name (numOf flavour req node) (portNames flavour req node)
      (getVduStorages node)) ++
  ((flavour.names .vnfVirtualLink).filter fun name =>
    name ∉ (req.extManagedVirtualLinks.getD []).map (·.vnfVirtualLinkDescId)).map fun name =>
      { call := .newVl name, isServer := false, resourceTemplateId := name }

/-- The VDUs of a scale-out request that have a sample. -/
def sampled (vnfcs : List VnfcResourceInfo) (vduNumInst : List (String × Nat)) :
    List ((String × Nat) × VnfcResourceInfo) :=
  vduNumInst.filterMap fun vdu => (vduSample vnfcs vdu.1).map fun instVnfc => (vdu, instVnfc)

/-- The blocks of a scale-out request. -/
def scaleOutBlocks (instInfo : InstantiatedVnfInfo) (numSteps : Nat)
    (vduNumInst : List (String × Nat)) : List Block :=
  (sampled instInfo.vnfcs vduNumInst).flatMap fun vdu =>
    newBlocks vdu.1.1 (vdu.1.2 * numSteps) (vdu.2.cps.map (·.cpdId)) (storageNames instInfo vdu.2)

variable {flavour : Flavour} {req : InstantiateVnfRequest} {reses : List ResourceDefinition}
  {instInfo : InstantiatedVnfInfo} {numSteps : Nat} {vduNumInst : List (String × Nat)}

/-- When an instantiate request is made, each VDU has a number. -/
lemma getVduNum_of_made (made : instantiateAddReses uuids flavour req = .ok reses)
    {node : NodeTemplate} (mem : node ∈ flavour.nodes .vduCompute) :
    flavour.getVduNum node.name (req.instLevel flavour) = some (numOf flavour req node) := by
  obtain ⟨vdus, turns, _⟩ := bind_ok.mp made
  obtain ⟨_, turn⟩ := mapM_ok_of_mem turns mem
  obtain ⟨num, ranged, _⟩ := bind_ok.mp turn
  rw [numOf]
  cases known : flavour.getVduNum node.name (req.instLevel flavour) with
  | some num => rfl
  | none =>
    rw [known] at ranged
    cases ranged

lemma madeOf_instantiate (made : instantiateAddReses uuids flavour req = .ok reses) :
    MadeOf uuids (instantiateBlocks flavour req) reses := by
  have known : ∀ node ∈ flavour.nodes .vduCompute,
      flavour.getVduNum node.name (req.instLevel flavour) = some (numOf flavour req node) :=
    fun node mem => getVduNum_of_made made mem
  obtain ⟨vdus, turns, made⟩ := bind_ok.mp made
  cases made
  have each : vdus = (flavour.nodes .vduCompute).map fun node =>
      (newBlocks node.name (numOf flavour req node) (portNames flavour req node)
        (getVduStorages node)).flatMap (Block.reses uuids) := by
    refine (List.map_id vdus).symm.trans ?_
    apply map_of_mapM_ok turns
    intro node mem reses turn
    obtain ⟨num, ranged, turn⟩ := bind_ok.mp turn
    rw [known node mem] at ranged
    cases ranged
    cases turn
    exact makeResDefForNewVdu_eq
  have vls : newVlAddReses uuids flavour req = (((flavour.names .vnfVirtualLink).filter fun name =>
      name ∉ (req.extManagedVirtualLinks.getD []).map (·.vnfVirtualLinkDescId)).map fun name =>
        ({ call := .newVl name, isServer := false, resourceTemplateId := name } : Block)).flatMap
          (Block.reses uuids) := by
    rw [List.flatMap_map]
    exact List.map_eq_flatMap
  rw [each, vls, ← List.flatMap_def, ← List.flatMap_assoc, ← List.flatMap_append]
  exact madeOf_flatMap uuids (instantiateBlocks flavour req)

lemma madeOf_scaleOut (made : scaleOutAddReses uuids instInfo numSteps vduNumInst = .ok reses) :
    MadeOf uuids (scaleOutBlocks instInfo numSteps vduNumInst) reses := by
  obtain ⟨vnfcs, loaded, made⟩ := bind_ok.mp made
  obtain ⟨vdus, turns, made⟩ := bind_ok.mp made
  cases made
  have vnfcsEq : instInfo.vnfcs = vnfcs := by
    rw [InstantiatedVnfInfo.vnfcs, load_ok.mp loaded, Option.getD_some]
  have each : vdus = (sampled instInfo.vnfcs vduNumInst).map fun vdu =>
      (newBlocks vdu.1.1 (vdu.1.2 * numSteps) (vdu.2.cps.map (·.cpdId))
        (storageNames instInfo vdu.2)).flatMap (Block.reses uuids) := by
    rw [vnfcsEq]
    refine (List.map_id vdus).symm.trans ?_
    apply map_of_mapM_ok turns
    intro vdu mem reses turn
    obtain ⟨storages, read, turn⟩ := bind_ok.mp turn
    cases storagesOf_ok read
    cases turn
    exact makeResDefForNewVdu_eq
  rw [each, ← List.flatMap_def, ← List.flatMap_assoc]
  exact madeOf_flatMap uuids (scaleOutBlocks instInfo numSteps vduNumInst)

lemma getVduCps_nodup (vduName : String) : (flavour.getVduCps vduName).Nodup :=
  flavour.unique.sublist ((List.filter_sublist.trans List.filter_sublist).map NodeTemplate.name)

lemma vduNodes_nodup (flavour : Flavour) :
    ((flavour.nodes .vduCompute).map NodeTemplate.name).Nodup :=
  flavour.unique.sublist (List.filter_sublist.map NodeTemplate.name)

/-- The new VNFCs and virtual links of an instantiate request have different identifiers. -/
lemma calls_instantiate_nodup (flavour : Flavour) (req : InstantiateVnfRequest) :
    ((instantiateBlocks flavour req).map Block.call).Nodup := by
  rw [instantiateBlocks, List.map_append, List.nodup_append']
  refine ⟨calls_nodup_flatMap (vduNodes_nodup flavour), ?_, ?_⟩
  · have names : (flavour.names .vnfVirtualLink).Nodup :=
      flavour.unique.sublist (List.filter_sublist.map NodeTemplate.name)
    rw [List.map_map]
    apply (names.filter _).map
    intro name name' eq
    exact UuidCall.newVl.inj eq
  · intro call mem mem'
    obtain ⟨block, blockMem, rfl⟩ := List.mem_map.mp mem
    obtain ⟨node, _, blockMem⟩ := List.mem_flatMap.mp blockMem
    obtain ⟨_, _, _, _, i, eq⟩ := of_mem_newBlocks blockMem
    obtain ⟨block', blockMem', same⟩ := List.mem_map.mp mem'
    obtain ⟨name, _, rfl⟩ := List.mem_map.mp blockMem'
    rw [eq] at same
    cases same

/-- The sampled VDUs are among those of the aspect. -/
lemma sampled_nodup {vnfcs : List VnfcResourceInfo} (unique : (vduNumInst.map Prod.fst).Nodup) :
    ((sampled vnfcs vduNumInst).map fun vdu => vdu.1.1).Nodup := by
  have sub : ((sampled vnfcs vduNumInst).map Prod.fst).Sublist vduNumInst := by
    induction vduNumInst with
    | nil => exact .slnil
    | cons vdu vduNumInst ih =>
      have ih := ih (List.nodup_cons.mp unique).2
      rw [sampled, List.filterMap_cons]
      cases sample : vduSample vnfcs vdu.1 with
      | none => exact ih.cons vdu
      | some instVnfc => exact ih.cons_cons vdu
  have names := unique.sublist (sub.map Prod.fst)
  rw [List.map_map] at names
  exact names

/-! ## Numbers of the aspect -/

lemma map_fst_setNum (vduNumInst : List (String × Nat)) (vdu : String × Nat) :
    (setNum vduNumInst vdu).map Prod.fst =
      if vdu.1 ∈ vduNumInst.map Prod.fst then vduNumInst.map Prod.fst
      else vduNumInst.map Prod.fst ++ [vdu.1] := by
  rw [setNum]
  by_cases mem : vdu.1 ∈ vduNumInst.map Prod.fst
  · rw [if_pos mem, if_pos mem, List.map_map]
    apply List.map_congr_left
    intro vdu' _
    by_cases same : vdu'.1 = vdu.1
    · simp [same]
    · simp [same]
  · rw [if_neg mem, if_neg mem, List.map_append]
    rfl

/-- A VDU has one number. -/
lemma getScaleVduAndNum_nodup {aspectId : String}
    (nums : getScaleVduAndNum flavour aspectId = .ok vduNumInst) :
    (vduNumInst.map Prod.fst).Nodup := by
  have keep : ∀ (vdus vduNumInst : List (String × Nat)), (vduNumInst.map Prod.fst).Nodup →
      ((vdus.foldl setNum vduNumInst).map Prod.fst).Nodup := by
    intro vdus
    induction vdus with
    | nil => exact fun _ unique => unique
    | cons vdu vdus ih =>
      intro vduNumInst unique
      apply ih
      rw [map_fst_setNum]
      by_cases mem : vdu.1 ∈ vduNumInst.map Prod.fst
      · rw [if_pos mem]
        exact unique
      · rw [if_neg mem]
        exact List.nodup_append'.mpr ⟨unique, List.nodup_singleton _, by simpa using mem⟩
  rw [getScaleVduAndNum] at nums
  cases delta : flavour.stepDelta aspectId with
  | none =>
    rw [delta] at nums
    cases nums
    exact List.nodup_nil
  | some delta' =>
    rw [delta] at nums
    obtain ⟨vdus, _, nums⟩ := bind_ok.mp nums
    cases nums
    exact keep _ [] List.nodup_nil

/-! ## Selection of VNFCs -/

/-- The VNFCs of a VDU. -/
def vnfcsOf (vduName : String) (vnfcs : List VnfcResourceInfo) : List VnfcResourceInfo :=
  vnfcs.filter fun instVnfc => instVnfc.vduId = vduName

/-- The loop takes the number that is left, or all if there is none left to begin with. -/
lemma selectVnfcs_eq {numInst : Nat} {vnfcs : List VnfcResourceInfo} (count : Nat) :
    selectVnfcs vduName numInst count vnfcs =
      if count < numInst then (vnfcsOf vduName vnfcs).take (numInst - count)
      else vnfcsOf vduName vnfcs := by
  induction vnfcs generalizing count with
  | nil => simp [selectVnfcs, vnfcsOf]
  | cons instVnfc vnfcs ih =>
    rw [selectVnfcs, vnfcsOf, List.filter_cons]
    by_cases own : instVnfc.vduId = vduName
    · rw [if_pos own, if_pos (decide_eq_true own), ih (count + 1)]
      by_cases last : count + 1 = numInst
      · rw [if_pos last, if_pos (by omega), show numInst - count = 1 by omega]
        rfl
      · rw [if_neg last]
        by_cases more : count < numInst
        · rw [if_pos more, if_pos (by omega),
            show numInst - count = (numInst - (count + 1)) + 1 by omega, List.take_succ_cons]
          rfl
        · rw [if_neg more, if_neg (by omega)]
          rfl
    · rw [if_neg own, if_neg (show ¬ decide (instVnfc.vduId = vduName) = true by simpa using own),
        ih count]
      rfl

lemma of_mem_vnfcsOf {instVnfc : VnfcResourceInfo} {vnfcs : List VnfcResourceInfo}
    (mem : instVnfc ∈ vnfcsOf vduName vnfcs) : instVnfc ∈ vnfcs ∧ instVnfc.vduId = vduName := by
  obtain ⟨mem, own⟩ := List.mem_filter.mp mem
  exact ⟨mem, of_decide_eq_true own⟩

/-- What is selected comes from the front of the VNFCs of the VDU. -/
lemma selectVnfcs_sublist (vduName : String) (numInst : Nat) (vnfcs : List VnfcResourceInfo) :
    (selectVnfcs vduName numInst 0 vnfcs).Sublist (vnfcsOf vduName vnfcs) := by
  rw [selectVnfcs_eq]
  by_cases some : 0 < numInst
  · rw [if_pos some]
    exact List.take_sublist _ _
  · rw [if_neg some]

/-- The number of VNFCs that are selected is the one asked for, if and only if the VDU has as many
VNFCs, and none if none is asked for. -/
lemma length_selectVnfcs_iff {numInst : Nat} {vnfcs : List VnfcResourceInfo} :
    (selectVnfcs vduName numInst 0 vnfcs).length = numInst ↔
      numInst ≤ (vnfcsOf vduName vnfcs).length ∧ (numInst = 0 → vnfcsOf vduName vnfcs = []) := by
  rw [selectVnfcs_eq]
  by_cases some : 0 < numInst
  · rw [if_pos some, List.length_take, and_iff_left fun none => absurd none some.ne']
    omega
  · obtain rfl : numInst = 0 := by omega
    rw [if_neg some, List.length_eq_zero_iff]
    exact ⟨fun none => ⟨Nat.zero_le _, fun _ => none⟩, fun both => both.2 rfl⟩

/-- When the number is the one asked for, the first VNFCs of the VDU are selected. -/
lemma selectVnfcs_of_length {numInst : Nat} {vnfcs : List VnfcResourceInfo}
    (length : (selectVnfcs vduName numInst 0 vnfcs).length = numInst) :
    selectVnfcs vduName numInst 0 vnfcs = (vnfcsOf vduName vnfcs).take numInst := by
  by_cases some : 0 < numInst
  · rw [selectVnfcs_eq, if_pos some]
    rfl
  · obtain ⟨_, none⟩ := length_selectVnfcs_iff.mp length
    rw [selectVnfcs_eq, if_neg some, none (by omega), List.take_nil]

end Tacker.Grant
