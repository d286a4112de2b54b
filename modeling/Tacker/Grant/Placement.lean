import Tacker.Grant.Requests

/-!
# Placement constraints of grant requests

The grant requests for instantiate and for scale-out have one constraint for each rule that
concerns an added resource and two resources in total, if and only if, among the rules of either
kind, those concerned stand before the others, and the VNFCs in question name their VIM connection.
-/

namespace Tacker.Grant

open Tacker.Basis

/-! ## Requests with placement constraints -/

/-- What an instance of a flavour records: the CPs of its VNFCs and its storages are named as in
the VNFD. -/
structure InstantiatedOf (flavour : Flavour) where
  info : InstantiatedVnfInfo
  cpNames : ∀ instVnfc ∈ info.vnfcs, ∀ cpInfo ∈ instVnfc.cps,
    cpInfo.cpdId ∈ flavour.names .vduCp
  storageNames : ∀ storages, info.virtualStorageResourceInfo = some storages →
    ∀ storage ∈ storages, storage.virtualStorageDescId ∈ flavour.names .virtualBlockStorage

/-- The requests that are granted with placement constraints. -/
inductive PlacedRequest (flavour : Flavour) where
  | instantiate (req : InstantiateVnfRequest) (inst : Option InstantiatedVnfInfo)
  | scaleOut (aspectId : String) (numberOfSteps : Nat) (inst : InstantiatedOf flavour)

namespace PlacedRequest

variable {flavour : Flavour}

/-- The flavour that is asked for. -/
def flavourId : PlacedRequest flavour → String
  | instantiate req _ => req.flavourId
  | scaleOut _ _ inst => inst.info.flavourId

/-- The VNFCs that exist. -/
def vnfcs : PlacedRequest flavour → List VnfcResourceInfo
  | instantiate _ inst => (inst.map InstantiatedVnfInfo.vnfcs).getD []
  | scaleOut _ _ inst => inst.info.vnfcs

/-- The resources to add. -/
def addReses (uuids : Uuids) : PlacedRequest flavour → Except Raised (List ResourceDefinition)
  | instantiate req _ => instantiateAddReses uuids flavour req
  | scaleOut aspectId numSteps inst => do
    let vduNumInst ← getScaleVduAndNum flavour aspectId
    if vduNumInst = [] then .error (.invalidScaleAspectId aspectId)
    else scaleOutAddReses uuids inst.info numSteps vduNumInst

/-- The grant request. -/
def grant (uuids : Uuids) (bestEffort : Bool) (vnfd : Vnfd) :
    PlacedRequest flavour → Except Raised GrantRequest
  | instantiate req inst => instantiateGrant uuids bestEffort vnfd req inst
  | scaleOut aspectId numSteps inst =>
    scaleGrant uuids bestEffort vnfd ⟨.scaleOut, aspectId, numSteps⟩ inst.info

end PlacedRequest

/-! ## Names of added resources -/

/-- The definitions that are no COMPUTE ones bear names of nodes that are no VDUs. -/
def NamedApart (flavour : Flavour) (addReses : List ResourceDefinition) : Prop :=
  ∀ res ∈ addReses, res.type ≠ .compute →
    ∃ type, type ≠ NodeType.vduCompute ∧ res.resourceTemplateId ∈ flavour.names type

/-- The targets of rules are VDUs, so only COMPUTE definitions bear their names. -/
lemma NamedApart.onlyComputes {flavour : Flavour} {addReses : List ResourceDefinition}
    (apart : NamedApart flavour addReses) (key : AffinityOrAntiAffinity) :
    ∀ rule ∈ flavour.targets key, OnlyComputes addReses rule.1 := by
  intro rule ruleMem res mem target
  by_contra other
  obtain ⟨type, ne, named⟩ := apart res mem other
  exact ne (Flavour.type_unique named (flavour.targetsVdus key rule ruleMem _ target))

lemma namedApart_newVdu {flavour : Flavour} {uuids : Uuids} {vduName : String} {numInst : Nat}
    {cpNames storageNames : List String} (cps : ∀ name ∈ cpNames, name ∈ flavour.names .vduCp)
    (storages : ∀ name ∈ storageNames, name ∈ flavour.names .virtualBlockStorage) :
    NamedApart flavour (makeResDefForNewVdu uuids vduName numInst cpNames storageNames) := by
  intro res mem other
  rcases mem_makeResDefForNewVdu mem with ⟨compute, _⟩ | ⟨_, named⟩ | ⟨_, named⟩
  · exact absurd compute other
  · exact ⟨.vduCp, by decide, cps _ named⟩
  · exact ⟨.virtualBlockStorage, by decide, storages _ named⟩

lemma namedApart_flatten {flavour : Flavour} {each : List (List ResourceDefinition)}
    (apart : ∀ reses ∈ each, NamedApart flavour reses) : NamedApart flavour each.flatten := by
  intro res mem
  obtain ⟨reses, resesMem, mem⟩ := List.mem_flatten.mp mem
  exact apart reses resesMem res mem

/-- The definitions of an instantiate request. -/
lemma namedApart_instantiate {flavour : Flavour} {uuids : Uuids} {req : InstantiateVnfRequest}
    {addReses : List ResourceDefinition}
    (made : instantiateAddReses uuids flavour req = .ok addReses) :
    NamedApart flavour addReses := by
  obtain ⟨vdus, madeVdus, made⟩ := bind_ok.mp made
  cases made
  intro res mem
  rcases List.mem_append.mp mem with mem | mem
  · apply namedApart_flatten _ res mem
    intro reses resesMem
    obtain ⟨node, nodeMem, madeVdu⟩ := (mem_of_mapM_ok madeVdus).mp resesMem
    obtain ⟨num, _, madeVdu⟩ := bind_ok.mp madeVdu
    cases madeVdu
    apply namedApart_newVdu
    · intro name nameMem
      exact Flavour.mem_names_of_getVduCps (List.mem_of_mem_filter nameMem)
    · exact flavour.storagesNodes node nodeMem
  · obtain ⟨name, nameMem, rfl⟩ := List.mem_map.mp mem
    intro _
    exact ⟨.vnfVirtualLink, by decide, List.mem_of_mem_filter nameMem⟩

/-- The storages of a VNFC are storages of the instance. -/
lemma mem_of_storagesOf {instInfo : InstantiatedVnfInfo} {instVnfc : VnfcResourceInfo}
    {found : List VirtualStorageResourceInfo} {storage : VirtualStorageResourceInfo}
    (read : storagesOf instInfo instVnfc = .ok found) (mem : storage ∈ found) :
    ∃ storages, instInfo.virtualStorageResourceInfo = some storages ∧ storage ∈ storages := by
  obtain ⟨storageId, _, read⟩ := (mem_of_mapM_ok read).mp mem
  obtain ⟨storages, loaded, read⟩ := bind_ok.mp read
  exact ⟨storages, load_ok.mp loaded, List.mem_of_find?_eq_some (getStorageById_ok.mp read)⟩

/-- The definitions of a scale-out request. -/
lemma namedApart_scaleOut {flavour : Flavour} {uuids : Uuids} {inst : InstantiatedOf flavour}
    {numSteps : Nat} {vduNumInst : List (String × Nat)} {addReses : List ResourceDefinition}
    (made : scaleOutAddReses uuids inst.info numSteps vduNumInst = .ok addReses) :
    NamedApart flavour addReses := by
  obtain ⟨vnfcs, loaded, made⟩ := bind_ok.mp made
  obtain ⟨vdus, madeVdus, made⟩ := bind_ok.mp made
  cases made
  have vnfcsEq : inst.info.vnfcs = vnfcs := by
    rw [InstantiatedVnfInfo.vnfcs, load_ok.mp loaded, Option.getD_some]
  apply namedApart_flatten
  intro reses resesMem
  obtain ⟨⟨vdu, sample⟩, sampleMem, madeVdu⟩ := (mem_of_mapM_ok madeVdus).mp resesMem
  obtain ⟨storages, read, madeVdu⟩ := bind_ok.mp madeVdu
  cases madeVdu
  apply namedApart_newVdu
  · intro name nameMem
    obtain ⟨cpInfo, cpMem, rfl⟩ := List.mem_map.mp nameMem
    obtain ⟨vdu', _, sampled⟩ := List.mem_filterMap.mp sampleMem
    obtain ⟨instVnfc, found, pair⟩ := Option.map_eq_some_iff.mp sampled
    cases pair
    exact inst.cpNames sample (vnfcsEq ▸ List.mem_of_find?_eq_some found) cpInfo cpMem
  · intro name nameMem
    obtain ⟨storage, storageMem, rfl⟩ := List.mem_map.mp nameMem
    obtain ⟨all, isSet, mem⟩ := mem_of_storagesOf read storageMem
    exact inst.storageNames all isSet storage mem

/-! ## The requests -/

namespace PlacedRequest

variable {flavour : Flavour} {request : PlacedRequest flavour} {uuids : Uuids}
  {bestEffort : Bool} {vnfd : Vnfd} {addReses : List ResourceDefinition} {grantReq : GrantRequest}

lemma namedApart (made : request.addReses uuids = .ok addReses) : NamedApart flavour addReses := by
  cases request with
  | instantiate req inst => exact namedApart_instantiate made
  | scaleOut aspectId numSteps inst =>
    obtain ⟨vduNumInst, _, made⟩ := bind_ok.mp made
    by_cases none : vduNumInst = []
    · rw [if_pos none] at made
      cases made
    · rw [if_neg none] at made
      exact namedApart_scaleOut made

/-- A grant request is made with the constraints of `_make_placementconstraints`. -/
lemma exists_grant_eq (bestEffort : Bool) (found : vnfd request.flavourId = some flavour)
    (made : request.addReses uuids = .ok addReses) :
    ∃ grantReq : GrantRequest, request.grant uuids bestEffort vnfd = do
      let plcConsts ← makePlacementconstraints bestEffort flavour addReses request.vnfcs
      return { grantReq with placementConstraints := unlessEmpty plcConsts } := by
  cases request with
  | instantiate req inst =>
    have made : instantiateAddReses uuids flavour req = .ok addReses := made
    have found : vnfd req.flavourId = some flavour := found
    refine ⟨⟨some req.flavourId, req.instantiationLevelId, unlessEmpty addReses, none, none, none⟩,
      ?_⟩
    show instantiateGrant uuids bestEffort vnfd req inst = _
    rw [instantiateGrant, found]
    show (instantiateAddReses uuids flavour req >>= _) = _
    rw [made]
    rfl
  | scaleOut aspectId numSteps inst =>
    have found : vnfd inst.info.flavourId = some flavour := found
    refine ⟨⟨some inst.info.flavourId, none, unlessEmpty addReses, none, none, none⟩, ?_⟩
    obtain ⟨vduNumInst, nums, made⟩ := bind_ok.mp made
    by_cases none : vduNumInst = []
    · rw [if_pos none] at made
      cases made
    · rw [if_neg none] at made
      show scaleGrant uuids bestEffort vnfd ⟨.scaleOut, aspectId, numSteps⟩ inst.info = _
      rw [scaleGrant, found]
      show (getScaleVduAndNum flavour aspectId >>= _) = _
      rw [nums]
      show (if vduNumInst = [] then _ else _) = _
      rw [if_neg none]
      show makeScaleOutGrantRequest uuids bestEffort flavour inst.info numSteps vduNumInst = _
      rw [makeScaleOutGrantRequest, made]
      rfl

/-- The grant request lists one constraint for each rule that is concerned. -/
def EachRuleListed (uuids : Uuids) (bestEffort : Bool) (vnfd : Vnfd)
    (addReses : List ResourceDefinition) (request : PlacedRequest flavour) : Prop :=
  ∃ grantReq, request.grant uuids bestEffort vnfd = .ok grantReq ∧
    (grantReq.placementConstraints.getD []).Perm
      (constraintsForAll bestEffort flavour addReses request.vnfcs)

/-- A grant request for instantiate or scale-out lists one constraint for each rule that concerns
an added resource and two resources in total, with the added and the existing COMPUTE resources of
its targets, if and only if, of the rules of each kind, those concerned come first and the VIM
connections of their VNFCs are recorded. -/
theorem each_rule_listed_iff (uuids : Uuids) (bestEffort : Bool) (vnfd : Vnfd)
    (request : PlacedRequest flavour) (addReses : List ResourceDefinition)
    (found : vnfd request.flavourId = some flavour)
    (made : request.addReses uuids = .ok addReses) :
    request.EachRuleListed uuids bestEffort vnfd addReses ↔
      ∀ key, Placeable addReses request.vnfcs (flavour.targets key) := by
  obtain ⟨base, granted⟩ := exists_grant_eq bestEffort found made
  rw [EachRuleListed, granted,
    ← makePlacementconstraints_iff fun key => (namedApart made).onlyComputes key]
  apply Iff.intro
  · rintro ⟨grantReq, made, perm⟩
    obtain ⟨plcConsts, madeConsts, made⟩ := bind_ok.mp made
    cases made
    rw [unlessEmpty_getD] at perm
    exact ⟨plcConsts, madeConsts, perm⟩
  · rintro ⟨plcConsts, madeConsts, perm⟩
    refine ⟨_, bind_ok.mpr ⟨plcConsts, madeConsts, rfl⟩, ?_⟩
    rw [unlessEmpty_getD]
    exact perm

/-! ## Two rules -/

/-- A flavour with a rule for each of its VDUs; the first VDU has one instance at the small
level. -/
def twoRules : Flavour where
  nodeTemplates := [{ name := "VDU1", type := .vduCompute }, { name := "VDU2", type := .vduCompute }]
  policies :=
    [.vduInstantiationLevels ["VDU1"] [("small", some 1), ("large", some 2)],
      .vduInstantiationLevels ["VDU2"] [("small", some 2), ("large", some 2)],
      .antiAffinityRule ["VDU1"] "zone", .antiAffinityRule ["VDU2"] "nfvi_node"]
  groups := []
  unique := by decide
  storagesNodes := by decide
  targetsVdus := by
    intro key
    cases key <;> decide

/-- To instantiate a level of the flavour. -/
def instantiateLevel (instLevel : String) : PlacedRequest twoRules :=
  .instantiate { flavourId := "simple", instantiationLevelId := some instLevel } none

/-- The definitions of the servers. -/
def levelReses (num1 num2 : Nat) : List ResourceDefinition :=
  makeResDefForNewVdu .spelled "VDU1" num1 [] [] ++ makeResDefForNewVdu .spelled "VDU2" num2 [] []

/-- At the large level each rule has its constraint. -/
theorem large_level_listed :
    (instantiateLevel "large").EachRuleListed .spelled true (fun _ => some twoRules)
      (levelReses 2 2) :=
  (each_rule_listed_iff .spelled true (fun _ => some twoRules) (instantiateLevel "large")
    (levelReses 2 2) rfl rfl).mpr (by
      intro key
      cases key <;> decide)

/-- At the small level the rule for the first VDU takes the constraint of the second one away. -/
theorem small_level_loses_constraint :
    (instantiateLevel "small").addReses .spelled = .ok (levelReses 1 2) ∧
    ¬ (instantiateLevel "small").EachRuleListed .spelled true (fun _ => some twoRules)
      (levelReses 1 2) := by
  refine ⟨rfl, ?_⟩
  rintro ⟨grantReq, granted, perm⟩
  have none : (grantReq.placementConstraints.getD []).length = 0 := by
    cases granted
    rfl
  have one : (constraintsForAll true twoRules (levelReses 1 2)
      (instantiateLevel "small").vnfcs).length = 1 := by decide
  rw [perm.length_eq, one] at none
  cases none

end PlacedRequest

end Tacker.Grant
