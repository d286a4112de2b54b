import Tacker.Grant.RequestBlocks

/-!
# Numbers of VNFCs in grant requests

How many VNFCs the grant requests for instantiate, scale-out and scale-in are about, that all
definitions have identifiers of their own, and that ports and storages name the server that they
belong to: when this is as the VNFD asks for.
-/

namespace Tacker.Grant

open Tacker.Basis

/-! ## What the requests should say -/

/-- The definitions have identifiers of their own, and each port and each storage names a server
that it belongs to. -/
structure WellNamed (owns : ResourceDefinition → ResourceDefinition → Prop)
    (reses : List ResourceDefinition) : Prop where
  unique : (reses.map (·.id)).Nodup
  named : ∀ res ∈ reses, res.type = .linkport ∨ res.type = .storage →
    ∃ server ∈ reses, server.type = .compute ∧
      res.id = makeCombinationId res.resourceTemplateId server.id ∧ owns server res

/-- A server of a block owns what the block names. -/
def OwnsAsNamed (names : ResourceDefinition → List String → List String → Prop)
    (server res : ResourceDefinition) : Prop :=
  ∃ cpNames storageNames, names server cpNames storageNames ∧
    (res.type = .linkport → res.resourceTemplateId ∈ cpNames) ∧
    (res.type = .storage → res.resourceTemplateId ∈ storageNames)

variable {uuids : Uuids} {blocks : List Block} {reses : List ResourceDefinition}

/-- Definitions made of blocks are well named if and only if no server has two ports or storages
of one name. -/
lemma MadeOf.wellNamed_iff {names : ResourceDefinition → List String → List String → Prop}
    (made : MadeOf uuids blocks reses) (calls : (blocks.map Block.call).Nodup)
    (heads : ∀ block ∈ blocks, block.names ≠ [] → block.isServer = true ∧
      names (block.head uuids) block.cpNames block.storageNames) :
    WellNamed (OwnsAsNamed names) reses ↔ ∀ block ∈ blocks, block.names.Nodup := by
  rw [← made.nodup_ids calls]
  apply Iff.intro WellNamed.unique
  intro unique
  refine ⟨unique, ?_⟩
  intro res mem part
  obtain ⟨block, blockMem, headMem, compute, id, port, storage⟩ :=
    made.names_server (fun block mem nonempty => (heads block mem nonempty).1) mem part
  have nonempty : block.names ≠ [] := by
    rcases part with isPort | isStorage
    · exact List.ne_nil_of_mem (List.mem_append_left _ (port isPort))
    · exact List.ne_nil_of_mem (List.mem_append_right _ (storage isStorage))
  exact ⟨_, headMem, compute, id, _, _, (heads block blockMem nonempty).2, port, storage⟩

/-- The names of the ports and storages of a block differ if and only if those of the ports do and
those of the storages do, as long as the two are named apart. -/
lemma names_nodup_iff (flavour : Flavour) (block : Block)
    (cps : ∀ name ∈ block.cpNames, name ∈ flavour.names .vduCp)
    (storages : ∀ name ∈ block.storageNames, name ∈ flavour.names .virtualBlockStorage) :
    block.names.Nodup ↔ block.cpNames.Nodup ∧ block.storageNames.Nodup := by
  rw [Block.names, List.nodup_append']
  apply Iff.intro
  · rintro ⟨cpNodup, storageNodup, _⟩
    exact ⟨cpNodup, storageNodup⟩
  · rintro ⟨cpNodup, storageNodup⟩
    refine ⟨cpNodup, storageNodup, ?_⟩
    intro name mem mem'
    have same := Flavour.type_unique (cps name mem) (storages name mem')
    cases same

/-! ## The requests -/

/-- The requests that add or remove VNFCs by numbers. -/
inductive CountedRequest (flavour : Flavour) where
  | instantiate (req : InstantiateVnfRequest) (inst : Option InstantiatedVnfInfo)
  | scale (type : ScaleType) (aspectId : String) (numberOfSteps : Nat)
      (inst : InstantiatedOf flavour)

/-- The VDUs of an aspect with their numbers; none if the VNFD does not tell. -/
def aspectVdus (flavour : Flavour) (aspectId : String) : List (String × Nat) :=
  (getScaleVduAndNum flavour aspectId).toOption.getD []

namespace CountedRequest

variable {flavour : Flavour}

/-- The flavour that is asked for. -/
def flavourId : CountedRequest flavour → String
  | instantiate req _ => req.flavourId
  | scale _ _ _ inst => inst.info.flavourId

/-- The grant request. -/
def grant (uuids : Uuids) (bestEffort : Bool) (vnfd : Vnfd) :
    CountedRequest flavour → Except Raised GrantRequest
  | instantiate req inst => instantiateGrant uuids bestEffort vnfd req inst
  | scale type aspectId numSteps inst =>
    scaleGrant uuids bestEffort vnfd ⟨type, aspectId, numSteps⟩ inst.info

/-- What a server of the request has for ports and storages. -/
def ServerHas : CountedRequest flavour → ResourceDefinition → List String → List String → Prop
  | instantiate req _, server, cpNames, storageNames =>
    ∃ node ∈ flavour.nodes .vduCompute, server.resourceTemplateId = node.name ∧
      cpNames = portNames flavour req node ∧ storageNames = getVduStorages node
  | scale .scaleOut _ _ inst, server, cpNames, storageNames' =>
    ∃ sample, vduSample inst.info.vnfcs server.resourceTemplateId = some sample ∧
      cpNames = sample.cps.map (·.cpdId) ∧ storageNames' = storageNames inst.info sample
  | scale .scaleIn _ _ inst, server, cpNames, storageNames' =>
    ∃ instVnfc ∈ inst.info.vnfcs, server.resourceTemplateId = instVnfc.vduId ∧
      server.resource = some instVnfc.computeResource ∧
      cpNames = instVnfc.removedCps.map (·.cpdId) ∧ storageNames' = storageNames inst.info instVnfc

/-- The grant request is about the numbers of VNFCs that the VNFD asks for: for each VDU as many
COMPUTE definitions are added as the level or the steps of the aspect tell, or as many VNFCs,
different from each other, are removed. -/
def Counted (grantReq : GrantRequest) : CountedRequest flavour → Prop
  | instantiate req _ =>
    ∀ node ∈ flavour.nodes .vduCompute,
      some (serversOf node.name (grantReq.addResources.getD [])).length =
        flavour.getVduNum node.name (req.instLevel flavour)
  | scale .scaleOut aspectId numSteps _ =>
    ∀ vdu ∈ aspectVdus flavour aspectId,
      (serversOf vdu.1 (grantReq.addResources.getD [])).length = vdu.2 * numSteps
  | scale .scaleIn aspectId numSteps inst =>
    ∀ vdu ∈ aspectVdus flavour aspectId, ∃ rmVnfcs : List VnfcResourceInfo,
      rmVnfcs.Sublist (vnfcsOf vdu.1 inst.info.vnfcs) ∧ rmVnfcs.length = vdu.2 * numSteps ∧
      (serversOf vdu.1 (grantReq.removeResources.getD [])).map (·.resource) =
        rmVnfcs.map fun instVnfc => some instVnfc.computeResource

/-- The definitions of the grant request. -/
def definitions (grantReq : GrantRequest) : CountedRequest flavour → List ResourceDefinition
  | instantiate _ _ => grantReq.addResources.getD []
  | scale .scaleOut _ _ _ => grantReq.addResources.getD []
  | scale .scaleIn _ _ _ => grantReq.removeResources.getD []

/-- The numbers of VNFCs, and the names of the definitions. -/
def Exact (grantReq : GrantRequest) (request : CountedRequest flavour) : Prop :=
  request.Counted grantReq ∧
    WellNamed (OwnsAsNamed request.ServerHas) (request.definitions grantReq)

/-- No VNFC is listed with two CPs or two storages of one name. -/
def PartsDiffer (inst : InstantiatedVnfInfo) (cps : List VnfcCpInfo)
    (instVnfc : VnfcResourceInfo) : Prop :=
  (cps.map (·.cpdId)).Nodup ∧ (storageNames inst instVnfc).Nodup

/-- When the numbers and the names are right. A VDU to instantiate does not require a storage
twice. A VDU to scale out by some instances has a VNFC, whose CPs and storages differ in name. A
VDU to scale in has at least as many VNFCs as are to be removed, none if none are, and the CPs and
storages of those removed differ in name. -/
def Countable : CountedRequest flavour → Prop
  | instantiate req _ =>
    ∀ node ∈ flavour.nodes .vduCompute,
      flavour.getVduNum node.name (req.instLevel flavour) ≠ some 0 → (getVduStorages node).Nodup
  | scale .scaleOut aspectId numSteps inst =>
    ∀ vdu ∈ aspectVdus flavour aspectId, vdu.2 * numSteps ≠ 0 →
      ∃ sample, vduSample inst.info.vnfcs vdu.1 = some sample ∧
        PartsDiffer inst.info sample.cps sample
  | scale .scaleIn aspectId numSteps inst =>
    ∀ vdu ∈ aspectVdus flavour aspectId,
      vdu.2 * numSteps ≤ (vnfcsOf vdu.1 inst.info.vnfcs).length ∧
      (vdu.2 * numSteps = 0 → vnfcsOf vdu.1 inst.info.vnfcs = []) ∧
      ∀ instVnfc ∈ (vnfcsOf vdu.1 inst.info.vnfcs).take (vdu.2 * numSteps),
        PartsDiffer inst.info instVnfc.removedCps instVnfc

/-! ## Instantiate -/

variable {req : InstantiateVnfRequest} {inst : Option InstantiatedVnfInfo}

lemma forall_mem_newBlocks {vduName : String} {numInst : Nat} {cps storages : List String}
    {P : Block → Prop}
    (alike : ∀ block ∈ newBlocks vduName numInst cps storages,
      (P block ↔ (cps ++ storages).Nodup)) :
    (∀ block ∈ newBlocks vduName numInst cps storages, P block) ↔
      (numInst ≠ 0 → (cps ++ storages).Nodup) := by
  apply Iff.intro
  · intro each some
    have mem : (newBlocks vduName numInst cps storages).head (by
        rw [newBlocks, ne_eq, List.map_eq_nil_iff, List.range_eq_nil]
        exact some) ∈ newBlocks vduName numInst cps storages := List.head_mem _
    exact (alike _ mem).mp (each _ mem)
  · intro nodup block mem
    apply (alike block mem).mpr
    apply nodup
    rintro rfl
    cases mem

/-- The number of servers that are added for a VDU of an instantiate request. -/
lemma length_serversOf_instantiate (made : MadeOf uuids (instantiateBlocks flavour req) reses)
    {node : NodeTemplate} (mem : node ∈ flavour.nodes .vduCompute) :
    (serversOf node.name reses).length = numOf flavour req node := by
  have own := blocksOf_flatMap NodeTemplate.name (vduNodes_nodup flavour)
    (f := fun node => newBlocks node.name (numOf flavour req node) (portNames flavour req node)
      (getVduStorages node)) (fun node _ block mem => ⟨(of_mem_newBlocks mem).1,
        (of_mem_newBlocks mem).2.1⟩) mem
  have vls : blocksOf node.name (((flavour.names .vnfVirtualLink).filter fun name =>
      name ∉ (req.extManagedVirtualLinks.getD []).map (·.vnfVirtualLinkDescId)).map fun name =>
      { call := .newVl name, isServer := false, resourceTemplateId := name }) = [] := by
    apply blocksOf_other
    intro block blockMem own
    obtain ⟨name, _, rfl⟩ := List.mem_map.mp blockMem
    cases own.1
  rw [made.serversOf, List.length_map, instantiateBlocks, blocksOf_append, own, vls,
    List.append_nil, newBlocks, List.length_map, List.length_range]

lemma counted_instantiate {grantReq : GrantRequest}
    (made : instantiateAddReses uuids flavour req = .ok reses)
    (added : grantReq.addResources.getD [] = reses) :
    Counted grantReq (.instantiate req inst : CountedRequest flavour) := by
  intro node mem
  rw [added, length_serversOf_instantiate (madeOf_instantiate made) mem,
    getVduNum_of_made made mem]

/-- The names of the definitions of an instantiate request. -/
lemma wellNamed_instantiate_iff (made : instantiateAddReses uuids flavour req = .ok reses) :
    WellNamed (OwnsAsNamed (instantiate req inst : CountedRequest flavour).ServerHas) reses ↔
      Countable (.instantiate req inst : CountedRequest flavour) := by
  have nodup : ∀ node ∈ flavour.nodes .vduCompute,
      ((portNames flavour req node ++ getVduStorages node).Nodup ↔ (getVduStorages node).Nodup) := by
    intro node mem
    have iff := names_nodup_iff flavour
      ⟨.newVdu node.name 0, true, node.name, none, portNames flavour req node,
        getVduStorages node⟩
      (fun name named => Flavour.mem_names_of_getVduCps (List.mem_of_mem_filter named))
      (flavour.storagesNodes node mem)
    exact iff.trans (and_iff_right ((getVduCps_nodup node.name).filter _))
  rw [(madeOf_instantiate made).wellNamed_iff (calls_instantiate_nodup flavour req)]
  · show (∀ block ∈ instantiateBlocks flavour req, block.names.Nodup) ↔
      ∀ node ∈ flavour.nodes .vduCompute, _
    rw [instantiateBlocks]
    simp only [List.forall_mem_append, List.forall_mem_flatMap]
    rw [and_iff_left]
    · apply forall₂_congr
      intro node mem
      rw [forall_mem_newBlocks, nodup node mem, getVduNum_of_made made mem, ne_eq, ne_eq,
        Option.some_inj]
      intro block blockMem
      obtain ⟨_, _, cps, storages, _⟩ := of_mem_newBlocks blockMem
      rw [Block.names, cps, storages]
    · intro block blockMem
      obtain ⟨name, _, rfl⟩ := List.mem_map.mp blockMem
      exact List.nodup_nil
  · intro block mem nonempty
    rcases List.mem_append.mp mem with mem | mem
    · obtain ⟨node, nodeMem, mem⟩ := List.mem_flatMap.mp mem
      obtain ⟨server, vdu, cps, storages, _⟩ := of_mem_newBlocks mem
      exact ⟨server, node, nodeMem, vdu, cps, storages⟩
    · obtain ⟨name, _, rfl⟩ := List.mem_map.mp mem
      exact absurd rfl nonempty

/-! ## Scale-out -/

variable {inst : InstantiatedOf flavour} {numSteps : Nat} {vduNumInst : List (String × Nat)}

/-- The storages of VNFCs bear names of storage nodes. -/
lemma mem_names_of_storageNames {instVnfc : VnfcResourceInfo} {name : String}
    (mem : name ∈ storageNames inst.info instVnfc) :
    name ∈ flavour.names .virtualBlockStorage := by
  obtain ⟨storage, found, rfl⟩ := List.mem_map.mp mem
  obtain ⟨storageId, _, found⟩ := List.mem_filterMap.mp found
  have mem := List.mem_of_find?_eq_some found
  cases set : inst.info.virtualStorageResourceInfo with
  | none =>
    rw [set] at mem
    cases mem
  | some storages =>
    rw [set, Option.getD_some] at mem
    exact inst.storageNames storages set storage mem

/-- The CPs and storages of a VNFC are named apart from each other. -/
lemma partsDiffer_iff {instVnfc : VnfcResourceInfo} (recorded : instVnfc ∈ inst.info.vnfcs)
    {cps : List VnfcCpInfo} (among : ∀ cpInfo ∈ cps, cpInfo ∈ instVnfc.cps) :
    (cps.map (·.cpdId) ++ storageNames inst.info instVnfc).Nodup ↔
      PartsDiffer inst.info cps instVnfc := by
  apply names_nodup_iff flavour
    ⟨.newVdu instVnfc.vduId 0, true, instVnfc.vduId, none, cps.map (·.cpdId),
      storageNames inst.info instVnfc⟩
  · intro name named
    obtain ⟨cpInfo, mem, rfl⟩ := List.mem_map.mp named
    exact inst.cpNames instVnfc recorded cpInfo (among cpInfo mem)
  · intro name named
    exact mem_names_of_storageNames named

lemma mem_sampled {vnfcs : List VnfcResourceInfo} {vdu : String × Nat}
    {sample : VnfcResourceInfo} :
    (vdu, sample) ∈ sampled vnfcs vduNumInst ↔
      vdu ∈ vduNumInst ∧ vduSample vnfcs vdu.1 = some sample := by
  rw [sampled, List.mem_filterMap]
  apply Iff.intro
  · rintro ⟨vdu', mem, eq⟩
    obtain ⟨sample', found, pair⟩ := Option.map_eq_some_iff.mp eq
    cases pair
    exact ⟨mem, found⟩
  · rintro ⟨mem, found⟩
    refine ⟨vdu, mem, ?_⟩
    rw [found]
    rfl

/-- The number of servers that are added for a VDU of a scale-out request. -/
lemma length_serversOf_scaleOut {instInfo : InstantiatedVnfInfo}
    (made : MadeOf uuids (scaleOutBlocks instInfo numSteps vduNumInst) reses)
    (unique : (vduNumInst.map Prod.fst).Nodup) {vdu : String × Nat} (mem : vdu ∈ vduNumInst) :
    (serversOf vdu.1 reses).length =
      if (vduSample instInfo.vnfcs vdu.1).isSome = true then vdu.2 * numSteps else 0 := by
  have own : ∀ sampledVdu ∈ sampled instInfo.vnfcs vduNumInst, ∀ block ∈ newBlocks
      sampledVdu.1.1 (sampledVdu.1.2 * numSteps) (sampledVdu.2.cps.map (·.cpdId))
      (storageNames instInfo sampledVdu.2),
      block.isServer = true ∧ block.resourceTemplateId = sampledVdu.1.1 :=
    fun _ _ block mem => ⟨(of_mem_newBlocks mem).1, (of_mem_newBlocks mem).2.1⟩
  rw [made.serversOf, List.length_map, scaleOutBlocks]
  cases found : vduSample instInfo.vnfcs vdu.1 with
  | some sample =>
    have blocks := blocksOf_flatMap (fun sampledVdu => sampledVdu.1.1)
      (sampled_nodup unique) own (mem_sampled.mpr ⟨mem, found⟩)
    rw [blocks, newBlocks, List.length_map, List.length_range]
    rfl
  | none =>
    rw [blocksOf_other]
    · rfl
    · intro block blockMem ofVdu
      obtain ⟨⟨vdu', sample⟩, sampledMem, blockMem⟩ := List.mem_flatMap.mp blockMem
      have name : vdu'.1 = vdu.1 := (own _ sampledMem block blockMem).2.symm.trans ofVdu.2
      have sampleFound := (mem_sampled.mp sampledMem).2
      rw [name, found] at sampleFound
      cases sampleFound

/-- The numbers and the names of a scale-out request. -/
lemma scaleOut_exact_iff {aspectId : String}
    (nums : aspectVdus flavour aspectId = vduNumInst)
    (unique : (vduNumInst.map Prod.fst).Nodup)
    (made : scaleOutAddReses uuids inst.info numSteps vduNumInst = .ok reses)
    {grantReq : GrantRequest} (added : grantReq.addResources.getD [] = reses) :
    (scale .scaleOut aspectId numSteps inst).Exact grantReq ↔
      (scale .scaleOut aspectId numSteps inst).Countable := by
  have madeOf := madeOf_scaleOut made
  have wellNamed : WellNamed (OwnsAsNamed (scale .scaleOut aspectId numSteps inst).ServerHas)
      reses ↔ ∀ block ∈ scaleOutBlocks inst.info numSteps vduNumInst, block.names.Nodup := by
    apply madeOf.wellNamed_iff (calls_nodup_flatMap (sampled_nodup unique))
    intro block mem _
    obtain ⟨⟨vdu, sample⟩, sampledMem, mem⟩ := List.mem_flatMap.mp mem
    obtain ⟨server, name, cps, storages, _⟩ := of_mem_newBlocks mem
    refine ⟨server, sample, ?_, cps, storages⟩
    show vduSample inst.info.vnfcs block.resourceTemplateId = some sample
    rw [name]
    exact (mem_sampled.mp sampledMem).2
  have nodup : (∀ block ∈ scaleOutBlocks inst.info numSteps vduNumInst, block.names.Nodup) ↔
      ∀ vdu ∈ vduNumInst, ∀ sample, vduSample inst.info.vnfcs vdu.1 = some sample →
        vdu.2 * numSteps ≠ 0 → PartsDiffer inst.info sample.cps sample := by
    rw [scaleOutBlocks, List.forall_mem_flatMap]
    apply Iff.intro
    · intro each vdu mem sample found some
      have recorded := List.mem_of_find?_eq_some found
      apply (partsDiffer_iff recorded fun _ mem => mem).mp
      refine (forall_mem_newBlocks ?_).mp (each (vdu, sample) (mem_sampled.mpr ⟨mem, found⟩)) some
      intro block blockMem
      obtain ⟨_, _, cps, storages, _⟩ := of_mem_newBlocks blockMem
      rw [Block.names, cps, storages]
    · rintro each ⟨vdu, sample⟩ sampledMem
      obtain ⟨mem, found⟩ := mem_sampled.mp sampledMem
      have recorded := List.mem_of_find?_eq_some found
      refine (forall_mem_newBlocks ?_).mpr ?_
      · intro block blockMem
        obtain ⟨_, _, cps, storages, _⟩ := of_mem_newBlocks blockMem
        rw [Block.names, cps, storages]
      · intro some
        exact (partsDiffer_iff recorded fun _ mem => mem).mpr (each vdu mem sample found some)
  show (∀ vdu ∈ aspectVdus flavour aspectId, (serversOf vdu.1 (grantReq.addResources.getD [])).length
    = vdu.2 * numSteps) ∧ WellNamed _ (grantReq.addResources.getD []) ↔
    ∀ vdu ∈ aspectVdus flavour aspectId, vdu.2 * numSteps ≠ 0 → _
  rw [added, nums, wellNamed, nodup]
  apply Iff.intro
  · rintro ⟨counted, differ⟩ vdu mem some
    have number := counted vdu mem
    rw [length_serversOf_scaleOut madeOf unique mem] at number
    cases found : vduSample inst.info.vnfcs vdu.1 with
    | some sample => exact ⟨sample, rfl, differ vdu mem sample found some⟩
    | none =>
      rw [found] at number
      exact absurd number.symm some
  · intro each
    refine ⟨?_, ?_⟩
    · intro vdu mem
      rw [length_serversOf_scaleOut madeOf unique mem]
      by_cases none : vdu.2 * numSteps = 0
      · rw [none, ite_self]
      · obtain ⟨sample, found, _⟩ := each vdu mem none
        rw [found]
        rfl
    · intro vdu mem sample found some
      obtain ⟨sample', found', differ⟩ := each vdu mem some
      rw [found] at found'
      cases found'
      exact differ

/-! ## Scale-in -/

/-- The handles of the servers that are removed of a VDU. -/
lemma map_resource_serversOf {instInfo : InstantiatedVnfInfo} {rmVnfcs : List VnfcResourceInfo}
    (made : MadeOf uuids (rmVnfcs.zipIdx.map (removedBlock instInfo)) reses) (vduName : String) :
    (serversOf vduName reses).map (·.resource) =
      (vnfcsOf vduName rmVnfcs).map fun instVnfc => some instVnfc.computeResource := by
  have each : ∀ numbered : List (VnfcResourceInfo × Nat),
      ((blocksOf vduName (numbered.map (removedBlock instInfo))).map (Block.head uuids)).map
        (·.resource) =
      (vnfcsOf vduName (numbered.map Prod.fst)).map fun instVnfc =>
        some instVnfc.computeResource := by
    intro numbered
    induction numbered with
    | nil => rfl
    | cons instVnfc numbered ih =>
      rw [List.map_cons, List.map_cons, blocksOf, vnfcsOf, List.filter_cons, List.filter_cons]
      by_cases own : instVnfc.1.vduId = vduName
      · rw [if_pos (decide_eq_true own), if_pos (decide_eq_true ⟨rfl, own⟩), List.map_cons,
          List.map_cons, List.map_cons]
        exact congrArg (some instVnfc.1.computeResource :: ·) ih
      · rw [if_neg (show ¬ decide (instVnfc.1.vduId = vduName) = true by simpa using own),
          if_neg (by simpa [removedBlock] using own)]
        exact ih
  rw [made.serversOf, each, List.zipIdx_map_fst]

/-- The VNFCs of a VDU among those that are selected. -/
lemma vnfcsOf_scaleInRmVnfcs {vnfcs : List VnfcResourceInfo}
    (unique : (vduNumInst.map Prod.fst).Nodup) {vdu : String × Nat} (mem : vdu ∈ vduNumInst) :
    vnfcsOf vdu.1 (scaleInRmVnfcs vnfcs numSteps vduNumInst) =
      selectVnfcs vdu.1 (vdu.2 * numSteps) 0 vnfcs := by
  have own : ∀ vdu ∈ vduNumInst, ∀ instVnfc ∈ selectVnfcs vdu.1 (vdu.2 * numSteps) 0 vnfcs,
      ∀ vduName, decide (instVnfc.vduId = vduName) = true ↔ vduName = vdu.1 := by
    intro vdu _ instVnfc selected vduName
    rw [decide_eq_true_iff, (of_mem_vnfcsOf ((selectVnfcs_sublist _ _ _).mem selected)).2]
    exact eq_comm
  exact filter_flatMap_of_keyed unique own mem

/-- The names of the definitions of removed VNFCs. -/
lemma wellNamed_removed_iff {rmVnfcs : List VnfcResourceInfo}
    (names : ResourceDefinition → List String → List String → Prop)
    (made : MadeOf uuids (rmVnfcs.zipIdx.map (removedBlock inst.info)) reses)
    (recorded : ∀ instVnfc ∈ rmVnfcs, instVnfc ∈ inst.info.vnfcs)
    (has : ∀ instVnfc ∈ rmVnfcs, ∀ i, names ((removedBlock inst.info (instVnfc, i)).head uuids)
      (instVnfc.removedCps.map (·.cpdId)) (storageNames inst.info instVnfc)) :
    WellNamed (OwnsAsNamed names) reses ↔
      ∀ instVnfc ∈ rmVnfcs, PartsDiffer inst.info instVnfc.removedCps instVnfc := by
  have fronts : rmVnfcs.zipIdx.map Prod.fst = rmVnfcs := List.zipIdx_map_fst 0 rmVnfcs
  rw [made.wellNamed_iff]
  · rw [List.forall_mem_map]
    have each : (∀ instVnfc ∈ rmVnfcs, PartsDiffer inst.info instVnfc.removedCps instVnfc) ↔
        ∀ numbered ∈ rmVnfcs.zipIdx,
          PartsDiffer inst.info numbered.1.removedCps numbered.1 := by
      rw [← List.forall_mem_map (f := Prod.fst)
        (P := fun instVnfc => PartsDiffer inst.info instVnfc.removedCps instVnfc), fronts]
    rw [each]
    apply forall₂_congr
    intro numbered mem
    apply partsDiffer_iff
    · exact recorded _ (List.fst_mem_of_mem_zipIdx mem)
    · exact fun _ mem => List.mem_of_mem_filter mem
  · rw [List.map_map]
    have calls : (rmVnfcs.zipIdx.map Prod.snd).Nodup := by
      rw [List.zipIdx_map_snd]
      exact List.nodup_range'
    have numbered := calls.map (f := UuidCall.removed) fun i i' eq => UuidCall.removed.inj eq
    rw [List.map_map] at numbered
    exact numbered
  · intro block mem _
    obtain ⟨⟨instVnfc, i⟩, numberedMem, rfl⟩ := List.mem_map.mp mem
    exact ⟨rfl, has instVnfc (List.fst_mem_of_mem_zipIdx numberedMem) i⟩

/-- The numbers and the names of a scale-in request. -/
lemma scaleIn_exact_iff {aspectId : String}
    (nums : aspectVdus flavour aspectId = vduNumInst)
    (unique : (vduNumInst.map Prod.fst).Nodup)
    (made : scaleInRmReses uuids inst.info numSteps vduNumInst = .ok reses)
    {grantReq : GrantRequest} (removed : grantReq.removeResources.getD [] = reses) :
    (scale .scaleIn aspectId numSteps inst).Exact grantReq ↔
      (scale .scaleIn aspectId numSteps inst).Countable := by
  obtain ⟨vnfcs, loaded, made⟩ := bind_ok.mp made
  obtain ⟨⟨rmReses, addReses⟩, made, eq⟩ := bind_ok.mp made
  cases eq
  have vnfcsEq : vnfcs = inst.info.vnfcs := by
    rw [InstantiatedVnfInfo.vnfcs, load_ok.mp loaded, Option.getD_some]
  subst vnfcsEq
  have madeOf := madeOf_removed made
  have recorded : ∀ instVnfc ∈ scaleInRmVnfcs inst.info.vnfcs numSteps vduNumInst,
      instVnfc ∈ inst.info.vnfcs := by
    intro instVnfc mem
    obtain ⟨vdu, _, selected⟩ := List.mem_flatMap.mp mem
    exact (of_mem_vnfcsOf ((selectVnfcs_sublist _ _ _).mem selected)).1
  have wellNamed := wellNamed_removed_iff (scale .scaleIn aspectId numSteps inst).ServerHas madeOf
    recorded fun instVnfc mem _ => ⟨instVnfc, recorded instVnfc mem, rfl, rfl, rfl, rfl⟩
  have counted : (scale .scaleIn aspectId numSteps inst).Counted grantReq ↔
      ∀ vdu ∈ vduNumInst, (selectVnfcs vdu.1 (vdu.2 * numSteps) 0 inst.info.vnfcs).length =
        vdu.2 * numSteps := by
    show (∀ vdu ∈ aspectVdus flavour aspectId, _) ↔ _
    rw [nums, removed]
    apply forall₂_congr
    intro vdu mem
    have resources := map_resource_serversOf madeOf vdu.1
    rw [vnfcsOf_scaleInRmVnfcs unique mem] at resources
    apply Iff.intro
    · rintro ⟨rmVnfcs, _, length, same⟩
      rw [resources] at same
      have lengths := congrArg List.length same
      rw [List.length_map, List.length_map] at lengths
      rw [lengths, length]
    · intro length
      exact ⟨_, selectVnfcs_sublist _ _ _, length, resources⟩
  show (scale .scaleIn aspectId numSteps inst).Counted grantReq ∧
    WellNamed _ (grantReq.removeResources.getD []) ↔ ∀ vdu ∈ aspectVdus flavour aspectId, _
  rw [counted, removed, wellNamed, nums, scaleInRmVnfcs, List.forall_mem_flatMap,
    ← forall₂_and]
  apply forall₂_congr
  intro vdu mem
  rw [length_selectVnfcs_iff, and_assoc]
  apply and_congr_right
  intro enough
  apply and_congr_right
  intro none
  rw [selectVnfcs_of_length (length_selectVnfcs_iff.mpr ⟨enough, none⟩)]

/-! ## All requests -/

/-- Whenever the grant request for instantiate, scale-out or scale-in is made, it is about exactly
the numbers of VNFCs that the VNFD asks for, with definitions that are named apart and name their
servers, if and only if the request is countable. -/
theorem exact_iff (uuids : Uuids) (bestEffort : Bool) (vnfd : Vnfd)
    (request : CountedRequest flavour) (grantReq : GrantRequest)
    (found : vnfd request.flavourId = some flavour)
    (granted : request.grant uuids bestEffort vnfd = .ok grantReq) :
    request.Exact grantReq ↔ request.Countable := by
  cases request with
  | instantiate req inst =>
    have found : vnfd req.flavourId = some flavour := found
    have granted : instantiateGrant uuids bestEffort vnfd req inst = .ok grantReq := granted
    rw [instantiateGrant, found] at granted
    obtain ⟨addReses, made, granted⟩ := bind_ok.mp granted
    obtain ⟨plcConsts, _, granted⟩ := bind_ok.mp granted
    cases granted
    have added : (unlessEmpty addReses).getD [] = addReses := unlessEmpty_getD addReses
    show Counted _ _ ∧ WellNamed _ ((unlessEmpty addReses).getD []) ↔ _
    rw [and_iff_right (counted_instantiate made added), added]
    exact wellNamed_instantiate_iff made
  | scale type aspectId numSteps inst =>
    have found : vnfd inst.info.flavourId = some flavour := found
    have granted : scaleGrant uuids bestEffort vnfd ⟨type, aspectId, numSteps⟩ inst.info =
      .ok grantReq := granted
    rw [scaleGrant, found] at granted
    obtain ⟨vduNumInst, read, granted⟩ := bind_ok.mp granted
    have nums : aspectVdus flavour aspectId = vduNumInst := by
      rw [aspectVdus, show getScaleVduAndNum flavour aspectId = .ok vduNumInst from read]
      rfl
    have unique := getScaleVduAndNum_nodup read
    by_cases none : vduNumInst = []
    · rw [if_pos none] at granted
      cases granted
    · rw [if_neg none] at granted
      cases type with
      | scaleOut =>
        obtain ⟨addReses, made, granted⟩ := bind_ok.mp granted
        obtain ⟨plcConsts, _, granted⟩ := bind_ok.mp granted
        cases granted
        exact scaleOut_exact_iff nums unique made (unlessEmpty_getD addReses)
      | scaleIn =>
        obtain ⟨rmReses, made, granted⟩ := bind_ok.mp granted
        cases granted
        exact scaleIn_exact_iff nums unique made (unlessEmpty_getD rmReses)

/-! ## A VDU without VNFCs -/

/-- A flavour with one VDU, which a step scales by one instance. -/
def oneVdu : Flavour where
  nodeTemplates := [{ name := "VDU1", type := .vduCompute }]
  policies :=
    [.scalingAspects [("VDU1_scale", "delta_1")],
      .vduScalingAspectDeltas "VDU1_scale" ["VDU1"] [("delta_1", some 1)]]
  groups := []
  unique := by decide
  storagesNodes := by decide
  targetsVdus := by
    intro key
    cases key <;> decide

/-- An instance with VNFCs of the VDU. -/
def oneVduInst (num : Nat) : InstantiatedOf oneVdu where
  info :=
    { flavourId := "simple"
      vnfcResourceInfo := some <| (List.range num).map fun i =>
        { id := makeCombinationId "VDU1" (toString i), vduId := "VDU1"
          computeResource := { resourceId := makeCombinationId "server" (toString i) } } }
  cpNames := by
    intro instVnfc mem cpInfo cpMem
    obtain ⟨i, _, rfl⟩ := List.mem_map.mp mem
    cases cpMem
  storageNames := by
    intro storages isSet
    cases isSet

/-- The grant request for a step of scaling out that adds some VNFCs. -/
def stepGranted (num : Nat) : GrantRequest where
  flavourId := some "simple"
  addResources := unlessEmpty (makeResDefForNewVdu .spelled "VDU1" num [] [])

/-- A VDU with a VNFC is scaled out by the number asked for. -/
theorem scaled_with_sample :
    (scale .scaleOut "VDU1_scale" 2 (oneVduInst 1)).grant .spelled true (fun _ => some oneVdu) =
      .ok (stepGranted 2) ∧
    (scale .scaleOut "VDU1_scale" 2 (oneVduInst 1)).Exact (stepGranted 2) := by
  refine ⟨rfl, ?_⟩
  apply (exact_iff .spelled true (fun _ => some oneVdu) _ (stepGranted 2) rfl rfl).mpr
  intro vdu mem _
  obtain rfl : vdu = ("VDU1", 1) := List.mem_singleton.mp mem
  exact ⟨_, rfl, List.nodup_nil, List.nodup_nil⟩

/-- A VDU without VNFCs is passed over when it is to be scaled out. -/
theorem unsampled_vdu_passed_over :
    (scale .scaleOut "VDU1_scale" 1 (oneVduInst 0)).grant .spelled true (fun _ => some oneVdu) =
      .ok (stepGranted 0) ∧
    ¬ (scale .scaleOut "VDU1_scale" 1 (oneVduInst 0)).Exact (stepGranted 0) := by
  refine ⟨rfl, ?_⟩
  rintro ⟨counted, _⟩
  exact absurd (counted ("VDU1", 1) (List.mem_singleton.mpr rfl)) (by decide)

end CountedRequest

end Tacker.Grant
