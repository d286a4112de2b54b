import Tacker.Grant.RequestBlocks

/-!
# Link ports of an instantiate request

The request may bring ports along: those of external connection points are given under the CP, those
of externally managed virtual links under the virtual link. A grant request leaves out the ports of
the CPs that `_get_link_ports` names, and this names virtual links beside CPs.
-/

namespace Tacker.Grant

/-! ## What the request supplies -/

namespace InstantiateVnfRequest

/-- `extVirtualLinks` has a link port for the CP. -/
def SuppliesExt (req : InstantiateVnfRequest) (cpName : String) : Prop :=
  ∃ extVl ∈ req.extVirtualLinks.getD [], ∃ extCp ∈ extVl.extCps, extCp.cpdId = cpName ∧
    ∃ cpConfig ∈ extCp.cpConfig, cpConfig.linkPortId.isSome = true

/-- `extManagedVirtualLinks` has a link port for the virtual link. -/
def SuppliesVl (req : InstantiateVnfRequest) (vlName : String) : Prop :=
  ∃ extMgdVl ∈ req.extManagedVirtualLinks.getD [], extMgdVl.vnfVirtualLinkDescId = vlName ∧
    ∃ port, port ∈ extMgdVl.vnfLinkPort.getD []

/-- The request supplies a link port for the CP, or for the virtual link the CP is connected to. -/
def Supplies (req : InstantiateVnfRequest) (flavour : Flavour) (cpName : String) : Prop :=
  req.SuppliesExt cpName ∨
    ∃ node ∈ flavour.nodes .vduCp, node.name = cpName ∧
      ∃ vlName, getVlNameFromCp node = some vlName ∧ req.SuppliesVl vlName

/-- The name is that of a virtual link in `extManagedVirtualLinks` with `vnfLinkPort`. -/
def NamesVl (req : InstantiateVnfRequest) (name : String) : Prop :=
  ∃ extMgdVl ∈ req.extManagedVirtualLinks.getD [], extMgdVl.vnfVirtualLinkDescId = name ∧
    extMgdVl.vnfLinkPort.isSome = true

variable {req : InstantiateVnfRequest} {flavour : Flavour} {name cpName vlName : String}

/-- What `_get_link_ports` names. -/
lemma mem_linkPorts : name ∈ req.linkPorts ↔ req.SuppliesExt name ∨ req.NamesVl name := by
  rw [linkPorts, List.mem_append]
  apply or_congr
  · constructor
    · intro mem
      obtain ⟨extVl, extVlMem, mem⟩ := List.mem_flatMap.mp mem
      obtain ⟨extCp, extCpMem, mem⟩ := List.mem_flatMap.mp mem
      obtain ⟨cpConfig, cpConfigMem, eq⟩ := List.mem_map.mp mem
      obtain ⟨inConfig, isSome⟩ := List.mem_filter.mp cpConfigMem
      exact ⟨extVl, extVlMem, extCp, extCpMem, eq, cpConfig, inConfig, isSome⟩
    · rintro ⟨extVl, extVlMem, extCp, extCpMem, eq, cpConfig, inConfig, isSome⟩
      apply List.mem_flatMap.mpr
      refine ⟨extVl, extVlMem, List.mem_flatMap.mpr ⟨extCp, extCpMem, List.mem_map.mpr ?_⟩⟩
      exact ⟨cpConfig, List.mem_filter.mpr ⟨inConfig, isSome⟩, eq⟩
  · constructor
    · intro mem
      obtain ⟨extMgdVl, mem, eq⟩ := List.mem_map.mp mem
      obtain ⟨mem, isSome⟩ := List.mem_filter.mp mem
      exact ⟨extMgdVl, mem, eq, isSome⟩
    · rintro ⟨extMgdVl, mem, eq, isSome⟩
      exact List.mem_map.mpr ⟨extMgdVl, List.mem_filter.mpr ⟨mem, isSome⟩, eq⟩

end InstantiateVnfRequest

/-! ## The ports that are asked for -/

variable {flavour : Flavour} {req : InstantiateVnfRequest} {node : NodeTemplate} {cpName : String}
  {uuids : Uuids} {reses : List ResourceDefinition}

/-- The CPs of a VDU for which no port is asked. -/
def excludedCps (flavour : Flavour) (req : InstantiateVnfRequest) (node : NodeTemplate) :
    List String :=
  (flavour.getVduCps node.name).filter fun cpName => cpName ∉ portNames flavour req node

lemma mem_excludedCps : cpName ∈ excludedCps flavour req node ↔
    cpName ∈ flavour.getVduCps node.name ∧ cpName ∈ req.linkPorts := by
  rw [excludedCps, List.mem_filter, decide_eq_true_iff, portNames, List.mem_filter,
    decide_eq_true_iff]
  apply and_congr_right
  intro isCp
  rw [not_and, not_not]
  exact ⟨fun excluded => excluded isCp, fun mem _ => mem⟩

/-- The ports among the definitions are those of the blocks. -/
lemma MadeOf.exists_port {blocks : List Block} (made : MadeOf uuids blocks reses) :
    (∃ res ∈ reses, res.type = .linkport ∧ res.resourceTemplateId = cpName) ↔
      ∃ block ∈ blocks, cpName ∈ block.cpNames := by
  have inBlock (block : Block) :
      (∃ res ∈ block.reses uuids, res.type = .linkport ∧ res.resourceTemplateId = cpName) ↔
        cpName ∈ block.cpNames := by
    constructor
    · rintro ⟨res, mem, port, rfl⟩
      rcases List.mem_cons.mp mem with rfl | mem
      · rw [Block.head] at port
        cases server : block.isServer with
        | true => simp [server] at port
        | false => simp [server] at port
      · rcases List.mem_append.mp mem with mem | mem
        · obtain ⟨name, isCp, rfl⟩ := List.mem_map.mp mem
          exact isCp
        · obtain ⟨name, -, rfl⟩ := List.mem_map.mp mem
          cases port
    · intro isCp
      refine ⟨⟨makeCombinationId cpName (uuids.of block.call), .linkport, cpName, none⟩,
        List.mem_cons_of_mem _ (List.mem_append_left _ ?_), rfl, rfl⟩
      exact List.mem_map.mpr ⟨cpName, isCp, rfl⟩
  constructor
  · rintro ⟨res, mem, port, name⟩
    have inReses : bare res ∈ blocks.flatMap (Block.reses uuids) := by
      rw [← made]
      exact List.mem_map_of_mem mem
    obtain ⟨block, isBlock, mem⟩ := List.mem_flatMap.mp inReses
    refine ⟨block, isBlock, (inBlock block).mp ⟨bare res, mem, ?_, ?_⟩⟩
    · rw [bare_type, port]
    · rw [bare_resourceTemplateId, name]
  · rintro ⟨block, isBlock, isCp⟩
    obtain ⟨res, mem, port, name⟩ := (inBlock block).mpr isCp
    have inReses : res ∈ reses.map bare := by
      rw [made]
      exact List.mem_flatMap.mpr ⟨block, isBlock, mem⟩
    obtain ⟨whole, isRes, rfl⟩ := List.mem_map.mp inReses
    rw [bare_type] at port
    rw [bare_resourceTemplateId] at name
    exact ⟨whole, isRes, port, name⟩

/-- The request asks for a port exactly for the CPs of the VDUs with VNFCs that are not excluded. -/
theorem asksForPort_iff (made : instantiateAddReses uuids flavour req = .ok reses) :
    (∃ res ∈ reses, res.type = .linkport ∧ res.resourceTemplateId = cpName) ↔
      ∃ node ∈ flavour.nodes .vduCompute, 0 < numOf flavour req node ∧
        cpName ∈ flavour.getVduCps node.name ∧ cpName ∉ excludedCps flavour req node := by
  rw [(madeOf_instantiate made).exists_port]
  constructor
  · rintro ⟨block, isBlock, isCp⟩
    rcases List.mem_append.mp isBlock with isBlock | isBlock
    · obtain ⟨node, isVdu, isBlock⟩ := List.mem_flatMap.mp isBlock
      obtain ⟨i, inRange, rfl⟩ := List.mem_map.mp isBlock
      have some := List.mem_range.mp inRange
      refine ⟨node, isVdu, by omega, List.mem_of_mem_filter isCp, fun excluded => ?_⟩
      exact of_decide_eq_true (List.mem_filter.mp excluded).2 isCp
    · obtain ⟨name, -, rfl⟩ := List.mem_map.mp isBlock
      cases isCp
  · rintro ⟨node, isVdu, some, isCp, asked⟩
    refine ⟨_, List.mem_append_left _ (List.mem_flatMap.mpr ⟨node, isVdu, List.mem_map.mpr
      ⟨0, List.mem_range.mpr some, rfl⟩⟩), ?_⟩
    by_contra missing
    exact asked (List.mem_filter.mpr ⟨isCp, decide_eq_true missing⟩)

/-! ## Exactly the supplied ports -/

/-- The ports that are not asked for are those that the request supplies, for each VDU. -/
def ExcludesSupplied (flavour : Flavour) (req : InstantiateVnfRequest) : Prop :=
  ∀ node ∈ flavour.nodes .vduCompute, ∀ cpName, cpName ∈ excludedCps flavour req node ↔
    cpName ∈ flavour.getVduCps node.name ∧ req.Supplies flavour cpName

/-- What is given for virtual links changes nothing for the CPs of VDUs: each one that is connected
to a virtual link with a port has a port of its own or the name of such a link, and each one with the
name of such a link has a port. -/
structure ManagedPortsFit (flavour : Flavour) (req : InstantiateVnfRequest) : Prop where
  connected : ∀ vdu ∈ flavour.nodes .vduCompute, ∀ cpName ∈ flavour.getVduCps vdu.name,
    ∀ node ∈ flavour.nodes .vduCp, node.name = cpName →
      ∀ vlName, getVlNameFromCp node = some vlName → req.SuppliesVl vlName →
        req.SuppliesExt cpName ∨ req.NamesVl cpName
  named : ∀ vdu ∈ flavour.nodes .vduCompute, ∀ cpName ∈ flavour.getVduCps vdu.name,
    req.NamesVl cpName → req.Supplies flavour cpName

/-- The ports that an instantiate request supplies are left out, and no others, exactly if what it
gives for virtual links changes nothing. -/
theorem excludesSupplied_iff (flavour : Flavour) (req : InstantiateVnfRequest) :
    ExcludesSupplied flavour req ↔ ManagedPortsFit flavour req := by
  constructor
  · intro exactly
    constructor
    · intro vdu isVdu cpName isCp node isNode isName vlName isVl supplies
      have supplied : req.Supplies flavour cpName :=
        .inr ⟨node, isNode, isName, vlName, isVl, supplies⟩
      have excluded := (exactly vdu isVdu cpName).mpr ⟨isCp, supplied⟩
      exact InstantiateVnfRequest.mem_linkPorts.mp (mem_excludedCps.mp excluded).2
    · intro vdu isVdu cpName isCp named
      have listed := InstantiateVnfRequest.mem_linkPorts.mpr (.inr named)
      exact ((exactly vdu isVdu cpName).mp (mem_excludedCps.mpr ⟨isCp, listed⟩)).2
  · intro fit vdu isVdu cpName
    rw [mem_excludedCps]
    apply and_congr_right
    intro isCp
    rw [InstantiateVnfRequest.mem_linkPorts]
    constructor
    · rintro (supplies | named)
      · exact .inl supplies
      · exact fit.named vdu isVdu cpName isCp named
    · rintro (supplies | ⟨node, isNode, isName, vlName, isVl, supplies⟩)
      · exact .inl supplies
      · exact fit.connected vdu isVdu cpName isCp node isNode isName vlName isVl supplies

/-- For a request that gives ports for virtual links of the VNFD only, the CPs connected to these
need ports of their own. -/
theorem managedPortsFit_iff_of_vls
    (vls : ∀ name, req.NamesVl name → name ∈ flavour.names .vnfVirtualLink) :
    ManagedPortsFit flavour req ↔
      ∀ vdu ∈ flavour.nodes .vduCompute, ∀ cpName ∈ flavour.getVduCps vdu.name,
        req.Supplies flavour cpName → req.SuppliesExt cpName := by
  have notVl (vdu : NodeTemplate) (cpName : String) (isCp : cpName ∈ flavour.getVduCps vdu.name) :
      ¬ req.NamesVl cpName := fun named => by
    have same := Flavour.type_unique (Flavour.mem_names_of_getVduCps isCp) (vls cpName named)
    cases same
  constructor
  · intro fit vdu isVdu cpName isCp supplies
    rcases supplies with own | ⟨node, isNode, isName, vlName, isVl, supplies⟩
    · exact own
    · have linked := fit.connected vdu isVdu cpName isCp node isNode isName vlName isVl supplies
      rcases linked with own | named
      · exact own
      · exact absurd named (notVl vdu cpName isCp)
  · intro own
    constructor
    · intro vdu isVdu cpName isCp node isNode isName vlName isVl supplies
      exact .inl (own vdu isVdu cpName isCp (.inr ⟨node, isNode, isName, vlName, isVl, supplies⟩))
    · intro vdu isVdu cpName isCp named
      exact absurd named (notVl vdu cpName isCp)

/-- A VDU with a CP on an internal virtual link. -/
def oneInternalCp : Flavour where
  nodeTemplates :=
    [{ name := "VDU1", type := .vduCompute },
      { name := "VDU1_CP1", type := .vduCp,
        requirements := [{ virtualBinding := some "VDU1" },
          { virtualLink := some "internalVL1" }] },
      { name := "internalVL1", type := .vnfVirtualLink }]
  policies := []
  groups := []
  unique := by decide
  storagesNodes := by decide
  targetsVdus := by
    intro key
    cases key <;> decide

/-- A request that brings the virtual link and the port of the CP on it. -/
def withInternalPort : InstantiateVnfRequest where
  flavourId := "simple"
  extManagedVirtualLinks :=
    some [{ vnfVirtualLinkDescId := "internalVL1", vnfLinkPort := some ["port1"] }]

/-- The port of a CP on an externally managed virtual link is asked for although it is there. -/
theorem internal_port_asked :
    "VDU1_CP1" ∈ oneInternalCp.getVduCps "VDU1" ∧
      withInternalPort.Supplies oneInternalCp "VDU1_CP1" ∧
      ¬ ExcludesSupplied oneInternalCp withInternalPort := by
  have isCp : "VDU1_CP1" ∈ oneInternalCp.getVduCps "VDU1" := by decide
  have supplies : withInternalPort.Supplies oneInternalCp "VDU1_CP1" := by
    refine .inr ⟨⟨"VDU1_CP1", .vduCp, [{ virtualBinding := some "VDU1" },
      { virtualLink := some "internalVL1" }]⟩, by decide, rfl, "internalVL1", rfl, ?_⟩
    exact ⟨_, List.mem_singleton_self _, rfl, "port1", List.mem_singleton_self _⟩
  refine ⟨isCp, supplies, fun exactly => ?_⟩
  have excluded := (exactly ⟨"VDU1", .vduCompute, []⟩ (by decide) "VDU1_CP1").mpr ⟨isCp, supplies⟩
  exact absurd (mem_excludedCps.mp excluded).2 (by decide)

end Tacker.Grant
