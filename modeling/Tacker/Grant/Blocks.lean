import Mathlib.Data.List.Nodup
import Tacker.Grant.Resources

/-!
# Blocks of resource definitions

The definitions of a grant request come in blocks: that of a server, followed by those of its ports
and storages, or that of a virtual link alone. What a list made of blocks says about its
identifiers and servers is told once for all requests.
-/

namespace Tacker.Grant

/-! ## Blocks -/

/-- A server with the names of its ports and storages, or a virtual link. -/
structure Block where
  call : UuidCall
  isServer : Bool
  resourceTemplateId : String
  resource : Option ResourceHandle := none
  cpNames : List String := []
  storageNames : List String := []

namespace Block

/-- The first definition of a block. -/
def head (uuids : Uuids) (block : Block) : ResourceDefinition where
  id := uuids.of block.call
  type := if block.isServer = true then .compute else .vl
  resourceTemplateId := block.resourceTemplateId
  resource := block.resource

/-- The definitions of a block, the ports and storages without their handles. -/
def reses (uuids : Uuids) (block : Block) : List ResourceDefinition :=
  block.head uuids ::
    (block.cpNames.map (fun cpName =>
      ⟨makeCombinationId cpName (uuids.of block.call), .linkport, cpName, none⟩) ++
    block.storageNames.map fun storageName =>
      ⟨makeCombinationId storageName (uuids.of block.call), .storage, storageName, none⟩)

/-- The ports and storages. -/
def names (block : Block) : List String := block.cpNames ++ block.storageNames

/-- The identifiers of a block. -/
def ids (uuids : Uuids) (block : Block) : List String :=
  uuids.of block.call :: block.names.map fun name => makeCombinationId name (uuids.of block.call)

end Block

/-- A definition without the handle of a port or a storage. -/
def bare (res : ResourceDefinition) : ResourceDefinition :=
  match res.type with
  | .compute => res
  | .vl => res
  | .storage => { res with resource := none }
  | .linkport => { res with resource := none }

/-- Definitions are made of blocks. -/
def MadeOf (uuids : Uuids) (blocks : List Block) (reses : List ResourceDefinition) : Prop :=
  reses.map bare = blocks.flatMap (Block.reses uuids)

variable {uuids : Uuids} {block : Block} {blocks : List Block} {res : ResourceDefinition}
  {reses : List ResourceDefinition}

@[simp]
lemma bare_id (res : ResourceDefinition) : (bare res).id = res.id := by
  cases type : res.type <;> simp [bare, type]

@[simp]
lemma bare_type (res : ResourceDefinition) : (bare res).type = res.type := by
  cases type : res.type <;> simp [bare, type]

@[simp]
lemma bare_resourceTemplateId (res : ResourceDefinition) :
    (bare res).resourceTemplateId = res.resourceTemplateId := by
  cases type : res.type <;> simp [bare, type]

lemma bare_of_compute (compute : res.type = .compute) : bare res = res := by
  simp [bare, compute]

/-- The identifiers of a block are those of its definitions. -/
lemma Block.map_id_reses (uuids : Uuids) (block : Block) :
    (block.reses uuids).map (·.id) = block.ids uuids := by
  simp [reses, ids, names, head, Function.comp_def]

/-- The definitions of a block stay as they are without handles. -/
lemma Block.map_bare_reses (uuids : Uuids) (block : Block) :
    (block.reses uuids).map bare = block.reses uuids := by
  have head : bare (block.head uuids) = block.head uuids := by
    cases server : block.isServer <;> simp [bare, Block.head, server]
  rw [reses, List.map_cons, head, List.map_append, List.map_map, List.map_map]
  rfl

/-- The definitions of blocks are made of them. -/
lemma madeOf_flatMap (uuids : Uuids) (blocks : List Block) :
    MadeOf uuids blocks (blocks.flatMap (Block.reses uuids)) := by
  rw [MadeOf, List.map_flatMap]
  apply List.flatMap_congr
  intro block _
  exact block.map_bare_reses uuids

/-! ## Identifiers -/

/-- The identifiers of a block differ if and only if the names of its ports and storages do. -/
lemma Block.nodup_ids : (block.ids uuids).Nodup ↔ block.names.Nodup := by
  rw [ids, List.nodup_cons, List.nodup_map_iff]
  · apply and_iff_right
    intro mem
    obtain ⟨name, _, eq⟩ := List.mem_map.mp mem
    exact Uuids.of_ne_makeCombinationId eq.symm
  · intro name name' eq
    exact (Uuids.makeCombinationId_inj.mp eq).1

/-- The generated identifier shows in each identifier of a block. -/
lemma Block.call_of_mem_ids {block' : Block} {id : String} (mem : id ∈ block.ids uuids)
    (mem' : id ∈ block'.ids uuids) : block.call = block'.call := by
  rcases List.mem_cons.mp mem with rfl | mem
  · rcases List.mem_cons.mp mem' with eq | mem'
    · exact Uuids.of_inj.mp eq
    · obtain ⟨name, _, eq⟩ := List.mem_map.mp mem'
      exact absurd eq.symm Uuids.of_ne_makeCombinationId
  · obtain ⟨name, _, rfl⟩ := List.mem_map.mp mem
    rcases List.mem_cons.mp mem' with eq | mem'
    · exact absurd eq.symm Uuids.of_ne_makeCombinationId
    · obtain ⟨name', _, eq⟩ := List.mem_map.mp mem'
      exact (Uuids.makeCombinationId_inj.mp eq.symm).2

/-- The identifiers differ if and only if no server has two ports or storages of one name. -/
theorem MadeOf.nodup_ids (made : MadeOf uuids blocks reses)
    (calls : (blocks.map Block.call).Nodup) :
    (reses.map (·.id)).Nodup ↔ ∀ block ∈ blocks, block.names.Nodup := by
  have ids : reses.map (·.id) = blocks.flatMap (Block.ids uuids) := by
    calc reses.map (·.id)
        = (reses.map bare).map (·.id) := by
          rw [List.map_map]
          exact List.map_congr_left fun res _ => (bare_id res).symm
      _ = (blocks.flatMap (Block.reses uuids)).map (·.id) := by rw [made]
      _ = blocks.flatMap (Block.ids uuids) := by
          rw [List.map_flatMap]
          exact List.flatMap_congr fun block _ => block.map_id_reses uuids
  rw [ids, List.nodup_flatMap]
  apply Iff.intro
  · rintro ⟨each, _⟩ block mem
    exact Block.nodup_ids.mp (each block mem)
  · intro each
    refine ⟨fun block mem => Block.nodup_ids.mpr (each block mem), ?_⟩
    apply (List.pairwise_map.mp calls).imp
    intro block block' ne id mem mem'
    exact ne (Block.call_of_mem_ids mem mem')

/-! ## Servers -/

/-- The definitions of the servers of a VDU. -/
def serversOf (vduName : String) (reses : List ResourceDefinition) : List ResourceDefinition :=
  reses.filter fun res => res.type = .compute ∧ res.resourceTemplateId = vduName

/-- The blocks of a VDU. -/
def blocksOf (vduName : String) (blocks : List Block) : List Block :=
  blocks.filter fun block => block.isServer = true ∧ block.resourceTemplateId = vduName

lemma Block.serversOf_reses (uuids : Uuids) (vduName : String) (block : Block) :
    serversOf vduName (block.reses uuids) =
      if block.isServer = true ∧ block.resourceTemplateId = vduName then [block.head uuids]
      else [] := by
  have others : serversOf vduName
      (block.cpNames.map (fun cpName =>
        ⟨makeCombinationId cpName (uuids.of block.call), .linkport, cpName, none⟩) ++
      block.storageNames.map fun storageName =>
        ⟨makeCombinationId storageName (uuids.of block.call), .storage, storageName, none⟩) = [] := by
    apply List.filter_eq_nil_iff.mpr
    intro res mem
    rcases List.mem_append.mp mem with mem | mem
    · obtain ⟨name, _, rfl⟩ := List.mem_map.mp mem
      simp
    · obtain ⟨name, _, rfl⟩ := List.mem_map.mp mem
      simp
  rw [serversOf] at others
  rw [serversOf, reses, List.filter_cons, others]
  cases server : block.isServer <;> simp [head, server]

/-- The definitions of the servers are the first ones of their blocks. -/
theorem MadeOf.serversOf (made : MadeOf uuids blocks reses) (vduName : String) :
    serversOf vduName reses = (blocksOf vduName blocks).map (Block.head uuids) := by
  have kept : Grant.serversOf vduName reses = Grant.serversOf vduName (reses.map bare) := by
    rw [Grant.serversOf, Grant.serversOf, List.filter_map]
    have same : (fun res : ResourceDefinition =>
        decide (res.type = .compute ∧ res.resourceTemplateId = vduName)) ∘ bare =
        fun res => decide (res.type = .compute ∧ res.resourceTemplateId = vduName) := by
      funext res
      simp
    rw [same]
    symm
    calc (reses.filter fun res => decide (res.type = .compute ∧ _)).map bare
        = (reses.filter fun res => decide (res.type = .compute ∧ _)).map id := by
          apply List.map_congr_left
          intro res mem
          have compute := (of_decide_eq_true (List.mem_filter.mp mem).2).1
          exact bare_of_compute compute
      _ = _ := List.map_id _
  rw [kept, made]
  clear made kept
  induction blocks with
  | nil => rfl
  | cons block blocks ih =>
    have first := block.serversOf_reses uuids vduName
    rw [List.flatMap_cons, Grant.serversOf, List.filter_append]
    rw [Grant.serversOf] at first ih
    rw [first, ih, blocksOf, blocksOf, List.filter_cons]
    by_cases server : block.isServer = true ∧ block.resourceTemplateId = vduName
    · rw [if_pos server, if_pos (decide_eq_true server)]
      rfl
    · rw [if_neg server, if_neg (by simpa using server)]
      rfl

/-- Each port and each storage names the server of its block. -/
theorem MadeOf.names_server (made : MadeOf uuids blocks reses)
    (heads : ∀ block ∈ blocks, block.names ≠ [] → block.isServer = true) (mem : res ∈ reses)
    (part : res.type = .linkport ∨ res.type = .storage) :
    ∃ block ∈ blocks, block.head uuids ∈ reses ∧ (block.head uuids).type = .compute ∧
      res.id = makeCombinationId res.resourceTemplateId (block.head uuids).id ∧
      (res.type = .linkport → res.resourceTemplateId ∈ block.cpNames) ∧
      (res.type = .storage → res.resourceTemplateId ∈ block.storageNames) := by
  have bareMem : bare res ∈ blocks.flatMap (Block.reses uuids) :=
    made ▸ List.mem_map_of_mem mem
  obtain ⟨block, blockMem, bareMem⟩ := List.mem_flatMap.mp bareMem
  have headMem : ∀ name, name ∈ block.names → block.head uuids ∈ reses ∧
      (block.head uuids).type = .compute := by
    intro name named
    have server := heads block blockMem (List.ne_nil_of_mem named)
    have compute : (block.head uuids).type = .compute := by
      rw [Block.head, if_pos server]
    refine ⟨?_, compute⟩
    have headMem : block.head uuids ∈ reses.map bare := by
      rw [made]
      exact List.mem_flatMap.mpr ⟨block, blockMem, List.mem_cons_self⟩
    obtain ⟨res', mem', eq⟩ := List.mem_map.mp headMem
    rw [← eq, bare_type] at compute
    rw [bare_of_compute compute] at eq
    exact eq ▸ mem'
  refine ⟨block, blockMem, ?_⟩
  rcases List.mem_cons.mp bareMem with eq | bareMem
  · have type := congrArg ResourceDefinition.type eq
    rw [bare_type] at type
    cases server : block.isServer <;> simp_all [Block.head]
  · rcases List.mem_append.mp bareMem with partMem | partMem
    · obtain ⟨name, named, eq⟩ := List.mem_map.mp partMem
      obtain ⟨inReses, compute⟩ := headMem name (List.mem_append_left _ named)
      rw [← bare_id res, ← bare_resourceTemplateId res, ← bare_type res, ← eq]
      exact ⟨inReses, compute, rfl, fun _ => named, (fun storage => by cases storage)⟩
    · obtain ⟨name, named, eq⟩ := List.mem_map.mp partMem
      obtain ⟨inReses, compute⟩ := headMem name (List.mem_append_right _ named)
      rw [← bare_id res, ← bare_resourceTemplateId res, ← bare_type res, ← eq]
      exact ⟨inReses, compute, rfl, (fun port => by cases port), fun _ => named⟩

end Tacker.Grant
