import Mathlib.Data.List.Nodup

/-!
# What grant requests read of a VNFD

The node templates, policies and groups of a deployment flavour, and the methods of
`common/vnfd_utils.py` that the grant requests are made with. The numbers of instances are natural
numbers and the required members of a policy are there, as the type definitions ask for; a level or
a delta that is missing is read as `none`.
-/

namespace Tacker.Grant

/-! ## Deployment flavours -/

/-- The types of node templates that are told apart. -/
inductive NodeType where
  | vduCompute
  | virtualBlockStorage
  | vduCp
  | vnfVirtualLink
  | other
deriving DecidableEq

/-- An entry of the requirements of a node template. -/
structure Requirement where
  virtualStorage : Option String := none
  virtualBinding : Option String := none
  virtualLink : Option String := none
deriving DecidableEq

/-- A node template with its name. -/
structure NodeTemplate where
  name : String
  type : NodeType
  requirements : List Requirement := []
deriving DecidableEq

/-- The values of policies. An aspect of `ScalingAspects` is given with its first step delta. -/
inductive Policy where
  | instantiationLevels (defaultLevel : Option String)
  | vduInstantiationLevels (targets : List String) (levels : List (String × Option Nat))
  | scalingAspects (aspects : List (String × String))
  | vduScalingAspectDeltas (aspect : String) (targets : List String)
      (deltas : List (String × Option Nat))
  | affinityRule (targets : List String) (scope : String)
  | antiAffinityRule (targets : List String) (scope : String)
  | other

/-- A group of nodes. -/
structure Group where
  name : String
  isPlacementGroup : Bool
  members : List String

/-- `affinityOrAntiAffinity` of a placement constraint. -/
inductive AffinityOrAntiAffinity where
  | affinity
  | antiAffinity
deriving DecidableEq

/-! ## Targets of the rules -/

/-- `get_placement_groups`, read at a name: of groups of one name the last one stays. -/
def getPlacementGroup (groups : List Group) (name : String) : Option (List String) :=
  (groups.reverse.find? fun group => group.isPlacementGroup && group.name == name).map
    Group.members

/-- The targets of a rule, with the members in the place of a group. -/
def expandTargets (groups : List Group) (targets : List String) : List String :=
  targets.flatMap fun target => (getPlacementGroup groups target).getD [target]

/-- The rules of one kind among the policies: targets and scope. -/
def rulesOf (key : AffinityOrAntiAffinity) (policies : List Policy) :
    List (List String × String) :=
  policies.filterMap fun policy =>
    match key, policy with
    | .affinity, .affinityRule targets scope => some (targets, scope)
    | .antiAffinity, .antiAffinityRule targets scope => some (targets, scope)
    | _, _ => none

/-- `_get_targets`: the rules of a scope that placement constraints know. -/
def getTargets (key : AffinityOrAntiAffinity) (policies : List Policy) (groups : List Group) :
    List (List String × String) :=
  ((rulesOf key policies).filter fun rule => rule.2 ∈ ["zone", "nfvi_node"]).map fun rule =>
    (expandTargets groups rule.1, rule.2)

/-- `get_nodes`. -/
def getNodes (nodeTemplates : List NodeTemplate) (type : NodeType) : List NodeTemplate :=
  nodeTemplates.filter fun node => node.type = type

/-- `get_vdu_storages`. -/
def getVduStorages (node : NodeTemplate) : List String :=
  node.requirements.filterMap Requirement.virtualStorage

/-- `get_vl_name_from_cp`: of the first requirement that tells one. -/
def getVlNameFromCp (node : NodeTemplate) : Option String :=
  node.requirements.findSome? Requirement.virtualLink

/-- A deployment flavour: the node templates have names of their own, the storages of VDUs are
storage nodes, and the rules are about VDUs. -/
structure Flavour where
  nodeTemplates : List NodeTemplate
  policies : List Policy
  groups : List Group
  unique : (nodeTemplates.map NodeTemplate.name).Nodup
  storagesNodes : ∀ node ∈ getNodes nodeTemplates .vduCompute, ∀ name ∈ getVduStorages node,
    name ∈ (getNodes nodeTemplates .virtualBlockStorage).map NodeTemplate.name
  targetsVdus : ∀ key, ∀ rule ∈ getTargets key policies groups, ∀ target ∈ rule.1,
    target ∈ (getNodes nodeTemplates .vduCompute).map NodeTemplate.name

/-- `get_vnfd_flavour`. -/
abbrev Vnfd := String → Option Flavour

namespace Flavour

/-- `get_nodes`, of the flavour. -/
def nodes (flavour : Flavour) (type : NodeType) : List NodeTemplate :=
  getNodes flavour.nodeTemplates type

/-- The names of the node templates of a type. -/
def names (flavour : Flavour) (type : NodeType) : List String :=
  (flavour.nodes type).map NodeTemplate.name

/-- `get_affinity_targets` and `get_anti_affinity_targets`. -/
def targets (flavour : Flavour) (key : AffinityOrAntiAffinity) : List (List String × String) :=
  getTargets key flavour.policies flavour.groups

/-- `get_vdu_cps`. -/
def getVduCps (flavour : Flavour) (vduName : String) : List String :=
  ((flavour.nodes .vduCp).filter fun node =>
    node.requirements.any fun req => req.virtualBinding = some vduName).map NodeTemplate.name

/-- `get_default_instantiation_level`: of the first policy. -/
def getDefaultInstantiationLevel (flavour : Flavour) : Option String :=
  (flavour.policies.findSome? fun policy =>
    match policy with
    | .instantiationLevels defaultLevel => some defaultLevel
    | _ => none).join

/-- The number of instances of an entry, if there is such an entry and it tells. -/
def numberOfInstances (entries : List (String × Option Nat)) (key : Option String) : Option Nat :=
  key.bind fun key => (entries.lookup key).join

/-- `get_vdu_num`: the first policy that targets the VDU decides. -/
def getVduNum (flavour : Flavour) (vduName : String) (instantiationLevel : Option String) :
    Option Nat :=
  (flavour.policies.findSome? fun policy =>
    match policy with
    | .vduInstantiationLevels targets levels =>
      if vduName ∈ targets then some (numberOfInstances levels instantiationLevel) else none
    | _ => none).getD (some 0)

/-- The step delta of an aspect, in the first policy that has the aspect. -/
def stepDelta (flavour : Flavour) (aspectId : String) : Option String :=
  flavour.policies.findSome? fun policy =>
    match policy with
    | .scalingAspects aspects => aspects.lookup aspectId
    | _ => none

/-- The deltas of an aspect: targets with their number of instances. -/
def aspectDeltas (flavour : Flavour) (aspectId : String) (delta : String) :
    List (List String × Option Nat) :=
  flavour.policies.filterMap fun policy =>
    match policy with
    | .vduScalingAspectDeltas aspect targets deltas =>
      if aspect = aspectId then some (targets, numberOfInstances deltas (some delta)) else none
    | _ => none

/-- The names of a type are those of its nodes. -/
lemma mem_names {flavour : Flavour} {type : NodeType} {name : String} :
    name ∈ flavour.names type ↔ ∃ node ∈ flavour.nodeTemplates, node.type = type ∧
      node.name = name := by
  simp [names, nodes, getNodes, and_assoc]

/-- A name is the name of nodes of one type only. -/
lemma type_unique {flavour : Flavour} {type type' : NodeType} {name : String}
    (mem : name ∈ flavour.names type) (mem' : name ∈ flavour.names type') : type = type' := by
  obtain ⟨node, nodeMem, rfl, rfl⟩ := mem_names.mp mem
  obtain ⟨node', nodeMem', rfl, sameName⟩ := mem_names.mp mem'
  rw [List.inj_on_of_nodup_map flavour.unique nodeMem nodeMem' sameName.symm]

/-- The names of the CPs of a VDU are names of CP nodes. -/
lemma mem_names_of_getVduCps {flavour : Flavour} {vduName cpName : String}
    (mem : cpName ∈ flavour.getVduCps vduName) : cpName ∈ flavour.names .vduCp := by
  obtain ⟨node, nodeMem, rfl⟩ := List.mem_map.mp mem
  exact List.mem_map_of_mem (List.mem_of_mem_filter nodeMem)

end Flavour

end Tacker.Grant
