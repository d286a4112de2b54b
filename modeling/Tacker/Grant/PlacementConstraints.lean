import Tacker.Basis.Leading
import Tacker.Grant.Resources
import Tacker.Grant.Vnfd

/-!
# Placement constraints

`_make_placementconstraints` of `conductor/vnflcm_driver_v2.py`, and when it makes one constraint
for each rule that needs one.
-/

namespace Tacker.Grant

open Tacker.Basis

/-! ## Data -/

/-- `idType` of a reference. -/
inductive IdType where
  | grant
  | resMgmt
deriving DecidableEq

/-- `ConstraintResourceRefV1`. -/
structure ConstraintResourceRef where
  idType : IdType
  resourceId : String
  vimConnectionId : Option String := none
deriving DecidableEq

/-- `PlacementConstraintV1`. -/
structure PlacementConstraint where
  affinityOrAntiAffinity : AffinityOrAntiAffinity
  scope : String
  resource : List ConstraintResourceRef
  fallbackBestEffort : Bool
deriving DecidableEq

/-! ## The loops -/

/-- The reference to an added resource. -/
def addedRef (res : ResourceDefinition) : ConstraintResourceRef where
  idType := .grant
  resourceId := res.id

/-- The references to added resources. -/
def addedRefs (targets : List String) (addReses : List ResourceDefinition) :
    List ConstraintResourceRef :=
  (addReses.filter fun res => res.resourceTemplateId ∈ targets).map addedRef

/-- The reference to a VNFC that exists. -/
def existingRef (vnfc : VnfcResourceInfo) : Except Raised ConstraintResourceRef := do
  let vimConnectionId ← load "vimConnectionId" vnfc.computeResource.vimConnectionId
  return {
    idType := .resMgmt
    resourceId := vnfc.computeResource.resourceId
    vimConnectionId := some vimConnectionId }

/-- The VNFCs of the targets. -/
def existingOf (targets : List String) (vnfcs : List VnfcResourceInfo) : List VnfcResourceInfo :=
  vnfcs.filter fun vnfc => vnfc.vduId ∈ targets

/-- The loop over the rules of one kind. -/
def constraintsOfRules (bestEffort : Bool) (addReses : List ResourceDefinition)
    (vnfcs : List VnfcResourceInfo) (key : AffinityOrAntiAffinity) :
    List (List String × String) → Except Raised (List PlacementConstraint)
  | [] => .ok []
  | (targets, scope) :: rules =>
    -- both exits leave the loop over the rules, not the turn
    if addedRefs targets addReses = [] then .ok []
    else do
      let existing ← (existingOf targets vnfcs).mapM existingRef
      let resRefs := addedRefs targets addReses ++ existing
      if resRefs.length < 2 then return []
      else
        let plcConsts ← constraintsOfRules bestEffort addReses vnfcs key rules
        return ⟨key, scope.toUpper, resRefs, bestEffort⟩ :: plcConsts

/-- `_make_placementconstraints`. -/
def makePlacementconstraints (bestEffort : Bool) (flavour : Flavour)
    (addReses : List ResourceDefinition) (vnfcs : List VnfcResourceInfo) :
    Except Raised (List PlacementConstraint) := do
  let affinity ← constraintsOfRules bestEffort addReses vnfcs .affinity (flavour.targets .affinity)
  let antiAffinity ←
    constraintsOfRules bestEffort addReses vnfcs .antiAffinity (flavour.targets .antiAffinity)
  return affinity ++ antiAffinity

/-! ## What the constraints are for -/

section

variable (bestEffort : Bool) (addReses : List ResourceDefinition) (vnfcs : List VnfcResourceInfo)

/-- The added COMPUTE resources of the targets. -/
def addedOf (targets : List String) : List ResourceDefinition :=
  addReses.filter fun res => res.type = .compute ∧ res.resourceTemplateId ∈ targets

/-- A rule concerns an added resource, and two resources in total. -/
def Concerned (rule : List String × String) : Bool :=
  1 ≤ (addedOf addReses rule.1).length ∧
    2 ≤ (addedOf addReses rule.1).length + (existingOf rule.1 vnfcs).length

/-- The reference to the server of a VNFC. -/
def serverRef (vnfc : VnfcResourceInfo) : ConstraintResourceRef where
  idType := .resMgmt
  resourceId := vnfc.computeResource.resourceId
  vimConnectionId := vnfc.computeResource.vimConnectionId

/-- The VIM connection of the server of a VNFC is recorded. -/
def NamesConnection (vnfc : VnfcResourceInfo) : Prop :=
  vnfc.computeResource.vimConnectionId.isSome = true

instance (vnfc : VnfcResourceInfo) : Decidable (NamesConnection vnfc) :=
  inferInstanceAs (Decidable (_ = true))

/-- The constraint for a rule: the added and the existing COMPUTE resources of its targets. -/
def constraintOf (key : AffinityOrAntiAffinity) (rule : List String × String) :
    PlacementConstraint where
  affinityOrAntiAffinity := key
  scope := rule.2.toUpper
  resource :=
    (addedOf addReses rule.1).map addedRef ++ (existingOf rule.1 vnfcs).map serverRef
  fallbackBestEffort := bestEffort

/-- One constraint for each rule of a kind that is concerned. -/
def constraintsFor (key : AffinityOrAntiAffinity) (rules : List (List String × String)) :
    List PlacementConstraint :=
  (rules.filter (Concerned addReses vnfcs)).map (constraintOf bestEffort addReses vnfcs key)

/-- The rules of a kind can all have their constraints: those concerned are leading, and the
handles of their VNFCs name the VIM connection. -/
def Placeable (rules : List (List String × String)) : Prop :=
  Leading (Concerned addReses vnfcs) rules ∧
    ∀ rule ∈ rules, Concerned addReses vnfcs rule = true →
      ∀ vnfc ∈ existingOf rule.1 vnfcs, NamesConnection vnfc

instance (rules : List (List String × String)) : Decidable (Placeable addReses vnfcs rules) :=
  inferInstanceAs (Decidable (_ ∧ _))

end

/-! ## When each rule has its constraint -/

variable {bestEffort : Bool} {addReses : List ResourceDefinition} {vnfcs : List VnfcResourceInfo}
  {key : AffinityOrAntiAffinity} {rule : List String × String}
  {rules : List (List String × String)} {plcConsts : List PlacementConstraint}

/-- Only COMPUTE definitions bear the names of the targets. -/
def OnlyComputes (addReses : List ResourceDefinition) (targets : List String) : Prop :=
  ∀ res ∈ addReses, res.resourceTemplateId ∈ targets → res.type = .compute

lemma addedRefs_eq {targets : List String} (only : OnlyComputes addReses targets) :
    addedRefs targets addReses = (addedOf addReses targets).map addedRef := by
  have same : (addReses.filter fun res => decide (res.resourceTemplateId ∈ targets)) =
      addedOf addReses targets := by
    apply List.filter_congr
    intro res mem
    simp only [decide_eq_decide]
    exact ⟨fun target => ⟨only res mem target, target⟩, And.right⟩
  rw [addedRefs, same]

lemma existingRef_ok {vnfc : VnfcResourceInfo} {ref : ConstraintResourceRef} :
    existingRef vnfc = .ok ref ↔ NamesConnection vnfc ∧ ref = serverRef vnfc := by
  rw [existingRef, bind_ok]
  apply Iff.intro
  · rintro ⟨vimConnectionId, loaded, made⟩
    rw [load_ok] at loaded
    cases made
    refine ⟨Option.isSome_iff_exists.mpr ⟨vimConnectionId, loaded⟩, ?_⟩
    rw [serverRef, loaded]
  · rintro ⟨names, rfl⟩
    obtain ⟨vimConnectionId, isSet⟩ := Option.isSome_iff_exists.mp names
    refine ⟨vimConnectionId, load_ok.mpr isSet, ?_⟩
    rw [serverRef, isSet]
    rfl

/-- The references to the VNFCs are made if and only if each handle names the VIM connection. -/
lemma existingRefs_ok {vnfcs : List VnfcResourceInfo} {refs : List ConstraintResourceRef} :
    vnfcs.mapM existingRef = .ok refs ↔
      (∀ vnfc ∈ vnfcs, NamesConnection vnfc) ∧ refs = vnfcs.map serverRef := by
  induction vnfcs generalizing refs with
  | nil =>
    rw [mapM_nil_ok]
    simp
  | cons vnfc vnfcs ih =>
    rw [mapM_cons_ok, List.forall_mem_cons]
    apply Iff.intro
    · rintro ⟨ref, refs, made, rest, rfl⟩
      obtain ⟨names, rfl⟩ := existingRef_ok.mp made
      obtain ⟨namesRest, rfl⟩ := ih.mp rest
      exact ⟨⟨names, namesRest⟩, rfl⟩
    · rintro ⟨⟨names, namesRest⟩, rfl⟩
      exact ⟨_, _, existingRef_ok.mpr ⟨names, rfl⟩, ih.mpr ⟨namesRest, rfl⟩, rfl⟩

/-- A turn for a rule that is concerned. -/
lemma constraintsOfRules_concerned (only : OnlyComputes addReses rule.1)
    (concerned : Concerned addReses vnfcs rule = true) :
    constraintsOfRules bestEffort addReses vnfcs key (rule :: rules) = .ok plcConsts ↔
      (∀ vnfc ∈ existingOf rule.1 vnfcs, NamesConnection vnfc) ∧
      ∃ later, constraintsOfRules bestEffort addReses vnfcs key rules = .ok later ∧
        plcConsts = constraintOf bestEffort addReses vnfcs key rule :: later := by
  obtain ⟨targets, scope⟩ := rule
  obtain ⟨one, two⟩ := of_decide_eq_true concerned
  have added : ¬ addedRefs targets addReses = [] := by
    intro none
    rw [addedRefs_eq only, List.map_eq_nil_iff] at none
    rw [none] at one
    exact absurd one (by decide)
  have enough : ¬ (addedRefs targets addReses ++
      (existingOf targets vnfcs).map serverRef).length < 2 := by
    rw [addedRefs_eq only, List.length_append, List.length_map, List.length_map]
    exact Nat.not_lt.mpr two
  rw [constraintsOfRules, if_neg added, bind_ok]
  apply Iff.intro
  · rintro ⟨existing, made, rest⟩
    obtain ⟨names, rfl⟩ := existingRefs_ok.mp made
    rw [if_neg enough, bind_ok] at rest
    obtain ⟨later, madeLater, made⟩ := rest
    cases made
    refine ⟨names, later, madeLater, ?_⟩
    rw [addedRefs_eq only]
    rfl
  · rintro ⟨names, later, madeLater, rfl⟩
    refine ⟨_, existingRefs_ok.mpr ⟨names, rfl⟩, ?_⟩
    rw [if_neg enough, bind_ok]
    refine ⟨later, madeLater, ?_⟩
    rw [addedRefs_eq only]
    rfl

/-- At a rule that is not concerned the loop ends. -/
lemma constraintsOfRules_unconcerned (only : OnlyComputes addReses rule.1)
    (unconcerned : Concerned addReses vnfcs rule = false) :
    constraintsOfRules bestEffort addReses vnfcs key (rule :: rules) = .ok [] := by
  obtain ⟨targets, scope⟩ := rule
  have only : OnlyComputes addReses targets := only
  rw [constraintsOfRules]
  by_cases added : addedRefs targets addReses = []
  · rw [if_pos added]
  · rw [if_neg added]
    have one : 1 ≤ (addedOf addReses targets).length := by
      rw [addedRefs_eq only, List.map_eq_nil_iff] at added
      exact List.length_pos_of_ne_nil added
    have few : ¬ (1 ≤ (addedOf addReses targets).length ∧
        2 ≤ (addedOf addReses targets).length + (existingOf targets vnfcs).length) :=
      of_decide_eq_false unconcerned
    have noneExists : existingOf targets vnfcs = [] := by
      apply List.length_eq_zero_iff.mp
      omega
    have alone : (addedRefs targets addReses ++ []).length < 2 := by
      rw [addedRefs_eq only, List.append_nil, List.length_map]
      omega
    rw [noneExists]
    apply bind_ok.mpr
    refine ⟨[], rfl, ?_⟩
    rw [if_pos alone]
    rfl

/-- The loop makes the constraints of the leading rules, if the handles of their VNFCs name the
VIM connection. -/
lemma constraintsOfRules_ok (only : ∀ rule ∈ rules, OnlyComputes addReses rule.1) :
    constraintsOfRules bestEffort addReses vnfcs key rules = .ok plcConsts ↔
      (∀ rule ∈ rules.takeWhile (Concerned addReses vnfcs), ∀ vnfc ∈ existingOf rule.1 vnfcs,
        NamesConnection vnfc) ∧
      plcConsts = (rules.takeWhile (Concerned addReses vnfcs)).map
        (constraintOf bestEffort addReses vnfcs key) := by
  induction rules generalizing plcConsts with
  | nil =>
    apply Iff.intro
    · intro made
      cases made
      exact ⟨fun _ mem => absurd mem List.not_mem_nil, rfl⟩
    · rintro ⟨_, rfl⟩
      rfl
  | cons rule rules ih =>
    obtain ⟨onlyFirst, onlyRest⟩ := List.forall_mem_cons.mp only
    cases concerned : Concerned addReses vnfcs rule with
    | true =>
      rw [constraintsOfRules_concerned onlyFirst concerned, List.takeWhile_cons_of_pos concerned,
        List.forall_mem_cons, List.map_cons]
      apply Iff.intro
      · rintro ⟨names, later, madeLater, rfl⟩
        obtain ⟨namesLater, rfl⟩ := (ih onlyRest).mp madeLater
        exact ⟨⟨names, namesLater⟩, rfl⟩
      · rintro ⟨⟨names, namesLater⟩, rfl⟩
        exact ⟨names, _, (ih onlyRest).mpr ⟨namesLater, rfl⟩, rfl⟩
    | false =>
      rw [constraintsOfRules_unconcerned onlyFirst concerned,
        List.takeWhile_cons_of_neg (Bool.eq_false_iff.mp concerned)]
      apply Iff.intro
      · intro made
        cases made
        exact ⟨fun _ mem => absurd mem List.not_mem_nil, rfl⟩
      · rintro ⟨_, rfl⟩
        rfl

/-- No more constraints are made than there are rules that are concerned. -/
lemma length_constraintsOfRules_le (only : ∀ rule ∈ rules, OnlyComputes addReses rule.1)
    (made : constraintsOfRules bestEffort addReses vnfcs key rules = .ok plcConsts) :
    plcConsts.length ≤ (constraintsFor bestEffort addReses vnfcs key rules).length := by
  obtain ⟨_, rfl⟩ := (constraintsOfRules_ok only).mp made
  rw [constraintsFor, List.length_map, List.length_map]
  exact length_takeWhile_le _ rules

/-- As many constraints as rules that are concerned are made if and only if the rules can all have
their constraints. -/
lemma constraintsOfRules_all_iff (only : ∀ rule ∈ rules, OnlyComputes addReses rule.1) :
    (∃ plcConsts, constraintsOfRules bestEffort addReses vnfcs key rules = .ok plcConsts ∧
      (constraintsFor bestEffort addReses vnfcs key rules).length ≤ plcConsts.length) ↔
      Placeable addReses vnfcs rules := by
  apply Iff.intro
  · rintro ⟨plcConsts, made, le⟩
    obtain ⟨names, rfl⟩ := (constraintsOfRules_ok only).mp made
    rw [constraintsFor, List.length_map, List.length_map] at le
    have leading := leading_of_length_le le
    refine ⟨leading, ?_⟩
    intro rule mem concerned
    apply names rule
    rw [takeWhile_eq_filter_iff.mpr leading]
    exact List.mem_filter.mpr ⟨mem, concerned⟩
  · rintro ⟨leading, names⟩
    refine ⟨_, (constraintsOfRules_ok only).mpr ⟨?_, rfl⟩, ?_⟩
    · intro rule mem
      rw [takeWhile_eq_filter_iff.mpr leading] at mem
      obtain ⟨mem, concerned⟩ := List.mem_filter.mp mem
      exact names rule mem concerned
    · rw [takeWhile_eq_filter_iff.mpr leading]
      exact le_rfl

/-- The constraints that are made when the rules can all have theirs. -/
lemma constraintsOfRules_placeable (only : ∀ rule ∈ rules, OnlyComputes addReses rule.1)
    (placeable : Placeable addReses vnfcs rules) :
    constraintsOfRules bestEffort addReses vnfcs key rules =
      .ok (constraintsFor bestEffort addReses vnfcs key rules) := by
  obtain ⟨leading, names⟩ := placeable
  apply (constraintsOfRules_ok only).mpr
  rw [constraintsFor, takeWhile_eq_filter_iff.mpr leading]
  refine ⟨?_, rfl⟩
  intro rule mem
  obtain ⟨mem, concerned⟩ := List.mem_filter.mp mem
  exact names rule mem concerned

/-- One constraint for each rule of both kinds that is concerned. -/
def constraintsForAll (bestEffort : Bool) (flavour : Flavour) (addReses : List ResourceDefinition)
    (vnfcs : List VnfcResourceInfo) : List PlacementConstraint :=
  constraintsFor bestEffort addReses vnfcs .affinity (flavour.targets .affinity) ++
    constraintsFor bestEffort addReses vnfcs .antiAffinity (flavour.targets .antiAffinity)

/-- `_make_placementconstraints` makes one constraint for each rule that is concerned, if and only
if the rules of each kind can all have theirs. -/
theorem makePlacementconstraints_iff {flavour : Flavour}
    (only : ∀ key, ∀ rule ∈ flavour.targets key, OnlyComputes addReses rule.1) :
    (∃ plcConsts, makePlacementconstraints bestEffort flavour addReses vnfcs = .ok plcConsts ∧
      plcConsts.Perm (constraintsForAll bestEffort flavour addReses vnfcs)) ↔
      ∀ key, Placeable addReses vnfcs (flavour.targets key) := by
  apply Iff.intro
  · rintro ⟨plcConsts, made, perm⟩
    obtain ⟨affinity, madeAffinity, made⟩ := bind_ok.mp made
    obtain ⟨antiAffinity, madeAntiAffinity, made⟩ := bind_ok.mp made
    cases made
    have le := length_constraintsOfRules_le (only .affinity) madeAffinity
    have le' := length_constraintsOfRules_le (only .antiAffinity) madeAntiAffinity
    have lengths := perm.length_eq
    rw [constraintsForAll, List.length_append, List.length_append] at lengths
    intro key
    cases key with
    | affinity =>
      apply (constraintsOfRules_all_iff (only .affinity)).mp
      exact ⟨affinity, madeAffinity, by omega⟩
    | antiAffinity =>
      apply (constraintsOfRules_all_iff (only .antiAffinity)).mp
      exact ⟨antiAffinity, madeAntiAffinity, by omega⟩
  · intro placeable
    refine ⟨_, ?_, List.Perm.refl _⟩
    rw [makePlacementconstraints, constraintsOfRules_placeable (only .affinity) (placeable _),
      constraintsOfRules_placeable (only .antiAffinity) (placeable _)]
    rfl

end Tacker.Grant
