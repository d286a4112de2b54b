import Tacker.UserData.VduResources
import Tacker.UserData.VnfpkgRollback

/-!
# The stack after a scale-out is rolled back

A scale-out of the standard class lays the rebuilt template of the package over the one of the
stack, and its rollback deletes the resources of the added indices by their names. The default class
writes the capacities of all VDUs, in both steps from the VNFCs that the instance records.
-/

namespace Tacker.UserData

open Tacker.Basis

/-- The stack when the scale-out fails, after its update was submitted or before. -/
def midway (cls : UserDataClass) (csar : Csar) (req : Req) (inst : Inst) (grantReq : GrantReq)
    (grant : Grant) (submitted : Bool) (stack : Stack) : Except Raised Stack :=
  if submitted then updateFields stack <$> cls.scaleOut csar req inst grantReq grant
  else return stack

/-- The stack when the scale-out fails, and the one after the rollback. -/
def scaleAndRollBack (cls : UserDataClass) (csar : Csar) (req : Req) (inst : Inst)
    (grantReq : GrantReq) (grant : Grant) (submitted : Bool) (stack : Stack) :
    Except Raised (Stack × Stack) := do
  let mid ← midway cls csar req inst grantReq grant submitted stack
  let fields ← cls.scaleRollback csar inst grantReq
  return (mid, updateFields mid fields)

/-! ## The standard class -/

/-- The name is that of a resource that the scale-out adds. -/
def IsAdded (csar : Csar) (inst : Inst) (grantReq : GrantReq) (key : Key) : Prop :=
  ∃ name ∈ namesOf (addedBy csar inst grantReq), key = .str name

instance {csar : Csar} {inst : Inst} {grantReq : GrantReq} {key : Key} :
    Decidable (IsAdded csar inst grantReq key) :=
  inferInstanceAs (Decidable (∃ name ∈ _, key = .str name))

/-- The stack has the resources that it had, and those that are not added were not touched. -/
def ResourcesRestored (csar : Csar) (inst : Inst) (grantReq : GrantReq) (before mid after : Stack) :
    Prop :=
  (∀ key, Option.Rel Json.Same (resource after.template key) (resource before.template key)) ∧
    ∀ key, ¬ IsAdded csar inst grantReq key →
      Option.Rel Json.Same (resource mid.template key) (resource before.template key)

/-- The names of the added resources are free in the stack, and if the update is submitted, what the
package has under the recorded links besides the VDUs is in the stack already. -/
def AddsOnlyNew (csar : Csar) (inst : Inst) (grantReq : GrantReq) (submitted : Bool)
    (stack : Stack) : Prop :=
  (∀ key, IsAdded csar inst grantReq key → resource stack.template key = none) ∧
    (submitted = true → ∀ p, popVdus (csar inst.vnfdId) inst.flavourId = .ok p →
      ∀ key res left, ¬ IsAdded csar inst grantReq key → resource p.hot key = some res →
        treatRes key inst.extManagedVirtualLinkInfo res = .ok (some left) →
        Json.Holds (resource stack.template key) left)

/-- What a scale-out leaves of the resources that it does not add. -/
lemma standard_mid {csar : Csar} {req : Req} {inst : Inst} {grantReq : GrantReq} {grant : Grant}
    {fields : Fields}
    (eq : StandardUserData.scaleOut csar req inst grantReq grant = .ok fields) (stack : Stack) :
    ∃ p, popVdus (csar inst.vnfdId) inst.flavourId = .ok p ∧
      ∀ key, ¬ IsAdded csar inst grantReq key →
        (resource p.hot key = none →
          resource (updateFields stack fields).template key = resource stack.template key) ∧
        ∀ res, resource p.hot key = some res → ∃ left,
          treatRes key inst.extManagedVirtualLinkInfo res = .ok left ∧
          resource (updateFields stack fields).template key =
            laidOver (resource stack.template key) left := by
  obtain ⟨p, hot, template, popped, hotEq, templateEq, laid⟩ := scaleOut_template eq
  obtain ⟨-, -, same, -⟩ := addHot_ok hotEq
  have treated := applyExtManagedVls_ok templateEq
  refine ⟨p, popped, fun key notAdded => ?_⟩
  have source : resource hot key = resource p.hot key :=
    same key fun name mem eq => notAdded ⟨name, mem, eq⟩
  rw [laid, ← source]
  refine ⟨fun absent => by rw [treated.absent key absent]; rfl, fun res found => ?_⟩
  exact ⟨_, treated.treated key res found, rfl⟩

/-- The rollback of the standard class restores the resources of the stack exactly if the names that
are added are free and the package's other resources are there already. -/
lemma standard_restored_iff {csar : Csar} {req : Req} {inst : Inst} {grantReq : GrantReq}
    {grant : Grant} {submitted : Bool} {before mid after : Stack}
    (eq : scaleAndRollBack .standard csar req inst grantReq grant submitted before =
      .ok (mid, after)) :
    ResourcesRestored csar inst grantReq before mid after ↔
      AddsOnlyNew csar inst grantReq submitted before := by
  obtain ⟨mid', midEq, eq⟩ := bind_ok.mp eq
  obtain ⟨back, backEq, eq⟩ := bind_ok.mp eq
  obtain ⟨rfl, rfl⟩ := Prod.mk.inj (pure_ok.mp eq)
  have restored : ∀ key, resource (updateFields mid' back).template key =
      if IsAdded csar inst grantReq key then none else resource mid'.template key := by
    intro key
    rw [scaleRollback_template backEq mid' key]
    rfl
  have untouched : (∀ key, ¬ IsAdded csar inst grantReq key →
        Option.Rel Json.Same (resource mid'.template key) (resource before.template key)) ↔
      (submitted = true → ∀ p, popVdus (csar inst.vnfdId) inst.flavourId = .ok p →
        ∀ key res left, ¬ IsAdded csar inst grantReq key → resource p.hot key = some res →
          treatRes key inst.extManagedVirtualLinkInfo res = .ok (some left) →
          Json.Holds (resource before.template key) left) := by
    cases submitted with
    | false =>
      obtain rfl := pure_ok.mp midEq
      exact ⟨fun _ isTrue => (by cases isTrue), fun _ key _ => Json.same_rel_refl _⟩
    | true =>
      obtain ⟨fields, fieldsEq, rfl⟩ := map_ok.mp midEq
      obtain ⟨p, popped, laid⟩ := standard_mid fieldsEq before
      constructor
      · intro all _ p' popped' key res left notAdded found treated
        rw [popped] at popped'
        cases popped'
        obtain ⟨left', treated', midEq⟩ := (laid key notAdded).2 res found
        rw [treated] at treated'
        cases treated'
        have rel := all key notAdded
        rw [midEq] at rel
        exact Json.same_patchAt_iff.mp rel
      · intro all key notAdded
        cases found : resource p.hot key with
        | none =>
          rw [(laid key notAdded).1 found]
          exact Json.same_rel_refl _
        | some res =>
          obtain ⟨left, treated, midEq⟩ := (laid key notAdded).2 res found
          rw [midEq]
          cases left with
          | none => exact Json.same_rel_refl _
          | some v => exact Json.same_patchAt_iff.mpr (all rfl p popped key res v notAdded found treated)
  rw [ResourcesRestored, AddsOnlyNew, ← untouched]
  constructor
  · rintro ⟨all, others⟩
    refine ⟨fun key added => ?_, others⟩
    have rel := all key
    rw [restored, if_pos added] at rel
    generalize resource before.template key = old at rel
    cases rel
    rfl
  · rintro ⟨free, others⟩
    refine ⟨fun key => ?_, others⟩
    rw [restored]
    by_cases added : IsAdded csar inst grantReq key
    · rw [if_pos added, free key added]
      exact .none
    · rw [if_neg added]
      exact others key added

/-! ## The default class -/

/-- The keys that lead to the capacity of a VDU. -/
def capacityPath (vduName : Key) : List Key :=
  ["VDU", vduName, "desired_capacity"]

/-- The parameters of the VDUs that the template of the package takes from `nfv`. -/
def templateVdus (csar : Csar) (inst : Inst) : Except Raised Value := do
  let nfvDict ← baseNfvDict (csar inst.vnfdId) inst.flavourId
  getOrEmpty nfvDict "VDU"

/-- The number of VNFCs that the instance records. -/
def recordedCapacity (inst : Inst) : Key → Int
  | .str vduName => getCurrentCapacity vduName inst
  | _ => 0

/-- The scale-out changes the number of VNFCs of the VDU. -/
def IsScaled (grantReq : GrantReq) (vduName : Key) : Prop :=
  ∃ res ∈ grantReq.addResources ++ grantReq.removeResources,
    res.type = "COMPUTE" ∧ vduName = .str res.resourceTemplateId

/-- Every VDU has the capacity that it had, and those that are not scaled were not touched. -/
def CapacitiesRestored (grantReq : GrantReq) (before mid after : Stack) : Prop :=
  (∀ vduName, Option.Rel Json.Same (after.nfv.at? (capacityPath vduName))
    (before.nfv.at? (capacityPath vduName))) ∧
    ∀ vduName, ¬ IsScaled grantReq vduName →
      Option.Rel Json.Same (mid.nfv.at? (capacityPath vduName))
        (before.nfv.at? (capacityPath vduName))

/-- Every VDU whose capacity the template takes from `nfv` has as many VNFCs recorded as the stack
has for its capacity. -/
def CapacitiesRecorded (csar : Csar) (inst : Inst) (stack : Stack) : Prop :=
  ∀ vdus, templateVdus csar inst = .ok vdus → ∀ vduName vduValue, vdus.get? vduName = some vduValue →
    (vduValue.get? "desired_capacity").isSome = true →
      stack.nfv.at? (capacityPath vduName) = some (.atom (.int (recordedCapacity inst vduName)))

/-- The capacities that a step of the default class writes. -/
lemma newCapacities_ok {capacity : String → Int} {vdus newVdus : Value}
    (eq : DefaultUserData.newCapacities capacity vdus = .ok newVdus) :
    newVdus.isDict = true ∧
      (∀ vduName vduValue, vdus.get? vduName = some vduValue →
        (vduValue.get? "desired_capacity").isSome = true → ∃ count,
          (∀ name, vduName = .str name → count = capacity name) ∧
          ((∀ name, vduName ≠ .str name) → count = 0) ∧
          newVdus.get? vduName =
            some ((.empty : Value).set "desired_capacity" (.atom (.int count)))) ∧
      ∀ vduName, (∀ vduValue, vdus.get? vduName = some vduValue →
        (vduValue.get? "desired_capacity").isSome = false) → newVdus.get? vduName = none := by
  obtain ⟨names, keys, eq⟩ := bind_ok.mp eq
  obtain ⟨-, rfl⟩ := keysOf_ok.mp keys
  obtain ⟨dict, made, absent⟩ := Json.buildDict_ok eq
  refine ⟨dict, fun vduName vduValue found asks => ?_, fun vduName notAsked => ?_⟩
  · have mem : vduName ∈ vdus.keys := by rw [Json.mem_keys_iff, found]; rfl
    obtain ⟨value, got, step⟩ := bind_ok.mp (made vduName mem)
    rw [item_ok.mp got] at found
    cases found
    obtain ⟨has, asked, step⟩ := bind_ok.mp step
    obtain ⟨-, rfl⟩ := hasKey_ok.mp asked
    rw [asks, if_pos rfl] at step
    have eq := (pure_ok.mp step).symm
    refine ⟨_, ?_, ?_, eq⟩
    · rintro name rfl
      rfl
    · intro noText
      cases vduName with
      | str name => exact absurd rfl (noText name)
      | _ => rfl
  · by_cases mem : vduName ∈ vdus.keys
    · obtain ⟨value, got, step⟩ := bind_ok.mp (made vduName mem)
      obtain ⟨has, asked, step⟩ := bind_ok.mp step
      obtain ⟨-, rfl⟩ := hasKey_ok.mp asked
      rw [notAsked value (item_ok.mp got), if_neg Bool.false_ne_true] at step
      exact (pure_ok.mp step).symm
    · exact absent vduName mem

/-- The capacities after a step of the default class: those that the template takes from `nfv` are
written, the others are kept. -/
lemma default_capacity {csar : Csar} {inst : Inst} {capacity : String → Int} {nfv : Value}
    (eq : DefaultUserData.scaleFields csar inst capacity = .ok nfv) (stack : Stack) :
    ∃ vdus, templateVdus csar inst = .ok vdus ∧
      (∀ vduName vduValue, vdus.get? vduName = some vduValue →
        (vduValue.get? "desired_capacity").isSome = true → ∃ count,
          (∀ name, vduName = .str name → count = capacity name) ∧
          ((∀ name, vduName ≠ .str name) → count = 0) ∧
          (updateFields stack (nfvField nfv)).nfv.at? (capacityPath vduName) =
            some (.atom (.int count))) ∧
      ∀ vduName, (∀ vduValue, vdus.get? vduName = some vduValue →
        (vduValue.get? "desired_capacity").isSome = false) →
        (updateFields stack (nfvField nfv)).nfv.at? (capacityPath vduName) =
          stack.nfv.at? (capacityPath vduName) := by
  obtain ⟨nfvDict, base, eq⟩ := bind_ok.mp eq
  obtain ⟨vdus, vdusEq, eq⟩ := bind_ok.mp eq
  obtain ⟨newVdus, newEq, eq⟩ := bind_ok.mp eq
  obtain rfl := pure_ok.mp eq
  obtain ⟨dict, written, kept⟩ := newCapacities_ok newEq
  have notNull := Json.isNull_of_isDict dict
  refine ⟨vdus, bind_ok.mpr ⟨nfvDict, base, vdusEq⟩, ?_, ?_⟩
  · intro vduName vduValue found asks
    obtain ⟨count, ofStr, ofOther, entry⟩ := written vduName vduValue found asks
    refine ⟨count, ofStr, ofOther, ?_⟩
    show (stack.nfv.jsonMergePatch ((.empty : Value).set "VDU" newVdus)).at? _ = _
    rw [capacityPath, Json.at?_cons, Json.get?_jsonMergePatch_single notNull, if_pos rfl,
      Option.bind_some, Json.at?_cons, Json.get?_jsonMergePatch_some dict entry rfl,
      Option.bind_some, Json.at?_cons, Json.get?_jsonMergePatch_single rfl, if_pos rfl,
      Option.bind_some, Json.at?_nil, Json.jsonMergePatch_value rfl]
  · intro vduName notAsked
    show (stack.nfv.jsonMergePatch ((.empty : Value).set "VDU" newVdus)).at? _ = _
    rw [capacityPath, Json.at?_cons, Json.get?_jsonMergePatch_single notNull, if_pos rfl,
      Option.bind_some, Json.at?_cons, Json.get?_jsonMergePatch_none dict (kept vduName notAsked),
      Json.get?_asDict, Json.get?_asDict, Json.at?_cons]
    cases stack.nfv.get? "VDU" with
    | none => rfl
    | some v => rw [Option.getD_some, Option.bind_some, Json.at?_cons]

/-- A VDU that is not scaled keeps its capacity in the grant request. -/
lemma getParamCapacity_of_not_isScaled {inst : Inst} {grantReq : GrantReq} {vduName : String}
    (notScaled : ¬ IsScaled grantReq (.str vduName)) :
    getParamCapacity vduName inst grantReq = getCurrentCapacity vduName inst := by
  have none : ∀ reses : List ResourceDef, (∀ res ∈ reses,
      res ∈ grantReq.addResources ++ grantReq.removeResources) →
      reses.countP (fun res => decide (res.type = "COMPUTE" ∧ res.resourceTemplateId = vduName)) =
        0 := by
    intro reses within
    apply List.countP_eq_zero.mpr
    intro res mem isOf
    obtain ⟨compute, template⟩ := of_decide_eq_true isOf
    exact notScaled ⟨res, within res mem, compute, by rw [template]⟩
  rw [getParamCapacity, none _ fun res mem => List.mem_append_left _ mem,
    none _ fun res mem => List.mem_append_right _ mem]
  simp

/-- The rollback of the default class restores the capacities exactly if they were those that the
instance records. -/
lemma default_restored_iff {csar : Csar} {req : Req} {inst : Inst} {grantReq : GrantReq}
    {grant : Grant} {submitted : Bool} {before mid after : Stack}
    (eq : scaleAndRollBack .default csar req inst grantReq grant submitted before =
      .ok (mid, after)) :
    CapacitiesRestored grantReq before mid after ↔ CapacitiesRecorded csar inst before := by
  obtain ⟨mid', midEq, eq⟩ := bind_ok.mp eq
  obtain ⟨back, backEq, eq⟩ := bind_ok.mp eq
  obtain ⟨rfl, rfl⟩ := Prod.mk.inj (pure_ok.mp eq)
  obtain ⟨nfv, nfvEq, rfl⟩ := map_ok.mp backEq
  obtain ⟨vdus, vdusEq, written, kept⟩ := default_capacity nfvEq mid'
  have isRecorded : ∀ vduName count,
      (∀ name, vduName = .str name → count = (getCurrentCapacity name inst : Int)) →
      ((∀ name, vduName ≠ .str name) → count = 0) → count = recordedCapacity inst vduName := by
    intro vduName count ofStr ofOther
    cases vduName with
    | str name => exact ofStr name rfl
    | _ => exact ofOther fun name same => by cases same
  have atMid : ∀ vduName, (∀ vduValue, vdus.get? vduName = some vduValue →
      (vduValue.get? "desired_capacity").isSome = false) →
      mid'.nfv.at? (capacityPath vduName) = before.nfv.at? (capacityPath vduName) := by
    intro vduName notAsked
    cases submitted with
    | false =>
      obtain rfl := pure_ok.mp midEq
      rfl
    | true =>
      obtain ⟨fields, fieldsEq, rfl⟩ := map_ok.mp midEq
      obtain ⟨nfv', nfvEq', rfl⟩ := map_ok.mp fieldsEq
      obtain ⟨vdus', vdusEq', -, kept'⟩ := default_capacity nfvEq' before
      rw [vdusEq] at vdusEq'
      cases vdusEq'
      exact kept' vduName notAsked
  have midScaled : ∀ vduName vduValue, vdus.get? vduName = some vduValue →
      (vduValue.get? "desired_capacity").isSome = true → ¬ IsScaled grantReq vduName →
      before.nfv.at? (capacityPath vduName) = some (.atom (.int (recordedCapacity inst vduName))) →
      mid'.nfv.at? (capacityPath vduName) = some (.atom (.int (recordedCapacity inst vduName))) := by
    intro vduName vduValue found asks notScaled recorded
    cases submitted with
    | false =>
      obtain rfl := pure_ok.mp midEq
      exact recorded
    | true =>
      obtain ⟨fields, fieldsEq, rfl⟩ := map_ok.mp midEq
      obtain ⟨nfv', nfvEq', rfl⟩ := map_ok.mp fieldsEq
      obtain ⟨vdus', vdusEq', written', -⟩ := default_capacity nfvEq' before
      rw [vdusEq] at vdusEq'
      cases vdusEq'
      obtain ⟨count, ofStr, ofOther, eq⟩ := written' vduName vduValue found asks
      rw [eq, isRecorded vduName count ?_ ofOther]
      rintro name rfl
      rw [ofStr name rfl, getParamCapacity_of_not_isScaled notScaled]
  constructor
  · rintro ⟨all, -⟩ vdus' vdusEq' vduName vduValue found asks
    rw [vdusEq] at vdusEq'
    cases vdusEq'
    obtain ⟨count, ofStr, ofOther, eq⟩ := written vduName vduValue found asks
    have rel := all vduName
    rw [eq, isRecorded vduName count ofStr ofOther] at rel
    generalize before.nfv.at? (capacityPath vduName) = old at rel
    cases rel with
    | @some _ old same =>
      cases old with
      | atom a => exact congrArg _ (congrArg _ (show Scalar.int _ = a from same).symm)
      | _ => cases same
  · intro restores
    have known : ∀ vduName, (∀ vduValue, vdus.get? vduName = some vduValue →
        (vduValue.get? "desired_capacity").isSome = false) ∨ ∃ vduValue,
        vdus.get? vduName = some vduValue ∧
          (vduValue.get? "desired_capacity").isSome = true := by
      intro vduName
      by_cases asks : ∃ vduValue, vdus.get? vduName = some vduValue ∧
          (vduValue.get? "desired_capacity").isSome = true
      · exact Or.inr asks
      · refine Or.inl fun vduValue found => ?_
        cases isSome : (vduValue.get? "desired_capacity").isSome with
        | false => rfl
        | true => exact absurd ⟨vduValue, found, isSome⟩ asks
    refine ⟨fun vduName => ?_, fun vduName notScaled => ?_⟩
    · rcases known vduName with notAsked | ⟨vduValue, found, asks⟩
      · rw [kept vduName notAsked, atMid vduName notAsked]
        exact Json.same_rel_refl _
      · obtain ⟨count, ofStr, ofOther, eq⟩ := written vduName vduValue found asks
        rw [eq, restores vdus vdusEq vduName vduValue found asks,
          isRecorded vduName count ofStr ofOther]
        exact Json.same_rel_refl _
    · rcases known vduName with notAsked | ⟨vduValue, found, asks⟩
      · rw [atMid vduName notAsked]
        exact Json.same_rel_refl _
      · have recorded := restores vdus vdusEq vduName vduValue found asks
        rw [midScaled vduName vduValue found asks notScaled recorded, recorded]
        exact Json.same_rel_refl _

/-! ## Both classes -/

/-- What the rollback of a scale-out is for. -/
def ScaleRestored (cls : UserDataClass) (csar : Csar) (inst : Inst) (grantReq : GrantReq)
    (before mid after : Stack) : Prop :=
  match cls with
  | .default => CapacitiesRestored grantReq before mid after
  | .standard => ResourcesRestored csar inst grantReq before mid after

/-- When the rollback of a scale-out restores the stack. -/
def ScaleRestores (cls : UserDataClass) (csar : Csar) (inst : Inst) (grantReq : GrantReq)
    (submitted : Bool) (before : Stack) : Prop :=
  match cls with
  | .default => CapacitiesRecorded csar inst before
  | .standard => AddsOnlyNew csar inst grantReq submitted before

/-- The rollback of a scale-out, from any point, gives the resources or the capacities of the stack
back exactly if the class restores them. -/
theorem scale_rollback_iff (cls : UserDataClass) (csar : Csar) (req : Req) (inst : Inst)
    (grantReq : GrantReq) (grant : Grant) (submitted : Bool) (before mid after : Stack)
    (eq : scaleAndRollBack cls csar req inst grantReq grant submitted before = .ok (mid, after)) :
    ScaleRestored cls csar inst grantReq before mid after ↔
      ScaleRestores cls csar inst grantReq submitted before := by
  cases cls with
  | default => exact default_restored_iff eq
  | standard => exact standard_restored_iff eq

/-- An instance on the internal network of the package. -/
def instantiateInternal : Event where
  op := .instantiate "simple" {} { addResources := [⟨"def-0", "COMPUTE", "VDU1", ""⟩] } {}
  ending := .completed
  listed := vdu1Listed

/-- A change of the package that replaces the internal network; the record of the links is that of
the instance. -/
def changeToManaged : Event where
  op := .changeVnfpkg { extManagedVirtualLinks := [⟨"internalVL", "net-9"⟩] } replaceVdu1 {}
  ending := .completed
  listed := vdu1Listed

/-- The instance after the change. -/
def changedInst : Reached fun _ => internalVlVnfd :=
  .of "vnfd" [instantiateInternal, changeToManaged] rfl

/-- One more VNFC. -/
def oneMore : GrantReq where
  addResources := [⟨"def-2", "COMPUTE", "VDU1", ""⟩]

lemma changedInst_rolledBack :
    ∃ mid after, scaleAndRollBack .standard (fun _ => internalVlVnfd) {} changedInst.state.inst oneMore
        {} true changedInst.state.stack = .ok (mid, after) ∧
      (resource after.template "internalVL").isSome = true := by
  have returned : (scaleAndRollBack .standard (fun _ => internalVlVnfd) {} changedInst.state.inst
      oneMore {} true changedInst.state.stack).toOption.map
      (fun both => (resource both.2.template "internalVL").isSome) = some true := rfl
  obtain ⟨⟨mid, after⟩, eq, isSome⟩ := Option.map_eq_some_iff.mp returned
  exact ⟨mid, after, toOption_eq_some.mp eq, isSome⟩

/-- `scale_rollback_iff` for this instance. -/
theorem scale_rollback_changedInst :
    ∃ mid after, scaleAndRollBack .standard (fun _ => internalVlVnfd) {} changedInst.state.inst oneMore
        {} true changedInst.state.stack = .ok (mid, after) ∧
      (ScaleRestored .standard (fun _ => internalVlVnfd) changedInst.state.inst oneMore
          changedInst.state.stack mid after ↔
        ScaleRestores .standard (fun _ => internalVlVnfd) changedInst.state.inst oneMore true
          changedInst.state.stack) := by
  obtain ⟨mid, after, eq, -⟩ := changedInst_rolledBack
  exact ⟨mid, after, eq, scale_rollback_iff .standard _ {} _ oneMore {} true _ mid after eq⟩

/-- The internal network that the instance does not use any more is there after the rollback. -/
theorem unused_network_returns :
    ∃ mid after, scaleAndRollBack .standard (fun _ => internalVlVnfd) {} changedInst.state.inst oneMore
        {} true changedInst.state.stack = .ok (mid, after) ∧
      ¬ ScaleRestored .standard (fun _ => internalVlVnfd) changedInst.state.inst oneMore
        changedInst.state.stack mid after := by
  obtain ⟨mid, after, eq, returned⟩ := changedInst_rolledBack
  refine ⟨mid, after, eq, fun restored => ?_⟩
  have rel := restored.1 "internalVL"
  have gone : (resource changedInst.state.stack.template "internalVL").isSome = false := rfl
  generalize resource after.template "internalVL" = network,
    resource changedInst.state.stack.template "internalVL" = network' at rel returned gone
  cases rel with
  | none => cases returned
  | some same => cases gone

end Tacker.UserData
