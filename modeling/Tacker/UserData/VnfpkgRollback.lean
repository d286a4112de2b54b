import Tacker.UserData.LinkEffects
import Tacker.UserData.History

/-!
# The template after a change of the package is rolled back

The rollback of a change of the package builds the template anew from the package and the VNFCs of
the instance. It applies the external managed links of the request and the grant that failed, where
the template before was made with those that the instance records.
-/

namespace Tacker.UserData

open Tacker.Basis

/-! ## Two lists of links -/

/-- Two lists of links make the same of a resource of the template. -/
structure TreatedAlike (vls vls' : List ExtManagedVl) (name : Key) (res : Value) : Prop where
  /-- Both delete it, or both keep it and map the links that it refers to to the same networks. -/
  alike : HotRes res → (Deletes vls name res ↔ Deletes vls' name res) ∧
    (¬ Deletes vls name res →
      ∀ vlName, RefersTo vlName res → networkOf vls vlName = networkOf vls' vlName)
  /-- A resource that Heat does not accept is compared as it is left. -/
  other : ¬ HotRes res → ∀ left left', treatRes name vls res = .ok left →
    treatRes name vls' res = .ok left' → Option.Rel Json.Same left left'

lemma treatedAlike_iff {vls vls' : List ExtManagedVl} {name : Key} {res : Value}
    {left left' : Option Value} (eq : treatRes name vls res = .ok left)
    (eq' : treatRes name vls' res = .ok left') :
    Option.Rel Json.Same left left' ↔ TreatedAlike vls vls' name res := by
  by_cases hot : HotRes res
  · obtain ⟨deleted, kept⟩ := treatRes_ok hot eq
    obtain ⟨deleted', kept'⟩ := treatRes_ok hot eq'
    have alike : Option.Rel Json.Same left left' ↔
        (Deletes vls name res ↔ Deletes vls' name res) ∧ (¬ Deletes vls name res →
          ∀ vlName, RefersTo vlName res → networkOf vls vlName = networkOf vls' vlName) := by
      by_cases deletes : Deletes vls name res
      · rw [deleted deletes]
        by_cases deletes' : Deletes vls' name res
        · rw [deleted' deletes']
          simp [deletes, deletes']
        · obtain ⟨v', eq, -⟩ := kept' deletes'
          rw [eq]
          simp [deletes, deletes']
      · obtain ⟨v, eq, same⟩ := kept deletes
        rw [eq]
        by_cases deletes' : Deletes vls' name res
        · rw [deleted' deletes']
          simp [deletes, deletes']
        · obtain ⟨v', eq', same'⟩ := kept' deletes'
          rw [eq', Option.rel_some_some, ← same_rewrite_iff]
          simp only [deletes, deletes', not_false_eq_true, true_imp_iff, true_and]
          exact ⟨fun rel => same.symm.trans (rel.trans same'),
            fun rel => same.trans (rel.trans same'.symm)⟩
    rw [alike]
    exact ⟨fun all => ⟨fun _ => all, fun notHot => absurd hot notHot⟩, fun all => all.alike hot⟩
  · refine ⟨fun rel => ⟨fun isHot => absurd isHot hot, fun _ l l' eq₁ eq₂ => ?_⟩,
      fun all => all.other hot left left' eq eq'⟩
    rw [eq] at eq₁
    rw [eq'] at eq₂
    cases eq₁
    cases eq₂
    exact rel

/-- The templates that two lists of links make of one are the same exactly if both make the same of
each resource. -/
lemma same_applied_iff {vls vls' : List ExtManagedVl} {hot a b : Value}
    (left : applyExtManagedVls hot vls = .ok a) (right : applyExtManagedVls hot vls' = .ok b) :
    a.Same b ↔ ∀ name res, resource hot name = some res → TreatedAlike vls vls' name res := by
  have left := applyExtManagedVls_ok left
  have right := applyExtManagedVls_ok right
  rw [left.same_iff right]
  apply forall_congr'
  intro name
  cases found : resource hot name with
  | none =>
    rw [left.absent name found, right.absent name found]
    simp
  | some res =>
    simp only [Option.some.injEq, forall_eq']
    exact treatedAlike_iff (left.treated name res found) (right.treated name res found)

/-! ## The rollback -/

/-- The template of the package with a resource for each VNFC of the instance and with the external
managed links that the instance records. -/
def recordedTemplate (csar : Csar) (inst : Inst) : Except Raised Value := do
  let topHot ← instHot (csar inst.vnfdId) inst
  applyExtManagedVlsFromInst topHot inst

/-- The template is the one that the instance records. -/
def IsRecorded (csar : Csar) (inst : Inst) (template : Value) : Prop :=
  ∃ recorded, recordedTemplate csar inst = .ok recorded ∧ template.Same recorded

/-- The links of the request and the grant make the same of every resource of the template as the
recorded ones. -/
def LinksAgree (csar : Csar) (inst : Inst) (req : Req) (grant : Grant) : Prop :=
  ∀ hot, instHot (csar inst.vnfdId) inst = .ok hot → ∀ name res, resource hot name = some res →
    TreatedAlike (mgdVlsOfReq req grant) inst.extManagedVirtualLinkInfo name res

/-- The template that the rollback submits. -/
lemma changeVnfpkgRollback_ok {csar : Csar} {req : Req} {inst : Inst} {grant : Grant}
    {fields : Fields}
    (eq : StandardUserData.changeVnfpkgRollback csar req inst grant = .ok fields) (stack : Stack) :
    ∃ hot template, instHot (csar inst.vnfdId) inst = .ok hot ∧
      applyExtManagedVlsFromReq hot req grant = .ok template ∧
      (updateFields stack fields).template = template := by
  rw [StandardUserData.changeVnfpkgRollback] at eq
  obtain ⟨hot, hotEq, eq⟩ := bind_ok.mp eq
  obtain ⟨template, templateEq, eq⟩ := bind_ok.mp eq
  obtain rfl := pure_ok.mp eq
  exact ⟨hot, template, hotEq, templateEq, rfl⟩

/-- What a change of the package that is rolled back leaves in the stack. -/
lemma rolledBack_template {csar : Csar} {s after : State} {req : Req} {grantReq : GrantReq}
    {grant : Grant} {e : Event} {reached : Nat} (op : e.op = .changeVnfpkg req grantReq grant)
    (ending : e.ending = .rolledBack reached) (step : HistoryStep csar s e after) :
    ∃ hot, instHot (csar s.inst.vnfdId) s.inst = .ok hot ∧
      applyExtManagedVlsFromReq hot req grant = .ok after.stack.template := by
  obtain ⟨updates, -, step⟩ := bind_ok.mp step
  rw [ending] at step
  obtain ⟨fields, fieldsEq, step⟩ := bind_ok.mp step
  obtain ⟨inst, -, step⟩ := bind_ok.mp step
  obtain rfl := pure_ok.mp step
  rw [op] at fieldsEq
  obtain ⟨hot, template, hotEq, templateEq, rfl⟩ := changeVnfpkgRollback_ok fieldsEq
    (reachedStack s.stack updates reached)
  exact ⟨hot, hotEq, templateEq⟩

/-- A change of the package that is rolled back, from any point, leaves the template that was there
before and that the instance records exactly if it was the recorded one and the links of the request
and the grant make the same of it as the recorded ones. -/
theorem vnfpkg_rollback_template_iff (csar : Csar) (h : Reached csar) (req : Req)
    (grantReq : GrantReq) (grant : Grant) (e : Event) (reached : Nat) (after : State)
    (op : e.op = .changeVnfpkg req grantReq grant) (ending : e.ending = .rolledBack reached)
    (step : HistoryStep csar h.state e after) :
    after.stack.template.Same h.state.stack.template ∧
        IsRecorded csar h.state.inst after.stack.template ↔
      IsRecorded csar h.state.inst h.state.stack.template ∧
        LinksAgree csar h.state.inst req grant := by
  obtain ⟨hot, hotEq, templateEq⟩ := rolledBack_template op ending step
  have agree : ∀ recorded, recordedTemplate csar h.state.inst = .ok recorded →
      (after.stack.template.Same recorded ↔ LinksAgree csar h.state.inst req grant) := by
    intro recorded eq
    obtain ⟨hot', hotEq', eq⟩ := bind_ok.mp eq
    rw [hotEq] at hotEq'
    cases hotEq'
    rw [same_applied_iff templateEq eq]
    refine ⟨fun all hot' hotEq' => ?_, fun all => all hot hotEq⟩
    rw [hotEq] at hotEq'
    cases hotEq'
    exact all
  constructor
  · rintro ⟨back, recorded, eq, same⟩
    exact ⟨⟨recorded, eq, back.symm.trans same⟩, (agree recorded eq).mp same⟩
  · rintro ⟨⟨recorded, eq, before⟩, links⟩
    have same := (agree recorded eq).mpr links
    exact ⟨same.trans before.symm, recorded, eq, same⟩

/-! ### A package with an internal network -/

/-- A reference to a resource of the template. -/
def getResource (name : String) : Value :=
  .dict [("get_resource", text name)]

/-- The base HOT of a package with one VDU on an internal network. -/
def internalVlHot : Value :=
  .dict [("resources", .dict
    [("VDU1", .dict
      [("type", text "VDU1.yaml"),
        ("properties", .dict
          [("zone", getParamOf ["nfv", "VDU", "VDU1", "locationConstraints"]),
            ("net", getResource "internalVL")])]),
      ("internalVL", .dict [("type", text "OS::Neutron::Net")]),
      ("internalVL_subnet", .dict
        [("type", text "OS::Neutron::Subnet"),
          ("properties", .dict [("network", getResource "internalVL")])])])]

/-- The package with the internal network. -/
def internalVlVnfd : Vnfd where
  vduNodes _ := ["VDU1"]
  baseHot _ := some internalVlHot
  computeFlavor _ _ := none
  swImage _ := []

/-- The server of the VNFC and its resource in the stack. -/
def vdu1Listed : List HeatRes :=
  [⟨"VDU1", "OS::Nova::Server", "server-0", some "VDU1-0", 0⟩,
    ⟨"VDU1-0", "VDU1.yaml", "stack-0", none, 0⟩]

/-- An instance whose internal network is an external managed one, as is recorded. -/
def instantiateManaged : Event where
  op := .instantiate "simple" { extManagedVirtualLinks := [⟨"internalVL", "net-9"⟩] }
    { addResources := [⟨"def-0", "COMPUTE", "VDU1", ""⟩] } {}
  ending := .completed
  listed := vdu1Listed
  extManagedVirtualLinkInfo := [⟨"internalVL", "net-9"⟩]

/-- The instance on the external managed network. -/
def managedInst : Reached fun _ => internalVlVnfd :=
  .of "vnfd" [instantiateManaged] rfl

/-- The grant request that replaces the VNFC. -/
def replaceVdu1 : GrantReq where
  removeResources := [⟨"def-1", "COMPUTE", "VDU1", "server-0"⟩]
  dstVnfdId := "vnfd"

/-- A change of the package without links that fails after the first update and is rolled back. -/
def rolledBackVnfpkg : Event where
  op := .changeVnfpkg {} replaceVdu1 {}
  ending := .rolledBack 1
  listed := vdu1Listed
  extManagedVirtualLinkInfo := [⟨"internalVL", "net-9"⟩]

lemma managedInst_rolledBack :
    ∃ after, HistoryStep (fun _ => internalVlVnfd) managedInst.state rolledBackVnfpkg after ∧
      (resource after.stack.template "internalVL").isSome = true := by
  have returned : (managedInst.state.after (fun _ => internalVlVnfd) rolledBackVnfpkg).toOption.map
      (fun after => (resource after.stack.template "internalVL").isSome) = some true := rfl
  obtain ⟨after, eq, isSome⟩ := Option.map_eq_some_iff.mp returned
  exact ⟨after, toOption_eq_some.mp eq, isSome⟩

/-- The template of the instance is the one that it records. -/
lemma managedInst_isRecorded :
    IsRecorded (fun _ => internalVlVnfd) managedInst.state.inst managedInst.state.stack.template :=
  ⟨_, rfl, Json.Same.refl _⟩

/-- `vnfpkg_rollback_template_iff` for this change. -/
theorem vnfpkg_rollback_managed :
    ∃ after, HistoryStep (fun _ => internalVlVnfd) managedInst.state rolledBackVnfpkg after ∧
      (after.stack.template.Same managedInst.state.stack.template ∧
          IsRecorded (fun _ => internalVlVnfd) managedInst.state.inst after.stack.template ↔
        IsRecorded (fun _ => internalVlVnfd) managedInst.state.inst
            managedInst.state.stack.template ∧
          LinksAgree (fun _ => internalVlVnfd) managedInst.state.inst {} {}) := by
  obtain ⟨after, step, -⟩ := managedInst_rolledBack
  exact ⟨after, step, vnfpkg_rollback_template_iff _ managedInst {} replaceVdu1 {} rolledBackVnfpkg 1
    after rfl rfl step⟩

/-- The internal network that the external managed one replaces is back after the rollback. -/
theorem internal_network_returns :
    ∃ after, HistoryStep (fun _ => internalVlVnfd) managedInst.state rolledBackVnfpkg after ∧
      IsRecorded (fun _ => internalVlVnfd) managedInst.state.inst
        managedInst.state.stack.template ∧
      ¬ after.stack.template.Same managedInst.state.stack.template := by
  obtain ⟨after, step, returned⟩ := managedInst_rolledBack
  refine ⟨after, step, managedInst_isRecorded, fun same => ?_⟩
  have rel := rel_bind_get? (same.get? "resources") "internalVL"
  change Option.Rel Json.Same (resource after.stack.template "internalVL")
    (resource managedInst.state.stack.template "internalVL") at rel
  have gone : (resource managedInst.state.stack.template "internalVL").isSome = false := rfl
  generalize resource after.stack.template "internalVL" = network,
    resource managedInst.state.stack.template "internalVL" = network' at rel returned gone
  cases rel with
  | none => cases returned
  | some same => cases gone

end Tacker.UserData
