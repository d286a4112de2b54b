import Tacker.UserData.GrantRequests
import Tacker.UserData.VnfpkgRollback

/-!
# Contiguous indices

What the updates of the operations do to the VNFC resources of a template, and what the record that
is made of a stack has of them.
-/

namespace Tacker.UserData

open Tacker.Basis

/-! ## Operations with their requests -/

/-- An operation as it is requested; the grant request of a scale operation is made for it. -/
inductive LcmOp where
  | instantiate (flavourId : String) (req : Req) (grantReq : GrantReq) (grant : Grant)
  | scaleOut (aspectId : String) (numSteps : Nat) (newId : String → Nat → String) (req : Req)
      (grant : Grant)
  | scaleIn (aspectId : String) (numSteps : Nat) (newId : String → String)
  | heal (req : Req) (grantReq : GrantReq) (grant : Grant)
  | changeExtConn (req : Req) (grant : Grant)
  | changeVnfpkg (req : Req) (grantReq : GrantReq) (grant : Grant)

/-- The VDUs of a scale request. -/
def scaledNums (policies : Policies) (inst : Inst) (aspectId : String) : VduNums :=
  policies inst.vnfdId inst.flavourId aspectId

namespace LcmOp

/-- The operation as the infra driver gets it. -/
def toOp (policies : Policies) (inst : Inst) : LcmOp → Op
  | instantiate flavourId req grantReq grant => .instantiate flavourId req grantReq grant
  | scaleOut aspectId numSteps newId req grant =>
    .scaleOut req (makeScaleOutGrantRequest newId inst numSteps
      (scaledNums policies inst aspectId)) grant
  | scaleIn aspectId numSteps newId =>
    .scaleIn (makeScaleInGrantRequest newId inst numSteps (scaledNums policies inst aspectId))
  | heal req grantReq grant => .heal req grantReq grant
  | changeExtConn req grant => .changeExtConn req grant
  | changeVnfpkg req grantReq grant => .changeVnfpkg req grantReq grant

/-- The external managed links that the operation applies to the template. -/
def links : LcmOp → List ExtManagedVl
  | instantiate _ req _ grant => mgdVlsOfReq req grant
  | changeVnfpkg req _ grant => mgdVlsOfReq req grant
  | _ => []

end LcmOp

/-- An event of a run: an operation with its ending. -/
structure LcmEvent where
  op : LcmOp
  ending : Ending
  listed : List HeatRes := []
  extVirtualLinkInfo : List ExtVl := []
  extManagedVirtualLinkInfo : List ExtManagedVl := []

/-- The event as the infra driver sees it. -/
def LcmEvent.toEvent (policies : Policies) (inst : Inst) (e : LcmEvent) : Event where
  op := e.op.toOp policies inst
  ending := e.ending
  listed := e.listed
  extVirtualLinkInfo := e.extVirtualLinkInfo
  extManagedVirtualLinkInfo := e.extManagedVirtualLinkInfo

/-- One step of a run. -/
def LcmStep (csar : Csar) (policies : Policies) (s : State) (e : LcmEvent) (s' : State) : Prop :=
  HistoryStep csar s (e.toEvent policies s.inst) s'

/-! ## Packages -/

/-- The VDU of some package. -/
def IsVdu (csar : Csar) (vduName : String) : Prop :=
  ∃ vnfdId flavourId, vduName ∈ (csar vnfdId).vduNodes flavourId

/-- No link has the name of a VNFC resource. -/
def FreeLinks (csar : Csar) (vls : List ExtManagedVl) : Prop :=
  ∀ vl ∈ vls, ∀ vduName, IsVdu csar vduName → ∀ vduIdx,
    vl.vnfVirtualLinkDescId ≠ addIdx vduName vduIdx

/-- Packages for the standard class: no resource of a template but those of VNFCs has the name of
one, and a VDU is no subnet. -/
structure Packages (csar : Csar) : Prop where
  names : ∀ vnfdId flavourId p, popVdus (csar vnfdId) flavourId = .ok p →
    ∀ vduName, IsVdu csar vduName → ∀ vduIdx, resource p.hot (addIdx vduName vduIdx) = none
  types : ∀ vnfdId flavourId p, popVdus (csar vnfdId) flavourId = .ok p →
    ∀ vduName vdu, p.vdu vduName = .ok vdu →
      ∃ type, vdu.get? "type" = some (text type) ∧ type ≠ "OS::Neutron::Subnet"

/-! ## The invariant -/

/-- The template has the first resources of each VDU, as many as it is told. -/
def Indexed (csar : Csar) (template : Value) (count : String → Nat) : Prop :=
  ∀ vduName, IsVdu csar vduName → ∀ vduIdx,
    (resource template (addIdx vduName vduIdx)).isSome = true ↔ vduIdx < count vduName

/-- The VNFCs of a VDU have the indices from zero on, without gaps, in the stack and in the record,
where the highest one comes first. -/
structure Contiguous (csar : Csar) (s : State) : Prop where
  template : Indexed csar s.stack.template (getCurrentCapacity · s.inst)
  record : ∀ vduName, indicesOf vduName s.inst = downFrom (getCurrentCapacity vduName s.inst)

/-- What else runs keep. -/
structure Kept (csar : Csar) (s : State) : Prop where
  contiguous : Contiguous csar s
  nodes : ∀ vnfc ∈ s.inst.vnfcResourceInfo,
    vnfc.vduId ∈ (csar s.inst.vnfdId).vduNodes s.inst.flavourId
  ids : (s.inst.vnfcResourceInfo.map (·.resourceId)).Nodup
  links : FreeLinks csar s.inst.extManagedVirtualLinkInfo

lemma kept_new (csar : Csar) (vnfdId : String) : Kept csar (State.new vnfdId) := by
  constructor
  · constructor
    · intro vduName _ vduIdx
      show (none : Option Value).isSome = true ↔ vduIdx < 0
      simp
    · exact fun vduName => rfl
  · exact fun vnfc mem => by cases mem
  · exact List.nodup_nil
  · exact fun vl mem => by cases mem

/-! ## Templates -/

variable {csar : Csar}

/-- The type of a VDU resource is that of its VDU. -/
lemma type_of_isVduRes {p : Popped} {res : Value} (isVduRes : IsVduRes p res)
    (types : ∀ vduName vdu, p.vdu vduName = .ok vdu →
      ∃ type, vdu.get? "type" = some (text type) ∧ type ≠ "OS::Neutron::Subnet") :
    ∃ type, res.get? "type" = some (text type) ∧ type ≠ "OS::Neutron::Subnet" := by
  obtain ⟨vduName, vduIdx, vdu, found, made⟩ := isVduRes
  obtain ⟨type, got, ne⟩ := types vduName vdu found
  refine ⟨type, ?_, ne⟩
  obtain ⟨properties, -, made⟩ := bind_ok.mp made
  obtain ⟨keys, -, made⟩ := bind_ok.mp made
  obtain ⟨properties', -, made⟩ := bind_ok.mp made
  obtain rfl := pure_ok.mp made
  cases (vdu.get? "properties").isSome with
  | false => exact got
  | true =>
    rw [if_pos rfl, Json.get?_set (Json.isDict_of_get? got), if_neg (by simp)]
    exact got

/-- Links keep a resource that has none of their names and is no subnet. -/
lemma treatRes_keeps {name : Key} {vls : List ExtManagedVl} {res : Value} {left : Option Value}
    {type : String} (free : ∀ vl ∈ vls, name ≠ .str vl.vnfVirtualLinkDescId)
    (typed : res.get? "type" = some (text type)) (ne : type ≠ "OS::Neutron::Subnet")
    (eq : treatRes name vls res = .ok left) : ∃ v, left = some v ∧ v.isDict = true := by
  induction vls generalizing res with
  | nil =>
    cases eq
    exact ⟨res, rfl, Json.isDict_of_get? typed⟩
  | cons vl vls ih =>
    rw [treatRes] at eq
    obtain ⟨isSubnet, checked, eq⟩ := bind_ok.mp eq
    have notSubnet : ¬ isSubnet = true := by
      rw [isSubnetOf_ok checked, subnetNet, typed]
      have notType : asStr (some (text type)) ≠ some "OS::Neutron::Subnet" := by
        intro eq
        exact ne (Option.some.inj eq)
      rw [if_neg notType]
      exact fun eq => by cases eq
    have kept : ¬ (name = .str vl.vnfVirtualLinkDescId ∨ isSubnet = true) := by
      rintro (isName | isSubnet)
      · exact free vl List.mem_cons_self isName
      · exact notSubnet isSubnet
    rw [if_neg kept] at eq
    apply ih (fun vl mem => free vl (List.mem_cons_of_mem _ mem)) _ eq
    rw [get?_change, typed]
    rfl

/-- The template of a package with some VNFC resources and with links applied has those resources,
and they are dictionaries. -/
lemma built_resources (packages : Packages csar) {vnfdId flavourId : String} {p : Popped}
    {added : List (String × Nat)} {vls : List ExtManagedVl} {hot template : Value}
    (popped : popVdus (csar vnfdId) flavourId = .ok p) (addedEq : addAll p p.hot added = .ok hot)
    (applied : applyExtManagedVls hot vls = .ok template) (free : FreeLinks csar vls) :
    ∀ vduName, IsVdu csar vduName → ∀ vduIdx,
      ((vduName, vduIdx) ∈ added → ∃ v, resource template (addIdx vduName vduIdx) = some v ∧
        v.isDict = true) ∧
      ((vduName, vduIdx) ∉ added → resource template (addIdx vduName vduIdx) = none) := by
  obtain ⟨-, -, same, there⟩ := addAll_ok addedEq
  have treated := applyExtManagedVls_ok applied
  intro vduName isVdu vduIdx
  constructor
  · intro mem
    obtain ⟨res, found, isVduRes⟩ := there _ mem
    obtain ⟨type, typed, ne⟩ :=
      type_of_isVduRes isVduRes (packages.types vnfdId flavourId p popped)
    apply treatRes_keeps _ typed ne (treated.treated _ res found)
    intro vl mem eq
    exact free vl mem vduName isVdu vduIdx (Key.str.inj eq).symm
  · intro notMem
    apply treated.absent
    rw [same]
    · exact packages.names vnfdId flavourId p popped vduName isVdu vduIdx
    · rintro ⟨vduName', vduIdx'⟩ mem eq
      obtain ⟨rfl, rfl⟩ := addIdx_inj (Key.str.inj eq)
      exact notMem mem

/-- A built template has the first resources of each VDU if these are the ones that were added. -/
lemma built_indexed (packages : Packages csar) {vnfdId flavourId : String} {p : Popped}
    {added : List (String × Nat)} {vls : List ExtManagedVl} {hot template : Value}
    {count : String → Nat} (popped : popVdus (csar vnfdId) flavourId = .ok p)
    (addedEq : addAll p p.hot added = .ok hot)
    (applied : applyExtManagedVls hot vls = .ok template) (free : FreeLinks csar vls)
    (counts : ∀ vduName, IsVdu csar vduName → ∀ vduIdx,
      (vduName, vduIdx) ∈ added ↔ vduIdx < count vduName) : Indexed csar template count := by
  intro vduName isVdu vduIdx
  obtain ⟨there, gone⟩ := built_resources packages popped addedEq applied free vduName isVdu vduIdx
  rw [← counts vduName isVdu vduIdx]
  constructor
  · intro isSome
    by_contra notMem
    rw [gone notMem] at isSome
    cases isSome
  · intro mem
    obtain ⟨v, found, -⟩ := there mem
    rw [found]
    rfl

/-- The number of VNFCs of a VDU of the package that are added. -/
def addedCount (vduNodes : List String) (reses : List ResourceDef) (vduName : String) : Nat :=
  if vduName ∈ vduNodes then addedOf vduName reses else 0

lemma mem_added_iff {vduNodes : List String} {next : String → Nat} {reses : List ResourceDef}
    {vduName : String} {vduIdx : Nat} :
    (vduName, vduIdx) ∈ (numberVdus vduNodes next reses).map
        (fun res => (res.1.resourceTemplateId, res.2)) ↔
      next vduName ≤ vduIdx ∧ vduIdx < next vduName + addedCount vduNodes reses vduName := by
  have pairs : (vduName, vduIdx) ∈ (numberVdus vduNodes next reses).map
      (fun res => (res.1.resourceTemplateId, res.2)) ↔
      ∃ res ∈ numberVdus vduNodes next reses,
        res.1.resourceTemplateId = vduName ∧ res.2 = vduIdx := by
    rw [List.mem_map]
    apply exists_congr
    intro res
    rw [Prod.mk.injEq]
  rw [pairs, mem_numberVdus, addedCount]
  by_cases isNode : vduName ∈ vduNodes
  · rw [if_pos isNode]
    simp [isNode]
  · rw [if_neg isNode]
    simp only [isNode, false_and, false_iff]
    omega

/-- The template of an instantiation has as many resources of a VDU as are added. -/
lemma instantiate_indexed (packages : Packages csar) {flavourId : String} {req : Req} {inst : Inst}
    {grantReq : GrantReq} {grant : Grant} {fields : Fields}
    (eq : StandardUserData.instantiate csar flavourId req inst grantReq grant = .ok fields)
    (free : FreeLinks csar (mgdVlsOfReq req grant)) :
    Indexed csar (fields.template.getD .null)
      (addedCount ((csar inst.vnfdId).vduNodes flavourId) grantReq.addResources) := by
  rw [StandardUserData.instantiate] at eq
  obtain ⟨⟨added, hot⟩, addedEq, eq⟩ := bind_ok.mp eq
  obtain ⟨asked, -, eq⟩ := bind_ok.mp eq
  obtain ⟨vdus, -, eq⟩ := bind_ok.mp eq
  obtain ⟨cps, -, eq⟩ := bind_ok.mp eq
  obtain ⟨template, applied, eq⟩ := bind_ok.mp eq
  obtain rfl := pure_ok.mp eq
  rw [addedHot] at addedEq
  obtain ⟨p, popped, addedEq⟩ := bind_ok.mp addedEq
  obtain ⟨hot', hotEq, addedEq⟩ := bind_ok.mp addedEq
  obtain ⟨rfl, rfl⟩ := Prod.mk.inj (pure_ok.mp addedEq)
  rw [addHot_eq] at hotEq
  apply built_indexed packages popped hotEq applied free
  intro vduName _ vduIdx
  rw [mem_added_iff]
  omega

/-- The recorded indices are those that a rebuilt template gets. -/
lemma mem_recordedVdus {inst : Inst} {vduName : String} {vduIdx : Nat}
    (record : indicesOf vduName inst = downFrom (getCurrentCapacity vduName inst)) :
    (vduName, vduIdx) ∈ recordedVdus inst ↔ vduIdx < getCurrentCapacity vduName inst := by
  have isRecorded : (vduName, vduIdx) ∈ recordedVdus inst ↔
      some vduIdx ∈ indicesOf vduName inst := by
    rw [recordedVdus, List.mem_filterMap, indicesOf, List.mem_map]
    constructor
    · rintro ⟨vnfc, mem, eq⟩
      obtain ⟨i, idx, eq⟩ := Option.map_eq_some_iff.mp eq
      obtain ⟨rfl, rfl⟩ := Prod.mk.inj eq
      exact ⟨vnfc, List.mem_filter.mpr ⟨mem, decide_eq_true rfl⟩, idx⟩
    · rintro ⟨vnfc, mem, idx⟩
      obtain ⟨mem, ofVdu⟩ := List.mem_filter.mp mem
      refine ⟨vnfc, mem, ?_⟩
      rw [idx, Option.map_some, of_decide_eq_true ofVdu]
  rw [isRecorded, record, downFrom, List.mem_map]
  simp

/-- A template that is rebuilt from the record has the recorded VNFCs. -/
lemma rebuilt_indexed (packages : Packages csar) {vnfdId : String} {inst : Inst}
    {vls : List ExtManagedVl} {hot template : Value}
    (hotEq : instHot (csar vnfdId) inst = .ok hot)
    (applied : applyExtManagedVls hot vls = .ok template) (free : FreeLinks csar vls)
    (record : ∀ vduName, indicesOf vduName inst = downFrom (getCurrentCapacity vduName inst)) :
    Indexed csar template (getCurrentCapacity · inst) := by
  obtain ⟨p, popped, addedEq⟩ := instHot_ok hotEq
  apply built_indexed packages popped addedEq applied free
  intro vduName _ vduIdx
  exact mem_recordedVdus (record vduName)

/-- A scale-out adds the next resources of each VDU. -/
lemma scaleOut_indexed (packages : Packages csar) {req : Req} {inst : Inst} {grantReq : GrantReq}
    {grant : Grant} {fields : Fields} {stack : Stack}
    (eq : StandardUserData.scaleOut csar req inst grantReq grant = .ok fields)
    (free : FreeLinks csar inst.extManagedVirtualLinkInfo)
    (before : Indexed csar stack.template (getCurrentCapacity · inst)) :
    Indexed csar (updateFields stack fields).template fun vduName =>
      getCurrentCapacity vduName inst +
        addedCount ((csar inst.vnfdId).vduNodes inst.flavourId) grantReq.addResources vduName := by
  obtain ⟨p, hot, template, popped, hotEq, applied, laid⟩ := scaleOut_template eq
  rw [addHot_eq] at hotEq
  intro vduName isVdu vduIdx
  obtain ⟨there, gone⟩ := built_resources packages popped hotEq applied free vduName isVdu vduIdx
  rw [addedBy, mem_added_iff] at there gone
  rw [laid]
  have old := before vduName isVdu vduIdx
  by_cases mem : getCurrentCapacity vduName inst ≤ vduIdx ∧
      vduIdx < getCurrentCapacity vduName inst +
        addedCount ((csar inst.vnfdId).vduNodes inst.flavourId) grantReq.addResources vduName
  · obtain ⟨v, found, dict⟩ := there mem
    rw [found]
    refine ⟨fun _ => mem.2, fun _ => ?_⟩
    rw [laidOver, Json.patchAt, Json.isNull_of_isDict dict, if_neg Bool.false_ne_true]
    rfl
  · rw [gone mem]
    show (resource stack.template _).isSome = true ↔ _
    rw [old]
    show vduIdx < getCurrentCapacity vduName inst ↔ vduIdx < getCurrentCapacity vduName inst +
      addedCount ((csar inst.vnfdId).vduNodes inst.flavourId) grantReq.addResources vduName
    omega

/-- Deleting the resources of some indices leaves the others. -/
lemma deleting_indexed {template : Value} {count count' : String → Nat} {names : List String}
    (before : Indexed csar template count)
    (left : ∀ vduName, IsVdu csar vduName → ∀ vduIdx,
      vduIdx < count vduName ∧ addIdx vduName vduIdx ∉ names ↔ vduIdx < count' vduName) :
    Indexed csar (template.jsonMergePatch (StandardUserData.deleting names)) count' := by
  intro vduName isVdu vduIdx
  rw [resource_deleting, ← left vduName isVdu vduIdx, ← before vduName isVdu vduIdx]
  by_cases mem : addIdx vduName vduIdx ∈ names
  · rw [if_pos ⟨_, mem, rfl⟩]
    simp [mem]
  · have notMem : ¬ ∃ name ∈ names, Key.str (addIdx vduName vduIdx) = .str name := by
      rintro ⟨name, inNames, eq⟩
      rw [Key.str.inj eq] at mem
      exact mem inNames
    rw [if_neg notMem]
    simp [mem]

/-! ## The record after an operation -/

lemma indicesOf_absent {vduName : String} {inst : Inst}
    (absent : ∀ vnfc ∈ inst.vnfcResourceInfo, vnfc.vduId ≠ vduName) :
    indicesOf vduName inst = [] := by
  rw [indicesOf, List.map_eq_nil_iff, List.filter_eq_nil_iff]
  intro vnfc mem eq
  exact absent vnfc mem (of_decide_eq_true eq)

/-- A record that is made of what Heat reports has the VNFCs of the template. -/
lemma makeInfo_kept {e : Event} {vnfdId flavourId : String} {nfv : Value} {inst : Inst}
    {stack : Stack} {count : String → Nat} (made : e.makeInfo csar vnfdId flavourId nfv = .ok inst)
    (reports : HeatReports ((csar vnfdId).vduNodes flavourId) stack.template e.listed)
    (indexed : Indexed csar stack.template count)
    (others : ∀ vduName, vduName ∉ (csar vnfdId).vduNodes flavourId → count vduName = 0)
    (free : FreeLinks csar e.extManagedVirtualLinkInfo) :
    Kept csar ⟨inst, stack⟩ ∧ ∀ vduName, getCurrentCapacity vduName inst = count vduName := by
  obtain ⟨vnfcs, vnfcsEq, made⟩ := bind_ok.mp made
  obtain rfl := pure_ok.mp made
  have recorded := recorded_ok reports vnfcsEq
  have indices : ∀ vduName, indicesOf vduName
      { vnfdId := vnfdId, flavourId := flavourId, vnfcResourceInfo := vnfcs,
        extVirtualLinkInfo := e.extVirtualLinkInfo,
        extManagedVirtualLinkInfo := e.extManagedVirtualLinkInfo, nfv := nfv } =
      downFrom (count vduName) := by
    intro vduName
    by_cases isNode : vduName ∈ (csar vnfdId).vduNodes flavourId
    · apply indicesOf_recorded recorded isNode
      exact indexed vduName ⟨vnfdId, flavourId, isNode⟩
    · rw [others vduName isNode]
      apply indicesOf_absent
      intro vnfc mem eq
      exact isNode (eq ▸ (recorded.nodes vnfc mem).1)
  have capacities : ∀ vduName, getCurrentCapacity vduName
      { vnfdId := vnfdId, flavourId := flavourId, vnfcResourceInfo := vnfcs,
        extVirtualLinkInfo := e.extVirtualLinkInfo,
        extManagedVirtualLinkInfo := e.extManagedVirtualLinkInfo, nfv := nfv } =
      count vduName := by
    intro vduName
    rw [← length_indicesOf, indices]
    simp [downFrom]
  refine ⟨⟨⟨?_, ?_⟩, ?_, recorded.ids, free⟩, capacities⟩
  · intro vduName isVdu vduIdx
    show _ ↔ vduIdx < getCurrentCapacity vduName _
    rw [capacities]
    exact indexed vduName isVdu vduIdx
  · intro vduName
    show indicesOf vduName _ = downFrom (getCurrentCapacity vduName _)
    rw [capacities]
    exact indices vduName
  · exact fun vnfc mem => (recorded.nodes vnfc mem).1

/-! ## Updates -/

lemma heal_template {req : Req} {inst : Inst} {grantReq : GrantReq} {grant : Grant} {fields : Fields}
    (eq : StandardUserData.heal req inst grantReq grant = .ok fields) : fields.template = none := by
  obtain ⟨vdus, -, eq⟩ := bind_ok.mp eq
  obtain ⟨vdus', -, eq⟩ := bind_ok.mp eq
  obtain rfl := pure_ok.mp eq
  rfl

lemma changeExtConn_template {req : Req} {inst : Inst} {grant : Grant} {fields : Fields}
    (eq : StandardUserData.changeExtConn csar req inst grant = .ok fields) :
    fields.template = none := by
  obtain ⟨hot, -, eq⟩ := bind_ok.mp eq
  obtain ⟨nfv, -, eq⟩ := bind_ok.mp eq
  obtain ⟨cps, -, eq⟩ := bind_ok.mp eq
  obtain ⟨newCps, -, eq⟩ := bind_ok.mp eq
  obtain rfl := pure_ok.mp eq
  rfl

/-- Fields without a template leave the one of the stack. -/
lemma updateFields_template {fields : Fields} (none : fields.template = none) (stack : Stack) :
    (updateFields stack fields).template = stack.template := by
  simp [updateFields, updatePart, none]

/-- The template of a change of the package, and that the fields are full. -/
lemma changeVnfpkg_template {req : Req} {inst : Inst} {grantReq : GrantReq} {grant : Grant}
    {fields : Fields}
    (eq : StandardUserData.changeVnfpkg csar req inst grantReq grant = .ok fields) :
    fields.full = true ∧ ∃ hot template, instHot (csar grantReq.dstVnfdId) inst = .ok hot ∧
      applyExtManagedVls hot (mgdVlsOfReq req grant) = .ok template ∧
      fields.template = some template := by
  rw [StandardUserData.changeVnfpkg] at eq
  obtain ⟨hot, hotEq, eq⟩ := bind_ok.mp eq
  obtain ⟨curHot, -, eq⟩ := bind_ok.mp eq
  obtain ⟨newHot, -, eq⟩ := bind_ok.mp eq
  obtain ⟨curNfv, -, eq⟩ := bind_ok.mp eq
  obtain ⟨newNfv, -, eq⟩ := bind_ok.mp eq
  obtain ⟨newVdus, -, eq⟩ := bind_ok.mp eq
  obtain ⟨vdus, -, eq⟩ := bind_ok.mp eq
  obtain ⟨newNames, -, eq⟩ := bind_ok.mp eq
  obtain ⟨vdus', -, eq⟩ := bind_ok.mp eq
  obtain ⟨curCpsOfHot, -, eq⟩ := bind_ok.mp eq
  obtain ⟨newCpsOfHot, -, eq⟩ := bind_ok.mp eq
  obtain ⟨curCps, -, eq⟩ := bind_ok.mp eq
  obtain ⟨reqCps, -, eq⟩ := bind_ok.mp eq
  obtain ⟨cps, -, eq⟩ := bind_ok.mp eq
  obtain ⟨template, applied, eq⟩ := bind_ok.mp eq
  obtain rfl := pure_ok.mp eq
  exact ⟨rfl, hot, template, hotEq, applied, rfl⟩

lemma mem_of_vdu {p : Popped} {vduName : String} {vdu : Value} (found : p.vdu vduName = .ok vdu) :
    (vduName, vdu) ∈ p.vdus := by
  unfold Popped.vdu at found
  cases eq : p.vdus.find? fun vdu => vdu.1 = vduName with
  | none =>
    rw [eq] at found
    cases found
  | some vdu' =>
    rw [eq] at found
    cases found
    have isIt := List.find?_some eq
    have same : vdu'.1 = vduName := of_decide_eq_true isIt
    rw [← same]
    exact List.mem_of_find?_eq_some eq

/-- A VDU whose resource was taken out of the template is one of the package. -/
lemma popVdus_nodes {vnfd : Vnfd} {flavourId : String} {p : Popped} {vduName : String} {vdu : Value}
    (popped : popVdus vnfd flavourId = .ok p) (found : p.vdu vduName = .ok vdu) :
    vduName ∈ vnfd.vduNodes flavourId := by
  rw [popVdus] at popped
  cases base : vnfd.baseHot flavourId with
  | none =>
    rw [base] at popped
    cases popped
  | some topHot =>
    rw [base] at popped
    have all : ∀ vdu ∈ p.vdus, vdu.1 ∈ vnfd.vduNodes flavourId := by
      apply foldlM_ok_induct (P := fun p : Popped => ∀ vdu ∈ p.vdus, vdu.1 ∈ vnfd.vduNodes flavourId)
        _ _ popped
      · exact fun vdu mem => by cases mem
      · intro name isNode p p' before step vdu mem
        obtain ⟨resources, -, step⟩ := bind_ok.mp step
        obtain ⟨keys, -, step⟩ := bind_ok.mp step
        obtain ⟨res, -, step⟩ := bind_ok.mp step
        obtain rfl := pure_ok.mp step
        rcases List.mem_append.mp mem with mem | mem
        · exact before vdu mem
        · obtain rfl := List.mem_singleton.mp mem
          exact isNode
    exact all _ (mem_of_vdu found)

lemma addAll_vdu {p : Popped} {hot hot' : Value} {added : List (String × Nat)}
    (eq : addAll p hot added = .ok hot') : ∀ vdu ∈ added, ∃ v, p.vdu vdu.1 = .ok v := by
  induction added generalizing hot with
  | nil => exact fun vdu mem => by cases mem
  | cons first added ih =>
    obtain ⟨next, step, eq⟩ := foldlM_cons_ok.mp eq
    intro vdu mem
    rcases List.mem_cons.mp mem with rfl | mem
    · obtain ⟨v, found, -⟩ := bind_ok.mp step
      exact ⟨v, found⟩
    · exact ih eq vdu mem

/-- The VDUs of the recorded VNFCs are VDUs of every package that a template can be rebuilt from. -/
lemma capacity_of_instHot {vnfdId vduName : String} {inst : Inst} {hot : Value}
    (hotEq : instHot (csar vnfdId) inst = .ok hot)
    (record : indicesOf vduName inst = downFrom (getCurrentCapacity vduName inst))
    (notNode : vduName ∉ (csar vnfdId).vduNodes inst.flavourId) :
    getCurrentCapacity vduName inst = 0 := by
  obtain ⟨p, popped, addedEq⟩ := instHot_ok hotEq
  by_contra ne
  have mem := (mem_recordedVdus record).mpr (Nat.pos_of_ne_zero ne)
  obtain ⟨vdu, found⟩ := addAll_vdu addedEq _ mem
  exact notNode (popVdus_nodes popped found)

/-! ## Rolling updates -/

/-- The index of a recorded VNFC is one of the first. -/
lemma idx_of_record {inst : Inst} {vnfc : VnfcResourceInfo} (mem : vnfc ∈ inst.vnfcResourceInfo)
    (record : ∀ vduName, indicesOf vduName inst = downFrom (getCurrentCapacity vduName inst)) :
    ∃ vduIdx, vnfc.vduIdx = some vduIdx ∧ vduIdx < getCurrentCapacity vnfc.vduId inst := by
  have inIndices : vnfc.vduIdx ∈ indicesOf vnfc.vduId inst :=
    List.mem_map.mpr ⟨vnfc, List.mem_filter.mpr ⟨mem, decide_eq_true rfl⟩, rfl⟩
  rw [record, downFrom, List.mem_map] at inIndices
  obtain ⟨vduIdx, inRange, eq⟩ := inIndices
  exact ⟨vduIdx, eq.symm, by simpa using inRange⟩

/-- The base of a rolling update has the resources of the stack, and otherwise new ones only. -/
lemma baseTemplate_ok {orig new template : Value} (eq : baseTemplate orig new = .ok template)
    (key : Key) :
    ((resource template key).isSome = true →
      (resource orig key).isSome = true ∨ (resource new key).isSome = true) ∧
    ((resource orig key).isSome = true → (resource template key).isSome = true) := by
  obtain ⟨origReses, gotOrig, eq⟩ := bind_ok.mp eq
  obtain ⟨newReses, gotNew, eq⟩ := bind_ok.mp eq
  obtain rfl := pure_ok.mp eq
  have gotOrig := item_ok.mp gotOrig
  have gotNew := item_ok.mp gotNew
  have loop : ∀ (names : List Key) (start : Value),
      (∀ name ∈ names, (newReses.get? name).isSome = true) →
      (((names.foldl (fun t name => t.set name ((newReses.get? name).getD .null)) start).get?
          key).isSome = true → (start.get? key).isSome = true ∨ (newReses.get? key).isSome = true) ∧
      ((start.get? key).isSome = true → ((names.foldl (fun t name =>
        t.set name ((newReses.get? name).getD .null)) start).get? key).isSome = true) := by
    intro names
    induction names with
    | nil => exact fun start _ => ⟨Or.inl, id⟩
    | cons name names ih =>
      intro start new
      obtain ⟨isNew, rest⟩ := List.forall_mem_cons.mp new
      obtain ⟨out, stays⟩ := ih (start.set name ((newReses.get? name).getD .null)) rest
      rw [List.foldl_cons]
      cases dict : start.isDict with
      | false =>
        have same : start.set name ((newReses.get? name).getD .null) = start := by
          cases start with
          | obj ks unique value => cases dict
          | _ => rfl
        rw [same] at out stays ⊢
        exact ⟨out, stays⟩
      | true =>
        rw [Json.get?_set dict] at out stays
        by_cases isName : key = name
        · subst isName
          exact ⟨fun _ => Or.inr isNew, fun _ => stays (by rw [if_pos rfl]; rfl)⟩
        · rw [if_neg isName] at out stays
          exact ⟨out, stays⟩
  have names : ∀ name ∈ newReses.keys.filter (fun name => (origReses.get? name).isNone),
      (newReses.get? name).isSome = true := by
    intro name mem
    exact Json.mem_keys_iff.mp (List.mem_filter.mp mem).1
  have dict := Json.isDict_of_get? gotOrig
  rw [resource, Json.get?_set dict, if_pos rfl, Option.bind_some, resource_eq gotOrig,
    resource_eq gotNew]
  exact loop _ origReses names

/-- The update of one VNFC writes its resource. -/
lemma rollingUpdate_ok {fields : Fields} {stack next : Stack} {vnfc : VnfcResourceInfo}
    (eq : rollingUpdate fields stack vnfc = .ok next) :
    ∃ res, ∀ key, resource next.template key =
      if key = .str ((vnfc.vduIdx.map (addIdx vnfc.vduId)).getD vnfc.vduId) then some res
      else resource stack.template key := by
  obtain ⟨resources, -, eq⟩ := bind_ok.mp eq
  obtain ⟨targetRes, -, eq⟩ := bind_ok.mp eq
  obtain ⟨template, templateEq, eq⟩ := bind_ok.mp eq
  obtain ⟨thirdKeys, -, eq⟩ := bind_ok.mp eq
  obtain ⟨nfv, -, eq⟩ := bind_ok.mp eq
  obtain ⟨nfv', -, eq⟩ := bind_ok.mp eq
  obtain rfl := pure_ok.mp eq
  obtain ⟨-, -, -, get⟩ := setRes_ok templateEq
  exact ⟨targetRes, get⟩

/-- The update of recorded VNFCs keeps which VNFCs there are. -/
lemma rollingUpdates_indexed {fields : Fields} {stack : Stack} {vnfcs : List VnfcResourceInfo}
    {updates : List Stack} {count : String → Nat}
    (eq : rollingUpdates fields stack vnfcs = .ok updates)
    (recorded : ∀ vnfc ∈ vnfcs, ∃ vduIdx, vnfc.vduIdx = some vduIdx ∧ vduIdx < count vnfc.vduId)
    (before : Indexed csar stack.template count) :
    ∀ next ∈ updates, Indexed csar next.template count := by
  induction vnfcs generalizing stack updates with
  | nil =>
    cases eq
    exact fun next mem => by cases mem
  | cons vnfc vnfcs ih =>
    obtain ⟨next, step, eq⟩ := bind_ok.mp eq
    obtain ⟨rest, restEq, eq⟩ := bind_ok.mp eq
    obtain rfl := pure_ok.mp eq
    obtain ⟨res, get⟩ := rollingUpdate_ok step
    obtain ⟨vduIdx, idx, lt⟩ := recorded vnfc List.mem_cons_self
    have after : Indexed csar next.template count := by
      intro vduName isVdu vduIdx'
      rw [get, idx, Option.map_some, Option.getD_some]
      by_cases same : Key.str (addIdx vduName vduIdx') = .str (addIdx vnfc.vduId vduIdx)
      · obtain ⟨rfl, rfl⟩ := addIdx_inj (Key.str.inj same)
        rw [if_pos rfl]
        exact ⟨fun _ => lt, fun _ => rfl⟩
      · rw [if_neg same]
        exact before vduName isVdu vduIdx'
    intro next' mem
    rcases List.mem_cons.mp mem with rfl | mem
    · exact after
    · exact ih restEq (fun vnfc mem => recorded vnfc (List.mem_cons_of_mem _ mem)) after next' mem

/-- All updates of a change of the package keep which VNFCs there are. -/
lemma changeVnfpkg_indexed (packages : Packages csar) {s : State} {req : Req} {grantReq : GrantReq}
    {grant : Grant} {updates : List Stack} (kept : Kept csar s)
    (free : FreeLinks csar (mgdVlsOfReq req grant))
    (eq : (Op.changeVnfpkg req grantReq grant).updates csar s.inst s.stack = .ok updates) :
    (∀ next ∈ updates, Indexed csar next.template (getCurrentCapacity · s.inst)) ∧
      updates ≠ [] ∧ ∃ hot, instHot (csar grantReq.dstVnfdId) s.inst = .ok hot := by
  obtain ⟨fields, fieldsEq, eq⟩ := bind_ok.mp eq
  obtain ⟨base, baseEq, eq⟩ := bind_ok.mp eq
  obtain ⟨rolling, rollingEq, eq⟩ := bind_ok.mp eq
  obtain rfl := pure_ok.mp eq
  obtain ⟨full, hot, template, hotEq, applied, templateEq⟩ := changeVnfpkg_template fieldsEq
  have indexed := rebuilt_indexed packages hotEq applied free kept.contiguous.record
  refine ⟨fun next mem => ?_, by simp, hot, hotEq⟩
  rcases List.mem_append.mp mem with mem | mem
  · apply rollingUpdates_indexed rollingEq _ _ next mem
    · intro vnfc target
      exact idx_of_record (List.mem_filter.mp target).1 kept.contiguous.record
    · intro vduName isVdu vduIdx
      rw [templateEq, Option.getD_some] at baseEq
      obtain ⟨out, stays⟩ := baseTemplate_ok baseEq (.str (addIdx vduName vduIdx))
      have old := kept.contiguous.template vduName isVdu vduIdx
      have new := indexed vduName isVdu vduIdx
      constructor
      · intro isSome
        rcases out isSome with isSome | isSome
        · exact old.mp isSome
        · exact new.mp isSome
      · intro lt
        exact stays (old.mpr lt)
  · obtain rfl := List.mem_singleton.mp mem
    have same : (updateFields s.stack fields).template = template := by
      simp [updateFields, updatePart, templateEq, full]
    rw [same]
    exact indexed

end Tacker.UserData
