import Tacker.UserData.Contiguous

/-!
# The indices of VNFCs over runs of operations

Three places count VNFCs on their own: the user data class numbers the resources that it adds, the
infra driver maps the grant to them, and the LCM driver selects the VNFCs that a scale-in removes.
They agree as long as the indices of every VDU are contiguous in the stack and in the record.
-/

namespace Tacker.UserData

open Tacker.Basis

/-! ## Steps -/

/-- A scale-out adds VNFCs only to VDUs that have some, and a scale-in removes some from each VDU
that has any. -/
def ScaleMeets (policies : Policies) (inst : Inst) : LcmOp → Prop
  | .scaleOut aspectId numSteps _ _ _ => ∀ vdu ∈ (scaledNums policies inst aspectId).nums,
    0 < vdu.2 * numSteps → 0 < getCurrentCapacity vdu.1 inst
  | .scaleIn aspectId numSteps _ => ∀ vdu ∈ (scaledNums policies inst aspectId).nums,
    0 < vdu.2 * numSteps ∨ getCurrentCapacity vdu.1 inst = 0
  | _ => True

/-- The operation changes which VNFCs the template has. -/
def LcmOp.changesVnfcs : LcmOp → Bool
  | instantiate .. => true
  | scaleOut .. => true
  | scaleIn .. => true
  | _ => false

/-- The record is made anew at the end. -/
def LcmEvent.records (e : LcmEvent) : Bool :=
  match e.ending with
  | .completed => true
  | .failed _ => false
  | .rolledBack _ => match e.op with
    | .scaleOut .. => false
    | _ => true

/-- What is asked of a step: no link that is applied or recorded has the name of a VNFC resource, a
scale request is about VDUs that can be scaled, and an operation that changes the VNFCs does not
fail for good after its update was submitted. -/
structure Meets (csar : Csar) (policies : Policies) (step : State × LcmEvent) : Prop where
  links : FreeLinks csar step.2.op.links
  recorded : FreeLinks csar step.2.extManagedVirtualLinkInfo
  scales : ScaleMeets policies step.1.inst step.2.op
  ending : ∀ reached, step.2.ending = .failed reached →
    reached = 0 ∨ step.2.op.changesVnfcs = false

/-- Heat lists what is in the stack when the record is made. -/
def HeatTells (csar : Csar) (policies : Policies) (step : State × LcmEvent) : Prop :=
  step.2.records = true → ∀ s', LcmStep csar policies step.1 step.2 s' →
    HeatReports ((csar s'.inst.vnfdId).vduNodes s'.inst.flavourId) s'.stack.template step.2.listed

/-- What a scale-out of `k` VNFCs does to a VDU with `n` of them: it creates the resources with the
indices from `n` to `n + k - 1`, for which the zones are reselected and each of which gets the zone
that the grant has for its definition, and if it completes, `n + k` VNFCs are recorded. -/
structure ScaleOutLaw (csar : Csar) (policies : Policies) (s : State) (e : LcmEvent) (s' : State)
    (aspectId : String) (numSteps : Nat) (grantReq : GrantReq) (grant : Grant) : Prop where
  created : ∀ vduName vduIdx, addIdx vduName vduIdx ∈ namesOf (addedBy csar s.inst grantReq) ↔
    getCurrentCapacity vduName s.inst ≤ vduIdx ∧ vduIdx < getCurrentCapacity vduName s.inst +
      (scaledNums policies s.inst aspectId).of vduName numSteps
  reselected : ∀ vduName vduIdx, addIdx vduName vduIdx ∈ getAdditionalVduId grantReq s.inst ↔
    getCurrentCapacity vduName s.inst ≤ vduIdx ∧ vduIdx < getCurrentCapacity vduName s.inst +
      (scaledNums policies s.inst aspectId).of vduName numSteps
  zones : ∀ res ∈ addedBy csar s.inst grantReq,
    zoneOf grant (addedBy csar s.inst grantReq) (addIdx res.1.resourceTemplateId res.2) =
      .ok (getParamZoneByVnfc res.1.id grant)
  completed : e.ending = .completed → ∀ vduName, getCurrentCapacity vduName s'.inst =
    getCurrentCapacity vduName s.inst + (scaledNums policies s.inst aspectId).of vduName numSteps

/-- What a scale-in of `k` VNFCs does to a VDU with `n` of them: it deletes the resources with the
`k` highest indices, and if it completes, `n - k` VNFCs are recorded. -/
structure ScaleInLaw (policies : Policies) (s : State) (e : LcmEvent) (s' : State)
    (aspectId : String) (numSteps : Nat) (grantReq : GrantReq) : Prop where
  deleted : ∃ names, StandardUserData.removedNames s.inst none grantReq.removeResources = .ok names ∧
    ∀ vduName vduIdx, addIdx vduName vduIdx ∈ names ↔
      getCurrentCapacity vduName s.inst - (scaledNums policies s.inst aspectId).of vduName numSteps ≤
        vduIdx ∧ vduIdx < getCurrentCapacity vduName s.inst
  completed : e.ending = .completed → ∀ vduName, getCurrentCapacity vduName s'.inst =
    getCurrentCapacity vduName s.inst - (scaledNums policies s.inst aspectId).of vduName numSteps

/-- What the scale operations do to the VNFCs. -/
def StepLaw (csar : Csar) (policies : Policies) (s : State) (e : LcmEvent) (s' : State) : Prop :=
  match e.op with
  | .scaleOut aspectId numSteps newId _ grant =>
    ScaleOutLaw csar policies s e s' aspectId numSteps
      (makeScaleOutGrantRequest newId s.inst numSteps (scaledNums policies s.inst aspectId)) grant
  | .scaleIn aspectId numSteps newId =>
    ScaleInLaw policies s e s' aspectId numSteps
      (makeScaleInGrantRequest newId s.inst numSteps (scaledNums policies s.inst aspectId))
  | _ => True

variable {csar : Csar} {policies : Policies} {s s' : State} {e : LcmEvent}

/-- What an ending makes of the updates that an operation submits. -/
lemma after_ok {event : Event} (step : HistoryStep csar s event s') :
    ∃ updates, event.op.updates csar s.inst s.stack = .ok updates ∧
      ((event.ending = .completed ∧ s'.stack = updates.getLastD s.stack ∧
          event.makeInfo csar (event.op.vnfdId s.inst) (event.op.flavourId s.inst) s'.stack.nfv =
            .ok s'.inst) ∨
        (∃ reached, event.ending = .failed reached ∧ s'.inst = s.inst ∧
          s'.stack = reachedStack s.stack updates reached) ∨
        ∃ reached fields, event.ending = .rolledBack reached ∧
          event.op.rollbackFields csar s.inst = .ok fields ∧
          s'.stack = updateFields (reachedStack s.stack updates reached) fields ∧
          event.rolledBackInst csar s.inst s'.stack.nfv = .ok s'.inst) := by
  obtain ⟨updates, updatesEq, step⟩ := bind_ok.mp step
  refine ⟨updates, updatesEq, ?_⟩
  cases ending : event.ending with
  | completed =>
    rw [ending] at step
    obtain ⟨inst, made, step⟩ := bind_ok.mp step
    obtain rfl := pure_ok.mp step
    exact Or.inl ⟨rfl, rfl, made⟩
  | failed reached =>
    rw [ending] at step
    obtain rfl := pure_ok.mp step
    exact Or.inr (Or.inl ⟨reached, rfl, rfl, rfl⟩)
  | rolledBack reached =>
    rw [ending] at step
    obtain ⟨fields, fieldsEq, step⟩ := bind_ok.mp step
    obtain ⟨inst, made, step⟩ := bind_ok.mp step
    obtain rfl := pure_ok.mp step
    exact Or.inr (Or.inr ⟨reached, fields, rfl, fieldsEq, rfl, made⟩)

/-- The stack that was reached is the one before or that of an update. -/
lemma reachedStack_mem (stack : Stack) (updates : List Stack) (reached : Nat) :
    reachedStack stack updates reached = stack ∨ reachedStack stack updates reached ∈ updates := by
  rw [reachedStack, List.getLastD_eq_getLast?]
  cases last : (updates.take reached).getLast? with
  | none => exact Or.inl rfl
  | some next => exact Or.inr (List.mem_of_mem_take (List.mem_of_getLast? last))

/-- A record that is kept, with a stack that has the same VNFCs. -/
lemma Kept.ofStack {stack : Stack} (kept : Kept csar s)
    (indexed : Indexed csar stack.template (getCurrentCapacity · s.inst)) :
    Kept csar ⟨s.inst, stack⟩ :=
  ⟨⟨indexed, kept.contiguous.record⟩, kept.nodes, kept.ids, kept.links⟩

lemma capacity_of_not_node (kept : Kept csar s) {vduName : String}
    (notNode : vduName ∉ (csar s.inst.vnfdId).vduNodes s.inst.flavourId) :
    getCurrentCapacity vduName s.inst = 0 := by
  rw [getCurrentCapacity, List.countP_eq_zero]
  intro vnfc mem eq
  exact notNode (of_decide_eq_true eq ▸ kept.nodes vnfc mem)

/-- The record that is made at the end of a step. -/
lemma recorded_kept {event : Event} {vnfdId flavourId : String} {count : String → Nat}
    (made : event.makeInfo csar vnfdId flavourId s'.stack.nfv = .ok s'.inst)
    (reports : HeatReports ((csar s'.inst.vnfdId).vduNodes s'.inst.flavourId) s'.stack.template
      event.listed)
    (indexed : Indexed csar s'.stack.template count)
    (others : ∀ vduName, vduName ∉ (csar vnfdId).vduNodes flavourId → count vduName = 0)
    (free : FreeLinks csar event.extManagedVirtualLinkInfo) :
    Kept csar s' ∧ ∀ vduName, getCurrentCapacity vduName s'.inst = count vduName := by
  have made' := made
  obtain ⟨vnfcs, -, made'⟩ := bind_ok.mp made'
  have instEq := pure_ok.mp made'
  have ids : s'.inst.vnfdId = vnfdId ∧ s'.inst.flavourId = flavourId := by
    rw [← instEq]
    exact ⟨rfl, rfl⟩
  rw [ids.1, ids.2] at reports
  exact makeInfo_kept made reports indexed others free

/-- A step that ends with a record of the VNFCs that were there. -/
lemma same_kept {event : Event} (kept : Kept csar s)
    (made : event.makeInfo csar s.inst.vnfdId s.inst.flavourId s'.stack.nfv = .ok s'.inst)
    (reports : HeatReports ((csar s'.inst.vnfdId).vduNodes s'.inst.flavourId) s'.stack.template
      event.listed)
    (indexed : Indexed csar s'.stack.template (getCurrentCapacity · s.inst))
    (free : FreeLinks csar event.extManagedVirtualLinkInfo) : Kept csar s' :=
  (recorded_kept made reports indexed (fun _ notNode => capacity_of_not_node kept notNode) free).1

/-- A step that fails before its first update changes nothing. -/
lemma failed_kept {updates : List Stack} (kept : Kept csar s) (instEq : s'.inst = s.inst)
    (stackEq : s'.stack = reachedStack s.stack updates 0) : Kept csar s' := by
  have same : s' = s := by
    cases s
    cases s'
    cases instEq
    cases stackEq
    rfl
  rw [same]
  exact kept

lemma instantiate_step (packages : Packages csar) {flavourId : String} {req : Req}
    {grantReq : GrantReq} {grant : Grant} (op : e.op = .instantiate flavourId req grantReq grant)
    (kept : Kept csar s) (meets : Meets csar policies (s, e)) (heat : HeatTells csar policies (s, e))
    (step : LcmStep csar policies s e s') : Kept csar s' := by
  have free := meets.links
  have failing := meets.ending
  simp only [op, LcmOp.links, LcmOp.changesVnfcs, Bool.true_eq_false, or_false] at free failing
  obtain ⟨updates, updatesEq, ends⟩ := after_ok step
  simp only [LcmEvent.toEvent, op, LcmOp.toOp] at updatesEq ends
  obtain ⟨fields, fieldsEq, updatesEq⟩ := bind_ok.mp updatesEq
  obtain rfl := pure_ok.mp updatesEq
  rcases ends with ⟨ending, stackEq, made⟩ | ⟨reached, ending, instEq, stackEq⟩ |
    ⟨reached, back, ending, backEq, -, -⟩
  · have indexed := instantiate_indexed packages fieldsEq free
    have reports := heat (by simp [LcmEvent.records, ending]) s' step
    have after : Indexed csar s'.stack.template
        (addedCount ((csar s.inst.vnfdId).vduNodes flavourId) grantReq.addResources) := by
      rw [stackEq]
      exact indexed
    exact (recorded_kept made reports after (fun _ notNode => if_neg notNode) meets.recorded).1
  · rw [failing reached ending] at stackEq
    exact failed_kept kept instEq stackEq
  · cases backEq

/-- An operation whose updates leave the template alone, at an ending without a rollback. -/
lemma template_kept (event : Event) {update : Stack} (kept : Kept csar s)
    (same : update.template = s.stack.template)
    (free : FreeLinks csar event.extManagedVirtualLinkInfo)
    (reports : event.ending = .completed →
      HeatReports ((csar s'.inst.vnfdId).vduNodes s'.inst.flavourId) s'.stack.template event.listed)
    (ends : (event.ending = .completed ∧ s'.stack = [update].getLastD s.stack ∧
        event.makeInfo csar s.inst.vnfdId s.inst.flavourId s'.stack.nfv = .ok s'.inst) ∨
      ∃ reached, event.ending = .failed reached ∧ s'.inst = s.inst ∧
        s'.stack = reachedStack s.stack [update] reached) : Kept csar s' := by
  rcases ends with ⟨ending, stackEq, made⟩ | ⟨reached, ending, instEq, stackEq⟩
  · apply same_kept kept made (reports ending) _ free
    rw [stackEq]
    show Indexed csar update.template _
    rw [same]
    exact kept.contiguous.template
  · have indexed : Indexed csar s'.stack.template (getCurrentCapacity · s.inst) := by
      rw [stackEq]
      rcases reachedStack_mem s.stack [update] reached with eq | mem
      · rw [eq]
        exact kept.contiguous.template
      · rw [List.mem_singleton.mp mem, same]
        exact kept.contiguous.template
    have after := kept.ofStack indexed
    rw [← instEq] at after
    exact after

lemma heal_step {req : Req} {grantReq : GrantReq} {grant : Grant}
    (op : e.op = .heal req grantReq grant) (kept : Kept csar s)
    (meets : Meets csar policies (s, e)) (heat : HeatTells csar policies (s, e))
    (step : LcmStep csar policies s e s') : Kept csar s' := by
  obtain ⟨updates, updatesEq, ends⟩ := after_ok step
  have reports : e.ending = .completed → _ := fun ending =>
    heat (by simp [LcmEvent.records, ending]) s' step
  simp only [LcmEvent.toEvent, op, LcmOp.toOp] at updatesEq ends
  obtain ⟨fields, fieldsEq, updatesEq⟩ := bind_ok.mp updatesEq
  obtain rfl := pure_ok.mp updatesEq
  have same := updateFields_template (heal_template fieldsEq) s.stack
  have whole := template_kept ⟨.heal req grantReq grant, e.ending, e.listed, e.extVirtualLinkInfo,
    e.extManagedVirtualLinkInfo⟩ kept same meets.recorded reports
  rcases ends with ends | ends | ⟨reached, back, ending, backEq, -, -⟩
  · exact whole (Or.inl ends)
  · exact whole (Or.inr ends)
  · cases backEq

lemma changeExtConn_step {req : Req} {grant : Grant} (op : e.op = .changeExtConn req grant)
    (kept : Kept csar s) (meets : Meets csar policies (s, e)) (heat : HeatTells csar policies (s, e))
    (step : LcmStep csar policies s e s') : Kept csar s' := by
  obtain ⟨updates, updatesEq, ends⟩ := after_ok step
  have reports : e.ending = .completed → _ := fun ending =>
    heat (by simp [LcmEvent.records, ending]) s' step
  have told : ∀ reached, e.ending = .rolledBack reached → _ := fun reached ending =>
    heat (by simp [LcmEvent.records, ending, op]) s' step
  simp only [LcmEvent.toEvent, op, LcmOp.toOp] at updatesEq ends
  obtain ⟨fields, fieldsEq, updatesEq⟩ := bind_ok.mp updatesEq
  obtain rfl := pure_ok.mp updatesEq
  have same := updateFields_template (changeExtConn_template fieldsEq) s.stack
  have whole := template_kept ⟨.changeExtConn req grant, e.ending, e.listed, e.extVirtualLinkInfo,
    e.extManagedVirtualLinkInfo⟩ kept same meets.recorded reports
  rcases ends with ends | ends | ⟨reached, back, ending, backEq, stackEq, made⟩
  · exact whole (Or.inl ends)
  · exact whole (Or.inr ends)
  · cases backEq
    apply same_kept kept made (told reached ending) _ meets.recorded
    rw [stackEq]
    show Indexed csar (reachedStack s.stack [updateFields s.stack fields] reached).template _
    rcases reachedStack_mem s.stack [updateFields s.stack fields] reached with eq | mem
    · rw [eq]
      exact kept.contiguous.template
    · rw [List.mem_singleton.mp mem, same]
      exact kept.contiguous.template

lemma changeVnfpkg_step (packages : Packages csar) {req : Req} {grantReq : GrantReq} {grant : Grant}
    (op : e.op = .changeVnfpkg req grantReq grant) (kept : Kept csar s)
    (meets : Meets csar policies (s, e)) (heat : HeatTells csar policies (s, e))
    (step : LcmStep csar policies s e s') : Kept csar s' := by
  have free := meets.links
  simp only [op, LcmOp.links] at free
  obtain ⟨updates, updatesEq, ends⟩ := after_ok step
  have reports : e.ending = .completed → _ := fun ending =>
    heat (by simp [LcmEvent.records, ending]) s' step
  have told : ∀ reached, e.ending = .rolledBack reached → _ := fun reached ending =>
    heat (by simp [LcmEvent.records, ending, op]) s' step
  simp only [LcmEvent.toEvent, op, LcmOp.toOp] at updatesEq ends
  obtain ⟨indexed, ne, hot, hotEq⟩ := changeVnfpkg_indexed packages kept free updatesEq
  have atReached : ∀ reached,
      Indexed csar (reachedStack s.stack updates reached).template (getCurrentCapacity · s.inst) := by
    intro reached
    rcases reachedStack_mem s.stack updates reached with eq | mem
    · rw [eq]
      exact kept.contiguous.template
    · exact indexed _ mem
  rcases ends with ⟨ending, stackEq, made⟩ | ⟨reached, ending, instEq, stackEq⟩ |
    ⟨reached, back, ending, backEq, stackEq, made⟩
  · have after : Indexed csar s'.stack.template (getCurrentCapacity · s.inst) := by
      rw [stackEq, List.getLastD_eq_getLast?, List.getLast?_eq_some_getLast ne]
      exact indexed _ (List.getLast_mem ne)
    refine (recorded_kept made (reports ending) after ?_ meets.recorded).1
    intro vduName notNode
    exact capacity_of_instHot hotEq (kept.contiguous.record vduName) notNode
  · have after := kept.ofStack (stackEq ▸ atReached reached)
    rw [← instEq] at after
    exact after
  · apply same_kept kept made (told reached ending) _ meets.recorded
    obtain ⟨hot', template, hotEq', applied, templateEq⟩ :=
      changeVnfpkgRollback_ok backEq (reachedStack s.stack updates reached)
    rw [stackEq, templateEq]
    exact rebuilt_indexed packages hotEq' applied free kept.contiguous.record

/-! ## Scale-out -/

/-- The number of instances that a scale request is about comes from the list. -/
lemma of_pos {vduNumInst : VduNums} {vduName : String} {numSteps : Nat}
    (pos : 0 < vduNumInst.of vduName numSteps) :
    ∃ vdu ∈ vduNumInst.nums, vdu.1 = vduName ∧ 0 < vdu.2 * numSteps := by
  rw [VduNums.of, deltaOf] at pos
  cases found : vduNumInst.nums.find? fun vdu => vdu.1 = vduName with
  | none =>
    rw [found] at pos
    simp at pos
  | some vdu =>
    rw [found] at pos
    have isIt := List.find?_some found
    exact ⟨vdu, List.mem_of_find?_eq_some found, of_decide_eq_true isIt, Int.lt_toNat.mp pos⟩

/-- The request of a scale-out adds what it was asked for. -/
lemma addedOf_meets {aspectId : String} {numSteps : Nat} {newId : String → Nat → String}
    {req : Req} {grant : Grant}
    (scales : ScaleMeets policies s.inst (.scaleOut aspectId numSteps newId req grant))
    (vduName : String) :
    addedOf vduName (makeScaleOutGrantRequest newId s.inst numSteps
      (scaledNums policies s.inst aspectId)).addResources =
      (scaledNums policies s.inst aspectId).of vduName numSteps := by
  rw [addedOf_scaleOut]
  by_cases sample : 0 < getCurrentCapacity vduName s.inst
  · rw [if_pos sample]
  · rw [if_neg sample]
    by_contra ne
    obtain ⟨vdu, inNums, rfl, pos⟩ := of_pos (Nat.pos_of_ne_zero fun eq => ne eq.symm)
    exact sample (scales vdu inNums pos)

/-- All of it is for VDUs of the package. -/
lemma addedCount_meets (kept : Kept csar s) {aspectId : String} {numSteps : Nat}
    {newId : String → Nat → String} {req : Req} {grant : Grant}
    (scales : ScaleMeets policies s.inst (.scaleOut aspectId numSteps newId req grant))
    (vduName : String) :
    addedCount ((csar s.inst.vnfdId).vduNodes s.inst.flavourId) (makeScaleOutGrantRequest newId
      s.inst numSteps (scaledNums policies s.inst aspectId)).addResources vduName =
      (scaledNums policies s.inst aspectId).of vduName numSteps := by
  rw [addedCount]
  by_cases isNode : vduName ∈ (csar s.inst.vnfdId).vduNodes s.inst.flavourId
  · rw [if_pos isNode, addedOf_meets scales]
  · rw [if_neg isNode]
    by_contra ne
    obtain ⟨vdu, inNums, rfl, pos⟩ := of_pos (Nat.pos_of_ne_zero fun eq => ne eq.symm)
    have sample := scales vdu inNums pos
    rw [capacity_of_not_node kept isNode] at sample
    exact Nat.lt_irrefl 0 sample

/-- The law of scale-out but for what is recorded. -/
lemma scaleOut_law (kept : Kept csar s) {aspectId : String} {numSteps : Nat}
    {newId : String → Nat → String} {req : Req} {grant : Grant}
    (scales : ScaleMeets policies s.inst (.scaleOut aspectId numSteps newId req grant))
    (completed : e.ending = .completed → ∀ vduName, getCurrentCapacity vduName s'.inst =
      getCurrentCapacity vduName s.inst +
        (scaledNums policies s.inst aspectId).of vduName numSteps) :
    ScaleOutLaw csar policies s e s' aspectId numSteps (makeScaleOutGrantRequest newId s.inst numSteps
      (scaledNums policies s.inst aspectId)) grant := by
  constructor
  · intro vduName vduIdx
    have counts := addedCount_meets kept scales vduName
    rw [addedBy, mem_namesOf, ← counts, addedCount]
    by_cases isNode : vduName ∈ (csar s.inst.vnfdId).vduNodes s.inst.flavourId
    · simp only [isNode, true_and, if_true]
    · simp only [isNode, false_and, if_false, false_iff]
      omega
  · intro vduName vduIdx
    rw [mem_getAdditionalVduId, addedOf_meets scales]
  · exact fun res mem => zoneOf_added namesOf_nodup mem
  · exact completed

lemma scaleOut_step (packages : Packages csar) {aspectId : String} {numSteps : Nat}
    {newId : String → Nat → String} {req : Req} {grant : Grant}
    (op : e.op = .scaleOut aspectId numSteps newId req grant) (kept : Kept csar s)
    (meets : Meets csar policies (s, e)) (heat : HeatTells csar policies (s, e))
    (step : LcmStep csar policies s e s') :
    Kept csar s' ∧ ScaleOutLaw csar policies s e s' aspectId numSteps
      (makeScaleOutGrantRequest newId s.inst numSteps (scaledNums policies s.inst aspectId)) grant := by
  have scales := meets.scales
  have failing := meets.ending
  simp only [op, LcmOp.changesVnfcs, Bool.true_eq_false, or_false] at scales failing
  obtain ⟨updates, updatesEq, ends⟩ := after_ok step
  have reports : e.ending = .completed → _ := fun ending =>
    heat (by simp [LcmEvent.records, ending]) s' step
  simp only [LcmEvent.toEvent, op, LcmOp.toOp] at updatesEq ends
  obtain ⟨fields, fieldsEq, updatesEq⟩ := bind_ok.mp updatesEq
  obtain rfl := pure_ok.mp updatesEq
  have scaled := scaleOut_indexed packages fieldsEq kept.links kept.contiguous.template
  rcases ends with ⟨ending, stackEq, made⟩ | ⟨reached, ending, instEq, stackEq⟩ |
    ⟨reached, back, ending, backEq, stackEq, instEq⟩
  · have indexed : Indexed csar s'.stack.template fun vduName => getCurrentCapacity vduName s.inst +
        (scaledNums policies s.inst aspectId).of vduName numSteps := by
      intro vduName isVdu vduIdx
      show _ ↔ vduIdx < getCurrentCapacity vduName s.inst + _
      rw [← addedCount_meets kept scales, stackEq]
      exact scaled vduName isVdu vduIdx
    have others : ∀ vduName, vduName ∉ (csar s.inst.vnfdId).vduNodes s.inst.flavourId →
        getCurrentCapacity vduName s.inst +
          (scaledNums policies s.inst aspectId).of vduName numSteps = 0 := by
      intro vduName notNode
      rw [← addedCount_meets kept scales, addedCount, if_neg notNode,
        capacity_of_not_node kept notNode]
    have after := recorded_kept made (reports ending) indexed others meets.recorded
    exact ⟨after.1, scaleOut_law kept scales fun _ => after.2⟩
  · rw [failing reached ending] at stackEq
    refine ⟨failed_kept kept instEq stackEq, scaleOut_law kept scales fun completed => ?_⟩
    rw [ending] at completed
    cases completed
  · have same : s.inst = s'.inst := Except.ok.inj instEq
    have indexed : Indexed csar s'.stack.template (getCurrentCapacity · s.inst) := by
      intro vduName isVdu vduIdx
      have old := kept.contiguous.template vduName isVdu vduIdx
      have new := scaled vduName isVdu vduIdx
      rw [stackEq, scaleRollback_template backEq]
      by_cases added : addIdx vduName vduIdx ∈ namesOf (addedBy csar s.inst
          (makeScaleOutGrantRequest newId s.inst numSteps (scaledNums policies s.inst aspectId)))
      · rw [if_pos ⟨_, added, rfl⟩]
        have isNew := (mem_namesOf.mp added).2.1
        show false = true ↔ vduIdx < getCurrentCapacity vduName s.inst
        simp only [Bool.false_eq_true, false_iff]
        omega
      · have notAdded : ¬ ∃ name ∈ namesOf (addedBy csar s.inst (makeScaleOutGrantRequest newId
            s.inst numSteps (scaledNums policies s.inst aspectId))),
            Key.str (addIdx vduName vduIdx) = .str name := by
          rintro ⟨name, mem, eq⟩
          rw [← Key.str.inj eq] at mem
          exact added mem
        rw [if_neg notAdded]
        rcases reachedStack_mem s.stack [updateFields s.stack fields] reached with eq | mem
        · rw [eq]
          exact old
        · rw [List.mem_singleton.mp mem]
          apply new.trans
          show vduIdx < getCurrentCapacity vduName s.inst + _ ↔
            vduIdx < getCurrentCapacity vduName s.inst
          constructor
          · intro lt
            by_contra le
            apply added
            rw [addedBy, mem_namesOf]
            rw [addedCount] at lt
            by_cases isNode : vduName ∈ (csar s.inst.vnfdId).vduNodes s.inst.flavourId
            · rw [if_pos isNode] at lt
              exact ⟨isNode, Nat.le_of_not_lt le, lt⟩
            · rw [if_neg isNode] at lt
              exact absurd lt le
          · exact fun lt => Nat.lt_of_lt_of_le lt (Nat.le_add_right _ _)
    have after := kept.ofStack indexed
    rw [same] at after
    refine ⟨after, scaleOut_law kept scales fun completed => ?_⟩
    rw [ending] at completed
    cases completed

/-! ## Scale-in -/

lemma scaleIn_step {aspectId : String} {numSteps : Nat} {newId : String → String}
    (op : e.op = .scaleIn aspectId numSteps newId) (kept : Kept csar s)
    (meets : Meets csar policies (s, e)) (heat : HeatTells csar policies (s, e))
    (step : LcmStep csar policies s e s') :
    Kept csar s' ∧ ScaleInLaw policies s e s' aspectId numSteps
      (makeScaleInGrantRequest newId s.inst numSteps (scaledNums policies s.inst aspectId)) := by
  have scales := meets.scales
  have failing := meets.ending
  simp only [op, LcmOp.changesVnfcs, Bool.true_eq_false, or_false] at scales failing
  obtain ⟨updates, updatesEq, ends⟩ := after_ok step
  have reports : e.ending = .completed → _ := fun ending =>
    heat (by simp [LcmEvent.records, ending]) s' step
  simp only [LcmEvent.toEvent, op, LcmOp.toOp] at updatesEq ends
  obtain ⟨fields, fieldsEq, updatesEq⟩ := bind_ok.mp updatesEq
  obtain rfl := pure_ok.mp updatesEq
  obtain ⟨names, namesEq, fieldsEq⟩ := bind_ok.mp fieldsEq
  obtain rfl := pure_ok.mp fieldsEq
  have deleted : ∀ vduName vduIdx, addIdx vduName vduIdx ∈ names ↔
      getCurrentCapacity vduName s.inst - (scaledNums policies s.inst aspectId).of vduName numSteps ≤
        vduIdx ∧ vduIdx < getCurrentCapacity vduName s.inst := by
    intro vduName vduIdx
    rw [← mem_rmVnfcs (kept.contiguous.record vduName) scales]
    apply removedNames_ok kept.ids _ namesEq
    intro vnfc mem
    obtain ⟨vdu, -, mem⟩ := List.mem_flatMap.mp mem
    exact (selectVnfcs_subset vnfc mem).1
  have law : (e.ending = .completed → ∀ vduName, getCurrentCapacity vduName s'.inst =
      getCurrentCapacity vduName s.inst -
        (scaledNums policies s.inst aspectId).of vduName numSteps) →
      ScaleInLaw policies s e s' aspectId numSteps
        (makeScaleInGrantRequest newId s.inst numSteps (scaledNums policies s.inst aspectId)) :=
    fun completed => ⟨⟨names, namesEq, deleted⟩, completed⟩
  rcases ends with ⟨ending, stackEq, made⟩ | ⟨reached, ending, instEq, stackEq⟩ |
    ⟨reached, back, ending, backEq, -, -⟩
  · have indexed : Indexed csar s'.stack.template fun vduName => getCurrentCapacity vduName s.inst -
        (scaledNums policies s.inst aspectId).of vduName numSteps := by
      rw [stackEq]
      apply deleting_indexed kept.contiguous.template
      intro vduName _ vduIdx
      rw [deleted]
      omega
    have others : ∀ vduName, vduName ∉ (csar s.inst.vnfdId).vduNodes s.inst.flavourId →
        getCurrentCapacity vduName s.inst -
          (scaledNums policies s.inst aspectId).of vduName numSteps = 0 := by
      intro vduName notNode
      rw [capacity_of_not_node kept notNode, Nat.zero_sub]
    have after := recorded_kept made (reports ending) indexed others meets.recorded
    exact ⟨after.1, law fun _ => after.2⟩
  · rw [failing reached ending] at stackEq
    refine ⟨failed_kept kept instEq stackEq, law fun completed => ?_⟩
    rw [ending] at completed
    cases completed
  · cases backEq

/-! ## Runs -/

/-- A step keeps the indices contiguous, and a scale operation moves the highest ones only. -/
theorem lcmStep_kept (packages : Packages csar) (meets : Meets csar policies (s, e))
    (heat : HeatTells csar policies (s, e)) (step : LcmStep csar policies s e s')
    (kept : Kept csar s) : Kept csar s' ∧ StepLaw csar policies s e s' := by
  cases op : e.op with
  | instantiate flavourId req grantReq grant =>
    rw [StepLaw, op]
    exact ⟨instantiate_step packages op kept meets heat step, trivial⟩
  | scaleOut aspectId numSteps newId req grant =>
    rw [StepLaw, op]
    exact scaleOut_step packages op kept meets heat step
  | scaleIn aspectId numSteps newId =>
    rw [StepLaw, op]
    exact scaleIn_step op kept meets heat step
  | heal req grantReq grant =>
    rw [StepLaw, op]
    exact ⟨heal_step op kept meets heat step, trivial⟩
  | changeExtConn req grant =>
    rw [StepLaw, op]
    exact ⟨changeExtConn_step op kept meets heat step, trivial⟩
  | changeVnfpkg req grantReq grant =>
    rw [StepLaw, op]
    exact ⟨changeVnfpkg_step packages op kept meets heat step, trivial⟩

/-- What is asked of the steps, and of Heat. -/
def Regular (csar : Csar) (policies : Policies) (step : State × LcmEvent) : Prop :=
  Meets csar policies step ∧ HeatTells csar policies step

/-- In every run whose steps meet the condition the indices are contiguous in every state, and every
scale operation moves the highest ones only. -/
theorem indices_contiguous (packages : Packages csar) {vnfdId : String}
    {tr : List (State × LcmEvent)} (run : Run (LcmStep csar policies) (State.new vnfdId) tr s)
    (regular : Guarded (Regular csar policies) tr) :
    Contiguous csar s ∧ ∀ e s', Regular csar policies (s, e) → LcmStep csar policies s e s' →
      Contiguous csar s' ∧ StepLaw csar policies s e s' := by
  have kept : Kept csar s := by
    apply run.invariant _ regular (kept_new csar vnfdId)
    intro t e u regular step kept
    exact (lcmStep_kept packages regular.1 regular.2 step kept).1
  refine ⟨kept.contiguous, fun e s' regular step => ?_⟩
  obtain ⟨kept', law⟩ := lcmStep_kept packages regular.1 regular.2 step kept
  exact ⟨kept'.contiguous, law⟩

/-! ## A package -/

lemma resource_isSome_iff {template : Value} {names : List Key}
    (eq : (template.get? "resources").map Json.keys = some names) (key : Key) :
    (resource template key).isSome = true ↔ key ∈ names := by
  obtain ⟨resources, got, rfl⟩ := Option.map_eq_some_iff.mp eq
  rw [resource_eq got, Json.mem_keys_iff]

/-- The nested stack of a VNFC. -/
def nestedOf (vnfc : String × Nat) : HeatRes where
  resourceName := addIdx vnfc.1 vnfc.2
  resourceType := "VDU.yaml"
  physicalResourceId := "stack-" ++ addIdx vnfc.1 vnfc.2

/-- The server of a VNFC. -/
def serverOf (vnfc : String × Nat) : HeatRes where
  resourceName := vnfc.1
  resourceType := "OS::Nova::Server"
  physicalResourceId := addIdx vnfc.1 vnfc.2
  parentResource := some (addIdx vnfc.1 vnfc.2)

/-- What Heat lists of VNFCs. -/
def heatOf (vnfcs : List (String × Nat)) : List HeatRes :=
  vnfcs.map nestedOf ++ vnfcs.map serverOf

/-- What Heat lists of VNFCs whose names are those of the resources. -/
lemma heatReports_of (vnfcs : List (String × Nat)) {vduNodes : List String} {template : Value}
    {listed : List HeatRes}
    (keys : ∀ key, (resource template key).isSome = true ↔
      key ∈ vnfcs.map fun vnfc => Key.str (addIdx vnfc.1 vnfc.2))
    (unique : vnfcs.Nodup)
    (servers : serverReses vduNodes listed = vnfcs.map serverOf)
    (parents : ∀ vnfc ∈ vnfcs, getParentResource (serverOf vnfc) listed = some (nestedOf vnfc)) :
    HeatReports vduNodes template listed := by
  have there : ∀ vnfc : String × Nat,
      (resource template (addIdx vnfc.1 vnfc.2)).isSome = true ↔ vnfc ∈ vnfcs := by
    intro vnfc
    rw [keys, List.mem_map]
    constructor
    · rintro ⟨vnfc', mem, eq⟩
      obtain ⟨name, idx⟩ := addIdx_inj (Key.str.inj eq)
      rw [← Prod.ext name idx]
      exact mem
    · exact fun mem => ⟨vnfc, mem, rfl⟩
  have injective : ∀ vnfc ∈ vnfcs, ∀ vnfc' ∈ vnfcs,
      addIdx vnfc.1 vnfc.2 = addIdx vnfc'.1 vnfc'.2 → vnfc = vnfc' := by
    intro vnfc _ vnfc' _ eq
    obtain ⟨name, idx⟩ := addIdx_inj eq
    exact Prod.ext name idx
  constructor
  · intro res mem
    rw [servers] at mem
    obtain ⟨vnfc, isVnfc, rfl⟩ := List.mem_map.mp mem
    exact ⟨vnfc.2, nestedOf vnfc, rfl, (there vnfc).mpr isVnfc, parents vnfc isVnfc, rfl⟩
  · intro vduName _ vduIdx isThere
    have mem := (there (vduName, vduIdx)).mp isThere
    rw [servers]
    exact ⟨_, List.mem_map_of_mem mem, rfl, rfl⟩
  · rw [servers, List.map_map]
    apply unique.map_on
    intro vnfc mem vnfc' mem' eq
    apply injective vnfc mem vnfc' mem'
    exact Option.some.inj eq
  · rw [servers, List.map_map]
    apply unique.map_on
    intro vnfc mem vnfc' mem' eq
    apply injective vnfc mem vnfc' mem'
    exact eq

/-- The base HOT of a package with two VDUs. -/
def twoVdusHot : Value :=
  .dict [("resources", .dict [("VDU1", .dict [("type", text "VDU.yaml")]),
    ("VDU2", .dict [("type", text "VDU.yaml")])])]

/-- The package. -/
def twoVdus : Csar := fun _ =>
  { vduNodes := fun _ => ["VDU1", "VDU2"]
    baseHot := fun _ => some twoVdusHot
    computeFlavor := fun _ _ => none
    swImage := fun _ => [] }

/-- A step of the aspect is one instance of the first VDU, and none of the second one. -/
def twoVdusPolicies : Policies := fun _ _ _ =>
  { nums := [("VDU1", 1), ("VDU2", 0)]
    unique := by decide }

/-- The instantiation with one VNFC of each VDU. -/
def instantiateTwo : LcmEvent where
  op := .instantiate "simple" {}
    { addResources := [⟨"def-1", "COMPUTE", "VDU1", ""⟩, ⟨"def-2", "COMPUTE", "VDU2", ""⟩] } {}
  ending := .completed
  listed := heatOf [("VDU1", 0), ("VDU2", 0)]

/-- A scale-out by one step. -/
def scaleOutTwo : LcmEvent where
  op := .scaleOut "aspect" 1 (fun name _ => name) {} {}
  ending := .completed
  listed := heatOf [("VDU1", 0), ("VDU2", 0), ("VDU1", 1)]

/-- A scale-in by one step. -/
def scaleInTwo : LcmEvent where
  op := .scaleIn "aspect" 1 id
  ending := .completed

/-- The state after the instantiation. -/
def twoInstantiated : State :=
  ((State.new "vnfd").after twoVdus
    (instantiateTwo.toEvent twoVdusPolicies (State.new "vnfd").inst)).toOption.get rfl

/-- The state after the scale-out. -/
def twoScaledOut : State :=
  (twoInstantiated.after twoVdus
    (scaleOutTwo.toEvent twoVdusPolicies twoInstantiated.inst)).toOption.get rfl

/-- The state after the scale-in. -/
def twoScaledIn : State :=
  (twoInstantiated.after twoVdus
    (scaleInTwo.toEvent twoVdusPolicies twoInstantiated.inst)).toOption.get rfl

lemma twoVdus_packages : Packages twoVdus := by
  have popped : ∀ vnfdId flavourId, (popVdus (twoVdus vnfdId) flavourId).toOption.map
      (fun p => ((p.hot.get? "resources").map Json.keys, p.vdus.map fun vdu => vdu.2.get? "type")) =
      some (some [], [some (text "VDU.yaml"), some (text "VDU.yaml")]) := fun _ _ => rfl
  constructor
  · intro vnfdId flavourId p eq vduName _ vduIdx
    have popped := popped vnfdId flavourId
    rw [eq] at popped
    have keys := (Prod.mk.inj (Option.some.inj popped)).1
    have gone := resource_isSome_iff keys (.str (addIdx vduName vduIdx))
    rw [← Option.not_isSome_iff_eq_none, gone]
    exact List.not_mem_nil
  · intro vnfdId flavourId p eq vduName vdu found
    have popped := popped vnfdId flavourId
    rw [eq] at popped
    have types := (Prod.mk.inj (Option.some.inj popped)).2
    have mem := List.mem_map_of_mem (f := fun vdu : String × Value => vdu.2.get? "type")
      (mem_of_vdu found)
    rw [types] at mem
    have typed : vdu.get? "type" = some (text "VDU.yaml") := by simpa using mem
    exact ⟨"VDU.yaml", typed, by decide⟩

/-- Heat tells of an event what is in the stack that it leaves. -/
lemma heatTells_of (taken : LcmStep csar policies s e s')
    (reports : HeatReports ((csar s'.inst.vnfdId).vduNodes s'.inst.flavourId) s'.stack.template
      e.listed) : HeatTells csar policies (s, e) := by
  intro _ t step
  have taken : s.after csar (e.toEvent policies s.inst) = .ok s' := taken
  have step : s.after csar (e.toEvent policies s.inst) = .ok t := step
  rw [step] at taken
  cases taken
  exact reports

lemma instantiateTwo_step :
    LcmStep twoVdus twoVdusPolicies (State.new "vnfd") instantiateTwo twoInstantiated :=
  toOption_eq_some.mp (Option.some_get _).symm

lemma instantiateTwo_regular :
    Regular twoVdus twoVdusPolicies (State.new "vnfd", instantiateTwo) := by
  constructor
  · constructor
    · exact fun vl mem => by cases mem
    · exact fun vl mem => by cases mem
    · trivial
    · exact fun reached eq => by cases eq
  · apply heatTells_of instantiateTwo_step
    apply heatReports_of [("VDU1", 0), ("VDU2", 0)] (resource_isSome_iff rfl) (by decide) rfl
    decide

lemma scaleOutTwo_step : LcmStep twoVdus twoVdusPolicies twoInstantiated scaleOutTwo twoScaledOut :=
  toOption_eq_some.mp (Option.some_get _).symm

lemma scaleOutTwo_regular : Regular twoVdus twoVdusPolicies (twoInstantiated, scaleOutTwo) := by
  constructor
  · constructor
    · exact fun vl mem => by cases mem
    · exact fun vl mem => by cases mem
    · show ∀ vdu ∈ [("VDU1", (1 : Int)), ("VDU2", 0)],
        0 < vdu.2 * (1 : Nat) → 0 < getCurrentCapacity vdu.1 twoInstantiated.inst
      have counts : getCurrentCapacity "VDU1" twoInstantiated.inst = 1 := rfl
      simp [counts]
    · exact fun reached eq => by cases eq
  · apply heatTells_of scaleOutTwo_step
    apply heatReports_of [("VDU1", 0), ("VDU2", 0), ("VDU1", 1)] _ (by decide) rfl
    · decide
    · have keys : (twoScaledOut.stack.template.get? "resources").map Json.keys =
          some [.str "VDU1-0", .str "VDU2-0", .str "VDU1-1"] := rfl
      exact resource_isSome_iff keys

/-- `indices_contiguous` for an instantiation that a scale-out follows. -/
theorem indices_contiguous_two :
    Contiguous twoVdus twoScaledOut ∧ ∀ e s', Regular twoVdus twoVdusPolicies (twoScaledOut, e) →
      LcmStep twoVdus twoVdusPolicies twoScaledOut e s' →
      Contiguous twoVdus s' ∧ StepLaw twoVdus twoVdusPolicies twoScaledOut e s' := by
  have run := (Run.single instantiateTwo_step).snoc scaleOutTwo_step
  apply indices_contiguous twoVdus_packages run
  rw [Guarded.append, Guarded.singleton, Guarded.singleton]
  exact ⟨instantiateTwo_regular, scaleOutTwo_regular⟩

lemma scaleInTwo_step : LcmStep twoVdus twoVdusPolicies twoInstantiated scaleInTwo twoScaledIn :=
  toOption_eq_some.mp (Option.some_get _).symm

/-- A scale-in that is about no instance of a VDU removes all of them: the loop compares the count
after it has selected a VNFC. -/
theorem unscaled_vdu_removed :
    ∃ tr, Run (LcmStep twoVdus twoVdusPolicies) (State.new "vnfd") tr twoInstantiated ∧
      Guarded (Regular twoVdus twoVdusPolicies) tr ∧
      LcmStep twoVdus twoVdusPolicies twoInstantiated scaleInTwo twoScaledIn ∧
      HeatTells twoVdus twoVdusPolicies (twoInstantiated, scaleInTwo) ∧
      (scaledNums twoVdusPolicies twoInstantiated.inst "aspect").of "VDU2" 1 = 0 ∧
      getCurrentCapacity "VDU2" twoInstantiated.inst = 1 ∧
      getCurrentCapacity "VDU2" twoScaledIn.inst = 0 ∧
      ¬ StepLaw twoVdus twoVdusPolicies twoInstantiated scaleInTwo twoScaledIn := by
  refine ⟨_, .single instantiateTwo_step, Guarded.singleton.mpr instantiateTwo_regular,
    scaleInTwo_step, ?_, rfl, rfl, rfl, fun law => ?_⟩
  · apply heatTells_of scaleInTwo_step
    apply heatReports_of [] (resource_isSome_iff rfl) List.nodup_nil rfl
    exact fun vnfc mem => by cases mem
  · have left : 0 = 1 - 0 := law.completed rfl "VDU2"
    cases left

end Tacker.UserData
