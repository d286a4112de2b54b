import Tacker.Basis.Run
import Tacker.OpParams.Effects

/-!
# The parameters that are stored

The conductor carries out an accepted request: `start_lcm_op_internal`, `_modify_vnfinfo`,
`_retry_lcm_op`, `_rollback_lcm_op` and `_change_lcm_op_state` of `conductor/conductor_v2.py`. Each
call loads the occurrence, works on the object and updates the row; all of `operationParams` is
written whenever the row is updated. The removal of credentials from finished occurrences is a matter
of the conversion to the row and is left out.
-/

namespace Tacker.OpParams

open Tacker.Basis Tacker.Objects
open Tacker.Kubernetes (ResourceDef)
open Tacker.Modify (Pairs VimConnectionInfo)

section

variable {ρ : Type}

/-! ## Calls of the conductor -/

/-- What is stored of a grant request and its grant: the resources to add and the connections. -/
abbrev Grants := Option (List ResourceDef) × Option VimInfos

/-- The row of an occurrence with its grants, and the parameters of all updates of the row. -/
structure State (ρ : Type) where
  operation : LcmOperationType
  operationState : LcmOperationState
  operationParams : OperationParams ρ
  grants : Option Grants := none
  updates : List (OperationParams ρ) := []

/-- How a call goes: what the VIM DB knows, how the process or the rollback goes, whether the first
update is written, and whether the conductor lives to the last one. -/
structure Call where
  db : VimDb
  going : Going := {}
  saved : Bool := true
  finishes : Bool := true

/-- What happens to an occurrence. A start comes without grants if they are refused or the VNFD
cannot be read. -/
inductive Event where
  | start (granted : Option Grants) (call : Call)
  | modify (call : Call)
  | retry (call : Call)
  | rollback (call : Call)
  | fail
  | restart

/-- The row that the API creates. -/
def State.accepted (operation : LcmOperationType) (params : OperationParams ρ) : State ρ where
  operation := operation
  operationState := if operation = .modifyInfo then .processing else .starting
  operationParams := params
  updates := [params]

/-- `update_lcmocc_status` and `lcmocc.update`. -/
def State.update (s : State ρ) (operationState : LcmOperationState) (params : OperationParams ρ) :
    State ρ :=
  { s with
    operationState := operationState
    operationParams := params
    updates := s.updates ++ [params] }

/-- `post_grant`; the request is the loaded one. -/
def State.postGrant (s : State ρ) (call : Call) (starting : Bool) (grants : Option Grants) :
    Memory ρ × Bool :=
  if s.operation = .instantiate then
    match grants with
    | some grants =>
      instantiatePostGrant call.db starting
        { params := s.operationParams, granted := grants.2 }
    | none => ({ params := s.operationParams }, false)
  else ({ params := s.operationParams }, true)

/-- `process`. -/
def State.process (s : State ρ) (call : Call) (grants : Option Grants) (m : Memory ρ) :
    Memory ρ × Bool :=
  if s.operation = .instantiate then instantiateProcess (grants.bind Prod.fst) call.going m
  else (m, call.going.completes)

/-- `rollback`. -/
def State.takeBack (s : State ρ) (call : Call) (m : Memory ρ) : Memory ρ × Bool :=
  if s.operation = .instantiate then instantiateRollback call.going m
  else (m, call.going.completes)

/-- The last update of a call. -/
def State.ended (s : State ρ) (call : Call) (done : LcmOperationState) (out : Memory ρ × Bool) :
    State ρ :=
  if call.finishes then s.update (if out.2 then done else .failedTemp) out.1.params else s

/-- `start_lcm_op_internal` once `post_grant` has ended. -/
def State.posted (s : State ρ) (call : Call) (grants : Grants) (out : Memory ρ × Bool) : State ρ :=
  if out.2 && call.saved then
    (State.update { s with grants := some (grants.1, out.1.granted) } .processing
      out.1.params).ended call .completed (s.process call (some grants) out.1)
  else s.update .rolledBack out.1.params

/-- `start_lcm_op_internal`. -/
def State.started (s : State ρ) (call : Call) (granted : Option Grants) : State ρ :=
  match granted with
  | some grants => s.posted call grants (s.postGrant call true (some grants))
  | none => s.update .rolledBack s.operationParams

/-- `_retry_lcm_op` once `post_grant` has ended. -/
def State.resumed (s : State ρ) (call : Call) (out : Memory ρ × Bool) : Memory ρ × Bool :=
  if out.2 then s.process call s.grants out.1 else out

/-- `_rollback_lcm_op` once `post_grant` has ended. -/
def State.reverted (s : State ρ) (call : Call) (out : Memory ρ × Bool) : Memory ρ × Bool :=
  if out.2 then s.takeBack call out.1 else out

/-- The row after an event. -/
def State.step (s : State ρ) : Event → Option (State ρ)
  | .start granted call =>
    if s.operationState = .starting then some (s.started call granted) else none
  | .modify call =>
    if s.operation = .modifyInfo ∧ s.operationState = .processing then
      some (s.ended call .completed ({ params := s.operationParams }, call.going.completes))
    else none
  | .retry call =>
    if s.operationState = .failedTemp then
      some ((s.update .processing s.operationParams).ended call .completed
        (s.resumed call (s.postGrant call false s.grants)))
    else none
  | .rollback call =>
    if s.operationState = .failedTemp then
      some ((s.update .rollingBack s.operationParams).ended call .rolledBack
        (s.reverted call (s.postGrant call false s.grants)))
    else none
  | .fail =>
    if s.operationState = .failedTemp then some (s.update .failed s.operationParams) else none
  | .restart =>
    match s.operationState with
    | .starting => some (s.update .rolledBack s.operationParams)
    | .processing => some (s.update .failedTemp s.operationParams)
    | .rollingBack => some (s.update .failedTemp s.operationParams)
    | _ => none

/-! ## The condition -/

/-- The driver for Helm, if the process comes to it, finds its values in the request. -/
def DriverKeeps (addResources : Option (List ResourceDef)) (going : Going) (used : VimInfos)
    (additionalParams : Option Pairs) : Prop :=
  going.usesHelm used = true → ∀ pairs, additionalParams = some pairs →
    ParametersKept addResources pairs

/-- What a start must meet. -/
def State.StartMeets (s : State ρ) (call : Call) (grants : Grants) : Prop :=
  s.operation = .instantiate → ∀ filled, fill call.db grants.2 = some filled →
    (∀ infos, s.operationParams.vimConnectionInfo = some infos →
      ConnectionsKept call.db true infos filled) ∧
    (∀ used, usedInfos call.db s.operationParams.vimConnectionInfo filled = some used →
      (selected used).any (vimTypeCheck s.operationParams.additionalParams) = true →
      call.saved = true → call.finishes = true →
      DriverKeeps grants.1 call.going used s.operationParams.additionalParams)

/-- What a retry must meet, and a rollback for the connections. -/
def State.AgainMeets (s : State ρ) (call : Call) (drives : Bool) : Prop :=
  s.operation = .instantiate → ∀ grants filled, s.grants = some grants →
    fill call.db grants.2 = some filled → call.finishes = true →
    (∀ infos, s.operationParams.vimConnectionInfo = some infos →
      ConnectionsKept call.db call.going.picks infos filled) ∧
    (∀ used, usedInfos call.db s.operationParams.vimConnectionInfo filled = some used →
      drives = true → DriverKeeps grants.1 call.going used s.operationParams.additionalParams)

/-- The condition on an event, in the state before it. -/
def Meets (p : State ρ × Event) : Prop :=
  match p.2 with
  | .start (some grants) call => p.1.StartMeets call grants
  | .retry call => p.1.AgainMeets call true
  | .rollback call => p.1.AgainMeets call false
  | _ => True

end

/-!
## The stored parameters are the accepted ones

An event keeps the stored parameters exactly if it meets the condition, and so does a run.
-/

open Tacker.Fields (str)

variable {ρ : Type} {s u : State ρ} {call : Call} {grants : Grants} {filled used : VimInfos}
  {p : OperationParams ρ} {out : Memory ρ × Bool}

/-! ## Parameters that are left as they are -/

lemma with_eq_self {vimConnectionInfo : Option VimInfos} {additionalParams : Option Pairs} :
    { p with vimConnectionInfo := vimConnectionInfo, additionalParams := additionalParams } = p ↔
      vimConnectionInfo = p.vimConnectionInfo ∧ additionalParams = p.additionalParams := by
  cases p
  simp only [OperationParams.mk.injEq, and_true]

lemma map_const_eq_self {infos : Option VimInfos} {used : VimInfos} :
    infos.map (fun _ => used) = infos ↔ ∀ i, infos = some i → used = i := by
  cases infos with
  | none => simp
  | some i =>
    rw [Option.map_some, Option.some.injEq]
    constructor
    · rintro same _ ⟨⟩
      exact same
    · intro same
      exact same i rfl

lemma settled_iff {selects : Bool} (uses : usedInfos call.db p.vimConnectionInfo filled = some used) :
    (p.vimConnectionInfo.map fun _ => settle selects used) = p.vimConnectionInfo ↔
      ∀ infos, p.vimConnectionInfo = some infos →
        ConnectionsKept call.db selects infos filled := by
  rw [map_const_eq_self]
  constructor
  · intro same infos there
    rw [there] at uses
    exact (settle_eq_iff uses).mp (same infos there)
  · intro kept infos there
    rw [there] at uses
    exact (settle_eq_iff uses).mpr (kept infos there)

lemma driven_iff {going : Going} {addResources : Option (List ResourceDef)} :
    (if going.usesHelm used then
      p.additionalParams.map fun pairs => (helmParameters addResources pairs).1
      else p.additionalParams) = p.additionalParams ↔
      DriverKeeps addResources going used p.additionalParams := by
  rw [DriverKeeps]
  cases going.usesHelm used with
  | false => simp
  | true =>
    rw [if_pos rfl]
    cases p.additionalParams with
    | none => simp
    | some pairs => simp [helmParameters_eq_self]

lemma usesHelm_settle {going : Going} {selects : Bool} :
    going.usesHelm (settle selects used) = going.usesHelm used := by
  rw [Going.usesHelm, Going.usesHelm]
  cases selects with
  | false => rfl
  | true =>
    cases going.handedBack with
    | none => rw [Option.getD_none, Option.getD_none, settle, if_pos rfl, selected_select]
    | some infos => rfl

lemma settle_settle {selects : Bool} {infos : VimInfos} (same : settle true used = infos) :
    settle selects infos = infos := by
  cases selects with
  | false => rfl
  | true =>
    rw [← same]
    exact select_select

/-! ## Calls -/

/-- An event adds updates, of which the last is the one that is stored; they all are what was stored
before exactly if the condition holds. -/
def Spec (s u : State ρ) (meets : Prop) : Prop :=
  ∃ new, u.updates = s.updates ++ new ∧
    u.operationParams = new.getLast?.getD s.operationParams ∧
    ((∀ params ∈ new, params = s.operationParams) ↔ meets)

lemma spec_update {operationState : LcmOperationState} {meets : Prop}
    (iff : p = s.operationParams ↔ meets) : Spec s (s.update operationState p) meets := by
  refine ⟨[p], rfl, rfl, ?_⟩
  rw [← iff]
  simp

lemma spec_ended {done operationState : LcmOperationState} {meets : Prop} (stored : Option Grants)
    (iff : (p = s.operationParams ∧
      (call.finishes = true → out.1.params = s.operationParams)) ↔ meets) :
    Spec s ((State.update { s with grants := stored } operationState p).ended call done out)
      meets := by
  rw [State.ended, ← iff]
  cases call.finishes with
  | false => exact ⟨[p], rfl, rfl, by simp⟩
  | true => exact ⟨[p, out.1.params], by simp [State.update], rfl, by simp⟩

/-- The parameters after `post_grant`, for an instantiation. -/
lemma postGrant_posted (s : State ρ) (call : Call) (grants : Grants) (starting : Bool)
    (instantiates : s.operation = .instantiate) :
    Posted call.db starting { params := s.operationParams, granted := grants.2 }
      (s.postGrant call starting (some grants)) := by
  rw [State.postGrant, if_pos instantiates]
  exact posted rfl

/-- The process of an instantiation, from connections that are settled. -/
lemma processed_iff (starting : Bool)
    (instantiates : s.operation = .instantiate)
    (infosOf : out.1.vimInfos = settle starting used)
    (paramsOf : out.1.params = { s.operationParams with
      vimConnectionInfo := s.operationParams.vimConnectionInfo.map fun _ => settle starting used }) :
    (s.process call (some grants) out.1).1.params = s.operationParams ↔
      (s.operationParams.vimConnectionInfo.map fun _ =>
        settle call.going.picks (settle starting used)) = s.operationParams.vimConnectionInfo ∧
      DriverKeeps grants.1 call.going used s.operationParams.additionalParams := by
  rw [State.process, if_pos instantiates, process_params, infosOf, usesHelm_settle, paramsOf,
    Option.map_map]
  apply Iff.trans (with_eq_self (p := s.operationParams))
  exact and_congr Iff.rfl driven_iff

/-- What a start must meet, once the connections are known. -/
lemma startMeets_iff (instantiates : s.operation = .instantiate)
    (filling : fill call.db grants.2 = some filled)
    (uses : usedInfos call.db s.operationParams.vimConnectionInfo filled = some used) :
    s.StartMeets call grants ↔
      (s.operationParams.vimConnectionInfo.map fun _ => settle true used) =
        s.operationParams.vimConnectionInfo ∧
      ((selected used).any (vimTypeCheck s.operationParams.additionalParams) = true →
        call.saved = true → call.finishes = true →
        DriverKeeps grants.1 call.going used s.operationParams.additionalParams) := by
  rw [settled_iff uses]
  constructor
  · intro meets
    obtain ⟨kept, drives⟩ := meets instantiates filled filling
    exact ⟨kept, drives used uses⟩
  · rintro ⟨kept, drives⟩ _ filled' filling'
    obtain rfl := Option.some.inj (filling.symm.trans filling')
    refine ⟨kept, fun used' uses' => ?_⟩
    obtain rfl := Option.some.inj (uses.symm.trans uses')
    exact drives

/-- The parameters with other connections. -/
lemma with_infos_eq_self {vimConnectionInfo : Option VimInfos} :
    { p with vimConnectionInfo := vimConnectionInfo } = p ↔
      vimConnectionInfo = p.vimConnectionInfo := by
  apply Iff.trans (with_eq_self (p := p))
  exact and_iff_left rfl

/-- The connections that are settled stay settled. -/
lemma map_settle_settle {selects : Bool}
    (same : (p.vimConnectionInfo.map fun _ => settle true used) = p.vimConnectionInfo) :
    (p.vimConnectionInfo.map fun _ => settle selects (settle true used)) =
      p.vimConnectionInfo := by
  rw [map_const_eq_self] at same ⊢
  intro infos there
  rw [same infos there]
  exact settle_settle (same infos there)

/-- A start of an instantiation. -/
lemma started_spec (instantiates : s.operation = .instantiate) :
    Spec s (s.started call (some grants)) (s.StartMeets call grants) := by
  show Spec s (s.posted call grants (s.postGrant call true (some grants))) _
  have posted := postGrant_posted s call grants true instantiates
  generalize s.postGrant call true (some grants) = out at posted ⊢
  cases posted with
  | unknown none =>
    apply spec_update
    refine ⟨fun _ _ filled filling => ?_, fun _ => rfl⟩
    rw [none] at filling
    cases filling
  | @noVim _ filled filling uses same refused =>
    rw [State.posted, refused]
    apply spec_update
    refine ⟨fun _ _ filled' filling' => ?_, fun _ => same⟩
    obtain rfl := Option.some.inj (filling.symm.trans filling')
    constructor
    · intro infos there
      rw [there] at uses
      exact (kept_of_none _ uses).2
    · intro used uses'
      rw [uses] at uses'
      cases uses'
  | @settled _ filled used filling uses infosOf paramsOf checked =>
    have checks : out.2 = (selected used).any (vimTypeCheck s.operationParams.additionalParams) :=
      checked
    rw [startMeets_iff instantiates filling uses, State.posted, ← checks]
    have first : out.1.params = s.operationParams ↔
        (s.operationParams.vimConnectionInfo.map fun _ => settle true used) =
          s.operationParams.vimConnectionInfo := by
      rw [paramsOf]
      exact with_infos_eq_self
    by_cases stored : out.2 = true ∧ call.saved = true
    · rw [if_pos (by rw [stored.1, stored.2]; rfl)]
      apply spec_ended (some (grants.1, out.1.granted))
      rw [first]
      constructor
      · rintro ⟨same, ends⟩
        exact ⟨same, fun _ _ finishes =>
          ((processed_iff true instantiates infosOf paramsOf).mp (ends finishes)).2⟩
      · rintro ⟨same, drives⟩
        exact ⟨same, fun finishes => (processed_iff true instantiates infosOf paramsOf).mpr
          ⟨map_settle_settle same, drives stored.1 stored.2 finishes⟩⟩
    · rw [if_neg (by simpa using stored)]
      apply spec_update
      rw [first]
      exact ⟨fun same => ⟨same, fun ok saved => absurd ⟨ok, saved⟩ stored⟩, And.left⟩

/-- The way back of an instantiation, from connections that are settled. -/
lemma takenBack_iff (instantiates : s.operation = .instantiate)
    (paramsOf : out.1.params = { s.operationParams with
      vimConnectionInfo := s.operationParams.vimConnectionInfo.map fun _ => used }) :
    (s.takeBack call out.1).1.params = s.operationParams ↔
      (s.operationParams.vimConnectionInfo.map fun _ => settle call.going.picks used) =
        s.operationParams.vimConnectionInfo := by
  rw [State.takeBack, if_pos instantiates, rollback_params, paramsOf, Option.map_map]
  exact with_infos_eq_self (p := s.operationParams)

/-- Whatever is done with the memory after `post_grant`, if it leaves the settled connections and
the values of the chart as told. -/
lemma again_iff {drives : Bool} {f : Memory ρ → Memory ρ × Bool}
    (known : s.grants = some grants) (instantiates : s.operation = .instantiate)
    (posted : Posted call.db false { params := s.operationParams, granted := grants.2 } out)
    (does : ∀ used, out.1.vimInfos = used → out.1.params = { s.operationParams with
        vimConnectionInfo := s.operationParams.vimConnectionInfo.map fun _ => used } →
      ((f out.1).1.params = s.operationParams ↔
        (s.operationParams.vimConnectionInfo.map fun _ => settle call.going.picks used) =
          s.operationParams.vimConnectionInfo ∧
        (drives = true →
          DriverKeeps grants.1 call.going used s.operationParams.additionalParams))) :
    (call.finishes = true → (if out.2 then f out.1 else out).1.params = s.operationParams) ↔
      s.AgainMeets call drives := by
  have meets_iff : s.AgainMeets call drives ↔ ∀ filled, fill call.db grants.2 = some filled →
      call.finishes = true →
      (∀ infos, s.operationParams.vimConnectionInfo = some infos →
        ConnectionsKept call.db call.going.picks infos filled) ∧
      (∀ used, usedInfos call.db s.operationParams.vimConnectionInfo filled = some used →
        drives = true →
        DriverKeeps grants.1 call.going used s.operationParams.additionalParams) := by
    constructor
    · intro meets filled filling
      exact meets instantiates grants filled known filling
    · intro meets _ grants' filled known' filling
      obtain rfl := Option.some.inj (known.symm.trans known')
      exact meets filled filling
  rw [meets_iff]
  cases posted with
  | unknown none =>
    refine ⟨fun _ filled filling => ?_, fun _ _ => rfl⟩
    rw [none] at filling
    cases filling
  | @noVim _ filled filling uses same refused =>
    rw [refused]
    refine ⟨fun _ filled' filling' _ => ?_, fun _ _ => same⟩
    obtain rfl := Option.some.inj (filling.symm.trans filling')
    constructor
    · intro infos there
      rw [there] at uses
      exact (kept_of_none _ uses).2
    · intro used uses'
      rw [uses] at uses'
      cases uses'
  | @settled _ filled used filling uses infosOf paramsOf checked =>
    have granted : out.2 = true := checked
    rw [granted, if_pos rfl, does used infosOf paramsOf, settled_iff uses]
    constructor
    · intro ends filled' filling' finishes
      obtain rfl := Option.some.inj (filling.symm.trans filling')
      refine ⟨(ends finishes).1, fun used' uses' => ?_⟩
      obtain rfl := Option.some.inj (uses.symm.trans uses')
      exact (ends finishes).2
    · intro meets finishes
      obtain ⟨kept, drives⟩ := meets filled filling finishes
      exact ⟨kept, drives used uses⟩

/-- A call for another operation does not touch the parameters. -/
lemma again_other {drives : Bool} (other : s.operation ≠ .instantiate) :
    (call.finishes = true → s.operationParams = s.operationParams) ↔ s.AgainMeets call drives :=
  ⟨fun _ instantiates => absurd instantiates other, fun _ _ => rfl⟩

/-- A retry. -/
lemma retried_spec : Spec s ((s.update .processing s.operationParams).ended call .completed
    (s.resumed call (s.postGrant call false s.grants))) (s.AgainMeets call true) := by
  apply spec_ended s.grants
  rw [and_iff_right rfl]
  by_cases instantiates : s.operation = .instantiate
  · cases known : s.grants with
    | none =>
      rw [State.resumed, State.postGrant.eq_def, if_pos instantiates]
      refine ⟨fun _ _ grants filled known' => ?_, fun _ _ => rfl⟩
      rw [known] at known'
      cases known'
    | some grants =>
      rw [State.resumed, known]
      apply again_iff known instantiates (postGrant_posted s call grants false instantiates)
      intro used infosOf paramsOf
      rw [processed_iff false instantiates infosOf paramsOf]
      exact and_congr Iff.rfl ⟨fun keeps _ => keeps, fun keeps => keeps rfl⟩
  · rw [State.resumed, State.postGrant.eq_def, if_neg instantiates, if_pos rfl, State.process,
      if_neg instantiates]
    exact again_other instantiates

/-- A rollback. -/
lemma rolledBack_spec : Spec s ((s.update .rollingBack s.operationParams).ended call .rolledBack
    (s.reverted call (s.postGrant call false s.grants))) (s.AgainMeets call false) := by
  apply spec_ended s.grants
  rw [and_iff_right rfl]
  by_cases instantiates : s.operation = .instantiate
  · cases known : s.grants with
    | none =>
      rw [State.reverted, State.postGrant.eq_def, if_pos instantiates]
      refine ⟨fun _ _ grants filled known' => ?_, fun _ _ => rfl⟩
      rw [known] at known'
      cases known'
    | some grants =>
      rw [State.reverted]
      apply again_iff known instantiates (postGrant_posted s call grants false instantiates)
      intro used infosOf paramsOf
      rw [takenBack_iff instantiates paramsOf]
      exact (and_iff_left fun drives => absurd drives Bool.false_ne_true).symm
  · rw [State.reverted, State.postGrant.eq_def, if_neg instantiates, if_pos rfl, State.takeBack,
      if_neg instantiates]
    exact again_other instantiates

/-- A start, of any operation. -/
lemma start_spec {granted : Option Grants} :
    Spec s (s.started call granted) (Meets (s, .start granted call)) := by
  cases granted with
  | none => exact spec_update ⟨fun _ => trivial, fun _ => rfl⟩
  | some grants =>
    by_cases instantiates : s.operation = .instantiate
    · exact started_spec instantiates
    · have vacuous : s.StartMeets call grants := fun eq => absurd eq instantiates
      show Spec s (s.posted call grants (s.postGrant call true (some grants)))
        (s.StartMeets call grants)
      rw [State.postGrant.eq_def, if_neg instantiates, State.posted, State.process,
        if_neg instantiates]
      cases call.saved with
      | true => exact spec_ended _ ⟨fun _ => vacuous, fun _ => ⟨rfl, fun _ => rfl⟩⟩
      | false => exact spec_update ⟨fun _ => vacuous, fun _ => rfl⟩

/-- What an event does to the stored parameters. -/
lemma step_spec {e : Event} (st : StepOf State.step s e u) : Spec s u (Meets (s, e)) := by
  cases e with
  | start granted call =>
    obtain ⟨-, ⟨⟩⟩ := Option.ite_none_right_eq_some.mp st
    exact start_spec
  | modify call =>
    obtain ⟨-, ⟨⟩⟩ := Option.ite_none_right_eq_some.mp st
    rw [State.ended]
    split
    · exact spec_update ⟨fun _ => trivial, fun _ => rfl⟩
    · exact ⟨[], (List.append_nil _).symm, rfl, by simp [Meets]⟩
  | retry call =>
    obtain ⟨-, ⟨⟩⟩ := Option.ite_none_right_eq_some.mp st
    exact retried_spec
  | rollback call =>
    obtain ⟨-, ⟨⟩⟩ := Option.ite_none_right_eq_some.mp st
    exact rolledBack_spec
  | fail =>
    obtain ⟨-, ⟨⟩⟩ := Option.ite_none_right_eq_some.mp st
    exact spec_update ⟨fun _ => trivial, fun _ => rfl⟩
  | restart =>
    have iff : s.operationParams = s.operationParams ↔ Meets (s, Event.restart) :=
      ⟨fun _ => trivial, fun _ => rfl⟩
    rw [StepOf, State.step] at st
    split at st
    · obtain rfl := Option.some.inj st
      exact spec_update iff
    · obtain rfl := Option.some.inj st
      exact spec_update iff
    · obtain rfl := Option.some.inj st
      exact spec_update iff
    · cases st

/-! ## Runs -/

variable {operation : LcmOperationType} {accepted : OperationParams ρ} {tr : List (State ρ × Event)}

/-- While all updates wrote the accepted parameters, these are what is stored. -/
lemma stored_of_updates (run : Run (StepOf State.step) (State.accepted operation accepted) tr s)
    (kept : ∀ params ∈ s.updates, params = accepted) : s.operationParams = accepted := by
  induction run with
  | nil => rfl
  | snoc run st ih =>
    obtain ⟨new, updates, stored, -⟩ := step_spec st
    rw [updates] at kept
    have before := ih fun params mem => kept params (List.mem_append_left new mem)
    rw [stored]
    cases last : new.getLast? with
    | none => exact before
    | some params =>
      exact kept params (List.mem_append_right _ (List.mem_of_getLast? last))

/-- All updates of an occurrence write the accepted parameters exactly if every event meets the
condition in the state it finds. -/
theorem parameters_stored_iff
    (run : Run (StepOf State.step) (State.accepted operation accepted) tr s) :
    (∀ params ∈ s.updates, params = accepted) ↔ Guarded Meets tr := by
  induction run with
  | nil =>
    refine ⟨fun _ => .nil, fun _ params mem => ?_⟩
    exact List.mem_singleton.mp mem
  | @snoc tr t e u run st ih =>
    obtain ⟨new, updates, -, exactly⟩ := step_spec st
    rw [updates, Guarded.append, Guarded.singleton, ← ih, ← exactly]
    constructor
    · intro kept
      have before (params) (mem : params ∈ t.updates) : params = accepted :=
        kept params (List.mem_append_left new mem)
      refine ⟨before, fun params mem => ?_⟩
      rw [stored_of_updates run before]
      exact kept params (List.mem_append_right _ mem)
    · rintro ⟨before, after⟩ params mem
      rcases List.mem_append.mp mem with mem | mem
      · exact before params mem
      · rw [after params mem]
        exact stored_of_updates run before

/-- A connection to OpenStack, by the name of its VIM. -/
def openstackVim (vimId : String) : VimConnectionInfo where
  vimId := some vimId
  vimType := some "ETSINFV.OPENSTACK_KEYSTONE.V_3"
  interfaceInfo := some .empty
  accessInfo := some .empty

/-- A request with a connection. -/
def requestVia (vimId : String) : OperationParams Unit where
  vimConnectionInfo := some ((∅ : VimInfos).put ("vim1", openstackVim vimId))
  others := ()

/-- An instantiation with a connection of the grant under the name of the one that is requested. -/
def grantedVia (vimId : String) : Event :=
  .start (some (some [], some ((∅ : VimInfos).put ("vim1", openstackVim vimId))))
    { db := ⟨fun _ => none, none⟩, going := { completes := false } }

/-- What is stored after the start, the grant naming the requested connection. -/
def failedVia (vimId : String) : State Unit where
  operation := .instantiate
  operationState := .failedTemp
  operationParams := requestVia vimId
  grants := some (some [], some ((∅ : VimInfos).put ("vim1", openstackVim vimId)))
  updates := [requestVia vimId, requestVia vimId, requestVia vimId]

/-- An instantiation that fails and is retried, with a grant that repeats the connection. -/
theorem parameters_stored_after_retry :
    ∃ tr s, Run (StepOf State.step) (State.accepted .instantiate (requestVia "a")) tr s ∧
      s.updates.length = 5 ∧
      ((∀ params ∈ s.updates, params = requestVia "a") ↔ Guarded Meets tr) := by
  have run : ∃ tr s, Run (StepOf State.step) (State.accepted .instantiate (requestVia "a")) tr s ∧
      s.updates.length = 5 :=
    ⟨_, _, .snoc (.snoc .nil (t := State.accepted .instantiate (requestVia "a"))
      (e := grantedVia "a") (u := failedVia "a") rfl)
      (e := Event.retry { db := ⟨fun _ => none, none⟩ }) rfl, rfl⟩
  obtain ⟨tr, s, run, updates⟩ := run
  exact ⟨tr, s, run, updates, parameters_stored_iff run⟩

/-- The grant names another VIM than the request does, and this is what is stored. -/
theorem parameters_changed_by_grant :
    ∃ tr s, Run (StepOf State.step) (State.accepted .instantiate (requestVia "a")) tr s ∧
      s.operationState = .failedTemp ∧ s.operationParams = requestVia "b" ∧
      ¬ ∀ params ∈ s.updates, params = requestVia "a" := by
  refine ⟨_, _, .snoc .nil (e := grantedVia "b") rfl, rfl, rfl, fun kept => ?_⟩
  have same : requestVia "b" = requestVia "a" :=
    kept (requestVia "b") (List.mem_cons_of_mem _ List.mem_cons_self)
  have names := congrArg (fun params => params.vimConnectionInfo.map fun infos =>
    infos.rows.map fun item => item.2.vimId) same
  exact absurd names (by decide)

end Tacker.OpParams
