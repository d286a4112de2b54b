import Tacker.Basis.Run
import Tacker.UserData.Default
import Mathlib.Data.List.Sort

/-!
# Histories of an instance with the standard user data

The operations on an instance whose requests name the standard user data class, as the driver
`infra_drivers/openstack/openstack.py` carries them out: the updates that each submits to Heat, how
it may end, and what is stored of it. The reselection of availability zones after a failed update
and the links that the driver records are not followed up here; the latter are part of an event.
-/

namespace Tacker.UserData

open Tacker.Basis

/-! ## The VNFCs of a stack -/

/-- A resource of a stack or of one of its nested stacks, as Heat lists it. -/
structure HeatRes where
  resourceName : String
  resourceType : String
  physicalResourceId : String
  parentResource : Option String := none
  creationTime : Nat := 0
deriving DecidableEq

/-- `get_parent_resource`. -/
def getParentResource (heatRes : HeatRes) (heatReses : List HeatRes) : Option HeatRes :=
  heatRes.parentResource.bind fun parent => heatReses.find? fun res => res.resourceName = parent

/-- `int(…)` of a text of decimal digits. -/
def parseInt (digits : String) : Except Raised Nat :=
  if digits.toList ≠ [] ∧ digits.toList.all Char.isDigit then
    .ok (Nat.ofDigitChars 10 digits.toList 0)
  else .error .valueError

/-- `_get_vdu_idx`. -/
def getVduIdx (vduWithIdx : String) : Except Raised (Option Nat) :=
  match rpartition vduWithIdx with
  | none => .ok none
  | some part => some <$> parseInt part.2

/-- The `vdu_idx` of `_make_vnfc_metadata`. -/
def makeVduIdx (serverRes : HeatRes) (heatReses : List HeatRes) : Except Raised (Option Nat) :=
  match getParentResource serverRes heatReses with
  | none => .ok none
  | some parentRes =>
    match getParentResource parentRes heatReses with
    | some res =>
      if res.resourceType = "OS::Heat::AutoScalingGroup" then .ok none
      else getVduIdx parentRes.resourceName
    | none => getVduIdx parentRes.resourceName

/-- The servers of the VDUs of the flavour: `server_reses`. -/
def serverReses (vduNodes : List String) (heatReses : List HeatRes) : List HeatRes :=
  heatReses.filter fun res =>
    res.resourceType = "OS::Nova::Server" ∧ res.resourceName ∈ vduNodes

/-- A VNFC with the time its server was created. -/
def makeVnfc (heatReses : List HeatRes) (res : HeatRes) :
    Except Raised (VnfcResourceInfo × Nat) := do
  let vduIdx ← makeVduIdx res heatReses
  return (⟨res.physicalResourceId, res.resourceName, res.physicalResourceId, vduIdx⟩,
    res.creationTime)

/-- `_get_key`, compared: the index first, then the creation time. -/
def newer (vnfc vnfc' : VnfcResourceInfo × Nat) : Prop :=
  vnfc'.1.vduIdx.getD 0 < vnfc.1.vduIdx.getD 0 ∨
    vnfc'.1.vduIdx.getD 0 = vnfc.1.vduIdx.getD 0 ∧ vnfc'.2 ≤ vnfc.2

instance : DecidableRel newer :=
  fun _ _ => inferInstanceAs (Decidable (_ ∨ _))

/-- `vnfcResourceInfo` of `_make_instantiated_vnf_info`: sorted, the newest VNFC first. -/
def makeVnfcResourceInfo (vduNodes : List String) (heatReses : List HeatRes) :
    Except Raised (List VnfcResourceInfo) := do
  let vnfcs ← (serverReses vduNodes heatReses).mapM (makeVnfc heatReses)
  return (vnfcs.insertionSort newer).map Prod.fst

/-! ## Operations -/

/-- An operation with the request, the grant request and the grant that the driver has for it. -/
inductive Op where
  | instantiate (flavourId : String) (req : Req) (grantReq : GrantReq) (grant : Grant)
  | scaleOut (req : Req) (grantReq : GrantReq) (grant : Grant)
  | scaleIn (grantReq : GrantReq)
  | heal (req : Req) (grantReq : GrantReq) (grant : Grant)
  | changeExtConn (req : Req) (grant : Grant)
  | changeVnfpkg (req : Req) (grantReq : GrantReq) (grant : Grant)

namespace Op

/-- The fields that the user data class returns. -/
def fields (csar : Csar) (inst : Inst) : Op → Except Raised Fields
  | instantiate flavourId req grantReq grant =>
    StandardUserData.instantiate csar flavourId req inst grantReq grant
  | scaleOut req grantReq grant => StandardUserData.scaleOut csar req inst grantReq grant
  | scaleIn grantReq => StandardUserData.scaleIn inst grantReq
  | heal req grantReq grant => StandardUserData.heal req inst grantReq grant
  | changeExtConn req grant => StandardUserData.changeExtConn csar req inst grant
  | changeVnfpkg req grantReq grant => StandardUserData.changeVnfpkg csar req inst grantReq grant

/-- The fields of the rollback, for the operations that have one and go on with the stack. -/
def rollbackFields (csar : Csar) (inst : Inst) : Op → Except Raised Fields
  | scaleOut _ grantReq _ => StandardUserData.scaleRollback csar inst grantReq
  | changeExtConn _ _ => .ok (StandardUserData.changeExtConnRollback inst)
  | changeVnfpkg req _ grant => StandardUserData.changeVnfpkgRollback csar req inst grant
  | _ => .error .attributeError

/-- The flavour of the instance after the operation. -/
def flavourId (inst : Inst) : Op → String
  | instantiate flavourId _ _ _ => flavourId
  | _ => inst.flavourId

/-- The package of the instance after the operation. -/
def vnfdId (inst : Inst) : Op → String
  | changeVnfpkg _ grantReq _ => grantReq.dstVnfdId
  | _ => inst.vnfdId

end Op

/-! ## Rolling update -/

/-- `_get_param_third_keys`. -/
def getParamThirdKeys (res : Value) : Except Raised (List Key) := do
  let properties ← getOrEmpty res "properties"
  let names ← keysOf properties
  return names.filterMap fun name =>
    match ((properties.get? name).bind fun prop => prop.get? "get_param").bind items with
    | some (.atom (.str "nfv") :: _ :: c :: _ :: _) => (toKey c).toOption
    | _ => none

/-- `base_nfv_dict[item][key] = value` for the keys among the third ones. -/
def updateParams (thirdKeys : List Key) (newNfv : Value) (baseNfv : Value) (category : Key) :
    Except Raised Value := do
  let new ← getOrEmpty newNfv category
  let names ← keysOf new
  (names.filter (· ∈ thirdKeys)).foldlM (fun base name => do
    let value ← item new name
    setIn base category name value) baseNfv

/-- The update of one VNFC. -/
def rollingUpdate (fields : Fields) (stack : Stack) (vnfc : VnfcResourceInfo) :
    Except Raised Stack := do
  let resources ← item (fields.template.getD .null) "resources"
  let vduName := (vnfc.vduIdx.map (addIdx vnfc.vduId)).getD vnfc.vduId
  let targetRes ← item resources vduName
  let template ← setRes stack.template vduName targetRes
  let thirdKeys ← getParamThirdKeys targetRes
  let newNfv := fields.nfv.getD .null
  let nfv ← updateParams thirdKeys newNfv stack.nfv "VDU"
  let nfv ← updateParams thirdKeys newNfv nfv "CP"
  return ⟨template, nfv⟩

/-- The template of the stack with the resources that only the new template has. -/
def baseTemplate (orig new : Value) : Except Raised Value := do
  let origReses ← item orig "resources"
  let newReses ← item new "resources"
  let diff := newReses.keys.filter fun name => (origReses.get? name).isNone
  return orig.set "resources"
    (diff.foldl (fun t name => t.set name ((newReses.get? name).getD .null)) origReses)

/-- The stacks that the VNFCs are updated with, one after the other. -/
def rollingUpdates (fields : Fields) : Stack → List VnfcResourceInfo → Except Raised (List Stack)
  | _, [] => .ok []
  | stack, vnfc :: vnfcs => do
    let next ← rollingUpdate fields stack vnfc
    let rest ← rollingUpdates fields next vnfcs
    return next :: rest

/-- The VNFCs that the grant request removes. -/
def targetVnfcs (inst : Inst) (grantReq : GrantReq) : List VnfcResourceInfo :=
  inst.vnfcResourceInfo.filter fun vnfc =>
    vnfc.resourceId ∈ (grantReq.removeResources.filter fun res => res.type = "COMPUTE").map
      (·.resourceId)

/-- The stacks that an operation submits, the last one with its fields laid over what is there. -/
def Op.updates (csar : Csar) (inst : Inst) (stack : Stack) (op : Op) :
    Except Raised (List Stack) := do
  let fields ← op.fields csar inst
  match op with
  | .instantiate .. => return [⟨fields.template.getD .null, fields.nfv.getD .null⟩]
  | .changeVnfpkg _ grantReq _ =>
    let template ← baseTemplate stack.template (fields.template.getD .null)
    let rolling ← rollingUpdates fields ⟨template, stack.nfv⟩ (targetVnfcs inst grantReq)
    return rolling ++ [updateFields stack fields]
  | _ => return [updateFields stack fields]

/-! ## Events -/

/-- How an operation ends. One that fails, and one that is rolled back, has submitted some of its
updates. -/
inductive Ending where
  | completed
  | failed (reached : Nat)
  | rolledBack (reached : Nat)
deriving DecidableEq

/-- An operation with its ending, what Heat lists at the end and the links that are recorded. -/
structure Event where
  op : Op
  ending : Ending
  listed : List HeatRes := []
  extVirtualLinkInfo : List ExtVl := []
  extManagedVirtualLinkInfo : List ExtManagedVl := []

/-- The stored instance and its stack. -/
structure State where
  inst : Inst
  stack : Stack

/-- An instance of a package, before it is instantiated. -/
def State.new (vnfdId : String) : State where
  inst := { vnfdId := vnfdId, flavourId := "" }
  stack := ⟨.empty, .empty⟩

/-- `_make_instantiated_vnf_info`: the parameters are those that Heat has. -/
def Event.makeInfo (csar : Csar) (e : Event) (vnfdId flavourId : String) (nfv : Value) :
    Except Raised Inst := do
  let vnfcs ← makeVnfcResourceInfo ((csar vnfdId).vduNodes flavourId) e.listed
  return { vnfdId := vnfdId
           flavourId := flavourId
           vnfcResourceInfo := vnfcs
           extVirtualLinkInfo := e.extVirtualLinkInfo
           extManagedVirtualLinkInfo := e.extManagedVirtualLinkInfo
           nfv := nfv }

/-- The stack after the first updates. -/
def reachedStack (stack : Stack) (updates : List Stack) (reached : Nat) : Stack :=
  (updates.take reached).getLastD stack

/-- The instance that is stored after a rollback: that of a scale-out is left as it is. -/
def Event.rolledBackInst (csar : Csar) (inst : Inst) (e : Event) (nfv : Value) :
    Except Raised Inst :=
  match e.op with
  | .scaleOut .. => .ok inst
  | _ => e.makeInfo csar inst.vnfdId inst.flavourId nfv

/-- What an event makes of the instance and its stack. -/
def State.after (csar : Csar) (s : State) (e : Event) : Except Raised State := do
  let updates ← e.op.updates csar s.inst s.stack
  match e.ending with
  | .completed =>
    let stack := updates.getLastD s.stack
    let inst ← e.makeInfo csar (e.op.vnfdId s.inst) (e.op.flavourId s.inst) stack.nfv
    return ⟨inst, stack⟩
  | .failed reached => return ⟨s.inst, reachedStack s.stack updates reached⟩
  | .rolledBack reached =>
    let fields ← e.op.rollbackFields csar s.inst
    let stack := updateFields (reachedStack s.stack updates reached) fields
    let inst ← e.rolledBackInst csar s.inst stack.nfv
    return ⟨inst, stack⟩

/-- One step of a history. -/
def HistoryStep (csar : Csar) (s : State) (e : Event) (s' : State) : Prop :=
  s.after csar e = .ok s'

lemma run_of_foldlM {csar : Csar} {events : List Event} {s s' : State}
    (eq : events.foldlM (State.after csar) s = .ok s') : ∃ tr, Run (HistoryStep csar) s tr s' := by
  induction events generalizing s with
  | nil =>
    obtain rfl := foldlM_nil_ok.mp eq
    exact ⟨[], .nil⟩
  | cons e events ih =>
    obtain ⟨next, step, eq⟩ := foldlM_cons_ok.mp eq
    obtain ⟨tr, run⟩ := ih eq
    exact ⟨(s, e) :: tr, .cons step run⟩

/-- The state after a history of operations on an instance and its stack. -/
structure Reached (csar : Csar) where
  state : State
  reached : ∃ vnfdId events, Run (HistoryStep csar) (State.new vnfdId) events state

/-- The state after the events, if none of them raises. -/
def Reached.of {csar : Csar} (vnfdId : String) (events : List Event)
    (returned : (events.foldlM (State.after csar) (State.new vnfdId)).toOption.isSome = true) :
    Reached csar where
  state := (events.foldlM (State.after csar) (State.new vnfdId)).toOption.get returned
  reached := by
    obtain ⟨s, eq⟩ := Option.isSome_iff_exists.mp returned
    refine ⟨vnfdId, ?_⟩
    simp only [eq, Option.get_some]
    exact run_of_foldlM (toOption_eq_some.mp eq)

end Tacker.UserData
