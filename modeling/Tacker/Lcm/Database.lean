import Tacker.Basis.Table
import Tacker.Objects.LcmOpOcc

/-!
# The stored state of one VNF instance

The rows that belong to one VNF instance, the queries made on them and the transactions that write
them. A transaction is one function: either all of its writes are stored or none.
-/

namespace Tacker.Lcm
open Tacker.Basis Tacker.Objects

/-- The rows of one VNF instance. -/
structure Db where
  inst : VnfInstance
  lcmoccs : Table LcmOpOcc.id := ∅
  grantReqs : Table GrantRequest.vnfLcmOpOccId := ∅
  grants : Table Grant.id := ∅

namespace Db

/-! ## Queries -/

/-- `VnfLcmOpOccV2.get_by_filter(operationState=...)`. -/
def lcmoccsIn (db : Db) (opState : LcmOperationState) : List LcmOpOcc :=
  db.lcmoccs.select (fun occ => occ.operationState = opState)

/-- `check_lcmocc_in_progress`: whether it passes. Only FAILED_TEMP occurrences are looked for;
the coordinator is relied on for the others. -/
def checkLcmoccInProgress (db : Db) : Bool :=
  (db.lcmoccsIn .failedTemp).isEmpty

/-- The exception `GrantRequestOrGrantNotFound`. -/
def grantRequestOrGrantNotFound (id : Uuid) : ProblemDetails where
  status := 404
  detail := s!"GrantRequest or Grant for LCM operation {id} not found."

/-- `get_grant_req_and_grant`. -/
def getGrantReqAndGrant (db : Db) (occ : LcmOpOcc) :
    Except ProblemDetails (Option (GrantRequest × Grant)) :=
  if occ.operation = .modifyInfo then
    .ok none
  else
    match db.grantReqs.get occ.id, occ.grantId.bind db.grants.get with
    | some grantReq, some grant => .ok (some (grantReq, grant))
    | _, _ => .error (grantRequestOrGrantNotFound occ.id)

/-- `is_lcmocc_failure_status`; `none` where the code raises, which is when there is no
occurrence. -/
def isLcmoccFailureStatus (db : Db) : Option Bool :=
  let latest := db.lcmoccs.select fun occ =>
    db.lcmoccs.rows.all (fun occ' => occ'.startTime ≤ occ.startTime)
  if (db.lcmoccsIn .failedTemp).isEmpty then
    latest.head?.map (fun occ => occ.operationState = .failed)
  else
    some true

/-! ## Writes -/

/-- `lcmocc.update(context)`. -/
def updateLcmocc (db : Db) (occ : LcmOpOcc) : Db :=
  { db with lcmoccs := db.lcmoccs.put (((db.lcmoccs.get occ.id).map occ.mergeInto).getD occ) }

/-- `inst.update(context)`. -/
def updateInst (db : Db) (inst : VnfInstance) : Db :=
  { db with inst := inst.mergeInto db.inst }

/-- `lcmocc.create(context)`; it raises if the identifier is taken. -/
def createLcmocc (db : Db) (occ : LcmOpOcc) : Option Db :=
  (db.lcmoccs.insert occ).map fun lcmoccs => { db with lcmoccs := lcmoccs }

/-- The deletion of the grant records, if the handler has some. -/
def deleteGrants (db : Db) : Option (GrantRequest × Grant) → Db
  | none => db
  | some (grantReq, grant) =>
    { db with
      grantReqs := db.grantReqs.erase grantReq.vnfLcmOpOccId
      grants := db.grants.erase grant.id }

/-- The transaction of `start_lcm_op` that stores the grant records with the occurrence. -/
def saveGrants (db : Db) (occ : LcmOpOcc) (grantReq : GrantRequest) (grant : Grant) :
    Option Db := do
  let grantReqs ← db.grantReqs.insert grantReq
  let grants ← db.grants.insert grant
  return { db with grantReqs := grantReqs, grants := grants }.updateLcmocc occ

/-- The transaction that ends an operation: the instance is stored only by the handlers that
changed it. -/
def finish (db : Db) (inst : Option VnfInstance) (occ : LcmOpOcc)
    (grants : Option (GrantRequest × Grant)) : Db :=
  (((inst.map db.updateInst).getD db).updateLcmocc occ).deleteGrants grants

/-! ## What the writes change -/

variable {db db' : Db} {occ occ' : LcmOpOcc} {inst : VnfInstance} {id : Uuid}
  {grantReq : GrantRequest} {grant : Grant} {g : Option (GrantRequest × Grant)}

@[simp] lemma updateLcmocc_inst : (db.updateLcmocc occ).inst = db.inst := rfl
@[simp] lemma updateLcmocc_grantReqs : (db.updateLcmocc occ).grantReqs = db.grantReqs := rfl
@[simp] lemma updateLcmocc_grants : (db.updateLcmocc occ).grants = db.grants := rfl
@[simp] lemma updateInst_lcmoccs : (db.updateInst inst).lcmoccs = db.lcmoccs := rfl
@[simp] lemma updateInst_grantReqs : (db.updateInst inst).grantReqs = db.grantReqs := rfl
@[simp] lemma updateInst_grants : (db.updateInst inst).grants = db.grants := rfl

@[simp] lemma deleteGrants_inst : (db.deleteGrants g).inst = db.inst := by
  cases g <;> rfl

@[simp] lemma deleteGrants_lcmoccs : (db.deleteGrants g).lcmoccs = db.lcmoccs := by
  cases g <;> rfl

/-- An update of a stored row changes that row only. -/
lemma get_updateLcmocc {row : LcmOpOcc} (eq : db.lcmoccs.get occ.id = some row) :
    (db.updateLcmocc occ).lcmoccs.get id =
      if occ.id = id then some (occ.mergeInto row) else db.lcmoccs.get id := by
  simp only [updateLcmocc, eq, Option.map_some, Option.getD_some]
  exact Table.get_put

lemma createLcmocc_inv (eq : db.createLcmocc occ = some db') :
    db.lcmoccs.get occ.id = none ∧ db'.inst = db.inst ∧ db'.grantReqs = db.grantReqs ∧
      db'.grants = db.grants ∧
      ∀ id, db'.lcmoccs.get id = if occ.id = id then some occ else db.lcmoccs.get id := by
  obtain ⟨lcmoccs, ins, rfl⟩ := Option.map_eq_some_iff.mp eq
  exact ⟨Table.fresh_of_insert ins, rfl, rfl, rfl, fun _ => Table.get_insert ins⟩

lemma saveGrants_inv (eq : db.saveGrants occ grantReq grant = some db') :
    db'.inst = db.inst ∧ db'.lcmoccs = (db.updateLcmocc occ).lcmoccs ∧
      db.grantReqs.insert grantReq = some db'.grantReqs ∧
      db.grants.insert grant = some db'.grants := by
  simp only [saveGrants, Option.bind_eq_bind, Option.pure_def, Option.bind_eq_some_iff,
    Option.some.injEq] at eq
  obtain ⟨grantReqs, ins₁, grants, ins₂, rfl⟩ := eq
  exact ⟨rfl, rfl, ins₁, ins₂⟩

@[simp] lemma finish_lcmoccs {inst : Option VnfInstance} :
    (db.finish inst occ g).lcmoccs = (db.updateLcmocc occ).lcmoccs := by
  cases inst <;> simp [finish, updateLcmocc]

@[simp] lemma finish_inst {inst : Option VnfInstance} :
    (db.finish inst occ g).inst = ((inst.map (·.mergeInto db.inst)).getD db.inst) := by
  cases inst <;> simp [finish, updateInst]

lemma finish_grants {inst : Option VnfInstance} :
    (db.finish inst occ g).grantReqs = (db.deleteGrants g).grantReqs ∧
      (db.finish inst occ g).grants = (db.deleteGrants g).grants := by
  cases inst <;> cases g <;> exact ⟨rfl, rfl⟩

lemma mem_lcmoccsIn {opState : LcmOperationState} :
    occ ∈ db.lcmoccsIn opState ↔
      db.lcmoccs.get occ.id = some occ ∧ occ.operationState = opState := by
  simp [lcmoccsIn, Table.mem_select]

lemma checkLcmoccInProgress_iff :
    db.checkLcmoccInProgress = true ↔
      ∀ id occ, db.lcmoccs.get id = some occ → occ.operationState ≠ .failedTemp := by
  simp only [checkLcmoccInProgress, lcmoccsIn, List.isEmpty_iff, Table.select_eq_nil,
    decide_eq_false_iff_not, ne_eq]

/-- What `get_grant_req_and_grant` returns. -/
lemma getGrantReqAndGrant_inv (eq : db.getGrantReqAndGrant occ = .ok g) :
    match g with
    | none => occ.operation = .modifyInfo
    | some (grantReq, grant) => occ.operation ≠ .modifyInfo ∧
        grantReq.vnfLcmOpOccId = occ.id ∧ occ.grantId = some grant.id := by
  unfold getGrantReqAndGrant at eq
  split at eq
  · case isTrue modify =>
    cases eq
    exact modify
  · case isFalse other =>
    split at eq
    · case h_1 grantReq grant req gr =>
      cases eq
      obtain ⟨gid, idEq, gr⟩ := Option.bind_eq_some_iff.mp gr
      exact ⟨other, Table.key_of_get req, by rw [idEq, Table.key_of_get gr]⟩
    · cases eq

end Db

end Tacker.Lcm
