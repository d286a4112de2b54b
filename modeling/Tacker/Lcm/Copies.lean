import Tacker.Lcm.Database
import Tacker.Lcm.Driver
import Tacker.Lcm.Steps

/-!
# Transactions on an occurrence

The database seen from outside: which transactions change it, and how each may change an
occurrence. The handlers refine this transition system (`Tacker.Lcm.Copies`): a step of the system
leaves the database as it is or is one of these transactions.

A transaction of a handler writes a copy of a row that may be out of date. `G` says that the
copies are known to be current: the facts that depend on it are stated under `G`, so that one
development serves the runs in which this is assumed and those in which it is not.
-/

namespace Tacker.Lcm

open Tacker.Basis Tacker.Objects

section

/-! ## Operation states -/

/-- The states in which the specification says that an operation is in progress. -/
def isActive : LcmOperationState → Bool
  | .starting | .processing | .failedTemp | .rollingBack => true
  | .completed | .failed | .rolledBack => false

/-- The states an occurrence may be stored with next. -/
def successors : LcmOperationState → List LcmOperationState
  | .starting => [.processing, .rolledBack]
  | .processing => [.completed, .failedTemp]
  | .failedTemp => [.processing, .rollingBack, .failed]
  | .rollingBack => [.rolledBack, .failedTemp]
  | .completed | .failed | .rolledBack => []

/-- The transitions that concern the occurrence only: no grant is stored or deleted and the
instance is left alone. -/
inductive Move : LcmOperationState → LcmOperationState → Prop where
  | refuse : Move .starting .rolledBack
  | suspend : Move .processing .failedTemp
  | suspendRollback : Move .rollingBack .failedTemp
  | retry : Move .failedTemp .processing
  | rollback : Move .failedTemp .rollingBack

lemma Move.legal {src dst} (mv : Move src dst) : dst ∈ successors src := by
  cases mv <;> decide

lemma Move.ne_starting {src dst} (mv : Move src dst) : dst ≠ .starting := by
  cases mv <;> decide

lemma ne_starting_of_legal {src dst} (legal : dst ∈ successors src) : dst ≠ .starting := by
  cases src <;> cases dst <;> simp_all [successors]

lemma isActive_of_legal {src dst} (legal : dst ∈ successors src) : isActive src = true := by
  cases src <;> simp_all [successors, isActive]

/-! ## Transactions -/

/-- The grant records a handler holds are those of the occurrence. -/
def GrantsOf (occ : LcmOpOcc) : Option (GrantRequest × Grant) → Prop
  | none => occ.operation = .modifyInfo
  | some (grantReq, grant) => occ.operation ≠ .modifyInfo ∧
      grantReq.vnfLcmOpOccId = occ.id ∧ occ.grantId = some grant.id

/-- `occ` is written over `row`, which is known to be in state `src` if copies are current. -/
structure Rewrites (G : Prop) (db : Db) (row occ : LcmOpOcc) (src : LcmOperationState) : Prop where
  get : db.lcmoccs.get occ.id = some row
  params : occ.operationParams = row.operationParams
  source : G → row.operationState = src
  grantId : G → src ≠ .starting → occ.grantId = row.grantId

/-- The transactions that write a stored occurrence, some of them with the instance. -/
inductive Write (vnfd : String → Vnfd) (G : Prop) (db : Db) : Db → Prop where
  | granted {row occ grantReq grant db'} (rw : Rewrites G db row occ .starting)
      (state : occ.operationState = .processing)
      (own : GrantsOf occ (some (grantReq, grant)))
      (eq : db.saveGrants occ grantReq grant = some db') : Write vnfd G db db'
  | move {row occ src} (rw : Rewrites G db row occ src) (mv : Move src occ.operationState) :
      Write vnfd G db (db.updateLcmocc occ)
  | complete {row occ inst grants answer} (rw : Rewrites G db row occ .processing)
      (state : occ.operationState = .completed) (own : GrantsOf occ grants)
      (eq : process (vnfd (vnfdIdFor occ.operationParams db.inst)) occ.operationParams answer
        db.inst = .ok inst) :
      Write vnfd G db (db.finish (some inst) occ grants)
  | rolledBack {row occ inst grants answer} (rw : Rewrites G db row occ .rollingBack)
      (state : occ.operationState = .rolledBack) (own : GrantsOf occ grants)
      (eq : rollback occ.operationParams answer db.inst = .ok inst) :
      Write vnfd G db (db.finish
        (if rollbackStoresInst occ.operationParams then some inst else none) occ grants)
  | failed {row occ grants} (rw : Rewrites G db row occ .failedTemp)
      (state : occ.operationState = .failed) (own : GrantsOf occ grants) :
      Write vnfd G db (db.finish none occ grants)

/-- The transactions. -/
inductive Tx (vnfd : String → Vnfd) (G : Prop) (db : Db) : Db → Prop where
  | create {occ db'} (state : occ.operationState = initialState occ.operation)
      (eq : db.createLcmocc occ = some db') : Tx vnfd G db db'
  | write {db'} (w : Write vnfd G db db') : Tx vnfd G db db'
  | sync {info} : Tx vnfd G db (db.updateInst { db.inst with instantiatedVnfInfo := some info })

/-- What a transaction does to the occurrences: it adds one, it rewrites one, or none. -/
inductive Rows (G : Prop) (db db' : Db) : Prop where
  | add {occ} (state : occ.operationState = initialState occ.operation)
      (fresh : db.lcmoccs.get occ.id = none)
      (get : ∀ id, db'.lcmoccs.get id = if occ.id = id then some occ else db.lcmoccs.get id)
  | rewrite {row occ src} (rw : Rewrites G db row occ src)
      (legal : occ.operationState ∈ successors src)
      (get : ∀ id, db'.lcmoccs.get id =
        if occ.id = id then some (occ.mergeInto row) else db.lcmoccs.get id)
  | same (get : ∀ id, db'.lcmoccs.get id = db.lcmoccs.get id)

variable {vnfd : String → Vnfd} {G : Prop} {db db' : Db}

theorem Write.rows (w : Write vnfd G db db') :
    ∃ row occ src, Rewrites G db row occ src ∧ occ.operationState ∈ successors src ∧
      ∀ id, db'.lcmoccs.get id =
        if occ.id = id then some (occ.mergeInto row) else db.lcmoccs.get id := by
  cases w with
  | granted rw state _ eq =>
    obtain ⟨-, eq, -⟩ := Db.saveGrants_inv eq
    refine ⟨_, _, _, rw, by simp [state, successors], fun id => ?_⟩
    rw [eq, Db.get_updateLcmocc rw.get]
  | move rw mv => exact ⟨_, _, _, rw, mv.legal, fun id => Db.get_updateLcmocc rw.get⟩
  | complete rw state | rolledBack rw state | failed rw state =>
    refine ⟨_, _, _, rw, by simp [state, successors], fun id => ?_⟩
    rw [Db.finish_lcmoccs, Db.get_updateLcmocc rw.get]

theorem Tx.rows (tx : Tx vnfd G db db') : Rows G db db' := by
  cases tx with
  | create state eq =>
    obtain ⟨fresh, -, -, -, get⟩ := Db.createLcmocc_inv eq
    exact .add state fresh get
  | write w =>
    obtain ⟨row, occ, src, rw, legal, get⟩ := w.rows
    exact .rewrite rw legal get
  | sync => exact .same fun _ => rfl

/-- Occurrences stay stored with their parameters, none becomes STARTING, and the grant of one that
has left STARTING stays the same. -/
def Evolves (G : Prop) (db db' : Db) : Prop :=
  ∀ id row, db.lcmoccs.get id = some row → ∃ row', db'.lcmoccs.get id = some row' ∧
    row'.operationParams = row.operationParams ∧
    (row'.operationState = .starting → row.operationState = .starting) ∧
    (G → row.operationState ≠ .starting → row'.grantId = row.grantId)

lemma Evolves.refl : Evolves G db db :=
  fun _ row get => ⟨row, get, rfl, fun h => h, fun _ _ => rfl⟩

theorem Rows.evolves (rows : Rows G db db') : Evolves G db db' := by
  intro id row₀ get₀
  cases rows with
  | add _ fresh get =>
    refine ⟨row₀, ?_, rfl, fun h => h, fun _ _ => rfl⟩
    rw [get, if_neg]
    · exact get₀
    · rintro rfl
      simp [fresh] at get₀
  | @rewrite row occ src rw legal get =>
    by_cases same : occ.id = id
    · subst same
      obtain rfl : row₀ = row := Option.some.inj (get₀.symm.trans rw.get)
      refine ⟨occ.mergeInto row₀, by rw [get, if_pos rfl], rw.params, ?_, ?_⟩
      · exact fun starting => absurd starting (ne_starting_of_legal legal)
      · intro g ne
        have eq := rw.grantId g (rw.source g ▸ ne)
        simp [LcmOpOcc.mergeInto, eq]
    · exact ⟨row₀, by rw [get, if_neg same]; exact get₀, rfl, fun h => h, fun _ _ => rfl⟩
  | same get => exact ⟨row₀, by rw [get]; exact get₀, rfl, fun h => h, fun _ _ => rfl⟩

end

/-!
## Copies of occurrences

What the handlers know of the rows they hold copies of. The handlers of the conductor and `fail`
load the occurrence before they wait for the lock and decide on that copy; a run in which each of
them finds the stored state unchanged when it gets the lock is one without stale copies. In such
runs the copy of a handler that works is current until it is stored again, and every step of the
system that changes the database is one of the transactions of `Tacker.Lcm.Transactions`.
-/

/-! ## Stale copies -/

/-- The stored state of an occurrence. -/
def Db.stateOf (db : Db) (id : Uuid) : Option LcmOperationState :=
  (db.lcmoccs.get id).map LcmOpOcc.operationState

/-- The copy on which a waiting handler will act is in the state that is stored. -/
def Thread.upToDate (db : Db) : Thread → Bool
  | .wait m occ =>
    occ.operationState = m.expected → db.stateOf occ.id = some occ.operationState
  | .lockTask .fail occ =>
    occ.operationState = .failedTemp → db.stateOf occ.id = some occ.operationState
  | _ => true

/-- The step is not one in which a handler gets the lock with a stale copy. -/
def NotStale (p : State × Event) : Prop :=
  match p.2 with
  | .act t .acquire => (p.1.threads[t]?).all (Thread.upToDate p.1.db) = true
  | _ => True

instance : DecidablePred NotStale := fun p => by
  cases p with
  | mk s e =>
    cases e with
    | act t a =>
      cases a with
      | acquire => exact inferInstanceAs (Decidable (_ = true))
      | _ => exact inferInstanceAs (Decidable True)
    | _ => exact inferInstanceAs (Decidable True)

/-! ## What a copy tells about its row -/

/-- `occ` is a copy of `row`, perhaps an old one. -/
structure Copy (G : Prop) (row occ : LcmOpOcc) : Prop where
  params : row.operationParams = occ.operationParams
  starting : row.operationState = .starting → occ.operationState = .starting
  grantId : G → occ.operationState ≠ .starting → row.grantId = occ.grantId

/-- The row of the copy is stored. -/
def Held (G : Prop) (db : Db) (occ : LcmOpOcc) : Prop :=
  ∃ row, db.lcmoccs.get occ.id = some row ∧ Copy G row occ

/-- The row is stored in the state of the copy. -/
def Current (G : Prop) (db : Db) (occ : LcmOpOcc) : Prop :=
  ∃ row, db.lcmoccs.get occ.id = some row ∧ Copy G row occ ∧
    (G → row.operationState = occ.operationState)

/-- The operations that a method handles. -/
def Method.Fits : Method → LcmOperationType → Prop
  | .startLcmOp, op => op ≠ .modifyInfo
  | .modifyVnfinfo, op => op = .modifyInfo
  | .retryLcmOp, _ | .rollbackLcmOp, _ => True

/-- The occurrence of a cast is stored and its method is one for the operation. -/
def Castable (db : Db) (c : Cast) : Prop :=
  ∃ row, db.lcmoccs.get c.lcmoccId = some row ∧ c.method.Fits row.operation

/-- Rows whose state meets `P` keep their state. -/
def Spares (G : Prop) (db db' : Db) (P : LcmOperationState → Prop) : Prop :=
  G → ∀ id row, db.lcmoccs.get id = some row → P row.operationState →
    ∃ row', db'.lcmoccs.get id = some row' ∧ row'.operationState = row.operationState

variable {vnfd : String → Vnfd} {G : Prop} {db db' : Db} {row occ occ' : LcmOpOcc} {id : Uuid}
  {c : Cast} {P Q : LcmOperationState → Prop}

lemma Copy.refl : Copy G row row :=
  ⟨rfl, id, fun _ _ => rfl⟩

lemma Current.held (cur : Current G db occ) : Held G db occ := by
  obtain ⟨row, get, copy, -⟩ := cur
  exact ⟨row, get, copy⟩

lemma Held.of_get (get : db.lcmoccs.get id = some occ) : Held G db occ := by
  obtain rfl := Table.key_of_get get
  exact ⟨occ, get, .refl⟩

/-- A copy whose state is the stored one. -/
lemma Held.current (held : Held G db occ) (eq : G → db.stateOf occ.id = some occ.operationState) :
    Current G db occ := by
  obtain ⟨row, get, copy⟩ := held
  refine ⟨row, get, copy, fun g => ?_⟩
  simpa [Db.stateOf, get] using eq g

/-! ## Copies under changes made by others -/

lemma Held.evolve (held : Held G db occ) (ev : Evolves G db db') : Held G db' occ := by
  obtain ⟨row, get, copy⟩ := held
  obtain ⟨row', get', params, starting, grantId⟩ := ev _ _ get
  refine ⟨row', get', params.trans copy.params, fun st => copy.starting (starting st), ?_⟩
  intro g ne
  rw [grantId g (fun st => ne (copy.starting st))]
  exact copy.grantId g ne

lemma Castable.evolve (ok : Castable db c) (ev : Evolves G db db') : Castable db' c := by
  obtain ⟨row, get, fits⟩ := ok
  obtain ⟨row', get', params, -⟩ := ev _ _ get
  refine ⟨row', get', ?_⟩
  rw [LcmOpOcc.operation, params]
  exact fits

lemma Current.spare (cur : Current G db occ) (ev : Evolves G db db') (sp : Spares G db db' P)
    (ok : P occ.operationState) : Current G db' occ := by
  refine cur.held.evolve ev |>.current fun g => ?_
  obtain ⟨row, get, -, eq⟩ := cur
  obtain ⟨row', get', eq'⟩ := sp g _ _ get (eq g ▸ ok)
  simp [Db.stateOf, get', eq', eq g]

lemma Spares.mono (sp : Spares G db db' Q) (imp : ∀ st, P st → Q st) : Spares G db db' P :=
  fun g id row get ok => sp g id row get (imp _ ok)

lemma Spares.refl : Spares G db db P :=
  fun _ _ row get _ => ⟨row, get, rfl⟩

/-- The addition of a row spares all others. -/
lemma spares_of_create (eq : db.createLcmocc occ = some db') : Spares G db db' fun _ => True := by
  obtain ⟨fresh, -, -, -, get'⟩ := Db.createLcmocc_inv eq
  intro _ id row get _
  refine ⟨row, ?_, rfl⟩
  rw [get', if_neg]
  · exact get
  · rintro rfl
    simp [fresh] at get

/-- The rewriting of a row in state `src` spares the rows that are not in that state. -/
lemma Rewrites.spares {src : LcmOperationState} (rw : Rewrites G db row occ src)
    (get' : ∀ id, db'.lcmoccs.get id =
      if occ.id = id then some (occ.mergeInto row) else db.lcmoccs.get id) :
    Spares G db db' (· ≠ src) := by
  intro g id row₀ get ne
  refine ⟨row₀, ?_, rfl⟩
  rw [get', if_neg]
  · exact get
  · rintro rfl
    obtain rfl : row₀ = row := Option.some.inj (get.symm.trans rw.get)
    exact ne (rw.source g)

/-! ## Copies and their own writes -/

/-- What a handler with a current copy writes is a rewriting of the row. -/
lemma Current.rewrites (cur : Current G db occ) (occ' : LcmOpOcc) (id : occ'.id = occ.id)
    (params : occ'.operationParams = occ.operationParams)
    (grantId : occ.operationState ≠ .starting → occ'.grantId = occ.grantId) :
    ∃ row, Rewrites G db row occ' occ.operationState := by
  obtain ⟨row, get, copy, eq⟩ := cur
  refine ⟨row, id ▸ get, params.trans copy.params.symm, eq, fun g ne => ?_⟩
  rw [grantId ne, copy.grantId g ne]

/-- After the write the handler's copy is current again. -/
lemma Current.written (cur : Current G db occ) (id : occ'.id = occ.id)
    (grantId : occ'.grantId ≠ none ∨ occ.operationState ≠ .starting ∧ occ'.grantId = occ.grantId)
    (eq : db'.lcmoccs = (db.updateLcmocc occ').lcmoccs) : Current G db' occ' := by
  obtain ⟨row, get, copy, -⟩ := cur
  refine ⟨occ'.mergeInto row, ?_, ⟨rfl, fun st => st, fun g _ => ?_⟩, fun _ => rfl⟩
  · rw [eq, Db.get_updateLcmocc (id ▸ get), if_pos rfl]
  · rcases grantId with some | ⟨ne, same⟩
    · obtain ⟨gid, some⟩ := Option.ne_none_iff_exists'.mp some
      simp [LcmOpOcc.mergeInto, some]
    · simp [LcmOpOcc.mergeInto, same, copy.grantId g ne]

lemma GrantsOf.congr {g : Option (GrantRequest × Grant)} (own : GrantsOf occ g)
    (id : occ'.id = occ.id) (params : occ'.operationParams = occ.operationParams)
    (grantId : occ'.grantId = occ.grantId) : GrantsOf occ' g := by
  have same : occ'.operation = occ.operation := congrArg OperationParams.operation params
  cases g with
  | none => exact same.trans own
  | some g =>
    obtain ⟨op, req, gid⟩ := own
    exact ⟨same ▸ op, req.trans id.symm, grantId.trans gid⟩

lemma grantsOf_of_found {g : Option (GrantRequest × Grant)}
    (eq : db.getGrantReqAndGrant occ = .ok g) : GrantsOf occ g := by
  have inv := Db.getGrantReqAndGrant_inv eq
  cases g with
  | none => exact inv
  | some g => exact inv

end Tacker.Lcm
