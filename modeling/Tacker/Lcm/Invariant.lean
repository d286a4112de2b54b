import Tacker.Lcm.Copies

/-!
# The invariant of the system

What holds of the lock, of the copies at every program counter, of the casts and of the recovery
of the conductor, and that each step keeps it. The proof goes by the step of the thread that acts
(`ThreadStep.ok`) and by frame lemmas for the others: a thread outside the lock relies only on its
row being there, one inside it on nobody else writing that row.
-/

namespace Tacker.Lcm
open Tacker.Basis Tacker.Objects

/-! ## Definitions -/

/-- A handler of the conductor inside the lock: its copy is current, in state `st`, and so is its
copy of the instance. -/
structure Critical (G : Prop) (db : Db) (m : Method) (occ : LcmOpOcc) (inst : VnfInstance)
    (st : LcmOperationState) : Prop where
  current : Current G db occ
  fits : m.Fits occ.operation
  state : occ.operationState = st
  inst : inst = db.inst

/-- What is known at each program counter. -/
def Thread.Ok (G : Prop) (db : Db) : Thread → Prop
  | .cast _ c | .load c => Castable db c
  | .check r inst => admits r.params.operation inst.instantiationState = true
  | .create r params => params.operation = r.params.operation
  | .unlockAuto occ => Held G db occ ∧ occ.operation ≠ .modifyInfo
  | .lockTask _ occ => Held G db occ
  | .checkTask k occ =>
    Held G db occ ∧ (k = .fail → occ.operationState = .failedTemp → Current G db occ)
  | .fail occ grants =>
    Current G db occ ∧ occ.operationState = .failedTemp ∧ GrantsOf occ grants
  | .wait m occ => Held G db occ ∧ m.Fits occ.operation
  | .enter m occ => Held G db occ ∧ m.Fits occ.operation ∧
      (occ.operationState = m.expected → Current G db occ)
  | .mark m occ inst =>
    Critical G db m occ inst .failedTemp ∧ (m = .retryLcmOp ∨ m = .rollbackLcmOp)
  | .announce m occ inst => Critical G db m occ inst m.begun
  | .grant occ inst => Critical G db .startLcmOp occ inst .starting
  | .notify occ inst grantReq gr =>
    Critical G db .startLcmOp occ inst .processing ∧ GrantsOf occ (some (grantReq, gr))
  | .lookup m occ inst =>
    Critical G db m occ inst m.begun ∧ (m = .retryLcmOp ∨ m = .rollbackLcmOp)
  | .work m occ inst grants => Critical G db m occ inst m.working ∧ GrantsOf occ grants
  | .storeSync inst => inst = db.inst
  | _ => True

/-- What is known of the recovery of the conductor: the occurrences it has loaded and not stored
yet are as it loaded them. -/
def Conductor.Ok (G : Prop) (db : Db) : Conductor → Prop
  | .up | .down => True
  | .scan kinds => ∀ k ∈ kinds, k ∈ stateList
  | .recover afterState occs kinds => (∀ k ∈ kinds, k ∈ stateList) ∧
      (occs.map LcmOpOcc.id).Nodup ∧
      ∃ beforeState, (beforeState, afterState) ∈ stateList ∧
        ∀ occ ∈ occs, occ.operationState = beforeState ∧ Current G db occ

/-- The invariant. -/
structure Ok (G : Prop) (s : State) : Prop where
  locked : ∀ t th, s.threads[t]? = some th → th.owns = true → s.lock = some t
  down : s.conductor ≠ .up → ∀ th ∈ s.threads, th.inConductor = false
  threads : ∀ th ∈ s.threads, th.Ok G s.db
  casts : ∀ c ∈ s.casts, Castable s.db c
  conductor : s.conductor.Ok G s.db

lemma Ok.init {G : Prop} {inst : VnfInstance} : Ok G (State.init inst) where
  locked _ _ get := by simp [State.init] at get
  down _ _ mem := by simp [State.init] at mem
  threads _ mem := by simp [State.init] at mem
  casts _ mem := by simp [State.init] at mem
  conductor := trivial

variable {vnfd : String → Vnfd} {G : Prop} {db db' : Db} {occ occ' : LcmOpOcc}
  {inst : VnfInstance} {m : Method} {st : LcmOperationState} {t : ThreadId} {sh sh' : Shared}
  {th th' : Thread} {a : Action} {s s' : State} {e : Event}

/-! ## Frames -/

/-- A thread outside the lock relies on rows being there. -/
lemma Thread.Ok.outside (ok : th.Ok G db) (owns : th.owns = false) (ev : Evolves G db db') :
    th.Ok G db' := by
  cases th with
  | cast _ c => exact Castable.evolve ok ev
  | load c => exact Castable.evolve ok ev
  | lockTask k occ => exact Held.evolve ok ev
  | wait m occ => exact ⟨ok.1.evolve ev, ok.2⟩
  | check r inst => exact ok
  | create r params => exact ok
  | idle | lock | getInst | loadTask | lockSync => trivial
  | unlock | unlockAuto | checkTask | fail | enter | mark | announce | grant | notify | lookup
    | work | report | sync | storeSync => cases owns

lemma Critical.spare (cr : Critical G db m occ inst st) (ev : Evolves G db db')
    (sp : Spares G db db' fun _ => True) (eq : db'.inst = db.inst) :
    Critical G db' m occ inst st :=
  ⟨cr.current.spare ev sp trivial, cr.fits, cr.state, cr.inst.trans eq.symm⟩

/-- Every thread bears with changes that spare all rows and the instance. -/
lemma Thread.Ok.spare (ok : th.Ok G db) (ev : Evolves G db db')
    (sp : Spares G db db' fun _ => True) (eq : db'.inst = db.inst) : th.Ok G db' := by
  cases th with
  | cast _ c => exact Castable.evolve ok ev
  | load c => exact Castable.evolve ok ev
  | unlockAuto occ => exact ⟨ok.1.evolve ev, ok.2⟩
  | lockTask k occ => exact Held.evolve ok ev
  | checkTask k occ =>
    exact ⟨ok.1.evolve ev, fun fail st => (ok.2 fail st).spare ev sp trivial⟩
  | fail occ grants => exact ⟨ok.1.spare ev sp trivial, ok.2⟩
  | wait m occ => exact ⟨ok.1.evolve ev, ok.2⟩
  | enter m occ =>
    exact ⟨ok.1.evolve ev, ok.2.1, fun st => (ok.2.2 st).spare ev sp trivial⟩
  | mark m occ inst => exact ⟨ok.1.spare ev sp eq, ok.2⟩
  | announce m occ inst => exact Critical.spare ok ev sp eq
  | grant occ inst => exact Critical.spare ok ev sp eq
  | notify occ inst grantReq gr => exact ⟨ok.1.spare ev sp eq, ok.2⟩
  | lookup m occ inst => exact ⟨ok.1.spare ev sp eq, ok.2⟩
  | work m occ inst grants => exact ⟨ok.1.spare ev sp eq, ok.2⟩
  | storeSync inst => exact Eq.trans ok eq.symm
  | check r inst => exact ok
  | create r params => exact ok
  | idle | lock | getInst | unlock | loadTask | report | lockSync | sync =>
    trivial

/-- A thread of the API server relies on FAILED_TEMP rows only. -/
lemma Thread.Ok.server (ok : th.Ok G db) (server : th.inConductor = false)
    (ev : Evolves G db db') (sp : Spares G db db' (· = .failedTemp)) : th.Ok G db' := by
  cases th with
  | cast _ c => exact Castable.evolve ok ev
  | lockTask k occ => exact Held.evolve ok ev
  | checkTask k occ =>
    exact ⟨ok.1.evolve ev, fun fail st => (ok.2 fail st).spare ev sp st⟩
  | fail occ grants => exact ⟨ok.1.spare ev sp ok.2.1, ok.2⟩
  | check r inst => exact ok
  | create r params => exact ok
  | idle | lock | getInst | unlock | loadTask => trivial
  | unlockAuto | load | wait | enter | mark | announce | grant | notify | lookup | work | report
    | lockSync | sync | storeSync => cases server

lemma Conductor.Ok.spare {con : Conductor} (ok : con.Ok G db) (ev : Evolves G db db')
    (sp : Spares G db db' (· ≠ .failedTemp)) : con.Ok G db' := by
  cases con with
  | up | down => trivial
  | scan kinds => exact ok
  | recover afterState occs kinds =>
    obtain ⟨kinds, nodup, beforeState, mem, occs⟩ := ok
    refine ⟨kinds, nodup, beforeState, mem, fun occ in_occs => ?_⟩
    obtain ⟨st, cur⟩ := occs occ in_occs
    refine ⟨st, cur.spare ev sp ?_⟩
    rw [st]
    rintro rfl
    simp [stateList] at mem

/-! ## The thread that acts -/

lemma leave_db (th : Thread) : (sh.leave th).1.db = sh.db := by
  unfold Shared.leave
  split <;> rfl

lemma leave_casts (th : Thread) : (sh.leave th).1.casts = sh.casts := by
  unfold Shared.leave
  split <;> rfl

/-- The outcome of the last try block is stored by one of the transactions that end an
operation. -/
lemma outcome_write {answer : VimAnswer} {inst' : Option VnfInstance}
    {grants : Option (GrantRequest × Grant)} (cr : Critical G db m occ inst m.working)
    (own : GrantsOf occ grants) (eq : outcome vnfd m occ inst answer = .ok (inst', occ')) :
    Write vnfd G db (db.finish inst' occ' grants) := by
  obtain ⟨cur, -, state, rfl⟩ := cr
  by_cases rb : m = .rollbackLcmOp
  · subst rb
    cases rolled : rollback occ.operationParams answer db.inst with
    | error ex => simp [outcome, rolled, bind, Except.bind] at eq
    | ok inst =>
      simp only [outcome, rolled, bind, Except.bind, pure, Except.pure, Except.ok.injEq,
        Prod.mk.injEq] at eq
      obtain ⟨rfl, rfl⟩ := eq
      obtain ⟨row, rewr⟩ := cur.rewrites (rolledBack occ) rfl rfl fun _ => rfl
      rw [state] at rewr
      exact @Write.rolledBack _ _ _ row (rolledBack occ) inst grants answer rewr rfl
        (own.congr rfl rfl rfl) rolled
  · have eq : (process (vnfd (vnfdIdFor occ.operationParams db.inst)) occ.operationParams answer
        db.inst >>= fun inst' => return (some inst', completed m occ)) = .ok (inst', occ') := by
      cases m <;> simp_all [outcome]
    cases done : process (vnfd (vnfdIdFor occ.operationParams db.inst)) occ.operationParams answer
        db.inst with
    | error ex => simp [done, bind, Except.bind] at eq
    | ok inst =>
      simp only [done, bind, Except.bind, pure, Except.pure, Except.ok.injEq,
        Prod.mk.injEq] at eq
      obtain ⟨rfl, rfl⟩ := eq
      obtain ⟨row, rewr⟩ := cur.rewrites (completed m occ) rfl rfl fun _ => rfl
      have working : m.working = .processing := by cases m <;> simp_all [Method.working]
      rw [state, working] at rewr
      exact @Write.complete _ _ _ row (completed m occ) inst grants answer rewr rfl
        (own.congr rfl rfl rfl) done

/-- The thread neither is about to create an occurrence nor to store a synchronized instance. -/
def Thread.ordinary : Thread → Bool
  | .create _ _ | .storeSync _ => false
  | _ => true

/-- A step of a thread that neither creates an occurrence nor synchronizes the instance leaves the
database as it is or writes a stored occurrence. -/
theorem ThreadStep.write (step : ThreadStep vnfd t sh th a sh' th') (ok : th.Ok G sh.db)
    (ord : th.ordinary = true) :
    sh'.db = sh.db ∨ Write vnfd G sh.db sh'.db := by
  cases step with
  | acquire | expire | getInst | check | cast | unlockAuto | loadTask | missingTask | castTask
    | checkFail | load | missing | begin | resume | announceStart | announceModify
    | announceResume | notify | lookup | sync => exact .inl rfl
  | abort | leave => exact .inl (leave_db _)
  | create | storeSync => cases ord
  | fail =>
    obtain ⟨cur, state, own⟩ := ok
    obtain ⟨row, rewr⟩ := cur.rewrites (updateLcmoccStatus _ .failed) rfl rfl fun _ => rfl
    exact .inr (.failed (state ▸ rewr) rfl (own.congr rfl rfl rfl))
  | @mark m occ inst =>
    obtain ⟨⟨cur, -, state, -⟩, method⟩ := ok
    obtain ⟨row, rewr⟩ := cur.rewrites (updateLcmoccStatus occ m.begun) rfl rfl fun _ => rfl
    refine .inr (.move rewr ?_)
    rw [state]
    rcases method with rfl | rfl
    · exact .retry
    · exact .rollback
  | @granted occ inst grantId db occ' new eq =>
    obtain ⟨cur, fits, state, -⟩ := ok
    obtain ⟨row, rewr⟩ := cur.rewrites occ' (by rw [new]; rfl) (by rw [new]; rfl)
      fun ne => absurd state ne
    refine .inr (.granted (state ▸ rewr) (by rw [new]; rfl) ⟨?_, rfl, by rw [new]⟩ eq)
    rw [new]
    exact fits
  | @refused _ _ _ _ _ occ' new =>
    obtain ⟨cur, -, state, -⟩ := ok
    obtain ⟨row, rewr⟩ := cur.rewrites occ' (by rw [new]; rfl) (by rw [new]; rfl)
      fun ne => absurd state ne
    refine .inr (.move rewr ?_)
    rw [new, state]
    exact .refuse
  | @lookupFailed _ _ _ _ _ occ' new =>
    obtain ⟨⟨cur, -, state, -⟩, method⟩ := ok
    obtain ⟨row, rewr⟩ := cur.rewrites occ' (by rw [new]; rfl) (by rw [new]; rfl)
      fun _ => by rw [new]; rfl
    refine .inr (.move rewr ?_)
    rw [new, state]
    rcases method with rfl | rfl
    · exact .suspend
    · exact .suspendRollback
  | done eq => exact .inr (outcome_write ok.1 ok.2 eq)
  | @workFailed m _ _ _ _ _ occ' new =>
    obtain ⟨⟨cur, -, state, -⟩, -⟩ := ok
    obtain ⟨row, rewr⟩ := cur.rewrites occ' (by rw [new]; rfl) (by rw [new]; rfl)
      fun _ => by rw [new]; rfl
    refine .inr (.move rewr ?_)
    rw [new, state]
    cases m
    · exact .suspend
    · exact .suspend
    · exact .suspendRollback
    · exact .suspend

/-- A step of a thread leaves the database as it is or is a transaction. -/
theorem ThreadStep.tx (step : ThreadStep vnfd t sh th a sh' th') (ok : th.Ok G sh.db) :
    sh'.db = sh.db ∨ Tx vnfd G sh.db sh'.db := by
  cases th with
  | create r params =>
    cases step with
    | acquire _ locked => cases locked
    | abort | leave => exact .inl (leave_db _)
    | create new eq => exact .inr (.create (by rw [new]; rfl) eq)
    | expire => exact .inl rfl
  | storeSync inst =>
    cases step with
    | acquire _ locked => cases locked
    | abort | leave => exact .inl (leave_db _)
    | expire => exact .inl rfl
    | storeSync =>
      obtain rfl := ok
      exact .inr .sync
  | _ => exact (step.write ok rfl).imp_right .write

lemma checkParams_operation {params params' : OperationParams}
    (eq : checkParams inst params = .ok params') : params'.operation = params.operation := by
  cases params with
  | scale req =>
    cases checked : checkScaleLevel inst req.aspectId req.type (req.numberOfSteps.getD 1) with
    | error ex => simp [checkParams, checked, bind, Except.bind] at eq
    | ok =>
      simp only [checkParams, checked, bind, Except.bind, pure, Except.pure, Except.ok.injEq] at eq
      rw [← eq]
      rfl
  | _ => cases eq; rfl

/-- After its step a thread knows what its new program counter asks for. -/
theorem ThreadStep.ok (step : ThreadStep vnfd t sh th a sh' th') (ok : th.Ok G sh.db)
    (fresh : G → a = .acquire → th.upToDate sh.db = true) : th'.Ok G sh'.db := by
  cases step with
  | @acquire th th' free locked =>
    cases th with
    | lock r | lockSync => cases locked; trivial
    | lockTask k occ =>
      cases locked
      refine ⟨ok, fun fail state => ?_⟩
      subst fail
      exact Held.current ok fun g => by simpa [Thread.upToDate, state] using fresh g rfl
    | wait m occ =>
      cases locked
      refine ⟨ok.1, ok.2, fun state => ?_⟩
      exact Held.current ok.1 fun g => by simpa [Thread.upToDate, state] using fresh g rfl
    | _ => cases locked
  | getInst admitted => exact admitted
  | check _ eq => exact checkParams_operation eq
  | expire | abort | leave | missingTask | missing | fail | refused
    | lookupFailed | done | workFailed | storeSync => trivial
  | @create r params id now db occ new eq =>
    obtain ⟨-, -, -, -, get⟩ := Db.createLcmocc_inv eq
    have get : db.lcmoccs.get occ.id = some occ := by rw [get, if_pos rfl]
    by_cases auto : r.isAuto = true
    · rw [if_pos auto]
      refine ⟨Held.of_get get, ?_⟩
      rw [new]
      change params.operation ≠ .modifyInfo
      rw [show params.operation = r.params.operation from ok]
      cases r with
      | api => cases auto
      | autoScale | autoHeal => nofun
    · rw [if_neg auto]
      refine ⟨occ, new ▸ get, ?_⟩
      rw [new]
      change (startMethod params.operation).Fits params.operation
      unfold startMethod
      split <;> assumption
  | @cast locked c => cases locked <;> trivial
  | unlockAuto => exact ok
  | loadTask get => exact Held.of_get get
  | @castTask _ m _ _ method =>
    obtain ⟨row, get, -⟩ := ok.1
    refine ⟨row, get, ?_⟩
    rcases method with ⟨-, rfl⟩ | ⟨-, rfl⟩ <;> trivial
  | checkFail state eq => exact ⟨ok.2 rfl state, state, grantsOf_of_found eq⟩
  | load get =>
    obtain ⟨row, get', fits⟩ := ok
    obtain rfl := Option.some.inj (get.symm.trans get')
    exact ⟨Held.of_get get, fits⟩
  | @begin m _ state method =>
    refine ⟨ok.2.2 state, ok.2.1, state.trans ?_, rfl⟩
    rcases method with rfl | rfl <;> rfl
  | @resume m _ state method =>
    refine ⟨⟨ok.2.2 state, ok.2.1, state.trans ?_, rfl⟩, method⟩
    rcases method with rfl | rfl <;> rfl
  | @mark m occ inst =>
    obtain ⟨⟨cur, fits, state, rfl⟩, -⟩ := ok
    refine ⟨cur.written rfl (.inr ⟨?_, rfl⟩) rfl, fits, rfl, rfl⟩
    rw [state]
    decide
  | announceStart => exact ok
  | announceModify => exact ⟨ok, ok.fits⟩
  | announceResume method => exact ⟨ok, method⟩
  | @granted occ inst grantId db occ' new eq =>
    obtain ⟨cur, fits, -, rfl⟩ := ok
    obtain ⟨same, lcmoccs, -⟩ := Db.saveGrants_inv eq
    have written : Current G db occ' :=
      cur.written (by rw [new]; rfl) (.inl (by rw [new]; exact Option.some_ne_none _)) lcmoccs
    rw [new] at written ⊢
    exact ⟨⟨written, fits, rfl, same.symm⟩, fits, rfl, rfl⟩
  | notify => exact ok
  | @lookup m _ _ _ eq =>
    obtain ⟨⟨cur, fits, state, inst⟩, method⟩ := ok
    refine ⟨⟨cur, fits, state.trans ?_, inst⟩, grantsOf_of_found eq⟩
    rcases method with rfl | rfl <;> rfl
  | sync => rfl

/-- Casts are only added, each by a thread that stands before it. -/
lemma ThreadStep.casts (step : ThreadStep vnfd t sh th a sh' th') :
    sh'.casts = sh.casts ∨ ∃ locked c, th = .cast locked c ∧ sh'.casts = c :: sh.casts := by
  cases step with
  | @cast locked c => exact .inr ⟨locked, c, rfl, rfl⟩
  | abort | leave => exact .inl (leave_casts _)
  | _ => exact .inl rfl

/-- A thread that goes on inside the lock holds it, and takes it from nobody. -/
lemma ThreadStep.lock (step : ThreadStep vnfd t sh th a sh' th')
    (own : th.owns = true → sh.lock = some t) :
    (th'.owns = true → sh'.lock = some t) ∧
      ∀ t', t' ≠ t → sh.lock = some t' → sh'.lock = some t' := by
  have leave (th : Thread) (own : th.owns = true → sh.lock = some t) (t') (ne : t' ≠ t)
      (held : sh.lock = some t') : (sh.leave th).1.lock = some t' := by
    unfold Shared.leave
    split
    · case isTrue owns =>
      have eq := own owns
      rw [held] at eq
      exact absurd (Option.some.inj eq) ne
    · exact held
  cases step with
  | acquire free =>
    refine ⟨fun _ => rfl, fun t' ne held => ?_⟩
    rw [free] at held
    cases held
  | expire => exact ⟨fun owns => (by cases owns), fun _ _ held => held⟩
  | abort busy => exact ⟨fun owns => (by cases owns), leave _ own⟩
  | leave => exact ⟨fun owns => (by cases owns), leave _ own⟩
  | unlockAuto =>
    refine ⟨fun owns => (by cases owns), fun t' ne held => ?_⟩
    rw [own rfl] at held
    exact absurd (Option.some.inj held).symm ne
  | getInst | check => exact ⟨own, fun _ _ held => held⟩
  | @create r =>
    refine ⟨fun owns => own ?_, fun _ _ held => held⟩
    split at owns
    · case isTrue auto =>
      cases r with
      | api => cases auto
      | autoScale | autoHeal => rfl
    · exact owns
  | @cast locked =>
    refine ⟨fun owns => own ?_, fun _ _ held => held⟩
    cases locked
    · cases owns
    · rfl
  | loadTask | missingTask | load | missing =>
    exact ⟨fun owns => (by cases owns), fun _ _ held => held⟩
  | _ => exact ⟨fun _ => own rfl, fun _ _ held => held⟩

/-- A thread of the API server stays one. -/
lemma ThreadStep.server (step : ThreadStep vnfd t sh th a sh' th')
    (server : th.inConductor = false) : th'.inConductor = false := by
  cases step with
  | @acquire th th' _ locked =>
    cases th <;> cases locked <;> exact server
  | @create r =>
    split
    · case isTrue auto => simp_all [Thread.inConductor]
    · rfl
  | @cast locked => cases locked <;> rfl
  | getInst | check => exact server
  | expire | abort | leave | loadTask | missingTask | castTask | checkFail | fail => rfl
  | _ => cases server

/-- What a thread outside the lock changes spares all rows and the instance. -/
lemma ThreadStep.spares (step : ThreadStep vnfd t sh th a sh' th') (owns : th.owns = false) :
    Spares G sh.db sh'.db (fun _ => True) ∧ sh'.db.inst = sh.db.inst := by
  cases step with
  | create _ eq => exact ⟨spares_of_create eq, (Db.createLcmocc_inv eq).2.1⟩
  | abort | leave =>
    rw [leave_db]
    exact ⟨.refl, rfl⟩
  | fail | mark | granted | refused | lookupFailed | done | workFailed | storeSync => cases owns
  | _ => exact ⟨.refl, rfl⟩

/-- What a thread of the API server changes spares the rows that are not in FAILED_TEMP. -/
lemma ThreadStep.spares_server (step : ThreadStep vnfd t sh th a sh' th') (ok : th.Ok G sh.db)
    (server : th.inConductor = false) : Spares G sh.db sh'.db (· ≠ .failedTemp) := by
  cases step with
  | create _ eq => exact (spares_of_create eq).mono fun _ _ => trivial
  | fail =>
    obtain ⟨cur, state, -⟩ := ok
    obtain ⟨row, rewr⟩ := cur.rewrites (updateLcmoccStatus _ .failed) rfl rfl fun _ => rfl
    rw [state] at rewr
    refine rewr.spares fun id => ?_
    rw [Db.finish_lcmoccs, Db.get_updateLcmocc rewr.get]
  | abort | leave =>
    rw [leave_db]
    exact .refl
  | mark | granted | refused | lookupFailed | done | workFailed | storeSync => cases server
  | _ => exact .refl

/-! ## The system -/

/-- A thread of the list after one was replaced: the new one, or one of the others. -/
lemma getElem?_set_inv {ths : List Thread} {t' : ThreadId} {th'' : Thread}
    (get : (ths.set t th')[t']? = some th'') :
    (t' = t ∧ th'' = th') ∨ (t' ≠ t ∧ ths[t']? = some th'') := by
  rw [List.getElem?_set] at get
  split at get
  · case isTrue eq =>
    split at get
    · cases get
      exact .inl ⟨eq.symm, rfl⟩
    · cases get
  · case isFalse ne => exact .inr ⟨fun eq => ne eq.symm, get⟩

/-- A thread of the list after one was added. -/
lemma getElem?_spawn_inv {t' : ThreadId} {th'' : Thread}
    (get : (s.spawn th).threads[t']? = some th'') : s.threads[t']? = some th'' ∨ th'' = th := by
  have mem : th'' ∈ s.threads ∨ th'' = th := by
    simpa [State.spawn] using List.mem_of_getElem? get
  rcases mem with mem | eq
  · simp only [State.spawn, List.getElem?_append] at get
    split at get
    · exact .inl get
    · have eq := List.mem_of_getElem? get
      exact .inr (List.mem_singleton.mp eq)
  · exact .inr eq

/-- A new thread outside the lock keeps the invariant. -/
lemma Ok.spawn (ok : Ok G s) (owns : th.owns = false) (new : th.Ok G s.db)
    (down : s.conductor ≠ .up → th.inConductor = false) : Ok G (s.spawn th) where
  locked t' th'' get own := by
    rcases getElem?_spawn_inv get with get | rfl
    · exact ok.locked t' th'' get own
    · rw [owns] at own
      cases own
  down ne th'' mem := by
    rcases List.mem_append.mp mem with mem | mem
    · exact ok.down ne th'' mem
    · rw [List.mem_singleton.mp mem]
      exact down ne
  threads th'' mem := by
    rcases List.mem_append.mp mem with mem | mem
    · exact ok.threads th'' mem
    · rw [List.mem_singleton.mp mem]
      exact new
  casts := ok.casts
  conductor := ok.conductor

lemma owns_startOf {r : Request} : (State.startOf r).owns = false := by
  unfold State.startOf
  split
  · rfl
  · case isFalse ne => simpa [Thread.owns] using ne

/-- A step of a thread keeps the invariant. -/
lemma Ok.act (ok : Ok G s) (get : s.threads[t]? = some th)
    (step : ThreadStep vnfd t s.toShared th a sh' th')
    (fresh : G → a = .acquire → th.upToDate s.db = true) :
    Ok G { s with toShared := sh', threads := s.threads.set t th' } := by
  have mem := List.mem_of_getElem? get
  have thOk := ok.threads th mem
  have evolves : Evolves G s.db sh'.db := by
    rcases step.tx thOk with eq | tx
    · rw [eq]
      exact .refl
    · exact tx.rows.evolves
  have lock := step.lock (ok.locked t th get)
  constructor
  case locked =>
    intro t' th'' get' owns
    rcases getElem?_set_inv get' with ⟨rfl, rfl⟩ | ⟨ne, get'⟩
    · exact lock.1 owns
    · exact lock.2 t' ne (ok.locked t' th'' get' owns)
  case down =>
    intro ne th'' mem'
    obtain ⟨t', get'⟩ := List.mem_iff_getElem?.mp mem'
    rcases getElem?_set_inv get' with ⟨rfl, rfl⟩ | ⟨-, get'⟩
    · exact step.server (ok.down ne th mem)
    · exact ok.down ne th'' (List.mem_of_getElem? get')
  case threads =>
    intro th'' mem'
    obtain ⟨t', get'⟩ := List.mem_iff_getElem?.mp mem'
    rcases getElem?_set_inv get' with ⟨rfl, rfl⟩ | ⟨ne, get'⟩
    · exact step.ok thOk fresh
    · have other := ok.threads th'' (List.mem_of_getElem? get')
      cases owns'' : th''.owns with
      | false => exact other.outside owns'' evolves
      | true =>
        -- the other one is inside the lock, so this one is not
        have held := ok.locked t' th'' get' owns''
        have owns : th.owns = false := by
          by_contra owns
          have held' := ok.locked t th get (by simpa using owns)
          rw [held] at held'
          exact ne (Option.some.inj held')
        obtain ⟨spares, inst⟩ := step.spares owns
        exact other.spare evolves spares inst
  case casts =>
    intro c mem'
    rcases step.casts with eq | ⟨locked, c', rfl, eq⟩
    · exact (ok.casts c (eq ▸ mem')).evolve evolves
    · rw [eq] at mem'
      rcases List.mem_cons.mp mem' with rfl | mem'
      · exact Castable.evolve thOk evolves
      · exact (ok.casts c mem').evolve evolves
  case conductor =>
    cases con : s.conductor with
    | up | down => trivial
    | scan | recover =>
      have ne : s.conductor ≠ .up := by simp [con]
      have server := ok.down ne th mem
      exact con ▸ ok.conductor.spare evolves (step.spares_server thOk server)

/-- What the recovery stores is a move of the occurrence. -/
lemma recover_rewrites {afterState : LcmOperationState} {ex : ProblemDetails}
    (cur : Current G db occ) (new : occ' = setLcmoccError (updateLcmoccStatus occ afterState) ex)
    (kind : (occ.operationState, afterState) ∈ stateList) :
    ∃ row, Rewrites G db row occ' occ.operationState ∧
      Move occ.operationState occ'.operationState := by
  obtain ⟨row, rewr⟩ := cur.rewrites occ' (by rw [new]; rfl) (by rw [new]; rfl)
    fun _ => by rw [new]; rfl
  refine ⟨row, rewr, ?_⟩
  have eq : occ'.operationState = afterState := by rw [new]; rfl
  rw [eq]
  simp only [stateList, List.mem_cons, Prod.mk.injEq, List.not_mem_nil, or_false] at kind
  rcases kind with ⟨src, rfl⟩ | ⟨src, rfl⟩ | ⟨src, rfl⟩ <;> rw [src]
  · exact .refuse
  · exact .suspend
  · exact .suspendRollback

/-- Each step of the system keeps the invariant. -/
theorem Ok.step (ok : Ok G s) (st : Step vnfd s e s') (fresh : G → NotStale (s, e)) :
    Ok G s' := by
  cases st.inv with
  | @request r up =>
    refine ok.spawn owns_startOf ?_ fun ne => ?_
    · unfold State.startOf
      split <;> trivial
    · have auto : r.isAuto = false := by
        by_contra auto
        exact ne (up (by simpa using auto))
      unfold State.startOf
      split <;> exact auto
  | task => exact ok.spawn rfl trivial fun _ => rfl
  | @deliver c up mem =>
    have less : Ok G { s with casts := s.casts.erase c } :=
      { ok with casts := fun c' mem' => ok.casts c' (List.mem_of_mem_erase mem') }
    exact less.spawn rfl (ok.casts c mem) fun ne => absurd up ne
  | syncDb up => exact ok.spawn rfl trivial fun ne => absurd up ne
  | @act t th a sh th' get step =>
    refine ok.act get step fun g acq => ?_
    subst acq
    have fresh := fresh g
    simpa [NotStale, get] using fresh
  | stop =>
    constructor
    case locked =>
      intro t th get owns
      simp only [State.crash, List.getElem?_map, Option.map_eq_some_iff] at get
      obtain ⟨th₀, get, eq⟩ := get
      split at eq
      · subst eq
        cases owns
      · case isFalse server =>
        subst eq
        have held := ok.locked t th₀ get owns
        simp [State.crash, held, get, server]
    case down =>
      intro _ th mem
      obtain ⟨th₀, -, rfl⟩ := List.mem_map.mp mem
      split
      · rfl
      · case isFalse server => simpa using server
    case threads =>
      intro th mem
      obtain ⟨th₀, mem₀, rfl⟩ := List.mem_map.mp mem
      split
      · trivial
      · exact ok.threads th₀ mem₀
    case casts => exact ok.casts
    case conductor => trivial
  | restart down =>
    have ne : s.conductor ≠ .up := by simp [down]
    exact { ok with
      down := fun _ => ok.down ne
      conductor := fun k mem => mem }
  | ready eq =>
    have ne : s.conductor ≠ .up := by simp [eq]
    exact { ok with
      down := fun _ => ok.down ne
      conductor := trivial }
  | @scan beforeState afterState kinds eq =>
    have ne : s.conductor ≠ .up := by simp [eq]
    have kindsOk : ∀ k ∈ (beforeState, afterState) :: kinds, k ∈ stateList := by
      simpa [Conductor.Ok, eq] using ok.conductor
    refine { ok with down := fun _ => ok.down ne, conductor := ?_ }
    refine ⟨fun k mem => kindsOk k (List.mem_cons_of_mem _ mem), ?_, beforeState,
      kindsOk _ List.mem_cons_self, fun occ mem => ?_⟩
    · exact s.db.lcmoccs.nodup.sublist (List.Sublist.map _ List.filter_sublist)
    · obtain ⟨get, state⟩ := Db.mem_lcmoccsIn.mp mem
      exact ⟨state, occ, get, .refl, fun _ => rfl⟩
  | scanned eq =>
    have ne : s.conductor ≠ .up := by simp [eq]
    have con := ok.conductor
    rw [eq] at con
    exact { ok with
      down := fun _ => ok.down ne
      conductor := con.1 }
  | @recover afterState occ occs kinds occ' eq new =>
    have ne : s.conductor ≠ .up := by simp [eq]
    have con := ok.conductor
    rw [eq] at con
    obtain ⟨kindsOk, nodup, beforeState, kind, occsOk⟩ := con
    obtain ⟨state, cur⟩ := occsOk occ List.mem_cons_self
    obtain ⟨row, rewr, mv⟩ := recover_rewrites cur new (state ▸ kind)
    have tx : Tx vnfd G s.db (s.db.updateLcmocc occ') := .write (.move rewr mv)
    have evolves := tx.rows.evolves
    have get' (id : Uuid) : (s.db.updateLcmocc occ').lcmoccs.get id =
        if occ'.id = id then some (occ'.mergeInto row) else s.db.lcmoccs.get id :=
      Db.get_updateLcmocc rewr.get
    have spares : Spares G s.db (s.db.updateLcmocc occ') (· = .failedTemp) := by
      refine (rewr.spares get').mono fun st failed => ?_
      rw [failed, state]
      rintro rfl
      simp [stateList] at kind
    constructor
    case locked => exact ok.locked
    case down => exact fun _ => ok.down ne
    case threads =>
      intro th mem
      exact (ok.threads th mem).server (ok.down ne th mem) evolves spares
    case casts => exact fun c mem => (ok.casts c mem).evolve evolves
    case conductor =>
      obtain ⟨notIn, nodup⟩ := List.nodup_cons.mp nodup
      refine ⟨kindsOk, nodup, beforeState, kind, fun occ₂ mem => ?_⟩
      obtain ⟨state₂, row₂, get₂, copy₂, eq₂⟩ := occsOk occ₂ (List.mem_cons_of_mem _ mem)
      refine ⟨state₂, row₂, ?_, copy₂, eq₂⟩
      have same : occ'.id = occ.id := by rw [new]; rfl
      rw [get', if_neg]
      · exact get₂
      · intro id
        exact notIn (List.mem_map.mpr ⟨occ₂, mem, by rw [← id, same]⟩)

/-- The creation of an occurrence: the step of a request that has passed its checks. -/
structure Creates (s : State) (e : Event) (s' : State) (t : ThreadId) (r : Request)
    (occ : LcmOpOcc) : Prop where
  event : ∃ id now, e = .act t (.create id now)
  thread : s.threads[t]? = some (.create r occ.operationParams)
  state : occ.operationState = initialState occ.operation
  created : s.db.createLcmocc occ = some s'.db
  threads : ∃ th', s'.threads = s.threads.set t th' ∧ ∀ r params, th' ≠ .create r params

/-- What a step does to the database. -/
inductive Effect (vnfd : String → Vnfd) (G : Prop) (s : State) (e : Event) (s' : State) : Prop where
  | quiet (eq : s'.db = s.db)
  | create {t r occ} (cr : Creates s e s' t r occ)
  | write (w : Write vnfd G s.db s'.db)
  | sync {info inst} (mem : .storeSync inst ∈ s.threads)
      (eq : s'.db = s.db.updateInst { s.db.inst with instantiatedVnfInfo := some info })

theorem Ok.effect (ok : Ok G s) (st : Step vnfd s e s') : Effect vnfd G s e s' := by
  cases st.inv with
  | @act t th a sh th' get step =>
    have mem := List.mem_of_getElem? get
    have thOk := ok.threads th mem
    cases th with
    | create r params =>
      cases step with
      | acquire _ locked => cases locked
      | expire _ locked => cases locked
      | abort | leave => exact .quiet (leave_db _)
      | @create _ _ id now db occ new eq =>
        subst new
        refine .create ⟨⟨id, now, rfl⟩, get, rfl, eq, _, rfl, fun r' params' => ?_⟩
        split <;> nofun
    | storeSync inst =>
      cases step with
      | acquire _ locked => cases locked
      | expire _ locked => cases locked
      | abort | leave => exact .quiet (leave_db _)
      | storeSync =>
        obtain rfl := thOk
        exact .sync mem rfl
    | _ =>
      rcases step.write thOk rfl with eq | w
      · exact .quiet eq
      · exact .write w
  | @recover afterState occ occs kinds occ' eq new =>
    have con := ok.conductor
    rw [eq] at con
    obtain ⟨-, -, beforeState, kind, occsOk⟩ := con
    obtain ⟨state, cur⟩ := occsOk occ List.mem_cons_self
    obtain ⟨row, rewr, mv⟩ := recover_rewrites cur new (state ▸ kind)
    exact .write (.move rewr mv)
  | _ => exact .quiet rfl

/-- A step of the system leaves the database as it is or is a transaction: the handlers refine the
transition system of the transactions. -/
theorem Ok.tx (ok : Ok G s) (st : Step vnfd s e s') :
    s'.db = s.db ∨ Tx vnfd G s.db s'.db := by
  cases ok.effect st with
  | quiet eq => exact .inl eq
  | create cr => exact .inr (.create cr.state cr.created)
  | write w => exact .inr (.write w)
  | sync _ eq => exact .inr (eq ▸ .sync)

/-! ## Runs -/

variable {tr : List (State × Event)}

/-- A step without a stale copy keeps the invariant in its strong form. -/
theorem Ok.run (run : Run (Step vnfd) s tr s') (fresh : Guarded NotStale tr) (ok : Ok True s) :
    Ok True s' :=
  run.invariant (fun fresh st ok => ok.step st fun _ => fresh) fresh ok

/-- The invariant in its weak form holds in every run. -/
theorem Ok.run_weak (run : Run (Step vnfd) s tr s') (ok : Ok False s) : Ok False s' :=
  run.invariant' (fun st ok => ok.step st False.elim) ok

end Tacker.Lcm
