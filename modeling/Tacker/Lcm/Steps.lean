import Tacker.Lcm.System

/-!
# What a step can do

Inversion of the step function: one constructor for each kind of step, with all that is known when
it is taken. The invariants are proved by cases on these constructors, and the definition of the
step function is not unfolded again.
-/

namespace Tacker.Lcm
open Tacker.Basis Tacker.Objects

/-- Where a handler goes on when it has got the lock. -/
def Thread.locked : Thread → Option Thread
  | .lock r => some (.getInst r)
  | .lockTask k occ => some (.checkTask k occ)
  | .wait m occ => some (.enter m occ)
  | .lockSync => some .sync
  | _ => none

/-- The program counters at which a handler can end without an exception that nothing catches, or
with one that the handler itself raises. -/
def Thread.CanLeave : Thread → Prop
  | .getInst _ | .check _ _ | .unlock | .checkTask _ _ | .report | .sync => True
  | .enter m occ => occ.operationState ≠ m.expected
  | _ => False

/-- The steps of a thread. -/
inductive ThreadStep (vnfd : String → Vnfd) (t : ThreadId) (sh : Shared) :
    Thread → Action → Shared → Thread → Prop where
  | acquire {th th'} (free : sh.lock = none) (locked : th.locked = some th') :
      ThreadStep vnfd t sh th .acquire { sh with lock := some t } th'
  | expire {th th'} (held : sh.lock ≠ none) (locked : th.locked = some th') :
      ThreadStep vnfd t sh th .expire sh .idle
  | abort {th} (busy : th ≠ .idle) : ThreadStep vnfd t sh th .abort (sh.leave th).1 .idle
  | leave {th} (can : th.CanLeave) : ThreadStep vnfd t sh th .go (sh.leave th).1 .idle
  | getInst {r} (ok : admits r.params.operation sh.db.inst.instantiationState = true) :
      ThreadStep vnfd t sh (.getInst r) .go sh (.check r sh.db.inst)
  | check {r inst params} (ok : sh.db.checkLcmoccInProgress = true)
      (eq : checkParams inst r.params = .ok params) :
      ThreadStep vnfd t sh (.check r inst) .go sh (.create r params)
  | create {r params id now db occ}
      (new : occ = newLcmocc id now params (initialState params.operation) r.isAuto)
      (eq : sh.db.createLcmocc occ = some db) :
      ThreadStep vnfd t sh (.create r params) (.create id now) { sh with db := db }
        (if r.isAuto then .unlockAuto occ
          else .cast r.takesLock ⟨startMethod params.operation, id⟩)
  | cast {locked c} :
      ThreadStep vnfd t sh (.cast locked c) .go { sh with casts := c :: sh.casts }
        (if locked then .unlock else .idle)
  | unlockAuto {occ} :
      ThreadStep vnfd t sh (.unlockAuto occ) .go { sh with lock := none } (.wait .startLcmOp occ)
  | loadTask {k id occ} (get : sh.db.lcmoccs.get id = some occ) :
      ThreadStep vnfd t sh (.loadTask k id) .go sh (.lockTask k occ)
  | missingTask {k id} (get : sh.db.lcmoccs.get id = none) :
      ThreadStep vnfd t sh (.loadTask k id) .go sh .idle
  | castTask {k m occ} (state : occ.operationState = .failedTemp)
      (method : (k = .retry ∧ m = .retryLcmOp) ∨ (k = .rollback ∧ m = .rollbackLcmOp)) :
      ThreadStep vnfd t sh (.checkTask k occ) .go sh (.cast true ⟨m, occ.id⟩)
  | checkFail {occ grants} (state : occ.operationState = .failedTemp)
      (eq : sh.db.getGrantReqAndGrant occ = .ok grants) :
      ThreadStep vnfd t sh (.checkTask .fail occ) .go sh (.fail occ grants)
  | fail {occ grants} :
      ThreadStep vnfd t sh (.fail occ grants) .go
        { sh with db := sh.db.finish none (updateLcmoccStatus occ .failed) grants } .unlock
  | load {c occ} (get : sh.db.lcmoccs.get c.lcmoccId = some occ) :
      ThreadStep vnfd t sh (.load c) .go sh (.wait c.method occ)
  | missing {c} (get : sh.db.lcmoccs.get c.lcmoccId = none) :
      ThreadStep vnfd t sh (.load c) .go sh .idle
  | begin {m occ} (state : occ.operationState = m.expected)
      (method : m = .startLcmOp ∨ m = .modifyVnfinfo) :
      ThreadStep vnfd t sh (.enter m occ) .go sh (.announce m occ sh.db.inst)
  | resume {m occ} (state : occ.operationState = m.expected)
      (method : m = .retryLcmOp ∨ m = .rollbackLcmOp) :
      ThreadStep vnfd t sh (.enter m occ) .go sh (.mark m occ sh.db.inst)
  | mark {m occ inst} :
      ThreadStep vnfd t sh (.mark m occ inst) .go
        { sh with db := sh.db.updateLcmocc (updateLcmoccStatus occ m.begun) }
        (.announce m (updateLcmoccStatus occ m.begun) inst)
  | announceStart {occ inst} :
      ThreadStep vnfd t sh (.announce .startLcmOp occ inst) .go sh (.grant occ inst)
  | announceModify {occ inst} :
      ThreadStep vnfd t sh (.announce .modifyVnfinfo occ inst) .go sh
        (.work .modifyVnfinfo occ inst none)
  | announceResume {m occ inst} (method : m = .retryLcmOp ∨ m = .rollbackLcmOp) :
      ThreadStep vnfd t sh (.announce m occ inst) .go sh (.lookup m occ inst)
  | granted {occ inst grantId db occ'}
      (new : occ' = { updateLcmoccStatus occ .processing with grantId := some grantId })
      (eq : sh.db.saveGrants occ' (makeGrantReq occ' inst) ⟨grantId⟩ = some db) :
      ThreadStep vnfd t sh (.grant occ inst) (.granted grantId) { sh with db := db }
        (.notify occ' inst (makeGrantReq occ' inst) ⟨grantId⟩)
  | refused {occ inst a ex grantId occ'}
      (new : occ' =
        setLcmoccError (updateLcmoccStatus { occ with grantId := grantId } .rolledBack) ex) :
      ThreadStep vnfd t sh (.grant occ inst) a { sh with db := sh.db.updateLcmocc occ' } .report
  | notify {occ inst grantReq gr} :
      ThreadStep vnfd t sh (.notify occ inst grantReq gr) .go sh
        (.work .startLcmOp occ inst (some (grantReq, gr)))
  | lookup {m occ inst grants} (eq : sh.db.getGrantReqAndGrant occ = .ok grants) :
      ThreadStep vnfd t sh (.lookup m occ inst) .go sh (.work m occ inst grants)
  | lookupFailed {m occ inst a ex occ'}
      (new : occ' = setLcmoccError (updateLcmoccStatus occ .failedTemp) ex)
      (why : sh.db.getGrantReqAndGrant occ = .error ex ∨ a = .failed ex) :
      ThreadStep vnfd t sh (.lookup m occ inst) a { sh with db := sh.db.updateLcmocc occ' }
        .report
  | done {m occ inst grants answer inst' occ'}
      (eq : outcome vnfd m occ inst answer = .ok (inst', occ')) :
      ThreadStep vnfd t sh (.work m occ inst grants) (.done answer)
        { sh with db := sh.db.finish inst' occ' grants } .report
  | workFailed {m occ inst grants a ex occ'}
      (new : occ' = setLcmoccError (updateLcmoccStatus occ .failedTemp) ex) :
      ThreadStep vnfd t sh (.work m occ inst grants) a
        { sh with db := sh.db.updateLcmocc occ' } .report
  | sync (ok : sh.db.isLcmoccFailureStatus = some false) :
      ThreadStep vnfd t sh .sync .go sh (.storeSync sh.db.inst)
  | storeSync {inst info} :
      ThreadStep vnfd t sh (.storeSync inst) (.synced info)
        { sh with db := sh.db.updateInst { inst with instantiatedVnfInfo := some info } } .report

/-- The steps of the system. -/
inductive SystemStep (vnfd : String → Vnfd) (s : State) : Event → State → Prop where
  | request {r} (up : r.isAuto = true → s.conductor = .up) :
      SystemStep vnfd s (.request r) (s.spawn (State.startOf r))
  | task {k id} : SystemStep vnfd s (.task k id) (s.spawn (.loadTask k id))
  | deliver {c} (up : s.conductor = .up) (mem : c ∈ s.casts) :
      SystemStep vnfd s (.deliver c) ({ s with casts := s.casts.erase c }.spawn (.load c))
  | syncDb (up : s.conductor = .up) : SystemStep vnfd s .syncDb (s.spawn .lockSync)
  | act {t th a sh th'} (get : s.threads[t]? = some th)
      (step : ThreadStep vnfd t s.toShared th a sh th') :
      SystemStep vnfd s (.act t a) { s with toShared := sh, threads := s.threads.set t th' }
  | stop : SystemStep vnfd s .stop s.crash
  | restart (down : s.conductor = .down) :
      SystemStep vnfd s .restart { s with conductor := .scan stateList }
  | ready (eq : s.conductor = .scan []) : SystemStep vnfd s .recover { s with conductor := .up }
  | scan {beforeState afterState kinds}
      (eq : s.conductor = .scan ((beforeState, afterState) :: kinds)) :
      SystemStep vnfd s .recover
        { s with conductor := .recover afterState (s.db.lcmoccsIn beforeState) kinds }
  | scanned {afterState kinds} (eq : s.conductor = .recover afterState [] kinds) :
      SystemStep vnfd s .recover { s with conductor := .scan kinds }
  | recover {afterState occ occs kinds occ'}
      (eq : s.conductor = .recover afterState (occ :: occs) kinds)
      (new : occ' =
        setLcmoccError (updateLcmoccStatus occ afterState) conductorProcessingError) :
      SystemStep vnfd s .recover
        { s with
          db := s.db.updateLcmocc occ'
          conductor := .recover afterState occs kinds }

variable {vnfd : String → Vnfd} {t : ThreadId} {sh sh' : Shared} {th th' : Thread} {a : Action}

lemma Shared.take_inv (eq : sh.take t th = some (sh', th')) :
    sh.lock = none ∧ sh' = { sh with lock := some t } ∧ th' = th := by
  unfold Shared.take at eq
  split at eq
  · case isTrue free =>
    cases eq
    exact ⟨free, rfl, rfl⟩
  · cases eq

lemma Shared.giveUp_inv (eq : sh.giveUp = some (sh', th')) :
    sh.lock ≠ none ∧ sh' = sh ∧ th' = .idle := by
  unfold Shared.giveUp at eq
  split at eq
  · cases eq
  · case isFalse held =>
    cases eq
    exact ⟨held, rfl, rfl⟩

/-- Every step of a thread is one of those listed. -/
theorem Thread.next_inv (eq : th.next vnfd t sh a = some (sh', th')) :
    ThreadStep vnfd t sh th a sh' th' := by
  revert eq
  fun_cases Thread.next vnfd t sh th a
  all_goals intro eq
  -- the lock
  case case1 | case14 | case24 | case47 =>
    obtain ⟨free, rfl, rfl⟩ := Shared.take_inv eq
    exact .acquire free rfl
  case case2 | case15 | case25 | case48 =>
    obtain ⟨held, rfl, rfl⟩ := Shared.giveUp_inv eq
    exact .expire held rfl
  case case4 | case6 | case7 | case10 | case19 | case20 | case46 | case50 =>
    cases eq
    exact .leave trivial
  case case30 diff =>
    cases eq
    exact .leave diff
  case case53 busy =>
    cases eq
    exact .abort busy
  -- a request for an LCM operation
  case case3 ok => cases eq; exact .getInst ok
  case case5 ok _ checked => cases eq; exact .check ok checked
  case case8 =>
    obtain ⟨db, created, pair⟩ := Option.map_eq_some_iff.mp eq
    cases pair
    exact .create rfl created
  case case9 => cases eq; exact .cast
  case case11 => cases eq; exact .unlockAuto
  -- a request on an occurrence
  case case12 get => cases eq; exact .missingTask get
  case case13 get => cases eq; exact .loadTask get
  case case16 state => cases eq; exact .castTask state (.inl ⟨rfl, rfl⟩)
  case case17 state => cases eq; exact .castTask state (.inr ⟨rfl, rfl⟩)
  case case18 state _ found => cases eq; exact .checkFail state found
  case case21 => cases eq; exact .fail
  -- a handler of the conductor
  case case22 get => cases eq; exact .missing get
  case case23 get => cases eq; exact .load get
  case case26 state => cases eq; exact .begin state (.inl rfl)
  case case27 state => cases eq; exact .begin state (.inr rfl)
  case case28 state => cases eq; exact .resume state (.inl rfl)
  case case29 state => cases eq; exact .resume state (.inr rfl)
  case case31 => cases eq; exact .mark
  case case32 => cases eq; exact .announceStart
  case case33 => cases eq; exact .announceModify
  case case34 => cases eq; exact .announceResume (.inl rfl)
  case case35 => cases eq; exact .announceResume (.inr rfl)
  case case36 saved => cases eq; exact .granted rfl saved
  case case37 => cases eq; exact .refused rfl
  case case38 => cases eq; exact .refused rfl
  case case39 => cases eq; exact .notify
  case case40 found => cases eq; exact .lookup found
  case case41 missing => cases eq; exact .lookupFailed rfl (.inl missing)
  case case42 => cases eq; exact .lookupFailed rfl (.inr rfl)
  case case43 out => cases eq; exact .done out
  case case44 => cases eq; exact .workFailed rfl
  case case45 => cases eq; exact .workFailed rfl
  case case49 ok => cases eq; exact .sync ok
  case case51 => cases eq; exact .storeSync
  case case52 | case54 => cases eq

/-- Every step of the system is one of those listed. -/
theorem Step.inv {s s' : State} {e : Event} (st : Step vnfd s e s') : SystemStep vnfd s e s' := by
  have eq : next vnfd s e = some s' := st
  cases e with
  | request r =>
    simp only [next] at eq
    split at eq
    · cases eq
    · case isFalse up =>
      cases eq
      exact .request fun auto => by_contra fun ne => up ⟨auto, ne⟩
  | task k id =>
    cases eq
    exact .task
  | deliver c =>
    simp only [next] at eq
    split at eq
    · case isTrue ok =>
      cases eq
      exact .deliver ok.1 ok.2
    · cases eq
  | syncDb =>
    simp only [next] at eq
    split at eq
    · case isTrue up =>
      cases eq
      exact .syncDb up
    · cases eq
  | act t a =>
    obtain ⟨th, get, eq⟩ := Option.bind_eq_some_iff.mp eq
    obtain ⟨⟨sh, th'⟩, nx, rfl⟩ := Option.map_eq_some_iff.mp eq
    exact .act get (Thread.next_inv nx)
  | stop =>
    simp only [next] at eq
    split at eq
    · cases eq
    · cases eq
      exact .stop
  | restart =>
    simp only [next] at eq
    split at eq
    · case isTrue down =>
      cases eq
      exact .restart down
    · cases eq
  | recover =>
    simp only [next, State.recoverNext] at eq
    split at eq
    · case h_1 con => cases eq; exact .ready con
    · case h_2 con => cases eq; exact .scan con
    · case h_3 con => cases eq; exact .scanned con
    · case h_4 con => cases eq; exact .recover con rfl
    · cases eq

end Tacker.Lcm
