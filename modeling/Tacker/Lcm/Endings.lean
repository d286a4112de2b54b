import Tacker.Lcm.Sequential

/-!
# Settled runs

In a settled run a request comes only when no occurrence is in a state in which the controller or
the conductor is at work. Nobody else then writes the database until the request has created its
occurrence, so that its checks hold of what is stored at that moment, and requests are alone.
-/

namespace Tacker.Lcm

open Tacker.Basis Tacker.Objects

section

/-! ## Requests before the creation -/

/-- The thread carries a request that has not created its occurrence. -/
def Thread.pending : Thread → Bool
  | .lock _ | .getInst _ | .check _ _ | .create _ _ => true
  | _ => false

/-- The thread is one of the periodic synchronization. -/
def Thread.syncs : Thread → Bool
  | .lockSync | .sync | .storeSync _ => true
  | _ => false

/-- No occurrence is in a state in which the controller or the conductor is at work. -/
def NoneTransient (db : Db) : Prop :=
  ∀ id row, db.lcmoccs.get id = some row → isTransient row.operationState = false

/-- The checks of the request hold of what is stored. -/
def Thread.Checked (db : Db) : Thread → Prop
  | .check _ inst => inst = db.inst
  | .create r params => NoneActive db ∧ checkParams db.inst r.params = .ok params
  | _ => True

/-- Nothing is written while a request has not created its occurrence. -/
structure Quiet (s : State) : Prop where
  unsynced : ∀ th ∈ s.threads, th.syncs = false
  quiet : ∀ th ∈ s.threads, th.pending = true → NoneTransient s.db
  checked : ∀ th ∈ s.threads, th.Checked s.db

variable {vnfd : String → Vnfd} {inst : VnfInstance} {s s' : State} {e : Event}
  {tr : List (State × Event)} {db db' : Db} {th th' : Thread} {t : ThreadId} {sh sh' : Shared}
  {a : Action}

lemma Quiet.init : Quiet (State.init inst) where
  unsynced _ mem := by simp [State.init] at mem
  quiet _ mem := by simp [State.init] at mem
  checked _ mem := by simp [State.init] at mem

lemma Thread.carries_of_pending (pending : th.pending = true) : th.carries = true := by
  cases th <;> first | rfl | cases pending

lemma Thread.Checked.of_not_pending (not : th.pending = false) : th.Checked db := by
  cases th <;> trivial

lemma NoneTransient.noneActive (none : NoneTransient db)
    (passed : db.checkLcmoccInProgress = true) : NoneActive db := by
  intro id row get
  have transient := none id row get
  have failed := Db.checkLcmoccInProgress_iff.mp passed id row get
  cases st : row.operationState <;> simp_all [isTransient, isActive]

/-! ## Steps of a thread -/

lemma ThreadStep.syncs (step : ThreadStep vnfd t sh th a sh' th') (not : th.syncs = false) :
    th'.syncs = false := by
  cases step with
  | @acquire th th' _ locked => cases th <;> cases locked <;> first | rfl | cases not
  | create => split <;> rfl
  | @cast locked => cases locked <;> rfl
  | sync => cases not
  | _ => rfl

/-- A thread that neither carries the request nor synchronizes writes nothing. -/
lemma ThreadStep.idle_db (step : ThreadStep vnfd t sh th a sh' th') (carries : th.carries = false)
    (syncs : th.syncs = false) : sh'.db = sh.db := by
  cases step with
  | abort | leave => exact leave_db _
  | storeSync => cases syncs
  | create | fail | mark | granted | refused | lookupFailed | done | workFailed => cases carries
  | _ => rfl

/-- A request comes from its beginning to its creation without a write. -/
lemma ThreadStep.pending (step : ThreadStep vnfd t sh th a sh' th')
    (pending : th'.pending = true) : th.pending = true ∧ sh'.db = sh.db := by
  cases step with
  | @acquire th th' _ locked => cases th <;> cases locked <;> first | exact ⟨rfl, rfl⟩ | cases pending
  | getInst | check => exact ⟨rfl, rfl⟩
  | create => split at pending <;> cases pending
  | @cast locked => cases locked <;> cases pending
  | _ => cases pending

/-- What a request has checked holds of what is stored. -/
lemma ThreadStep.checked (step : ThreadStep vnfd t sh th a sh' th') (ok : th.Checked sh.db)
    (quiet : th.pending = true → NoneTransient sh.db) : th'.Checked sh'.db := by
  cases step with
  | @acquire th th' _ locked => cases th <;> cases locked <;> trivial
  | getInst => exact rfl
  | check passed eq =>
    obtain rfl := ok
    exact ⟨(quiet rfl).noneActive passed, eq⟩
  | create => split <;> trivial
  | @cast locked => cases locked <;> trivial
  | _ => trivial

/-! ## The system -/

lemma Quiet.spawn (q : Quiet s) (pending : th.pending = true → NoneTransient s.db)
    (checked : th.Checked s.db) (syncs : th.syncs = false) : Quiet (s.spawn th) where
  unsynced th₁ mem := by
    rcases List.mem_append.mp mem with mem | mem
    · exact q.unsynced th₁ mem
    · exact List.mem_singleton.mp mem ▸ syncs
  quiet th₁ mem := by
    rcases List.mem_append.mp mem with mem | mem
    · exact q.quiet th₁ mem
    · exact List.mem_singleton.mp mem ▸ pending
  checked th₁ mem := by
    rcases List.mem_append.mp mem with mem | mem
    · exact q.checked th₁ mem
    · exact List.mem_singleton.mp mem ▸ checked

lemma Quiet.act (q : Quiet s) (one : OneRequest s) (get : s.threads[t]? = some th)
    (step : ThreadStep vnfd t s.toShared th a sh' th') :
    Quiet { s with toShared := sh', threads := s.threads.set t th' } := by
  have mem := List.mem_of_getElem? get
  -- beside a thread with a pending request nobody else writes
  have frame {t₁ : ThreadId} {th₁} (ne : t₁ ≠ t) (get₁ : s.threads[t₁]? = some th₁)
      (pending : th₁.pending = true) : sh'.db = s.db := by
    refine step.idle_db ?_ (q.unsynced th mem)
    by_contra carries
    exact ne (one.one _ _ _ _ get₁ get (Thread.carries_of_pending pending) (by simpa using carries))
  constructor
  case unsynced =>
    intro th₁ mem₁
    obtain ⟨t₁, get₁⟩ := List.mem_iff_getElem?.mp mem₁
    rcases getElem?_set_inv get₁ with ⟨-, rfl⟩ | ⟨-, get₁⟩
    · exact step.syncs (q.unsynced th mem)
    · exact q.unsynced th₁ (List.mem_of_getElem? get₁)
  case quiet =>
    intro th₁ mem₁ pending
    obtain ⟨t₁, get₁⟩ := List.mem_iff_getElem?.mp mem₁
    rcases getElem?_set_inv get₁ with ⟨-, rfl⟩ | ⟨ne, get₁⟩
    · obtain ⟨pending, eq⟩ := step.pending pending
      exact eq ▸ q.quiet th mem pending
    · exact frame ne get₁ pending ▸ q.quiet th₁ (List.mem_of_getElem? get₁) pending
  case checked =>
    intro th₁ mem₁
    obtain ⟨t₁, get₁⟩ := List.mem_iff_getElem?.mp mem₁
    rcases getElem?_set_inv get₁ with ⟨-, rfl⟩ | ⟨ne, get₁⟩
    · exact step.checked (q.checked th mem) (q.quiet th mem)
    · cases pending : th₁.pending with
      | false => exact .of_not_pending pending
      | true => exact frame ne get₁ pending ▸ q.checked th₁ (List.mem_of_getElem? get₁)

/-- A step of a settled run writes nothing beside a pending request. -/
theorem Quiet.step (q : Quiet s) (one : OneRequest s) (ok : Ok True s) (st : Step vnfd s e s')
    (settled : Settled (s, e)) : Quiet s' := by
  cases st.inv with
  | request =>
    have none : NoneTransient s.db := fun id row get => by
      have all := List.all_eq_true.mp settled.2 row (Table.get_eq_some.mp get).1
      simpa using all
    refine q.spawn (fun _ => none) ?_ ?_ <;> unfold State.startOf <;> split <;> trivial
  | task => exact q.spawn nofun trivial rfl
  | @deliver c =>
    have less : Quiet { s with casts := s.casts.erase c } := { q with }
    exact less.spawn nofun trivial rfl
  | syncDb => exact settled.2.elim
  | act get step => exact q.act one get step
  | stop =>
    constructor <;> intro th mem <;> obtain ⟨th₀, mem₀, rfl⟩ := List.mem_map.mp mem <;> split
    · rfl
    · exact q.unsynced th₀ mem₀
    · nofun
    · exact q.quiet th₀ mem₀
    · trivial
    · exact q.checked th₀ mem₀
  | restart | ready | scan | scanned => exact { q with }
  | @recover afterState occ occs kinds occ' eq new =>
    have con := ok.conductor
    rw [eq] at con
    obtain ⟨-, -, beforeState, kind, occsOk⟩ := con
    obtain ⟨state, row, get, -, stored⟩ := occsOk occ List.mem_cons_self
    -- the occurrence is transient, so there is no pending request
    have nobody : ∀ th ∈ s.threads, th.pending = false := by
      intro th mem
      by_contra pending
      have none := q.quiet th mem (by simpa using pending) _ row get
      rw [stored trivial, state] at none
      simp only [stateList, List.mem_cons, Prod.mk.injEq, List.not_mem_nil, or_false] at kind
      rcases kind with ⟨rfl, -⟩ | ⟨rfl, -⟩ | ⟨rfl, -⟩ <;> cases none
    refine ⟨q.unsynced, fun th mem pending => ?_, fun th mem => .of_not_pending (nobody th mem)⟩
    rw [nobody th mem] at pending
    cases pending

/-- A request that passes its checks is alone. -/
lemma Quiet.checkedAlone (q : Quiet s) (one : OneRequest s) : CheckedAlone (s, e) := by
  unfold CheckedAlone
  split
  · split
    · case h_1 t _ r inst get =>
      have mem := List.mem_of_getElem? get
      intro passed _
      obtain rfl : inst = s.db.inst := q.checked _ mem
      refine ⟨alone_iff.mpr ⟨(q.quiet _ mem rfl).noneActive passed, ?_⟩, rfl⟩
      intro t' r' params get'
      obtain rfl := one.one _ _ _ _ get get' rfl rfl
      rw [get'] at get
      cases get
    · trivial
  · trivial

/-- What holds in every state of a settled run. -/
structure Calm (s : State) : Prop where
  ok : Ok True s
  one : OneRequest s
  quiet : Quiet s
  mutex : Mutex s

lemma Calm.init : Calm (State.init inst) :=
  ⟨Ok.init, OneRequest.init, Quiet.init, Mutex.init⟩

theorem Calm.step (calm : Calm s) (st : Step vnfd s e s') (settled : Settled (s, e)) :
    Calm s' where
  ok := calm.ok.step st fun _ => calm.one.notStale
  one := calm.one.step calm.ok st settled.1
  quiet := calm.quiet.step calm.one calm.ok st settled
  mutex := calm.mutex.step calm.ok st (calm.quiet.checkedAlone calm.one)

theorem Calm.run (run : Run (Step vnfd) (State.init inst) tr s) (settled : Guarded Settled tr) :
    Calm s :=
  run.invariant (fun settled st calm => calm.step st settled) settled .init

end

/-!
## From the creation of an occurrence to its end

In a settled run the stored instance stays as it was when an occurrence was created as long as the
occurrence is active, whatever attempts are made and fail. The step that ends the occurrence stores
what `process` or `rollback` make of that instance, or leaves it alone.
-/

variable {vnfd : String → Vnfd} {inst inst₀ : VnfInstance} {s s' : State} {e : Event}
  {tr : List (State × Event)} {db db' : Db} {row : LcmOpOcc} {id : Uuid}
  {st : LcmOperationState}

/-! ## The end -/

/-- The state an active occurrence ends with, and the instance stored then. -/
inductive Ends (vnfd : String → Vnfd) (inst : VnfInstance) (row : LcmOpOcc) :
    LcmOperationState → VnfInstance → Prop where
  | completed {answer inst'} (src : row.operationState = .processing)
      (eq : process (vnfd (vnfdIdFor row.operationParams inst)) row.operationParams answer inst =
        .ok inst') : Ends vnfd inst row .completed (inst'.mergeInto inst)
  | rolledBack {answer inst'} (src : row.operationState = .rollingBack)
      (eq : rollback row.operationParams answer inst = .ok inst') :
      Ends vnfd inst row .rolledBack
        (if rollbackStoresInst row.operationParams then inst'.mergeInto inst else inst)
  | refused (src : row.operationState = .starting) : Ends vnfd inst row .rolledBack inst
  | failed (src : row.operationState = .failedTemp) : Ends vnfd inst row .failed inst

/-- A write that rewrites a row does so to this one, if it ends it. -/
lemma Rewrites.this {occ row' src} (rw : Rewrites True db row' occ src)
    (get' : ∀ id, db'.lcmoccs.get id =
      if occ.id = id then some (occ.mergeInto row') else db.lcmoccs.get id)
    (get : db.lcmoccs.get id = some row) (active : isActive row.operationState = true)
    (stored : db'.stateOf id = some st) (ended : isActive st = false) :
    row = row' ∧ occ.operationState = st := by
  rw [Db.stateOf, get'] at stored
  split at stored
  · case isTrue same =>
    subst same
    obtain rfl := Option.some.inj (get.symm.trans rw.get)
    exact ⟨rfl, Option.some.inj stored⟩
  · rw [get] at stored
    obtain rfl := Option.some.inj stored
    rw [active] at ended
    cases ended

lemma Write.ends (w : Write vnfd True db db') (get : db.lcmoccs.get id = some row)
    (active : isActive row.operationState = true) (stored : db'.stateOf id = some st)
    (ended : isActive st = false) : Ends vnfd db.inst row st db'.inst := by
  cases w with
  | granted rw state _ eq =>
    obtain ⟨-, lcmoccs, -⟩ := Db.saveGrants_inv eq
    obtain ⟨-, rfl⟩ := rw.this (fun id => by rw [lcmoccs, Db.get_updateLcmocc rw.get])
      get active stored ended
    rw [state] at ended
    cases ended
  | @move _ occ _ rw mv =>
    obtain ⟨rfl, rfl⟩ := rw.this (fun id => Db.get_updateLcmocc rw.get) get active stored ended
    have src := rw.source trivial
    generalize occ.operationState = dst at mv ended
    cases mv with
    | refuse => exact .refused src
    | _ => cases ended
  | @complete _ occ inst' grants answer rw state _ eq =>
    obtain ⟨rfl, rfl⟩ := rw.this
      (fun id => by rw [Db.finish_lcmoccs, Db.get_updateLcmocc rw.get]) get active stored ended
    rw [state, Db.finish_inst]
    exact .completed (rw.source trivial) (rw.params ▸ eq)
  | @rolledBack _ occ inst' grants answer rw state _ eq =>
    obtain ⟨rfl, rfl⟩ := rw.this
      (fun id => by rw [Db.finish_lcmoccs, Db.get_updateLcmocc rw.get]) get active stored ended
    have same : (db.finish (if rollbackStoresInst occ.operationParams then some inst' else none)
        occ grants).inst =
        if rollbackStoresInst row.operationParams then inst'.mergeInto db.inst else db.inst := by
      rw [Db.finish_inst, rw.params]
      split <;> rfl
    rw [state, same]
    exact .rolledBack (rw.source trivial) (rw.params ▸ eq)
  | failed rw state =>
    obtain ⟨rfl, rfl⟩ := rw.this
      (fun id => by rw [Db.finish_lcmoccs, Db.get_updateLcmocc rw.get]) get active stored ended
    rw [state, Db.finish_inst]
    exact .failed (rw.source trivial)

/-- How a step of the system ends an active occurrence. -/
theorem Ok.ends (ok : Ok True s) (step : Step vnfd s e s') (get : s.db.lcmoccs.get id = some row)
    (active : isActive row.operationState = true) (stored : s'.db.stateOf id = some st)
    (ended : isActive st = false) : Ends vnfd s.db.inst row st s'.db.inst := by
  have kept (get' : s'.db.lcmoccs.get id = some row) : False := by
    rw [Db.stateOf, get'] at stored
    obtain rfl := Option.some.inj stored
    rw [active] at ended
    cases ended
  cases ok.effect step with
  | quiet eq => exact (kept (eq ▸ get)).elim
  | @create _ _ occ cr =>
    obtain ⟨fresh, -, -, -, get'⟩ := Db.createLcmocc_inv cr.created
    refine (kept ?_).elim
    rw [get', if_neg]
    · exact get
    · rintro rfl
      simp [fresh] at get
  | write w => exact w.ends get active stored ended
  | sync _ eq => exact (kept (eq ▸ get)).elim

/-! ## The creation -/

/-- In the last state of the trace in which the occurrence was not stored, the instance was this
one. -/
def CreatedFrom (tr : List (State × Event)) (id : Uuid) (inst₀ : VnfInstance) : Prop :=
  ∃ tr₁ s₀ e₀ tr₂, tr = tr₁ ++ (s₀, e₀) :: tr₂ ∧ s₀.db.inst = inst₀ ∧
    s₀.db.lcmoccs.get id = none ∧ ∀ p ∈ tr₂, p.1.db.lcmoccs.get id ≠ none

lemma CreatedFrom.snoc (cf : CreatedFrom tr id inst₀) (stored : s.db.lcmoccs.get id ≠ none) :
    CreatedFrom (tr ++ [(s, e)]) id inst₀ := by
  obtain ⟨tr₁, s₀, e₀, tr₂, rfl, inst, fresh, rest⟩ := cf
  refine ⟨tr₁, s₀, e₀, tr₂ ++ [(s, e)], by simp, inst, fresh, fun p mem => ?_⟩
  rcases List.mem_append.mp mem with mem | mem
  · exact rest p mem
  · exact List.mem_singleton.mp mem ▸ stored

/-- The last pair of a trace is its creation or belongs to the life of the occurrence. -/
lemma CreatedFrom.snoc_inv (cf : CreatedFrom (tr ++ [(s, e)]) id inst₀) :
    (s.db.lcmoccs.get id = none ∧ s.db.inst = inst₀) ∨
      (s.db.lcmoccs.get id ≠ none ∧ CreatedFrom tr id inst₀) := by
  obtain ⟨tr₁, s₀, e₀, tr₂, eq, inst, fresh, rest⟩ := cf
  rcases List.eq_nil_or_concat tr₂ with rfl | ⟨init, last, rfl⟩
  · obtain ⟨-, eq⟩ := List.append_inj' eq rfl
    cases eq
    exact .inl ⟨fresh, inst⟩
  · rw [List.concat_eq_append, ← List.cons_append, ← List.append_assoc] at eq
    obtain ⟨rfl, same⟩ := List.append_inj' eq rfl
    obtain rfl := List.singleton_inj.mp same
    exact .inr ⟨rest (s, e) (by simp), tr₁, s₀, e₀, init, rfl, inst, fresh,
      fun p mem => rest p (by simp [mem])⟩

lemma CreatedFrom.last (fresh : s.db.lcmoccs.get id = none) :
    CreatedFrom (tr ++ [(s, e)]) id s.db.inst :=
  ⟨tr, s, e, [], rfl, rfl, fresh, fun _ mem => by cases mem⟩

/-- Every stored occurrence was created once, and while it is active the instance is the one it was
created from. -/
structure Unchanged (tr : List (State × Event)) (s : State) : Prop where
  created : ∀ id, s.db.lcmoccs.get id ≠ none → ∃! inst₀, CreatedFrom tr id inst₀
  active : ∀ id row inst₀, s.db.lcmoccs.get id = some row → isActive row.operationState = true →
    CreatedFrom tr id inst₀ → s.db.inst = inst₀

lemma Unchanged.init : Unchanged [] (State.init inst) where
  created id stored := by simp [State.init] at stored
  active id row inst₀ get := by simp [State.init] at get

/-- A step in which every row that is active afterwards was stored before, or is created. -/
lemma Unchanged.snoc (un : Unchanged tr s)
    (old : ∀ id row, s'.db.lcmoccs.get id = some row → isActive row.operationState = true →
      s'.db.inst = s.db.inst ∧ (s.db.lcmoccs.get id = none ∨
        ∃ row₀, s.db.lcmoccs.get id = some row₀ ∧ isActive row₀.operationState = true)) :
    Unchanged (tr ++ [(s, e)]) s' where
  created id stored := by
    by_cases fresh : s.db.lcmoccs.get id = none
    · refine ⟨s.db.inst, .last fresh, fun inst₀ cf => ?_⟩
      rcases cf.snoc_inv with ⟨-, eq⟩ | ⟨some, -⟩
      · exact eq.symm
      · exact absurd fresh some
    · obtain ⟨inst₀, cf, unique⟩ := un.created id fresh
      refine ⟨inst₀, cf.snoc fresh, fun inst₁ cf₁ => ?_⟩
      rcases cf₁.snoc_inv with ⟨none, -⟩ | ⟨-, cf₁⟩
      · exact absurd none fresh
      · exact unique inst₁ cf₁
  active id row inst₀ get active cf := by
    obtain ⟨same, before⟩ := old id row get active
    rw [same]
    rcases cf.snoc_inv with ⟨-, eq⟩ | ⟨some, cf⟩
    · exact eq
    · rcases before with none | ⟨row₀, get₀, active₀⟩
      · exact absurd none some
      · exact un.active id row₀ inst₀ get₀ active₀ cf

/-- A step of a settled run leaves the instance alone while an occurrence is active. -/
theorem Unchanged.step (un : Unchanged tr s) (calm : Calm s) (st : Step vnfd s e s') :
    Unchanged (tr ++ [(s, e)]) s' := by
  refine un.snoc fun id row get active => ?_
  cases calm.ok.effect st with
  | quiet eq =>
    rw [eq] at get ⊢
    exact ⟨rfl, .inr ⟨row, get, active⟩⟩
  | create cr =>
    obtain ⟨fresh, inst, -, -, get'⟩ := Db.createLcmocc_inv cr.created
    rw [get'] at get
    refine ⟨inst, ?_⟩
    split at get
    · case isTrue same => exact .inl (same ▸ fresh)
    · exact .inr ⟨row, get, active⟩
  | write w =>
    obtain ⟨row₀, get₀, active₀, -, inst⟩ := w.activeBefore calm.mutex.one id row get active
    exact ⟨inst, .inr ⟨row₀, get₀, active₀⟩⟩
  | sync mem => cases calm.quiet.unsynced _ mem

theorem Unchanged.run (run : Run (Step vnfd) (State.init inst) tr s)
    (settled : Guarded Settled tr) : Unchanged tr s :=
  run.invariant_hist (fun run settled _ st un => un.step (Calm.run run settled) st) settled .init

end Tacker.Lcm
