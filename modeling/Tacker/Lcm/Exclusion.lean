import Tacker.Lcm.Invariant

/-!
# The life of an occurrence

The stored `operationState` makes only the transitions of the specification, in every run without
stale copies. With one it does not: a retry that was accepted while the occurrence was FAILED_TEMP
takes an occurrence that has been stored as FAILED in the meantime back to PROCESSING.
-/

namespace Tacker.Lcm

open Tacker.Basis Tacker.Objects

section

variable {vnfd : String → Vnfd} {inst : VnfInstance} {s s' : State} {e : Event}
  {tr : List (State × Event)}

/-- Every stored occurrence stays stored, and in its state or a successor of it. -/
def LegalStep (s s' : State) : Prop :=
  ∀ id src, s.db.stateOf id = some src →
    ∃ dst, s'.db.stateOf id = some dst ∧ (dst = src ∨ dst ∈ successors src)

/-- An occurrence that has ended stays as it ended. -/
def KeepsEnded (s s' : State) : Prop :=
  ∀ id st, s.db.stateOf id = some st → isActive st = false → s'.db.stateOf id = some st

lemma LegalStep.keepsEnded (legal : LegalStep s s') : KeepsEnded s s' := by
  intro id st eq ended
  obtain ⟨dst, eq', same | next⟩ := legal id st eq
  · exact same ▸ eq'
  · rw [isActive_of_legal next] at ended
    cases ended

lemma LegalStep.of_db (eq : s'.db = s.db) : LegalStep s s' :=
  fun _ src get => ⟨src, eq ▸ get, .inl rfl⟩

/-- A transaction is legal if copies are current. -/
lemma legalStep_of_tx (tx : Tx vnfd True s.db s'.db) : LegalStep s s' := by
  intro id src eq
  obtain ⟨row, get, rfl⟩ := Option.map_eq_some_iff.mp eq
  cases tx.rows with
  | add _ fresh get' =>
    refine ⟨row.operationState, ?_, .inl rfl⟩
    rw [Db.stateOf, get', if_neg, get]
    · rfl
    · rintro rfl
      simp [fresh] at get
  | @rewrite row' occ src rw legal get' =>
    by_cases same : occ.id = id
    · subst same
      obtain rfl := Option.some.inj (get.symm.trans rw.get)
      refine ⟨occ.operationState, ?_, .inr (rw.source trivial ▸ legal)⟩
      rw [Db.stateOf, get', if_pos rfl]
      rfl
    · refine ⟨row.operationState, ?_, .inl rfl⟩
      rw [Db.stateOf, get', if_neg same, get]
      rfl
  | same get' => exact ⟨row.operationState, by rw [Db.stateOf, get', get]; rfl, .inl rfl⟩

theorem Ok.legalStep (ok : Ok True s) (st : Step vnfd s e s') : LegalStep s s' := by
  rcases ok.tx st with eq | tx
  · exact .of_db eq
  · exact legalStep_of_tx tx

theorem Ok.keepsEnded (ok : Ok True s) (run : Run (Step vnfd) s tr s')
    (fresh : Guarded NotStale tr) : KeepsEnded s s' := by
  induction run with
  | nil => exact fun _ _ eq _ => eq
  | snoc run st ih =>
    have fresh := (Guarded.append.mp fresh).1
    intro id st' eq ended
    exact ((ok.run run fresh).legalStep st).keepsEnded id st' (ih fresh id st' eq ended) ended

/-- In every run without stale copies each step changes the stored states legally, and an
occurrence that has ended stays as it ended however the run goes on. -/
theorem operationState_legal (run : Run (Step vnfd) (.init inst) tr s)
    (fresh : Guarded NotStale tr) :
    (∀ p ∈ tr, ∀ t, Step vnfd p.1 p.2 t → LegalStep p.1 t) ∧
      ∀ tr' s', Run (Step vnfd) s tr' s' → Guarded NotStale tr' → KeepsEnded s s' := by
  constructor
  · intro p mem t st
    obtain ⟨tr₁, tr₂, -, rfl, run₁, -⟩ := run.mem_step mem
    exact (Ok.init.run run₁ (Guarded.append.mp fresh).1).legalStep st
  · intro tr' s' run' fresh'
    exact (Ok.init.run run fresh).keepsEnded run' fresh'

/-! ## Two runs -/

/-- A VNFD without scaling. -/
def plainVnfd : Vnfd where
  instantiationLevels _ := []
  scalingAspects _ := []

/-- A modification of the instance that fails in its main process. -/
def failedModification : List Event :=
  [.request (.api (.modifyInfo none)), .act 0 .acquire, .act 0 .go, .act 0 .go,
    .act 0 (.create 1 0), .act 0 .go, .act 0 .go,
    .deliver ⟨.modifyVnfinfo, 1⟩, .act 1 .go, .act 1 .acquire, .act 1 .go, .act 1 .go,
    .act 1 (.failed conductorProcessingError), .act 1 .go]

/-- The failed modification is retried and fails again, and the retry is legal throughout. -/
theorem retried_modification_legal :
    ∃ tr s, Run (Step fun _ => plainVnfd) (.init (.created "vnfd")) tr s ∧
      s.db.stateOf 1 = some .failedTemp ∧
      ((∀ p ∈ tr, ∀ t, Step (fun _ => plainVnfd) p.1 p.2 t → LegalStep p.1 t) ∧
        ∀ tr' s', Run (Step fun _ => plainVnfd) s tr' s' → Guarded NotStale tr' →
          KeepsEnded s s') := by
  obtain ⟨tr, s, run, fresh, failed⟩ := Run.of_replay (next fun _ => plainVnfd)
    (.init (.created "vnfd"))
    (failedModification ++
      [.task .retry 1, .act 2 .go, .act 2 .acquire, .act 2 .go, .act 2 .go, .act 2 .go,
        .deliver ⟨.retryLcmOp, 1⟩, .act 3 .go, .act 3 .acquire, .act 3 .go, .act 3 .go,
        .act 3 .go, .act 3 .go, .act 3 (.failed conductorProcessingError), .act 3 .go])
    (fun tr s => Guarded NotStale tr ∧ s.db.stateOf 1 = some .failedTemp) (by decide)
  exact ⟨tr, s, run, failed, operationState_legal run fresh⟩

/-- A retry is cast and its handler loads the occurrence, then waits for the lock; a fail request
gets the lock first. -/
def retryThenFail : List Event :=
  failedModification ++
  [.task .retry 1, .act 2 .go, .act 2 .acquire, .act 2 .go, .act 2 .go,
    .deliver ⟨.retryLcmOp, 1⟩, .act 3 .go, .act 2 .go,
    .task .fail 1, .act 4 .go, .act 4 .acquire, .act 4 .go, .act 4 .go, .act 4 .go,
    .act 3 .acquire, .act 3 .go]

/-- The retry then stores an occurrence as PROCESSING that was stored as FAILED. -/
theorem stale_retry_revives :
    ∃ tr s s', Run (Step fun _ => plainVnfd) (.init (.created "vnfd")) tr s ∧
      Step (fun _ => plainVnfd) s (.act 3 .go) s' ∧ ¬ LegalStep s s' ∧ ¬ KeepsEnded s s' := by
  let stored (s : State) := s.db.stateOf 1
  obtain ⟨tr, s, run, failed, revived⟩ := Run.of_replay (next fun _ => plainVnfd)
    (.init (.created "vnfd")) retryThenFail
    (fun _ s => stored s = some .failed ∧
      (next (fun _ => plainVnfd) s (.act 3 .go)).map stored = some (some .processing))
    (by decide)
  obtain ⟨s', st, processing⟩ := Option.map_eq_some_iff.mp revived
  have keeps : ¬ KeepsEnded s s' := by
    intro keeps
    have eq := keeps 1 .failed failed rfl
    rw [show s'.db.stateOf 1 = some .processing from processing] at eq
    cases eq
  exact ⟨tr, s, s', run, st, fun legal => keeps legal.keepsEnded, keeps⟩

end

/-!
## One operation at a time

At most one occurrence of an instance is active, and the stored `instantiationState` admits its
operation, in every run in which a request that passes `check_lcmocc_in_progress` really is alone.
The code does not see to that: the check looks for FAILED_TEMP occurrences only and leaves the
others to the lock, which `scale` and `heal` do not take and which nobody holds between the cast
of an API handler and the handler of the conductor.
-/

/-! ## The condition -/

/-- The thread is between its in-progress check and the creation of the occurrence. -/
def Thread.checked : Thread → Bool
  | .create _ _ => true
  | _ => false

/-- No occurrence is active and no request is about to create one. -/
def State.alone (s : State) : Bool :=
  s.db.lcmoccs.rows.all (fun row => !isActive row.operationState) &&
    s.threads.all (fun th => !th.checked)

/-- A request that passes its checks at this step is alone, and its copy of the instance has the
stored `instantiationState`. -/
def CheckedAlone (p : State × Event) : Prop :=
  match p.2 with
  | .act t .go =>
    match p.1.threads[t]? with
    | some (.check r inst) =>
      p.1.db.checkLcmoccInProgress = true → (checkParams inst r.params).toBool = true →
        p.1.alone = true ∧ inst.instantiationState = p.1.db.inst.instantiationState
    | _ => True
  | _ => True

/-- `CheckedAlone`, as a test. -/
def checkedAlone (p : State × Event) : Bool :=
  match p.2 with
  | .act t .go =>
    match p.1.threads[t]? with
    | some (.check r inst) =>
      !p.1.db.checkLcmoccInProgress || !(checkParams inst r.params).toBool ||
        (p.1.alone && inst.instantiationState == p.1.db.inst.instantiationState)
    | _ => true
  | _ => true

lemma checkedAlone_iff (p : State × Event) : checkedAlone p = true ↔ CheckedAlone p := by
  unfold checkedAlone CheckedAlone
  split
  · split
    · cases p.1.db.checkLcmoccInProgress <;> simp [imp_iff_not_or]
    · simp
  · simp

instance : DecidablePred CheckedAlone := fun p => decidable_of_iff _ (checkedAlone_iff p)

/-- The condition on a step: no stale copy, and no request passes its checks beside another
operation. -/
def Exclusive (p : State × Event) : Prop :=
  NotStale p ∧ CheckedAlone p

instance : DecidablePred Exclusive := fun _ => inferInstanceAs (Decidable (_ ∧ _))

/-! ## The invariant -/

/-- Occurrences that are active are one. -/
def AtMostOneActive (db : Db) : Prop :=
  ∀ id id' row row', db.lcmoccs.get id = some row → db.lcmoccs.get id' = some row' →
    isActive row.operationState = true → isActive row'.operationState = true → id = id'

/-- The stored instance admits the operations in progress. -/
def ActiveAdmitted (db : Db) : Prop :=
  ∀ id row, db.lcmoccs.get id = some row → isActive row.operationState = true →
    admits row.operation db.inst.instantiationState = true

/-- No occurrence is active. -/
def NoneActive (db : Db) : Prop :=
  ∀ id row, db.lcmoccs.get id = some row → isActive row.operationState = false

/-- At most one operation is in progress; while a request stands between its checks and the
creation there is none, nor is there another such request. -/
structure Mutex (s : State) : Prop where
  one : AtMostOneActive s.db
  admitted : ActiveAdmitted s.db
  checked : ∀ (t : ThreadId) r params, s.threads[t]? = some (Thread.create r params) →
    NoneActive s.db ∧ admits r.params.operation s.db.inst.instantiationState = true
  unique : ∀ (t t' : ThreadId) r r' params params', s.threads[t]? = some (Thread.create r params) →
    s.threads[t']? = some (Thread.create r' params') → t = t'

variable {vnfd : String → Vnfd} {inst : VnfInstance} {s s' : State} {e : Event}
  {tr : List (State × Event)} {db db' : Db}

lemma Mutex.init : Mutex (State.init inst) where
  one _ _ _ _ get := by simp [State.init] at get
  admitted _ _ get := by simp [State.init] at get
  checked _ _ _ get := by simp [State.init] at get
  unique _ _ _ _ _ _ get := by simp [State.init] at get

lemma alone_iff : s.alone = true ↔
    NoneActive s.db ∧ ∀ (t : ThreadId) r params, s.threads[t]? ≠ some (Thread.create r params) := by
  simp only [State.alone, Bool.and_eq_true, List.all_eq_true, Bool.not_eq_eq_eq_not,
    Bool.not_true]
  constructor
  · rintro ⟨rows, threads⟩
    refine ⟨fun id row get => rows row (Table.get_eq_some.mp get).1, fun t r params get => ?_⟩
    exact absurd (threads _ (List.mem_of_getElem? get)) (by simp [Thread.checked])
  · rintro ⟨none, threads⟩
    refine ⟨fun row mem => none row.id row (Table.get_eq_some.mpr ⟨mem, rfl⟩), ?_⟩
    intro th mem
    obtain ⟨t, get⟩ := List.mem_iff_getElem?.mp mem
    cases th with
    | create r params => exact absurd get (threads t r params)
    | _ => rfl

/-! ## Steps -/

/-- A thread that stands before the creation stood there before the step, or the step is its
check. -/
lemma checked_inv (st : Step vnfd s e s') {t r params}
    (get : s'.threads[t]? = some (Thread.create r params)) :
    s.threads[t]? = some (Thread.create r params) ∨
      ∃ inst, e = .act t .go ∧ s.threads[t]? = some (.check r inst) ∧
        s.db.checkLcmoccInProgress = true ∧ checkParams inst r.params = .ok params ∧
        s' = { s with threads := s.threads.set t (.create r params) } := by
  cases st.inv with
  | @request r' =>
    rcases getElem?_spawn_inv get with get | eq
    · exact .inl get
    · unfold State.startOf at eq
      split at eq <;> cases eq
  | task | deliver | syncDb =>
    rcases getElem?_spawn_inv get with get | eq
    · exact .inl get
    · cases eq
  | @act t' th a sh th' get' step =>
    rcases getElem?_set_inv get with ⟨rfl, eq⟩ | ⟨-, get⟩
    · subst eq
      generalize eq : Thread.create r params = th' at step
      cases step with
      | acquire _ locked =>
        subst eq
        cases th <;> cases locked
      | check ok checked =>
        cases eq
        exact .inr ⟨_, rfl, get', ok, checked, rfl⟩
      | create =>
        split at eq <;> cases eq
      | @cast locked => cases locked <;> cases eq
      | _ => cases eq
    · exact .inl get
  | stop =>
    simp only [State.crash, List.getElem?_map, Option.map_eq_some_iff] at get
    obtain ⟨th, get, eq⟩ := get
    split at eq
    · cases eq
    · exact .inl (eq ▸ get)
  | _ => exact .inl get

/-- The active rows after a transaction were active before it, with the same parameters, and the
instance is as it was. -/
def ActiveBefore (db db' : Db) : Prop :=
  ∀ id row', db'.lcmoccs.get id = some row' → isActive row'.operationState = true →
    ∃ row, db.lcmoccs.get id = some row ∧ isActive row.operationState = true ∧
      row'.operationParams = row.operationParams ∧ db'.inst = db.inst

/-- The rewriting of the one active row. -/
lemma Rewrites.activeBefore {row occ src} (rw : Rewrites True db row occ src)
    (legal : occ.operationState ∈ successors src)
    (get' : ∀ id, db'.lcmoccs.get id =
      if occ.id = id then some (occ.mergeInto row) else db.lcmoccs.get id)
    (one : AtMostOneActive db)
    (keep : isActive occ.operationState = true → db'.inst = db.inst) : ActiveBefore db db' := by
  have src : isActive row.operationState = true := by
    rw [rw.source trivial]
    exact isActive_of_legal legal
  intro id row' get active
  rw [get'] at get
  split at get
  · case isTrue same =>
    subst same
    cases get
    exact ⟨row, rw.get, src, rw.params, keep active⟩
  · case isFalse other => exact absurd (one _ _ _ _ rw.get get src active) other

lemma Write.activeBefore (w : Write vnfd True db db') (one : AtMostOneActive db) :
    ActiveBefore db db' := by
  cases w with
  | granted rw state _ eq =>
    obtain ⟨inst, lcmoccs, -⟩ := Db.saveGrants_inv eq
    refine rw.activeBefore (by simp [state, successors]) (fun id => ?_) one fun _ => inst
    rw [lcmoccs, Db.get_updateLcmocc rw.get]
  | move rw mv =>
    exact rw.activeBefore mv.legal (fun id => Db.get_updateLcmocc rw.get) one fun _ => rfl
  | complete rw state | rolledBack rw state | failed rw state =>
    refine rw.activeBefore (by simp [state, successors]) (fun id => ?_) one fun active => ?_
    · rw [Db.finish_lcmoccs, Db.get_updateLcmocc rw.get]
    · rw [state] at active
      cases active

/-- What is active before bounds what is active after. -/
lemma ActiveBefore.mutex (before : ActiveBefore db db') (one : AtMostOneActive db)
    (admitted : ActiveAdmitted db) : AtMostOneActive db' ∧ ActiveAdmitted db' := by
  constructor
  · intro id id' row row' get get' active active'
    obtain ⟨row₀, get₀, active₀, -⟩ := before id row get active
    obtain ⟨row₀', get₀', active₀', -⟩ := before id' row' get' active'
    exact one id id' row₀ row₀' get₀ get₀' active₀ active₀'
  · intro id row get active
    obtain ⟨row₀, get₀, active₀, params, inst⟩ := before id row get active
    rw [LcmOpOcc.operation, params, inst]
    exact admitted id row₀ get₀ active₀

/-- With no active row nothing can be written. -/
lemma Write.not_noneActive (w : Write vnfd True db db') : ¬ NoneActive db := by
  intro none
  obtain ⟨row, occ, src, rw, legal, -⟩ := w.rows
  have active := isActive_of_legal legal
  rw [← rw.source trivial, none _ _ rw.get] at active
  cases active

/-- A request that passes its checks alone is the one that stands before the creation. -/
lemma Mutex.check (mx : Mutex s) {t r inst params} (get : s.threads[t]? = some (Thread.check r inst))
    (ok : admits r.params.operation inst.instantiationState = true)
    (passed : s.db.checkLcmoccInProgress = true) (checked : checkParams inst r.params = .ok params)
    (ex : CheckedAlone (s, .act t .go)) :
    Mutex { s with threads := s.threads.set t (.create r params) } := by
  obtain ⟨alone, same⟩ := by
    simpa [CheckedAlone, get, passed, checked, Except.toBool] using ex
  obtain ⟨none, nobody⟩ := alone_iff.mp alone
  have this {t' : ThreadId} {r' params'} (get' : (s.threads.set t (.create r params))[t']? =
      some (Thread.create r' params')) : t' = t ∧ r' = r := by
    rcases getElem?_set_inv get' with ⟨rfl, eq⟩ | ⟨-, get'⟩
    · cases eq
      exact ⟨rfl, rfl⟩
    · exact absurd get' (nobody t' r' params')
  refine ⟨mx.one, mx.admitted, fun t' r' params' get' => ?_, ?_⟩
  · obtain ⟨-, rfl⟩ := this get'
    exact ⟨none, same ▸ ok⟩
  · intro t₁ t₂ _ _ _ _ get₁ get₂
    exact (this get₁).1.trans (this get₂).1.symm

/-- The creation makes one row active where none was. -/
lemma Mutex.create (mx : Mutex s) (ok : Ok True s) {t r occ} (cr : Creates s e s' t r occ) :
    Mutex s' := by
  obtain ⟨-, get, state, created, th', threads, notCreate⟩ := cr
  obtain ⟨none, admitted⟩ := mx.checked t r _ get
  obtain ⟨-, inst, -, -, get'⟩ := Db.createLcmocc_inv created
  have op : occ.operation = r.params.operation := ok.threads _ (List.mem_of_getElem? get)
  have only {id row} (get₁ : s'.db.lcmoccs.get id = some row)
      (active : isActive row.operationState = true) : id = occ.id ∧ row = occ := by
    rw [get'] at get₁
    split at get₁
    · case isTrue same => exact ⟨same.symm, (Option.some.inj get₁).symm⟩
    · rw [none _ _ get₁] at active
      cases active
  have nobody {t' : ThreadId} {r' params'} : s'.threads[t']? ≠ some (Thread.create r' params') := by
    intro get₁
    rw [threads] at get₁
    rcases getElem?_set_inv get₁ with ⟨-, eq⟩ | ⟨ne, get₁⟩
    · exact notCreate _ _ eq.symm
    · exact ne (mx.unique _ _ _ _ _ _ get₁ get)
  refine ⟨?_, ?_, fun _ _ _ get₁ => absurd get₁ nobody,
    fun _ _ _ _ _ _ get₁ => absurd get₁ nobody⟩
  · intro id id' row row' get₁ get₂ active active'
    exact (only get₁ active).1.trans (only get₂ active').1.symm
  · intro id row get₁ active
    obtain ⟨-, rfl⟩ := only get₁ active
    rw [inst, op]
    exact admitted

/-- A step that meets the condition keeps the exclusion. -/
theorem Mutex.step (mx : Mutex s) (ok : Ok True s) (st : Step vnfd s e s')
    (ex : CheckedAlone (s, e)) : Mutex s' := by
  by_cases before : ∀ (t : ThreadId) r params, s'.threads[t]? = some (Thread.create r params) →
      s.threads[t]? = some (Thread.create r params)
  · cases ok.effect st with
    | quiet eq =>
      refine ⟨eq ▸ mx.one, eq ▸ mx.admitted, fun t r params get => ?_, ?_⟩
      · exact eq ▸ mx.checked t r params (before t r params get)
      · intro t t' r r' params params' get get'
        exact mx.unique _ _ _ _ _ _ (before t r params get) (before t' r' params' get')
    | create cr => exact mx.create ok cr
    | write w =>
      obtain ⟨one, admitted⟩ := (w.activeBefore mx.one).mutex mx.one mx.admitted
      refine ⟨one, admitted, fun t r params get => ?_, ?_⟩
      · exact absurd (mx.checked t r params (before t r params get)).1 w.not_noneActive
      · intro t t' r r' params params' get get'
        exact mx.unique _ _ _ _ _ _ (before t r params get) (before t' r' params' get')
    | sync _ eq =>
      refine ⟨eq ▸ mx.one, eq ▸ mx.admitted, fun t r params get => ?_, ?_⟩
      · exact eq ▸ mx.checked t r params (before t r params get)
      · intro t t' r r' params params' get get'
        exact mx.unique _ _ _ _ _ _ (before t r params get) (before t' r' params' get')
  · simp only [not_forall] at before
    obtain ⟨t, r, params, get, new⟩ := before
    rcases checked_inv st get with get₀ | ⟨inst, rfl, get₀, passed, checked, rfl⟩
    · exact absurd get₀ new
    · exact mx.check get₀ (ok.threads _ (List.mem_of_getElem? get₀)) passed checked ex

lemma Mutex.run (run : Run (Step vnfd) (State.init inst) tr s) (ex : Guarded Exclusive tr) :
    Ok True s ∧ Mutex s := by
  have keep {s e s'} (ex : Exclusive (s, e)) (st : Step vnfd s e s') (inv : Ok True s ∧ Mutex s) :
      Ok True s' ∧ Mutex s' :=
    ⟨inv.1.step st fun _ => ex.1, inv.2.step inv.1 st ex.2⟩
  have both := run.invariant keep ex ⟨Ok.init, Mutex.init⟩
  exact both

/-- A VIM driver's answer. -/
def plainAnswer : VimAnswer where
  info := { flavourId := "simple", vnfState := .started }
  keeps := false

/-- A request by thread `t` whose handler takes the lock, up to its cast and its response. -/
def lockedRequest (params : OperationParams) (t : ThreadId) (id : Uuid) : List Event :=
  [.request (.api params), .act t .acquire, .act t .go, .act t .go, .act t (.create id id),
    .act t .go, .act t .go]

/-- The conductor's handler of a new occurrence, without failures. -/
def startHandler (t : ThreadId) (id : Uuid) : List Event :=
  [.deliver ⟨.startLcmOp, id⟩, .act t .go, .act t .acquire, .act t .go, .act t .go,
    .act t (.granted id), .act t .go, .act t (.done plainAnswer), .act t .go]

/-- The instance is instantiated. -/
def instantiation : List Event :=
  lockedRequest (.instantiate { flavourId := "simple" }) 0 1 ++ startHandler 1 1

/-- Two heal requests, each of which passes its checks before the other one creates its
occurrence. -/
def twoHeals : List Event :=
  instantiation ++
  [.request (.api .heal), .act 2 .go, .act 2 .go, .request (.api .heal), .act 3 .go, .act 3 .go,
    .act 2 (.create 2 2), .act 3 (.create 3 3)]

/-- Two terminations: the second request is handled after the first one has released the lock and
before the conductor takes it. -/
def twoTerminations : List Event :=
  instantiation ++ lockedRequest .terminate 2 2 ++ lockedRequest .terminate 3 3

/-- A heal request that loads the instance before it is terminated and creates its occurrence
afterwards. -/
def healTerminated : List Event :=
  instantiation ++ [.request (.api .heal), .act 2 .go] ++
  lockedRequest .terminate 3 2 ++ startHandler 4 2 ++ [.act 2 .go, .act 2 (.create 3 3)]

end Tacker.Lcm
