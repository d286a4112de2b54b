import Tacker.Lcm.Exclusion

/-!
# Sequential runs

A run is sequential if a request comes only when the handlers of the one before have ended and
nothing is left to deliver. The handlers may fail, and the conductor may stop and start again, at
any point. Then one thread, or one cast, carries the request at any time, and no handler ever acts
on a stale copy. If moreover a request comes only when no occurrence is left in a state in which
the controller or the conductor would be at work, requests are also alone when they are checked.
-/

namespace Tacker.Lcm
open Tacker.Basis Tacker.Objects

/-! ## The conditions -/

/-- Requests come one after the other. -/
def Sequential (p : State × Event) : Prop :=
  match p.2 with
  | .request _ | .task _ _ => p.1.threads.all (· = .idle) = true ∧ p.1.casts = []
  | _ => True

/-- The states in which the controller or the conductor executes the operation: the "...ING"
states of `check_lcmocc_in_progress`. -/
def isTransient : LcmOperationState → Bool
  | .starting | .processing | .rollingBack => true
  | _ => false

/-- Requests come one after the other, none before the operation of the last one has ended or
failed, and the periodic synchronization is not at work. -/
def Settled (p : State × Event) : Prop :=
  Sequential p ∧
  match p.2 with
  | .request _ => p.1.db.lcmoccs.rows.all (fun row => !isTransient row.operationState) = true
  | .syncDb => False
  | _ => True

instance : DecidablePred Sequential
  | (_, .request _) | (_, .task _ _) => inferInstanceAs (Decidable (_ ∧ _))
  | (_, .deliver _) | (_, .syncDb) | (_, .act _ _) | (_, .stop) | (_, .restart) | (_, .recover) =>
    inferInstanceAs (Decidable True)

instance : DecidablePred Settled
  | (_, .request _) => inferInstanceAs (Decidable (Sequential _ ∧ _ = true))
  | (_, .syncDb) => inferInstanceAs (Decidable (Sequential _ ∧ False))
  | (_, .task _ _) | (_, .deliver _) | (_, .act _ _) | (_, .stop) | (_, .restart) | (_, .recover) =>
    inferInstanceAs (Decidable (Sequential _ ∧ True))

/-! ## One request at a time -/

/-- The thread carries the request on. -/
def Thread.carries : Thread → Bool
  | .idle | .unlock | .report | .lockSync | .sync | .storeSync _ => false
  | _ => true

/-- The copy with which a handler waits, or goes to wait, is in the stored state. -/
def Thread.Fresh (db : Db) : Thread → Prop
  | .wait _ occ | .unlockAuto occ => db.stateOf occ.id = some occ.operationState
  | .lockTask _ occ =>
    occ.operationState = .failedTemp → db.stateOf occ.id = some occ.operationState
  | _ => True

/-- One thread or one cast carries the request. -/
structure OneRequest (s : State) : Prop where
  one : ∀ (t t' : ThreadId) th th', s.threads[t]? = some th → s.threads[t']? = some th' →
    th.carries = true → th'.carries = true → t = t'
  casts : s.casts ≠ [] → s.casts.length = 1 ∧ ∀ th ∈ s.threads, th.carries = false
  fresh : ∀ th ∈ s.threads, th.Fresh s.db

variable {vnfd : String → Vnfd} {inst : VnfInstance} {s s' : State} {e : Event}
  {tr : List (State × Event)} {db db' : Db} {th th' : Thread} {t : ThreadId} {sh sh' : Shared}
  {a : Action}

lemma OneRequest.init : OneRequest (State.init inst) where
  one _ _ _ _ get := by simp [State.init] at get
  casts ne := by simp [State.init] at ne
  fresh _ mem := by simp [State.init] at mem

lemma Thread.Fresh.upToDate (fresh : th.Fresh db) : th.upToDate db = true := by
  cases th with
  | wait m occ =>
    simp only [Thread.upToDate, decide_eq_true_eq]
    exact fun _ => fresh
  | lockTask k occ =>
    cases k with
    | fail =>
      simp only [Thread.upToDate, decide_eq_true_eq]
      exact fresh
    | _ => rfl
  | _ => rfl

lemma Thread.Fresh.of_not_carries (not : th.carries = false) : th.Fresh db := by
  cases th <;> trivial

/-- A request is carried on by the thread that carried it. -/
lemma ThreadStep.carries (step : ThreadStep vnfd t sh th a sh' th')
    (carries : th'.carries = true) : th.carries = true := by
  cases step with
  | @acquire th th' _ locked => cases th <;> cases locked <;> first | rfl | cases carries
  | expire | abort | leave | missingTask | missing | fail | refused | lookupFailed | done
    | workFailed | storeSync | sync => cases carries
  | _ => rfl

/-- The copy a handler goes to wait with is fresh. -/
lemma ThreadStep.fresh (step : ThreadStep vnfd t sh th a sh' th') (fresh : th.Fresh sh.db) :
    th'.Fresh sh'.db := by
  cases step with
  | @acquire th th' _ locked => cases th <;> cases locked <;> trivial
  | @create r params id now db occ _ eq =>
    split
    · obtain ⟨-, -, -, -, get⟩ := Db.createLcmocc_inv eq
      change db.stateOf occ.id = some occ.operationState
      rw [Db.stateOf, get, if_pos rfl]
      rfl
    · trivial
  | @cast locked => cases locked <;> trivial
  | unlockAuto => exact fresh
  | @loadTask _ id occ get =>
    obtain rfl := Table.key_of_get get
    exact fun _ => by rw [Db.stateOf, get]; rfl
  | @load c occ get =>
    obtain eq := Table.key_of_get get
    change sh.db.stateOf occ.id = some occ.operationState
    rw [Db.stateOf, eq, get]
    rfl
  | _ => trivial

/-- A thread that writes carries the request, the synchronization apart, which leaves the
occurrences alone. -/
lemma ThreadStep.lcmoccs (step : ThreadStep vnfd t sh th a sh' th') (not : th.carries = false) :
    sh'.db.lcmoccs = sh.db.lcmoccs := by
  cases step with
  | abort | leave => rw [leave_db]
  | storeSync => rfl
  | create | fail | mark | granted | refused | lookupFailed | done | workFailed => cases not
  | _ => rfl

lemma Thread.Fresh.congr (fresh : th.Fresh db) (eq : db'.lcmoccs = db.lcmoccs) :
    th.Fresh db' := by
  have same (id) : db'.stateOf id = db.stateOf id := by rw [Db.stateOf, Db.stateOf, eq]
  cases th with
  | wait m occ => exact (same _).trans fresh
  | unlockAuto occ => exact (same _).trans fresh
  | lockTask k occ => exact fun st => (same _).trans (fresh st)
  | _ => trivial

/-- A new thread that carries the request where none was carried. -/
lemma OneRequest.spawn (one : OneRequest s) (casts : s.casts = [])
    (none : ∀ th ∈ s.threads, th.carries = false) (fresh : th.Fresh s.db) :
    OneRequest (s.spawn th) where
  one t t' th₁ th₂ get get' carries carries' := by
    have last {t th₁} (get : (s.spawn th).threads[t]? = some th₁)
        (carries : th₁.carries = true) : t = s.threads.length := by
      simp only [State.spawn, List.getElem?_append] at get
      split at get
      · rw [none _ (List.mem_of_getElem? get)] at carries
        cases carries
      · have lt := (List.getElem?_eq_some_iff.mp get).1
        simp only [List.length_singleton] at lt
        omega
    exact (last get carries).trans (last get' carries').symm
  casts ne := absurd casts ne
  fresh th₁ mem := by
    rcases List.mem_append.mp mem with mem | mem
    · exact one.fresh th₁ mem
    · rw [List.mem_singleton.mp mem]
      exact fresh

/-- A new thread that does not carry a request. -/
lemma OneRequest.spawn_other (one : OneRequest s) (not : th.carries = false) :
    OneRequest (s.spawn th) where
  one t t' th₁ th₂ get get' carries carries' := by
    rcases getElem?_spawn_inv get with get | rfl
    · rcases getElem?_spawn_inv get' with get' | rfl
      · exact one.one t t' th₁ th₂ get get' carries carries'
      · rw [not] at carries'
        cases carries'
    · rw [not] at carries
      cases carries
  casts ne := by
    refine ⟨(one.casts ne).1, fun th₁ mem => ?_⟩
    rcases List.mem_append.mp mem with mem | mem
    · exact (one.casts ne).2 th₁ mem
    · rw [List.mem_singleton.mp mem]
      exact not
  fresh th₁ mem := by
    rcases List.mem_append.mp mem with mem | mem
    · exact one.fresh th₁ mem
    · rw [List.mem_singleton.mp mem]
      exact .of_not_carries not

lemma OneRequest.act (one : OneRequest s) (get : s.threads[t]? = some th)
    (step : ThreadStep vnfd t s.toShared th a sh' th') :
    OneRequest { s with toShared := sh', threads := s.threads.set t th' } := by
  have mem := List.mem_of_getElem? get
  -- whoever carries the request afterwards carried it before
  have before {t₁ : ThreadId} {th₁} (get₁ : (s.threads.set t th')[t₁]? = some th₁)
      (carries : th₁.carries = true) :
      ∃ th₂, s.threads[t₁]? = some th₂ ∧ th₂.carries = true := by
    rcases getElem?_set_inv get₁ with ⟨rfl, rfl⟩ | ⟨-, get₁⟩
    · exact ⟨th, get, step.carries carries⟩
    · exact ⟨th₁, get₁, carries⟩
  constructor
  case one =>
    intro t₁ t₂ th₁ th₂ get₁ get₂ carries₁ carries₂
    obtain ⟨_, get₁, carries₁⟩ := before get₁ carries₁
    obtain ⟨_, get₂, carries₂⟩ := before get₂ carries₂
    exact one.one _ _ _ _ get₁ get₂ carries₁ carries₂
  case casts =>
    intro ne
    rcases step.casts with eq | ⟨locked, c, rfl, eq⟩
    · have ne : s.casts ≠ [] := eq ▸ ne
      refine ⟨by rw [eq]; exact (one.casts ne).1, fun th₁ mem₁ => ?_⟩
      by_contra carries
      obtain ⟨t₁, get₁⟩ := List.mem_iff_getElem?.mp mem₁
      obtain ⟨th₂, get₂, carries₂⟩ := before get₁ (by simpa using carries)
      rw [(one.casts ne).2 th₂ (List.mem_of_getElem? get₂)] at carries₂
      cases carries₂
    · have nil : s.casts = [] := by
        by_contra ne
        cases (one.casts ne).2 _ mem
      refine ⟨by rw [eq, nil]; rfl, fun th₁ mem₁ => ?_⟩
      by_contra carries
      obtain ⟨t₁, get₁⟩ := List.mem_iff_getElem?.mp mem₁
      rcases getElem?_set_inv get₁ with ⟨-, rfl⟩ | ⟨ne, get₁⟩
      · cases step with
        | acquire _ locked => cases locked
        | @cast locked => cases locked <;> exact carries rfl
        | _ => exact carries rfl
      · exact ne (one.one _ _ _ _ get₁ get (by simpa using carries) rfl)
  case fresh =>
    intro th₁ mem₁
    obtain ⟨t₁, get₁⟩ := List.mem_iff_getElem?.mp mem₁
    rcases getElem?_set_inv get₁ with ⟨-, rfl⟩ | ⟨ne, get₁⟩
    · exact step.fresh (one.fresh th mem)
    · have mem₁ := List.mem_of_getElem? get₁
      cases carries : th.carries with
      | false => exact (one.fresh th₁ mem₁).congr (step.lcmoccs carries)
      | true =>
        refine .of_not_carries ?_
        by_contra carries₁
        exact ne (one.one _ _ _ _ get₁ get (by simpa using carries₁) carries)

/-- A step of a sequential run keeps the request in one hand. -/
theorem OneRequest.step (one : OneRequest s) (ok : Ok True s) (st : Step vnfd s e s')
    (seq : Sequential (s, e)) : OneRequest s' := by
  have quiet (idle : s.threads.all (· = .idle) = true) : ∀ th ∈ s.threads, th.carries = false := by
    intro th mem
    obtain rfl : th = .idle := by simpa using List.all_eq_true.mp idle th mem
    rfl
  cases st.inv with
  | request =>
    refine one.spawn seq.2 (quiet seq.1) ?_
    unfold State.startOf
    split <;> trivial
  | task => exact one.spawn seq.2 (quiet seq.1) trivial
  | @deliver c up mem =>
    obtain ⟨len, none⟩ := one.casts (List.ne_nil_of_mem mem)
    obtain ⟨c', eq⟩ := List.length_eq_one_iff.mp len
    obtain rfl : c = c' := by simpa [eq] using mem
    have nil : s.casts.erase c = [] := by simp [eq]
    have less : OneRequest { s with casts := s.casts.erase c } :=
      { one with casts := fun ne => absurd nil ne }
    exact less.spawn nil none trivial
  | syncDb => exact one.spawn_other rfl
  | act get step => exact one.act get step
  | stop =>
    have before {t : ThreadId} {th} (get : s.crash.threads[t]? = some th)
        (carries : th.carries = true) : s.threads[t]? = some th := by
      simp only [State.crash, List.getElem?_map, Option.map_eq_some_iff] at get
      obtain ⟨th₀, get, eq⟩ := get
      split at eq
      · subst eq
        cases carries
      · exact eq ▸ get
    refine ⟨fun t t' th th' get get' carries carries' => ?_, fun ne => ?_, fun th mem => ?_⟩
    · exact one.one t t' th th' (before get carries) (before get' carries') carries carries'
    · refine ⟨(one.casts ne).1, fun th mem => ?_⟩
      obtain ⟨th₀, mem₀, rfl⟩ := List.mem_map.mp mem
      split
      · rfl
      · exact (one.casts ne).2 th₀ mem₀
    · obtain ⟨th₀, mem₀, rfl⟩ := List.mem_map.mp mem
      split
      · trivial
      · exact one.fresh th₀ mem₀
  | restart | ready | scan | scanned => exact { one with }
  | @recover afterState occ occs kinds occ' eq new =>
    have con := ok.conductor
    rw [eq] at con
    obtain ⟨-, -, beforeState, kind, occsOk⟩ := con
    obtain ⟨state, cur⟩ := occsOk occ List.mem_cons_self
    obtain ⟨row, rewr, -⟩ := recover_rewrites cur new (state ▸ kind)
    have spares := rewr.spares fun id => Db.get_updateLcmocc rewr.get
    have ne : s.conductor ≠ .up := by simp [eq]
    refine ⟨one.one, one.casts, fun th mem => ?_⟩
    have fresh := one.fresh th mem
    have server := ok.down ne th mem
    cases th with
    | lockTask k copy =>
      intro failed
      have stored := fresh failed
      obtain ⟨row₁, get₁, st₁⟩ := Option.map_eq_some_iff.mp stored
      obtain ⟨row₂, get₂, st₂⟩ := spares trivial _ row₁ get₁ (by
        rw [st₁, failed, state]
        rintro rfl
        simp [stateList] at kind)
      rw [Db.stateOf, get₂, Option.map_some, st₂, st₁]
    | wait | unlockAuto => cases server
    | _ => trivial

/-- No handler acts on a stale copy. -/
lemma OneRequest.notStale (one : OneRequest s) : NotStale (s, e) := by
  unfold NotStale
  split
  · rw [Option.all_eq_true]
    exact fun th get => (one.fresh th (List.mem_of_getElem? get)).upToDate
  · trivial

/-- In a sequential run no handler acts on a stale copy. -/
theorem OneRequest.run (run : Run (Step vnfd) (State.init inst) tr s)
    (seq : Guarded Sequential tr) : Guarded NotStale tr ∧ Ok True s ∧ OneRequest s := by
  induction run with
  | nil => exact ⟨.nil, Ok.init, OneRequest.init⟩
  | @snoc tr s e s' run st ih =>
    obtain ⟨seq, last⟩ := Guarded.append.mp seq
    obtain ⟨notStale, ok, one⟩ := ih seq
    have last := Guarded.singleton.mp last
    exact ⟨Guarded.append.mpr ⟨notStale, Guarded.singleton.mpr one.notStale⟩,
      ok.step st fun _ => one.notStale, one.step ok st last⟩

end Tacker.Lcm
