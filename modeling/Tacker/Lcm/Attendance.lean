import Tacker.Lcm.Exclusion

/-!
# Accepted operations are attended to

An occurrence stored as STARTING has an undelivered start cast or a handler at work for it, unless
its handler was ended early. The comment in `start_lcm_op_internal` accepts this: "if an error
occurred lcmocc.operationState remains STARTING". The law holds in every run, whatever else goes
on, and names the ways in which a handler ends early.
-/

namespace Tacker.Lcm
open Tacker.Basis Tacker.Objects

/-- The thread is at work on the start of the occurrence: the handler of the request between the
creation and the cast, or the handler of the conductor until it stores the outcome of the grant. -/
def Thread.attends (id : Uuid) : Thread → Bool
  | .cast _ c | .load c => c = ⟨.startLcmOp, id⟩
  | .unlockAuto occ | .grant occ _ => occ.id = id
  | .wait m occ | .enter m occ | .announce m occ _ => m = .startLcmOp ∧ occ.id = id
  | _ => false

/-- The start of the occurrence is still to be delivered or is in hand. -/
def Attended (s : State) (id : Uuid) : Prop :=
  ⟨.startLcmOp, id⟩ ∈ s.casts ∨ ∃ th ∈ s.threads, th.attends id = true

instance {s : State} {id : Uuid} : Decidable (Attended s id) :=
  inferInstanceAs (Decidable (_ ∨ _))

/-- The conductor, at its start, has loaded the occurrence and is about to store it. -/
def BeingRecovered (s : State) (id : Uuid) : Prop :=
  ∃ afterState occs kinds, s.conductor = .recover afterState occs kinds ∧
    id ∈ occs.map LcmOpOcc.id

/-- At this step the handler of the occurrence ends early: its wait for the lock expires, an
exception ends it that no try block catches, or the conductor stops. -/
def EndsEarly (id : Uuid) (p : State × Event) : Prop :=
  match p.2 with
  | .act t a => (a = .expire ∨ a = .abort) ∧ ∃ th, p.1.threads[t]? = some th ∧ th.attends id = true
  | .stop => (∃ th ∈ p.1.threads, th.inConductor = true ∧ th.attends id = true) ∨
      BeingRecovered p.1 id
  | _ => False

/-- At this step the conductor, at its start, loads the STARTING occurrences. -/
def LoadsStarting (p : State × Event) : Prop :=
  p.2 = .recover ∧ ∃ afterState kinds, p.1.conductor = .scan ((.starting, afterState) :: kinds)

/-- The handler of the occurrence has ended early since the conductor last loaded the STARTING
occurrences. -/
def EndedEarly (tr : List (State × Event)) (id : Uuid) : Prop :=
  ∃ tr₁ p tr₂, tr = tr₁ ++ p :: tr₂ ∧ EndsEarly id p ∧ ∀ q ∈ tr₂, ¬ LoadsStarting q

/-- Somebody attends to the occurrence or is about to end it, or it is known who ended early. -/
def Accounted (tr : List (State × Event)) (s : State) (id : Uuid) : Prop :=
  Attended s id ∨ BeingRecovered s id ∨ EndedEarly tr id

/-- The occurrence is stored as STARTING. -/
abbrev Starting (db : Db) (id : Uuid) : Prop :=
  db.stateOf id = some .starting

variable {vnfd : String → Vnfd} {inst : VnfInstance} {s s' : State} {e : Event}
  {tr : List (State × Event)} {db db' : Db} {th th' : Thread} {t : ThreadId} {sh sh' : Shared}
  {a : Action} {id : Uuid}

lemma EndedEarly.snoc (ended : EndedEarly tr id) {p : State × Event} (not : ¬ LoadsStarting p) :
    EndedEarly (tr ++ [p]) id := by
  obtain ⟨tr₁, q, tr₂, rfl, ends, rest⟩ := ended
  refine ⟨tr₁, q, tr₂ ++ [p], by simp, ends, fun r mem => ?_⟩
  rcases List.mem_append.mp mem with mem | mem
  · exact rest r mem
  · rw [List.mem_singleton.mp mem]
    exact not

lemma EndedEarly.last {p : State × Event} (ends : EndsEarly id p) :
    EndedEarly (tr ++ [p]) id :=
  ⟨tr, p, [], rfl, ends, fun _ mem => by cases mem⟩

/-! ## STARTING occurrences under a step -/

/-- A stored occurrence that is STARTING was STARTING before. -/
lemma Evolves.starting (ev : Evolves False db db') (old : db.lcmoccs.get id ≠ none)
    (st : Starting db' id) : Starting db id := by
  obtain ⟨row', get', st'⟩ := Option.map_eq_some_iff.mp st
  obtain ⟨row, get⟩ := Option.ne_none_iff_exists'.mp old
  obtain ⟨row₁, get₁, -, starting, -⟩ := ev id row get
  obtain rfl := Option.some.inj (get'.symm.trans get₁)
  rw [Starting, Db.stateOf, get, Option.map_some, starting st']

/-- A write makes no occurrence STARTING. -/
lemma Write.starting (w : Write vnfd False db db') (st : Starting db' id) : Starting db id := by
  refine (Tx.write w).rows.evolves.starting ?_ st
  obtain ⟨row', get', -⟩ := Option.map_eq_some_iff.mp st
  obtain ⟨row, occ, src, rw, -, get⟩ := w.rows
  rw [get] at get'
  split at get'
  · case isTrue same =>
    subst same
    rw [rw.get]
    exact Option.some_ne_none _
  · rw [get']
    exact Option.some_ne_none _

/-- An occurrence that a step of a thread makes STARTING is new, and the thread attends to it. -/
lemma ThreadStep.starting (step : ThreadStep vnfd t sh th a sh' th') (ok : th.Ok False sh.db)
    (st : Starting sh'.db id) : Starting sh.db id ∨ th'.attends id = true := by
  cases th with
  | create r params =>
    cases step with
    | acquire _ locked => cases locked
    | expire _ locked => cases locked
    | abort | leave => exact .inl (leave_db _ ▸ st)
    | @create _ _ newId now db occ new eq =>
      obtain ⟨-, -, -, -, get⟩ := Db.createLcmocc_inv eq
      have newState : occ.operationState = initialState params.operation := by rw [new]; rfl
      have st : db.stateOf id = some .starting := st
      by_cases same : occ.id = id
      · rw [Db.stateOf, get, if_pos same, Option.map_some, newState] at st
        have op : params.operation ≠ .modifyInfo := by
          intro modify
          rw [modify] at st
          cases st
        obtain rfl : newId = id := by rw [← same, new]; rfl
        refine .inr ?_
        split
        · simp [Thread.attends, same]
        · simp [Thread.attends, startMethod, op]
      · rw [Db.stateOf, get, if_neg same] at st
        exact .inl st
  | storeSync inst =>
    cases step with
    | acquire _ locked => cases locked
    | expire _ locked => cases locked
    | abort | leave => exact .inl (leave_db _ ▸ st)
    | storeSync => exact .inl st
  | _ =>
    rcases step.write ok rfl with eq | w
    · exact .inl (eq ▸ st)
    · exact .inl (w.starting st)

/-- A held copy of a STARTING occurrence is one of it as STARTING. -/
lemma Held.starting {occ : LcmOpOcc} (held : Held False db occ) (st : Starting db occ.id) :
    occ.operationState = .starting := by
  obtain ⟨row, get, copy⟩ := held
  refine copy.starting ?_
  simpa [Starting, Db.stateOf, get] using st

/-- The row that a handler has just stored is not STARTING. -/
lemma not_starting_of_update {occ occ' : LcmOpOcc} (held : Held False db occ)
    (same : occ'.id = occ.id) (ne : occ'.operationState ≠ .starting)
    (eq : db'.lcmoccs = (db.updateLcmocc occ').lcmoccs) : ¬ Starting db' occ.id := by
  obtain ⟨row, get, -⟩ := held
  intro st
  rw [Starting, Db.stateOf, eq, Db.get_updateLcmocc (same ▸ get), if_pos same] at st
  exact ne (Option.some.inj st)

/-- The thread that attends to an occurrence goes on doing so, hands it over by a cast, or ends
early, as long as the occurrence is STARTING. -/
theorem ThreadStep.attends (step : ThreadStep vnfd t sh th a sh' th') (ok : th.Ok False sh.db)
    (att : th.attends id = true) (before : Starting sh.db id) (st : Starting sh'.db id) :
    th'.attends id = true ∨ ⟨.startLcmOp, id⟩ ∈ sh'.casts ∨ a = .expire ∨ a = .abort := by
  cases step with
  | @acquire th th' _ locked =>
    cases th <;> cases locked <;> exact .inl att
  | expire => exact .inr (.inr (.inl rfl))
  | abort => exact .inr (.inr (.inr rfl))
  | @leave th can =>
    cases th with
    | enter m occ =>
      obtain ⟨rfl, rfl⟩ : m = .startLcmOp ∧ occ.id = id := by simpa [Thread.attends] using att
      exact absurd (Held.starting ok.1 before) can
    | getInst | check | unlock | checkTask | report | sync => cases att
    | _ => cases can
  | @cast locked c =>
    obtain rfl : c = ⟨.startLcmOp, id⟩ := by simpa [Thread.attends] using att
    exact .inr (.inl List.mem_cons_self)
  | unlockAuto =>
    refine .inl ?_
    simpa [Thread.attends] using att
  | @load c occ get =>
    obtain rfl : c = ⟨.startLcmOp, id⟩ := by simpa [Thread.attends] using att
    refine .inl ?_
    simpa [Thread.attends] using Table.key_of_get get
  | @missing c get =>
    obtain rfl : c = ⟨.startLcmOp, id⟩ := by simpa [Thread.attends] using att
    simp [Starting, Db.stateOf, get] at before
  | begin => exact .inl att
  | @resume m _ _ method =>
    rcases method with rfl | rfl <;> simp [Thread.attends] at att
  | announceStart =>
    refine .inl ?_
    simpa [Thread.attends] using att
  | announceModify => simp [Thread.attends] at att
  | announceResume method =>
    rcases method with rfl | rfl <;> simp [Thread.attends] at att
  | granted new eq =>
    obtain rfl := of_decide_eq_true att
    obtain ⟨-, lcmoccs, -⟩ := Db.saveGrants_inv eq
    exact absurd st (not_starting_of_update ok.current.held (by rw [new]; rfl)
      (by rw [new]; intro eq; cases eq) lcmoccs)
  | refused new =>
    obtain rfl := of_decide_eq_true att
    exact absurd st (not_starting_of_update ok.current.held (by rw [new]; rfl)
      (by rw [new]; intro eq; cases eq) rfl)
  | _ => cases att

/-! ## The system -/

/-- A step that takes nobody off the occurrence. -/
lemma Accounted.keep (acc : Accounted tr s id) (att : Attended s id → Attended s' id)
    (being : BeingRecovered s id → BeingRecovered s' id) (not : ¬ LoadsStarting (s, e)) :
    Accounted (tr ++ [(s, e)]) s' id := by
  rcases acc with acc | acc | acc
  · exact .inl (att acc)
  · exact .inr (.inl (being acc))
  · exact .inr (.inr (acc.snoc not))

lemma Attended.spawn (att : Attended s id) : Attended (s.spawn th) id := by
  rcases att with mem | ⟨th', mem, att⟩
  · exact .inl mem
  · exact .inr ⟨th', List.mem_append_left _ mem, att⟩

/-- The occurrence of a cast that is delivered is attended to by the new handler. -/
lemma Attended.deliver {c : Cast} (att : Attended s id) :
    Attended ({ s with casts := s.casts.erase c }.spawn (.load c)) id := by
  rcases att with mem | ⟨th', mem, att⟩
  · by_cases same : c = ⟨.startLcmOp, id⟩
    · exact .inr ⟨.load c, by simp [State.spawn], by simp [Thread.attends, same]⟩
    · exact .inl ((List.mem_erase_of_ne (Ne.symm same)).mpr mem)
  · exact .inr ⟨th', List.mem_append_left _ mem, att⟩

lemma mem_set_of_ne {ths : List Thread} {th₁ : Thread} (get : ths[t]? = some th)
    (mem : th₁ ∈ ths) (ne : th₁ ≠ th) : th₁ ∈ ths.set t th' := by
  obtain ⟨t₁, get₁⟩ := List.mem_iff_getElem?.mp mem
  refine List.mem_iff_getElem?.mpr ⟨t₁, ?_⟩
  rw [List.getElem?_set_ne]
  · exact get₁
  · rintro rfl
    exact ne (Option.some.inj (get₁.symm.trans get))

/-- A step of a thread. -/
lemma Accounted.act (acc : Starting s.db id → Accounted tr s id) (ok : Ok False s)
    (get : s.threads[t]? = some th) (step : ThreadStep vnfd t s.toShared th a sh' th')
    (st : Starting sh'.db id) : Accounted (tr ++ [(s, .act t a)])
      { s with toShared := sh', threads := s.threads.set t th' } id := by
  have mem := List.mem_of_getElem? get
  have here : th' ∈ s.threads.set t th' :=
    List.mem_set (List.getElem?_eq_some_iff.mp get).1 th'
  have old (before : Starting s.db id) : Accounted (tr ++ [(s, .act t a)])
      { s with toShared := sh', threads := s.threads.set t th' } id := by
    rcases acc before with att | being | ended
    · rcases att with waiting | ⟨th₁, mem₁, att⟩
      · refine .inl (.inl ?_)
        rcases step.casts with eq | ⟨locked, c, rfl, eq⟩
        · exact eq ▸ waiting
        · exact eq ▸ List.mem_cons_of_mem _ waiting
      · by_cases same : th₁ = th
        · subst same
          rcases step.attends (ok.threads th₁ mem) att before st with att | casts | early
          · exact .inl (.inr ⟨th', here, att⟩)
          · exact .inl (.inl casts)
          · exact .inr (.inr (.last ⟨early, th₁, get, att⟩))
        · exact .inl (.inr ⟨th₁, mem_set_of_ne get mem₁ same, att⟩)
    · exact .inr (.inl being)
    · exact .inr (.inr (ended.snoc fun loads => nomatch loads.1))
  rcases step.starting (ok.threads th mem) st with before | att
  · exact old before
  · exact .inl (.inr ⟨th', here, att⟩)

/-- Each step of the system accounts for the occurrences that are STARTING after it. -/
lemma Accounted.step (acc : Starting s.db id → Accounted tr s id) (ok : Ok False s)
    (step : Step vnfd s e s') (st : Starting s'.db id) : Accounted (tr ++ [(s, e)]) s' id := by
  cases step.inv with
  | request | task | syncDb =>
    exact (acc st).keep .spawn (fun being => being) fun loads => nomatch loads.1
  | deliver => exact (acc st).keep .deliver (fun being => being) fun loads => nomatch loads.1
  | act get thStep => exact Accounted.act acc ok get thStep st
  | stop =>
    rcases acc st with att | being | ended
    · rcases att with waiting | ⟨th, mem, att⟩
      · exact .inl (.inl waiting)
      · cases con : th.inConductor with
        | true => exact .inr (.inr (.last (.inl ⟨th, mem, con, att⟩)))
        | false =>
          refine .inl (.inr ⟨th, List.mem_map.mpr ⟨th, mem, ?_⟩, att⟩)
          rw [con]
          rfl
    · exact .inr (.inr (.last (.inr being)))
    · exact .inr (.inr (ended.snoc fun loads => nomatch loads.1))
  | restart down =>
    refine (acc st).keep (fun att => att) (fun being => ?_) fun loads => nomatch loads.1
    obtain ⟨_, _, _, con, -⟩ := being
    simp [down] at con
  | ready con =>
    refine (acc st).keep (fun att => att) (fun being => ?_) fun ⟨_, _, _, con'⟩ => ?_
    · obtain ⟨_, _, _, con', -⟩ := being
      simp [con] at con'
    · simp [con] at con'
  | @scan beforeState afterState kinds con =>
    by_cases kind : beforeState = .starting
    · subst kind
      obtain ⟨row, get, state⟩ := Option.map_eq_some_iff.mp st
      obtain rfl := Table.key_of_get get
      have loaded : row ∈ s.db.lcmoccsIn .starting := Db.mem_lcmoccsIn.mpr ⟨get, state⟩
      exact .inr (.inl ⟨_, _, _, rfl, List.mem_map_of_mem loaded⟩)
    · refine (acc st).keep (fun att => att) (fun being => ?_) fun ⟨_, _, _, con'⟩ => ?_
      · obtain ⟨_, _, _, con', -⟩ := being
        simp [con] at con'
      · simp [con, kind] at con'
  | scanned con =>
    refine (acc st).keep (fun att => att) (fun being => ?_) fun ⟨_, _, _, con'⟩ => ?_
    · obtain ⟨_, occs, _, con', mem⟩ := being
      obtain ⟨-, rfl, -⟩ := Conductor.recover.inj (con.symm.trans con')
      cases mem
    · simp [con] at con'
  | @recover afterState occ occs kinds occ' con new =>
    have recovered := ok.conductor
    rw [con] at recovered
    obtain ⟨-, -, beforeState, kind, occsOk⟩ := recovered
    obtain ⟨state, cur⟩ := occsOk occ List.mem_cons_self
    obtain ⟨row, rewr, mv⟩ := recover_rewrites cur new (state ▸ kind)
    have w : Write vnfd False s.db (s.db.updateLcmocc occ') := .move rewr mv
    have before : Starting s.db id := w.starting st
    refine (acc before).keep (fun att => att) (fun being => ?_) fun ⟨_, _, _, con'⟩ => ?_
    · obtain ⟨_, occs', _, con', mem⟩ := being
      obtain ⟨rfl, rfl, rfl⟩ := Conductor.recover.inj (con.symm.trans con')
      rcases List.mem_cons.mp mem with rfl | mem
      · exact absurd st (not_starting_of_update cur.held (by rw [new]; rfl) mv.ne_starting rfl)
      · exact ⟨_, _, _, rfl, mem⟩
    · simp [con] at con'

/-- In every run an occurrence that is STARTING is attended to, is about to be ended by the
recovery, or was given up by its handler since the last recovery. -/
theorem starting_accounted (run : Run (Step vnfd) (State.init inst) tr s)
    (st : Starting s.db id) : Accounted tr s id := by
  induction run with
  | nil => cases st
  | snoc run step ih => exact Accounted.step ih (Ok.init.run_weak run) step st

/-- The handler of an instantiation waits for the lock that the controller still holds. -/
theorem instantiation_accounted :
    ∃ tr s, Run (Step fun _ => plainVnfd) (State.init (.created "vnfd")) tr s ∧
      s.lock = some 0 ∧ Accounted tr s 1 := by
  obtain ⟨tr, s, run, held, st⟩ := Run.of_replay (next fun _ => plainVnfd)
    (State.init (.created "vnfd"))
    ((lockedRequest (.instantiate { flavourId := "simple" }) 0 1).take 6 ++
      (startHandler 1 1).take 2)
    (fun _ s => s.lock = some 0 ∧ Starting s.db 1) (by decide)
  exact ⟨tr, s, run, held, starting_accounted run st⟩

/-- A heal request is accepted while the periodic synchronization holds the lock; its handler waits
for the lock and gives up. -/
def healDuringSync : List Event :=
  instantiation ++
  [.syncDb, .act 2 .acquire, .act 2 .go,
    .request (.api .heal), .act 3 .go, .act 3 .go, .act 3 (.create 2 2), .act 3 .go,
    .deliver ⟨.startLcmOp, 2⟩, .act 4 .go, .act 4 .expire]

/-- Then the occurrence is STARTING, the conductor is up and nobody attends to the occurrence. -/
theorem starting_unattended :
    ∃ tr s, Run (Step fun _ => plainVnfd) (State.init (.created "vnfd")) tr s ∧
      Starting s.db 2 ∧ ¬ Attended s 2 ∧ s.conductor = .up ∧ tr.map Prod.snd = healDuringSync :=
  Run.of_replay (next fun _ => plainVnfd) (State.init (.created "vnfd")) healDuringSync
    (fun tr s => Starting s.db 2 ∧ ¬ Attended s 2 ∧ s.conductor = .up ∧
      tr.map Prod.snd = healDuringSync) (by decide)

end Tacker.Lcm
