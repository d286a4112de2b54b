import Tacker.Heal.Expirations

/-!
# What becomes of an enqueued VNFC

A call that enqueues VNFCs leaves them with one timer. In a run of safe steps, that timer keeps them
until it passes them to its heal request, unless a call that dequeues the instance cancels it.
-/

namespace Tacker.Heal

open Tacker.Basis

variable {Load : Type*} {timer : HealTimer Load} {s s' : State Load} {t : Thread} {e : Event Load}
  {tr : List (State Load × Event Load)}

/-! ## Fates -/

/-- The enqueueing call was made before the dequeueing call had returned. -/
def MadeBefore (tr : List (State Load × Event Load)) (c d : Nat) : Prop :=
  ∃ p ∈ tr, p.1.pcs (.call c) ≠ .idle ∧ ∀ inst, p.1.pcs (.call d) ≠ .dequeued inst

/-- The timer has made exactly one request, for the instance and with the VNFC. -/
def PassedOnce (s : State Load) (inst : String) (k : Nat) (id : String) : Prop :=
  ∃ ids, id ∈ ids ∧
    s.requestsOf k = [{ timer := k, vnfInstanceId := inst, vnfcInstanceIds := ids }]

/-- A call that dequeues the instance has cancelled the timer, and had not returned when the VNFCs
were enqueued. -/
def Discarded (tr : List (State Load × Event Load)) (s : State Load) (c : Nat) (inst : String)
    (k : Nat) : Prop :=
  ∃ d, (s.timers k).expired = some (.call d) ∧
    (s.pcs (.call d) = .delete inst none ∨ s.pcs (.call d) = .dequeued inst) ∧ MadeBefore tr c d

/-- What has become of a VNFC that the call has left with the timer. -/
inductive Fate (tr : List (State Load × Event Load)) (s : State Load) (c : Nat) (inst : String)
    (k : Nat) (id : String) : Prop where
  /-- The timer is running. -/
  | waiting (live : (s.timers k).expired = none) (queued : id ∈ (s.timers k).queue)
  /-- The expiration handler has the VNFC, and makes its request later. -/
  | handedOver {ids : List String} (passes : (s.pcs (.timer k)).passing = some (inst, ids))
      (mem : id ∈ ids) (none : s.requestsOf k = [])
  | passed (once : PassedOnce s inst k id)
  | discarded (gone : Discarded tr s c inst k)

/-- The call has not started, or it has returned. -/
def Pc.Returned : Pc Load → Prop
  | .idle | .enqueued _ _ _ | .dequeued _ => True
  | _ => False

/-- No call is being served, and the thread of every timer has ended. -/
def State.Finished (s : State Load) : Prop :=
  (∀ c, (s.pcs (.call c)).Returned) ∧ ∀ k < s.made, s.pcs (.timer k) = .ended

/-- No call raises, and no VNFC is lost: at the end, each was passed to exactly one request of its
instance, or was discarded. -/
structure Accounted (timer : HealTimer Load) (tr : List (State Load × Event Load))
    (s : State Load) : Prop where
  noneRaised : ∀ t, s.pcs t ≠ .raised
  fate : ∀ c inst load k, s.pcs (.call c) = .enqueued inst load k → ∀ id ∈ timer.ids load,
    Fate tr s c inst k id
  settled : s.Finished → ∀ c inst load k, s.pcs (.call c) = .enqueued inst load k →
    ∀ id ∈ timer.ids load, PassedOnce s inst k id ∨ Discarded tr s c inst k

/-- What a call has left with its timer. -/
structure Leaves (timer : HealTimer Load) (tr : List (State Load × Event Load)) (s : State Load) :
    Prop where
  noneRaised : ∀ t, s.pcs t ≠ .raised
  queued : ∀ c inst load k, s.pcs (.call c) = .enqueued inst load k →
    (∀ id ∈ timer.ids load, id ∈ (s.timers k).queue) ∨
      ∃ d, (s.timers k).expired = some (.call d)
  before : ∀ c inst load k d,
    s.pcs (.call c) = .add inst load k ∨ s.pcs (.call c) = .enqueued inst load k →
    (s.timers k).expired = some (.call d) → MadeBefore tr c d

lemma Leaves.start : Leaves timer [] ({} : State Load) where
  noneRaised t eq := by cases eq
  queued c inst load k eq := by cases eq
  before c inst load k d eq := by
    rcases eq with eq | eq
    · cases eq
    · cases eq

lemma MadeBefore.mono {c d : Nat} (before : MadeBefore tr c d) :
    MadeBefore (tr ++ [(s, e)]) c d := by
  obtain ⟨p, mem, rest⟩ := before
  exact ⟨p, List.mem_append_left _ mem, rest⟩

lemma MadeBefore.last {c d : Nat} (made : s.pcs (.call c) ≠ .idle)
    (running : ∀ inst, s.pcs (.call d) ≠ .dequeued inst) : MadeBefore (tr ++ [(s, e)]) c d :=
  ⟨(s, e), List.mem_append_right _ (List.mem_singleton.mpr rfl), made, running⟩

namespace Move

lemma not_raised (mv : Move timer s t s') : s'.pcs t ≠ .raised := by
  intro raised
  cases mv with
  | @turn next turns =>
    rw [State.pcs_goOn_self] at raised
    generalize s.pcs t = old at turns
    cases turns with
    | @removed inst passes =>
      cases passes with
      | none => cases raised
      | some ids => cases raised
    | _ => cases raised
  | @delete inst passes =>
    rw [State.pcs_goOn_self] at raised
    cases passes with
    | none => cases raised
    | some ids => cases raised
  | _ =>
    rw [State.pcs_goOn_self] at raised
    cases raised

/-- How a thread comes to stand before it adds its load to a timer. -/
lemma add_cases (mv : Move timer s t s') {inst : String} {load : Load} {k : Nat}
    (stands : s'.pcs t = .add inst load k) :
    s.pcs t = .lookup inst load ∧ s.timerMap inst = some k ∧ s'.timers = s.timers := by
  cases mv with
  | @turn next turns =>
    rw [State.pcs_goOn_self] at stands
    subst stands
    generalize was : s.pcs t = old at turns
    generalize new : (Pc.add inst load k : Pc Load) = pc at turns
    cases turns with
    | add map =>
      cases new
      exact ⟨rfl, map, rfl⟩
    | @removed inst passes =>
      cases passes with
      | none => cases new
      | some ids => cases new
    | _ => cases new
  | @delete inst passes =>
    rw [State.pcs_goOn_self] at stands
    cases passes with
    | none => cases stands
    | some ids => cases stands
  | _ =>
    rw [State.pcs_goOn_self] at stands
    cases stands

/-- How an enqueueing call returns. -/
lemma enqueued_cases (mv : Move timer s t s') {inst : String} {load : Load} {k : Nat}
    (stands : s'.pcs t = .enqueued inst load k) :
    s.pcs t = .add inst load k ∧
      ((s'.timers k).expired = none ∧ (s'.timers k).queue = timer.add (s.timers k).queue load ∨
        s'.timers = s.timers ∧ ∃ d, (s'.timers k).expired = some (.call d)) := by
  cases mv with
  | @turn next turns =>
    rw [State.pcs_goOn_self] at stands
    subst stands
    generalize was : s.pcs t = old at turns
    generalize new : (Pc.enqueued inst load k : Pc Load) = pc at turns
    cases turns with
    | @removed inst passes =>
      cases passes with
      | none => cases new
      | some ids => cases new
    | _ => cases new
  | @add inst' load' k' was live =>
    rw [State.pcs_goOn_self] at stands
    cases stands
    refine ⟨was, .inl ⟨?_, ?_⟩⟩
    · show ((s.setTimer k _).timers k).expired = none
      rw [State.timers_setTimer_self]
      exact live
    · show ((s.setTimer k _).timers k).queue = _
      rw [State.timers_setTimer_self]
  | drop was cancelled =>
    rw [State.pcs_goOn_self] at stands
    cases stands
    exact ⟨was, .inr ⟨rfl, _, cancelled⟩⟩
  | @delete inst passes =>
    rw [State.pcs_goOn_self] at stands
    cases passes with
    | none => cases stands
    | some ids => cases stands
  | _ =>
    rw [State.pcs_goOn_self] at stands
    cases stands

end Move

/-- A safe step keeps what the calls have left with their timers. -/
lemma Leaves.move (ok : Leaves timer tr s) (refers : Refers s) (ends : Ends timer s)
    (mv : Move timer s e.thread s') : Leaves timer (tr ++ [(s, e)]) s' := by
  constructor
  · intro t
    by_cases same : t = e.thread
    · exact same ▸ mv.not_raised
    · rw [mv.pcs_of_ne same]
      exact ok.noneRaised t
  · intro c inst load k enqueued
    by_cases same : .call c = e.thread
    · rw [same] at enqueued
      obtain ⟨_, ⟨_, queue⟩ | ⟨_, cancelled⟩⟩ := mv.enqueued_cases enqueued
      · exact .inl fun id mem => queue ▸ timer.mem_add.mpr (.inr mem)
      · exact .inr cancelled
    · rw [mv.pcs_of_ne same] at enqueued
      have later := mv.later (refers.aim (.call c) inst k (enqueued ▸ rfl)).1
      rcases ok.queued c inst load k enqueued with queued | ⟨d, cancelled⟩
      · exact .inl fun id mem => later.queue id (queued id mem)
      · exact .inr ⟨d, later.frozen _ cancelled ▸ cancelled⟩
  · intro c inst load k d stands expired
    by_cases same : .call c = e.thread
    · rw [same] at stands
      rcases stands with adds | enqueued
      · obtain ⟨was, map, timers⟩ := mv.add_cases adds
        rw [timers] at expired
        have deletes := ends.inMap inst k d map expired
        apply MadeBefore.last
        · rw [same, was]
          exact fun eq => by cases eq
        · rw [deletes]
          exact fun inst' eq => by cases eq
      · obtain ⟨was, ⟨live, _⟩ | ⟨timers, _⟩⟩ := mv.enqueued_cases enqueued
        · cases live.symm.trans expired
        · rw [timers] at expired
          exact (ok.before c inst load k d (.inl (same ▸ was)) expired).mono
    · rw [mv.pcs_of_ne same] at stands
      have aim : (s.pcs (.call c)).aim = some (inst, k) := by
        rcases stands with adds | enqueued
        · exact adds ▸ rfl
        · exact enqueued ▸ rfl
      have made := (refers.aim (.call c) inst k aim).1
      rcases mv.expired_cases made with kept | ⟨_, by', own | ⟨inst', passes, was, _⟩⟩
      · exact (ok.before c inst load k d stands (kept.symm.trans expired)).mono
      · cases own.symm.trans (Option.some.inj (by'.symm.trans expired))
      · have cancels := Option.some.inj (by'.symm.trans expired)
        apply MadeBefore.last
        · rcases stands with adds | enqueued
          · exact fun eq => by cases adds.symm.trans eq
          · exact fun eq => by cases enqueued.symm.trans eq
        · exact fun inst eq => by cases was.symm.trans (cancels ▸ eq)

/-- In a state of a run of safe steps, every enqueued VNFC has a fate. -/
lemma Leaves.fate (ok : Leaves timer tr s) (refers : Refers s) (ends : Ends timer s)
    {c : Nat} {inst : String} {load : Load} {k : Nat}
    (enqueued : s.pcs (.call c) = .enqueued inst load k) {id : String} (mem : id ∈ timer.ids load) :
    Fate tr s c inst k id := by
  obtain ⟨made, rfl⟩ := refers.aim (.call c) inst k (enqueued ▸ rfl)
  have queued : (∀ d, (s.timers k).expired ≠ some (.call d)) → id ∈ (s.timers k).queue :=
    fun notBy => (ok.queued c _ load k enqueued).elim (fun queued => queued id mem)
      fun ⟨d, cancelled⟩ => absurd cancelled (notBy d)
  cases expired : (s.timers k).expired with
  | none => exact .waiting expired (queued fun d eq => by cases expired.symm.trans eq)
  | some thread' =>
    cases thread' with
    | call d =>
      exact .discarded ⟨d, expired, ends.byCall k d made expired,
        ok.before c _ load k d (.inr enqueued) expired⟩
    | timer j =>
      have queued := queued fun d eq => by cases expired.symm.trans eq
      rcases ends.byOther k j made expired with rfl | empty
      · have passed := timer.mem_passed.mpr queued
        have thread := ends.thread j
        generalize stands : s.pcs (.timer j) = pc at thread
        cases thread with
        | idle notOwn => exact absurd expired notOwn
        | passing own none passes => exact .handedOver (stands ▸ passes) passed none
        | ended own request => exact .passed ⟨_, passed, request⟩
        | stopped cancelled notOwn =>
          exact absurd (Option.some.inj (cancelled.symm.trans expired)) notOwn
      · rw [empty] at queued
        cases queued

/-- Once the thread of its timer has ended, a VNFC was passed on or discarded. -/
lemma Fate.settled {c : Nat} {inst : String} {k : Nat} {id : String} (fate : Fate tr s c inst k id)
    (ended : s.pcs (.timer k) = .ended) (ends : Ends timer s) :
    PassedOnce s inst k id ∨ Discarded tr s c inst k := by
  cases fate with
  | waiting live =>
    have thread := ends.thread k
    rw [ended] at thread
    cases thread with
    | passing own => cases live.symm.trans own
    | ended own => cases live.symm.trans own
    | stopped cancelled => cases live.symm.trans cancelled
  | handedOver passes =>
    rw [ended] at passes
    cases passes
  | passed once => exact .inl once
  | discarded gone => exact .inr gone

/-- In every run of safe steps, no call raises and no enqueued VNFC is lost. -/
theorem no_id_lost (timer : HealTimer Load) (tr : List (State Load × Event Load)) (s : State Load)
    (run : Run (StepOf (State.step timer)) {} tr s) (safe : Guarded StepsSafely tr) :
    Accounted timer tr s := by
  obtain ⟨refers, ends, leaves⟩ : Refers s ∧ Ends timer s ∧ Leaves timer tr s := by
    apply run.invariant_hist _ safe
    · exact ⟨.start, .start, .start⟩
    · rintro tr s e s' - - safe st ⟨refers, ends, leaves⟩
      have mv := move_of_step st safe
      exact ⟨refers.move mv, ends.move refers mv, leaves.move refers ends mv⟩
  refine ⟨leaves.noneRaised, fun c inst load k enqueued id mem => ?_, ?_⟩
  · exact leaves.fate refers ends enqueued mem
  · intro finished c inst load k enqueued id mem
    have made := (refers.aim (.call c) inst k (enqueued ▸ rfl)).1
    exact (leaves.fate refers ends enqueued mem).settled (finished.2 k made) ends

/-- The steps of a thread that goes on so many times. -/
def goes (t : Thread) (n : Nat) : List (Event String) :=
  List.replicate n ⟨t, .go⟩

/-- Two VNFCs are enqueued before the timer expires. -/
def bothInTime : List (Event String) :=
  [⟨.call 0, .enqueue "vnf" "vnfc-a"⟩] ++ goes (.call 0) 5 ++
    [⟨.call 1, .enqueue "vnf" "vnfc-b"⟩] ++ goes (.call 1) 3 ++ goes (.timer 0) 6

theorem both_passed :
    ∃ tr s, s.pcs (.timer 0) = .ended ∧ s.pcs (.call 1) = .enqueued "vnf" "vnfc-b" 0 ∧
      Accounted vnfmAutoHealTimer tr s := by
  obtain ⟨tr, s, run, safe, ended, enqueued⟩ :=
    Run.of_replay (State.step vnfmAutoHealTimer) {} bothInTime
      (fun tr s => Guarded StepsSafely tr ∧ s.pcs (.timer 0) = .ended ∧
        s.pcs (.call 1) = .enqueued "vnf" "vnfc-b" 0) (by decide)
  exact ⟨tr, s, ended, enqueued, no_id_lost vnfmAutoHealTimer tr s run safe⟩

/-- The timer expires after the second call has read it from the map. -/
def expiresBeforeAdd : List (Event String) :=
  [⟨.call 0, .enqueue "vnf" "vnfc-a"⟩] ++ goes (.call 0) 5 ++
    [⟨.call 1, .enqueue "vnf" "vnfc-b"⟩] ++ goes (.call 1) 2 ++ goes (.timer 0) 6 ++
    goes (.call 1) 1

/-- The second VNFC is neither passed to a request nor discarded by a call. -/
theorem enqueue_heal_loses_id :
    ¬ ∀ (tr : List (State String × Event String)) (s : State String),
      Run (StepOf (State.step vnfmAutoHealTimer)) {} tr s → Accounted vnfmAutoHealTimer tr s := by
  intro accounted
  obtain ⟨tr, s, run, expired, ended, enqueued, requests⟩ :=
    Run.of_replay (State.step vnfmAutoHealTimer) {} expiresBeforeAdd
      (fun _ s => (s.timers 0).expired = some (.timer 0) ∧ s.pcs (.timer 0) = .ended ∧
        s.pcs (.call 1) = .enqueued "vnf" "vnfc-b" 0 ∧ s.requestsOf 0 = [⟨0, "vnf", ["vnfc-a"]⟩])
      (by decide)
  have fate := (accounted tr s run).fate 1 "vnf" "vnfc-b" 0 enqueued "vnfc-b" (by decide)
  cases fate with
  | waiting live => cases live.symm.trans expired
  | handedOver passes =>
    rw [ended] at passes
    cases passes
  | passed once =>
    obtain ⟨ids, mem, request⟩ := once
    cases requests.symm.trans request
    exact absurd mem (by decide)
  | discarded gone =>
    obtain ⟨d, cancelled, _⟩ := gone
    cases cancelled.symm.trans expired

end Tacker.Heal
