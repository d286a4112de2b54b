import Tacker.Heal.Timers

/-!
# Steps that lose no VNFC

The condition on a step under which no enqueued VNFC is lost and nothing is raised, the steps that
meet it, and what such a step leaves as it was.
-/

namespace Tacker.Heal

open Tacker.Basis

variable {Load : Type*} {timer : HealTimer Load} {s s' : State Load} {t : Thread} {e : Event Load}
  {tr : List (State Load × Event Load)} {pc : Pc Load}

/-! ## Steps that lose nothing -/

/-- Whether the thread serves a call. -/
def Thread.isCall : Thread → Bool
  | .call _ => true
  | .timer _ => false

/-- The map still has a timer where the thread has found one before; nothing is added to a timer
that is expired, unless a call has cancelled it; and an expiration handler only cancels a timer that
is expired or has no VNFCs. -/
def Pc.Safe (s : State Load) : Pc Load → Prop
  | .lookup inst _ | .removeLookup inst _ | .delete inst _ => s.timerMap inst ≠ none
  | .add _ _ k => (s.timers k).expired.all Thread.isCall = true
  | .cancel _ passes k =>
    passes = none ∨ (s.timers k).expired ≠ none ∨ (s.timers k).queue = []
  | _ => True

instance : (pc : Pc Load) → Decidable (pc.Safe s)
  | .lookup inst _ | .removeLookup inst _ | .delete inst _ =>
    inferInstanceAs (Decidable (s.timerMap inst ≠ none))
  | .add _ _ k => inferInstanceAs (Decidable ((s.timers k).expired.all Thread.isCall = true))
  | .cancel _ passes k =>
    inferInstanceAs
      (Decidable (passes = none ∨ (s.timers k).expired ≠ none ∨ (s.timers k).queue = []))
  | .idle | .check _ _ | .create _ _ | .store _ _ _ | .enqueued _ _ _ | .removeCheck _ _
  | .dequeued _ | .trigger _ _ | .ended | .raised => inferInstanceAs (Decidable True)

/-- The thread that goes on is safe. -/
def StepsSafely (p : State Load × Event Load) : Prop :=
  p.2.action = .go → (p.1.pcs p.2.thread).Safe p.1

instance [DecidableEq Load] : DecidablePred fun p : State Load × Event Load => StepsSafely p :=
  fun p => inferInstanceAs (Decidable (p.2.action = .go → (p.1.pcs p.2.thread).Safe p.1))

/-! ## What a safe step does -/

namespace State

variable {k : Nat} {load : Load} {thread' : Thread}

lemma cancel_live (live : (s.timers k).expired = none) :
    s.cancel t k = s.setTimer k { s.timers k with expired := some t } := by
  unfold cancel
  split
  · rfl
  · case h_2 eq => cases live.symm.trans eq

lemma cancel_expired (expired : (s.timers k).expired = some thread') : s.cancel t k = s := by
  unfold cancel
  split
  · case h_1 eq => cases eq.symm.trans expired
  · rfl

lemma add_live (live : (s.timers k).expired = none) :
    s.add timer k load =
      s.setTimer k { s.timers k with queue := timer.add (s.timers k).queue load } := by
  unfold add
  split
  · rfl
  · case h_2 eq => cases live.symm.trans eq

lemma add_expired (expired : (s.timers k).expired = some thread') : s.add timer k load = s := by
  unfold add
  split
  · case h_1 eq => cases eq.symm.trans expired
  · rfl

lemma expire_live (live : (s.timers k).expired = none) :
    s.expire timer k =
      (s.setTimer k { s.timers k with expired := some (.timer k) }).goOn (.timer k)
        (.removeCheck (s.timers k).vnfInstanceId (some (timer.passed (s.timers k).queue))) := by
  unfold expire
  split
  · rw [cancel_live live]
  · case h_2 eq => cases live.symm.trans eq

lemma expire_cancelled (expired : (s.timers k).expired = some thread') :
    s.expire timer k = s.goOn (.timer k) .ended := by
  unfold expire
  split
  · case h_1 eq => cases eq.symm.trans expired
  · rfl

end State

/-- The steps that only change the program counter. -/
inductive Turn (s : State Load) (t : Thread) : Pc Load → Pc Load → Prop where
  | enqueue {c inst load} (call : t = .call c) : Turn s t .idle (.check inst load)
  | dequeue {c inst} (call : t = .call c) : Turn s t .idle (.removeCheck inst none)
  | create {inst load} : Turn s t (.check inst load) (.create inst load)
  | lookup {inst load} : Turn s t (.check inst load) (.lookup inst load)
  | add {inst load k} (map : s.timerMap inst = some k) :
      Turn s t (.lookup inst load) (.add inst load k)
  | removeLookup {inst passes} :
      Turn s t (.removeCheck inst passes) (.removeLookup inst passes)
  | removed {inst passes} :
      Turn s t (.removeCheck inst passes) (State.removed inst passes)
  | cancel {inst passes k} (map : s.timerMap inst = some k) :
      Turn s t (.removeLookup inst passes) (.cancel inst passes k)
  | stop {k thread'} (thread : t = .timer k) (made : k < s.made)
      (cancelled : (s.timers k).expired = some thread') : Turn s t .idle .ended

/-- The safe steps of a thread. -/
inductive Move (timer : HealTimer Load) (s : State Load) (t : Thread) : State Load → Prop where
  | turn {next : Pc Load} (turns : Turn s t (s.pcs t) next) : Move timer s t (s.goOn t next)
  | create {inst load} (was : s.pcs t = .create inst load) :
      Move timer s t ((s.create inst).goOn t (.store inst load s.made))
  | store {inst load k} (was : s.pcs t = .store inst load k) :
      Move timer s t ((s.setMap inst (some k)).goOn t (.lookup inst load))
  | add {inst load k} (was : s.pcs t = .add inst load k) (live : (s.timers k).expired = none) :
      Move timer s t ((s.setTimer k
        { s.timers k with queue := timer.add (s.timers k).queue load }).goOn t
          (.enqueued inst load k))
  | drop {inst load k d} (was : s.pcs t = .add inst load k)
      (cancelled : (s.timers k).expired = some (.call d)) :
      Move timer s t (s.goOn t (.enqueued inst load k))
  | cancel {inst passes k} (was : s.pcs t = .cancel inst passes k)
      (live : (s.timers k).expired = none) (safe : passes = none ∨ (s.timers k).queue = []) :
      Move timer s t
        ((s.setTimer k { s.timers k with expired := some t }).goOn t (.delete inst passes))
  | late {inst passes k thread'} (was : s.pcs t = .cancel inst passes k)
      (expired : (s.timers k).expired = some thread') :
      Move timer s t (s.goOn t (.delete inst passes))
  | delete {inst passes k} (was : s.pcs t = .delete inst passes)
      (map : s.timerMap inst = some k) :
      Move timer s t ((s.setMap inst none).goOn t (State.removed inst passes))
  | expire {k} (thread : t = .timer k) (was : s.pcs t = .idle) (made : k < s.made)
      (live : (s.timers k).expired = none) :
      Move timer s t ((s.setTimer k { s.timers k with expired := some t }).goOn t
        (.removeCheck (s.timers k).vnfInstanceId (some (timer.passed (s.timers k).queue))))
  | trigger {inst ids} (was : s.pcs t = .trigger inst ids) :
      Move timer s t ((s.request
        { timer := t.number, vnfInstanceId := inst, vnfcInstanceIds := ids }).goOn t .ended)

lemma move_start {begins : Pc Load} (started : s.start t begins = some s')
    (turns : ∀ c, t = .call c → Turn s t .idle begins) : Move timer s t s' := by
  unfold State.start at started
  split at started
  · case h_1 c was =>
    obtain rfl := Option.some.inj started
    exact .turn (was ▸ turns c rfl)
  · cases started

lemma move_wake (was : s.pcs t = .idle) (woken : s.wake timer t = some s') :
    Move timer s t s' := by
  cases t with
  | call c => cases woken
  | timer k =>
    by_cases made : k < s.made
    · have eq : s.wake timer (.timer k) = some (s.expire timer k) := if_pos made
      obtain rfl := Option.some.inj (eq.symm.trans woken)
      cases expired : (s.timers k).expired with
      | none =>
        rw [State.expire_live expired]
        exact .expire rfl was made expired
      | some thread' =>
        rw [State.expire_cancelled expired]
        exact .turn (was ▸ .stop rfl made expired)
    · have eq : s.wake timer (.timer k) = none := if_neg made
      cases eq.symm.trans woken

/-- A safe step of a thread that goes on is one of the moves. -/
lemma move_go (was : s.pcs t = pc) (safe : pc.Safe s) (goes : s.go timer t pc = some s') :
    Move timer s t s' := by
  cases pc with
  | idle => exact move_wake was goes
  | check inst load =>
    cases map : s.timerMap inst with
    | none =>
      simp only [State.go, map] at goes
      obtain rfl := Option.some.inj goes
      exact .turn (was ▸ .create)
    | some k =>
      simp only [State.go, map] at goes
      obtain rfl := Option.some.inj goes
      exact .turn (was ▸ .lookup)
  | create inst load =>
    obtain rfl := Option.some.inj goes
    exact .create was
  | store inst load k =>
    obtain rfl := Option.some.inj goes
    exact .store was
  | lookup inst load =>
    cases map : s.timerMap inst with
    | none => exact absurd map safe
    | some k =>
      simp only [State.go, map] at goes
      obtain rfl := Option.some.inj goes
      exact .turn (was ▸ .add map)
  | add inst load k =>
    obtain rfl := Option.some.inj goes
    have safe' : (s.timers k).expired.all Thread.isCall = true := safe
    cases expired : (s.timers k).expired with
    | none =>
      rw [State.add_live expired]
      exact .add was expired
    | some thread' =>
      rw [State.add_expired expired]
      cases thread' with
      | call d => exact .drop was expired
      | timer j => simp [expired, Thread.isCall] at safe'
  | removeCheck inst passes =>
    cases map : s.timerMap inst with
    | none =>
      simp only [State.go, map] at goes
      obtain rfl := Option.some.inj goes
      exact .turn (was ▸ .removed)
    | some k =>
      simp only [State.go, map] at goes
      obtain rfl := Option.some.inj goes
      exact .turn (was ▸ .removeLookup)
  | removeLookup inst passes =>
    cases map : s.timerMap inst with
    | none => exact absurd map safe
    | some k =>
      simp only [State.go, map] at goes
      obtain rfl := Option.some.inj goes
      exact .turn (was ▸ .cancel map)
  | cancel inst passes k =>
    obtain rfl := Option.some.inj goes
    have safe' : passes = none ∨ (s.timers k).expired ≠ none ∨ (s.timers k).queue = [] := safe
    cases expired : (s.timers k).expired with
    | none =>
      rw [State.cancel_live expired]
      exact .cancel was expired (safe'.imp_right (Or.resolve_left · (not_not.mpr expired)))
    | some thread' =>
      rw [State.cancel_expired expired]
      exact .late was expired
  | delete inst passes =>
    cases map : s.timerMap inst with
    | none => exact absurd map safe
    | some k =>
      simp only [State.go, map] at goes
      obtain rfl := Option.some.inj goes
      exact .delete was map
  | trigger inst ids =>
    obtain rfl := Option.some.inj goes
    exact .trigger was
  | enqueued inst load k => cases goes
  | dequeued inst => cases goes
  | ended => cases goes
  | raised => cases goes

/-- Every safe step is a move of its thread. -/
lemma move_of_step (st : StepOf (State.step timer) s e s') (safe : StepsSafely (s, e)) :
    Move timer s e.thread s' := by
  have eq : s.step timer e = some s' := st
  unfold State.step at eq
  cases action : e.action with
  | enqueue inst load =>
    simp only [action] at eq
    exact move_start eq fun c call => .enqueue call
  | dequeue inst =>
    simp only [action] at eq
    exact move_start eq fun c call => .dequeue call
  | go =>
    simp only [action] at eq
    exact move_go rfl (safe action) eq

/-! ## What a safe step leaves as it was -/

/-- What a step of the thread can make of a timer. -/
structure Later (t : Thread) (old new : Timer) : Prop where
  inst : new.vnfInstanceId = old.vnfInstanceId
  queue : ∀ id ∈ old.queue, id ∈ new.queue
  frozen : ∀ thread', old.expired = some thread' → new = old
  expired : new.expired = old.expired ∨ old.expired = none ∧ new.expired = some t

lemma Later.refl (t : Thread) (tm : Timer) : Later t tm tm :=
  ⟨rfl, fun _ mem => mem, fun _ _ => rfl, .inl rfl⟩

lemma Later.added {tm : Timer} {load : Load} (live : tm.expired = none) :
    Later t tm { tm with queue := timer.add tm.queue load } :=
  ⟨rfl, fun _ mem => timer.mem_add.mpr (.inl mem), fun _ eq => (by cases live.symm.trans eq),
    .inl rfl⟩

lemma Later.expires {tm : Timer} (live : tm.expired = none) :
    Later t tm { tm with expired := some t } :=
  ⟨rfl, fun _ mem => mem, fun _ eq => (by cases live.symm.trans eq), .inr ⟨live, rfl⟩⟩

namespace State

@[simp] lemma pcs_goOn_self : (s.goOn t pc).pcs t = pc := by
  simp only [goOn, Function.update_self]

lemma pcs_goOn_of_ne {t' : Thread} (ne : t' ≠ t) : (s.goOn t pc).pcs t' = s.pcs t' := by
  simp only [goOn, Function.update_of_ne ne]

@[simp] lemma timers_setTimer_self {k : Nat} {tm : Timer} : (s.setTimer k tm).timers k = tm := by
  simp only [setTimer, Function.update_self]

lemma timers_setTimer_of_ne {k k' : Nat} {tm : Timer} (ne : k' ≠ k) :
    (s.setTimer k tm).timers k' = s.timers k' := by
  simp only [setTimer, Function.update_of_ne ne]

lemma later_setTimer {k k' : Nat} {tm : Timer} (later : Later t (s.timers k) tm) :
    Later t (s.timers k') ((s.setTimer k tm).timers k') := by
  by_cases same : k' = k
  · rw [same, timers_setTimer_self]
    exact later
  · rw [timers_setTimer_of_ne same]
    exact .refl t _

end State

namespace Move

lemma made_le (mv : Move timer s t s') : s.made ≤ s'.made := by
  cases mv with
  | create => exact Nat.le_succ s.made
  | _ => exact Nat.le_refl s.made

lemma pcs_of_ne (mv : Move timer s t s') {t' : Thread} (ne : t' ≠ t) : s'.pcs t' = s.pcs t' := by
  cases mv with
  | _ => exact Function.update_of_ne ne _ s.pcs

/-- A timer that was made before is only added to or expired. -/
lemma later (mv : Move timer s t s') {k : Nat} (made : k < s.made) :
    Later t (s.timers k) (s'.timers k) := by
  cases mv with
  | turn => exact .refl t _
  | create => exact (State.timers_setTimer_of_ne (Nat.ne_of_lt made)).symm ▸ .refl t _
  | store => exact .refl t _
  | add was live => exact State.later_setTimer (.added live)
  | drop => exact .refl t _
  | cancel was live => exact State.later_setTimer (.expires live)
  | late => exact .refl t _
  | delete => exact .refl t _
  | expire thread was made live => exact State.later_setTimer (.expires live)
  | trigger => exact .refl t _

end Move

end Tacker.Heal
