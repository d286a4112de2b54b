import Mathlib.Data.List.Dedup
import Mathlib.Logic.Function.Basic
import Tacker.Basis.Run

/-!
# The timer maps of automatic healing

`conductor/prometheus_plugin_driver.py` and `conductor/server_notification_driver.py` collect the
VNFCs of an instance that are to be healed in a timer, found by the instance in `timer_map`, and
request one heal of them when the timer expires. Threads are interleaved between any two accesses
to the map; what a timer does under its own lock is one step.

A `threading.Timer` refers to `expire` of its owner until it has fired or is cancelled, so that
`__del__` only finds timers that are expired, and does nothing.
-/

namespace Tacker.Heal

open Tacker.Basis

/-! ## Timers -/

/-- What a timer class does with its queue; the load of a call is what it adds. -/
structure HealTimer (Load : Type*) where
  /-- The VNFCs of a load. -/
  ids : Load → List String
  /-- The queue after a load is added. -/
  add : List String → Load → List String
  /-- The list that is passed to the expiration handler. -/
  passed : List String → List String
  mem_add : ∀ {id queue load}, id ∈ add queue load ↔ id ∈ queue ∨ id ∈ ids load
  mem_passed : ∀ {id queue}, id ∈ passed queue ↔ id ∈ queue

/-- `VnfmAutoHealTimer`: the queue is a set, and a call adds one VNFC. -/
def vnfmAutoHealTimer : HealTimer String where
  ids vnfcInfoId := [vnfcInfoId]
  add queue vnfcInfoId := queue.insert vnfcInfoId
  passed queue := queue
  mem_add := by
    intro id queue vnfcInfoId
    rw [List.mem_insert_iff, List.mem_singleton, or_comm]
  mem_passed := Iff.rfl

/-- `ServerNotificationTimer`: the queue is a list, of which the handler gets the set. -/
def serverNotificationTimer : HealTimer (List String) where
  ids vnfcInstanceIds := vnfcInstanceIds
  add queue vnfcInstanceIds := queue ++ vnfcInstanceIds
  passed queue := queue.dedup
  mem_add := List.mem_append
  mem_passed := List.mem_dedup

/-! ## Threads -/

/-- A call of the driver, or the thread of a `threading.Timer`. -/
inductive Thread where
  | call (n : Nat)
  | timer (k : Nat)
deriving DecidableEq

/-- The number of a thread. -/
def Thread.number : Thread → Nat
  | .call n => n
  | .timer k => k

/-- A timer object. Instead of `True`, `expired` is the thread that set it. -/
structure Timer where
  vnfInstanceId : String
  queue : List String := []
  expired : Option Thread := none
deriving DecidableEq

/-- The request that the expiration of a timer makes. -/
structure HealRequest where
  timer : Nat
  vnfInstanceId : String
  vnfcInstanceIds : List String
deriving DecidableEq

/-- The program counter of a thread. Removal is also a part of the expiration handler, which goes on
with the list that it passes. -/
inductive Pc (Load : Type*) where
  /-- The call is not made yet, or the timer is running. -/
  | idle
  /-- `enqueue_heal` or `notify`, before it looks whether there is a timer. -/
  | check (inst : String) (load : Load)
  /-- Before a timer is made. -/
  | create (inst : String) (load : Load)
  /-- Before the new timer is put into the map. -/
  | store (inst : String) (load : Load) (k : Nat)
  /-- Before the timer is read from the map. -/
  | lookup (inst : String) (load : Load)
  /-- Before the load is added to the timer. -/
  | add (inst : String) (load : Load) (k : Nat)
  /-- The call has returned; it has added the load to the timer. -/
  | enqueued (inst : String) (load : Load) (k : Nat)
  /-- `dequeue_heal` or `remove_timer`, before it looks whether there is a timer. -/
  | removeCheck (inst : String) (passes : Option (List String))
  /-- Before the timer is read from the map. -/
  | removeLookup (inst : String) (passes : Option (List String))
  /-- Before the timer is cancelled. -/
  | cancel (inst : String) (passes : Option (List String)) (k : Nat)
  /-- Before the item of the map is deleted. -/
  | delete (inst : String) (passes : Option (List String))
  /-- The call has returned. -/
  | dequeued (inst : String)
  /-- `_timer_expired`, before the heal is requested. -/
  | trigger (inst : String) (ids : List String)
  /-- The thread of the timer has ended. -/
  | ended
  /-- `KeyError` was raised. -/
  | raised
deriving DecidableEq

/-- What a thread does. -/
inductive Action (Load : Type*) where
  /-- `enqueue_heal` or `notify` is called. -/
  | enqueue (inst : String) (load : Load)
  /-- `dequeue_heal` or `remove_timer` is called. -/
  | dequeue (inst : String)
  /-- The thread goes on; the thread of a running timer calls `expire`. -/
  | go
deriving DecidableEq

/-- A thread and what it does. -/
structure Event (Load : Type*) where
  thread : Thread
  action : Action Load

/-- The map, the timers that were made, the threads and the requests. -/
structure State (Load : Type*) where
  timerMap : String → Option Nat := fun _ => none
  made : Nat := 0
  timers : Nat → Timer := fun _ => { vnfInstanceId := "" }
  pcs : Thread → Pc Load := fun _ => .idle
  requests : List HealRequest := []

variable {Load : Type*}

namespace State

/-- The thread goes on at the program counter. -/
def goOn (s : State Load) (t : Thread) (pc : Pc Load) : State Load :=
  { s with pcs := Function.update s.pcs t pc }

/-- The timer changes. -/
def setTimer (s : State Load) (k : Nat) (timer : Timer) : State Load :=
  { s with timers := Function.update s.timers k timer }

/-- The map changes at the instance. -/
def setMap (s : State Load) (inst : String) (k : Option Nat) : State Load :=
  { s with timerMap := Function.update s.timerMap inst k }

/-- `_trigger_heal` or `request_heal`. -/
def request (s : State Load) (req : HealRequest) : State Load :=
  { s with requests := s.requests ++ [req] }

/-- A timer is made and started. -/
def create (s : State Load) (inst : String) : State Load :=
  { s.setTimer s.made { vnfInstanceId := inst } with made := s.made + 1 }

/-- `_cancel`, if the timer is not expired. -/
def cancel (s : State Load) (t : Thread) (k : Nat) : State Load :=
  match (s.timers k).expired with
  | none => s.setTimer k { s.timers k with expired := some t }
  | some _ => s

/-- The load is added, if the timer is not expired. -/
def add (timer : HealTimer Load) (s : State Load) (k : Nat) (load : Load) : State Load :=
  match (s.timers k).expired with
  | none => s.setTimer k { s.timers k with queue := timer.add (s.timers k).queue load }
  | some _ => s

/-- `expire`. A running timer that was cancelled only ends. Nothing is added to the queue of an
expired timer, so that it may be read with the lock. -/
def expire (timer : HealTimer Load) (s : State Load) (k : Nat) : State Load :=
  match (s.timers k).expired with
  | none =>
    (s.cancel (.timer k) k).goOn (.timer k)
      (.removeCheck (s.timers k).vnfInstanceId (some (timer.passed (s.timers k).queue)))
  | some _ => s.goOn (.timer k) .ended

/-- The thread of a timer that was made can expire. -/
def wake (timer : HealTimer Load) (s : State Load) : Thread → Option (State Load)
  | .timer k => if k < s.made then some (s.expire timer k) else none
  | .call _ => none

/-- What follows the removal of a timer. -/
def removed (inst : String) : Option (List String) → Pc Load
  | none => .dequeued inst
  | some ids => .trigger inst ids

/-- The next step of a thread. -/
def go (timer : HealTimer Load) (s : State Load) (t : Thread) : Pc Load → Option (State Load)
  | .idle => s.wake timer t
  | .check inst load =>
    match s.timerMap inst with
    | none => some (s.goOn t (.create inst load))
    | some _ => some (s.goOn t (.lookup inst load))
  | .create inst load => some ((s.create inst).goOn t (.store inst load s.made))
  | .store inst load k => some ((s.setMap inst (some k)).goOn t (.lookup inst load))
  | .lookup inst load =>
    match s.timerMap inst with
    | some k => some (s.goOn t (.add inst load k))
    | none => some (s.goOn t .raised)
  | .add inst load k => some ((s.add timer k load).goOn t (.enqueued inst load k))
  | .removeCheck inst passes =>
    match s.timerMap inst with
    | some _ => some (s.goOn t (.removeLookup inst passes))
    | none => some (s.goOn t (removed inst passes))
  | .removeLookup inst passes =>
    match s.timerMap inst with
    | some k => some (s.goOn t (.cancel inst passes k))
    | none => some (s.goOn t .raised)
  | .cancel inst passes k => some ((s.cancel t k).goOn t (.delete inst passes))
  | .delete inst passes =>
    match s.timerMap inst with
    | some _ => some ((s.setMap inst none).goOn t (removed inst passes))
    | none => some (s.goOn t .raised)
  | .trigger inst ids =>
    some ((s.request { timer := t.number, vnfInstanceId := inst, vnfcInstanceIds := ids }).goOn t
      .ended)
  | .enqueued _ _ _ | .dequeued _ | .ended | .raised => none

/-- A call that is not made yet starts. -/
def start (s : State Load) (t : Thread) (pc : Pc Load) : Option (State Load) :=
  match t, s.pcs t with
  | .call _, .idle => some (s.goOn t pc)
  | _, _ => none

/-- One step of one thread. -/
def step (timer : HealTimer Load) (s : State Load) (e : Event Load) : Option (State Load) :=
  match e.action with
  | .enqueue inst load => s.start e.thread (.check inst load)
  | .dequeue inst => s.start e.thread (.removeCheck inst none)
  | .go => s.go timer e.thread (s.pcs e.thread)

end State

end Tacker.Heal
