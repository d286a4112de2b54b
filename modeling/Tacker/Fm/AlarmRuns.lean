import Tacker.Fm.AlarmSteps
import Tacker.Fm.TracedAlarms

/-!
# One uncleared alarm

The uncleared alarms of an instance and a fingerprint are counted where they are: stored, cast, or
being raised by a thread. Careful steps keep their number at one.
-/

namespace Tacker.Fm

open Tacker.Basis

section

variable {reMatch : String → Option (String → Bool)} {s t : State} {e : Event} {i : Nat}
  {vnfInstanceId fingerprint : String} {alarm row : Alarm}

/-- The uncleared alarms of the instance and the fingerprint, wherever they are. -/
def State.openings (s : State) (vnfInstanceId fingerprint : String) : Nat :=
  s.alarms.rows.countP (Alarm.openFor vnfInstanceId fingerprint) +
    s.sent.countP (Alarm.openFor vnfInstanceId fingerprint) +
    s.handlers.countP (Handler.raises vnfInstanceId fingerprint)

lemma Alarm.openFor_clear {endsAt now : Nat} :
    (alarm.clear endsAt now).openFor vnfInstanceId fingerprint = false := by
  simp only [openFor, notCleared, clear, Option.isNone_some, Bool.false_and, Bool.and_false]

lemma Alarm.openFor_mergeInto
    (uncleared : (alarm.mergeInto row).openFor vnfInstanceId fingerprint = true) :
    alarm.openFor vnfInstanceId fingerprint = true := by
  obtain ⟨inst, time, details⟩ := Alarm.openFor_iff.mp uncleared
  exact Alarm.openFor_iff.mpr ⟨inst, (Option.or_eq_none_iff.mp time).1, details⟩

/-- A new alarm is one of the fingerprint exactly if its thread was raising one. -/
lemma openFor_ofAlert {id inst : String} {ids : List String} {now : Nat}
    {severity : PerceivedSeverity} {alert : Alert} {todo : List Alert}
    (made : Alarm.ofAlert id inst ids now severity alert = some alarm) :
    alarm.openFor vnfInstanceId fingerprint =
      (Handler.raise now inst ids severity alert todo).raises vnfInstanceId fingerprint := by
  unfold Alarm.ofAlert at made
  split at made
  · obtain rfl := Option.some.inj made
    apply Bool.eq_iff_iff.mpr
    rw [Alarm.openFor_iff]
    simp only [fpstr_mem, Handler.raises, Bool.and_eq_true, decide_eq_true_eq, true_and]
  · cases made

/-- A thread that goes on and raises no more than before adds no alarm. -/
lemma openings_goOn_le {h h' : Handler} (here : s.handlers[i]? = some h)
    (less : (h'.raises vnfInstanceId fingerprint).toNat ≤
      (h.raises vnfInstanceId fingerprint).toNat) :
    (s.goOn i h').openings vnfInstanceId fingerprint ≤ s.openings vnfInstanceId fingerprint := by
  have handlers := countP_set_add (b := h') (p := Handler.raises vnfInstanceId fingerprint) here
  show s.alarms.rows.countP _ + s.sent.countP _ + (s.handlers.set i h').countP _ ≤
    s.alarms.rows.countP _ + s.sent.countP _ + s.handlers.countP _
  omega

/-- A thread that casts a cleared alarm, or the alarm that it was raising, adds none. -/
lemma openings_send_le {h h' : Handler} (here : s.handlers[i]? = some h)
    (less : (alarm.openFor vnfInstanceId fingerprint).toNat +
      (h'.raises vnfInstanceId fingerprint).toNat ≤
        (h.raises vnfInstanceId fingerprint).toNat) :
    ((s.send alarm).goOn i h').openings vnfInstanceId fingerprint ≤
      s.openings vnfInstanceId fingerprint := by
  have handlers := countP_set_add (b := h') (p := Handler.raises vnfInstanceId fingerprint) here
  have sent : (s.sent ++ [alarm]).countP (Alarm.openFor vnfInstanceId fingerprint) =
      s.sent.countP (Alarm.openFor vnfInstanceId fingerprint) +
        (alarm.openFor vnfInstanceId fingerprint).toNat := by
    rw [List.countP_append, List.countP_singleton]
    cases alarm.openFor vnfInstanceId fingerprint <;> rfl
  show s.alarms.rows.countP _ + (s.sent ++ [alarm]).countP _ + (s.handlers.set i h').countP _ ≤
    s.alarms.rows.countP _ + s.sent.countP _ + s.handlers.countP _
  omega

/-- The conductor adds no alarm. -/
lemma openings_store_le {n : Nat} (here : s.sent[n]? = some alarm) :
    ({ s with sent := s.sent.eraseIdx n }.storeAlarmInfo alarm).openings vnfInstanceId fingerprint ≤
      s.openings vnfInstanceId fingerprint := by
  obtain ⟨row, eq, stored⟩ := State.storeAlarmInfo_eq
    { s with sent := s.sent.eraseIdx n } alarm
  rw [eq]
  have sent := countP_eraseIdx_add (p := Alarm.openFor vnfInstanceId fingerprint) here
  have rows := Table.countP_put_le (t := s.alarms) (r := row)
    (p := Alarm.openFor vnfInstanceId fingerprint)
  have less : (row.openFor vnfInstanceId fingerprint).toNat ≤
      (alarm.openFor vnfInstanceId fingerprint).toNat := by
    cases uncleared : row.openFor vnfInstanceId fingerprint with
    | false => exact Nat.zero_le _
    | true =>
      rcases stored with ⟨-, rfl⟩ | ⟨old, -, rfl⟩
      · exact Nat.le_of_eq (congrArg Bool.toNat uncleared.symm)
      · exact Nat.le_of_eq (congrArg Bool.toNat (Alarm.openFor_mergeInto uncleared).symm)
  show (s.alarms.put row).rows.countP _ + (s.sent.eraseIdx n).countP _ + s.handlers.countP _ ≤
    s.alarms.rows.countP _ + s.sent.countP _ + s.handlers.countP _
  omega

/-- What is never true is not counted. -/
lemma countP_none {α : Type*} {xs : List α} {p : α → Bool} (none : ∀ x ∈ xs, p x = false) :
    xs.countP p = 0 := by
  rw [List.countP_eq_zero]
  intro x mem
  rw [none x mem]
  exact Bool.false_ne_true

/-- Where a careful thread starts to raise an alarm there is none of its fingerprint. -/
lemma openings_eq_zero {alert : Alert} (status : alert.status = .firing)
    (none : s.getNotClearedAlarms vnfInstanceId alert.fingerprint = [])
    (sees : s.Sees vnfInstanceId alert) : s.openings vnfInstanceId alert.fingerprint = 0 := by
  simp only [State.Sees, status] at sees
  obtain ⟨sent, handlers⟩ := sees none
  have rows : s.alarms.rows.countP (Alarm.openFor vnfInstanceId alert.fingerprint) = 0 := by
    rw [List.countP_eq_length_filter, ← State.getNotClearedAlarms_eq, none]
    rfl
  rw [State.openings, rows, countP_none sent, countP_none handlers]

/-- A careful step keeps the number of uncleared alarms at one. -/
lemma openings_step (guard : Careful reMatch (s, e)) (st : StepOf (State.step reMatch) s e t)
    (single : s.openings vnfInstanceId fingerprint ≤ 1) :
    t.openings vnfInstanceId fingerprint ≤ 1 := by
  cases step_cases st with
  | turned here done rest =>
    refine Nat.le_trans (openings_goOn_le here ?_) single
    rw [Handler.raises_of_atRest rest]
    exact Nat.zero_le _
  | found here => exact Nat.le_trans (openings_goOn_le here (Nat.le_refl _)) single
  | @begun i now alert todo id here kind status label none =>
    by_cases same : id = vnfInstanceId ∧ alert.fingerprint = fingerprint
    · obtain ⟨rfl, rfl⟩ := same
      have sees : s.Sees id alert := guard _ here kind id label
      have zero := openings_eq_zero status none sees
      have handlers := countP_set_add (b := Handler.create now id alert todo)
        (p := Handler.raises id alert.fingerprint) here
      have one := Bool.toNat_le ((Handler.create now id alert todo).raises id alert.fingerprint)
      unfold State.openings at zero
      show s.alarms.rows.countP _ + s.sent.countP _ + (s.handlers.set i _).countP _ ≤ 1
      omega
    · refine Nat.le_trans (openings_goOn_le here ?_) single
      have other : (Handler.create now id alert todo).raises vnfInstanceId fingerprint = false := by
        rw [← Bool.not_eq_true]
        simp only [Handler.raises, Bool.and_eq_true, decide_eq_true_eq]
        exact same
      rw [other]
      exact Nat.zero_le _
  | located here => exact Nat.le_trans (openings_goOn_le here (Nat.le_refl _)) single
  | raised here fresh made =>
    refine Nat.le_trans (openings_send_le here ?_) single
    rw [openFor_ofAlert made]
    exact Nat.le_refl _
  | cleared here =>
    refine Nat.le_trans (openings_send_le here ?_) single
    rw [Alarm.openFor_clear]
    exact Nat.le_refl _
  | stored here => exact Nat.le_trans (openings_store_le here) single
  | operated => exact single

lemma openings_initial {insts : String → Option Inst} {threads : Nat} :
    (State.initial insts threads).openings vnfInstanceId fingerprint = 0 := by
  have handlers : (List.replicate threads Handler.idle).countP
      (Handler.raises vnfInstanceId fingerprint) = 0 := by
    apply countP_none
    intro h mem
    rw [List.eq_of_mem_replicate mem]
    rfl
  show 0 + 0 + (List.replicate threads Handler.idle).countP _ = 0
  rw [handlers]

/-- After a careful run at most one alarm of a fingerprint is uncleared. -/
lemma openings_run {insts : String → Option Inst} {threads : Nat} {tr : List (State × Event)}
    (run : Run (StepOf (State.step reMatch)) (State.initial insts threads) tr s)
    (guard : Guarded (Careful reMatch) tr) : s.openings vnfInstanceId fingerprint ≤ 1 := by
  apply run.invariant _ guard
  · rw [openings_initial]
    exact Nat.zero_le 1
  · intro t e u guard st single
    exact openings_step guard st single

lemma getNotClearedAlarms_length_le (single : s.openings vnfInstanceId fingerprint ≤ 1) :
    (s.getNotClearedAlarms vnfInstanceId fingerprint).length ≤ 1 := by
  rw [State.getNotClearedAlarms_eq, ← List.countP_eq_length_filter]
  unfold State.openings at single
  omega

end

/-!
## Alarms in every interleaving

In every run whose threads see what they need in the database, the alarms agree with the alerts. A
look-up before the alarm of an earlier alert has arrived makes a second one.
-/

variable {reMatch : String → Option (String → Bool)} {s : State} {tr : List (State × Event)}
  {insts : String → Option Inst} {threads : Nat}

/-- The identities and the causes of the alarms after a careful run. -/
lemma traced_run (run : Run (StepOf (State.step reMatch)) (State.initial insts threads) tr s)
    (guard : Guarded (Careful reMatch) tr) : Known s ∧ Traced tr s := by
  apply run.invariant_hist _ guard
  · exact ⟨Known.initial, Traced.initial⟩
  · rintro tr t e u - - guard st ⟨known, traced⟩
    exact ⟨known.step st, traced.step known guard st⟩

/-- What a resolved alert of a careful run found uncleared is cleared or going to be. -/
lemma cleared_run (run : Run (StepOf (State.step reMatch)) (State.initial insts threads) tr s)
    (guard : Guarded (Careful reMatch) tr) {p : State × Event} (mem : p ∈ tr)
    {vnfInstanceId fingerprint : String} {endsAt : Option Nat}
    (resolves : Resolves vnfInstanceId fingerprint endsAt p) {alarm : Alarm}
    (there : alarm ∈ p.1.alarms.rows ∨ alarm ∈ p.1.sent)
    (uncleared : alarm.openFor vnfInstanceId fingerprint = true) : s.ClearDue alarm.id := by
  induction run with
  | nil => cases mem
  | @snoc tr t e u run st ih =>
    obtain ⟨guard, last⟩ := Guarded.append.mp guard
    rcases List.mem_append.mp mem with mem | mem
    · exact (ih guard mem).step st
    · obtain rfl := List.mem_singleton.mp mem
      exact .of_resolves resolves (Guarded.singleton.mp last) st there uncleared

/-- In every run of careful steps the alarms agree with the alerts. -/
theorem alarms_agree (reMatch : String → Option (String → Bool)) (insts : String → Option Inst)
    (threads : Nat) (tr : List (State × Event)) (s : State)
    (run : Run (StepOf (State.step reMatch)) (State.initial insts threads) tr s)
    (guard : Guarded (Careful reMatch) tr) : AlarmsAgree tr s := by
  obtain ⟨-, traced⟩ := traced_run run guard
  refine ⟨?_, ?_, ?_, ?_⟩
  · intro vnfInstanceId fingerprint
    exact getNotClearedAlarms_length_le (openings_run run guard)
  · intro p mem vnfInstanceId fingerprint endsAt resolves alarm there uncleared
    exact cleared_run run guard mem resolves there uncleared
  · intro alarm mem
    exact (traced.rows alarm mem).2
  · intro alarm mem
    exact (traced.rows alarm mem).1

/-- `re.match` with a pattern that has no special characters. -/
def literally (pattern : String) : Option (String → Bool) :=
  some fun name => pattern.toList.isPrefixOf name.toList

/-- An instance with two VNFCs. -/
def twoPods : Inst where
  vnfcResourceInfo :=
    [⟨"res-1", some "vdu1-a1", some "Deployment"⟩, ⟨"res-2", some "vdu1-b2", some "Deployment"⟩]
  vnfcInfo := [⟨"vnfc-1", some "res-1"⟩, ⟨"vnfc-2", some "res-2"⟩]

/-- The VNF instances of the runs below. -/
def oneInst (id : String) : Option Inst :=
  if id = "inst" then some twoPods else none

/-- An alert on the first VNFC. -/
def alertOf (status : AlertStatus) : Alert where
  status := status
  functionType := "vnffm"
  vnfInstanceId := some "inst"
  pod := some "vdu1-a1"
  perceivedSeverity := some .warning
  eventType := some .processingErrorAlarm
  faultType := none
  probableCause := some "not running"
  faultDetails := none
  startsAt := some 1
  endsAt := some 5
  fingerprint := "5ef77f1f8a3ecb8d"

/-- An alarm is raised, stored and cleared. -/
def raisedAndCleared : List Event :=
  [.alert 0 2 [alertOf .firing], .go 0, .go 0, .cast 0 "alarm-1", .store 0, .go 0,
    .alert 0 6 [alertOf .resolved], .go 0, .go 0, .store 0]

theorem agree_raised_and_cleared :
    ∃ (tr : List (State × Event)) (s : State),
      s.alarms.rows.map (fun alarm => (alarm.vnfcInstanceIds, alarm.alarmClearedTime)) =
        [(["vnfc-1"], some 5)] ∧ AlarmsAgree tr s := by
  obtain ⟨tr, s, run, guard, rows⟩ :=
    Run.of_replay (State.step literally) (State.initial oneInst 1) raisedAndCleared
      (fun tr s => Guarded (Careful literally) tr ∧
        s.alarms.rows.map (fun alarm => (alarm.vnfcInstanceIds, alarm.alarmClearedTime)) =
          [(["vnfc-1"], some 5)])
      (by decide)
  exact ⟨tr, s, rows, alarms_agree literally oneInst 1 tr s run guard⟩

/-- The second batch of the alert arrives before the alarm of the first is stored. -/
def raisedTwice : List Event :=
  [.alert 0 2 [alertOf .firing], .alert 1 3 [alertOf .firing], .go 0, .go 0, .cast 0 "alarm-1",
    .go 1, .go 1, .cast 1 "alarm-2", .store 0, .store 0]

/-- Both alarms are stored. -/
theorem two_uncleared_alarms :
    ¬ ∀ (tr : List (State × Event)) (s : State),
      Run (StepOf (State.step literally)) (State.initial oneInst 2) tr s → AlarmsAgree tr s := by
  intro agree
  obtain ⟨tr, s, run, two⟩ :=
    Run.of_replay (State.step literally) (State.initial oneInst 2) raisedTwice
      (fun _ s => (s.getNotClearedAlarms "inst" "5ef77f1f8a3ecb8d").length = 2)
      (by decide)
  have single := (agree tr s run).single "inst" "5ef77f1f8a3ecb8d"
  rw [two] at single
  exact absurd single (by decide)

end Tacker.Fm
