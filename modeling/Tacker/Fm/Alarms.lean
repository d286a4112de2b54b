import Tacker.Basis.Run
import Tacker.Basis.Table

/-!
# Alarms made of alerts

`PrometheusPluginFm` of `common/prometheus_plugin.py` in the API processes and `store_alarm_info` of
`conductor/vnffm_driver_v1.py` in the conductor. Threads of the API serve batches of alerts: they
read the alarms of the database and cast the alarms that they raise or clear; the conductor stores
the alarms that were cast, in any order. A program counter stands before the next statement that
reads the database or casts. The links of an alarm and the notifications are left out.
-/

namespace Tacker.Fm

open Tacker.Basis

/-! ## Alerts -/

/-- The `status` of an alert. -/
inductive AlertStatus where
  | firing
  | resolved
deriving DecidableEq

/-- `PerceivedSeverityType`. -/
inductive PerceivedSeverity where
  | critical
  | major
  | minor
  | warning
  | indeterminate
  | cleared
deriving DecidableEq

/-- `EventType`. -/
inductive EventType where
  | communicationsAlarm
  | processingErrorAlarm
  | environmentalAlarm
  | qosAlarm
  | equipmentAlarm
deriving DecidableEq

/-- An entry of `body['alerts']` with its labels and annotations. A time is missing if its text is
no date, an event type if it is none of the known ones. -/
structure Alert where
  status : AlertStatus
  functionType : String
  vnfInstanceId : Option String
  pod : Option String
  perceivedSeverity : Option PerceivedSeverity
  eventType : Option EventType
  faultType : Option String
  probableCause : Option String
  faultDetails : Option String
  startsAt : Option Nat
  endsAt : Option Nat
  fingerprint : String
deriving DecidableEq

/-! ## VNF instances -/

/-- `VnfcResourceInfo` with the attributes of its `computeResource`. -/
structure VnfcResourceInfo where
  id : String
  resourceId : Option String
  vimLevelResourceType : Option String
deriving DecidableEq

/-- `VnfcInfo`. -/
structure VnfcInfo where
  id : String
  vnfcResourceInfoId : Option String
deriving DecidableEq

/-- The VNFCs of an instance; the lists are empty if they are not set. -/
structure Inst where
  vnfcResourceInfo : List VnfcResourceInfo
  vnfcInfo : List VnfcInfo
deriving DecidableEq

/-- The resource is a `Deployment` or a `Pod` that is known by a name. -/
def VnfcResourceInfo.named (r : VnfcResourceInfo) : Bool :=
  (r.vimLevelResourceType = some "Deployment" ∨ r.vimLevelResourceType = some "Pod") &&
    r.resourceId.isSome

namespace Inst

/-- The resources whose name the pattern matches. `reMatch` is `re.match`, which raises for some
patterns; it is not called if there is nothing to match. -/
def deployments (reMatch : String → Option (String → Bool)) (inst : Inst) (pod : String) :
    Option (List VnfcResourceInfo) :=
  match inst.vnfcResourceInfo.filter VnfcResourceInfo.named with
  | [] => some []
  | resources =>
    (reMatch pod).map fun matched => resources.filter fun r => r.resourceId.any matched

/-- `vnfc_instance_ids`. -/
def vnfcInstanceIds (reMatch : String → Option (String → Bool)) (inst : Inst) (alert : Alert) :
    Option (List String) :=
  match alert.pod with
  | none => some []
  | some pod =>
    (inst.deployments reMatch pod).map fun deployments =>
      (inst.vnfcInfo.filter fun info =>
        info.vnfcResourceInfoId.any (· ∈ deployments.map VnfcResourceInfo.id)).map VnfcInfo.id

end Inst

/-! ## Alarms -/

/-- `ackState`. -/
inductive AckState where
  | unacknowledged
  | acknowledged
deriving DecidableEq

/-- `AlarmV1`. -/
structure Alarm where
  id : String
  managedObjectId : String
  vnfcInstanceIds : List String
  alarmRaisedTime : Nat
  alarmChangedTime : Option Nat := none
  alarmClearedTime : Option Nat := none
  ackState : AckState
  perceivedSeverity : PerceivedSeverity
  eventTime : Nat
  eventType : EventType
  faultType : String
  probableCause : String
  isRootCause : Bool
  faultDetails : List String
deriving DecidableEq

/-- `fpstr`. -/
def fpstr (fingerprint : String) : String :=
  "fingerprint: " ++ fingerprint

/-- `fault_details` of `create_new_alarm`. -/
def faultDetailsOf (alert : Alert) : List String :=
  [fpstr alert.fingerprint, "detail: " ++ alert.faultDetails.getD "None"]

namespace Alarm

/-- The alarm of `create_new_alarm`, if the texts of the alert can be read. -/
def ofAlert (id vnfInstanceId : String) (vnfcInstanceIds : List String) (now : Nat)
    (severity : PerceivedSeverity) (alert : Alert) : Option Alarm :=
  match alert.startsAt, alert.eventType with
  | some startsAt, some eventType => some {
      id := id
      managedObjectId := vnfInstanceId
      vnfcInstanceIds := vnfcInstanceIds
      alarmRaisedTime := now
      ackState := .unacknowledged
      perceivedSeverity := severity
      eventTime := startsAt
      eventType := eventType
      faultType := alert.faultType.getD ""
      probableCause := alert.probableCause.getD ""
      isRootCause := false
      faultDetails := faultDetailsOf alert }
  | _, _ => none

/-- What `update_alarm` sets. -/
def clear (endsAt now : Nat) (alarm : Alarm) : Alarm :=
  { alarm with alarmClearedTime := some endsAt, alarmChangedTime := some now }

/-- The merge of `alarm.update(context)`: the attributes that are set replace those of the row. -/
def mergeInto (alarm row : Alarm) : Alarm :=
  { alarm with
    alarmChangedTime := alarm.alarmChangedTime.or row.alarmChangedTime
    alarmClearedTime := alarm.alarmClearedTime.or row.alarmClearedTime }

/-- The test of `get_not_cleared_alarms`. -/
def notCleared (fingerprint : String) (alarm : Alarm) : Bool :=
  alarm.alarmClearedTime.isNone && decide (fpstr fingerprint ∈ alarm.faultDetails)

end Alarm

/-! ## Threads -/

/-- The program counter of a thread of the API. -/
inductive Handler where
  /-- No batch is being served. -/
  | idle
  /-- `_alert`, before the rest of its alerts. -/
  | batch (now : Nat) (alerts : List Alert)
  /-- `create_new_alarm`, before the instance is read. -/
  | create (now : Nat) (vnfInstanceId : String) (alert : Alert) (todo : List Alert)
  /-- The new alarm is cast next. -/
  | raise (now : Nat) (vnfInstanceId : String) (vnfcInstanceIds : List String)
      (severity : PerceivedSeverity) (alert : Alert) (todo : List Alert)
  /-- `update_alarm`, before the rest of its alarms. -/
  | update (now endsAt : Nat) (alarms : List Alarm) (todo : List Alert)
deriving DecidableEq

/-- A step of a thread, of the conductor or of another part of the system. -/
inductive Event where
  /-- A batch of alerts arrives. -/
  | alert (thread now : Nat) (alerts : List Alert)
  /-- The next statement of the thread is executed. -/
  | go (thread : Nat)
  /-- The thread casts its new alarm, with the generated identifier. -/
  | cast (thread : Nat) (id : String)
  /-- The conductor stores one of the alarms that were cast. -/
  | store (n : Nat)
  /-- The VNF instances change. -/
  | operate (insts : String → Option Inst)

/-- The database, the alarms that were cast and are not stored yet, and the threads. -/
structure State where
  insts : String → Option Inst
  alarms : Table Alarm.id := ∅
  sent : List Alarm := []
  handlers : List Handler

namespace State

/-- `get_not_cleared_alarms`. -/
def getNotClearedAlarms (s : State) (vnfInstanceId fingerprint : String) : List Alarm :=
  (s.alarms.select fun alarm => alarm.managedObjectId = vnfInstanceId).filter
    (Alarm.notCleared fingerprint)

/-- The thread goes on at the program counter. -/
def goOn (s : State) (i : Nat) (h : Handler) : State :=
  { s with handlers := s.handlers.set i h }

/-- The alarm is cast to the conductor. -/
def send (s : State) (alarm : Alarm) : State :=
  { s with sent := s.sent ++ [alarm] }

/-- `create_or_update_alarm` up to its first statement after the look-up. A missing label or time
raises and ends the batch. -/
def createOrUpdateAlarm (s : State) (i now : Nat) (alert : Alert) (todo : List Alert) : State :=
  match alert.vnfInstanceId with
  | none => s.goOn i .idle
  | some vnfInstanceId =>
    match alert.status, s.getNotClearedAlarms vnfInstanceId alert.fingerprint with
    | .resolved, [] => s.goOn i (.batch now todo)
    | .resolved, alarm :: alarms =>
      match alert.endsAt with
      | some endsAt => s.goOn i (.update now endsAt (alarm :: alarms) todo)
      | none => s.goOn i .idle
    | .firing, [] => s.goOn i (.create now vnfInstanceId alert todo)
    | .firing, _ :: _ => s.goOn i (.batch now todo)

/-- `create_new_alarm` up to `vnfc_instance_ids`. -/
def createNewAlarm (reMatch : String → Option (String → Bool)) (s : State) (i now : Nat)
    (vnfInstanceId : String) (alert : Alert) (todo : List Alert) : State :=
  match alert.perceivedSeverity, s.insts vnfInstanceId with
  | some severity, some inst =>
    match inst.vnfcInstanceIds reMatch alert with
    | none => s.goOn i .idle
    | some [] => s.goOn i (.batch now todo)
    | some (id :: ids) => s.goOn i (.raise now vnfInstanceId (id :: ids) severity alert todo)
  | _, _ => s.goOn i .idle

/-- The next statement of a thread. -/
def go (reMatch : String → Option (String → Bool)) (s : State) (i : Nat) : Handler → Option State
  | .batch _ [] => some (s.goOn i .idle)
  | .batch now (alert :: todo) =>
    if alert.functionType = "vnffm" then some (s.createOrUpdateAlarm i now alert todo)
    else some (s.goOn i (.batch now todo))
  | .create now vnfInstanceId alert todo =>
    some (s.createNewAlarm reMatch i now vnfInstanceId alert todo)
  | .update now _ [] todo => some (s.goOn i (.batch now todo))
  | .update now endsAt (alarm :: alarms) todo =>
    some ((s.send (alarm.clear endsAt now)).goOn i (.update now endsAt alarms todo))
  | .idle | .raise _ _ _ _ _ _ => none

/-- The identifier is generated: no alarm has it. -/
def Fresh (s : State) (id : String) : Prop :=
  s.alarms.get id = none ∧ ∀ alarm ∈ s.sent, alarm.id ≠ id

instance {s : State} {id : String} : Decidable (s.Fresh id) :=
  inferInstanceAs (Decidable (s.alarms.get id = none ∧ ∀ alarm ∈ s.sent, alarm.id ≠ id))

/-- The end of `create_new_alarm`. -/
def cast (s : State) (i : Nat) (id : String) : Handler → Option State
  | .raise now vnfInstanceId vnfcInstanceIds severity alert todo =>
    if s.Fresh id then
      match Alarm.ofAlert id vnfInstanceId vnfcInstanceIds now severity alert with
      | some alarm => some ((s.send alarm).goOn i (.batch now todo))
      | none => some (s.goOn i .idle)
    else none
  | _ => none

/-- `store_alarm_info`. An alarm that is stored already was read from the database before it was cast
again, so that the test and the write are one step. -/
def storeAlarmInfo (s : State) (alarm : Alarm) : State :=
  match s.alarms.get alarm.id with
  | some row => { s with alarms := s.alarms.put (alarm.mergeInto row) }
  | none => { s with alarms := s.alarms.put alarm }

/-- A batch starts on a thread that serves none. -/
def start (s : State) (i now : Nat) (alerts : List Alert) : Handler → Option State
  | .idle => some (s.goOn i (.batch now alerts))
  | _ => none

/-- One step. -/
def step (reMatch : String → Option (String → Bool)) (s : State) : Event → Option State
  | .alert i now alerts => s.handlers[i]?.bind (s.start i now alerts)
  | .go i => s.handlers[i]?.bind (s.go reMatch i)
  | .cast i id => s.handlers[i]?.bind (s.cast i id)
  | .store n =>
    s.sent[n]?.map fun alarm => { s with sent := s.sent.eraseIdx n }.storeAlarmInfo alarm
  | .operate insts => some { s with insts := insts }

/-- No alarm has been raised, and the threads are idle. -/
def initial (insts : String → Option Inst) (threads : Nat) : State where
  insts := insts
  handlers := List.replicate threads .idle

end State

end Tacker.Fm
