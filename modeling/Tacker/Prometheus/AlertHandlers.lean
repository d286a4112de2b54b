import Tacker.Basis.ForEach
import Tacker.Prometheus.SpacedReports
import Tacker.Prometheus.ThresholdAlerts

/-!
# The alert handlers

The methods `_alert` of the five plugins of `common/prometheus_plugin.py`, as loops over the alerts
of a batch. Their effects are what they cast to the conductor: the PM plugins cast once, after the
loop, the others in each turn. The exception that ends a loop is only logged by `alert`, so that it
is not told which one it was.
-/

namespace Tacker.Prometheus

open Tacker.Basis

/-! ## The database -/

/-- `instantiatedVnfInfo`, with the aspects of its `scaleStatus`. -/
structure InstantiatedVnfInfo where
  vnfcResourceInfo : Option (List Fm.VnfcResourceInfo) := none
  vnfcInfo : Option (List Fm.VnfcInfo) := none
  scaleStatus : Option (List String) := none

/-- `VnfInstanceV2`; the properties tell whether they are set to a true value. -/
structure Inst where
  instantiated : Bool
  isAutohealEnabled : Bool := false
  isAutoscaleEnabled : Bool := false
  instantiatedVnfInfo : Option InstantiatedVnfInfo := none

/-- The lists that `vnfc_instance_ids` reads, which may be missing. -/
def Inst.forAlarms (inst : Inst) : Fm.Inst where
  vnfcResourceInfo := (inst.instantiatedVnfInfo.bind InstantiatedVnfInfo.vnfcResourceInfo).getD []
  vnfcInfo := (inst.instantiatedVnfInfo.bind InstantiatedVnfInfo.vnfcInfo).getD []

/-- What the handlers read. -/
structure World where
  pm : PmDatabase
  thresholds : ThresholdDatabase
  alarms : List Fm.Alarm := []
  insts : String → Option Inst

/-- An alert of a batch, with the database when its turn comes and the identifier that would be
generated for it. -/
structure Reading where
  world : World
  uuid : String
  alert : Alert

/-! ## Faults -/

/-- `get_not_cleared_alarms`. -/
def World.getNotClearedAlarms (w : World) (vnfInstanceId fingerprint : String) : List Fm.Alarm :=
  w.alarms.filter fun alarm =>
    alarm.managedObjectId = vnfInstanceId && alarm.notCleared fingerprint

/-- `create_new_alarm`. -/
def createNewAlarm (reMatch : String → Option (String → Bool)) (now : Nat) (r : Reading)
    (vnfInstanceId : String) : Except Error (List Fm.Alarm) := do
  let severity ← Alert.item r.alert.perceivedSeverity
  match r.world.insts vnfInstanceId with
  | none => .error .vnfInstanceNotFound
  | some inst =>
    match inst.forAlarms.vnfcInstanceIds reMatch r.alert.toAlert with
    | none => .error .reError
    | some [] => .error .prometheusPluginSkipped
    | some (id :: ids) =>
      match Fm.Alarm.ofAlert r.uuid vnfInstanceId (id :: ids) now severity r.alert.toAlert with
      | none => .error .valueError
      | some alarm => .ok [alarm]

/-- `create_or_update_alarm`. -/
def createOrUpdateAlarm (reMatch : String → Option (String → Bool)) (now : Nat) (r : Reading) :
    Except Error (List Fm.Alarm) := do
  let vnfInstanceId ← Alert.item r.alert.vnfInstanceId
  let notCleared := r.world.getNotClearedAlarms vnfInstanceId r.alert.fingerprint
  match r.alert.status with
  | .resolved =>
    if notCleared = [] then .error .prometheusPluginSkipped
    else
      match r.alert.endsAt with
      | none => .error .valueError
      | some endsAt => .ok (notCleared.map (Fm.Alarm.clear endsAt now))
  | .firing =>
    if notCleared = [] then createNewAlarm reMatch now r vnfInstanceId
    else .error .prometheusPluginSkipped

/-- One turn of the loop for faults. -/
def faultTurn (reMatch : String → Option (String → Bool)) (now : Nat) (r : Reading) :
    Option (List Fm.Alarm) :=
  if r.alert.functionType ≠ "vnffm" then some []
  else attempt [.prometheusPluginSkipped] (createOrUpdateAlarm reMatch now r)

/-! ## Healing and scaling -/

/-- What is cast to the conductor. -/
inductive Effect where
  /-- An entry of `store_job_info`. -/
  | report (contribution : Contribution)
  /-- An entry of `store_threshold_state_info`. -/
  | crossing (crossing : Crossing)
  /-- `store_alarm_info`. -/
  | alarm (alarm : Fm.Alarm)
  /-- `enqueue_auto_heal_instance`. -/
  | enqueue (vnfInstanceId vnfcInfoId : String)
  /-- `dequeue_auto_heal_instance`. -/
  | dequeue (vnfInstanceId : String)
  /-- `trigger_scale`. -/
  | scale (vnfInstanceId : String) (type : AutoScaleType) (aspectId : String)
deriving DecidableEq

/-- `_alert` for healing, once the instance is found: `inst.instantiatedVnfInfo.vnfcInfo` raises if
it is not set. -/
def healInst (alert : Alert) (vnfInstanceId : String) (inst : Inst) : List Effect × Option Unit :=
  let dequeued := if inst.instantiated then [] else [Effect.dequeue vnfInstanceId]
  if inst.isAutohealEnabled then
    match alert.vnfcInfoId, inst.instantiatedVnfInfo.bind InstantiatedVnfInfo.vnfcInfo with
    | some vnfcInfoId, some vnfcInfo =>
      if vnfcInfo.any (fun info => info.id = vnfcInfoId) then
        (dequeued ++ [.enqueue vnfInstanceId vnfcInfoId], none)
      else (dequeued, none)
    | _, _ => (dequeued, some ())
  else (dequeued, none)

/-- `_alert` for scaling, once the instance is found. -/
def scaleInst (alert : Alert) (vnfInstanceId : String) (inst : Inst) : List Effect × Option Unit :=
  if inst.instantiated && inst.isAutoscaleEnabled then
    match alert.aspectId, inst.instantiatedVnfInfo.bind InstantiatedVnfInfo.scaleStatus with
    | some aspectId, some scaleStatus =>
      if aspectId ∈ scaleStatus then
        match alert.autoScaleType with
        | some type => ([.scale vnfInstanceId type aspectId], none)
        | none => ([], some ())
      else ([], none)
    | _, _ => ([], some ())
  else ([], none)

/-- One turn of the loops for healing and scaling. An instance that is not found is passed over, but
its label is read before. -/
def autoTurn (functionType : String)
    (found : Alert → String → Inst → List Effect × Option Unit) (r : Reading) :
    List Effect × Option Unit :=
  if r.alert.FiringFor functionType then
    match r.alert.vnfInstanceId with
    | none => ([], some ())
    | some vnfInstanceId =>
      match r.world.insts vnfInstanceId with
      | none => ([], none)
      | some inst => found r.alert vnfInstanceId inst
  else ([], none)

/-! ## The handlers -/

/-- The five plugins. -/
inductive Handler where
  | pm
  | threshold
  | fault
  | autoHeal
  | autoScale
deriving DecidableEq

/-- The turns that tell nothing of the effects of one that raised. -/
def told {β : Type} (effect : β → Effect) : Option (List β) → List Effect × Option Unit
  | some bs => (bs.map effect, none)
  | none => ([], some ())

section

variable (margin : Int) (reMatch : String → Option (String → Bool)) (now : Nat)

/-- One turn of the loop. -/
def Handler.turn : Handler → Reading → List Effect × Option Unit
  | .pm, r => told .report (pmTurn margin r.world.pm now r.alert)
  | .threshold, r => told .crossing (thresholdTurn r.world.thresholds r.alert)
  | .fault, r => told .alarm (faultTurn reMatch now r)
  | .autoHeal, r => autoTurn "auto_heal" healInst r
  | .autoScale, r => autoTurn "auto_scale" scaleInst r

/-- The PM plugins cast after the loop. -/
def Handler.castsAtEnd : Handler → Bool
  | .pm | .threshold => true
  | .fault | .autoHeal | .autoScale => false

/-- What is cast for a batch. The entries of a report are cast with the others of their job. -/
def Handler.effects (h : Handler) (batch : List Reading) : List Effect :=
  match forEach (emits (h.turn margin reMatch now)) batch [] with
  | (out, none) => out
  | (out, some _) => if h.castsAtEnd then [] else out

end

end Tacker.Prometheus
