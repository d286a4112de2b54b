import Tacker.Prometheus.AlertHandlers

/-!
# The alerts that raise and those that cast

For each handler, the alerts that end its loop with an exception and those that have an effect, told
by their labels and by what the database has for them.
-/

namespace Tacker.Prometheus

open Tacker.Basis

section

variable {margin : Int} {reMatch : String → Option (String → Bool)} {now : Nat} {r : Reading}

/-! ## PM jobs -/

/-- The labels and the value of an alert for a PM job. -/
structure PmLabels (alert : Alert) (jobId objectInstanceId metric : String) (value : Value) : Prop where
  isFunction : alert.functionType = "vnfpm"
  isJob : alert.jobId = some jobId
  isObject : alert.objectInstanceId = some objectInstanceId
  isMetric : alert.metric = some metric
  isValue : alert.value = some value

/-- The alert raises what is not caught. -/
inductive PmRaises (margin : Int) (db : PmDatabase) (now : Int) (alert : Alert) : Prop where
  | label : alert.functionType = "vnfpm" → alert.jobId = none ∨ alert.objectInstanceId = none ∨
      alert.metric = none ∨ alert.value = none → PmRaises margin db now alert
  | job {jobId objectInstanceId metric : String} {value : Value} :
    PmLabels alert jobId objectInstanceId metric value → db.jobs jobId = none →
    PmRaises margin db now alert
  | time {jobId objectInstanceId metric : String} {value : Value} {job : PmJob} {e : Error} :
    PmLabels alert jobId objectInstanceId metric value → db.jobs jobId = some job →
    filterAlertByTime margin db jobId job now objectInstanceId alert.subObjectInstanceId metric =
      .error e → e ≠ .prometheusPluginSkipped → PmRaises margin db now alert
  | value {jobId objectInstanceId metric : String} {value : Value} {job : PmJob} :
    Passes margin db now alert jobId job objectInstanceId metric → alert.value = some value →
    Inconvertible metric value → PmRaises margin db now alert

/-- The alert is reported. -/
def PmReports (margin : Int) (db : PmDatabase) (now : Int) (alert : Alert) : Prop :=
  ∃ jobId job objectInstanceId metric value measured,
    Passes margin db now alert jobId job objectInstanceId metric ∧ alert.value = some value ∧
    convertMeasurementUnit metric value = .ok measured

section

variable {db : PmDatabase} {now : Int} {alert : Alert} {jobId objectInstanceId metric : String}
  {value : Value} {job : PmJob}

lemma pmAlert_missing (missing : alert.jobId = none ∨ alert.objectInstanceId = none ∨
    alert.metric = none ∨ alert.value = none) : pmAlert margin db now alert = .error .keyError := by
  rw [pmAlert]
  cases isJob : alert.jobId with
  | none => rfl
  | some jobId =>
    cases isObject : alert.objectInstanceId with
    | none => rfl
    | some objectInstanceId =>
      cases isMetric : alert.metric with
      | none => rfl
      | some metric =>
        cases isValue : alert.value with
        | none => rfl
        | some value => simp [isJob, isObject, isMetric, isValue] at missing

lemma pmAlert_noJob (labels : PmLabels alert jobId objectInstanceId metric value)
    (missing : db.jobs jobId = none) : pmAlert margin db now alert = .error .pmJobNotExist := by
  rw [pmAlert, labels.isJob, labels.isObject, labels.isMetric, labels.isValue]
  simp only [Alert.item, bind, Except.bind, missing]

lemma pmAlert_time (labels : PmLabels alert jobId objectInstanceId metric value)
    (found : db.jobs jobId = some job) {e : Error}
    (raised : filterAlertByTime margin db jobId job now objectInstanceId alert.subObjectInstanceId
      metric = .error e) : pmAlert margin db now alert = .error e := by
  rw [pmAlert, labels.isJob, labels.isObject, labels.isMetric, labels.isValue]
  simp only [Alert.item, bind, Except.bind, found, raised]

lemma pmAlert_passes (passes : Passes margin db now alert jobId job objectInstanceId metric)
    (isValue : alert.value = some value) :
    pmAlert margin db now alert =
      (convertMeasurementUnit metric value).map fun measured =>
        (jobId, ⟨job.objectType, objectInstanceId, alert.subObjectInstanceId, metric,
          [⟨now, measured⟩]⟩) := by
  rw [pmAlert, passes.isJob, passes.isObject, passes.isMetric, isValue]
  simp only [Alert.item, bind, Except.bind, passes.found, passes.inTime, passes.monitored, if_true]
  cases convertMeasurementUnit metric value with
  | error e => rfl
  | ok measured => rfl

/-- An exception of the `try` block that is not caught. -/
lemma pmAlert_error (isFunction : alert.functionType = "vnfpm") {e : Error}
    (raised : pmAlert margin db now alert = .error e) (notSkipped : e ≠ .prometheusPluginSkipped) :
    PmRaises margin db now alert := by
  by_cases missing : alert.jobId = none ∨ alert.objectInstanceId = none ∨ alert.metric = none ∨
      alert.value = none
  · exact .label isFunction missing
  · obtain ⟨notJob, notObject, notMetric, notValue⟩ : alert.jobId ≠ none ∧
        alert.objectInstanceId ≠ none ∧ alert.metric ≠ none ∧ alert.value ≠ none := by
      simpa only [not_or] using missing
    obtain ⟨jobId, isJob⟩ := Option.ne_none_iff_exists'.mp notJob
    obtain ⟨objectInstanceId, isObject⟩ := Option.ne_none_iff_exists'.mp notObject
    obtain ⟨metric, isMetric⟩ := Option.ne_none_iff_exists'.mp notMetric
    obtain ⟨value, isValue⟩ := Option.ne_none_iff_exists'.mp notValue
    have labels : PmLabels alert jobId objectInstanceId metric value :=
      ⟨isFunction, isJob, isObject, isMetric, isValue⟩
    cases found : db.jobs jobId with
    | none => exact .job labels found
    | some job =>
      cases inTime : filterAlertByTime margin db jobId job now objectInstanceId
          alert.subObjectInstanceId metric with
      | error e' =>
        rw [pmAlert_time labels found inTime] at raised
        cases raised
        exact .time labels found inTime notSkipped
      | ok _ =>
        by_cases monitored : job.validAlert objectInstanceId alert.subObjectInstanceId = true
        · have passes : Passes margin db now alert jobId job objectInstanceId metric :=
            ⟨isFunction, isJob, isObject, isMetric, found, inTime, monitored⟩
          rw [pmAlert_passes passes isValue] at raised
          cases converted : convertMeasurementUnit metric value with
          | ok measured =>
            rw [converted] at raised
            cases raised
          | error e' =>
            rw [converted] at raised
            cases raised
            exact .value passes isValue (convertMeasurementUnit_raises.mp ⟨e, converted, notSkipped⟩)
        · rw [pmAlert, isJob, isObject, isMetric, isValue] at raised
          simp only [Alert.item, bind, Except.bind, found, inTime, if_neg monitored] at raised
          cases raised
          exact absurd rfl notSkipped

lemma pmTurn_eq_none : pmTurn margin db now alert = none ↔ PmRaises margin db now alert := by
  rw [pmTurn]
  by_cases isFunction : alert.functionType = "vnfpm"
  · rw [if_neg (not_not.mpr isFunction), attempt_eq_none]
    constructor
    · rintro ⟨e, mapped, notCaught⟩
      cases raised : pmAlert margin db now alert with
      | ok contribution =>
        rw [raised] at mapped
        cases mapped
      | error e' =>
        rw [raised] at mapped
        cases mapped
        exact pmAlert_error isFunction raised fun skipped => notCaught (by simp [skipped])
    · intro raises
      cases raises with
      | label _ missing =>
        refine ⟨.keyError, ?_, by simp⟩
        rw [pmAlert_missing missing]
        rfl
      | job labels missing =>
        refine ⟨.pmJobNotExist, ?_, by simp⟩
        rw [pmAlert_noJob labels missing]
        rfl
      | @time jobId objectInstanceId metric value job e labels found raised notSkipped =>
        refine ⟨e, ?_, by simpa using notSkipped⟩
        rw [pmAlert_time labels found raised]
        rfl
      | value passes isValue inconvertible =>
        obtain ⟨e, converted, notSkipped⟩ := convertMeasurementUnit_raises.mpr inconvertible
        refine ⟨e, ?_, by simpa using notSkipped⟩
        rw [pmAlert_passes passes isValue, converted]
        rfl
  · rw [if_pos isFunction]
    apply iff_of_false (by simp)
    intro raises
    cases raises with
    | label isFunction' _ => exact isFunction isFunction'
    | job labels _ => exact isFunction labels.isFunction
    | time labels _ _ _ => exact isFunction labels.isFunction
    | value passes _ _ => exact isFunction passes.isFunction

lemma pmTurn_reports :
    (∃ b bs, pmTurn margin db now alert = some (b :: bs)) ↔ PmReports margin db now alert := by
  constructor
  · rintro ⟨b, bs, turn⟩
    rcases pmTurn_items turn with isNil | ⟨jobId, job, objectInstanceId, metric, passes, -, -⟩
    · cases isNil
    · rw [pmTurn, if_neg (not_not.mpr passes.isFunction)] at turn
      rcases attempt_eq_some turn with mapped | isNil
      · obtain ⟨contribution, ok, -⟩ := except_map_ok.mp mapped
        cases isValue : alert.value with
        | none =>
          rw [pmAlert_missing (.inr (.inr (.inr isValue)))] at ok
          cases ok
        | some value =>
          rw [pmAlert_passes passes isValue] at ok
          obtain ⟨measured, converted, -⟩ := except_map_ok.mp ok
          exact ⟨jobId, job, objectInstanceId, metric, value, measured, passes, isValue, converted⟩
      · cases isNil
  · rintro ⟨jobId, job, objectInstanceId, metric, value, measured, passes, isValue, converted⟩
    rw [pmTurn, if_neg (not_not.mpr passes.isFunction), pmAlert_passes passes isValue, converted]
    exact ⟨_, _, rfl⟩

end

/-! ## Thresholds -/

/-- The alert is told to the conductor. -/
def ThresholdReports (db : ThresholdDatabase) (alert : Alert) : Prop :=
  ∃ thresholdId threshold details metric value newValue,
    ThresholdPasses db alert thresholdId threshold details metric value ∧
    convertMeasurementUnit metric value = .ok newValue

lemma thresholdTurn_reports {db : ThresholdDatabase} {alert : Alert} :
    (∃ b bs, thresholdTurn db alert = some (b :: bs)) ↔ ThresholdReports db alert := by
  constructor
  · rintro ⟨b, bs, turn⟩
    rcases thresholdTurn_items turn with isNil | ⟨thresholdId, threshold, details, metric, value,
      newValue, passes, converted, -⟩
    · cases isNil
    · exact ⟨thresholdId, threshold, details, metric, value, newValue, passes, converted⟩
  · rintro ⟨thresholdId, threshold, details, metric, value, newValue, passes, converted⟩
    rw [thresholdTurn, if_pos passes.isFor, thresholdAlert_passes passes, converted]
    exact ⟨_, _, rfl⟩

/-! ## Faults -/

/-- The alert clears alarms of the instance. -/
def Clears (r : Reading) (vnfInstanceId : String) : Prop :=
  r.alert.status = .resolved ∧
    r.world.getNotClearedAlarms vnfInstanceId r.alert.fingerprint ≠ []

/-- The alert makes a new alarm of the instance. -/
def Creates (r : Reading) (vnfInstanceId : String) : Prop :=
  r.alert.status = .firing ∧ r.world.getNotClearedAlarms vnfInstanceId r.alert.fingerprint = []

/-- The new alarm cannot be made: the severity or the instance is missing, the pattern of the pod is
none, or the VNFCs are found and a text cannot be read. -/
def CreateRaises (reMatch : String → Option (String → Bool)) (r : Reading) (vnfInstanceId : String) :
    Prop :=
  r.alert.perceivedSeverity = none ∨ r.world.insts vnfInstanceId = none ∨
    ∃ inst, r.world.insts vnfInstanceId = some inst ∧
      (inst.forAlarms.vnfcInstanceIds reMatch r.alert.toAlert = none ∨
        ∃ ids, inst.forAlarms.vnfcInstanceIds reMatch r.alert.toAlert = some ids ∧ ids ≠ [] ∧
          (r.alert.startsAt = none ∨ r.alert.eventType = none))

/-- The new alarm is made. -/
def CreateCasts (reMatch : String → Option (String → Bool)) (r : Reading) (vnfInstanceId : String) :
    Prop :=
  r.alert.perceivedSeverity ≠ none ∧ ∃ inst, r.world.insts vnfInstanceId = some inst ∧
    ∃ ids, inst.forAlarms.vnfcInstanceIds reMatch r.alert.toAlert = some ids ∧ ids ≠ [] ∧
      r.alert.startsAt ≠ none ∧ r.alert.eventType ≠ none

/-- The alert raises what is not caught; it does so without the label of the instance. -/
def FaultRaises (reMatch : String → Option (String → Bool)) (r : Reading) : Prop :=
  r.alert.functionType = "vnffm" ∧ ∀ id, r.alert.vnfInstanceId = some id →
    (Clears r id ∧ r.alert.endsAt = none) ∨ (Creates r id ∧ CreateRaises reMatch r id)

/-- The alert has alarms cast. -/
def FaultCasts (reMatch : String → Option (String → Bool)) (r : Reading) : Prop :=
  r.alert.functionType = "vnffm" ∧ ∃ id, r.alert.vnfInstanceId = some id ∧
    ((Clears r id ∧ r.alert.endsAt ≠ none) ∨ (Creates r id ∧ CreateCasts reMatch r id))

lemma ofAlert_eq_none {id vnfInstanceId : String} {ids : List String} {severity : Fm.PerceivedSeverity}
    {alert : Fm.Alert} : Fm.Alarm.ofAlert id vnfInstanceId ids now severity alert = none ↔
      alert.startsAt = none ∨ alert.eventType = none := by
  rw [Fm.Alarm.ofAlert]
  cases alert.startsAt <;> cases alert.eventType <;> simp

/-- What becomes of a new alarm. -/
inductive Made (reMatch : String → Option (String → Bool)) (r : Reading) (id : String) :
    Except Error (List Fm.Alarm) → Prop where
  | skipped : ¬ CreateRaises reMatch r id → ¬ CreateCasts reMatch r id →
    Made reMatch r id (.error .prometheusPluginSkipped)
  | raised {e : Error} : e ≠ .prometheusPluginSkipped → CreateRaises reMatch r id →
    ¬ CreateCasts reMatch r id → Made reMatch r id (.error e)
  | cast {alarm : Fm.Alarm} : ¬ CreateRaises reMatch r id → CreateCasts reMatch r id →
    Made reMatch r id (.ok [alarm])

lemma createNewAlarm_made (id : String) : Made reMatch r id (createNewAlarm reMatch now r id) := by
  rw [createNewAlarm]
  cases isSeverity : r.alert.perceivedSeverity with
  | none => exact .raised (by simp) (.inl isSeverity) fun casts => casts.1 isSeverity
  | some severity =>
    simp only [Alert.item, bind, Except.bind]
    cases found : r.world.insts id with
    | none =>
      refine .raised (by simp) (.inr (.inl found)) ?_
      rintro ⟨-, inst, found', -⟩
      rw [found] at found'
      cases found'
    | some inst =>
      cases isIds : inst.forAlarms.vnfcInstanceIds reMatch r.alert.toAlert with
      | none =>
        simp only [isIds]
        refine .raised (by simp) (.inr (.inr ⟨inst, found, .inl isIds⟩)) ?_
        simp [CreateCasts, found, isIds]
      | some ids =>
        cases ids with
        | nil =>
          simp only [isIds]
          apply Made.skipped
          · simp [CreateRaises, isSeverity, found, isIds]
          · simp [CreateCasts, found, isIds]
        | cons first rest =>
          simp only [isIds]
          cases made : Fm.Alarm.ofAlert r.uuid id (first :: rest) now severity r.alert.toAlert with
          | none =>
            have missing := ofAlert_eq_none.mp made
            apply Made.raised (by simp)
            · exact .inr (.inr ⟨inst, found, .inr ⟨_, isIds, List.cons_ne_nil _ _, missing⟩⟩)
            · rintro ⟨-, inst', -, ids', -, -, startsAt, eventType⟩
              exact missing.elim startsAt eventType
          | some alarm =>
            have readable : ¬ (r.alert.startsAt = none ∨ r.alert.eventType = none) := by
              intro missing
              rw [ofAlert_eq_none.mpr missing] at made
              cases made
            apply Made.cast
            · simp only [CreateRaises, isSeverity, found, readable]
              simp [isIds]
            · obtain ⟨startsAt, eventType⟩ := not_or.mp readable
              exact ⟨by simp [isSeverity], inst, found, _, isIds, List.cons_ne_nil _ _, startsAt,
                eventType⟩

/-- An alert for an alarm is refused, raises, or has its alarms cast. -/
lemma faultTurn_told :
    (faultTurn reMatch now r = none ↔ FaultRaises reMatch r) ∧
    ((∃ b bs, faultTurn reMatch now r = some (b :: bs)) ↔ FaultCasts reMatch r) := by
  rw [faultTurn, FaultRaises, FaultCasts]
  by_cases isFunction : r.alert.functionType = "vnffm"
  · rw [if_neg (not_not.mpr isFunction), createOrUpdateAlarm]
    cases isInst : r.alert.vnfInstanceId with
    | none => simp [isFunction, Alert.item, attempt, bind, Except.bind]
    | some id =>
      simp only [isFunction, Alert.item, bind, Except.bind, Option.some.injEq, forall_eq', true_and,
        exists_eq_left', Clears, Creates]
      cases status : r.alert.status with
      | resolved =>
        cases cleared : r.world.getNotClearedAlarms id r.alert.fingerprint with
        | nil => simp [attempt]
        | cons alarm alarms =>
          cases endsAt : r.alert.endsAt with
          | none => simp [attempt]
          | some time => simp [attempt]
      | firing =>
        cases cleared : r.world.getNotClearedAlarms id r.alert.fingerprint with
        | nil =>
          have made : Made reMatch r id (createNewAlarm reMatch now r id) := createNewAlarm_made id
          generalize createNewAlarm reMatch now r id = x at made
          cases made with
          | skipped notRaises notCasts => simp [attempt, notRaises, notCasts]
          | raised notSkipped raises notCasts => simp [attempt, notSkipped, raises, notCasts]
          | cast notRaises casts => simp [attempt, notRaises, casts]
        | cons alarm alarms => simp [attempt]
  · simp [isFunction]

/-! ## Healing -/

/-- The VNFC of the label is not told, or the instance has no VNFCs. -/
def HealRaises (r : Reading) : Prop :=
  r.alert.FiringFor "auto_heal" ∧ ∀ id, r.alert.vnfInstanceId = some id →
    ∃ inst, r.world.insts id = some inst ∧ inst.isAutohealEnabled = true ∧
      (r.alert.vnfcInfoId = none ∨
        inst.instantiatedVnfInfo.bind InstantiatedVnfInfo.vnfcInfo = none)

/-- The instance is not instantiated any more, or its VNFC is healed. -/
def HealCasts (r : Reading) : Prop :=
  r.alert.FiringFor "auto_heal" ∧ ∃ id, r.alert.vnfInstanceId = some id ∧
    ∃ inst, r.world.insts id = some inst ∧ (inst.instantiated = false ∨
      inst.isAutohealEnabled = true ∧ ∃ vnfcInfoId vnfcInfo, r.alert.vnfcInfoId = some vnfcInfoId ∧
        inst.instantiatedVnfInfo.bind InstantiatedVnfInfo.vnfcInfo = some vnfcInfo ∧
        vnfcInfo.any (fun info => info.id = vnfcInfoId) = true)

lemma healTurn_told :
    ((autoTurn "auto_heal" healInst r).2 ≠ none ↔ HealRaises r) ∧
    ((autoTurn "auto_heal" healInst r).1 ≠ [] ↔ HealCasts r) := by
  rw [autoTurn, HealRaises, HealCasts]
  by_cases isFor : r.alert.FiringFor "auto_heal"
  · rw [if_pos isFor]
    cases isInst : r.alert.vnfInstanceId with
    | none => simp [isFor]
    | some id =>
      cases found : r.world.insts id with
      | none => simp [isFor, found]
      | some inst =>
        simp only [isFor, true_and, Option.some.injEq, forall_eq', exists_eq_left', found, healInst]
        cases enabled : inst.isAutohealEnabled with
        | false => cases inst.instantiated <;> simp
        | true =>
          cases isVnfc : r.alert.vnfcInfoId with
          | none => cases inst.instantiated <;> simp
          | some vnfcInfoId =>
            cases isInfo : inst.instantiatedVnfInfo.bind InstantiatedVnfInfo.vnfcInfo with
            | none => cases inst.instantiated <;> simp
            | some vnfcInfo =>
              cases mem : vnfcInfo.any fun info => info.id = vnfcInfoId <;>
                cases inst.instantiated <;>
                simp only [Option.some.injEq, exists_and_left, exists_eq_left', mem] <;> simp
  · simp [isFor]

/-! ## Scaling -/

/-- The instance may be scaled. -/
def Inst.Scalable (inst : Inst) : Prop :=
  inst.instantiated = true ∧ inst.isAutoscaleEnabled = true

/-- The aspect is not told, the instance has no scale status, or the direction is not told for an
aspect of the instance. -/
def ScaleRaises (r : Reading) : Prop :=
  r.alert.FiringFor "auto_scale" ∧ ∀ id, r.alert.vnfInstanceId = some id →
    ∃ inst, r.world.insts id = some inst ∧ inst.Scalable ∧
      ∀ aspectId scaleStatus, r.alert.aspectId = some aspectId →
        inst.instantiatedVnfInfo.bind InstantiatedVnfInfo.scaleStatus = some scaleStatus →
        aspectId ∈ scaleStatus ∧ r.alert.autoScaleType = none

/-- The aspect is one of the instance, and the direction is told. -/
def ScaleCasts (r : Reading) : Prop :=
  r.alert.FiringFor "auto_scale" ∧ ∃ id, r.alert.vnfInstanceId = some id ∧
    ∃ inst, r.world.insts id = some inst ∧ inst.Scalable ∧
      ∃ aspectId scaleStatus, r.alert.aspectId = some aspectId ∧
        inst.instantiatedVnfInfo.bind InstantiatedVnfInfo.scaleStatus = some scaleStatus ∧
        aspectId ∈ scaleStatus ∧ r.alert.autoScaleType ≠ none

lemma scaleTurn_told :
    ((autoTurn "auto_scale" scaleInst r).2 ≠ none ↔ ScaleRaises r) ∧
    ((autoTurn "auto_scale" scaleInst r).1 ≠ [] ↔ ScaleCasts r) := by
  rw [autoTurn, ScaleRaises, ScaleCasts]
  by_cases isFor : r.alert.FiringFor "auto_scale"
  · rw [if_pos isFor]
    cases isInst : r.alert.vnfInstanceId with
    | none => simp [isFor]
    | some id =>
      cases found : r.world.insts id with
      | none => simp [isFor, found]
      | some inst =>
        simp only [isFor, true_and, Option.some.injEq, forall_eq', exists_eq_left', found, scaleInst,
          Inst.Scalable]
        cases inst.instantiated with
        | false => simp
        | true =>
          cases inst.isAutoscaleEnabled with
          | false => simp
          | true =>
            cases isAspect : r.alert.aspectId with
            | none => simp
            | some aspectId =>
              cases isStatus : inst.instantiatedVnfInfo.bind InstantiatedVnfInfo.scaleStatus with
              | none => simp
              | some scaleStatus =>
                by_cases mem : aspectId ∈ scaleStatus
                · cases r.alert.autoScaleType <;> simp [mem]
                · simp [mem]
  · simp [isFor]

end

/-!
## Batches of alerts

When the effects of a batch are those that its alerts would have one by one: an alert that raises
ends the loop, and the PM plugins then cast nothing of what they have collected.
-/

section

variable (margin : Int) (reMatch : String → Option (String → Bool)) (now : Nat)

/-- The alert ends the loop of the handler with an exception. -/
def Handler.Raises : Handler → Reading → Prop
  | .pm, r => PmRaises margin r.world.pm now r.alert
  | .threshold, r => ThresholdRaises r.world.thresholds r.alert
  | .fault, r => FaultRaises reMatch r
  | .autoHeal, r => HealRaises r
  | .autoScale, r => ScaleRaises r

/-- The alert has an effect. -/
def Handler.Casts : Handler → Reading → Prop
  | .pm, r => PmReports margin r.world.pm now r.alert
  | .threshold, r => ThresholdReports r.world.thresholds r.alert
  | .fault, r => FaultCasts reMatch r
  | .autoHeal, r => HealCasts r
  | .autoScale, r => ScaleCasts r

/-- No alert that raises takes the effect of another one: for the PM plugins none of the batch has
one, for the others none after it. -/
def Handler.Undisturbed (h : Handler) (batch : List Reading) : Prop :=
  ∀ before r after, batch = before ++ r :: after → h.Raises margin reMatch now r →
    ∀ r' ∈ if h.castsAtEnd then batch else after, ¬ h.Casts margin reMatch now r'

end

variable {margin : Int} {reMatch : String → Option (String → Bool)} {now : Nat} {r : Reading}
  {h : Handler} {batch : List Reading}

/-! ## One alert -/

lemma told_raised {β : Type} {effect : β → Effect} {x : Option (List β)} :
    (told effect x).2 ≠ none ↔ x = none := by
  cases x <;> simp [told]

lemma told_casts {β : Type} {effect : β → Effect} {x : Option (List β)} :
    (told effect x).1 ≠ [] ↔ ∃ b bs, x = some (b :: bs) := by
  cases x with
  | none => simp [told]
  | some bs => cases bs <;> simp [told]

lemma turn_raised : (h.turn margin reMatch now r).2 ≠ none ↔ h.Raises margin reMatch now r := by
  cases h with
  | pm => exact told_raised.trans pmTurn_eq_none
  | threshold => exact told_raised.trans thresholdTurn_eq_none
  | fault => exact told_raised.trans faultTurn_told.1
  | autoHeal => exact healTurn_told.1
  | autoScale => exact scaleTurn_told.1

lemma turn_casts : (h.turn margin reMatch now r).1 ≠ [] ↔ h.Casts margin reMatch now r := by
  cases h with
  | pm => exact told_casts.trans pmTurn_reports
  | threshold => exact told_casts.trans thresholdTurn_reports
  | fault => exact told_casts.trans faultTurn_told.2
  | autoHeal => exact healTurn_told.2
  | autoScale => exact scaleTurn_told.2

/-- What raises in a plugin that casts at the end has nothing to cast. -/
lemma turn_silent (atEnd : h.castsAtEnd = true) (raised : (h.turn margin reMatch now r).2 ≠ none) :
    (h.turn margin reMatch now r).1 = [] := by
  cases h with
  | pm =>
    have raised := told_raised.mp raised
    show (told _ (pmTurn margin r.world.pm now r.alert)).1 = []
    rw [raised]
    rfl
  | threshold =>
    have raised := told_raised.mp raised
    show (told _ (thresholdTurn r.world.thresholds r.alert)).1 = []
    rw [raised]
    rfl
  | fault => cases atEnd
  | autoHeal => cases atEnd
  | autoScale => cases atEnd

/-- The effects of an alert on its own. -/
lemma effects_single : h.effects margin reMatch now [r] = (h.turn margin reMatch now r).1 := by
  rw [Handler.effects, forEach_emits_cons]
  cases turn : h.turn margin reMatch now r with
  | mk out raised =>
    cases raised with
    | none => simp [forEach]
    | some e =>
      cases atEnd : h.castsAtEnd with
      | true =>
        have silent : (h.turn margin reMatch now r).2 ≠ none → (h.turn margin reMatch now r).1 = [] :=
          turn_silent atEnd
        rw [turn] at silent
        simpa using (silent (by simp)).symm
      | false => simp

/-! ## The batch -/

lemma effects_atEnd (atEnd : h.castsAtEnd = true) :
    h.effects margin reMatch now batch = batch.flatMap (fun r => (h.turn margin reMatch now r).1) ↔
      h.Undisturbed margin reMatch now batch := by
  obtain ⟨lost, all, isLost⟩ := forEach_emits_lost (g := h.turn margin reMatch now) batch
  rw [Handler.effects, Handler.Undisturbed, atEnd]
  cases loop : forEach (emits (h.turn margin reMatch now)) batch [] with
  | mk out raised =>
    cases raised with
    | none =>
      have none := forEach_emits_raised.mp (by rw [loop])
      have noLost : lost = [] := by
        rw [isLost]
        intro before r after split raised
        exact absurd (none r (by rw [split]; simp)) raised
      rw [all, loop, noLost, List.append_nil]
      apply iff_of_true rfl
      intro before r after split raises
      exact absurd (none r (by rw [split]; simp)) (turn_raised.mpr raises)
    | some e =>
      obtain ⟨r, mem, raised⟩ : ∃ r ∈ batch, (h.turn margin reMatch now r).2 ≠ none := by
        by_contra none
        push Not at none
        have all := forEach_emits_raised.mpr none
        rw [loop] at all
        cases all
      simp only [if_true]
      rw [eq_comm, List.flatMap_eq_nil_iff]
      constructor
      · intro silent before r after split raises r' mem
        exact fun casts => turn_casts.mpr casts (silent r' mem)
      · intro quiet r' mem'
        by_contra some
        obtain ⟨before, after, split⟩ := List.append_of_mem mem
        exact quiet before r after split (turn_raised.mp raised) r' mem' (turn_casts.mp some)

lemma effects_inLoop (inLoop : h.castsAtEnd = false) :
    h.effects margin reMatch now batch = batch.flatMap (fun r => (h.turn margin reMatch now r).1) ↔
      h.Undisturbed margin reMatch now batch := by
  obtain ⟨lost, all, isLost⟩ := forEach_emits_lost (g := h.turn margin reMatch now) batch
  have isOut : h.effects margin reMatch now batch =
      (forEach (emits (h.turn margin reMatch now)) batch []).1 := by
    rw [Handler.effects, inLoop]
    cases forEach (emits (h.turn margin reMatch now)) batch [] with
    | mk out raised => cases raised <;> rfl
  rw [isOut, all, List.self_eq_append_right, isLost, Handler.Undisturbed, inLoop]
  constructor
  · intro later before r after split raises r' mem casts
    exact turn_casts.mpr casts (later before r after split (turn_raised.mpr raises) r' mem)
  · intro later before r after split raised r' mem
    by_contra some
    exact later before r after split (turn_raised.mp raised) r' mem (turn_casts.mp some)

/-- The effects of a batch are those of its alerts exactly if no alert that raises takes the effect
of another one. -/
theorem effects_independent_iff (margin : Int) (reMatch : String → Option (String → Bool)) (now : Nat)
    (h : Handler) (batch : List Reading) :
    h.effects margin reMatch now batch =
        batch.flatMap (fun r => h.effects margin reMatch now [r]) ↔
      h.Undisturbed margin reMatch now batch := by
  simp only [effects_single]
  cases atEnd : h.castsAtEnd with
  | true => exact effects_atEnd atEnd
  | false => exact effects_inLoop atEnd

/-! ## A job that is gone -/

/-- An alert for a job, in the world of one job. -/
def readingOf (jobId : String) : Reading where
  world := {
    pm := ⟨oneJob, []⟩
    thresholds := ⟨fun _ => none, []⟩
    insts := fun _ => none }
  uuid := "uuid"
  alert := { usageAlert with jobId := some jobId }

/-- An alert for a job that is gone takes the report of the alert before it. -/
theorem report_lost : ¬ ∀ (margin : Int) (reMatch : String → Option (String → Bool)) (now : Nat)
    (h : Handler) (batch : List Reading),
    h.effects margin reMatch now batch =
      batch.flatMap (fun r => h.effects margin reMatch now [r]) := by
  intro all
  have lost := all 1 (fun _ => none) 0 .pm [readingOf "job", readingOf "gone"]
  have none : Handler.effects 1 (fun _ => none) 0 .pm [readingOf "job", readingOf "gone"] = [] := rfl
  rw [none, List.flatMap_cons] at lost
  have some : Handler.effects 1 (fun _ => Option.none) 0 .pm [readingOf "job"] =
      [.report usageContribution] := rfl
  rw [some] at lost
  cases lost

end Tacker.Prometheus
