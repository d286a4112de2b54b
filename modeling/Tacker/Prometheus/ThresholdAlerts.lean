import Tacker.Basis.Attempt
import Tacker.Basis.Collected
import Tacker.Prometheus.Alerts

/-!
# Alerts for thresholds

`PrometheusPluginThreshold` of `common/prometheus_plugin.py`, `common/pm_threshold_utils.py` and
`store_threshold_info` of `conductor/vnfpm_driver_v2.py`. The metadata of a threshold are told by
their `thresholdState`.
-/

namespace Tacker.Prometheus

open Tacker.Basis

/-! ## Comparisons -/

namespace Measured

/-- `x > b`. -/
def above (b : ℚ) : Measured → Bool
  | posInf => true
  | num q => b < q
  | nan | negInf => false

/-- `x < b`. -/
def below (b : ℚ) : Measured → Bool
  | negInf => true
  | num q => q < b
  | nan | posInf => false

/-- `b >= x`. -/
def atMost (b : ℚ) : Measured → Bool
  | negInf => true
  | num q => q ≤ b
  | nan | posInf => false

/-- `b <= x`. -/
def atLeast (b : ℚ) : Measured → Bool
  | posInf => true
  | num q => b ≤ q
  | nan | negInf => false

/-- Not `0`. -/
def truthy (x : Measured) : Bool :=
  x ≠ num 0

end Measured

/-! ## Data -/

/-- `crossingDirection`; `within` stands for `IN`. -/
inductive CrossingDirection where
  | up
  | down
  | within
deriving DecidableEq

/-- `SimpleThresholdDetails`. -/
structure SimpleThresholdDetails where
  thresholdValue : ℚ
  hysteresis : ℚ
  nonneg : 0 ≤ hysteresis

/-- An entry of `thresholdState`. -/
structure ThresholdState where
  subObjectInstanceId : Option String
  performanceValue : Measured
  metrics : String
  crossingDirection : CrossingDirection
deriving DecidableEq

/-- `ThresholdCriteriaV2`. -/
structure ThresholdCriteria where
  performanceMetric : String
  thresholdType : String
  simpleThresholdDetails : Option SimpleThresholdDetails

/-- `ThresholdV2`; a list of sub-objects that is not set is empty. -/
structure PmThreshold where
  objectInstanceId : String
  subObjectInstanceIds : List String := []
  criteria : ThresholdCriteria
  thresholdState : Option (List ThresholdState) := none

/-- What `_alert` tells the conductor of an alert. -/
structure Crossing where
  thresholdId : String
  subObjectInstanceId : Option String
  performanceValue : Measured
  metrics : String
  crossingDirection : CrossingDirection
deriving DecidableEq

/-- The thresholds of the database, and the notifications that were sent. -/
structure ThresholdDatabase where
  thresholds : String → Option PmThreshold
  notifications : List Crossing := []

/-! ## The alert -/

/-- `valid_alert`. -/
def PmThreshold.validAlert (threshold : PmThreshold) (metric objectInstanceId : String)
    (subObjectInstanceId : Option String) : Bool :=
  (threshold.objectInstanceId ≠ "" && objectInstanceId = threshold.objectInstanceId) &&
    (subObjectInstanceId.all fun id => id = "" || id ∈ threshold.subObjectInstanceIds) &&
    metric = threshold.criteria.performanceMetric

/-- `get_pm_threshold_state`. -/
def PmThreshold.getPmThresholdState (threshold : PmThreshold)
    (subObjectInstanceId : Option String) : Option ThresholdState :=
  (threshold.thresholdState.getD []).find? fun state =>
    state.subObjectInstanceId = subObjectInstanceId

/-- `set_threshold_last_value`: a value that is `0` counts as none. -/
def setThresholdLastValue (thresholdValue : ℚ) (state : Option ThresholdState) : Measured :=
  match state with
  | none => .num thresholdValue
  | some state =>
    if state.performanceValue.truthy then state.performanceValue else .num thresholdValue

/-- `set_crossing_direction`. -/
def setCrossingDirection (newValue lastValue : Measured) (thresholdValue hysteresis : ℚ) :
    CrossingDirection :=
  if newValue.below (thresholdValue - hysteresis) && lastValue.atLeast (thresholdValue - hysteresis)
  then .down
  else if newValue.above (thresholdValue + hysteresis) &&
    lastValue.atMost (thresholdValue + hysteresis) then .up
  else .within

/-- The details of a threshold of the only known type. -/
def PmThreshold.simpleDetails (threshold : PmThreshold) : Option SimpleThresholdDetails :=
  if threshold.criteria.thresholdType = "SIMPLE" then threshold.criteria.simpleThresholdDetails
  else none

/-- The entry that is appended to `result`. -/
def PmThreshold.crossing (threshold : PmThreshold) (details : SimpleThresholdDetails)
    (thresholdId : String) (subObjectInstanceId : Option String) (metric : String)
    (newValue : Measured) : Crossing where
  thresholdId := thresholdId
  subObjectInstanceId := subObjectInstanceId
  performanceValue := newValue
  metrics := metric
  crossingDirection := setCrossingDirection newValue
    (setThresholdLastValue details.thresholdValue (threshold.getPmThresholdState subObjectInstanceId))
    details.thresholdValue details.hysteresis

/-- The `try` block of `_alert`; a threshold without simple details is only logged. -/
def thresholdAlert (db : ThresholdDatabase) (alert : Alert) : Except Error (Option Crossing) := do
  let pmThresholdId ← Alert.item alert.thresholdId
  let objectInstanceId ← Alert.item alert.objectInstanceId
  let metric ← Alert.item alert.metric
  let value ← Alert.item alert.value
  match db.thresholds pmThresholdId with
  | none => .error .pmThresholdNotExist
  | some threshold =>
    if threshold.validAlert metric objectInstanceId alert.subObjectInstanceId then
      match threshold.simpleDetails with
      | some details =>
        (convertMeasurementUnit metric value).map fun newValue =>
          some (threshold.crossing details pmThresholdId alert.subObjectInstanceId metric newValue)
      | none => .ok none
    else .error .prometheusPluginSkipped

/-- One turn of the loop of `_alert`; `none` stands for an exception that ends it. -/
def thresholdTurn (db : ThresholdDatabase) (alert : Alert) : Option (List Crossing) :=
  if alert.FiringFor "vnfpm_threshold" then
    attempt [.prometheusPluginSkipped, .pmThresholdNotExist]
      ((thresholdAlert db alert).map Option.toList)
  else some []

/-! ## The conductor -/

/-- The entry of `thresholdState` that the conductor makes. -/
def Crossing.state (crossing : Crossing) : ThresholdState where
  subObjectInstanceId := crossing.subObjectInstanceId
  performanceValue := crossing.performanceValue
  metrics := crossing.metrics
  crossingDirection := crossing.crossingDirection

/-- The first entry of the sub-object and the metric is updated, or one is added. -/
def updateState (data : ThresholdState) : List ThresholdState → List ThresholdState
  | [] => [data]
  | state :: states =>
    if state.subObjectInstanceId = data.subObjectInstanceId ∧ state.metrics = data.metrics then
      data :: states
    else state :: updateState data states

/-- `update_threshold_state_data`, for a threshold that is there. -/
def PmThreshold.updateThresholdStateData (threshold : PmThreshold) (data : ThresholdState) :
    PmThreshold :=
  { threshold with thresholdState := some (updateState data (threshold.thresholdState.getD [])) }

/-- The crossing is notified. -/
def Crossing.crossed (crossing : Crossing) : Bool :=
  crossing.crossingDirection ≠ .within

/-- One turn of the loop of `store_threshold_info`. -/
def storeCrossing (db : ThresholdDatabase) (crossing : Crossing) : ThresholdDatabase × Bool :=
  match db.thresholds crossing.thresholdId with
  | none => (db, false)
  | some threshold =>
    ({ thresholds := Function.update db.thresholds crossing.thresholdId
          (some (threshold.updateThresholdStateData crossing.state))
       notifications := db.notifications ++ if crossing.crossed then [crossing] else [] }, true)

/-- The handler in the API processes and the conductor. -/
def thresholdCollector : Collector ThresholdDatabase Int Alert Crossing Crossing where
  read db _ := thresholdTurn db
  pack := id
  store := storeCrossing

/-! ## What an alert tells -/

/-- The alert passes the checks of `_alert` for the threshold. -/
structure ThresholdPasses (db : ThresholdDatabase) (alert : Alert) (thresholdId : String)
    (threshold : PmThreshold) (details : SimpleThresholdDetails) (metric : String)
    (value : Value) : Prop where
  isFor : alert.FiringFor "vnfpm_threshold"
  isThreshold : alert.thresholdId = some thresholdId
  isMetric : alert.metric = some metric
  isValue : alert.value = some value
  found : db.thresholds thresholdId = some threshold
  valid : ∃ objectInstanceId, alert.objectInstanceId = some objectInstanceId ∧
    threshold.validAlert metric objectInstanceId alert.subObjectInstanceId = true
  simple : threshold.simpleDetails = some details

/-- The alert raises what is not caught: it has no threshold, object, metric or value, or passes the
checks with a value that cannot be converted. -/
structure ThresholdRaises (db : ThresholdDatabase) (alert : Alert) : Prop where
  isFor : alert.FiringFor "vnfpm_threshold"
  raises : alert.thresholdId = none ∨ alert.objectInstanceId = none ∨ alert.metric = none ∨
    alert.value = none ∨ ∃ thresholdId threshold details metric value,
      ThresholdPasses db alert thresholdId threshold details metric value ∧
      Inconvertible metric value

variable {db : ThresholdDatabase} {alert : Alert} {items : List Crossing}

/-- An alert that passes the checks is told with its converted value. -/
lemma thresholdAlert_passes {thresholdId metric : String} {threshold : PmThreshold}
    {details : SimpleThresholdDetails} {value : Value}
    (passes : ThresholdPasses db alert thresholdId threshold details metric value) :
    thresholdAlert db alert = (convertMeasurementUnit metric value).map fun newValue =>
      some (threshold.crossing details thresholdId alert.subObjectInstanceId metric newValue) := by
  obtain ⟨objectInstanceId, isObject, valid⟩ := passes.valid
  rw [thresholdAlert, passes.isThreshold, isObject, passes.isMetric, passes.isValue]
  simp only [Alert.item, bind, Except.bind, passes.found, valid, passes.simple, if_true]

/-- The `try` block without an exception. -/
lemma thresholdAlert_ok {crossing : Option Crossing} (isFor : alert.FiringFor "vnfpm_threshold")
    (ok : thresholdAlert db alert = .ok crossing) :
    crossing = none ∨ ∃ thresholdId threshold details metric value newValue,
      ThresholdPasses db alert thresholdId threshold details metric value ∧
      convertMeasurementUnit metric value = .ok newValue ∧
      crossing = some
        (threshold.crossing details thresholdId alert.subObjectInstanceId metric newValue) := by
  obtain ⟨thresholdId, isThreshold, ok⟩ := bind_ok.mp ok
  obtain ⟨objectInstanceId, isObject, ok⟩ := bind_ok.mp ok
  obtain ⟨metric, isMetric, ok⟩ := bind_ok.mp ok
  obtain ⟨value, isValue, ok⟩ := bind_ok.mp ok
  cases found : db.thresholds thresholdId with
  | none =>
    rw [found] at ok
    cases ok
  | some threshold =>
    simp only [found] at ok
    by_cases valid : threshold.validAlert metric objectInstanceId alert.subObjectInstanceId = true
    · rw [if_pos valid] at ok
      cases simple : threshold.simpleDetails with
      | none =>
        rw [simple] at ok
        exact .inl (Except.ok.inj ok).symm
      | some details =>
        simp only [simple] at ok
        obtain ⟨newValue, converted, rfl⟩ := except_map_ok.mp ok
        exact .inr ⟨thresholdId, threshold, details, metric, value, newValue,
          ⟨isFor, item_ok isThreshold, item_ok isMetric, item_ok isValue, found,
            ⟨objectInstanceId, item_ok isObject, valid⟩, simple⟩, converted, rfl⟩
    · rw [if_neg valid] at ok
      cases ok

/-- The exceptions of the `try` block that are not caught there. -/
lemma thresholdAlert_error {e : Error} (isFor : alert.FiringFor "vnfpm_threshold")
    (raised : thresholdAlert db alert = .error e) :
    e = .prometheusPluginSkipped ∨ e = .pmThresholdNotExist ∨ ThresholdRaises db alert := by
  rcases bind_error.mp raised with raised | ⟨thresholdId, isThreshold, raised⟩
  · exact .inr (.inr ⟨isFor, .inl (item_error.mp raised).1⟩)
  rcases bind_error.mp raised with raised | ⟨objectInstanceId, isObject, raised⟩
  · exact .inr (.inr ⟨isFor, .inr (.inl (item_error.mp raised).1)⟩)
  rcases bind_error.mp raised with raised | ⟨metric, isMetric, raised⟩
  · exact .inr (.inr ⟨isFor, .inr (.inr (.inl (item_error.mp raised).1))⟩)
  rcases bind_error.mp raised with raised | ⟨value, isValue, raised⟩
  · exact .inr (.inr ⟨isFor, .inr (.inr (.inr (.inl (item_error.mp raised).1)))⟩)
  cases found : db.thresholds thresholdId with
  | none =>
    rw [found] at raised
    cases raised
    exact .inr (.inl rfl)
  | some threshold =>
    simp only [found] at raised
    by_cases valid : threshold.validAlert metric objectInstanceId alert.subObjectInstanceId = true
    · rw [if_pos valid] at raised
      cases simple : threshold.simpleDetails with
      | none =>
        rw [simple] at raised
        cases raised
      | some details =>
        simp only [simple] at raised
        cases converted : convertMeasurementUnit metric value with
        | ok newValue =>
          rw [converted] at raised
          cases raised
        | error e' =>
          rw [converted] at raised
          cases raised
          by_cases skipped : e = .prometheusPluginSkipped
          · exact .inl skipped
          · refine .inr (.inr ⟨isFor, .inr (.inr (.inr (.inr
              ⟨thresholdId, threshold, details, metric, value, ?_, ?_⟩)))⟩)
            · exact ⟨isFor, item_ok isThreshold, item_ok isMetric, item_ok isValue, found,
                ⟨objectInstanceId, item_ok isObject, valid⟩, simple⟩
            · exact convertMeasurementUnit_raises.mp ⟨e, converted, skipped⟩
    · rw [if_neg valid] at raised
      cases raised
      exact .inl rfl

/-- A label or the value is missing. -/
lemma thresholdAlert_missing (missing : alert.thresholdId = none ∨ alert.objectInstanceId = none ∨
    alert.metric = none ∨ alert.value = none) : thresholdAlert db alert = .error .keyError := by
  rw [thresholdAlert]
  cases isThreshold : alert.thresholdId with
  | none => rfl
  | some thresholdId =>
    cases isObject : alert.objectInstanceId with
    | none => rfl
    | some objectInstanceId =>
      cases isMetric : alert.metric with
      | none => rfl
      | some metric =>
        cases isValue : alert.value with
        | none => rfl
        | some value => simp [isThreshold, isObject, isMetric, isValue] at missing

/-- The loop ends at an alert that raises, and only there. -/
theorem thresholdTurn_eq_none : thresholdTurn db alert = none ↔ ThresholdRaises db alert := by
  constructor
  · intro ended
    rw [thresholdTurn] at ended
    by_cases isFor : alert.FiringFor "vnfpm_threshold"
    · rw [if_pos isFor] at ended
      obtain ⟨e, raised, notCaught⟩ := attempt_eq_none.mp ended
      cases turn : thresholdAlert db alert with
      | ok crossing =>
        rw [turn] at raised
        cases raised
      | error e' =>
        rw [turn] at raised
        cases raised
        rcases thresholdAlert_error isFor turn with rfl | rfl | raises
        · exact absurd (by simp) notCaught
        · exact absurd (by simp) notCaught
        · exact raises
    · rw [if_neg isFor] at ended
      cases ended
  · intro raises
    rw [thresholdTurn, if_pos raises.isFor, attempt_eq_none]
    rcases raises.raises with missing | missing | missing | missing | passes
    · exact ⟨.keyError, by rw [thresholdAlert_missing (.inl missing)]; rfl, by simp⟩
    · exact ⟨.keyError, by rw [thresholdAlert_missing (.inr (.inl missing))]; rfl, by simp⟩
    · exact ⟨.keyError, by rw [thresholdAlert_missing (.inr (.inr (.inl missing)))]; rfl, by simp⟩
    · exact ⟨.keyError, by rw [thresholdAlert_missing (.inr (.inr (.inr missing)))]; rfl, by simp⟩
    · obtain ⟨thresholdId, threshold, details, metric, value, passes, inconvertible⟩ := passes
      obtain ⟨e, converted, notSkipped⟩ := convertMeasurementUnit_raises.mpr inconvertible
      refine ⟨e, ?_, ?_⟩
      · rw [thresholdAlert_passes passes, converted]
        rfl
      · intro caught
        rcases List.mem_pair.mp caught with rfl | rfl
        · exact notSkipped rfl
        · exact convertMeasurementUnit_ne converted rfl

/-- What a turn of the loop tells. -/
lemma thresholdTurn_items (read : thresholdTurn db alert = some items) :
    items = [] ∨ ∃ thresholdId threshold details metric value newValue,
      ThresholdPasses db alert thresholdId threshold details metric value ∧
      convertMeasurementUnit metric value = .ok newValue ∧
      items = [threshold.crossing details thresholdId alert.subObjectInstanceId metric newValue] := by
  rw [thresholdTurn] at read
  by_cases isFor : alert.FiringFor "vnfpm_threshold"
  · rw [if_pos isFor] at read
    rcases attempt_eq_some read with mapped | rfl
    · obtain ⟨crossing, ok, rfl⟩ := except_map_ok.mp mapped
      rcases thresholdAlert_ok isFor ok with rfl | ⟨thresholdId, threshold, details, metric, value,
        newValue, passes, converted, rfl⟩
      · exact .inl rfl
      · exact .inr ⟨thresholdId, threshold, details, metric, value, newValue, passes, converted, rfl⟩
    · exact .inl rfl
  · rw [if_neg isFor] at read
    exact .inl (Option.some.inj read).symm

end Tacker.Prometheus
