import Mathlib.Algebra.Order.Ring.Rat
import Tacker.Fm.Alarms

/-!
# Alerts of Prometheus

The entries of `body['alerts']` as the schema lets them through, and the conversion of their values
by `convert_measurement_unit` of `common/prometheus_plugin.py`. The schema has one `receiver_type`
only, so that the tests of it are left out. A label or an annotation that is not there is `none`.
-/

namespace Tacker.Prometheus

/-! ## Values -/

/-- What `float()` makes of a value. -/
inductive Measured where
  | nan
  | negInf
  | num (q : ℚ)
  | posInf
deriving DecidableEq

/-- `annotations['value']`, told by what `float()` and `int()` make of it; `none` stands for a
`ValueError`. -/
structure Value where
  float : Option Measured
  int : Option Int
deriving DecidableEq

/-! ## Alerts -/

/-- `auto_scale_type`. -/
inductive AutoScaleType where
  | scaleOut
  | scaleIn
deriving DecidableEq

/-- An alert, with the labels that the alarms do not need. -/
structure Alert extends Fm.Alert where
  jobId : Option String := none
  thresholdId : Option String := none
  objectInstanceId : Option String := none
  subObjectInstanceId : Option String := none
  metric : Option String := none
  value : Option Value := none
  vnfcInfoId : Option String := none
  autoScaleType : Option AutoScaleType := none
  aspectId : Option String := none
deriving DecidableEq

/-- The test with which the alerts of a batch are chosen. -/
def Alert.FiringFor (alert : Alert) (functionType : String) : Prop :=
  alert.status = .firing ∧ alert.functionType = functionType

instance {alert : Alert} {functionType : String} : Decidable (alert.FiringFor functionType) :=
  inferInstanceAs (Decidable (_ ∧ _))

/-- The exceptions that are raised while an alert is processed. -/
inductive Error where
  | prometheusPluginSkipped
  | pmJobNotExist
  | pmThresholdNotExist
  | vnfInstanceNotFound
  | keyError
  | valueError
  | notImplementedError
  | overflowError
  | reError
deriving DecidableEq

/-- A label or an annotation that is read with `[]`. -/
def Alert.item {α : Type} : Option α → Except Error α
  | none => .error .keyError
  | some a => .ok a

lemma item_ok {α : Type} {x : Option α} {a : α} (ok : Alert.item x = .ok a) : x = some a := by
  cases x with
  | none => cases ok
  | some b =>
    cases ok
    rfl

lemma item_error {α : Type} {x : Option α} {e : Error} :
    Alert.item x = .error e ↔ x = none ∧ e = .keyError := by
  cases x with
  | none => simp [Alert.item, eq_comm]
  | some a => simp [Alert.item]

/-- A `try` block whose exceptions are ignored if they are among those that are caught; `none` stands
for an exception that leaves it. -/
def attempt {β : Type} (caught : List Error) : Except Error (List β) → Option (List β)
  | .ok bs => some bs
  | .error e => if e ∈ caught then some [] else none

lemma attempt_eq_none {β : Type} {caught : List Error} {x : Except Error (List β)} :
    attempt caught x = none ↔ ∃ e, x = .error e ∧ e ∉ caught := by
  cases x with
  | ok bs => simp [attempt]
  | error e => simp [attempt]

lemma attempt_eq_some {β : Type} {caught : List Error} {x : Except Error (List β)} {bs : List β}
    (left : attempt caught x = some bs) : x = .ok bs ∨ bs = [] := by
  cases x with
  | ok bs' => exact .inl (congrArg Except.ok (Option.some.inj left))
  | error e => exact .inr (Option.some.inj (Option.ite_none_right_eq_some.mp left).2).symm

/-! ## Measurement units -/

/-- The text starts with one of the prefixes, and `rest` accepts what follows it. -/
def startsWith (prefixes : List String) (rest : List Char → Bool) (text : String) : Bool :=
  prefixes.any fun pre =>
    pre.toList.isPrefixOf text.toList && rest (text.toList.drop pre.toList.length)

/-- `V(Cpu|Memory|Disk)Usage(Mean|Peak)Vnf\.` -/
def usagePrefixes : List String :=
  ["VCpuUsageMeanVnf.", "VCpuUsagePeakVnf.", "VMemoryUsageMeanVnf.", "VMemoryUsagePeakVnf.",
    "VDiskUsageMeanVnf.", "VDiskUsagePeakVnf."]

/-- `(Byte|Packet)(Incoming|Outgoing)Vnf(IntCp|ExtCp)` -/
def trafficPrefixes : List String :=
  ["ByteIncomingVnfIntCp", "ByteIncomingVnfExtCp", "ByteOutgoingVnfIntCp", "ByteOutgoingVnfExtCp",
    "PacketIncomingVnfIntCp", "PacketIncomingVnfExtCp", "PacketOutgoingVnfIntCp",
    "PacketOutgoingVnfExtCp"]

/-- `.+`: a character that ends no line. -/
def anyCharacter (text : List Char) : Bool :=
  text.head?.any (· ≠ '\n')

/-- `int()` or `float()`. -/
def Value.convert (convertedInt : Bool) (value : Value) : Except Error Measured :=
  match if convertedInt then value.int.map (fun n => Measured.num n) else value.float with
  | some measured => .ok measured
  | none => .error .valueError

/-- `convert_measurement_unit`. -/
def convertMeasurementUnit (metric : String) (value : Value) : Except Error Measured :=
  if startsWith usagePrefixes anyCharacter metric then value.convert false
  else if startsWith trafficPrefixes (fun _ => true) metric then value.convert true
  else .error .prometheusPluginSkipped

/-- The value is of a known metric and cannot be converted. -/
def Inconvertible (metric : String) (value : Value) : Prop :=
  if startsWith usagePrefixes anyCharacter metric = true then value.float = none
  else startsWith trafficPrefixes (fun _ => true) metric = true ∧ value.int = none

lemma convert_error {convertedInt : Bool} {value : Value} {e : Error} :
    value.convert convertedInt = .error e ↔
      e = .valueError ∧ (if convertedInt = true then value.int = none else value.float = none) := by
  obtain ⟨float, int⟩ := value
  cases convertedInt with
  | true =>
    cases int with
    | none => simp [Value.convert, eq_comm]
    | some n => simp [Value.convert]
  | false =>
    cases float with
    | none => simp [Value.convert, eq_comm]
    | some x => simp [Value.convert]

/-- The conversion raises what is not caught exactly for a value that is not convertible. -/
lemma convertMeasurementUnit_raises {metric : String} {value : Value} :
    (∃ e, convertMeasurementUnit metric value = .error e ∧ e ≠ .prometheusPluginSkipped) ↔
      Inconvertible metric value := by
  rw [convertMeasurementUnit, Inconvertible]
  by_cases usage : startsWith usagePrefixes anyCharacter metric = true
  · simp [usage, convert_error]
  · by_cases traffic : startsWith trafficPrefixes (fun _ => true) metric = true
    · simp [usage, traffic, convert_error]
    · simp [usage, traffic]

lemma convertMeasurementUnit_ne {metric : String} {value : Value} {e : Error}
    (raised : convertMeasurementUnit metric value = .error e) : e ≠ .pmThresholdNotExist := by
  rw [convertMeasurementUnit] at raised
  by_cases usage : startsWith usagePrefixes anyCharacter metric = true
  · rw [if_pos usage] at raised
    rw [(convert_error.mp raised).1]
    simp
  · rw [if_neg usage] at raised
    by_cases traffic : startsWith trafficPrefixes (fun _ => true) metric = true
    · rw [if_pos traffic] at raised
      rw [(convert_error.mp raised).1]
      simp
    · rw [if_neg traffic] at raised
      cases raised
      simp

end Tacker.Prometheus
