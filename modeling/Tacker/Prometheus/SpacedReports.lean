import Mathlib.Algebra.Order.Group.Int
import Mathlib.Algebra.Order.Group.Unbundled.Abs
import Tacker.Basis.Attempt
import Tacker.Basis.Collected
import Tacker.Basis.Run
import Tacker.Prometheus.Alerts

/-!
# Alerts for PM jobs

`PrometheusPluginPm` of `common/prometheus_plugin.py` and `store_job_info` of
`conductor/vnfpm_driver_v2.py`. Times are microseconds, as `datetime` has them. Generated
identifiers, links and notifications are left out.
-/

namespace Tacker.Prometheus

open Tacker.Basis

/-! ## Data -/

/-- `VnfPmJobCriteriaV2`, with the attributes that are read here. -/
structure PmJobCriteria where
  reportingPeriod : Int
  reportingBoundary : Option Int := none
deriving DecidableEq

/-- `PmJobV2`; a list that is not set is empty. -/
structure PmJob where
  objectType : String
  objectInstanceIds : List String
  subObjectInstanceIds : List String := []
  criteria : PmJobCriteria
deriving DecidableEq

/-- `VnfPmReportV2_Entries_PerformanceValues`. -/
structure PerformanceValue where
  timeStamp : Int
  value : Measured
deriving DecidableEq

/-- `VnfPmReportV2_Entries`. -/
structure Entry where
  objectType : String
  objectInstanceId : String
  subObjectInstanceId : Option String
  performanceMetric : String
  performanceValues : List PerformanceValue
deriving DecidableEq

/-- `PerformanceReportV2`. -/
structure PerformanceReport where
  jobId : String
  entries : List Entry
deriving DecidableEq

/-- The PM jobs and the reports of the database. -/
structure PmDatabase where
  jobs : String → Option PmJob
  reports : List PerformanceReport := []

/-! ## The alert -/

/-- The first and the last moment of a `datetime`. -/
def datetimeMin : Int := -62135596800000000

def datetimeMax : Int := 253402300799999999

/-- `time + timedelta(seconds=seconds)`. -/
def addSeconds (time seconds : Int) : Except Error Int :=
  if datetimeMin ≤ time + seconds * 1000000 ∧ time + seconds * 1000000 ≤ datetimeMax then
    .ok (time + seconds * 1000000)
  else .error .overflowError

/-- The entry is counted for the object, sub-object and metric. -/
def Entry.ofSameObject (objectInstanceId : String) (subObjectInstanceId : Option String)
    (metric : String) (entry : Entry) : Bool :=
  entry.objectInstanceId = objectInstanceId &&
    (entry.subObjectInstanceId.isNone || entry.subObjectInstanceId = subObjectInstanceId) &&
    entry.performanceMetric = metric

/-- `get_datetime_of_latest_report`. -/
def getDatetimeOfLatestReport (db : PmDatabase) (jobId objectInstanceId : String)
    (subObjectInstanceId : Option String) (metric : String) : Except Error (Option Int) :=
  let report := (db.reports.filter fun r => r.jobId = jobId).flatMap PerformanceReport.entries
  match report.filter (Entry.ofSameObject objectInstanceId subObjectInstanceId metric) with
  | [] => .ok none
  | entries =>
    match ((entries.flatMap Entry.performanceValues).map PerformanceValue.timeStamp).max? with
    | none => .error .valueError
    | some latest => .ok (some latest)

/-- The boundary of the job is over. -/
def PmJob.expired (job : PmJob) (now : Int) : Bool :=
  job.criteria.reportingBoundary.any (· < now)

/-- `filter_alert_by_time`; `margin` is `reporting_period_margin`. -/
def filterAlertByTime (margin : Int) (db : PmDatabase) (jobId : String) (job : PmJob) (now : Int)
    (objectInstanceId : String) (subObjectInstanceId : Option String) (metric : String) :
    Except Error Unit :=
  if job.expired now then .error .prometheusPluginSkipped
  else do
    match ← getDatetimeOfLatestReport db jobId objectInstanceId subObjectInstanceId metric with
    | none => .ok ()
    | some reportDate =>
      let next ← addSeconds reportDate (job.criteria.reportingPeriod - margin)
      if next ≥ now then .error .prometheusPluginSkipped else .ok ()

/-- `valid_alert`. -/
def PmJob.validAlert (job : PmJob) (objectInstanceId : String)
    (subObjectInstanceId : Option String) : Bool :=
  objectInstanceId ∈ job.objectInstanceIds &&
    subObjectInstanceId.all fun id => id = "" || id ∈ job.subObjectInstanceIds

/-- What an alert contributes to the reports: the job and the entry. -/
abbrev Contribution := String × Entry

/-- The `try` block of `_alert`. -/
def pmAlert (margin : Int) (db : PmDatabase) (now : Int) (alert : Alert) :
    Except Error Contribution := do
  let pmJobId ← Alert.item alert.jobId
  let objectInstanceId ← Alert.item alert.objectInstanceId
  let metric ← Alert.item alert.metric
  let value ← Alert.item alert.value
  match db.jobs pmJobId with
  | none => .error .pmJobNotExist
  | some pmJob =>
    filterAlertByTime margin db pmJobId pmJob now objectInstanceId alert.subObjectInstanceId metric
    if pmJob.validAlert objectInstanceId alert.subObjectInstanceId then
      let value ← convertMeasurementUnit metric value
      .ok (pmJobId, {
        objectType := pmJob.objectType
        objectInstanceId := objectInstanceId
        subObjectInstanceId := alert.subObjectInstanceId
        performanceMetric := metric
        performanceValues := [⟨now, value⟩] })
    else .error .prometheusPluginSkipped

/-- One turn of the loop of `_alert`; `none` stands for an exception that ends it. -/
def pmTurn (margin : Int) (db : PmDatabase) (now : Int) (alert : Alert) :
    Option (List Contribution) :=
  if alert.functionType ≠ "vnfpm" then some []
  else attempt [.prometheusPluginSkipped] ((pmAlert margin db now alert).map fun entry => [entry])

/-! ## The reports -/

/-- `result[pm_job_id]` gets one more entry. -/
def addEntry (result : List PerformanceReport) (contribution : Contribution) :
    List PerformanceReport :=
  match result with
  | [] => [⟨contribution.1, [contribution.2]⟩]
  | r :: rs =>
    if r.jobId = contribution.1 then ⟨r.jobId, r.entries ++ [contribution.2]⟩ :: rs
    else r :: addEntry rs contribution

/-- The entries by their jobs, in the order of `result.items()`. -/
def reportsOf (contributions : List Contribution) : List PerformanceReport :=
  contributions.foldl addEntry []

/-- One turn of the loop of `store_job_info`: the report is created before its job is looked up. -/
def storeReport (db : PmDatabase) (report : PerformanceReport) : PmDatabase × Bool :=
  ({ db with reports := db.reports ++ [report] }, (db.jobs report.jobId).isSome)

/-- The handler in the API processes and the conductor. -/
def pmCollector (margin : Int) :
    Collector PmDatabase Int Alert Contribution PerformanceReport where
  read := pmTurn margin
  pack := reportsOf
  store := storeReport

/-!
## The spacing of the reports of a PM job

Batches of alerts, the conductor that stores their values later, and others that delete jobs and
reports and create jobs. The period is checked against the stored values; the values that are still
on their way to the conductor count as well, which nothing checks.
-/

/-! ## Values -/

/-- A value of a report, known by what it is measured for and its time. -/
structure ReportedValue where
  jobId : String
  objectInstanceId : String
  subObjectInstanceId : Option String
  performanceMetric : String
  timeStamp : Int
deriving DecidableEq

/-- The values are of the same job, object, sub-object and metric. -/
def ReportedValue.SameMetric (x y : ReportedValue) : Prop :=
  x.jobId = y.jobId ∧ x.objectInstanceId = y.objectInstanceId ∧
    x.subObjectInstanceId = y.subObjectInstanceId ∧ x.performanceMetric = y.performanceMetric

/-- The values of an entry. -/
def valuesOf (contribution : Contribution) : List ReportedValue :=
  contribution.2.performanceValues.map fun value => {
    jobId := contribution.1
    objectInstanceId := contribution.2.objectInstanceId
    subObjectInstanceId := contribution.2.subObjectInstanceId
    performanceMetric := contribution.2.performanceMetric
    timeStamp := value.timeStamp }

/-- The entries of a report, with its job. -/
def PerformanceReport.contributions (report : PerformanceReport) : List Contribution :=
  report.entries.map fun entry => (report.jobId, entry)

/-- The values that are stored. -/
def PmDatabase.values (db : PmDatabase) : List ReportedValue :=
  (db.reports.flatMap PerformanceReport.contributions).flatMap valuesOf

/-! ## The system -/

/-- The API processes and the conductor. -/
abbrev PmState := Collector.State PmDatabase Int Alert Contribution PerformanceReport

abbrev PmEvent := Collector.Event PmDatabase Int Alert

/-- What others do: they delete jobs and reports, and create jobs under new identifiers. -/
structure Others (s : PmState) (db : PmDatabase) : Prop where
  reports : db.reports.Sublist s.db.reports
  jobs : ∀ id job, db.jobs id = some job →
    s.db.jobs id = some job ∨ ∀ contribution ∈ s.history, contribution.1 ≠ id

/-- One step. -/
def PmStep (margin : Int) (s : PmState) (e : PmEvent) (t : PmState) : Prop :=
  (pmCollector margin).step s e = some t ∧ ∀ db, e = .change db → Others s db

/-- Nothing is reported yet. -/
def PmState.initial (jobs : String → Option PmJob) : PmState where
  db := { jobs := jobs }

/-- The values that are collected or cast, and not stored yet. -/
def PmState.onTheWay (s : PmState) : List ReportedValue :=
  (Collector.pending PerformanceReport.contributions s).flatMap valuesOf

/-! ## The property -/

/-- Values of the same metric are more than the period without the margin apart. -/
def Spaced (margin : Int) (jobs : String → Option PmJob) (x y : ReportedValue) : Prop :=
  x.SameMetric y → ∀ job, jobs x.jobId = some job →
    (job.criteria.reportingPeriod - margin) * 1000000 < |x.timeStamp - y.timeStamp|

/-- The value is not after the boundary of its job. -/
def Bounded (jobs : String → Option PmJob) (x : ReportedValue) : Prop :=
  ∀ job, jobs x.jobId = some job → ∀ boundary, job.criteria.reportingBoundary = some boundary →
    x.timeStamp ≤ boundary

/-- The values are spaced, and none is after the boundary. -/
structure WellReported (margin : Int) (jobs : String → Option PmJob) (values : List ReportedValue) :
    Prop where
  spaced : values.Pairwise (Spaced margin jobs)
  bounded : ∀ x ∈ values, Bounded jobs x

/-- The alert passes the checks of `_alert` for the job, against what is stored. -/
structure Passes (margin : Int) (db : PmDatabase) (now : Int) (alert : Alert) (jobId : String)
    (job : PmJob) (objectInstanceId metric : String) : Prop where
  isFunction : alert.functionType = "vnfpm"
  isJob : alert.jobId = some jobId
  isObject : alert.objectInstanceId = some objectInstanceId
  isMetric : alert.metric = some metric
  found : db.jobs jobId = some job
  inTime : filterAlertByTime margin db jobId job now objectInstanceId alert.subObjectInstanceId
    metric = .ok ()
  monitored : job.validAlert objectInstanceId alert.subObjectInstanceId = true

/-- Before an alert is read that passes the checks: no value of the same job, object, sub-object and
metric that is still on its way is so near that the check would have refused the alert. -/
def NoneNear (margin : Int) (p : PmState × PmEvent) : Prop :=
  ∀ i now alert todo collected, p.2 = .read i →
    p.1.batches[i]? = some ⟨now, alert :: todo, collected⟩ →
    ∀ jobId job objectInstanceId metric,
      Passes margin p.1.db now alert jobId job objectInstanceId metric →
      ∀ x ∈ p.1.onTheWay, x.jobId = jobId → x.objectInstanceId = objectInstanceId →
        x.subObjectInstanceId = alert.subObjectInstanceId → x.performanceMetric = metric →
        (job.criteria.reportingPeriod - margin) * 1000000 < |now - x.timeStamp|

/-! ## What an alert contributes -/

variable {margin now : Int} {db : PmDatabase} {alert : Alert} {jobId objectInstanceId metric : String}
  {job : PmJob} {sub : Option String} {items : List Contribution} {s t : PmState} {e : PmEvent}

/-- A turn of the loop contributes nothing, or one value at the time of the batch for an alert that
passes the checks. -/
lemma pmTurn_items (read : pmTurn margin db now alert = some items) :
    items = [] ∨ ∃ jobId job objectInstanceId metric,
      Passes margin db now alert jobId job objectInstanceId metric ∧
      items.map Prod.fst = [jobId] ∧
      items.flatMap valuesOf = [⟨jobId, objectInstanceId, alert.subObjectInstanceId, metric, now⟩] := by
  rw [pmTurn] at read
  by_cases other : alert.functionType ≠ "vnfpm"
  · rw [if_pos other] at read
    exact .inl (Option.some.inj read).symm
  · rw [if_neg other] at read
    rcases attempt_eq_some read with mapped | rfl
    · obtain ⟨contribution, turn, rfl⟩ := except_map_ok.mp mapped
      obtain ⟨jobId, isJobId, turn⟩ := bind_ok.mp turn
      obtain ⟨objectInstanceId, isObject, turn⟩ := bind_ok.mp turn
      obtain ⟨metric, isMetric, turn⟩ := bind_ok.mp turn
      obtain ⟨value, -, turn⟩ := bind_ok.mp turn
      cases found : db.jobs jobId with
      | none =>
        simp only [found] at turn
        cases turn
      | some job =>
        simp only [found] at turn
        obtain ⟨_, inTime, turn⟩ := bind_ok.mp turn
        by_cases valid : job.validAlert objectInstanceId alert.subObjectInstanceId = true
        · rw [if_pos valid] at turn
          obtain ⟨measured, -, turn⟩ := bind_ok.mp turn
          cases turn
          exact .inr ⟨jobId, job, objectInstanceId, metric, ⟨not_not.mp other, item_ok isJobId,
            item_ok isObject, item_ok isMetric, found, inTime, valid⟩, rfl, rfl⟩
        · rw [if_neg valid] at turn
          cases turn
    · exact .inl rfl

/-- A value that the look-up counts is not after the latest one. -/
lemma le_latest {latest : Option Int}
    (found : getDatetimeOfLatestReport db jobId objectInstanceId sub metric = .ok latest)
    {x : ReportedValue} (mem : x ∈ db.values) (isJob : x.jobId = jobId)
    (isObject : x.objectInstanceId = objectInstanceId) (isSub : x.subObjectInstanceId = sub)
    (isMetric : x.performanceMetric = metric) : ∃ l, latest = some l ∧ x.timeStamp ≤ l := by
  obtain ⟨contribution, mem, isValue⟩ := List.mem_flatMap.mp mem
  obtain ⟨report, inReports, mem⟩ := List.mem_flatMap.mp mem
  obtain ⟨entry, inEntries, rfl⟩ := List.mem_map.mp mem
  obtain ⟨value, inValues, rfl⟩ := List.mem_map.mp isValue
  have counted : entry ∈ ((db.reports.filter fun r => r.jobId = jobId).flatMap
      PerformanceReport.entries).filter (Entry.ofSameObject objectInstanceId sub metric) := by
    apply List.mem_filter.mpr
    refine ⟨List.mem_flatMap.mpr ⟨report, List.mem_filter.mpr ⟨inReports, ?_⟩, inEntries⟩, ?_⟩
    · exact decide_eq_true isJob
    · simp only at isObject isSub isMetric
      simp [Entry.ofSameObject, isObject, isSub, isMetric]
  rw [getDatetimeOfLatestReport] at found
  generalize List.filter _ _ = entries at counted found
  cases entries with
  | nil => cases counted
  | cons first rest =>
    have isTime : value.timeStamp ∈ ((first :: rest).flatMap Entry.performanceValues).map
        PerformanceValue.timeStamp :=
      List.mem_map_of_mem (List.mem_flatMap.mpr ⟨entry, counted, inValues⟩)
    simp only at found
    cases isMax : (((first :: rest).flatMap Entry.performanceValues).map
        PerformanceValue.timeStamp).max? with
    | none =>
      rw [isMax] at found
      cases found
    | some l =>
      rw [isMax] at found
      cases found
      exact ⟨l, rfl, (List.max?_le_iff isMax).mp (le_refl l) _ isTime⟩

/-- An alert that passes the checks comes before the boundary, and after the period of every stored
value of the same metric. -/
lemma filterAlertByTime_ok
    (ok : filterAlertByTime margin db jobId job now objectInstanceId sub metric = .ok ()) :
    job.expired now = false ∧ ∀ x ∈ db.values, x.jobId = jobId →
      x.objectInstanceId = objectInstanceId → x.subObjectInstanceId = sub →
      x.performanceMetric = metric →
      x.timeStamp + (job.criteria.reportingPeriod - margin) * 1000000 < now := by
  rw [filterAlertByTime] at ok
  cases expired : job.expired now with
  | true =>
    rw [expired, if_pos rfl] at ok
    cases ok
  | false =>
    rw [expired, if_neg Bool.false_ne_true] at ok
    obtain ⟨latest, found, ok⟩ := bind_ok.mp ok
    refine ⟨rfl, fun x mem isJob isObject isSub isMetric => ?_⟩
    obtain ⟨l, rfl, le⟩ := le_latest found mem isJob isObject isSub isMetric
    obtain ⟨next, added, ok⟩ := bind_ok.mp ok
    have notLe : ¬ next ≥ now := by
      intro ge
      rw [if_pos ge] at ok
      cases ok
    have isNext : next = l + (job.criteria.reportingPeriod - margin) * 1000000 := by
      rw [addSeconds] at added
      by_cases inRange : datetimeMin ≤ l + (job.criteria.reportingPeriod - margin) * 1000000 ∧
          l + (job.criteria.reportingPeriod - margin) * 1000000 ≤ datetimeMax
      · rw [if_pos inRange] at added
        cases added
        rfl
      · rw [if_neg inRange] at added
        cases added
    omega

/-! ## What others keep -/

lemma ReportedValue.SameMetric.symm {x y : ReportedValue} (same : x.SameMetric y) :
    y.SameMetric x :=
  ⟨same.1.symm, same.2.1.symm, same.2.2.1.symm, same.2.2.2.symm⟩

variable {jobs jobs' : String → Option PmJob} {vs vs' : List ReportedValue}

lemma Spaced.symm {x y : ReportedValue} (spaced : Spaced margin jobs x y) :
    Spaced margin jobs y x := by
  intro same job found
  rw [abs_sub_comm]
  apply spaced same.symm job
  rw [same.symm.1]
  exact found

lemma WellReported.subperm (well : WellReported margin jobs vs)
    (subperm : vs'.Subperm vs) : WellReported margin jobs vs' := by
  obtain ⟨middle, perm, sublist⟩ := subperm
  have spaced := well.spaced.sublist sublist
  refine ⟨?_, fun x mem => well.bounded x (sublist.subset (perm.mem_iff.mpr mem))⟩
  exact (perm.pairwise_iff fun spaced => spaced.symm).mp spaced

/-- Jobs that nothing is reported of do not matter. -/
lemma WellReported.of_jobs (well : WellReported margin jobs vs)
    (kept : ∀ x ∈ vs, ∀ job, jobs' x.jobId = some job → jobs x.jobId = some job) :
    WellReported margin jobs' vs := by
  constructor
  · apply well.spaced.imp_of_mem
    intro x y mem _ spaced same job found
    exact spaced same job (kept x mem job found)
  · intro x mem job found
    exact well.bounded x mem job (kept x mem job found)

/-! ## The invariant -/

/-- The entries of a job are added to its report. -/
lemma addEntry_perm (result : List PerformanceReport) (contribution : Contribution) :
    ((addEntry result contribution).flatMap PerformanceReport.contributions).Perm
      (result.flatMap PerformanceReport.contributions ++ [contribution]) := by
  induction result with
  | nil => exact List.Perm.refl _
  | cons r rs ih =>
    rw [addEntry]
    by_cases same : r.jobId = contribution.1
    · rw [if_pos same]
      simp only [List.flatMap_cons, PerformanceReport.contributions, List.map_append, List.map_cons,
        List.map_nil, List.append_assoc, same]
      apply List.Perm.append_left
      exact List.perm_append_comm
    · rw [if_neg same, List.flatMap_cons, List.flatMap_cons, List.append_assoc]
      exact ih.append_left _

lemma reportsOf_perm (contributions : List Contribution) :
    ((reportsOf contributions).flatMap PerformanceReport.contributions).Perm contributions := by
  have added (result : List PerformanceReport) :
      ((contributions.foldl addEntry result).flatMap PerformanceReport.contributions).Perm
        (result.flatMap PerformanceReport.contributions ++ contributions) := by
    induction contributions generalizing result with
    | nil =>
      rw [List.append_nil]
      exact List.Perm.refl _
    | cons contribution rest ih =>
      apply (ih _).trans
      rw [List.append_cons _ contribution rest]
      exact (addEntry_perm result contribution).append_right rest
  exact added []

/-- The values that are stored or on their way. -/
def PmState.allValues (s : PmState) : List ReportedValue :=
  s.db.values ++ s.onTheWay

lemma subperm_flatMap {α β : Type} {l l' : List α} (subperm : l.Subperm l') (f : α → List β) :
    (l.flatMap f).Subperm (l'.flatMap f) := by
  obtain ⟨middle, perm, sublist⟩ := subperm
  exact ⟨middle.flatMap f, perm.flatMap_right f, sublist.flatMap f⟩

/-- What is stored or on its way is well reported, and was collected. -/
structure Reporting (margin : Int) (s : PmState) : Prop where
  well : WellReported margin s.db.jobs s.allValues
  collected : ∀ x ∈ s.allValues, ∃ contribution ∈ s.history, contribution.1 = x.jobId

lemma Reporting.subperm (ok : Reporting margin s) (jobs : t.db.jobs = s.db.jobs)
    (history : t.history = s.history) (subperm : t.allValues.Subperm s.allValues) :
    Reporting margin t := by
  constructor
  · rw [jobs]
    exact ok.well.subperm subperm
  · intro x mem
    rw [history]
    exact ok.collected x (subperm.subset mem)

/-- The value that is read is spaced from those that are stored, which is checked, and from those on
their way, which is assumed. -/
lemma spaced_new {now : Int} {alert : Alert} {todo : List Alert} {collected : List Contribution}
    {i : Nat} (none : NoneNear margin (s, .read i))
    (here : s.batches[i]? = some ⟨now, alert :: todo, collected⟩)
    (passes : Passes margin s.db now alert jobId job objectInstanceId metric) {x : ReportedValue}
    (mem : x ∈ s.allValues) :
    Spaced margin s.db.jobs x
      ⟨jobId, objectInstanceId, alert.subObjectInstanceId, metric, now⟩ := by
  intro same job' found
  obtain ⟨isJob, isObject, isSub, isMetric⟩ := same
  rw [isJob, passes.found] at found
  obtain rfl := Option.some.inj found
  rcases List.mem_append.mp mem with stored | moving
  · have before := (filterAlertByTime_ok passes.inTime).2 x stored isJob isObject isSub isMetric
    show _ < |x.timeStamp - now|
    rw [abs_sub_comm]
    apply lt_of_lt_of_le _ (le_abs_self _)
    omega
  · show _ < |x.timeStamp - now|
    rw [abs_sub_comm]
    exact none i now alert todo collected rfl here jobId job objectInstanceId metric passes x moving
      isJob isObject isSub isMetric

/-- The time of the batch is not after the boundary of a job that has not expired. -/
lemma bounded_new (passes : Passes margin s.db now alert jobId job objectInstanceId metric) :
    Bounded s.db.jobs ⟨jobId, objectInstanceId, alert.subObjectInstanceId, metric, now⟩ := by
  intro job' found boundary isBoundary
  rw [passes.found] at found
  obtain rfl := Option.some.inj found
  have notExpired := (filterAlertByTime_ok passes.inTime).1
  rw [PmJob.expired, isBoundary] at notExpired
  exact not_lt.mp (of_decide_eq_false notExpired)

/-- A new value is on its way. -/
lemma Reporting.read {now : Int} {alert : Alert} {todo : List Alert} {collected : List Contribution}
    {i : Nat} (ok : Reporting margin s) (none : NoneNear margin (s, .read i))
    (here : s.batches[i]? = some ⟨now, alert :: todo, collected⟩)
    (passes : Passes margin s.db now alert jobId job objectInstanceId metric)
    (db : t.db = s.db) (history : t.history = s.history ++ items)
    (isJob : items.map Prod.fst = [jobId])
    (perm : t.allValues.Perm (s.allValues ++
      [⟨jobId, objectInstanceId, alert.subObjectInstanceId, metric, now⟩])) :
    Reporting margin t := by
  constructor
  · rw [db]
    apply WellReported.subperm _ perm.subperm
    constructor
    · rw [List.pairwise_append]
      refine ⟨ok.well.spaced, List.pairwise_singleton _ _, fun x mem y mem' => ?_⟩
      rw [List.mem_singleton.mp mem']
      exact spaced_new none here passes mem
    · intro x mem
      rcases List.mem_append.mp mem with old | new
      · exact ok.well.bounded x old
      · rw [List.mem_singleton.mp new]
        exact bounded_new passes
  · intro x mem
    rw [history]
    rcases List.mem_append.mp (perm.mem_iff.mp mem) with old | new
    · obtain ⟨contribution, mem, same⟩ := ok.collected x old
      exact ⟨contribution, List.mem_append_left _ mem, same⟩
    · rw [List.mem_singleton.mp new]
      have mem : jobId ∈ items.map Prod.fst := by
        rw [isJob]
        exact List.mem_singleton.mpr rfl
      obtain ⟨contribution, mem, same⟩ := List.mem_map.mp mem
      exact ⟨contribution, List.mem_append_right _ mem, same⟩

/-- What others do leaves the reports spaced. -/
lemma Reporting.change (ok : Reporting margin s) {db : PmDatabase} (others : Others s db) :
    Reporting margin { s with db := db } := by
  have subperm : (PmState.allValues { s with db := db }).Subperm s.allValues := by
    apply List.Sublist.subperm
    apply List.Sublist.append_right
    exact (others.reports.flatMap _).flatMap _
  constructor
  · apply (ok.well.subperm subperm).of_jobs
    intro x mem job found
    rcases others.jobs x.jobId job found with old | fresh
    · exact old
    · obtain ⟨contribution, isIn, same⟩ := ok.collected x (subperm.subset mem)
      exact absurd same (fresh contribution isIn)
  · intro x mem
    exact ok.collected x (subperm.subset mem)

/-- One step. -/
lemma Reporting.step (ok : Reporting margin s) (none : NoneNear margin (s, e))
    (step : PmStep margin s e t) : Reporting margin t := by
  obtain ⟨step, others⟩ := step
  have moves := Collector.moves_of_step step
  have handles : (pmCollector margin).Handles PerformanceReport.contributions s e t :=
    moves.handles reportsOf_perm
  cases handles with
  | read here read db history perm =>
    have perm := perm.flatMap_right valuesOf
    rw [List.flatMap_append] at perm
    rcases pmTurn_items read with rfl | ⟨jobId, job, objectInstanceId, metric, passes, isJob, isValue⟩
    · rw [List.append_nil] at history
      apply ok.subperm (by rw [db]) history
      rw [PmState.allValues, PmState.allValues, db]
      rw [List.flatMap_nil, List.append_nil] at perm
      exact (perm.append_left _).subperm
    · apply ok.read none here passes db history isJob
      rw [isValue] at perm
      rw [PmState.allValues, PmState.allValues, db, List.append_assoc]
      exact perm.append_left _
  | @store i report t db history subperm =>
    have jobs : t.db.jobs = s.db.jobs := by
      rw [db]
      rfl
    apply ok.subperm jobs history
    have stored : t.db.values = s.db.values ++ report.contributions.flatMap valuesOf := by
      rw [db]
      show ((s.db.reports ++ [report]).flatMap _).flatMap _ = _
      rw [List.flatMap_append, List.flatMap_append, List.flatMap_singleton]
      rfl
    rw [PmState.allValues, PmState.allValues, stored, List.append_assoc]
    apply (List.subperm_append_left _).mpr
    have subperm := subperm_flatMap subperm valuesOf
    rw [List.flatMap_append] at subperm
    exact subperm
  | change db => exact ok.change (others db rfl)
  | move db history subperm =>
    apply ok.subperm (by rw [db]) history
    rw [PmState.allValues, PmState.allValues, db]
    apply (List.subperm_append_left _).mpr
    exact subperm_flatMap subperm valuesOf

/-! ## Runs -/

/-- A job with a period of a minute. -/
def minuteJob : PmJob where
  objectType := "Vnf"
  objectInstanceIds := ["inst"]
  criteria := { reportingPeriod := 60 }

/-- The only job. -/
def oneJob (id : String) : Option PmJob :=
  if id = "job" then some minuteJob else none

/-- An alert for it. -/
def usageAlert : Alert where
  status := .firing
  functionType := "vnfpm"
  vnfInstanceId := none
  pod := none
  perceivedSeverity := none
  eventType := none
  faultType := none
  probableCause := none
  faultDetails := none
  startsAt := none
  endsAt := none
  fingerprint := "fingerprint"
  jobId := some "job"
  objectInstanceId := some "inst"
  metric := some "VCpuUsageMeanVnf.inst"
  value := some ⟨some (.num 50), none⟩

/-- Its report. -/
def usageContribution : Contribution :=
  ("job", {
    objectType := "Vnf"
    objectInstanceId := "inst"
    subObjectInstanceId := none
    performanceMetric := "VCpuUsageMeanVnf.inst"
    performanceValues := [⟨0, .num 50⟩] })

lemma no_change {s : PmState} {e : PmEvent} (ne : ∀ db, e ≠ .change db) (db : PmDatabase)
    (eq : e = .change db) : Others s db :=
  absurd eq (ne db)

end Tacker.Prometheus
