import Tacker.Basis.Listing
import Tacker.Kubernetes.PodNames
import Tacker.Kubernetes.SyncDb
import Tacker.Prometheus.Alerts

/-!
# Alert rules

`make_rules` of `common/prometheus_plugin.py` for PM jobs and thresholds: the metrics that are asked
for are decomposed, and each of them is turned into one alert rule for each monitored object or
sub-object. `none` stands for an exception. The access to the servers and the upload of the rules
are left out, as is the identifier that is drawn for a rule's `alert`.
-/

namespace Tacker.Rules

open Tacker.Basis
open Tacker.Kubernetes (SetOrder hexDigit alnum)
open Tacker.Prometheus (startsWith usagePrefixes anyCharacter)

/-! ## Instances -/

/-- `computeResource`. -/
structure ComputeResource where
  vimLevelResourceType : Option String := none
  resourceId : Option String := none
deriving DecidableEq

/-- `VnfcResourceInfoV2`. -/
structure VnfcResourceInfo where
  id : String
  computeResource : ComputeResource
deriving DecidableEq

/-- `VnfcInfoV2`. -/
structure VnfcInfo where
  id : String
  vnfcResourceInfoId : Option String := none
deriving DecidableEq

/-- `instantiatedVnfInfo`, whose VNFCs and resources have identifiers of their own. -/
structure InstantiatedVnfInfo where
  metadata : Option (String → Option String) := none
  vnfcResourceInfo : Option (List VnfcResourceInfo) := none
  vnfcInfo : Option (List VnfcInfo) := none
  resources_nodup : ((vnfcResourceInfo.getD []).map VnfcResourceInfo.id).Nodup
  vnfcs_nodup : ((vnfcInfo.getD []).map VnfcInfo.id).Nodup

/-- `VnfInstanceV2`. -/
structure Inst where
  instantiatedVnfInfo : Option InstantiatedVnfInfo := none

/-- `get_namespace`. -/
def Inst.getNamespace (inst : Inst) : String :=
  match inst.instantiatedVnfInfo.bind InstantiatedVnfInfo.metadata with
  | none => "default"
  | some metadata => (metadata "namespace").getD "default"

/-- `get_vnfc_resource_info`. -/
def Inst.getVnfcResourceInfo (inst : Inst) : Option (List VnfcResourceInfo) :=
  inst.instantiatedVnfInfo.bind InstantiatedVnfInfo.vnfcResourceInfo

/-! ## Pods -/

/-- `re.sub` of an expression with `$` after it by the empty text; no match begins with a line
feed. -/
def cutEnd (r : Regex) : List Char → List Char
  | [] => []
  | c :: text =>
    match (r.results ⟨0, c :: text, fun _ => none⟩).find? fun st =>
        st.rest = [] || st.rest = ['\n'] with
    | some st => st.rest
    | none => c :: cutEnd r text

/-- `\-[0-9a-f]{1,10}\-[0-9a-z]{5}`. -/
def podHash : Regex :=
  .seq (.lit '-') (.seq (.oneTo hexDigit 9) (.seq (.lit '-') (.times alnum 4)))

/-- The expression for all pods of the deployment that a pod belongs to. -/
def podPattern (resourceId : String) : String :=
  String.ofList (cutEnd podHash resourceId.toList) ++ "-[0-9a-f]{1,10}-[0-9a-z]{5}$"

/-- The pod of a deployment. -/
def ComputeResource.deploymentPod (resource : ComputeResource) : Option String :=
  if resource.vimLevelResourceType = some "Deployment" then resource.resourceId else none

/-- `get_pod_regexp`. -/
def Inst.getPodRegexp (setOrder : SetOrder) (inst : Inst) : Option String := do
  let resourceInfo ← inst.getVnfcResourceInfo
  if resourceInfo = [] then none
  else
    let pods := resourceInfo.filterMap fun r => r.computeResource.deploymentPod
    let deployments := setOrder.order (pods.map podPattern)
    if deployments = [] then none else some ("(" ++ "|".intercalate deployments ++ ")")

/-- `get_compute_resource_by_sub_obj`. -/
def Inst.getComputeResourceBySubObj (inst : Inst) (subObj : String) : Option ComputeResource := do
  let info ← inst.instantiatedVnfInfo
  let resourceInfo ← info.vnfcResourceInfo
  let vnfcInfos ← info.vnfcInfo
  let vnfcInfo ← vnfcInfos.find? fun x => x.vnfcResourceInfoId.isSome && x.id = subObj
  let resource ← resourceInfo.find? fun x =>
    some x.id = vnfcInfo.vnfcResourceInfoId && x.computeResource.deploymentPod.isSome
  return resource.computeResource

example : cutEnd podHash "test-test1-756757f8f-xcwmt".toList = "test-test1".toList := by decide

/-! ## Rules -/

/-- The types of rules. -/
inductive PmType where
  | pmJob
  | threshold
deriving DecidableEq

/-- What is put into the text of a query. -/
structure PromArgs where
  pod : String
  collectionPeriod : Int
  reportingPeriod : Int
  subObjectInstanceId : String := "*"
  namespaceName : String

/-- What the plugin works with: `prom_config[pm_type]['PromQL']`, the order of its sets, the
instances and the periods for thresholds. -/
structure Env where
  promQl : PmType → String → Option (PromArgs → String)
  setOrder : SetOrder
  insts : String → Inst
  reportingPeriodThreshold : Int
  collectionPeriodThreshold : Int

/-- `REPORTING_PERIOD_MIN`. -/
def reportingPeriodMin : Int := 30

/-- `make_prom_ql`. -/
def makePromQl (env : Env) (pmType : PmType) (target : String) (args : PromArgs) : Option String := do
  let query ← env.promQl pmType target
  return query { args with reportingPeriod := max args.reportingPeriod reportingPeriodMin }

/-- An alert rule. -/
structure Rule where
  type : PmType
  id : String
  objectInstanceId : String
  subObjectInstanceId : Option String
  metric : String
  expr : String
  forPeriod : Int
deriving DecidableEq

/-- `re.sub(r'\..+$', '', metric)`. -/
def targetOf (metric : String) : String :=
  String.ofList (cutEnd (.seq (.lit '.') (.plus (.char (· ≠ '\n')))) metric.toList)

example : targetOf "VCpuUsageMeanVnf.a1" = "VCpuUsageMeanVnf" := by decide

/-! ## Metrics -/

/-- `objectType`. -/
inductive ObjectType where
  | vnf
  | vnfc
  | vnfIntCp
  | vnfExtCp
deriving DecidableEq

/-- The text of an object type. -/
def ObjectType.text : ObjectType → String
  | vnf => "Vnf"
  | vnfc => "Vnfc"
  | vnfIntCp => "VnfIntCp"
  | vnfExtCp => "VnfExtCp"

/-- `objectType in {'Vnf', 'Vnfc'}`. -/
def ObjectType.ofCompute : ObjectType → Bool
  | vnf | vnfc => true
  | vnfIntCp | vnfExtCp => false

/-- `(Byte|Packet)(Incoming|Outgoing)` with an object type after it. -/
def trafficNames (objectType : ObjectType) : List String :=
  ["ByteIncoming" ++ objectType.text, "ByteOutgoing" ++ objectType.text,
    "PacketIncoming" ++ objectType.text, "PacketOutgoing" ++ objectType.text]

/-- `re.sub(r'^V(Cpu|Memory|Disk)Usage(Mean|Peak)Vnf\.', '', metric)`. -/
def objectOf (metric : String) : String :=
  match usagePrefixes.find? fun pre => pre.toList.isPrefixOf metric.toList with
  | some pre => String.ofList (metric.toList.drop pre.toList.length)
  | none => metric

/-! ## PM jobs -/

/-- `VnfPmJobCriteriaV2`. -/
structure PmJobCriteria where
  performanceMetric : Option (List String) := none
  performanceMetricGroup : Option (List String) := none
  collectionPeriod : Int
  reportingPeriod : Int

/-- `PmJobV2`; one with sub-objects has no more than one object, which the API checks. -/
structure PmJob where
  id : String
  objectType : ObjectType
  objectInstanceIds : List String
  subObjectInstanceIds : Option (List String) := none
  criteria : PmJobCriteria
  cardinality : subObjectInstanceIds.getD [] ≠ [] → objectInstanceIds.length ≤ 1

namespace PmJob

variable (env : Env) (job : PmJob)

/-- `decompose_metrics_vnfc`. -/
def decomposeMetricsVnfc : Option (List String) :=
  let asked := (job.criteria.performanceMetric.getD []).filter fun x =>
    startsWith usagePrefixes anyCharacter x && objectOf x ∈ job.objectInstanceIds
  let expanded := job.objectInstanceIds.flatMap fun obj =>
    (job.criteria.performanceMetricGroup.getD []).flatMap fun grp =>
      if grp = "VirtualisedComputeResource" then usagePrefixes.map fun pre => pre ++ obj else []
  let metrics := env.setOrder.order (asked ++ expanded)
  if metrics = [] then none else some metrics

/-- `decompose_metrics_vnfintextcp`. -/
def decomposeMetricsVnfintextcp : Option (List String) :=
  let groupName := if job.objectType = .vnfIntCp then "VnfInternalCp" else "VnfExternalCp"
  let asked := (job.criteria.performanceMetric.getD []).filter
    (startsWith (trafficNames job.objectType) fun _ => true)
  let expanded := (job.criteria.performanceMetricGroup.getD []).flatMap fun grp =>
    if grp = groupName then trafficNames job.objectType else []
  let metrics := env.setOrder.order (asked ++ expanded)
  if metrics = [] then none else some metrics

/-- `decompose_metrics`. -/
def decomposeMetrics : Option (List String) :=
  if job.objectType.ofCompute then job.decomposeMetricsVnfc env
  else job.decomposeMetricsVnfintextcp env

/-- The rule for an object or a sub-object, with the pods that its query is about. -/
def ruleOf (metric obj : String) (subObj : Option String) (args : PromArgs) : Option Rule := do
  let expr ← makePromQl env .pmJob (targetOf metric) args
  return ⟨.pmJob, job.id, obj, subObj, metric, expr, job.criteria.collectionPeriod⟩

/-- `_make_rules_for_each_obj`. -/
def makeRulesForEachObj (metric : String) : Option (List Rule) :=
  (job.objectInstanceIds.mapM fun obj =>
    match (env.insts obj).getPodRegexp env.setOrder with
    | none => some []
    | some podsRegexp => do
      let rule ← job.ruleOf env metric obj none {
        pod := podsRegexp
        collectionPeriod := job.criteria.collectionPeriod
        reportingPeriod := job.criteria.reportingPeriod
        namespaceName := (env.insts obj).getNamespace }
      return [rule]).map List.flatten

/-- `_make_rules_for_each_sub_obj`; there is no first object in an empty list. -/
def makeRulesForEachSubObj (metric : String) : Option (List Rule) := do
  let obj ← job.objectInstanceIds.head?
  let inst := env.insts obj
  if inst.getVnfcResourceInfo.getD [] = [] then return []
  else if job.objectType.ofCompute then
    ((job.subObjectInstanceIds.getD []).mapM fun subObj =>
      match (inst.getComputeResourceBySubObj subObj).bind ComputeResource.resourceId with
      | none => some []
      | some resourceId => do
        let rule ← job.ruleOf env metric obj (some subObj) {
          pod := resourceId
          collectionPeriod := job.criteria.collectionPeriod
          reportingPeriod := job.criteria.reportingPeriod
          namespaceName := inst.getNamespace }
        return [rule]).map List.flatten
  else
    match inst.getPodRegexp env.setOrder with
    | none => return []
    | some podsRegexp =>
      (job.subObjectInstanceIds.getD []).mapM fun subObj =>
        job.ruleOf env metric obj (some subObj) {
          pod := podsRegexp
          collectionPeriod := job.criteria.collectionPeriod
          reportingPeriod := job.criteria.reportingPeriod
          subObjectInstanceId := subObj
          namespaceName := inst.getNamespace }

/-- `_make_rules`. -/
def makeRulesFor (metric : String) : Option (List Rule) :=
  if job.subObjectInstanceIds.getD [] = [] then job.makeRulesForEachObj env metric
  else job.makeRulesForEachSubObj env metric

/-- `make_rules`. -/
def makeRules : Option (List Rule) := do
  let metrics ← job.decomposeMetrics env
  let rules ← metrics.mapM (job.makeRulesFor env)
  if rules.flatten = [] then none else some rules.flatten

end PmJob

/-! ## Thresholds -/

/-- `ThresholdV2`, with the metric of its criteria. -/
structure Threshold where
  id : String
  objectType : ObjectType
  objectInstanceId : String
  subObjectInstanceIds : Option (List String) := none
  performanceMetric : String

namespace Threshold

variable (env : Env) (threshold : Threshold)

/-- `decompose_metrics_vnfc`. -/
def decomposeMetricsVnfc : Option (List String) :=
  if startsWith usagePrefixes anyCharacter threshold.performanceMetric = true ∧
      objectOf threshold.performanceMetric = threshold.objectInstanceId then
    some [threshold.performanceMetric]
  else none

/-- `decompose_metrics_vnfintextcp`. -/
def decomposeMetricsVnfintextcp : Option (List String) :=
  if startsWith (trafficNames threshold.objectType) (fun _ => true) threshold.performanceMetric then
    some [threshold.performanceMetric]
  else none

/-- `decompose_metrics`. -/
def decomposeMetrics : Option (List String) :=
  if threshold.objectType.ofCompute then threshold.decomposeMetricsVnfc
  else threshold.decomposeMetricsVnfintextcp

/-- The rule for the object or a sub-object, with the pods that its query is about. -/
def ruleOf (metric : String) (subObj : Option String) (args : PromArgs) : Option Rule := do
  let expr ← makePromQl env .threshold (targetOf metric) args
  return ⟨.threshold, threshold.id, threshold.objectInstanceId, subObj, metric, expr,
    env.collectionPeriodThreshold⟩

/-- `_make_rules_for_each_obj`: what `format` makes of no pods is `None`. -/
def makeRulesForEachObj (metric : String) : Option (List Rule) := do
  let inst := env.insts threshold.objectInstanceId
  let rule ← threshold.ruleOf env metric none {
    pod := (inst.getPodRegexp env.setOrder).getD "None"
    collectionPeriod := env.collectionPeriodThreshold
    reportingPeriod := env.reportingPeriodThreshold
    namespaceName := inst.getNamespace }
  return [rule]

/-- `_make_rules_for_each_sub_obj`. -/
def makeRulesForEachSubObj (metric : String) : Option (List Rule) :=
  let inst := env.insts threshold.objectInstanceId
  if threshold.objectType.ofCompute then
    ((threshold.subObjectInstanceIds.getD []).mapM fun subObj =>
      match (inst.getComputeResourceBySubObj subObj).bind ComputeResource.resourceId with
      | none => some []
      | some resourceId => do
        let rule ← threshold.ruleOf env metric (some subObj) {
          pod := resourceId
          collectionPeriod := env.collectionPeriodThreshold
          reportingPeriod := env.reportingPeriodThreshold
          namespaceName := inst.getNamespace }
        return [rule]).map List.flatten
  else
    match inst.getPodRegexp env.setOrder with
    | none => some []
    | some podsRegexp =>
      (threshold.subObjectInstanceIds.getD []).mapM fun subObj =>
        threshold.ruleOf env metric (some subObj) {
          pod := podsRegexp
          collectionPeriod := env.collectionPeriodThreshold
          reportingPeriod := env.reportingPeriodThreshold
          subObjectInstanceId := subObj
          namespaceName := inst.getNamespace }

/-- `_make_rules`. -/
def makeRulesFor (metric : String) : Option (List Rule) :=
  if threshold.subObjectInstanceIds.getD [] = [] then threshold.makeRulesForEachObj env metric
  else threshold.makeRulesForEachSubObj env metric

/-- `make_rules`. -/
def makeRules : Option (List Rule) := do
  let metrics ← threshold.decomposeMetrics
  let rules ← metrics.mapM (threshold.makeRulesFor env)
  if rules.flatten = [] then none else some rules.flatten

end Threshold

end Tacker.Rules
