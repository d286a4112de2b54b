import Tacker.Rules.Pairs

/-!
# One rule for each pair

The metrics that are asked for are found by their names and by their groups. A PM job makes the rules
of the pairs exactly if its metrics and what has pods are paired. A threshold of a whole object does
not ask whether there are pods.
-/

namespace Tacker.Rules

open Tacker.Basis
open Tacker.Kubernetes (SetOrder)
open Tacker.Prometheus (startsWith usagePrefixes anyCharacter)

variable {env : Env} {mon : Monitoring} {metric : String}

/-! ## Metrics -/

lemma startsWith_iff {prefixes : List String} {rest : List Char → Bool} {text : String} :
    startsWith prefixes rest text = true ↔
      ∃ pre ∈ prefixes, ∃ tail, text = pre ++ tail ∧ rest tail.toList = true := by
  unfold startsWith
  rw [List.any_eq_true]
  refine exists_congr fun pre => and_congr_right fun _ => ?_
  rw [Bool.and_eq_true_iff, List.isPrefixOf_iff_prefix]
  constructor
  · rintro ⟨⟨tail, eq⟩, accepted⟩
    rw [← eq, List.drop_left] at accepted
    refine ⟨String.ofList tail, String.toList_injective ?_, by simpa using accepted⟩
    rw [← eq, String.toList_append, String.toList_ofList]
  · rintro ⟨tail, rfl, accepted⟩
    rw [String.toList_append, List.drop_left]
    exact ⟨List.prefix_append _ _, accepted⟩

/-- No usage prefix begins with another one. -/
lemma usagePrefixes_apart {pre pre' : String} (mem : pre ∈ usagePrefixes) (mem' : pre' ∈ usagePrefixes)
    (begins : pre.toList.isPrefixOf pre'.toList = true) : pre = pre' := by
  have all : ∀ pre ∈ usagePrefixes, ∀ pre' ∈ usagePrefixes,
      pre.toList.isPrefixOf pre'.toList = true → pre = pre' := by decide
  exact all pre mem pre' mem' begins

lemma objectOf_append {pre obj : String} (mem : pre ∈ usagePrefixes) : objectOf (pre ++ obj) = obj := by
  have isSome : (usagePrefixes.find? fun pre' =>
      pre'.toList.isPrefixOf (pre ++ obj).toList).isSome = true := by
    apply List.find?_isSome.mpr
    refine ⟨pre, mem, ?_⟩
    rw [List.isPrefixOf_iff_prefix, String.toList_append]
    exact List.prefix_append _ _
  obtain ⟨pre', found⟩ := Option.isSome_iff_exists.mp isSome
  have mem' := List.mem_of_find?_eq_some found
  have picked := List.find?_some found
  have begins := List.isPrefixOf_iff_prefix.mp picked
  have same : pre' = pre := by
    have begins' : pre.toList <+: (pre ++ obj).toList := by
      rw [String.toList_append]
      exact List.prefix_append _ _
    rcases List.prefix_or_prefix_of_prefix begins begins' with first | second
    · exact usagePrefixes_apart mem' mem (List.isPrefixOf_iff_prefix.mpr first)
    · exact (usagePrefixes_apart mem mem' (List.isPrefixOf_iff_prefix.mpr second)).symm
  subst same
  unfold objectOf
  rw [found]
  show String.ofList ((pre' ++ obj).toList.drop pre'.toList.length) = obj
  rw [String.toList_append, List.drop_left, String.ofList_toList]

/-! ## What is asked for -/

/-- A metric is one for these objects: it names one of them, or is one of their connection points'. -/
def Fits (objectType : ObjectType) (objs : List String) (metric : String) : Prop :=
  if objectType.ofCompute then
    ∃ obj ∈ objs, anyCharacter obj.toList = true ∧ Belongs objectType metric obj
  else ∃ name ∈ trafficNames objectType, ∃ tail, metric = name ++ tail

/-- The group of metrics of an object type. -/
def groupOf : ObjectType → String
  | .vnf | .vnfc => "VirtualisedComputeResource"
  | .vnfIntCp => "VnfInternalCp"
  | .vnfExtCp => "VnfExternalCp"

/-- A metric is in the group, for one of the objects. -/
def InGroup (objectType : ObjectType) (objs : List String) (metric : String) : Prop :=
  if objectType.ofCompute then ∃ obj ∈ objs, Belongs objectType metric obj
  else metric ∈ trafficNames objectType

/-- What a PM job monitors. -/
def PmJob.monitoring (job : PmJob) : Monitoring where
  type := .pmJob
  id := job.id
  objectType := job.objectType
  monitored :=
    if job.subObjectInstanceIds.getD [] = [] then job.objectInstanceIds.map fun obj => (obj, none)
    else job.objectInstanceIds.flatMap fun obj =>
      (job.subObjectInstanceIds.getD []).map fun subObj => (obj, some subObj)
  Asked metric :=
    (metric ∈ job.criteria.performanceMetric.getD [] ∧
      Fits job.objectType job.objectInstanceIds metric) ∨
    (groupOf job.objectType ∈ job.criteria.performanceMetricGroup.getD [] ∧
      InGroup job.objectType job.objectInstanceIds metric)
  collectionPeriod := job.criteria.collectionPeriod
  reportingPeriod := job.criteria.reportingPeriod

/-- What a threshold monitors. -/
def Threshold.monitoring (env : Env) (threshold : Threshold) : Monitoring where
  type := .threshold
  id := threshold.id
  objectType := threshold.objectType
  monitored :=
    if threshold.subObjectInstanceIds.getD [] = [] then [(threshold.objectInstanceId, none)]
    else (threshold.subObjectInstanceIds.getD []).map fun subObj =>
      (threshold.objectInstanceId, some subObj)
  Asked metric := metric = threshold.performanceMetric ∧
    Fits threshold.objectType [threshold.objectInstanceId] metric
  collectionPeriod := env.collectionPeriodThreshold
  reportingPeriod := env.reportingPeriodThreshold

variable {objectType : ObjectType} {objs : List String}

/-- The tests of a metric that was asked for by its name. -/
lemma fits_of_compute (isCompute : objectType.ofCompute = true) :
    (startsWith usagePrefixes anyCharacter metric && objectOf metric ∈ objs) = true ↔
      Fits objectType objs metric := by
  unfold Fits
  rw [if_pos isCompute, Bool.and_eq_true_iff, startsWith_iff, decide_eq_true_iff]
  constructor
  · rintro ⟨⟨pre, mem, obj, rfl, accepted⟩, isObj⟩
    rw [objectOf_append mem] at isObj
    exact ⟨obj, isObj, accepted, fun _ => ⟨pre, mem, rfl⟩⟩
  · rintro ⟨obj, isObj, accepted, belongs⟩
    obtain ⟨pre, mem, rfl⟩ := belongs isCompute
    rw [objectOf_append mem]
    exact ⟨⟨pre, mem, obj, rfl, accepted⟩, isObj⟩

lemma fits_of_traffic (notCompute : ¬ objectType.ofCompute = true) :
    startsWith (trafficNames objectType) (fun _ => true) metric = true ↔
      Fits objectType objs metric := by
  unfold Fits
  rw [if_neg notCompute, startsWith_iff]
  simp

namespace PmJob

variable {job : PmJob}

/-- What is left of the metrics that were found. -/
lemma order_exact {setOrder : SetOrder} {found : List String} {Asked : String → Prop}
    (exact : ∀ metric, metric ∈ found ↔ Asked metric) :
    Exactly ((if setOrder.order found = [] then none else some (setOrder.order found)).getD [])
      Asked := by
  have ordered : Exactly (setOrder.order found) Asked :=
    ⟨setOrder.nodup found, fun metric => (setOrder.mem found metric).trans (exact metric)⟩
  by_cases empty : setOrder.order found = []
  · rw [empty] at ordered
    rw [if_pos empty]
    exact ordered
  · rw [if_neg empty]
    exact ordered

lemma mem_expanded {groups metrics : List String} {group : String} :
    metric ∈ groups.flatMap (fun grp => if grp = group then metrics else []) ↔
      group ∈ groups ∧ metric ∈ metrics := by
  rw [List.mem_flatMap]
  constructor
  · rintro ⟨grp, mem, inMetrics⟩
    by_cases isGroup : grp = group
    · rw [if_pos isGroup] at inMetrics
      exact ⟨isGroup ▸ mem, inMetrics⟩
    · rw [if_neg isGroup] at inMetrics
      cases inMetrics
  · rintro ⟨mem, inMetrics⟩
    exact ⟨group, mem, by rwa [if_pos rfl]⟩

/-- The metrics are those that are asked for. -/
lemma decomposeMetrics_exact (job : PmJob) (env : Env) :
    Exactly ((job.decomposeMetrics env).getD []) job.monitoring.Asked := by
  unfold decomposeMetrics
  by_cases isCompute : job.objectType.ofCompute = true
  · rw [if_pos isCompute]
    apply order_exact
    intro metric
    rw [List.mem_append, List.mem_filter, fits_of_compute isCompute]
    refine or_congr Iff.rfl ?_
    have isGroup : groupOf job.objectType = "VirtualisedComputeResource" := by
      cases isType : job.objectType with
      | vnf | vnfc => rfl
      | vnfIntCp | vnfExtCp =>
        rw [isType] at isCompute
        cases isCompute
    rw [List.mem_flatMap, isGroup, InGroup, if_pos isCompute, ← exists_and_left]
    refine exists_congr fun obj => ?_
    rw [mem_expanded, List.mem_map, and_left_comm, Belongs, forall_prop_of_true isCompute]
    simp only [eq_comm]
  · rw [if_neg isCompute]
    apply order_exact
    intro metric
    rw [List.mem_append, List.mem_filter, fits_of_traffic isCompute]
    refine or_congr Iff.rfl ?_
    have isGroup : groupOf job.objectType =
        if job.objectType = .vnfIntCp then "VnfInternalCp" else "VnfExternalCp" := by
      cases isType : job.objectType with
      | vnf | vnfc =>
        rw [isType] at isCompute
        exact absurd rfl isCompute
      | vnfIntCp | vnfExtCp => rfl
    rw [mem_expanded, ← isGroup, InGroup, if_neg isCompute]

/-! ## The rules of a metric -/

variable {obj subObj pods : String} {subObjs : Option String} {args : PromArgs}

lemma ruleOf_eq (same : args = job.monitoring.argsFor env (obj, subObjs) pods) :
    job.ruleOf env metric obj subObjs args =
      job.monitoring.ruleWith env metric (obj, subObjs) pods := by
  rw [same, ruleOf, Monitoring.ruleWith]
  show (makePromQl env .pmJob (targetOf metric) _).bind _ = _
  rw [Option.map_eq_bind]
  rfl

lemma turn_eq (same : args = job.monitoring.argsFor env (obj, subObjs) pods) :
    (do
      let rule ← job.ruleOf env metric obj subObjs args
      return [rule]) =
      (job.monitoring.ruleWith env metric (obj, subObjs) pods).map fun rule => [rule] := by
  rw [ruleOf_eq same, Option.map_eq_bind]
  rfl

/-- One metric is paired with everything that has pods. -/
lemma makeRulesFor_eq (single : job.subObjectInstanceIds.getD [] ≠ [] →
      ∃ obj, job.objectInstanceIds = [obj]) :
    job.makeRulesFor env metric =
      (job.monitoring.withPods env).mapM (job.monitoring.ruleFor env metric) := by
  unfold makeRulesFor
  by_cases whole : job.subObjectInstanceIds.getD [] = []
  · rw [if_pos whole]
    show _ = ((if job.subObjectInstanceIds.getD [] = [] then _ else _ : List _).filter _).mapM _
    rw [if_pos whole]
    apply Monitoring.turns_eq fun obj => (obj, none)
    · intro obj lacks
      rw [Monitoring.ownPods_object] at lacks
      rw [lacks]
    · intro obj pods isPods
      rw [Monitoring.ownPods_object] at isPods
      rw [isPods]
      exact turn_eq (Monitoring.argsFor_object env job.monitoring).symm
  · rw [if_neg whole]
    obtain ⟨obj, isObj⟩ := single whole
    show _ = ((if job.subObjectInstanceIds.getD [] = [] then _ else _ : List _).filter _).mapM _
    rw [if_neg whole, isObj, List.flatMap_singleton, makeRulesForEachSubObj, isObj]
    show (if _ then _ else _) = _
    by_cases noResources : (env.insts obj).getVnfcResourceInfo.getD [] = []
    · rw [if_pos noResources, Monitoring.no_pods]
      · rfl
      · intro subObj
        exact Monitoring.ownPods_eq_none noResources
    · rw [if_neg noResources]
      by_cases isCompute : job.objectType.ofCompute = true
      · rw [if_pos isCompute]
        apply Monitoring.turns_eq fun subObj => (obj, some subObj)
        · intro subObj lacks
          rw [Monitoring.ownPods_vnfc isCompute] at lacks
          rw [lacks]
        · intro subObj pods isPods
          rw [Monitoring.ownPods_vnfc isCompute] at isPods
          rw [isPods]
          exact turn_eq (Monitoring.argsFor_vnfc env job.monitoring isCompute).symm
      · rw [if_neg isCompute]
        cases isPods : (env.insts obj).getPodRegexp env.setOrder with
        | none =>
          rw [Monitoring.no_pods]
          · rfl
          · intro subObj
            rw [Monitoring.ownPods_cp isCompute, isPods]
        | some pods =>
          rw [Monitoring.same_pods pods]
          · apply congrArg fun f => (job.subObjectInstanceIds.getD []).mapM f
            funext subObj
            exact ruleOf_eq (Monitoring.argsFor_cp env job.monitoring isCompute).symm
          · intro subObj
            rw [Monitoring.ownPods_cp isCompute, isPods]

/-- What is produced for a PM job; an exception leaves nothing. -/
def produced (env : Env) (job : PmJob) : List Rule :=
  (job.makeRules env).getD []

/-- The rules of a PM job are what they should be exactly if its metrics and what has pods are
paired. -/
theorem meets_iff_paired : job.monitoring.Meets env (job.produced env) ↔ job.monitoring.Paired env := by
  have exact := job.decomposeMetrics_exact env
  rw [← Monitoring.meets_iff exact.nodup exact.mem]
  apply iff_of_eq
  apply congrArg (job.monitoring.Meets env)
  by_cases none : job.subObjectInstanceIds.getD [] ≠ [] ∧ job.objectInstanceIds = []
  · obtain ⟨parts, noObject⟩ := none
    have nothing : job.monitoring.withPods env = [] := by
      show ((if job.subObjectInstanceIds.getD [] = [] then _ else _ : List _).filter _) = []
      rw [if_neg parts, noObject]
      rfl
    have raises (metric : String) : job.makeRulesFor env metric = Option.none := by
      unfold makeRulesFor makeRulesForEachSubObj
      rw [if_neg parts, noObject]
      rfl
    rw [nothing, List.product_nil, produced, makeRules]
    cases job.decomposeMetrics env with
    | none => rfl
    | some metrics =>
      cases metrics with
      | nil => rfl
      | cons metric metrics =>
        show (((metric :: metrics).mapM (job.makeRulesFor env)).bind _).getD [] = _
        rw [List.mapM_cons, raises]
        rfl
  · apply Monitoring.produced_eq
    intro metric
    apply makeRulesFor_eq
    intro parts
    have card := job.cardinality parts
    match objects : job.objectInstanceIds with
    | [] => exact absurd ⟨parts, objects⟩ none
    | [obj] => exact ⟨obj, rfl⟩
    | _ :: _ :: _ =>
      rw [objects] at card
      simp at card

end PmJob

/-! ## Thresholds -/

namespace Threshold

variable {threshold : Threshold} {subObj pods : String} {subObjs : Option String} {args : PromArgs}

/-- What is produced for a threshold; an exception leaves nothing. -/
def produced (env : Env) (threshold : Threshold) : List Rule :=
  (threshold.makeRules env).getD []

lemma asked_compute (isCompute : threshold.objectType.ofCompute = true) :
    (threshold.monitoring env).Asked threshold.performanceMetric ↔
      startsWith usagePrefixes anyCharacter threshold.performanceMetric = true ∧
        objectOf threshold.performanceMetric = threshold.objectInstanceId := by
  show _ ∧ Fits _ _ _ ↔ _
  rw [← fits_of_compute isCompute, Bool.and_eq_true_iff, decide_eq_true_iff, List.mem_singleton]
  exact and_iff_right rfl

lemma asked_traffic (notCompute : ¬ threshold.objectType.ofCompute = true) :
    (threshold.monitoring env).Asked threshold.performanceMetric ↔
      startsWith (trafficNames threshold.objectType) (fun _ => true) threshold.performanceMetric =
        true := by
  rw [fits_of_traffic notCompute]
  exact and_iff_right rfl

lemma decompose_of_asked (asked : (threshold.monitoring env).Asked threshold.performanceMetric) :
    threshold.decomposeMetrics = some [threshold.performanceMetric] := by
  unfold decomposeMetrics
  by_cases isCompute : threshold.objectType.ofCompute = true
  · rw [if_pos isCompute]
    exact if_pos ((asked_compute isCompute).mp asked)
  · rw [if_neg isCompute]
    exact if_pos ((asked_traffic isCompute).mp asked)

lemma decompose_of_not (other : ¬ (threshold.monitoring env).Asked threshold.performanceMetric) :
    threshold.decomposeMetrics = none := by
  unfold decomposeMetrics
  by_cases isCompute : threshold.objectType.ofCompute = true
  · rw [if_pos isCompute]
    exact if_neg fun holds => other ((asked_compute isCompute).mpr holds)
  · rw [if_neg isCompute]
    exact if_neg fun holds => other ((asked_traffic isCompute).mpr holds)

/-- The metrics are those that are asked for. -/
lemma decomposeMetrics_exact (threshold : Threshold) (env : Env) :
    Exactly (threshold.decomposeMetrics.getD []) (threshold.monitoring env).Asked := by
  by_cases asked : (threshold.monitoring env).Asked threshold.performanceMetric
  · rw [decompose_of_asked asked]
    exact (Exactly.singleton _).congr fun metric => ⟨fun eq => eq ▸ asked, fun other => other.1⟩
  · rw [decompose_of_not asked]
    apply Exactly.nil
    rintro metric other
    rw [other.1] at other
    exact asked other

lemma ruleOf_eq
    (same : args = (threshold.monitoring env).argsFor env (threshold.objectInstanceId, subObjs) pods) :
    threshold.ruleOf env metric subObjs args =
      (threshold.monitoring env).ruleWith env metric (threshold.objectInstanceId, subObjs) pods := by
  rw [same, ruleOf, Monitoring.ruleWith]
  show (makePromQl env .threshold (targetOf metric) _).bind _ = _
  rw [Option.map_eq_bind]
  rfl

lemma turn_eq
    (same : args = (threshold.monitoring env).argsFor env (threshold.objectInstanceId, subObjs) pods) :
    (do
      let rule ← threshold.ruleOf env metric subObjs args
      return [rule]) =
      ((threshold.monitoring env).ruleWith env metric (threshold.objectInstanceId, subObjs) pods).map
        fun rule => [rule] := by
  rw [ruleOf_eq same, Option.map_eq_bind]
  rfl

/-- With sub-objects, the metric is paired with those that have pods. -/
lemma makeRulesFor_eq (parts : threshold.subObjectInstanceIds.getD [] ≠ []) :
    threshold.makeRulesFor env metric = ((threshold.monitoring env).withPods env).mapM
      ((threshold.monitoring env).ruleFor env metric) := by
  unfold makeRulesFor makeRulesForEachSubObj
  rw [if_neg parts]
  show _ = ((if threshold.subObjectInstanceIds.getD [] = [] then _ else _ : List _).filter _).mapM _
  rw [if_neg parts]
  by_cases isCompute : threshold.objectType.ofCompute = true
  · rw [if_pos isCompute]
    apply Monitoring.turns_eq fun subObj => (threshold.objectInstanceId, some subObj)
    · intro subObj lacks
      rw [Monitoring.ownPods_vnfc isCompute] at lacks
      rw [lacks]
    · intro subObj pods isPods
      rw [Monitoring.ownPods_vnfc isCompute] at isPods
      rw [isPods]
      exact turn_eq (Monitoring.argsFor_vnfc env (threshold.monitoring env) isCompute).symm
  · rw [if_neg isCompute]
    cases isPods : (env.insts threshold.objectInstanceId).getPodRegexp env.setOrder with
    | none =>
      rw [Monitoring.no_pods]
      · rfl
      · intro subObj
        rw [Monitoring.ownPods_cp isCompute, isPods]
    | some pods =>
      rw [Monitoring.same_pods pods]
      · apply congrArg fun f => (threshold.subObjectInstanceIds.getD []).mapM f
        funext subObj
        exact ruleOf_eq (Monitoring.argsFor_cp env (threshold.monitoring env) isCompute).symm
      · intro subObj
        rw [Monitoring.ownPods_cp isCompute, isPods]

/-- The rules of a threshold with sub-objects are what they should be exactly if its metric and what
has pods are paired. -/
theorem meets_iff_paired (parts : threshold.subObjectInstanceIds.getD [] ≠ []) :
    (threshold.monitoring env).Meets env (threshold.produced env) ↔
      (threshold.monitoring env).Paired env := by
  have exact := threshold.decomposeMetrics_exact env
  rw [← Monitoring.meets_iff exact.nodup exact.mem]
  apply iff_of_eq
  apply congrArg ((threshold.monitoring env).Meets env)
  exact Monitoring.produced_eq fun metric => makeRulesFor_eq parts

/-! ## Thresholds of a whole object -/

/-- The one rule of a threshold of an object, with what stands for its pods. -/
lemma produced_object (whole : threshold.subObjectInstanceIds.getD [] = [])
    (asked : (threshold.monitoring env).Asked threshold.performanceMetric) :
    threshold.produced env = ((threshold.monitoring env).ruleWith env threshold.performanceMetric
      (threshold.objectInstanceId, none)
      (((env.insts threshold.objectInstanceId).getPodRegexp env.setOrder).getD "None")).toList := by
  unfold produced makeRules
  rw [decompose_of_asked asked]
  show (([threshold.performanceMetric].mapM (threshold.makeRulesFor env)).bind _).getD [] = _
  have one : threshold.makeRulesFor env threshold.performanceMetric =
      ((threshold.monitoring env).ruleWith env threshold.performanceMetric
        (threshold.objectInstanceId, none)
        (((env.insts threshold.objectInstanceId).getPodRegexp env.setOrder).getD "None")).map
          fun rule => [rule] := by
    unfold makeRulesFor makeRulesForEachObj
    rw [if_pos whole]
    exact turn_eq (Monitoring.argsFor_object env (threshold.monitoring env)).symm
  rw [List.mapM_cons, one]
  cases (threshold.monitoring env).ruleWith env threshold.performanceMetric
    (threshold.objectInstanceId, none) _ with
  | none => rfl
  | some rule => rfl

/-- An object with pods has its rule if there is a query. -/
lemma meets_of_pods (asked : (threshold.monitoring env).Asked threshold.performanceMetric)
    (monitored : (threshold.monitoring env).monitored = [(threshold.objectInstanceId, none)])
    (hasPods : (threshold.monitoring env).HasPods env (threshold.objectInstanceId, none)) :
    (threshold.monitoring env).Meets env
        ((threshold.monitoring env).ruleWith env threshold.performanceMetric
          (threshold.objectInstanceId, none)
          (((env.insts threshold.objectInstanceId).getPodRegexp env.setOrder).getD "None")).toList ↔
      (threshold.monitoring env).HasQuery env threshold.performanceMetric := by
  obtain ⟨pods, isPods⟩ := Option.isSome_iff_exists.mp (ownPods_isSome.mpr hasPods)
  have isRegexp := isPods
  rw [Monitoring.ownPods_object] at isRegexp
  have same : (threshold.monitoring env).ruleFor env threshold.performanceMetric
      (threshold.objectInstanceId, none) = (threshold.monitoring env).ruleWith env
        threshold.performanceMetric (threshold.objectInstanceId, none) pods := by
    rw [Monitoring.ruleFor, isPods]
    rfl
  have belongs : Belongs threshold.objectType threshold.performanceMetric
      threshold.objectInstanceId := by
    intro isCompute
    have fits : Fits _ _ _ := asked.2
    rw [Fits, if_pos isCompute] at fits
    obtain ⟨obj, mem, -, belongs⟩ := fits
    rw [← List.mem_singleton.mp mem]
    exact belongs isCompute
  have pair : (threshold.monitoring env).IsPair env threshold.performanceMetric
      (threshold.objectInstanceId, none) :=
    ⟨asked, monitored ▸ List.mem_singleton_self _, belongs, hasPods⟩
  rw [isRegexp, Option.getD_some, ← Monitoring.ruleWith_isSome pods]
  unfold Monitoring.Meets
  constructor
  · intro meets
    have mem := (meets.mem _).mpr ⟨_, _, pair, rfl⟩
    obtain ⟨rule, -, eq⟩ := List.mem_map.mp mem
    rw [← same, ← eq]
    rfl
  · intro isSome
    obtain ⟨rule, made⟩ := Option.isSome_iff_exists.mp isSome
    rw [made]
    refine (Exactly.singleton (some rule)).congr fun rule' => ?_
    constructor
    · intro eq
      exact ⟨_, _, pair, by rw [same, made, eq]⟩
    · rintro ⟨metric, subject, pair', eq⟩
      have isMetric : metric = threshold.performanceMetric := pair'.asked.1
      have isSubject := List.mem_singleton.mp (monitored ▸ pair'.monitored)
      rw [eq, isMetric, isSubject, same, made]

/-- An object without pods has no rule if there is no query. -/
lemma meets_of_none
    (monitored : (threshold.monitoring env).monitored = [(threshold.objectInstanceId, none)])
    (noPods : ¬ (threshold.monitoring env).HasPods env (threshold.objectInstanceId, none)) :
    (threshold.monitoring env).Meets env
        ((threshold.monitoring env).ruleWith env threshold.performanceMetric
          (threshold.objectInstanceId, none) pods).toList ↔
      ¬ (threshold.monitoring env).HasQuery env threshold.performanceMetric := by
  have no (metric : String) (subject : String × Option String) :
      ¬ (threshold.monitoring env).IsPair env metric subject := by
    intro pair
    have isSubject := List.mem_singleton.mp (monitored ▸ pair.monitored)
    exact noPods (isSubject ▸ pair.hasPods)
  rw [← Monitoring.ruleWith_isSome pods]
  cases (threshold.monitoring env).ruleWith env threshold.performanceMetric
    (threshold.objectInstanceId, none) pods with
  | none => exact iff_of_true (Monitoring.meets_nil.mpr no) Bool.false_ne_true
  | some rule =>
    refine iff_of_false (fun meets => ?_) (not_not.mpr rfl)
    obtain ⟨metric, subject, pair, -⟩ := (meets.mem (some rule)).mp List.mem_cons_self
    exact no metric subject pair

/-- The rule of a threshold of a whole object is what it should be exactly if there is a query just
when there are pods. -/
theorem meets_iff_query (whole : threshold.subObjectInstanceIds.getD [] = []) :
    (threshold.monitoring env).Meets env (threshold.produced env) ↔
      ∀ metric, (threshold.monitoring env).Asked metric →
        ((threshold.monitoring env).HasQuery env metric ↔
          (threshold.monitoring env).HasPods env (threshold.objectInstanceId, none)) := by
  have monitored : (threshold.monitoring env).monitored = [(threshold.objectInstanceId, none)] :=
    if_pos whole
  by_cases asked : (threshold.monitoring env).Asked threshold.performanceMetric
  · have only : (∀ metric, (threshold.monitoring env).Asked metric →
        ((threshold.monitoring env).HasQuery env metric ↔
          (threshold.monitoring env).HasPods env (threshold.objectInstanceId, none))) ↔
        ((threshold.monitoring env).HasQuery env threshold.performanceMetric ↔
          (threshold.monitoring env).HasPods env (threshold.objectInstanceId, none)) :=
      ⟨fun all => all _ asked, fun one metric other => other.1 ▸ one⟩
    rw [only, produced_object whole asked]
    by_cases hasPods : (threshold.monitoring env).HasPods env (threshold.objectInstanceId, none)
    · rw [iff_true_right hasPods]
      exact meets_of_pods asked monitored hasPods
    · rw [iff_false_right hasPods]
      exact meets_of_none monitored hasPods
  · have nothing : threshold.produced env = [] := by
      unfold produced makeRules
      rw [decompose_of_not asked]
      rfl
    rw [nothing, Monitoring.meets_nil]
    constructor
    · intro _ metric other
      exact absurd (other.1 ▸ other) asked
    · intro _ metric subject pair
      exact asked (pair.asked.1 ▸ pair.asked)

end Threshold

/-! ## The rules -/

/-- With sub-objects, the metric and what has pods are paired; otherwise there is a query just when the
object has pods. -/
structure Threshold.Sound (env : Env) (threshold : Threshold) : Prop where
  whole (whole : threshold.subObjectInstanceIds.getD [] = []) (metric : String)
    (asked : (threshold.monitoring env).Asked metric) :
    (threshold.monitoring env).HasQuery env metric ↔
      (threshold.monitoring env).HasPods env (threshold.objectInstanceId, none)
  parts (parts : threshold.subObjectInstanceIds.getD [] ≠ []) :
    (threshold.monitoring env).Paired env

/-- `make_rules` produces one rule for each pair and no other, for a PM job exactly if its metrics and
what has pods are paired, and for a threshold exactly if it is sound. -/
theorem makeRules_exact_iff (env : Env) (job : PmJob) (threshold : Threshold) :
    (job.monitoring.Meets env (job.produced env) ↔ job.monitoring.Paired env) ∧
      ((threshold.monitoring env).Meets env (threshold.produced env) ↔ threshold.Sound env) := by
  refine ⟨PmJob.meets_iff_paired, ?_⟩
  by_cases whole : threshold.subObjectInstanceIds.getD [] = []
  · rw [Threshold.meets_iff_query whole]
    exact ⟨fun all => ⟨fun _ => all, fun parts => absurd whole parts⟩, fun sound => sound.whole whole⟩
  · rw [Threshold.meets_iff_paired whole]
    exact ⟨fun paired => ⟨fun isWhole => absurd isWhole whole, fun _ => paired⟩,
      fun sound => sound.parts whole⟩

/-- A set that is gone through in the order of its last occurrences. -/
def lastOrder : SetOrder where
  order := List.dedup
  nodup := List.nodup_dedup
  mem _ _ := List.mem_dedup

/-- An instance that runs one pod. -/
def onePod (obj : String) : Inst where
  instantiatedVnfInfo := some {
    vnfcResourceInfo := some [⟨"vnfc1", ⟨some "Deployment", some (obj ++ "-756757f8f-xcwmt")⟩⟩]
    vnfcInfo := some []
    resources_nodup := List.nodup_singleton _
    vnfcs_nodup := List.nodup_nil }

/-- Queries that name the pods only. -/
def podQueries : Env where
  promQl _ _ := some fun args => args.pod
  setOrder := lastOrder
  insts := onePod
  reportingPeriodThreshold := 90
  collectionPeriodThreshold := 30

/-- A PM job with two objects, for each of which a metric is asked for. -/
def twoObjects : PmJob where
  id := "job1"
  objectType := .vnf
  objectInstanceIds := ["a", "b"]
  criteria := {
    performanceMetric := some ["VCpuUsageMeanVnf.a", "VCpuUsageMeanVnf.b"]
    collectionPeriod := 30
    reportingPeriod := 90 }
  cardinality parts := absurd rfl parts

/-- The metric of one object is paired with the pods of the other. -/
theorem metric_of_other_object :
    ¬ twoObjects.monitoring.Meets podQueries (twoObjects.produced podQueries) := by
  rw [PmJob.meets_iff_paired]
  intro paired
  have asked : twoObjects.monitoring.Asked "VCpuUsageMeanVnf.a" :=
    .inl ⟨List.mem_cons_self, (fits_of_compute rfl).mp (by decide)⟩
  have mem : ("b", none) ∈ twoObjects.monitoring.withPods podQueries := by
    apply mem_withPods.mpr
    refine ⟨by decide, "b-756757f8f-xcwmt", _, rfl, _, List.mem_cons_self, rfl⟩
  have belongs := (paired.each (fun metric _ => .inr rfl) _ asked).2 _ mem
  obtain ⟨pre, isPrefix, eq⟩ := belongs rfl
  have named : objectOf "VCpuUsageMeanVnf.a" = "b" := by
    rw [eq]
    exact objectOf_append isPrefix
  have own : objectOf "VCpuUsageMeanVnf.a" = "a" := by decide
  rw [own] at named
  exact absurd named (by decide)

end Tacker.Rules
