import Tacker.Subsc.MatchFilter

/-!
# Which subscriptions match

What the conditions of a filter say, when matching gets stuck on an attribute that is not set, and
that the loops over all subscriptions find exactly the matching ones if none gets stuck.
-/

namespace Tacker.Subsc

open Tacker.Basis
open Tacker.Objects (LcmOperationState)

variable {inst : VnfInstance} {stuck holds : Prop}

/-! ## What the conditions say -/

/-- Every set condition on a version holds. -/
def Versions.Matches (inst : VnfInstance) (version : Versions) : Prop :=
  (∀ v ∈ version.vnfSoftwareVersion, v = inst.vnfSoftwareVersion) ∧
    ∀ vnfdVersions ∈ version.vnfdVersions, inst.vnfdVersion ∈ vnfdVersions

instance (version : Versions) : Decidable (version.Matches inst) :=
  inferInstanceAs (Decidable (_ ∧ _))

/-- Every set condition on a product holds. -/
def VnfProducts.Matches (inst : VnfInstance) (product : VnfProducts) : Prop :=
  (∀ name ∈ product.vnfProductName, name = inst.vnfProductName) ∧
    ∀ versions ∈ product.versions, ∃ version ∈ versions, version.Matches inst

instance (product : VnfProducts) : Decidable (product.Matches inst) :=
  inferInstanceAs (Decidable (_ ∧ _))

/-- Every set condition on the products of a provider holds. -/
def VnfProductsFromProviders.Matches (inst : VnfInstance) (products : VnfProductsFromProviders) :
    Prop :=
  (∀ provider ∈ products.vnfProvider, provider = inst.vnfProvider) ∧
    ∀ vnfProducts ∈ products.vnfProducts, ∃ product ∈ vnfProducts, product.Matches inst

instance (products : VnfProductsFromProviders) : Decidable (products.Matches inst) :=
  inferInstanceAs (Decidable (_ ∧ _))

/-- Every set condition on an instance holds; a name that is not set is none of the listed ones. -/
def VnfInstanceSubscriptionFilter.Matches (inst : VnfInstance)
    (filter : VnfInstanceSubscriptionFilter) : Prop :=
  (∀ ids ∈ filter.vnfdIds, inst.vnfdId ∈ ids) ∧
  (∀ products ∈ filter.vnfProductsFromProviders, ∃ p ∈ products, p.Matches inst) ∧
  (∀ ids ∈ filter.vnfInstanceIds, inst.id ∈ ids) ∧
  ∀ names ∈ filter.vnfInstanceNames, ∃ name ∈ names, inst.vnfInstanceName = some name

instance (filter : VnfInstanceSubscriptionFilter) : Decidable (filter.Matches inst) :=
  inferInstanceAs (Decidable (_ ∧ _ ∧ _ ∧ _))

/-- A list condition on what a notification carries, if it does. -/
def Listed {α : Type} (value : Option α) (attr : Option (List α)) : Prop :=
  ∀ v ∈ value, ∀ values ∈ attr, v ∈ values

instance {α : Type} [DecidableEq α] (value : Option α) (attr : Option (List α)) :
    Decidable (Listed value attr) :=
  inferInstanceAs (Decidable (∀ v ∈ value, ∀ values ∈ attr, v ∈ values))

/-- Every set condition of the filter of an LCM subscription, if it has one, holds. -/
def MatchesLccn (inst : VnfInstance) (notifType : LccnNotificationType)
    (opType : Option LcmOperationType) (opState : Option LcmOperationState)
    (subsc : Subscription LifecycleChangeNotificationsFilter) : Prop :=
  ∀ filter ∈ subsc.filter,
    (∀ instFilter ∈ filter.vnfInstanceSubscriptionFilter, instFilter.Matches inst) ∧
      Listed (some notifType) filter.notificationTypes ∧ Listed opType filter.operationTypes ∧
        Listed opState filter.operationStates

instance {notifType opType opState} :
    DecidablePred (MatchesLccn inst notifType opType opState) := fun subsc =>
  inferInstanceAs (Decidable (∀ filter ∈ subsc.filter, _ ∧ _ ∧ _ ∧ _))

/-- Every set condition of the filter of an FM subscription, if it has one, holds. -/
def MatchesFm (inst : VnfInstance) (notifType : FmNotificationType) (alarm : Alarm)
    (subsc : Subscription FmNotificationsFilter) : Prop :=
  ∀ filter ∈ subsc.filter,
    (∀ instFilter ∈ filter.vnfInstanceSubscriptionFilter, instFilter.Matches inst) ∧
      Listed (some notifType) filter.notificationTypes ∧
        Listed alarm.rootCauseFaultyResource filter.faultyResourceTypes ∧
          Listed (some alarm.perceivedSeverity) filter.perceivedSeverities ∧
            Listed (some alarm.eventType) filter.eventTypes ∧
              Listed (some alarm.probableCause) filter.probableCauses

instance {notifType alarm} : DecidablePred (MatchesFm inst notifType alarm) := fun subsc =>
  inferInstanceAs (Decidable (∀ filter ∈ subsc.filter, _ ∧ _ ∧ _ ∧ _ ∧ _ ∧ _))

/-! ## Where matching gets stuck -/

/-- A product is reached by name and one of its versions, reached in turn, has no
`vnfSoftwareVersion`; or it has no name. -/
def VnfProducts.Stuck (inst : VnfInstance) (product : VnfProducts) : Prop :=
  product.vnfProductName = none ∨ product.vnfProductName = some inst.vnfProductName ∧
    ∃ versions ∈ product.versions, ∃ version, Reaches (Versions.Matches inst) versions version ∧
      version.vnfSoftwareVersion = none

/-- The products have no provider, or they are of the provider of the instance and one that the
loop reaches is stuck. -/
def VnfProductsFromProviders.Stuck (inst : VnfInstance) (products : VnfProductsFromProviders) :
    Prop :=
  products.vnfProvider = none ∨ products.vnfProvider = some inst.vnfProvider ∧
    ∃ vnfProducts ∈ products.vnfProducts, ∃ product,
      Reaches (VnfProducts.Matches inst) vnfProducts product ∧ product.Stuck inst

/-- The loop over the products gets stuck, or the other conditions hold, the filter lists names and
the instance has none. -/
def VnfInstanceSubscriptionFilter.Stuck (inst : VnfInstance)
    (filter : VnfInstanceSubscriptionFilter) : Prop :=
  (∀ ids ∈ filter.vnfdIds, inst.vnfdId ∈ ids) ∧
  ((∃ products ∈ filter.vnfProductsFromProviders, ∃ p,
      Reaches (VnfProductsFromProviders.Matches inst) products p ∧ p.Stuck inst) ∨
    (∀ products ∈ filter.vnfProductsFromProviders, ∃ p ∈ products, p.Matches inst) ∧
      (∀ ids ∈ filter.vnfInstanceIds, inst.id ∈ ids) ∧
        filter.vnfInstanceNames ≠ none ∧ inst.vnfInstanceName = none)

/-! ## The tests -/

lemma decides_contains {α : Type} [DecidableEq α] (values : List α) (value : α) :
    Decides (.ok (values.contains value) : Except CannotLoad Bool) False (value ∈ values) := by
  apply Decides.pure
  exact List.contains_iff_mem

/-- A comparison of an attribute with that of the instance. -/
lemma decides_load {next : Except CannotLoad Bool} (attrname expected : String)
    (attr : Option String) (second : Decides next stuck holds) :
    Decides (load attrname attr >>= fun v => if v = expected then next else .ok false)
      (attr = none ∨ attr = some expected ∧ stuck) ((∀ v ∈ attr, v = expected) ∧ holds) := by
  cases attr with
  | none =>
    apply (Decides.error _ ((∀ v ∈ (none : Option String), v = expected) ∧ holds)).congr
    · simp
    · exact fun _ => Iff.rfl
  | some v =>
    by_cases same : v = expected
    · subst same
      show Decides (if v = v then next else .ok false) _ _
      rw [if_pos rfl]
      apply second.congr
      · simp
      · simp
    · show Decides (if v = expected then next else .ok false) _ _
      rw [if_neg same]
      apply Decides.no.congr
      · simp [same]
      · simp [same]

/-- A condition that is not set holds. -/
lemma decides_ifSet {α : Type} {check : α → Except CannotLoad Bool} {stuck holds : α → Prop}
    (each : ∀ value, Decides (check value) (stuck value) (holds value)) (attr : Option α) :
    Decides (ifSet attr check) (∃ value ∈ attr, stuck value) (∀ value ∈ attr, holds value) := by
  cases attr with
  | none =>
    apply Decides.yes.congr
    · simp
    · simp
  | some value =>
    apply (each value).congr
    · simp
    · simp

lemma decides_ifCarried {α : Type} [DecidableEq α] (value : Option α) (attr : Option (List α)) :
    Decides (ifCarried value attr) False (Listed value attr) := by
  cases value with
  | none =>
    apply Decides.pure
    simp [Listed]
  | some v =>
    apply (decides_ifSet (fun values => decides_contains values v) attr).congr
    · simp
    · simp [Listed]

lemma decides_matchVersion (version : Versions) :
    Decides (matchVersion inst version) (version.vnfSoftwareVersion = none)
      (version.Matches inst) := by
  apply (decides_load "vnfSoftwareVersion" inst.vnfSoftwareVersion version.vnfSoftwareVersion
    (decides_ifSet (fun ids => decides_contains ids inst.vnfdVersion) version.vnfdVersions)).congr
  · simp
  · exact fun _ => Iff.rfl

lemma decides_matchProduct (product : VnfProducts) :
    Decides (matchProduct inst product) (product.Stuck inst) (product.Matches inst) :=
  decides_load "vnfProductName" inst.vnfProductName product.vnfProductName
    (decides_ifSet (Decides.anyM (@decides_matchVersion inst)) product.versions)

lemma decides_matchProductsPerProvider (products : VnfProductsFromProviders) :
    Decides (matchProductsPerProvider inst products) (products.Stuck inst)
      (products.Matches inst) :=
  decides_load "vnfProvider" inst.vnfProvider products.vnfProvider
    (decides_ifSet (Decides.anyM (@decides_matchProduct inst)) products.vnfProducts)

/-- The name is read when the filter lists names. -/
lemma decides_names (names : List String) :
    Decides (do .ok (names.contains (← load "vnfInstanceName" inst.vnfInstanceName)))
      (inst.vnfInstanceName = none) (∃ name ∈ names, inst.vnfInstanceName = some name) := by
  cases inst.vnfInstanceName with
  | none =>
    apply (Decides.error _ _).congr
    · simp
    · exact fun _ => Iff.rfl
  | some name =>
    apply (decides_contains names name).congr
    · simp
    · simp

lemma decides_matchInstSubscFilter (filter : VnfInstanceSubscriptionFilter) :
    Decides (matchInstSubscFilter filter inst) (filter.Stuck inst) (filter.Matches inst) := by
  have vnfdIds := decides_ifSet (fun ids => decides_contains ids inst.vnfdId) filter.vnfdIds
  have products := decides_ifSet (Decides.anyM (@decides_matchProductsPerProvider inst))
    filter.vnfProductsFromProviders
  have ids := decides_ifSet (fun ids => decides_contains ids inst.id) filter.vnfInstanceIds
  have names := decides_ifSet (@decides_names inst) filter.vnfInstanceNames
  have listed : (∃ names ∈ filter.vnfInstanceNames, inst.vnfInstanceName = none) ↔
      filter.vnfInstanceNames ≠ none ∧ inst.vnfInstanceName = none := by
    cases filter.vnfInstanceNames with
    | none => simp
    | some names => simp
  apply (vnfdIds.guard (products.guard (ids.guard names))).congr
  · simp only [VnfInstanceSubscriptionFilter.Stuck, and_false, exists_false, false_or, listed]
  · exact fun _ => Iff.rfl

/-! ## The loops over the subscriptions -/

/-- The matching of the instance filter of some subscription gets stuck. -/
def SomeStuck {Filter : Type} (instFilterOf : Filter → Option VnfInstanceSubscriptionFilter)
    (inst : VnfInstance) (subscs : List (Subscription Filter)) : Prop :=
  ∃ subsc ∈ subscs, ∃ filter ∈ subsc.filter, ∃ instFilter ∈ instFilterOf filter,
    instFilter.Stuck inst

/-- The instance filter comes first; what follows always answers. -/
lemma decides_afterInstFilter {next : Except CannotLoad Bool}
    (attr : Option VnfInstanceSubscriptionFilter) (rest : Decides next False holds) :
    Decides (ifSet attr (matchInstSubscFilter · inst) >>= fun b => if b = true then next else .ok false)
      (∃ instFilter ∈ attr, instFilter.Stuck inst)
      ((∀ instFilter ∈ attr, instFilter.Matches inst) ∧ holds) := by
  apply ((decides_ifSet (@decides_matchInstSubscFilter inst) attr).guard rest).congr
  · simp only [and_false, or_false]
  · exact fun _ => Iff.rfl

/-- A list condition and then the next one. -/
lemma decides_thenCarried {α : Type} [DecidableEq α] {next : Except CannotLoad Bool}
    (value : Option α) (attr : Option (List α)) (rest : Decides next False holds) :
    Decides (ifCarried value attr >>= fun b => if b = true then next else .ok false) False
      (Listed value attr ∧ holds) := by
  apply ((decides_ifCarried value attr).guard rest).congr
  · simp only [and_false, or_false]
  · exact fun _ => Iff.rfl

lemma decides_matchLccn (notifType : LccnNotificationType) (opType : Option LcmOperationType)
    (opState : Option LcmOperationState)
    (subsc : Subscription LifecycleChangeNotificationsFilter) :
    Decides (matchLccn inst notifType opType opState subsc)
      (∃ filter ∈ subsc.filter, ∃ instFilter ∈ filter.vnfInstanceSubscriptionFilter,
        instFilter.Stuck inst)
      (MatchesLccn inst notifType opType opState subsc) := by
  unfold matchLccn MatchesLccn
  cases subsc.filter with
  | none =>
    apply Decides.yes.congr
    · simp
    · simp
  | some filter =>
    apply (decides_afterInstFilter filter.vnfInstanceSubscriptionFilter
      (decides_thenCarried (some notifType) filter.notificationTypes
        (decides_thenCarried opType filter.operationTypes
          (decides_ifCarried opState filter.operationStates)))).congr
    · simp
    · simp

lemma Fm.decides_matchFm (notifType : FmNotificationType) (alarm : Alarm)
    (subsc : Subscription FmNotificationsFilter) :
    Decides (matchFm inst notifType alarm subsc)
      (∃ filter ∈ subsc.filter, ∃ instFilter ∈ filter.vnfInstanceSubscriptionFilter,
        instFilter.Stuck inst)
      (MatchesFm inst notifType alarm subsc) := by
  unfold matchFm MatchesFm
  cases subsc.filter with
  | none =>
    apply Decides.yes.congr
    · simp
    · simp
  | some filter =>
    apply (decides_afterInstFilter filter.vnfInstanceSubscriptionFilter
      (decides_thenCarried (some notifType) filter.notificationTypes
        (decides_thenCarried alarm.rootCauseFaultyResource filter.faultyResourceTypes
          (decides_thenCarried (some alarm.perceivedSeverity) filter.perceivedSeverities
            (decides_thenCarried (some alarm.eventType) filter.eventTypes
              (decides_ifCarried (some alarm.probableCause) filter.probableCauses)))))).congr
    · simp
    · simp

/-- A loop over the subscriptions finds exactly the matching ones if no instance filter gets stuck,
and raises if one does. -/
lemma collect_iff {Filter : Type} {test : Subscription Filter → Except CannotLoad Bool}
    {instFilterOf : Filter → Option VnfInstanceSubscriptionFilter}
    {holds : Subscription Filter → Prop} [DecidablePred holds]
    (each : ∀ subsc, Decides (test subsc)
      (∃ filter ∈ subsc.filter, ∃ instFilter ∈ instFilterOf filter, instFilter.Stuck inst)
      (holds subsc)) (subscs : List (Subscription Filter)) :
    collect test subscs [] = .ok (subscs.filter (fun subsc => decide (holds subsc))) ↔
      ¬ SomeStuck instFilterOf inst subscs := by
  constructor
  · intro found some
    obtain ⟨e, raised⟩ := collect_error each subscs [] some
    cases found.symm.trans raised
  · intro none
    apply collect_ok each subscs []
    exact fun subsc mem is => none ⟨subsc, mem, is⟩

/-- The loops find exactly the subscriptions each of whose set conditions holds, if and only if the
matching of no instance filter gets stuck on an attribute that is not set. -/
theorem matched_subscs_iff (inst : VnfInstance) :
    (∀ subscs notifType opType opState,
      getMatchedSubscs subscs inst notifType opType opState =
          .ok (subscs.filter (fun subsc =>
            decide (MatchesLccn inst notifType opType opState subsc))) ↔
        ¬ SomeStuck (·.vnfInstanceSubscriptionFilter) inst subscs) ∧
    ∀ subscs notifType alarm,
      Fm.getMatchedSubscs subscs inst notifType alarm =
          .ok (subscs.filter (fun subsc => decide (MatchesFm inst notifType alarm subsc))) ↔
        ¬ SomeStuck (·.vnfInstanceSubscriptionFilter) inst subscs := by
  constructor
  · intro subscs notifType opType opState
    exact collect_iff (decides_matchLccn notifType opType opState) subscs
  · intro subscs notifType alarm
    exact collect_iff (Fm.decides_matchFm notifType alarm) subscs

/-- An instance that was created without a name, and two subscriptions: one lists names, the other
has no filter. Nobody is notified. -/
theorem unnamed_instance_unnotified :
    ∃ (inst : VnfInstance) (subscs : List (Subscription LifecycleChangeNotificationsFilter)),
      inst.vnfInstanceName = none ∧
      getLcmoccSubscs subscs .instantiate .starting inst = .error ⟨"vnfInstanceName"⟩ ∧
      subscs.filter (fun subsc => decide (MatchesLccn inst .vnfLcmOperationOccurrenceNotification
        (some .instantiate) (some .starting) subsc)) = [⟨"all", "http://listener", none⟩] := by
  refine ⟨⟨"inst", none, "vnfd", "provider", "product", "1.0", "1.0"⟩,
    [⟨"named", "http://listener",
      some { vnfInstanceSubscriptionFilter := some { vnfInstanceNames := some ["vnf"] } }⟩,
      ⟨"all", "http://listener", none⟩], rfl, by decide, by decide⟩

end Tacker.Subsc
