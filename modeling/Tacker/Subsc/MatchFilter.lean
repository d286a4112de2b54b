import Tacker.Basis.Decides
import Tacker.Objects.LcmOpOcc

/-!
# Subscriptions that match a notification

`match_inst_subsc_filter` and `get_matched_subscs` of `common/subscription_utils.py`, and
`get_matched_subscs` of `common/fm_subscription_utils.py`. Every attribute of a filter may be unset:
`from_dict` sets only what is there, and the request schema puts the checks of the attributes under
`vnfProductsFromProviders` one level too deep, so that a product without a name is accepted. Reading
an attribute that is not set raises.
-/

namespace Tacker.Subsc

open Tacker.Basis
open Tacker.Objects (LcmOperationState)

/-- `NotImplementedError` of `obj_load_attr`: "Cannot load '%s' in the base class". -/
structure CannotLoad where
  attrname : String
deriving DecidableEq

/-- Reading an attribute of an object. -/
def load {α : Type} (attrname : String) : Option α → Except CannotLoad α
  | some value => .ok value
  | none => .error ⟨attrname⟩

/-! ## Data -/

/-- `VnfInstanceV2`, as far as a filter reads it. Only the name is nullable. -/
structure VnfInstance where
  id : String
  vnfInstanceName : Option String
  vnfdId : String
  vnfProvider : String
  vnfProductName : String
  vnfSoftwareVersion : String
  vnfdVersion : String
deriving DecidableEq

/-- `_VnfProductsFromProviders_VnfProducts_Versions`. -/
structure Versions where
  vnfSoftwareVersion : Option String := none
  vnfdVersions : Option (List String) := none
deriving DecidableEq

/-- `_VnfProductsFromProviders_VnfProducts`. -/
structure VnfProducts where
  vnfProductName : Option String := none
  versions : Option (List Versions) := none
deriving DecidableEq

/-- `_VnfProductsFromProviders`. -/
structure VnfProductsFromProviders where
  vnfProvider : Option String := none
  vnfProducts : Option (List VnfProducts) := none
deriving DecidableEq

/-- `VnfInstanceSubscriptionFilter`. -/
structure VnfInstanceSubscriptionFilter where
  vnfdIds : Option (List String) := none
  vnfProductsFromProviders : Option (List VnfProductsFromProviders) := none
  vnfInstanceIds : Option (List String) := none
  vnfInstanceNames : Option (List String) := none
deriving DecidableEq

/-- The valid values of `notificationTypes` in `LifecycleChangeNotificationsFilterV2`. -/
inductive LccnNotificationType where
  | vnfLcmOperationOccurrenceNotification
  | vnfIdentifierCreationNotification
  | vnfIdentifierDeletionNotification
deriving DecidableEq

/-- `LcmOperationType`. -/
inductive LcmOperationType where
  | instantiate
  | scale
  | scaleToLevel
  | changeFlavour
  | terminate
  | heal
  | operate
  | changeExtConn
  | modifyInfo
  | createSnapshot
  | revertToSnapshot
  | changeVnfpkg
deriving DecidableEq

/-- `LifecycleChangeNotificationsFilterV2`. -/
structure LifecycleChangeNotificationsFilter where
  vnfInstanceSubscriptionFilter : Option VnfInstanceSubscriptionFilter := none
  notificationTypes : Option (List LccnNotificationType) := none
  operationTypes : Option (List LcmOperationType) := none
  operationStates : Option (List LcmOperationState) := none
deriving DecidableEq

/-- The valid values of `notificationTypes` in `FmNotificationsFilterV1`. -/
inductive FmNotificationType where
  | alarmNotification
  | alarmClearedNotification
  | alarmListRebuiltNotification
deriving DecidableEq

/-- `FaultyResourceType`. -/
inductive FaultyResourceType where
  | compute
  | storage
  | network
deriving DecidableEq

/-- `PerceivedSeverityType`. -/
inductive PerceivedSeverityType where
  | critical
  | major
  | minor
  | warning
  | indeterminate
  | cleared
deriving DecidableEq

/-- `EventType`. -/
inductive EventType where
  | communicationsAlarm
  | processingErrorAlarm
  | environmentalAlarm
  | qosAlarm
  | equipmentAlarm
deriving DecidableEq

/-- `FmNotificationsFilterV1`. -/
structure FmNotificationsFilter where
  vnfInstanceSubscriptionFilter : Option VnfInstanceSubscriptionFilter := none
  notificationTypes : Option (List FmNotificationType) := none
  faultyResourceTypes : Option (List FaultyResourceType) := none
  perceivedSeverities : Option (List PerceivedSeverityType) := none
  eventTypes : Option (List EventType) := none
  probableCauses : Option (List String) := none
deriving DecidableEq

/-- `AlarmV1`, as far as a filter reads it: the type of `rootCauseFaultyResource`, if that is set,
and attributes that are not nullable. -/
structure Alarm where
  rootCauseFaultyResource : Option FaultyResourceType
  perceivedSeverity : PerceivedSeverityType
  eventType : EventType
  probableCause : String
  alarmClearedTime : Option Nat
deriving DecidableEq

/-- `LccnSubscriptionV2` and `FmSubscriptionV1`: the filter, and what the notification is sent
with. -/
structure Subscription (Filter : Type) where
  id : String
  callbackUri : String
  filter : Option Filter := none
deriving DecidableEq

/-! ## Matching -/

/-- A check of an attribute that has to pass if the attribute is set. -/
def ifSet {α : Type} (attr : Option α) (check : α → Except CannotLoad Bool) :
    Except CannotLoad Bool :=
  match attr with
  | none => .ok true
  | some value => check value

/-- `match_version`. -/
def matchVersion (inst : VnfInstance) (version : Versions) : Except CannotLoad Bool := do
  if (← load "vnfSoftwareVersion" version.vnfSoftwareVersion) = inst.vnfSoftwareVersion then
    ifSet version.vnfdVersions (fun vnfdVersions => .ok (vnfdVersions.contains inst.vnfdVersion))
  else
    .ok false

/-- The body of the loop over `products.vnfProducts` in `match_products_per_provider`. -/
def matchProduct (inst : VnfInstance) (product : VnfProducts) : Except CannotLoad Bool := do
  if (← load "vnfProductName" product.vnfProductName) = inst.vnfProductName then
    ifSet product.versions (fun versions => versions.anyM (matchVersion inst))
  else
    .ok false

/-- `match_products_per_provider`. -/
def matchProductsPerProvider (inst : VnfInstance) (products : VnfProductsFromProviders) :
    Except CannotLoad Bool := do
  if (← load "vnfProvider" products.vnfProvider) = inst.vnfProvider then
    ifSet products.vnfProducts (fun vnfProducts => vnfProducts.anyM (matchProduct inst))
  else
    .ok false

/-- `match_inst_subsc_filter`. -/
def matchInstSubscFilter (instFilter : VnfInstanceSubscriptionFilter) (inst : VnfInstance) :
    Except CannotLoad Bool := do
  if ← ifSet instFilter.vnfdIds (fun ids => .ok (ids.contains inst.vnfdId)) then
    if ← ifSet instFilter.vnfProductsFromProviders
        (fun products => products.anyM (matchProductsPerProvider inst)) then
      if ← ifSet instFilter.vnfInstanceIds (fun ids => .ok (ids.contains inst.id)) then
        ifSet instFilter.vnfInstanceNames
          (fun names => do .ok (names.contains (← load "vnfInstanceName" inst.vnfInstanceName)))
      else
        .ok false
    else
      .ok false
  else
    .ok false

/-- `if value is not None and filter.obj_attr_is_set(attr): if value not in filter.attr: continue`.
-/
def ifCarried {α : Type} [DecidableEq α] (value : Option α) (attr : Option (List α)) :
    Except CannotLoad Bool :=
  match value with
  | none => .ok true
  | some value => ifSet attr (fun values => .ok (values.contains value))

/-- The body of the loop of `subscription_utils.get_matched_subscs`. -/
def matchLccn (inst : VnfInstance) (notifType : LccnNotificationType)
    (opType : Option LcmOperationType) (opState : Option LcmOperationState)
    (subsc : Subscription LifecycleChangeNotificationsFilter) : Except CannotLoad Bool :=
  match subsc.filter with
  | none => .ok true
  | some filter => do
    if ← ifSet filter.vnfInstanceSubscriptionFilter (matchInstSubscFilter · inst) then
      if ← ifCarried (some notifType) filter.notificationTypes then
        if ← ifCarried opType filter.operationTypes then
          ifCarried opState filter.operationStates
        else
          .ok false
      else
        .ok false
    else
      .ok false

/-- `subscription_utils.get_matched_subscs`, over all subscriptions. -/
def getMatchedSubscs (subscs : List (Subscription LifecycleChangeNotificationsFilter))
    (inst : VnfInstance) (notifType : LccnNotificationType) (opType : Option LcmOperationType)
    (opState : Option LcmOperationState) :
    Except CannotLoad (List (Subscription LifecycleChangeNotificationsFilter)) :=
  collect (matchLccn inst notifType opType opState) subscs []

/-- `get_inst_create_subscs`. -/
def getInstCreateSubscs (subscs : List (Subscription LifecycleChangeNotificationsFilter))
    (inst : VnfInstance) :
    Except CannotLoad (List (Subscription LifecycleChangeNotificationsFilter)) :=
  getMatchedSubscs subscs inst .vnfIdentifierCreationNotification none none

/-- `get_inst_delete_subscs`. -/
def getInstDeleteSubscs (subscs : List (Subscription LifecycleChangeNotificationsFilter))
    (inst : VnfInstance) :
    Except CannotLoad (List (Subscription LifecycleChangeNotificationsFilter)) :=
  getMatchedSubscs subscs inst .vnfIdentifierDeletionNotification none none

/-- `get_lcmocc_subscs`, with the attributes of the occurrence that it reads. -/
def getLcmoccSubscs (subscs : List (Subscription LifecycleChangeNotificationsFilter))
    (operation : LcmOperationType) (operationState : LcmOperationState) (inst : VnfInstance) :
    Except CannotLoad (List (Subscription LifecycleChangeNotificationsFilter)) :=
  getMatchedSubscs subscs inst .vnfLcmOperationOccurrenceNotification (some operation)
    (some operationState)

namespace Fm

/-- The body of the loop of `fm_subscription_utils.get_matched_subscs`. -/
def matchFm (inst : VnfInstance) (notifType : FmNotificationType) (alarm : Alarm)
    (subsc : Subscription FmNotificationsFilter) : Except CannotLoad Bool :=
  match subsc.filter with
  | none => .ok true
  | some filter => do
    if ← ifSet filter.vnfInstanceSubscriptionFilter (matchInstSubscFilter · inst) then
      if ← ifCarried (some notifType) filter.notificationTypes then
        if ← ifCarried alarm.rootCauseFaultyResource filter.faultyResourceTypes then
          if ← ifCarried (some alarm.perceivedSeverity) filter.perceivedSeverities then
            if ← ifCarried (some alarm.eventType) filter.eventTypes then
              ifCarried (some alarm.probableCause) filter.probableCauses
            else
              .ok false
          else
            .ok false
        else
          .ok false
      else
        .ok false
    else
      .ok false

/-- `fm_subscription_utils.get_matched_subscs`, over all subscriptions. -/
def getMatchedSubscs (subscs : List (Subscription FmNotificationsFilter)) (inst : VnfInstance)
    (notifType : FmNotificationType) (alarm : Alarm) :
    Except CannotLoad (List (Subscription FmNotificationsFilter)) :=
  collect (matchFm inst notifType alarm) subscs []

/-- `get_alarm_subscs`. -/
def getAlarmSubscs (subscs : List (Subscription FmNotificationsFilter)) (alarm : Alarm)
    (inst : VnfInstance) : Except CannotLoad (List (Subscription FmNotificationsFilter)) :=
  getMatchedSubscs subscs inst
    (if alarm.alarmClearedTime = none then .alarmNotification else .alarmClearedNotification) alarm

end Fm

end Tacker.Subsc
