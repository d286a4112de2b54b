import Mathlib.Data.Finset.Union
import Mathlib.Data.Finset.Image
import Mathlib.Data.Finset.Option
import Mathlib.Data.Finset.SDiff
import Tacker.Basis.Regex
import Tacker.Basis.Run
import Tacker.UserData.Template

/-!
# Availability zone reselection

`_update_stack_retry` of `infra_drivers/openstack/openstack.py`: when Heat fails to create or to
update a stack because of a zone, the VDU instances in that zone are moved to another one and the
stack is updated again. One step is one turn of the loop, together with the answer of Heat. A set
has no order of its own, so that `list(zones)[0]` is any of its members.
-/

namespace Tacker.Openstack

open Tacker.Basis
open Tacker.UserData (rpartition)

/-! ## Data -/

/-- `StackOperationFailed`. -/
structure StackOperationFailed where
  title : String
  detail : String
deriving DecidableEq

/-- The parameters of a VDU instance in `fields['parameters']['nfv']['VDU']`; those that the
reselection does not read are left out. -/
structure VduParameters where
  locationConstraints : Option String
deriving DecidableEq

/-- `vdu_dict`. -/
abbrev VduDict := String → Option VduParameters

/-- A VNFC of the instance: its VDU, and the `vdu_idx` and the `zone` of its metadata. -/
structure PlacedVnfc where
  vduId : String
  vduIdx : Option Nat
  zone : Option String
deriving DecidableEq

/-- `_rsc_with_idx`. -/
def PlacedVnfc.vduWithIdx (vnfc : PlacedVnfc) : String :=
  match vnfc.vduIdx with
  | none => vnfc.vduId
  | some idx => vnfc.vduId ++ "-" ++ toString idx

/-- What does not change during the reselection: the configuration, the zones of Nova, the instance,
the anti-affinity rules with their scopes, and the VDU instances that may be moved.
`azResourceError` tells whether a detail matches the configured pattern. -/
structure Reselection where
  placementFallbackBestEffort : Bool
  placementAzSelectRetry : Int
  azResourceError : String → Bool
  zones : Finset String
  inst : List PlacedVnfc
  antiRules : List (List String × String)
  vduIds : Finset String

/-! ## The failed zone -/

/-- The text of the expression. -/
def literal : List Char → Regex → Regex
  | [], r => r
  | c :: cs, r => .seq (.lit c) (literal cs r)

/-- `resources\.((.*)-([0-9]+))`. -/
def resourceOfVdu : Regex :=
  literal "resources.".toList (.group 1 (.seq (.group 2 (.star (.char (· != '\n'))))
    (.seq (.lit '-') (.group 3 (.plus (.char fun c => '0' ≤ c ∧ c ≤ '9'))))))

/-- `match_result.group(1)` of `re.search`. -/
def searchVdu : List Char → Option String
  | [] => none
  | c :: cs =>
    match resourceOfVdu.match? (c :: cs) with
    | some m => some (String.ofList (m.group (c :: cs) 1))
    | none => searchVdu cs

/-- The zone that the parameters of a VDU instance name. -/
def zoneOf (vduDict : VduDict) (vduId : String) : Option String :=
  (vduDict vduId).bind VduParameters.locationConstraints

namespace Reselection

variable (r : Reselection)

/-- `_check_and_get_failed_zone`, if it returns a zone. -/
def checkAndGetFailedZone (detail : String) (vduDict : VduDict) : Option (String × String) :=
  if r.azResourceError detail then do
    let vduId ← searchVdu detail.toList
    let zone ← zoneOf vduDict vduId
    return (vduId, zone)
  else none

/-! ## The new zone -/

/-- `_get_vdu_from_vdu_with_idx`. -/
def vduOf (vduWithIdx : String) : Option String :=
  (rpartition vduWithIdx).map Prod.fst

/-- `_get_anti_vdus`. -/
def getAntiVdus (targetVdu : Option String) : Finset String :=
  (r.antiRules.toFinset.filter fun rule => rule.2 = "zone" ∧ ∃ vdu ∈ targetVdu, vdu ∈ rule.1).biUnion
    fun rule =>
      if rule.1.length = 1 then targetVdu.toFinset
      else rule.1.toFinset.filter fun vdu => some vdu ≠ targetVdu

/-- `_get_exclude_zone`. -/
def getExcludeZone (failedVduId : String) (vduDict : VduDict) : Finset String :=
  ((r.vduIds.filter fun vduId =>
    ∃ vdu ∈ vduOf vduId, vdu ∈ r.getAntiVdus (vduOf failedVduId)).biUnion
      fun vduId => (zoneOf vduDict vduId).toFinset) ∪
  ((r.inst.toFinset.filter fun vnfc =>
    vnfc.vduId ∈ r.getAntiVdus (vduOf failedVduId)).biUnion fun vnfc => vnfc.zone.toFinset)

/-- The zones one of which is selected. -/
def candidates (failedVduId : String) (vduDict : VduDict) (failedZones : Finset String) :
    Finset String :=
  let excludeZones := r.getExcludeZone failedVduId vduDict
  if ((r.zones \ excludeZones) \ failedZones).Nonempty then (r.zones \ excludeZones) \ failedZones
  else excludeZones \ failedZones

/-- The VDU instances in the failed zone are moved. -/
def move (failedZone newZone : String) (vduDict : VduDict) : VduDict := fun vduId =>
  (vduDict vduId).map fun parameters =>
    if vduId ∈ r.vduIds ∧ parameters.locationConstraints = some failedZone then
      { parameters with locationConstraints := some newZone }
    else parameters

end Reselection

/-! ## The loop -/

/-- Where the reselection stands. -/
inductive LoopState where
  /-- Before the next turn; the exception is the one that is going to be raised. -/
  | selecting (vduDict : VduDict) (failedZones : Finset String) (failedVduId failedZone : String)
      (retryCount : Nat) (errorEx : StackOperationFailed)
  /-- The stack has been updated. -/
  | updated (vduDict : VduDict)
  /-- The exception has been raised. -/
  | raised (errorEx : StackOperationFailed)

/-- What happens in a turn of the loop. -/
inductive Retry where
  /-- The zone is selected, and Heat answers. -/
  | attempt (newZone : String) (failure : Option StackOperationFailed)
  /-- No zone is left, or the limit is reached. -/
  | giveUp
deriving DecidableEq

namespace Reselection

variable (r : Reselection)

/-- `retry_count`; a negative number allows no retry. -/
def retryLimit : Nat :=
  if r.placementAzSelectRetry = 0 then r.zones.card else r.placementAzSelectRetry.toNat

/-- What follows a failure of Heat. -/
def afterFailure (vduDict : VduDict) (failedZones : Finset String) (retryCount : Nat)
    (ex : StackOperationFailed) : LoopState :=
  match r.checkAndGetFailedZone ex.detail vduDict with
  | none => .raised ex
  | some (vduId, zone) => .selecting vduDict (insert zone failedZones) vduId zone retryCount ex

/-- The beginning of `_update_stack_retry`. -/
def start (vduDict : VduDict) (errorEx : StackOperationFailed) : LoopState :=
  if r.placementFallbackBestEffort then r.afterFailure vduDict ∅ r.retryLimit errorEx
  else .raised errorEx

/-- One turn of the loop. -/
def step : LoopState → Retry → Option LoopState
  | .selecting vduDict failedZones failedVduId failedZone (n + 1) _, .attempt newZone failure =>
    if newZone ∈ r.candidates failedVduId vduDict failedZones then
      match failure with
      | none => some (.updated (r.move failedZone newZone vduDict))
      | some ex => some (r.afterFailure (r.move failedZone newZone vduDict) failedZones n ex)
    else none
  | .selecting vduDict failedZones failedVduId _ n errorEx, .giveUp =>
    if n = 0 ∨ r.candidates failedVduId vduDict failedZones = ∅ then some (.raised errorEx) else none
  | _, _ => none

end Reselection

end Tacker.Openstack
