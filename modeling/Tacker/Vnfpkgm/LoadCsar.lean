import Mathlib.Algebra.BigOperators.Group.Finset.Basic
import Mathlib.Algebra.Order.BigOperators.Group.Finset
import Mathlib.Data.Finset.Basic
import Tacker.Basis.Run

/-!
# Onboarding a VNF package

`load_csar_data` of the conductor server, which every conductor runs on its own copy of one message:
it counts itself in, loads the CSAR from the store, counts itself out, and the conductor that finds
the counter at zero records the package. Each step of a conductor is one access to the database, the
store or the message bus, and the steps of the conductors interleave in any order. A job may fail at
any step, for reasons of its own or because a record exists or the CSAR is gone; then it is reverted.
-/

namespace Tacker.Vnfpkgm

/-- `PackageOnboardingStateType`. -/
inductive OnboardingState where
  | created
  | uploading
  | processing
  | onboarded
deriving DecidableEq

/-- `PackageOperationalStateType`. -/
inductive OperationalState where
  | enabled
  | disabled
deriving DecidableEq

/-- `PackageUsageStateType`. -/
inductive UsageState where
  | inUse
  | notInUse
deriving DecidableEq

/-- The row of a VNF package. -/
structure VnfPackage where
  onboardingState : OnboardingState
  operationalState : OperationalState
  usageState : UsageState
  downloading : Int
deriving DecidableEq

/-- A deployment flavour of a CSAR, with its software images. -/
structure Flavour where
  flavourId : String
  swImages : List String

/-- What `csar_utils.load_csar_data` reads of a CSAR. -/
structure Csar where
  vnfArtifacts : List String
  flavours : List Flavour

/-- The rows that belong to a package. The VNFD has the id of the CSAR. -/
inductive Row where
  | vnfArtifact (source : String)
  | vnfPackageVnfd
  | vnfd
  | vnfdAttribute (key : String)
  | vnfDeploymentFlavour (flavourId : String)
  | vnfSoftwareImage (flavourId softwareImageId : String)
deriving DecidableEq

/-- There is one such row at most: `vnfd_id` is unique among the undeleted rows of `vnf_package_vnfd`,
and the id is the primary key of `vnfd`. -/
def Row.isUnique : Row → Bool
  | .vnfPackageVnfd | .vnfd => true
  | _ => false

/-- A row that `flavour.destroy` marks deleted. -/
def Row.ofFlavour : Row → Bool
  | .vnfDeploymentFlavour _ | .vnfSoftwareImage _ _ => true
  | _ => false

/-- `_create_flavour`: the rows it creates. -/
def createFlavour (flavour : Flavour) : List Row :=
  .vnfDeploymentFlavour flavour.flavourId ::
    flavour.swImages.map fun image => .vnfSoftwareImage flavour.flavourId image

/-- `_onboard_vnfd`: the rows it creates. -/
def onboardVnfd (csar : Csar) : List Row :=
  .vnfd :: csar.flavours.map fun flavour => .vnfdAttribute ("vnfd_" ++ flavour.flavourId)

/-- `_onboard_vnf_package`: the rows it creates, each on its own. -/
def onboardVnfPackage (csar : Csar) : List Row :=
  csar.vnfArtifacts.map .vnfArtifact ++ .vnfPackageVnfd :: onboardVnfd csar ++
    csar.flavours.flatMap createFlavour

/-! ## The jobs -/

/-- How far the job of a conductor is: in `load_csar_data` up to `skipped` and `saved`, and then in
`revert_upload_vnf_package`. -/
inductive Job where
  | waiting
  | loading
  | loaded
  | counted
  | onboarding (rest : List Row)
  | skipped
  | saved
  | failing
  | casting
  | destroying
  | restoring
  | failed
deriving DecidableEq

/-- What the steps read and write, for the conductors of the type `κ`. -/
structure State (κ : Type) where
  vnfPackage : VnfPackage
  rows : List Row
  inStore : Bool
  extracted : κ → Bool
  deleteCsar : κ → Nat
  jobs : κ → Job

/-- The steps. The conductor takes the next step of its job, the job fails, or the conductor takes a
`delete_csar` message. -/
inductive Event (κ : Type) where
  | countIn (c : κ)
  | loadCsar (c : κ)
  | countOut (c : κ)
  | check (c : κ)
  | create (c : κ)
  | save (c : κ)
  | fail (c : κ)
  | deleteStored (c : κ)
  | castDelete (c : κ)
  | destroyFlavours (c : κ)
  | restore (c : κ)
  | deleteExtracted (c : κ)
deriving DecidableEq

variable {κ : Type} [DecidableEq κ]

/-- The job of a conductor goes on. -/
def State.setJob (s : State κ) (c : κ) (job : Job) : State κ :=
  { s with jobs := Function.update s.jobs c job }

/-- The job finds that it is the one to record the package. -/
def State.isEntitled (s : State κ) : Bool :=
  s.vnfPackage.downloading = 0 && s.vnfPackage.onboardingState = .processing

/-- A job can still fail: all but those that have ended or are being reverted. -/
def Job.mayFail : Job → Bool
  | .waiting | .loading | .loaded | .counted | .onboarding _ => true
  | _ => false

/-- One step. -/
def next (conductors : Finset κ) (csar : Csar) (s : State κ) : Event κ → Option (State κ)
  | .countIn c =>
    if s.jobs c = .waiting then
      some { s.setJob c .loading with
        vnfPackage := { s.vnfPackage with downloading := s.vnfPackage.downloading + 1 } }
    else none
  | .loadCsar c =>
    if s.jobs c = .loading then
      if s.inStore then
        some { s.setJob c .loaded with extracted := Function.update s.extracted c true }
      else some (s.setJob c .failing)
    else none
  | .countOut c =>
    if s.jobs c = .loaded then
      some { s.setJob c .counted with
        vnfPackage := { s.vnfPackage with downloading := s.vnfPackage.downloading - 1 } }
    else none
  | .check c =>
    if s.jobs c = .counted then
      if s.isEntitled then some (s.setJob c (.onboarding (onboardVnfPackage csar)))
      else some (s.setJob c .skipped)
    else none
  | .create c =>
    match s.jobs c with
    | .onboarding (row :: rest) =>
      if row.isUnique && row ∈ s.rows then some (s.setJob c .failing)
      else some { s.setJob c (.onboarding rest) with rows := s.rows ++ [row] }
    | _ => none
  | .save c =>
    if s.jobs c = .onboarding [] then
      some { s.setJob c .saved with
        vnfPackage := { s.vnfPackage with
          onboardingState := .onboarded
          operationalState := .enabled } }
    else none
  | .fail c => if (s.jobs c).mayFail then some (s.setJob c .failing) else none
  | .deleteStored c =>
    if s.jobs c = .failing then some { s.setJob c .casting with inStore := false } else none
  | .castDelete c =>
    if s.jobs c = .casting then
      some { s.setJob c .destroying with
        deleteCsar := fun d => if d ∈ conductors then s.deleteCsar d + 1 else s.deleteCsar d }
    else none
  | .destroyFlavours c =>
    if s.jobs c = .destroying then
      some { s.setJob c .restoring with rows := s.rows.filter fun row => !row.ofFlavour }
    else none
  | .restore c =>
    if s.jobs c = .restoring then
      some { s.setJob c .failed with
        vnfPackage := { s.vnfPackage with onboardingState := .created } }
    else none
  | .deleteExtracted c =>
    if 0 < s.deleteCsar c then
      some { s with
        extracted := Function.update s.extracted c false
        deleteCsar := Function.update s.deleteCsar c (s.deleteCsar c - 1) }
    else none

/-!
## The steps of the jobs

What each step of `load_csar_data` and of its reversal does, one rule for each outcome.
-/

open Tacker.Basis

variable {conductors : Finset κ} {csar : Csar} {s t : State κ} {e : Event κ}

/-- The outcomes of the steps. -/
inductive Fires (conductors : Finset κ) (csar : Csar) (s : State κ) : Event κ → State κ → Prop where
  | countIn {c} (before : s.jobs c = .waiting) : Fires conductors csar s (.countIn c)
      { s.setJob c .loading with
        vnfPackage := { s.vnfPackage with downloading := s.vnfPackage.downloading + 1 } }
  | loadCsar {c} (before : s.jobs c = .loading) (there : s.inStore = true) :
      Fires conductors csar s (.loadCsar c)
        { s.setJob c .loaded with extracted := Function.update s.extracted c true }
  | loadMissing {c} (before : s.jobs c = .loading) (gone : s.inStore = false) :
      Fires conductors csar s (.loadCsar c) (s.setJob c .failing)
  | countOut {c} (before : s.jobs c = .loaded) : Fires conductors csar s (.countOut c)
      { s.setJob c .counted with
        vnfPackage := { s.vnfPackage with downloading := s.vnfPackage.downloading - 1 } }
  | checkEntitled {c} (before : s.jobs c = .counted) (entitled : s.isEntitled = true) :
      Fires conductors csar s (.check c) (s.setJob c (.onboarding (onboardVnfPackage csar)))
  | checkSkips {c} (before : s.jobs c = .counted) (skips : s.isEntitled = false) :
      Fires conductors csar s (.check c) (s.setJob c .skipped)
  | create {c row rest} (before : s.jobs c = .onboarding (row :: rest))
      (free : row.isUnique = true → row ∉ s.rows) : Fires conductors csar s (.create c)
        { s.setJob c (.onboarding rest) with rows := s.rows ++ [row] }
  | createDuplicate {c row rest} (before : s.jobs c = .onboarding (row :: rest))
      (unique : row.isUnique = true) (taken : row ∈ s.rows) :
      Fires conductors csar s (.create c) (s.setJob c .failing)
  | save {c} (before : s.jobs c = .onboarding []) : Fires conductors csar s (.save c)
      { s.setJob c .saved with
        vnfPackage := { s.vnfPackage with
          onboardingState := .onboarded
          operationalState := .enabled } }
  | fail {c} (may : (s.jobs c).mayFail = true) :
      Fires conductors csar s (.fail c) (s.setJob c .failing)
  | deleteStored {c} (before : s.jobs c = .failing) : Fires conductors csar s (.deleteStored c)
      { s.setJob c .casting with inStore := false }
  | castDelete {c} (before : s.jobs c = .casting) : Fires conductors csar s (.castDelete c)
      { s.setJob c .destroying with
        deleteCsar := fun d => if d ∈ conductors then s.deleteCsar d + 1 else s.deleteCsar d }
  | destroyFlavours {c} (before : s.jobs c = .destroying) : Fires conductors csar s (.destroyFlavours c)
      { s.setJob c .restoring with rows := s.rows.filter fun row => !row.ofFlavour }
  | restore {c} (before : s.jobs c = .restoring) : Fires conductors csar s (.restore c)
      { s.setJob c .failed with
        vnfPackage := { s.vnfPackage with onboardingState := .created } }
  | deleteExtracted {c} (waits : 0 < s.deleteCsar c) : Fires conductors csar s (.deleteExtracted c)
      { s with
        extracted := Function.update s.extracted c false
        deleteCsar := Function.update s.deleteCsar c (s.deleteCsar c - 1) }

/-- A step has one of the outcomes. -/
theorem fires_of_next (eq : next conductors csar s e = some t) : Fires conductors csar s e t := by
  cases e with
  | countIn c =>
    obtain ⟨before, ⟨⟩⟩ := Option.ite_none_right_eq_some.mp eq
    exact .countIn before
  | loadCsar c =>
    obtain ⟨before, eq⟩ := Option.ite_none_right_eq_some.mp eq
    cases there : s.inStore with
    | true =>
      rw [there] at eq
      cases eq
      exact .loadCsar before there
    | false =>
      rw [there] at eq
      cases eq
      exact .loadMissing before there
  | countOut c =>
    obtain ⟨before, ⟨⟩⟩ := Option.ite_none_right_eq_some.mp eq
    exact .countOut before
  | check c =>
    obtain ⟨before, eq⟩ := Option.ite_none_right_eq_some.mp eq
    cases entitled : s.isEntitled with
    | true =>
      rw [entitled] at eq
      cases eq
      exact .checkEntitled before entitled
    | false =>
      rw [entitled] at eq
      cases eq
      exact .checkSkips before entitled
  | create c =>
    rw [next] at eq
    split at eq
    · case h_1 row rest before =>
      split at eq
      · case isTrue duplicate =>
        obtain ⟨unique, taken⟩ := Bool.and_eq_true_iff.mp duplicate
        cases eq
        exact .createDuplicate before unique (of_decide_eq_true taken)
      · case isFalse free =>
        cases eq
        refine .create before fun unique taken => free ?_
        rw [unique, decide_eq_true taken, Bool.and_self]
    · cases eq
  | save c =>
    obtain ⟨before, ⟨⟩⟩ := Option.ite_none_right_eq_some.mp eq
    exact .save before
  | fail c =>
    obtain ⟨may, ⟨⟩⟩ := Option.ite_none_right_eq_some.mp eq
    exact .fail may
  | deleteStored c =>
    obtain ⟨before, ⟨⟩⟩ := Option.ite_none_right_eq_some.mp eq
    exact .deleteStored before
  | castDelete c =>
    obtain ⟨before, ⟨⟩⟩ := Option.ite_none_right_eq_some.mp eq
    exact .castDelete before
  | destroyFlavours c =>
    obtain ⟨before, ⟨⟩⟩ := Option.ite_none_right_eq_some.mp eq
    exact .destroyFlavours before
  | restore c =>
    obtain ⟨before, ⟨⟩⟩ := Option.ite_none_right_eq_some.mp eq
    exact .restore before
  | deleteExtracted c =>
    obtain ⟨waits, ⟨⟩⟩ := Option.ite_none_right_eq_some.mp eq
    exact .deleteExtracted waits

end Tacker.Vnfpkgm
