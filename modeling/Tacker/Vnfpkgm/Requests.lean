import Tacker.Vnfpkgm.Registered

/-!
# Requests for a VNF package

What the requests of the package management do to one package: `create`, `patch`, `delete` and the
two ways to upload a CSAR. An upload is followed by the jobs of the conductors, in any order of their
steps, or fails before the message is sent to them. No request arrives while the jobs run. The CSARs
of one package have the same VNFD id.
-/

namespace Tacker.Vnfpkgm

open Tacker.Basis

/-- What a request is refused with. -/
structure Fault where
  status : ℕ
  explanation : String
deriving DecidableEq

/-- The texts of the states. -/
def OnboardingState.text : OnboardingState → String
  | .created => "CREATED"
  | .uploading => "UPLOADING"
  | .processing => "PROCESSING"
  | .onboarded => "ONBOARDED"

@[inherit_doc OnboardingState.text]
def OperationalState.text : OperationalState → String
  | .enabled => "ENABLED"
  | .disabled => "DISABLED"

@[inherit_doc OnboardingState.text]
def UsageState.text : UsageState → String
  | .inUse => "IN_USE"
  | .notInUse => "NOT_IN_USE"

/-- A package, with what its conductors have of it. -/
structure Package (κ : Type) where
  id : String
  state : State κ
  userData : List (String × String)

/-- The body of a `patch` request. -/
structure PatchBody where
  operationalState : Option OperationalState
  userDefinedData : List (String × String)

variable {κ : Type}

/-- `create`. -/
def create (id : String) (userDefinedData : List (String × String)) : Package κ where
  id := id
  state :=
    { vnfPackage := ⟨.created, .disabled, .notInUse, 0⟩
      rows := []
      inStore := false
      extracted := fun _ => false
      deleteCsar := fun _ => 0
      jobs := fun _ => .skipped }
  userData := userDefinedData

/-- The package with another record. -/
def Package.setVnfPackage (p : Package κ) (vnfPackage : VnfPackage) : Package κ :=
  { p with state := { p.state with vnfPackage := vnfPackage } }

/-- `patch`, as far as the operational state goes. -/
def patchOperationalState (p : Package κ) (body : PatchBody) : Except Fault (Package κ) :=
  match body.operationalState with
  | none => .ok p
  | some operationalState =>
    if p.state.vnfPackage.onboardingState = .onboarded then
      if p.state.vnfPackage.operationalState = operationalState then
        .error ⟨409, "VNF Package " ++ p.id ++ " is already in " ++ operationalState.text ++
          " operational state"⟩
      else .ok (p.setVnfPackage { p.state.vnfPackage with operationalState := operationalState })
    else if body.userDefinedData = [] then
      .error ⟨400, "Updating operational state is not allowed for VNF Package " ++ p.id ++
        " when onboarding state is not ONBOARDED"⟩
    else .ok p

/-- `_update_user_defined_data`. -/
def updateUserDefinedData (userData changed : List (String × String)) : List (String × String) :=
  (userData.map fun row => (row.1, (changed.lookup row.1).getD row.2)) ++
    changed.filter fun row => (userData.lookup row.1).isNone

/-- `patch`. -/
def patch (p : Package κ) (body : PatchBody) : Except Fault (Package κ) := do
  let q ← patchOperationalState p body
  if body.userDefinedData = [] then .ok q
  else
    let changed := body.userDefinedData.filter fun row => p.userData.lookup row.1 ≠ some row.2
    if changed = [] then
      .error ⟨409, "The userDefinedData provided in update request is as the existing " ++
        "userDefinedData of vnf package " ++ p.id ++ ". Nothing to update."⟩
    else .ok { q with userData := updateUserDefinedData p.userData changed }

/-- The check of `delete`. -/
def checkDelete (p : Package κ) : Except Fault Unit :=
  if p.state.vnfPackage.operationalState = .enabled ∨ p.state.vnfPackage.usageState = .inUse then
    .error ⟨409, "VNF Package " ++ p.id ++ " cannot be deleted as it's operational state is " ++
      p.state.vnfPackage.operationalState.text ++ " and usage state is " ++
      p.state.vnfPackage.usageState.text ++ "."⟩
  else .ok ()

/-- The check of `upload_vnf_package_content` and `upload_vnf_package_from_uri`. -/
def checkUpload (p : Package κ) : Except Fault Unit :=
  if p.state.vnfPackage.onboardingState ≠ .created then
    .error ⟨409, "VNF Package " ++ p.id ++ " onboarding state is not CREATED"⟩
  else .ok ()

/-! ## Uploads -/

/-- The message for the conductors is sent. A conductor takes its messages in their order, so that it
is through with the `delete_csar` messages of an earlier upload when its job begins. -/
def State.send [DecidableEq κ] (s : State κ) (conductors : Finset κ) : State κ :=
  { s with
    vnfPackage := { s.vnfPackage with
      onboardingState := .processing
      downloading := 0 }
    inStore := true
    extracted := fun c => s.extracted c && s.deleteCsar c = 0
    deleteCsar := fun _ => 0
    jobs := fun c => if c ∈ conductors then .waiting else .skipped }

/-- The package is recorded in an onboarding state. -/
def State.setOnboardingState (s : State κ) (onboardingState : OnboardingState) : State κ :=
  { s with vnfPackage := { s.vnfPackage with onboardingState := onboardingState } }

variable [DecidableEq κ] {conductors : Finset κ} {csar : Csar} {s t : State κ}

/-- What becomes of an upload once the package is `UPLOADING`. -/
inductive Uploads (conductors : Finset κ) (csar : Csar) (s : State κ) : State κ → Prop where
  /-- The request breaks off, and nothing sets the package back. -/
  | breaksOff (inStore : Bool) :
      Uploads conductors csar s { s.setOnboardingState .uploading with inStore := inStore }
  /-- The CSAR could not be stored, or the package not be saved afterwards. -/
  | notStored (inStore : Bool) :
      Uploads conductors csar s { s.setOnboardingState .created with inStore := inStore }
  /-- The conductor that took the upload could not send the message, and reverts the upload. -/
  | notSent (processing : Bool) :
      Uploads conductors csar s
        { s with
          inStore := false
          rows := s.rows.filter fun row => !row.ofFlavour
          deleteCsar := fun c => if c ∈ conductors then s.deleteCsar c + 1 else s.deleteCsar c
          vnfPackage := { s.vnfPackage with
            onboardingState := .created
            downloading := if processing then 0 else s.vnfPackage.downloading } }
  /-- The jobs of the conductors, all of which come to an end. -/
  | processed {tr t} (run : Run (Step conductors csar) (s.send conductors) tr t)
      (ended : ∀ c ∈ conductors, (t.jobs c).hasEnded = true) : Uploads conductors csar s t

/-! ## Histories of requests -/

/-- The requests, and what the management of the instances does to a package. -/
inductive Request where
  | patch (body : PatchBody)
  | delete
  | upload (csar : Csar)
  | use (usageState : UsageState)

/-- The package after a request that was not refused: there is none once it was deleted. -/
inductive Answers (conductors : Finset κ) : Option (Package κ) → Request → Option (Package κ) → Prop where
  | patch {p q body} (eq : patch p body = .ok q) : Answers conductors (some p) (.patch body) (some q)
  | delete {p} (eq : checkDelete p = .ok ()) : Answers conductors (some p) .delete none
  | upload {p csar t} (eq : checkUpload p = .ok ()) (uploads : Uploads conductors csar p.state t) :
      Answers conductors (some p) (.upload csar) (some { p with state := t })
  | use {p} (usageState : UsageState) : Answers conductors (some p) (.use usageState)
      (some (p.setVnfPackage { p.state.vnfPackage with usageState := usageState }))

omit [DecidableEq κ] in
/-- What a `patch` that is not refused does to the states of the package. -/
lemma patch_cases {p q : Package κ} {body : PatchBody} (eq : patch p body = .ok q) :
    q.state = p.state ∨ p.state.vnfPackage.onboardingState = .onboarded ∧
      ∃ operationalState, q.state = { p.state with
        vnfPackage := { p.state.vnfPackage with operationalState := operationalState } } := by
  have states : ∀ {q' : Package κ}, patchOperationalState p body = .ok q' → q'.state = p.state ∨
      p.state.vnfPackage.onboardingState = .onboarded ∧
        ∃ operationalState, q'.state = { p.state with
          vnfPackage := { p.state.vnfPackage with operationalState := operationalState } } := by
    intro q' eq
    rw [patchOperationalState] at eq
    split at eq
    · cases eq
      exact .inl rfl
    · case h_2 operationalState given =>
      split at eq
      · case isTrue onboarded =>
        split at eq
        · cases eq
        · cases eq
          exact .inr ⟨onboarded, operationalState, rfl⟩
      · split at eq
        · cases eq
        · cases eq
          exact .inl rfl
  rw [patch] at eq
  cases first : patchOperationalState p body with
  | error fault =>
    rw [first] at eq
    cases eq
  | ok q' =>
    rw [first] at eq
    replace eq : (if body.userDefinedData = [] then (.ok q' : Except Fault (Package κ)) else _) = .ok q :=
      eq
    have known := states first
    split at eq
    · cases eq
      exact known
    · split at eq
      · cases eq
      · cases eq
        exact known

end Tacker.Vnfpkgm
