import Tacker.Basis.Tally
import Tacker.Vnfpkgm.LoadCsar

/-!
# Onboarding without a failed job

What holds while no job has failed, whichever order the conductors take their steps in: the counter
counts the jobs that load, the rows are those that the jobs have created, and the package is recorded
as soon as one of them has saved it.
-/

namespace Tacker.Vnfpkgm

open Tacker.Basis

variable {κ : Type} [DecidableEq κ] {conductors : Finset κ} {csar : Csar} {start s t : State κ}
  {e : Event κ} {tr : List (State κ × Event κ)}

/-! ## What a job counts for -/

namespace Job

/-- The job failed or is being reverted. -/
def isReverted : Job → Bool
  | .failing | .casting | .destroying | .restoring | .failed => true
  | _ => false

/-- The job is over. -/
def hasEnded : Job → Bool
  | .skipped | .saved | .failed => true
  | _ => false

/-- The job is in `downloading`. -/
def weight : Job → ℕ
  | .loading | .loaded => 1
  | _ => 0

/-- The job found that it is the one to record the package. -/
def owns : Job → ℕ
  | .onboarding _ | .saved => 1
  | _ => 0

/-- The CSAR was extracted. -/
def hasExtracted : Job → Bool
  | .loaded | .counted | .onboarding _ | .skipped | .saved => true
  | _ => false

/-- How many rows like the given one the job has created. -/
def made (csar : Csar) (row : Row) : Job → ℕ
  | .onboarding rest => (onboardVnfPackage csar).count row - rest.count row
  | .saved => (onboardVnfPackage csar).count row
  | _ => 0

end Job

/-- The step is a failure for a reason of its own. -/
def isFailure (p : State κ × Event κ) : Bool :=
  match p.2 with
  | .fail _ => true
  | _ => false

/-- The step is one in which a job finds that it is the one to record the package. -/
def isEntitlement (p : State κ × Event κ) : Bool :=
  match p.2 with
  | .check _ => p.1.isEntitled
  | _ => false

/-- The message for the conductors was just sent. -/
structure Sent (conductors : Finset κ) (s : State κ) : Prop where
  processing : s.vnfPackage.onboardingState = .processing
  downloading : s.vnfPackage.downloading = 0
  inStore : s.inStore = true
  deleteCsar : ∀ c, s.deleteCsar c = 0
  jobs : ∀ c, s.jobs c = if c ∈ conductors then .waiting else .skipped

/-- The VNFD of the package was not recorded yet. -/
def Unrecorded (s : State κ) : Prop :=
  ∀ row ∈ s.rows, row.isUnique = false

/-! ## The rows of a package -/

/-- A row of which there is one at most is created once. -/
lemma count_onboardVnfPackage {row : Row} (unique : row.isUnique = true) :
    (onboardVnfPackage csar).count row = 1 := by
  have noArtifact : (csar.vnfArtifacts.map Row.vnfArtifact).count row = 0 := by
    rw [List.count_eq_zero, List.mem_map]
    rintro ⟨source, -, rfl⟩
    cases unique
  have noAttribute : (csar.flavours.map fun flavour =>
      Row.vnfdAttribute ("vnfd_" ++ flavour.flavourId)).count row = 0 := by
    rw [List.count_eq_zero, List.mem_map]
    rintro ⟨flavour, -, rfl⟩
    cases unique
  have noFlavour : (csar.flavours.flatMap createFlavour).count row = 0 := by
    rw [List.count_eq_zero, List.mem_flatMap]
    rintro ⟨flavour, -, mem⟩
    rcases List.mem_cons.mp mem with rfl | mem
    · cases unique
    · obtain ⟨image, -, rfl⟩ := List.mem_map.mp mem
      cases unique
  rw [onboardVnfPackage, onboardVnfd, List.count_append, List.count_append, noArtifact, noFlavour,
    List.count_cons, List.count_cons, noAttribute]
  cases row with
  | vnfPackageVnfd => rfl
  | vnfd => rfl
  | _ => cases unique

/-- Creating the next row is one more of its kind. -/
lemma made_next {row row' : Row} {rest : List Row} (suffix : row' :: rest <:+ onboardVnfPackage csar) :
    Job.made csar row (.onboarding rest) =
      Job.made csar row (.onboarding (row' :: rest)) + [row'].count row := by
  have bound := (suffix.sublist).count_le row
  rw [List.count_cons] at bound
  rw [Job.made, Job.made, List.count_cons, List.count_singleton]
  omega

/-! ## The invariant -/

/-- What holds while no job has failed. -/
structure Undisturbed (conductors : Finset κ) (csar : Csar) (start : State κ)
    (tr : List (State κ × Event κ)) (s : State κ) : Prop where
  inStore : s.inStore = true
  deleteCsar : ∀ c, s.deleteCsar c = 0
  downloading : s.vnfPackage.downloading = ((∑ c ∈ conductors, (s.jobs c).weight : ℕ) : ℤ)
  extracted : ∀ c ∈ conductors, (s.jobs c).hasExtracted = true → s.extracted c = true
  entitlements : tr.countP isEntitlement = ∑ c ∈ conductors, (s.jobs c).owns
  rows : ∀ row, s.rows.count row = start.rows.count row + ∑ c ∈ conductors, (s.jobs c).made csar row
  suffix : ∀ c rest, s.jobs c = .onboarding rest → rest <:+ onboardVnfPackage csar
  recorded : ∀ c, s.jobs c = .saved →
    s.vnfPackage.onboardingState = .onboarded ∧ s.vnfPackage.operationalState = .enabled
  unrecorded : (∀ c, s.jobs c ≠ .saved) → s.vnfPackage.onboardingState = .processing
  pending : tr.countP isEntitlement = 0 → ∃ c ∈ conductors, s.jobs c ≠ .skipped

lemma Sent.idle (sent : Sent conductors start) (c : κ) :
    start.jobs c = .waiting ∨ start.jobs c = .skipped := by
  rw [sent.jobs]
  split
  · exact .inl rfl
  · exact .inr rfl

lemma Sent.not_reverted (sent : Sent conductors start) (c : κ) : (start.jobs c).isReverted = false := by
  rcases sent.idle c with job | job
  · rw [job]
    rfl
  · rw [job]
    rfl

lemma Sent.undisturbed (sent : Sent conductors start) (some : conductors.Nonempty) :
    Undisturbed conductors csar start [] start := by
  have atStart : ∀ c ∈ conductors, start.jobs c = .waiting := by
    intro c mem
    rw [sent.jobs, if_pos mem]
  have none : ∀ (count : Job → ℕ), count .waiting = 0 → ∑ c ∈ conductors, count (start.jobs c) = 0 := by
    intro count zero
    apply Finset.sum_eq_zero
    intro c mem
    rw [atStart c mem, zero]
  refine ⟨sent.inStore, sent.deleteCsar, ?_, ?_, ?_, ?_, ?_, ?_, fun _ => sent.processing, ?_⟩
  · rw [sent.downloading, none Job.weight rfl]
    rfl
  · intro c mem extracted
    rw [atStart c mem] at extracted
    cases extracted
  · rw [none Job.owns rfl]
    rfl
  · intro row
    rw [none (Job.made csar row) rfl, Nat.add_zero]
  · intro c rest job
    rcases sent.idle c with idle | idle
    · cases idle.symm.trans job
    · cases idle.symm.trans job
  · intro c job
    rcases sent.idle c with idle | idle
    · cases idle.symm.trans job
    · cases idle.symm.trans job
  · intro _
    obtain ⟨c, mem⟩ := some
    refine ⟨c, mem, ?_⟩
    rw [atStart c mem]
    exact Job.noConfusion

/-- A job goes on: what it counts for changes, and nothing else. -/
structure Moves (csar : Csar) (c : κ) (job : Job) (s t : State κ) (e : Event κ) : Prop where
  jobs : t.jobs = Function.update s.jobs c job
  inStore : t.inStore = s.inStore
  deleteCsar : t.deleteCsar = s.deleteCsar
  downloading : t.vnfPackage.downloading + (s.jobs c).weight = s.vnfPackage.downloading + job.weight
  others : ∀ d, d ≠ c → t.extracted d = s.extracted d
  extracted : job.hasExtracted = true → t.extracted c = true
  entitlement : (if isEntitlement (s, e) = true then 1 else 0) + (s.jobs c).owns = job.owns
  rows : ∀ row, t.rows.count row + (s.jobs c).made csar row = s.rows.count row + job.made csar row
  suffix : ∀ rest, job = .onboarding rest → rest <:+ onboardVnfPackage csar

omit [DecidableEq κ] in
lemma countP_snoc (tr : List (State κ × Event κ)) (p : State κ × Event κ) :
    (tr ++ [p]).countP isEntitlement =
      tr.countP isEntitlement + if isEntitlement p = true then 1 else 0 := by
  rw [List.countP_append, List.countP_singleton]

/-- The invariant after a job went on. -/
lemma Undisturbed.moves (undisturbed : Undisturbed conductors csar start tr s) {c : κ} {job : Job}
    (mem : c ∈ conductors) (moves : Moves csar c job s t e)
    (record : (job = .saved ∧ t.vnfPackage.onboardingState = .onboarded ∧
        t.vnfPackage.operationalState = .enabled) ∨
      (job ≠ .saved ∧ s.jobs c ≠ .saved ∧
        t.vnfPackage.onboardingState = s.vnfPackage.onboardingState ∧
        t.vnfPackage.operationalState = s.vnfPackage.operationalState))
    (pending : (tr ++ [(s, e)]).countP isEntitlement = 0 → ∃ d ∈ conductors, t.jobs d ≠ .skipped) :
    Undisturbed conductors csar start (tr ++ [(s, e)]) t := by
  have tally : ∀ count : Job → ℕ, (∑ d ∈ conductors, count (t.jobs d)) + count (s.jobs c) =
      (∑ d ∈ conductors, count (s.jobs d)) + count job := by
    intro count
    rw [moves.jobs]
    exact tally_update mem s.jobs job count
  have here : t.jobs c = job := by rw [moves.jobs, Function.update_self]
  have there : ∀ d, d ≠ c → t.jobs d = s.jobs d := by
    intro d ne
    rw [moves.jobs, Function.update_of_ne ne]
  refine ⟨moves.inStore.trans undisturbed.inStore, ?_, ?_, ?_, ?_, ?_, ?_, ?_, ?_, pending⟩
  · intro d
    rw [moves.deleteCsar]
    exact undisturbed.deleteCsar d
  · have counted := moves.downloading
    have before := undisturbed.downloading
    have tallied := tally Job.weight
    omega
  · intro d mem' extracted
    by_cases same : d = c
    · subst same
      rw [here] at extracted
      exact moves.extracted extracted
    · rw [there d same] at extracted
      rw [moves.others d same]
      exact undisturbed.extracted d mem' extracted
  · have counted := moves.entitlement
    have before := undisturbed.entitlements
    have tallied := tally Job.owns
    rw [countP_snoc]
    omega
  · intro row
    have counted := moves.rows row
    have before := undisturbed.rows row
    have tallied := tally (Job.made csar row)
    omega
  · intro d rest onboards
    by_cases same : d = c
    · subst same
      exact moves.suffix rest (here.symm.trans onboards)
    · rw [there d same] at onboards
      exact undisturbed.suffix d rest onboards
  · intro d saved
    rcases record with ⟨-, onboarded, enabled⟩ | ⟨unsaved, -, onboarding, operational⟩
    · exact ⟨onboarded, enabled⟩
    · rw [onboarding, operational]
      by_cases same : d = c
      · subst same
        exact absurd (here.symm.trans saved) unsaved
      · rw [there d same] at saved
        exact undisturbed.recorded d saved
  · intro none
    rcases record with ⟨saved, -⟩ | ⟨-, unsaved, onboarding, -⟩
    · exact absurd (here.trans saved) (none c)
    · rw [onboarding]
      apply undisturbed.unrecorded
      intro d
      by_cases same : d = c
      · subst same
        exact unsaved
      · rw [← there d same]
        exact none d

/-- A job that goes on without finding that it is not the one keeps the onboarding pending. -/
lemma Moves.pending {c : κ} {job : Job} (moves : Moves csar c job s t e) (mem : c ∈ conductors)
    (going : job ≠ .skipped) : ∃ d ∈ conductors, t.jobs d ≠ .skipped := by
  refine ⟨c, mem, ?_⟩
  rw [moves.jobs, Function.update_self]
  exact going

/-- A job goes on that neither saves the package nor leaves it to others. -/
lemma Undisturbed.goes_on (undisturbed : Undisturbed conductors csar start tr s) {c : κ} {old : Job}
    (job : Job) (mem : c ∈ conductors) (before : s.jobs c = old) (moves : Moves csar c job s t e)
    (unsaved : job ≠ .saved) (notSaved : old ≠ .saved) (going : job ≠ .skipped)
    (onboarding : t.vnfPackage.onboardingState = s.vnfPackage.onboardingState)
    (operational : t.vnfPackage.operationalState = s.vnfPackage.operationalState) :
    Undisturbed conductors csar start (tr ++ [(s, e)]) t :=
  undisturbed.moves mem moves (.inr ⟨unsaved, before ▸ notSaved, onboarding, operational⟩) fun _ =>
    moves.pending mem going

omit [DecidableEq κ] in
/-- Where no job owns the package, it is not saved. -/
lemma Undisturbed.processing_of_none (undisturbed : Undisturbed conductors csar start tr s)
    (outside : ∀ c, s.jobs c ≠ .skipped → c ∈ conductors) (none : tr.countP isEntitlement = 0) :
    s.vnfPackage.onboardingState = .processing := by
  apply undisturbed.unrecorded
  intro c saved
  have tallied := undisturbed.entitlements
  rw [none] at tallied
  have mem := outside c (by rw [saved]; exact Job.noConfusion)
  have zero := Finset.sum_eq_zero_iff.mp tallied.symm c mem
  rw [saved] at zero
  cases zero

/-- Who skips while no job owns the package leaves a job that is still loading. -/
lemma Undisturbed.pending_of_skips (undisturbed : Undisturbed conductors csar start tr s)
    (outside : ∀ c, s.jobs c ≠ .skipped → c ∈ conductors) {c : κ} (before : s.jobs c = .counted)
    (skips : s.isEntitled = false) (none : tr.countP isEntitlement = 0) :
    ∃ d ∈ conductors, (s.setJob c .skipped).jobs d ≠ .skipped := by
  have processing := undisturbed.processing_of_none outside none
  have busy : s.vnfPackage.downloading ≠ 0 := by
    intro zero
    rw [State.isEntitled, zero, processing] at skips
    cases skips
  rw [undisturbed.downloading] at busy
  obtain ⟨d, mem, counts⟩ := Finset.exists_ne_zero_of_sum_ne_zero
    (show ∑ d ∈ conductors, (s.jobs d).weight ≠ 0 from fun zero => busy (by rw [zero]; rfl))
  refine ⟨d, mem, ?_⟩
  have ne : d ≠ c := by
    rintro rfl
    rw [before] at counts
    exact counts rfl
  show Function.update s.jobs c .skipped d ≠ .skipped
  rw [Function.update_of_ne ne]
  intro skipped
  rw [skipped] at counts
  exact counts rfl

/-- As long as no job fails, the steps keep the invariant. -/
theorem Undisturbed.step (undisturbed : Undisturbed conductors csar start tr s)
    (outside : ∀ c, s.jobs c ≠ .skipped → c ∈ conductors)
    (before : ∀ c, (s.jobs c).isReverted = false) (after : ∀ c, (t.jobs c).isReverted = false)
    (fires : Fires conductors csar s e t) :
    Undisturbed conductors csar start (tr ++ [(s, e)]) t := by
  have fails : ∀ {c}, t.jobs = Function.update s.jobs c .failing → False := by
    intro c jobs
    have fine := after c
    rw [jobs, Function.update_self] at fine
    cases fine
  have reverted : ∀ {c job}, s.jobs c = job → job.isReverted = true → False := by
    rintro c job rfl reverted
    rw [before c] at reverted
    cases reverted
  have member : ∀ {c job}, s.jobs c = job → job ≠ .skipped → c ∈ conductors := by
    rintro c job rfl going
    exact outside c going
  cases fires with
  | @countIn c here =>
    refine undisturbed.goes_on .loading (member here Job.noConfusion) here
      ⟨rfl, rfl, rfl, ?_, fun _ _ => rfl, Bool.noConfusion, ?_, fun row => ?_, fun _ => Job.noConfusion⟩
      Job.noConfusion Job.noConfusion Job.noConfusion rfl rfl
    · rw [here]
      show s.vnfPackage.downloading + 1 + 0 = s.vnfPackage.downloading + 1
      omega
    · rw [here]
      rfl
    · rw [here]
      rfl
  | @loadCsar c here there =>
    refine undisturbed.goes_on .loaded (member here Job.noConfusion) here
      ⟨rfl, rfl, rfl, ?_, ?_, fun _ => ?_, ?_, fun row => ?_, fun _ => Job.noConfusion⟩
      Job.noConfusion Job.noConfusion Job.noConfusion rfl rfl
    · rw [here]
      rfl
    · intro d ne
      exact Function.update_of_ne ne true s.extracted
    · exact Function.update_self c true s.extracted
    · rw [here]
      rfl
    · rw [here]
      rfl
  | loadMissing here gone => exact (fails rfl).elim
  | @countOut c here =>
    have done := undisturbed.extracted c (member here Job.noConfusion) (by rw [here]; rfl)
    refine undisturbed.goes_on .counted (member here Job.noConfusion) here
      ⟨rfl, rfl, rfl, ?_, fun _ _ => rfl, fun _ => done, ?_, fun row => ?_, fun _ => Job.noConfusion⟩
      Job.noConfusion Job.noConfusion Job.noConfusion rfl rfl
    · rw [here]
      show s.vnfPackage.downloading - 1 + 1 = s.vnfPackage.downloading + 0
      omega
    · rw [here]
      rfl
    · rw [here]
      rfl
  | @checkEntitled c here entitled =>
    have done := undisturbed.extracted c (member here Job.noConfusion) (by rw [here]; rfl)
    refine undisturbed.goes_on (.onboarding (onboardVnfPackage csar))
      (member here Job.noConfusion) here
      ⟨rfl, rfl, rfl, ?_, fun _ _ => rfl, fun _ => done, ?_, fun row => ?_, ?_⟩
      Job.noConfusion Job.noConfusion Job.noConfusion rfl rfl
    · rw [here]
      rfl
    · rw [here, isEntitlement, entitled]
      rfl
    · rw [here]
      show s.rows.count row + 0 =
        s.rows.count row + ((onboardVnfPackage csar).count row - (onboardVnfPackage csar).count row)
      omega
    · intro rest same
      cases same
      exact List.suffix_refl _
  | @checkSkips c here skips =>
    have done := undisturbed.extracted c (member here Job.noConfusion) (by rw [here]; rfl)
    have moves : Moves csar c .skipped s (s.setJob c .skipped) (.check c) := by
      refine ⟨rfl, rfl, rfl, ?_, fun _ _ => rfl, fun _ => done, ?_, fun row => ?_, fun _ => Job.noConfusion⟩
      · rw [here]
        rfl
      · rw [here, isEntitlement, skips]
        rfl
      · rw [here]
        rfl
    refine undisturbed.moves (member here Job.noConfusion) moves
      (.inr ⟨Job.noConfusion, by rw [here]; exact Job.noConfusion, rfl, rfl⟩) fun none => ?_
    rw [countP_snoc] at none
    exact undisturbed.pending_of_skips outside here skips (Nat.eq_zero_of_add_eq_zero none).1
  | @create c row rest here free =>
    have done := undisturbed.extracted c (member here Job.noConfusion) (by rw [here]; rfl)
    have suffix := undisturbed.suffix c _ here
    refine undisturbed.goes_on (.onboarding rest) (member here Job.noConfusion) here
      ⟨rfl, rfl, rfl, ?_, fun _ _ => rfl, fun _ => done, ?_, fun row' => ?_, ?_⟩
      Job.noConfusion Job.noConfusion Job.noConfusion rfl rfl
    · rw [here]
      rfl
    · rw [here]
      rfl
    · rw [here, made_next suffix]
      show (s.rows ++ [row]).count row' + _ = _
      rw [List.count_append]
      omega
    · intro rest' same
      cases same
      exact (List.suffix_cons row rest).trans suffix
  | createDuplicate here unique taken => exact (fails rfl).elim
  | @save c here =>
    have done := undisturbed.extracted c (member here Job.noConfusion) (by rw [here]; rfl)
    have moves : Moves csar c .saved s { s.setJob c .saved with
        vnfPackage := { s.vnfPackage with
          onboardingState := .onboarded
          operationalState := .enabled } } (.save c) := by
      refine ⟨rfl, rfl, rfl, ?_, fun _ _ => rfl, fun _ => done, ?_, fun row => ?_, fun _ => Job.noConfusion⟩
      · rw [here]
        rfl
      · rw [here]
        rfl
      · rw [here]
        show s.rows.count row + ((onboardVnfPackage csar).count row - [].count row) =
          s.rows.count row + (onboardVnfPackage csar).count row
        rw [List.count_nil, Nat.sub_zero]
    exact undisturbed.moves (member here Job.noConfusion) moves (.inl ⟨rfl, rfl, rfl⟩) fun _ =>
      moves.pending (member here Job.noConfusion) Job.noConfusion
  | fail may => exact (fails rfl).elim
  | deleteStored here => exact (reverted here rfl).elim
  | castDelete here => exact (reverted here rfl).elim
  | destroyFlavours here => exact (reverted here rfl).elim
  | restore here => exact (reverted here rfl).elim
  | @deleteExtracted c waits =>
    rw [undisturbed.deleteCsar c] at waits
    cases waits

end Tacker.Vnfpkgm
