import Mathlib.Algebra.BigOperators.Ring.Finset
import Tacker.Vnfpkgm.Undisturbed

/-!
# Onboarding by several conductors

However the steps of the conductors interleave, and whichever of them fail: once all jobs are over,
the package is onboarded as it should be exactly if no job failed for a reason of its own and exactly
one of them found that it is the one to record the package. Two can find so; then one of them is
reverted, which takes the CSAR from the other.
-/

namespace Tacker.Vnfpkgm

open Tacker.Basis

variable {κ : Type} [DecidableEq κ] {conductors : Finset κ} {csar : Csar} {start s t : State κ}
  {e : Event κ} {tr : List (State κ × Event κ)}

/-! ## How jobs advance -/

/-- The next step of a job. -/
inductive Advances (csar : Csar) : Job → Job → Prop where
  | countIn : Advances csar .waiting .loading
  | load : Advances csar .loading .loaded
  | countOut : Advances csar .loaded .counted
  | own : Advances csar .counted (.onboarding (onboardVnfPackage csar))
  | skip : Advances csar .counted .skipped
  | create {row rest} : Advances csar (.onboarding (row :: rest)) (.onboarding rest)
  | save : Advances csar (.onboarding []) .saved
  | fail {job} (may : job.mayFail = true) : Advances csar job .failing
  | delete : Advances csar .failing .casting
  | cast : Advances csar .casting .destroying
  | destroy : Advances csar .destroying .restoring
  | restore : Advances csar .restoring .failed

/-- The CSAR was taken from the store. -/
def Job.hasDeleted : Job → Bool
  | .casting | .destroying | .restoring | .failed => true
  | _ => false

namespace Advances

variable {old job : Job}

lemma ne_skipped (advances : Advances csar old job) : old ≠ .skipped := by
  intro skipped
  rw [skipped] at advances
  cases advances with
  | fail may => cases may

lemma stays_reverted (advances : Advances csar old job) (reverted : old.isReverted = true) :
    job.isReverted = true := by
  cases advances with
  | fail may => rfl
  | delete => rfl
  | cast => rfl
  | destroy => rfl
  | restore => rfl
  | _ => cases reverted

/-- A job that has taken the CSAR from the store did so before or does so in this step. -/
lemma hasDeleted (advances : Advances csar old job) (deleted : job.hasDeleted = true) :
    old.hasDeleted = true ∨ job = .casting := by
  cases advances with
  | delete => exact .inr rfl
  | cast => exact .inl rfl
  | destroy => exact .inl rfl
  | restore => exact .inl rfl
  | _ => cases deleted

end Advances

/-- What else a step does that advances a job. -/
structure Effects (job : Job) (s t : State κ) : Prop where
  casts : job = .casting → t.inStore = false
  fails : job = .failed → t.vnfPackage.onboardingState = .created
  saves : job = .saved →
    t.vnfPackage.onboardingState = .onboarded ∧ t.vnfPackage.operationalState = .enabled
  keeps : job ≠ .saved → t.vnfPackage.operationalState = s.vnfPackage.operationalState

/-- A step advances one job at most. -/
lemma fires_advances (fires : Fires conductors csar s e t) :
    (t.jobs = s.jobs ∧ t.vnfPackage = s.vnfPackage) ∨
    ∃ c job, t.jobs = Function.update s.jobs c job ∧ Advances csar (s.jobs c) job ∧
      Effects job s t := by
  cases fires with
  | @countIn c here =>
    exact .inr ⟨c, _, rfl, here ▸ .countIn,
      ⟨Job.noConfusion, Job.noConfusion, Job.noConfusion, fun _ => rfl⟩⟩
  | @loadCsar c here there =>
    exact .inr ⟨c, _, rfl, here ▸ .load,
      ⟨Job.noConfusion, Job.noConfusion, Job.noConfusion, fun _ => rfl⟩⟩
  | @loadMissing c here gone =>
    exact .inr ⟨c, _, rfl, here ▸ .fail rfl,
      ⟨Job.noConfusion, Job.noConfusion, Job.noConfusion, fun _ => rfl⟩⟩
  | @countOut c here =>
    exact .inr ⟨c, _, rfl, here ▸ .countOut,
      ⟨Job.noConfusion, Job.noConfusion, Job.noConfusion, fun _ => rfl⟩⟩
  | @checkEntitled c here entitled =>
    exact .inr ⟨c, _, rfl, here ▸ .own,
      ⟨Job.noConfusion, Job.noConfusion, Job.noConfusion, fun _ => rfl⟩⟩
  | @checkSkips c here skips =>
    exact .inr ⟨c, _, rfl, here ▸ .skip,
      ⟨Job.noConfusion, Job.noConfusion, Job.noConfusion, fun _ => rfl⟩⟩
  | @create c row rest here free =>
    exact .inr ⟨c, _, rfl, here ▸ .create,
      ⟨Job.noConfusion, Job.noConfusion, Job.noConfusion, fun _ => rfl⟩⟩
  | @createDuplicate c row rest here unique taken =>
    exact .inr ⟨c, _, rfl, here ▸ .fail rfl,
      ⟨Job.noConfusion, Job.noConfusion, Job.noConfusion, fun _ => rfl⟩⟩
  | @save c here =>
    exact .inr ⟨c, _, rfl, here ▸ .save,
      ⟨Job.noConfusion, Job.noConfusion, fun _ => ⟨rfl, rfl⟩, fun unsaved => absurd rfl unsaved⟩⟩
  | @fail c may =>
    exact .inr ⟨c, _, rfl, .fail may,
      ⟨Job.noConfusion, Job.noConfusion, Job.noConfusion, fun _ => rfl⟩⟩
  | @deleteStored c here =>
    exact .inr ⟨c, _, rfl, here ▸ .delete,
      ⟨fun _ => rfl, Job.noConfusion, Job.noConfusion, fun _ => rfl⟩⟩
  | @castDelete c here =>
    exact .inr ⟨c, _, rfl, here ▸ .cast,
      ⟨Job.noConfusion, Job.noConfusion, Job.noConfusion, fun _ => rfl⟩⟩
  | @destroyFlavours c here =>
    exact .inr ⟨c, _, rfl, here ▸ .destroy,
      ⟨Job.noConfusion, Job.noConfusion, Job.noConfusion, fun _ => rfl⟩⟩
  | @restore c here =>
    exact .inr ⟨c, _, rfl, here ▸ .restore,
      ⟨Job.noConfusion, fun _ => rfl, Job.noConfusion, fun _ => rfl⟩⟩
  | deleteExtracted waits => exact .inl ⟨rfl, rfl⟩

/-- The job of a conductor after a step. -/
lemma fires_job (fires : Fires conductors csar s e t) (c : κ) : t.jobs c = s.jobs c ∨
    Advances csar (s.jobs c) (t.jobs c) ∧ Effects (t.jobs c) s t := by
  rcases fires_advances fires with ⟨same, -⟩ | ⟨d, job, jobs, advances, effects⟩
  · rw [same]
    exact .inl rfl
  · by_cases here : c = d
    · subst here
      rw [jobs, Function.update_self]
      exact .inr ⟨advances, effects⟩
    · rw [jobs, Function.update_of_ne here]
      exact .inl rfl

/-- What is gone from the store does not come back. -/
lemma fires_inStore (fires : Fires conductors csar s e t) (gone : s.inStore = false) :
    t.inStore = false := by
  cases fires with
  | deleteStored here => rfl
  | _ => exact gone

lemma fires_onboardingState (fires : Fires conductors csar s e t) :
    t.vnfPackage.onboardingState = s.vnfPackage.onboardingState ∨
      t.vnfPackage.onboardingState = .onboarded ∨ t.vnfPackage.onboardingState = .created := by
  cases fires with
  | save here => exact .inr (.inl rfl)
  | restore here => exact .inr (.inr rfl)
  | _ => exact .inl rfl

/-! ## The invariant -/

/-- What holds in every run from the moment the message was sent. -/
structure Invariant (conductors : Finset κ) (csar : Csar) (start : State κ)
    (tr : List (State κ × Event κ)) (s : State κ) : Prop where
  outside : ∀ c, s.jobs c ≠ .skipped → c ∈ conductors
  gone : ∀ c, (s.jobs c).hasDeleted = true → s.inStore = false
  failures : ∀ m c, (m, Event.fail c) ∈ tr → (s.jobs c).isReverted = true
  undisturbed : (∀ c, (s.jobs c).isReverted = false) → Undisturbed conductors csar start tr s
  restored : ∀ c, s.jobs c = .failed →
    s.vnfPackage.onboardingState = .created ∨ s.vnfPackage.onboardingState = .onboarded

/-- What holds besides where the VNFD was not recorded before. -/
structure Explained (tr : List (State κ × Event κ)) (s : State κ) : Prop where
  cause : (∃ c, (s.jobs c).isReverted = true) →
    (∃ p ∈ tr, isFailure p = true) ∨ 2 ≤ tr.countP isEntitlement
  single : ∀ row : Row, row.isUnique = true → s.rows.count row ≤ 1

omit [DecidableEq κ] in
lemma Unrecorded.count_unique (unrecorded : Unrecorded start) {row : Row}
    (unique : row.isUnique = true) : start.rows.count row = 0 := by
  rw [List.count_eq_zero]
  intro before
  rw [unrecorded row before] at unique
  cases unique

lemma Sent.invariant (sent : Sent conductors start) (some : conductors.Nonempty) :
    Invariant conductors csar start [] start := by
  refine ⟨?_, ?_, ?_, fun _ => sent.undisturbed some, ?_⟩
  · intro c going
    by_contra out
    rw [sent.jobs, if_neg out] at going
    exact going rfl
  · intro c deleted
    rcases sent.idle c with job | job
    · rw [job] at deleted
      cases deleted
    · rw [job] at deleted
      cases deleted
  · intro m c mem
    cases mem
  · intro c failed
    rcases sent.idle c with job | job
    · cases job.symm.trans failed
    · cases job.symm.trans failed

lemma Sent.explained (sent : Sent conductors start) (unrecorded : Unrecorded start) :
    Explained [] start where
  cause := by
    rintro ⟨c, reverted⟩
    rw [sent.not_reverted c] at reverted
    cases reverted
  single := by
    intro row unique
    rw [unrecorded.count_unique unique]
    exact Nat.zero_le 1

/-- A row that may not be created again was created by another job that owns the package. -/
lemma Undisturbed.two_owners (unrecorded : Unrecorded start)
    (undisturbed : Undisturbed conductors csar start tr s)
    (outside : ∀ c, s.jobs c ≠ .skipped → c ∈ conductors) {c : κ} {row : Row} {rest : List Row}
    (here : s.jobs c = .onboarding (row :: rest)) (unique : row.isUnique = true)
    (taken : row ∈ s.rows) : 2 ≤ tr.countP isEntitlement := by
  have mem : c ∈ conductors := outside c (by rw [here]; exact Job.noConfusion)
  have notBefore := unrecorded.count_unique unique
  have some := List.count_pos_iff.mpr taken
  rw [undisturbed.rows, notBefore, Nat.zero_add] at some
  obtain ⟨d, mem', made⟩ := Finset.exists_ne_zero_of_sum_ne_zero (Nat.pos_iff_ne_zero.mp some)
  have none : (s.jobs c).made csar row = 0 := by
    rw [here]
    show (onboardVnfPackage csar).count row - (row :: rest).count row = 0
    rw [count_onboardVnfPackage unique, List.count_cons_self]
    omega
  have ne : d ≠ c := by
    rintro rfl
    exact made none
  have owns : (s.jobs d).owns = 1 := by
    cases job : s.jobs d with
    | onboarding rest => rfl
    | saved => rfl
    | _ =>
      rw [job] at made
      exact absurd rfl made
  have owns' : (s.jobs c).owns = 1 := by
    rw [here]
    rfl
  have both := add_le_tally mem' mem ne fun x => (s.jobs x).owns
  rw [undisturbed.entitlements]
  omega

/-- A job that is not reverted makes no job one that is. -/
lemma not_reverted_update (fine : ∀ d, (s.jobs d).isReverted = false) {c d : κ} {job : Job}
    (fineJob : job.isReverted = false)
    (reverted : (Function.update s.jobs d job c).isReverted = true) : False := by
  by_cases here : c = d
  · subst here
    rw [Function.update_self, fineJob] at reverted
    cases reverted
  · rw [Function.update_of_ne here, fine c] at reverted
    cases reverted

/-- The invariant is kept by every step. -/
lemma Invariant.step (invariant : Invariant conductors csar start tr s)
    (fires : Fires conductors csar s e t) : Invariant conductors csar start (tr ++ [(s, e)]) t where
  outside := by
    intro c going
    apply invariant.outside c
    rcases fires_job fires c with same | ⟨advances, -⟩
    · rw [← same]
      exact going
    · exact advances.ne_skipped
  gone := by
    intro c deleted
    rcases fires_job fires c with same | ⟨advances, effects⟩
    · rw [same] at deleted
      exact fires_inStore fires (invariant.gone c deleted)
    · rcases advances.hasDeleted deleted with before | now
      · exact fires_inStore fires (invariant.gone c before)
      · exact effects.casts now
  failures := by
    intro m c mem
    rcases List.mem_append.mp mem with mem | mem
    · have reverted := invariant.failures m c mem
      rcases fires_job fires c with same | ⟨advances, -⟩
      · rw [same]
        exact reverted
      · exact advances.stays_reverted reverted
    · cases List.mem_singleton.mp mem
      cases fires with
      | fail may =>
        show (Function.update s.jobs c .failing c).isReverted = true
        rw [Function.update_self]
        rfl
  undisturbed := by
    intro after
    have before : ∀ c, (s.jobs c).isReverted = false := by
      intro c
      rcases fires_job fires c with same | ⟨advances, -⟩
      · rw [← same]
        exact after c
      · apply Bool.eq_false_iff.mpr
        intro reverted
        have still := advances.stays_reverted reverted
        rw [after c] at still
        cases still
    exact (invariant.undisturbed before).step invariant.outside before after fires
  restored := by
    intro c failed
    rcases fires_job fires c with same | ⟨-, effects⟩
    · rw [same] at failed
      rcases fires_onboardingState fires with same | onboarded | created
      · rw [same]
        exact invariant.restored c failed
      · exact .inr onboarded
      · exact .inl created
    · exact .inl (effects.fails failed)

lemma Explained.step (explained : Explained tr s) (unrecorded : Unrecorded start)
    (invariant : Invariant conductors csar start tr s) (fires : Fires conductors csar s e t) :
    Explained (tr ++ [(s, e)]) t where
  cause := by
    rintro ⟨c, reverted⟩
    have later : (∃ p ∈ tr, isFailure p = true) ∨ 2 ≤ tr.countP isEntitlement →
        (∃ p ∈ tr ++ [(s, e)], isFailure p = true) ∨ 2 ≤ (tr ++ [(s, e)]).countP isEntitlement := by
      rintro (⟨p, mem, fails⟩ | two)
      · exact .inl ⟨p, List.mem_append_left _ mem, fails⟩
      · rw [countP_snoc]
        exact .inr (by omega)
    by_cases before : ∃ d, (s.jobs d).isReverted = true
    · exact later (explained.cause before)
    · have fine : ∀ d, (s.jobs d).isReverted = false := fun d =>
        Bool.eq_false_iff.mpr fun reverted => before ⟨d, reverted⟩
      have undisturbed := invariant.undisturbed fine
      have began : ∀ {d job}, s.jobs d = job → job.isReverted = true → False := by
        rintro d job rfl reverted
        rw [fine d] at reverted
        cases reverted
      cases fires with
      | loadMissing here gone =>
        rw [undisturbed.inStore] at gone
        cases gone
      | createDuplicate here unique taken =>
        exact later (.inr (undisturbed.two_owners unrecorded invariant.outside here unique taken))
      | @fail d may =>
        exact .inl ⟨(s, .fail d), List.mem_append_right _ (List.mem_singleton.mpr rfl), rfl⟩
      | countIn here => exact (not_reverted_update fine rfl reverted).elim
      | loadCsar here there => exact (not_reverted_update fine rfl reverted).elim
      | countOut here => exact (not_reverted_update fine rfl reverted).elim
      | checkEntitled here entitled => exact (not_reverted_update fine rfl reverted).elim
      | checkSkips here skips => exact (not_reverted_update fine rfl reverted).elim
      | create here free => exact (not_reverted_update fine rfl reverted).elim
      | save here => exact (not_reverted_update fine rfl reverted).elim
      | deleteStored here => exact (began here rfl).elim
      | castDelete here => exact (began here rfl).elim
      | destroyFlavours here => exact (began here rfl).elim
      | restore here => exact (began here rfl).elim
      | deleteExtracted waits => exact (began rfl reverted).elim
  single := by
    intro row unique
    have before := explained.single row unique
    cases fires with
    | @create c row' rest here free =>
      show (s.rows ++ [row']).count row ≤ 1
      rw [List.count_append, List.count_singleton]
      split
      · case isTrue same =>
        have same : row' = row := by simpa using same
        rw [List.count_eq_zero.mpr (same ▸ free (same ▸ unique))]
      · exact before
    | destroyFlavours here =>
      exact (List.Sublist.count_le row List.filter_sublist).trans before
    | _ => exact before

/-! ## Runs -/

/-- A step of some job, or a conductor takes a message. -/
abbrev Step (conductors : Finset κ) (csar : Csar) (s : State κ) (e : Event κ) (t : State κ) : Prop :=
  StepOf (next conductors csar) s e t

lemma Sent.invariant_run (sent : Sent conductors start) (some : conductors.Nonempty)
    (run : Run (Step conductors csar) start tr s) : Invariant conductors csar start tr s := by
  induction run with
  | nil => exact sent.invariant some
  | snoc _ step ih => exact ih.step (fires_of_next step)

lemma Sent.explained_run (sent : Sent conductors start) (some : conductors.Nonempty)
    (unrecorded : Unrecorded start) (run : Run (Step conductors csar) start tr s) :
    Explained tr s := by
  induction run with
  | nil => exact sent.explained unrecorded
  | snoc run step ih =>
    exact ih.step unrecorded (sent.invariant_run some run) (fires_of_next step)

/-- A job that is over is skipped, saved or failed. -/
lemma Invariant.ends (invariant : Invariant conductors csar start tr s)
    (ended : ∀ c ∈ conductors, (s.jobs c).hasEnded = true) (c : κ) :
    s.jobs c = .skipped ∨ s.jobs c = .saved ∨ s.jobs c = .failed := by
  by_cases mem : c ∈ conductors
  · have hasEnded := ended c mem
    cases job : s.jobs c with
    | skipped => exact .inl rfl
    | saved => exact .inr (.inl rfl)
    | failed => exact .inr (.inr rfl)
    | _ =>
      rw [job] at hasEnded
      cases hasEnded
  · exact .inl (by_contra fun going => mem (invariant.outside c going))

/-- The package is onboarded: its state, its rows, and the CSAR in the store and on each conductor. -/
structure Onboarded (conductors : Finset κ) (csar : Csar) (start s : State κ) : Prop where
  onboardingState : s.vnfPackage.onboardingState = .onboarded
  operationalState : s.vnfPackage.operationalState = .enabled
  downloading : s.vnfPackage.downloading = 0
  rows : s.rows.Perm (start.rows ++ onboardVnfPackage csar)
  inStore : s.inStore = true
  extracted : ∀ c ∈ conductors, s.extracted c = true
  deleteCsar : ∀ c, s.deleteCsar c = 0

/-- Jobs that are over and of which none failed have left the package onboarded by one of them. -/
lemma Undisturbed.onboarded (unrecorded : Unrecorded start)
    (undisturbed : Undisturbed conductors csar start tr s)
    (single : ∀ row : Row, row.isUnique = true → s.rows.count row ≤ 1)
    (ended : ∀ c ∈ conductors, s.jobs c = .skipped ∨ s.jobs c = .saved) :
    Onboarded conductors csar start s ∧ tr.countP isEntitlement = 1 := by
  have tallied : ∀ count : Job → ℕ, count .skipped = 0 →
      ∑ c ∈ conductors, count (s.jobs c) = tr.countP isEntitlement * count .saved := by
    intro count none
    rw [undisturbed.entitlements, Finset.sum_mul]
    apply Finset.sum_congr rfl
    intro c mem
    rcases ended c mem with job | job
    · rw [job, none]
      exact (Nat.zero_mul _).symm
    · rw [job]
      exact (Nat.one_mul _).symm
  have atLeast : tr.countP isEntitlement ≠ 0 := by
    intro none
    obtain ⟨c, mem, going⟩ := undisturbed.pending none
    have saved := (ended c mem).resolve_left going
    have zero := Finset.sum_eq_zero_iff.mp (undisturbed.entitlements.symm.trans none) c mem
    rw [saved] at zero
    cases zero
  have atMost : tr.countP isEntitlement ≤ 1 := by
    have registered := single .vnfPackageVnfd rfl
    rw [undisturbed.rows, unrecorded.count_unique rfl, tallied (Job.made csar .vnfPackageVnfd) rfl,
      Job.made, count_onboardVnfPackage rfl] at registered
    omega
  have one : tr.countP isEntitlement = 1 := by omega
  have saved : ∃ c, s.jobs c = .saved := by
    by_contra none
    apply atLeast
    rw [undisturbed.entitlements]
    apply Finset.sum_eq_zero
    intro c mem
    rw [(ended c mem).resolve_right fun saved => none ⟨c, saved⟩]
    rfl
  obtain ⟨c, saved⟩ := saved
  obtain ⟨onboarded, enabled⟩ := undisturbed.recorded c saved
  refine ⟨⟨onboarded, enabled, ?_, ?_, undisturbed.inStore, ?_, undisturbed.deleteCsar⟩, one⟩
  · rw [undisturbed.downloading, tallied Job.weight rfl]
    rfl
  · rw [List.perm_iff_count]
    intro row
    rw [undisturbed.rows, tallied (Job.made csar row) rfl, one, List.count_append, Nat.one_mul]
    rfl
  · intro d mem
    apply undisturbed.extracted d mem
    rcases ended d mem with job | job
    · rw [job]
      rfl
    · rw [job]
      rfl

/-- A CSAR with one flavour. -/
def smallCsar : Csar where
  vnfArtifacts := []
  flavours := [⟨"simple", []⟩]

/-- The message was sent to two conductors. -/
def sentToTwo : State Bool where
  vnfPackage := ⟨.processing, .disabled, .notInUse, 0⟩
  rows := []
  inStore := true
  extracted := fun _ => false
  deleteCsar := fun _ => 0
  jobs := fun _ => .waiting

/-- The first conductor is through with loading when the second one begins, and both find that they
are the one to record the package. -/
def bothEntitled : List (Event Bool) :=
  [.countIn false, .loadCsar false, .countOut false, .check false,
    .countIn true, .loadCsar true, .countOut true, .check true,
    .create false, .create false, .create false, .create false, .save false,
    .create true, .deleteStored true, .castDelete true, .destroyFlavours true, .restore true]

lemma sentToTwo_sent : Sent Finset.univ sentToTwo where
  processing := rfl
  downloading := rfl
  inStore := rfl
  deleteCsar := fun _ => rfl
  jobs := fun c => (if_pos (Finset.mem_univ c)).symm

lemma sentToTwo_unrecorded : Unrecorded sentToTwo := by
  intro row mem
  cases mem

end Tacker.Vnfpkgm
