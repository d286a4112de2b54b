import Tacker.Vnfpkgm.Onboarding

/-!
# The VNFD of a package is registered once

As long as no job fails for a reason of its own, one job at most gets beyond registering the VNFD,
and nothing stops that job from saving the package as enabled, whatever becomes of the others. And
where the VNFD was registered before, no job gets that far: the package always ends as `CREATED`.
-/

namespace Tacker.Vnfpkgm

open Tacker.Basis

variable {κ : Type} [DecidableEq κ] {conductors : Finset κ} {csar : Csar} {start s t : State κ}
  {e : Event κ} {tr : List (State κ × Event κ)} {rest : List Row}

/-! ## The order of the rows -/

/-- From the registration of the VNFD on. -/
lemma registration_suffix : .vnfPackageVnfd :: (onboardVnfd csar ++ csar.flavours.flatMap createFlavour) <:+
    onboardVnfPackage csar := by
  rw [onboardVnfPackage, List.append_assoc]
  exact List.suffix_append _ _

/-- What comes after the registration of the VNFD does not register it. -/
lemma not_registered_again
    (within : rest <:+ onboardVnfd csar ++ csar.flavours.flatMap createFlavour) :
    .vnfPackageVnfd ∉ rest := by
  intro mem
  have twice := (@registration_suffix csar).sublist.count_le .vnfPackageVnfd
  rw [count_onboardVnfPackage rfl, List.count_cons_self] at twice
  have some := List.count_pos_iff.mpr (within.mem mem)
  omega

/-- What remains to be created holds both rows of which there is one at most, or does not register
the VNFD. -/
lemma remaining (suffix : rest <:+ onboardVnfPackage csar) :
    (.vnfPackageVnfd ∈ rest ∧ .vnfd ∈ rest) ∨ .vnfPackageVnfd ∉ rest := by
  rcases List.suffix_or_suffix_of_suffix suffix registration_suffix with within | beyond
  · rcases List.suffix_cons_iff.mp within with rfl | within
    · exact .inl ⟨List.mem_cons_self, List.mem_cons_of_mem _ List.mem_cons_self⟩
    · exact .inr (not_registered_again within)
  · exact .inl ⟨beyond.mem List.mem_cons_self,
      beyond.mem (List.mem_cons_of_mem _ List.mem_cons_self)⟩

/-- The VNFD is created after it was registered. -/
lemma registered_before (suffix : .vnfd :: rest <:+ onboardVnfPackage csar) :
    .vnfPackageVnfd ∉ rest := by
  have once := suffix.sublist.count_le .vnfd
  rw [count_onboardVnfPackage rfl, List.count_cons_self] at once
  rcases List.suffix_or_suffix_of_suffix suffix registration_suffix with within | beyond
  · rcases List.suffix_cons_iff.mp within with same | within
    · cases same
    · intro mem
      exact not_registered_again within (List.mem_cons_of_mem _ mem)
  · rcases List.suffix_cons_iff.mp beyond with same | beyond
    · cases same
    · have again := List.count_pos_iff.mpr
        (beyond.mem (List.mem_cons_of_mem Row.vnfPackageVnfd List.mem_cons_self))
      omega

/-! ## One job registers the VNFD -/

namespace Job

/-- The job has registered the VNFD. -/
def hasRegistered : Job → Bool
  | .onboarding rest => .vnfPackageVnfd ∉ rest
  | .saved => true
  | _ => false

/-- The job has created the VNFD. -/
def hasCreated : Job → Bool
  | .onboarding rest => .vnfd ∉ rest
  | .saved => true
  | _ => false

end Job

lemma not_registers_head : (Job.onboarding (.vnfPackageVnfd :: rest)).hasRegistered = false := by
  have mem : Row.vnfPackageVnfd ∈ Row.vnfPackageVnfd :: rest := List.mem_cons_self
  exact decide_eq_false (not_not_intro mem)

/-- What holds as long as no job fails for a reason of its own. -/
structure Registered (csar : Csar) (s : State κ) : Prop where
  suffix : ∀ c rest, s.jobs c = .onboarding rest → rest <:+ onboardVnfPackage csar
  one : ∀ c d, (s.jobs c).hasRegistered = true → (s.jobs d).hasRegistered = true → c = d
  some : .vnfPackageVnfd ∈ s.rows ↔ ∃ c, (s.jobs c).hasRegistered = true
  created : .vnfd ∈ s.rows → ∃ c, (s.jobs c).hasCreated = true
  reverted : ∀ c, (s.jobs c).isReverted = true → .vnfPackageVnfd ∈ s.rows
  gone : s.inStore = false → .vnfPackageVnfd ∈ s.rows
  saved : ∀ c, s.jobs c = .saved → s.vnfPackage.operationalState = .enabled

omit [DecidableEq κ] in
/-- Who has created the VNFD has registered it. -/
lemma Registered.registered_of_created (registered : Registered csar s) {c : κ}
    (created : (s.jobs c).hasCreated = true) : (s.jobs c).hasRegistered = true := by
  cases job : s.jobs c with
  | onboarding rest =>
    rw [job] at created
    rcases remaining (registered.suffix c rest job) with ⟨-, mem⟩ | not
    · exact absurd mem (of_decide_eq_true created)
    · exact decide_eq_true not
  | saved => rfl
  | _ =>
    rw [job] at created
    cases created

/-- A job goes on that has not come to the registration yet, or is beyond the VNFD. -/
lemma Registered.goes_on (registered : Registered csar s) {c : κ} {job : Job}
    (jobs : t.jobs = Function.update s.jobs c job)
    (same : job.hasRegistered = (s.jobs c).hasRegistered)
    (same' : (s.jobs c).hasCreated = true → job.hasCreated = true)
    (rows : ∀ row : Row, row.isUnique = true → (row ∈ t.rows ↔ row ∈ s.rows))
    (suffix : ∀ rest, job = .onboarding rest → rest <:+ onboardVnfPackage csar)
    (reverted : job.isReverted = true → .vnfPackageVnfd ∈ s.rows)
    (gone : t.inStore = false → .vnfPackageVnfd ∈ s.rows)
    (saved : job = .saved → t.vnfPackage.operationalState = .enabled)
    (others : t.vnfPackage.operationalState = s.vnfPackage.operationalState ∨
      t.vnfPackage.operationalState = .enabled) : Registered csar t := by
  have cases : ∀ d, (d = c ∧ t.jobs d = job) ∨ t.jobs d = s.jobs d := by
    intro d
    rw [jobs]
    by_cases here : d = c
    · subst here
      exact .inl ⟨rfl, Function.update_self d job s.jobs⟩
    · exact .inr (Function.update_of_ne here job s.jobs)
  have registers : ∀ d, (t.jobs d).hasRegistered = (s.jobs d).hasRegistered := by
    intro d
    rcases cases d with ⟨rfl, job⟩ | job
    · rw [job, same]
    · rw [job]
  have keeps : ∀ d, (s.jobs d).hasCreated = true → (t.jobs d).hasCreated = true := by
    intro d created
    rcases cases d with ⟨rfl, job⟩ | job
    · rw [job]
      exact same' created
    · rw [job]
      exact created
  refine ⟨?_, ?_, ?_, ?_, ?_, ?_, ?_⟩
  · intro d rest onboards
    rcases cases d with ⟨rfl, job⟩ | job
    · exact suffix rest (job.symm.trans onboards)
    · exact registered.suffix d rest (job.symm.trans onboards)
  · intro d d' first second
    rw [registers] at first second
    exact registered.one d d' first second
  · rw [rows .vnfPackageVnfd rfl, registered.some]
    simp only [registers]
  · intro mem
    obtain ⟨d, created⟩ := registered.created ((rows .vnfd rfl).mp mem)
    exact ⟨d, keeps d created⟩
  · intro d reverts
    rw [rows .vnfPackageVnfd rfl]
    rcases cases d with ⟨rfl, job⟩ | job
    · rw [job] at reverts
      exact reverted reverts
    · rw [job] at reverts
      exact registered.reverted d reverts
  · intro out
    rw [rows .vnfPackageVnfd rfl]
    exact gone out
  · intro d saves
    rcases cases d with ⟨rfl, job⟩ | job
    · exact saved (job.symm.trans saves)
    · rcases others with same | enabled
      · rw [same]
        exact registered.saved d (job.symm.trans saves)
      · exact enabled

/-- The job that registers the VNFD is the first one to do so. -/
lemma Registered.registers (registered : Registered csar s) {c : κ}
    (here : s.jobs c = .onboarding (.vnfPackageVnfd :: rest)) (free : .vnfPackageVnfd ∉ s.rows) :
    Registered csar { s.setJob c (.onboarding rest) with rows := s.rows ++ [.vnfPackageVnfd] } := by
  have suffix := registered.suffix c _ here
  have done : .vnfPackageVnfd ∉ rest := by
    intro mem
    have twice := suffix.sublist.count_le .vnfPackageVnfd
    rw [count_onboardVnfPackage rfl, List.count_cons_self] at twice
    have some := List.count_pos_iff.mpr mem
    omega
  have none : ∀ d, (s.jobs d).hasRegistered = false := fun d =>
    Bool.eq_false_iff.mpr fun registers => free (registered.some.mpr ⟨d, registers⟩)
  have only : ∀ d, (Function.update s.jobs c (.onboarding rest) d).hasRegistered = true → d = c := by
    intro d registers
    by_contra ne
    rw [Function.update_of_ne ne, none d] at registers
    cases registers
  have there : (.vnfPackageVnfd : Row) ∈ s.rows ++ [.vnfPackageVnfd] :=
    List.mem_append_right _ (List.mem_singleton.mpr rfl)
  refine ⟨?_, ?_, ⟨fun _ => ⟨c, ?_⟩, fun _ => there⟩, ?_, fun _ _ => there, fun _ => there, ?_⟩
  · intro d rest' onboards
    by_cases same : d = c
    · subst same
      cases (Function.update_self d _ s.jobs).symm.trans onboards
      exact (List.suffix_cons _ _).trans suffix
    · exact registered.suffix d rest' ((Function.update_of_ne same _ s.jobs).symm.trans onboards)
  · intro d d' first second
    rw [only d first, only d' second]
  · show (Function.update s.jobs c (.onboarding rest) c).hasRegistered = true
    rw [Function.update_self]
    exact decide_eq_true done
  · intro mem
    rcases List.mem_append.mp mem with mem | mem
    · obtain ⟨d, created⟩ := registered.created mem
      have registers := registered.registered_of_created created
      rw [none d] at registers
      cases registers
    · cases List.mem_singleton.mp mem
  · intro d saved
    by_cases same : d = c
    · subst same
      cases (Function.update_self d _ s.jobs).symm.trans saved
    · exact registered.saved d ((Function.update_of_ne same _ s.jobs).symm.trans saved)

/-- The job that registered the VNFD creates it. -/
lemma Registered.creates (registered : Registered csar s) {c : κ}
    (here : s.jobs c = .onboarding (.vnfd :: rest)) :
    Registered csar { s.setJob c (.onboarding rest) with rows := s.rows ++ [.vnfd] } := by
  have suffix := registered.suffix c _ here
  have done : .vnfd ∉ rest := by
    intro mem
    have twice := suffix.sublist.count_le .vnfd
    rw [count_onboardVnfPackage rfl, List.count_cons_self] at twice
    have some := List.count_pos_iff.mpr mem
    omega
  have before := registered_before suffix
  have created : (Job.onboarding rest).hasCreated = true := decide_eq_true done
  have rows : (.vnfPackageVnfd : Row) ∈ s.rows ++ [.vnfd] ↔ .vnfPackageVnfd ∈ s.rows := by
    rw [List.mem_append, List.mem_singleton]
    exact or_iff_left Row.noConfusion
  have moved : Registered csar (s.setJob c (.onboarding rest)) := by
    refine registered.goes_on rfl ?_ (fun _ => created) (fun _ _ => Iff.rfl) ?_ Bool.noConfusion
      registered.gone Job.noConfusion (.inl rfl)
    · rw [here]
      show decide _ = decide _
      rw [decide_eq_true before, decide_eq_true]
      intro mem
      rcases List.mem_cons.mp mem with same | mem
      · cases same
      · exact before mem
    · intro rest' same
      cases same
      exact (List.suffix_cons _ _).trans suffix
  refine ⟨moved.suffix, moved.one, ?_, fun _ => ⟨c, ?_⟩, ?_, ?_, moved.saved⟩
  · exact rows.trans moved.some
  · show (Function.update s.jobs c (.onboarding rest) c).hasCreated = true
    rw [Function.update_self]
    exact created
  · intro d reverted
    exact rows.mpr (moved.reverted d reverted)
  · intro gone
    exact rows.mpr (moved.gone gone)

/-- The invariant is kept by every step that is no failure for a reason of its own. -/
theorem Registered.step (registered : Registered csar s) (fires : Fires conductors csar s e t)
    (noFailure : isFailure (s, e) = false) : Registered csar t := by
  cases fires with
  | countIn here =>
    refine registered.goes_on rfl ?_ ?_ (fun _ _ => Iff.rfl) (fun _ => Job.noConfusion)
      Bool.noConfusion registered.gone Job.noConfusion (.inl rfl)
    · rw [here]
      rfl
    · rw [here]
      exact Bool.noConfusion
  | loadCsar here there =>
    refine registered.goes_on rfl ?_ ?_ (fun _ _ => Iff.rfl) (fun _ => Job.noConfusion)
      Bool.noConfusion registered.gone Job.noConfusion (.inl rfl)
    · rw [here]
      rfl
    · rw [here]
      exact Bool.noConfusion
  | loadMissing here gone =>
    refine registered.goes_on rfl ?_ ?_ (fun _ _ => Iff.rfl) (fun _ => Job.noConfusion)
      (fun _ => registered.gone gone) registered.gone Job.noConfusion (.inl rfl)
    · rw [here]
      rfl
    · rw [here]
      exact Bool.noConfusion
  | countOut here =>
    refine registered.goes_on rfl ?_ ?_ (fun _ _ => Iff.rfl) (fun _ => Job.noConfusion)
      Bool.noConfusion registered.gone Job.noConfusion (.inl rfl)
    · rw [here]
      rfl
    · rw [here]
      exact Bool.noConfusion
  | checkEntitled here entitled =>
    refine registered.goes_on rfl ?_ ?_ (fun _ _ => Iff.rfl) ?_
      Bool.noConfusion registered.gone Job.noConfusion (.inl rfl)
    · rw [here]
      exact decide_eq_false (not_not_intro (registration_suffix.mem List.mem_cons_self))
    · rw [here]
      exact Bool.noConfusion
    · intro rest same
      cases same
      exact List.suffix_refl _
  | checkSkips here skips =>
    refine registered.goes_on rfl ?_ ?_ (fun _ _ => Iff.rfl) (fun _ => Job.noConfusion)
      Bool.noConfusion registered.gone Job.noConfusion (.inl rfl)
    · rw [here]
      rfl
    · rw [here]
      exact Bool.noConfusion
  | @create c row rest here free =>
    by_cases registers : row = .vnfPackageVnfd
    · subst registers
      exact registered.registers here (free rfl)
    by_cases creates : row = .vnfd
    · subst creates
      exact registered.creates here
    refine registered.goes_on rfl ?_ ?_ ?_ ?_ Bool.noConfusion ?_ Job.noConfusion (.inl rfl)
    · rw [here]
      apply decide_eq_decide.mpr
      rw [List.mem_cons, or_iff_right (Ne.symm registers)]
    · rw [here]
      intro created
      exact decide_eq_true fun mem => of_decide_eq_true created (List.mem_cons_of_mem row mem)
    · intro row' unique
      show row' ∈ s.rows ++ [row] ↔ row' ∈ s.rows
      rw [List.mem_append, List.mem_singleton]
      apply or_iff_left
      rintro rfl
      cases row' with
      | vnfPackageVnfd => exact registers rfl
      | vnfd => exact creates rfl
      | _ => cases unique
    · intro rest' same
      cases same
      exact (List.suffix_cons _ _).trans (registered.suffix c _ here)
    · exact registered.gone
  | @createDuplicate c row rest here unique taken =>
    have suffix := registered.suffix c _ here
    cases row with
    | vnfPackageVnfd =>
      refine registered.goes_on rfl ?_ ?_ (fun _ _ => Iff.rfl) (fun _ => Job.noConfusion)
        (fun _ => taken) registered.gone Job.noConfusion (.inl rfl)
      · rw [here]
        exact not_registers_head.symm
      · intro created
        have registers := registered.registered_of_created created
        rw [here, not_registers_head] at registers
        cases registers
    | vnfd =>
      obtain ⟨d, created⟩ := registered.created taken
      have registers : (s.jobs c).hasRegistered = true := by
        rw [here]
        apply decide_eq_true
        intro mem
        rcases List.mem_cons.mp mem with same | mem
        · cases same
        · exact registered_before suffix mem
      have same := registered.one d c (registered.registered_of_created created) registers
      rw [same, here] at created
      have done : .vnfd ∉ (.vnfd :: rest : List Row) := of_decide_eq_true created
      exact absurd List.mem_cons_self done
    | _ => cases unique
  | save here =>
    refine registered.goes_on rfl ?_ (fun _ => rfl) (fun _ _ => Iff.rfl) (fun _ => Job.noConfusion)
      Bool.noConfusion registered.gone (fun _ => rfl) (.inr rfl)
    rw [here]
    rfl
  | fail may => cases noFailure
  | @deleteStored c here =>
    have row := registered.reverted c (by rw [here]; rfl)
    refine registered.goes_on rfl ?_ ?_ (fun _ _ => Iff.rfl) (fun _ => Job.noConfusion)
      (fun _ => row) (fun _ => row) Job.noConfusion (.inl rfl)
    · rw [here]
      rfl
    · rw [here]
      exact Bool.noConfusion
  | @castDelete c here =>
    have row := registered.reverted c (by rw [here]; rfl)
    refine registered.goes_on rfl ?_ ?_ (fun _ _ => Iff.rfl) (fun _ => Job.noConfusion)
      (fun _ => row) (fun _ => row) Job.noConfusion (.inl rfl)
    · rw [here]
      rfl
    · rw [here]
      exact Bool.noConfusion
  | @destroyFlavours c here =>
    have row := registered.reverted c (by rw [here]; rfl)
    refine registered.goes_on rfl ?_ ?_ ?_ (fun _ => Job.noConfusion)
      (fun _ => row) (fun _ => row) Job.noConfusion (.inl rfl)
    · rw [here]
      rfl
    · rw [here]
      exact Bool.noConfusion
    · intro row unique
      show row ∈ s.rows.filter _ ↔ row ∈ s.rows
      rw [List.mem_filter]
      apply and_iff_left
      cases row with
      | vnfPackageVnfd => rfl
      | vnfd => rfl
      | _ => cases unique
  | @restore c here =>
    have row := registered.reverted c (by rw [here]; rfl)
    refine registered.goes_on rfl ?_ ?_ (fun _ _ => Iff.rfl) (fun _ => Job.noConfusion)
      (fun _ => row) (fun _ => row) Job.noConfusion (.inl rfl)
    · rw [here]
      rfl
    · rw [here]
      exact Bool.noConfusion
  | deleteExtracted waits =>
    exact ⟨registered.suffix, registered.one, registered.some, registered.created,
      registered.reverted, registered.gone, registered.saved⟩

lemma Sent.registered (sent : Sent conductors start) (unrecorded : Unrecorded start) :
    Registered csar start := by
  have notThere : ∀ row : Row, row.isUnique = true → row ∉ start.rows := by
    intro row unique mem
    rw [unrecorded row mem] at unique
    cases unique
  have none : ∀ c, (start.jobs c).hasRegistered = false := by
    intro c
    rcases sent.idle c with job | job
    · rw [job]
      rfl
    · rw [job]
      rfl
  refine ⟨?_, ?_, ⟨fun mem => absurd mem (notThere _ rfl), ?_⟩, fun mem => absurd mem (notThere _ rfl),
    ?_, ?_, ?_⟩
  · intro c rest job
    rcases sent.idle c with idle | idle
    · cases idle.symm.trans job
    · cases idle.symm.trans job
  · intro c d registers
    rw [none c] at registers
    cases registers
  · rintro ⟨c, registers⟩
    rw [none c] at registers
    cases registers
  · intro c reverted
    rw [sent.not_reverted c] at reverted
    cases reverted
  · intro gone
    cases sent.inStore.symm.trans gone
  · intro c saved
    rcases sent.idle c with idle | idle
    · cases idle.symm.trans saved
    · cases idle.symm.trans saved

lemma Sent.registered_run (sent : Sent conductors start) (unrecorded : Unrecorded start)
    (run : Run (Step conductors csar) start tr s) (noFailure : ∀ p ∈ tr, isFailure p = false) :
    Registered csar s := by
  induction run with
  | nil => exact sent.registered unrecorded
  | snoc run step ih =>
    exact (ih fun p mem => noFailure p (List.mem_append_left _ mem)).step (fires_of_next step)
      (noFailure _ (List.mem_append_right _ (List.mem_singleton.mpr rfl)))

/-- Jobs that are over and of which none failed for a reason of its own have left the package enabled,
with its VNFD registered. -/
theorem enabled_of_no_failure (sent : Sent conductors start) (unrecorded : Unrecorded start)
    (some : conductors.Nonempty) (run : Run (Step conductors csar) start tr s)
    (ended : ∀ c ∈ conductors, (s.jobs c).hasEnded = true)
    (noFailure : ∀ p ∈ tr, isFailure p = false) :
    s.vnfPackage.operationalState = .enabled ∧ .vnfPackageVnfd ∈ s.rows := by
  have invariant := sent.invariant_run some run
  have registered := sent.registered_run unrecorded run noFailure
  have ends := invariant.ends ended
  have row : .vnfPackageVnfd ∈ s.rows := by
    by_cases failed : ∃ c, s.jobs c = .failed
    · obtain ⟨c, failed⟩ := failed
      exact registered.reverted c (by rw [failed]; rfl)
    · have fine : ∀ c, s.jobs c = .skipped ∨ s.jobs c = .saved := fun c =>
        (ends c).imp_right fun job => job.resolve_right fun job => failed ⟨c, job⟩
      have notReverted : ∀ c, (s.jobs c).isReverted = false := by
        intro c
        rcases fine c with job | job
        · rw [job]
          rfl
        · rw [job]
          rfl
      have onboarded := (invariant.undisturbed notReverted).onboarded unrecorded
        (sent.explained_run some unrecorded run).single fun c _ => fine c
      exact onboarded.1.rows.mem_iff.mpr
        (List.mem_append_right _ (registration_suffix.mem List.mem_cons_self))
  obtain ⟨c, registers⟩ := registered.some.mp row
  refine ⟨registered.saved c ?_, row⟩
  rcases ends c with job | job | job
  · rw [job] at registers
    cases registers
  · exact job
  · rw [job] at registers
    cases registers

/-! ## Uploading it again -/

/-- What holds where the VNFD was registered before. -/
structure Barred (start s : State κ) : Prop where
  unsaved : ∀ c, s.jobs c ≠ .saved
  before : ∀ c rest, s.jobs c = .onboarding rest → .vnfPackageVnfd ∈ rest
  row : .vnfPackageVnfd ∈ s.rows
  operationalState : s.vnfPackage.operationalState = start.vnfPackage.operationalState
  usageState : s.vnfPackage.usageState = start.vnfPackage.usageState
  unfinished : s.vnfPackage.onboardingState ≠ .onboarded

/-- A job goes on and creates nothing new of which there is one at most. -/
lemma Barred.goes_on (barred : Barred start s) {c : κ} {job : Job}
    (jobs : t.jobs = Function.update s.jobs c job) (unsaved : job ≠ .saved)
    (before : ∀ rest, job = .onboarding rest → .vnfPackageVnfd ∈ rest)
    (row : .vnfPackageVnfd ∈ t.rows)
    (operationalState : t.vnfPackage.operationalState = s.vnfPackage.operationalState)
    (usageState : t.vnfPackage.usageState = s.vnfPackage.usageState)
    (unfinished : t.vnfPackage.onboardingState ≠ .onboarded) : Barred start t := by
  refine ⟨?_, ?_, row, operationalState.trans barred.operationalState,
    usageState.trans barred.usageState, unfinished⟩
  · intro d
    rw [jobs]
    by_cases same : d = c
    · subst same
      rw [Function.update_self]
      exact unsaved
    · rw [Function.update_of_ne same]
      exact barred.unsaved d
  · intro d rest
    rw [jobs]
    by_cases same : d = c
    · subst same
      rw [Function.update_self]
      exact before rest
    · rw [Function.update_of_ne same]
      exact barred.before d rest

/-- No step gets beyond the registration of a VNFD that is registered already. -/
theorem Barred.step (barred : Barred start s) (fires : Fires conductors csar s e t) : Barred start t := by
  cases fires with
  | countIn here =>
    exact barred.goes_on rfl Job.noConfusion (fun _ => Job.noConfusion) barred.row rfl rfl
      barred.unfinished
  | loadCsar here there =>
    exact barred.goes_on rfl Job.noConfusion (fun _ => Job.noConfusion) barred.row rfl rfl
      barred.unfinished
  | loadMissing here gone =>
    exact barred.goes_on rfl Job.noConfusion (fun _ => Job.noConfusion) barred.row rfl rfl
      barred.unfinished
  | countOut here =>
    exact barred.goes_on rfl Job.noConfusion (fun _ => Job.noConfusion) barred.row rfl rfl
      barred.unfinished
  | checkEntitled here entitled =>
    refine barred.goes_on rfl Job.noConfusion ?_ barred.row rfl rfl barred.unfinished
    intro rest same
    cases same
    exact registration_suffix.mem List.mem_cons_self
  | checkSkips here skips =>
    exact barred.goes_on rfl Job.noConfusion (fun _ => Job.noConfusion) barred.row rfl rfl
      barred.unfinished
  | @create c row rest here free =>
    have mem := barred.before c _ here
    refine barred.goes_on rfl Job.noConfusion ?_ (List.mem_append_left _ barred.row) rfl rfl
      barred.unfinished
    intro rest' same
    cases same
    rcases List.mem_cons.mp mem with same | mem
    · subst same
      exact absurd barred.row (free rfl)
    · exact mem
  | createDuplicate here unique taken =>
    exact barred.goes_on rfl Job.noConfusion (fun _ => Job.noConfusion) barred.row rfl rfl
      barred.unfinished
  | @save c here => cases barred.before c _ here
  | fail may =>
    exact barred.goes_on rfl Job.noConfusion (fun _ => Job.noConfusion) barred.row rfl rfl
      barred.unfinished
  | deleteStored here =>
    exact barred.goes_on rfl Job.noConfusion (fun _ => Job.noConfusion) barred.row rfl rfl
      barred.unfinished
  | castDelete here =>
    exact barred.goes_on rfl Job.noConfusion (fun _ => Job.noConfusion) barred.row rfl rfl
      barred.unfinished
  | destroyFlavours here =>
    exact barred.goes_on rfl Job.noConfusion (fun _ => Job.noConfusion)
      (List.mem_filter.mpr ⟨barred.row, rfl⟩) rfl rfl barred.unfinished
  | restore here =>
    exact barred.goes_on rfl Job.noConfusion (fun _ => Job.noConfusion) barred.row rfl rfl
      OnboardingState.noConfusion
  | deleteExtracted waits =>
    exact ⟨barred.unsaved, barred.before, barred.row, barred.operationalState, barred.usageState,
      barred.unfinished⟩

/-- Where the VNFD is registered already, the jobs leave the package as `CREATED`, and as enabled or
disabled as it was. -/
theorem created_again (sent : Sent conductors start) (row : .vnfPackageVnfd ∈ start.rows)
    (some : conductors.Nonempty) (run : Run (Step conductors csar) start tr s)
    (ended : ∀ c ∈ conductors, (s.jobs c).hasEnded = true) :
    s.vnfPackage.onboardingState = .created ∧
      s.vnfPackage.operationalState = start.vnfPackage.operationalState ∧
      s.vnfPackage.usageState = start.vnfPackage.usageState ∧
      s.inStore = false ∧ .vnfPackageVnfd ∈ s.rows := by
  have atStart : Barred start start := by
    refine ⟨?_, ?_, row, rfl, rfl, ?_⟩
    · intro c saved
      rcases sent.idle c with idle | idle
      · cases idle.symm.trans saved
      · cases idle.symm.trans saved
    · intro c rest job
      rcases sent.idle c with idle | idle
      · cases idle.symm.trans job
      · cases idle.symm.trans job
    · rw [sent.processing]
      exact OnboardingState.noConfusion
  have barred : Barred start s := run.invariant' (fun step b => b.step (fires_of_next step)) atStart
  have invariant := sent.invariant_run some run
  have fails : ∃ c, s.jobs c = .failed := by
    by_contra none
    have skipped : ∀ c, s.jobs c = .skipped := by
      intro c
      rcases invariant.ends ended c with job | job | job
      · exact job
      · exact absurd job (barred.unsaved c)
      · exact absurd ⟨c, job⟩ none
    have undisturbed := invariant.undisturbed fun c => by rw [skipped c]; rfl
    have noOwner : tr.countP isEntitlement = 0 := by
      rw [undisturbed.entitlements]
      apply Finset.sum_eq_zero
      intro c mem
      rw [skipped c]
      rfl
    obtain ⟨c, -, going⟩ := undisturbed.pending noOwner
    exact going (skipped c)
  obtain ⟨c, failed⟩ := fails
  refine ⟨(invariant.restored c failed).resolve_right barred.unfinished, barred.operationalState,
    barred.usageState, invariant.gone c (by rw [failed]; rfl), barred.row⟩

end Tacker.Vnfpkgm
