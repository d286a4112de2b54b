import Tacker.Vnfpkgm.Requests

/-!
# Packages that can no longer be removed

Two conductors that both record a package may leave it as `CREATED` and enabled, with its VNFD
registered. From then on every request is refused or undone, whatever is tried: the package is neither
deleted nor disabled nor onboarded. With one conductor no history of requests leads there.
-/

namespace Tacker.Vnfpkgm

open Tacker.Basis

variable {κ : Type} [DecidableEq κ] {conductors : Finset κ} {csar : Csar} {start s t : State κ}
  {tr : List (State κ × Event κ)}

/-- The requests of a history, of which none was refused. -/
abbrev History (conductors : Finset κ) (p : Option (Package κ))
    (tr : List (Option (Package κ) × Request)) (q : Option (Package κ)) : Prop :=
  Run (Answers conductors) p tr q

lemma State.send_sent (s : State κ) (conductors : Finset κ) : Sent conductors (s.send conductors) where
  processing := rfl
  downloading := rfl
  inStore := rfl
  deleteCsar := fun _ => rfl
  jobs := fun _ => rfl

/-! ## No way out -/

/-- The package is enabled and not onboarded, and its VNFD is registered. -/
structure Wedged (s : State κ) : Prop where
  unfinished : s.vnfPackage.onboardingState ≠ .onboarded
  enabled : s.vnfPackage.operationalState = .enabled
  row : .vnfPackageVnfd ∈ s.rows

/-- An upload leaves the package wedged. -/
lemma Wedged.uploads (wedged : Wedged s) (some : conductors.Nonempty)
    (uploads : Uploads conductors csar s t) : Wedged t := by
  cases uploads with
  | breaksOff inStore => exact ⟨OnboardingState.noConfusion, wedged.enabled, wedged.row⟩
  | notStored inStore => exact ⟨OnboardingState.noConfusion, wedged.enabled, wedged.row⟩
  | notSent processing =>
    exact ⟨OnboardingState.noConfusion, wedged.enabled, List.mem_filter.mpr ⟨wedged.row, rfl⟩⟩
  | processed run ended =>
    obtain ⟨created, same, -, -, row⟩ :=
      created_again (s.send_sent conductors) wedged.row some run ended
    refine ⟨?_, same.trans wedged.enabled, row⟩
    rw [created]
    exact OnboardingState.noConfusion

/-- A request that is not refused leaves the package wedged, and does not delete it. -/
lemma Wedged.answers {p : Package κ} (wedged : Wedged p.state) (some : conductors.Nonempty)
    {request : Request} {after : Option (Package κ)}
    (answers : Answers conductors (.some p) request after) :
    ∃ q, after = .some q ∧ Wedged q.state := by
  cases answers with
  | @patch _ q body eq =>
    refine ⟨q, rfl, ?_⟩
    rcases patch_cases eq with same | ⟨onboarded, -⟩
    · rw [same]
      exact wedged
    · exact absurd onboarded wedged.unfinished
  | delete eq =>
    rw [checkDelete, if_pos (.inl wedged.enabled)] at eq
    cases eq
  | upload eq uploads => exact ⟨_, rfl, wedged.uploads some uploads⟩
  | use usageState => exact ⟨_, rfl, wedged.unfinished, wedged.enabled, wedged.row⟩

/-- No history deletes a wedged package or changes that it is wedged. -/
lemma Wedged.history {p : Package κ} (wedged : Wedged p.state) (some : conductors.Nonempty)
    {requests : List (Option (Package κ) × Request)} {after : Option (Package κ)}
    (history : History conductors (.some p) requests after) :
    ∃ q, after = .some q ∧ Wedged q.state := by
  induction history with
  | nil => exact ⟨p, rfl, wedged⟩
  | snoc history answers ih =>
    obtain ⟨q, rfl, wedged⟩ := ih
    exact wedged.answers some answers

/-- The package is recorded as enabled or as onboarded. -/
def VnfPackage.IsRecorded (vnfPackage : VnfPackage) : Prop :=
  vnfPackage.operationalState = .enabled ∨ vnfPackage.onboardingState = .onboarded

/-- A package is recorded after its VNFD was registered. -/
structure Backed (s : State κ) : Prop where
  before : ∀ c rest, s.jobs c = .onboarding rest → .vnfPackageVnfd ∈ rest ∨ .vnfPackageVnfd ∈ s.rows
  recorded : s.vnfPackage.IsRecorded → .vnfPackageVnfd ∈ s.rows

/-- A job goes on and does not record the package. -/
lemma Backed.goes_on (backed : Backed s) {c : κ} {job : Job}
    (jobs : t.jobs = Function.update s.jobs c job)
    (before : ∀ rest, job = .onboarding rest → .vnfPackageVnfd ∈ rest ∨ .vnfPackageVnfd ∈ t.rows)
    (rows : .vnfPackageVnfd ∈ s.rows → .vnfPackageVnfd ∈ t.rows)
    (same : t.vnfPackage.IsRecorded → s.vnfPackage.IsRecorded) : Backed t where
  before := by
    intro d rest
    rw [jobs]
    by_cases here : d = c
    · subst here
      rw [Function.update_self]
      exact before rest
    · rw [Function.update_of_ne here]
      intro job
      exact (backed.before d rest job).imp_right rows
  recorded := fun recorded => rows (backed.recorded (same recorded))

lemma Backed.step {e : Event κ} (backed : Backed s) (fires : Fires conductors csar s e t) :
    Backed t := by
  cases fires with
  | countIn here => exact backed.goes_on rfl (fun _ => Job.noConfusion) id id
  | loadCsar here there => exact backed.goes_on rfl (fun _ => Job.noConfusion) id id
  | loadMissing here gone => exact backed.goes_on rfl (fun _ => Job.noConfusion) id id
  | countOut here => exact backed.goes_on rfl (fun _ => Job.noConfusion) id id
  | checkEntitled here entitled =>
    refine backed.goes_on rfl ?_ id id
    intro rest same
    cases same
    exact .inl (registration_suffix.mem List.mem_cons_self)
  | checkSkips here skips => exact backed.goes_on rfl (fun _ => Job.noConfusion) id id
  | @create c row rest here free =>
    refine backed.goes_on rfl ?_ (List.mem_append_left _) id
    intro rest' same
    cases same
    rcases backed.before c _ here with mem | mem
    · rcases List.mem_cons.mp mem with same | mem
      · exact .inr (List.mem_append_right _ (List.mem_singleton.mpr same))
      · exact .inl mem
    · exact .inr (List.mem_append_left _ mem)
  | createDuplicate here unique taken => exact backed.goes_on rfl (fun _ => Job.noConfusion) id id
  | @save c here =>
    have row := (backed.before c _ here).resolve_left (List.not_mem_nil)
    refine ⟨?_, fun _ => row⟩
    intro d rest job
    exact .inr row
  | fail may => exact backed.goes_on rfl (fun _ => Job.noConfusion) id id
  | deleteStored here => exact backed.goes_on rfl (fun _ => Job.noConfusion) id id
  | castDelete here => exact backed.goes_on rfl (fun _ => Job.noConfusion) id id
  | destroyFlavours here =>
    exact backed.goes_on rfl (fun _ => Job.noConfusion) (fun row => List.mem_filter.mpr ⟨row, rfl⟩) id
  | restore here =>
    exact backed.goes_on rfl (fun _ => Job.noConfusion) id fun recorded =>
      .inl (recorded.resolve_right OnboardingState.noConfusion)
  | deleteExtracted waits => exact ⟨backed.before, backed.recorded⟩

/-- A request leaves a package whose VNFD is registered if it is recorded. -/
lemma Backed.answers {p q : Package κ} {request : Request}
    (recorded : p.state.vnfPackage.IsRecorded → .vnfPackageVnfd ∈ p.state.rows)
    (answers : Answers conductors (.some p) request (.some q)) :
    q.state.vnfPackage.IsRecorded → .vnfPackageVnfd ∈ q.state.rows := by
  cases answers with
  | patch eq =>
    rcases patch_cases eq with same | ⟨onboarded, operationalState, same⟩
    · rw [same]
      exact recorded
    · rw [same]
      intro _
      exact recorded (.inr onboarded)
  | use usageState => exact recorded
  | upload eq uploads =>
    cases uploads with
    | breaksOff inStore =>
      exact fun now => recorded (.inl (now.resolve_right OnboardingState.noConfusion))
    | notStored inStore =>
      exact fun now => recorded (.inl (now.resolve_right OnboardingState.noConfusion))
    | notSent processing =>
      intro now
      exact List.mem_filter.mpr
        ⟨recorded (.inl (now.resolve_right OnboardingState.noConfusion)), rfl⟩
    | processed run ended =>
      have atStart : Backed (p.state.send conductors) := by
        refine ⟨?_, fun now => recorded (.inl (now.resolve_right OnboardingState.noConfusion))⟩
        intro c rest job
        rcases (p.state.send_sent conductors).idle c with idle | idle
        · cases idle.symm.trans job
        · cases idle.symm.trans job
      have atEnd : Backed _ := run.invariant' (fun step b => b.step (fires_of_next step)) atStart
      exact atEnd.recorded

/-- In every history from its creation on, a package is recorded after its VNFD was registered. -/
lemma backed_of_history {id : String} {userData : List (String × String)}
    {requests : List (Option (Package κ) × Request)} {q : Package κ} {after : Option (Package κ)}
    (history : History conductors (.some (create id userData)) requests after) (same : after = .some q) :
    q.state.vnfPackage.IsRecorded → .vnfPackageVnfd ∈ q.state.rows := by
  induction history generalizing q with
  | nil =>
    cases same
    rintro (enabled | onboarded)
    · cases enabled
    · cases onboarded
  | @snoc _ before request _ history answers ih =>
    subst same
    cases before with
    | none => cases answers
    | some p => exact Backed.answers (ih rfl) answers

/-- A package that is not in use is deleted at once when it is disabled, and otherwise after it was
disabled, which takes that it is onboarded. -/
lemma deletes (conductors : Finset κ) (q : Package κ) (free : q.state.vnfPackage.usageState = .notInUse)
    (way : q.state.vnfPackage.operationalState = .enabled →
      q.state.vnfPackage.onboardingState = .onboarded) :
    ∃ requests, requests.length ≤ 2 ∧ History conductors (.some q) requests none := by
  have delete : ∀ q : Package κ, q.state.vnfPackage.operationalState = .disabled →
      q.state.vnfPackage.usageState = .notInUse → checkDelete q = .ok () := by
    intro q disabled free
    rw [checkDelete, if_neg]
    rintro (enabled | inUse)
    · cases enabled.symm.trans disabled
    · cases inUse.symm.trans free
  cases operational : q.state.vnfPackage.operationalState with
  | disabled =>
    exact ⟨[(.some q, .delete)], Nat.le_succ 1, Run.single (.delete (delete q operational free))⟩
  | enabled =>
    let disabled := q.setVnfPackage { q.state.vnfPackage with operationalState := .disabled }
    have allowed : patchOperationalState q ⟨some .disabled, []⟩ = .ok disabled := by
      show (if q.state.vnfPackage.onboardingState = .onboarded then _ else _) = _
      rw [if_pos (way operational), operational]
      rfl
    have patched : patch q ⟨some .disabled, []⟩ = .ok disabled := by
      rw [patch, allowed]
      rfl
    exact ⟨_, le_refl 2, .snoc (Run.single (Answers.patch patched)) (.delete (delete disabled rfl free))⟩

/-- What holds with one conductor. -/
structure Alone (c : κ) (start s : State κ) : Prop where
  saved : s.jobs c = .saved →
    s.vnfPackage.onboardingState = .onboarded ∧ s.vnfPackage.operationalState = .enabled
  unsaved : s.jobs c ≠ .saved →
    s.vnfPackage.operationalState = start.vnfPackage.operationalState

lemma Alone.step {c : κ} {e : Event κ} (alone : Alone c start s)
    (only : ∀ d, s.jobs d ≠ .skipped → d = c) (fires : Fires conductors csar s e t) :
    Alone c start t := by
  rcases fires_advances fires with ⟨jobs, same⟩ | ⟨d, job, jobs, advances, effects⟩
  · exact ⟨fun saved => same ▸ alone.saved (jobs ▸ saved), fun unsaved =>
      same ▸ alone.unsaved (jobs ▸ unsaved)⟩
  · obtain rfl := only d advances.ne_skipped
    have here : t.jobs d = job := by rw [jobs, Function.update_self]
    refine ⟨fun saved => effects.saves (here.symm.trans saved), fun unsaved => ?_⟩
    rw [effects.keeps (here ▸ unsaved)]
    apply alone.unsaved
    intro saved
    rw [saved] at advances
    cases advances with
    | fail may => cases may

/-- One conductor leaves the package onboarded, or no more enabled than it was. -/
lemma onboarded_or_same {c : κ} (sent : Sent {c} start) (run : Run (Step {c} csar) start tr s) :
    s.vnfPackage.onboardingState = .onboarded ∨
      s.vnfPackage.operationalState = start.vnfPackage.operationalState := by
  have alone : Alone c start s := by
    induction run with
    | nil =>
      refine ⟨fun saved => ?_, fun _ => rfl⟩
      rcases sent.idle c with idle | idle
      · cases idle.symm.trans saved
      · cases idle.symm.trans saved
    | snoc run step ih =>
      refine ih.step (fun d going => ?_) (fires_of_next step)
      exact Finset.mem_singleton.mp
        ((sent.invariant_run (Finset.singleton_nonempty c) run).outside d going)
  by_cases saved : s.jobs c = .saved
  · exact .inl (alone.saved saved).1
  · exact .inr (alone.unsaved saved)

/-- With one conductor, a request leaves a package that is onboarded if it is enabled. -/
lemma onboarded_of_enabled {c : κ} {p q : Package κ} {request : Request}
    (way : p.state.vnfPackage.operationalState = .enabled →
      p.state.vnfPackage.onboardingState = .onboarded)
    (answers : Answers {c} (.some p) request (.some q)) :
    q.state.vnfPackage.operationalState = .enabled →
      q.state.vnfPackage.onboardingState = .onboarded := by
  cases answers with
  | patch eq =>
    rcases patch_cases eq with same | ⟨onboarded, operationalState, same⟩
    · rw [same]
      exact way
    · rw [same]
      exact fun _ => onboarded
  | use usageState => exact way
  | upload eq uploads =>
    have created : p.state.vnfPackage.onboardingState = .created := by
      by_contra other
      rw [checkUpload, if_pos other] at eq
      cases eq
    have notEnabled : p.state.vnfPackage.operationalState ≠ .enabled := by
      intro enabled
      cases created.symm.trans (way enabled)
    cases uploads with
    | breaksOff inStore => exact fun enabled => absurd enabled notEnabled
    | notStored inStore => exact fun enabled => absurd enabled notEnabled
    | notSent processing => exact fun enabled => absurd enabled notEnabled
    | processed run ended =>
      intro enabled
      rcases onboarded_or_same (p.state.send_sent {c}) run with onboarded | same
      · exact onboarded
      · exact absurd (same.symm.trans enabled) notEnabled

/-- With one conductor, a package is onboarded whenever it is enabled. -/
lemma onboarded_of_history {c : κ} {id : String} {userData : List (String × String)}
    {requests : List (Option (Package κ) × Request)} {q : Package κ} {after : Option (Package κ)}
    (history : History {c} (.some (create id userData)) requests after) (same : after = .some q) :
    q.state.vnfPackage.operationalState = .enabled →
      q.state.vnfPackage.onboardingState = .onboarded := by
  induction history generalizing q with
  | nil =>
    cases same
    exact OperationalState.noConfusion
  | @snoc _ before request _ history answers ih =>
    subst same
    cases before with
    | none => cases answers
    | some p => exact onboarded_of_enabled (ih rfl) answers

/-- A fresh package is uploaded, and both conductors record it. -/
lemma uploadedByTwo : ∃ q : Package Bool,
    (∃ requests, History Finset.univ (some (create "package" [])) requests (some q)) ∧
    q.state.vnfPackage = ⟨.created, .enabled, .notInUse, 0⟩ := by
  let sent : State Bool := (create "package" []).state.send Finset.univ
  obtain ⟨tr, s, run, ended, vnfPackage⟩ :=
    Run.of_replay (next Finset.univ smallCsar) sent bothEntitled
      (fun tr s => (∀ c ∈ Finset.univ, (s.jobs c).hasEnded = true) ∧
        s.vnfPackage = ⟨.created, .enabled, .notInUse, 0⟩)
      (by decide +kernel)
  exact ⟨⟨"package", s, []⟩, ⟨_, Run.single (Answers.upload rfl (.processed run ended))⟩, vnfPackage⟩

end Tacker.Vnfpkgm
