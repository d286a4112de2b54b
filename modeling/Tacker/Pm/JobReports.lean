import Mathlib.Logic.Function.Basic
import Tacker.Basis.InFlight
import Tacker.Basis.Run
import Tacker.Basis.Table

/-!
# Reports and modifications of one PM job

`store_job_info` of `conductor/vnfpm_driver_v2.py` with `update_report` of `common/pm_job_utils.py`,
and the handler `update` of `controller/vnfpm_v2.py`, as threads that work on the row of one PM job.
A program counter stands before the next statement that reads or writes the database or the lock; a
job that a thread has loaded is part of its program counter. Notifications are sent by threads of
their own.
-/

namespace Tacker.Pm

open Tacker.Basis

section

/-! ## Data -/

/-- `VnfPmJobV2_Reports`. -/
structure JobReport where
  href : String
  readyTime : Nat
deriving DecidableEq

/-- `PerformanceReportV2`; the time is that of the first value of its first entry. -/
structure PerformanceReport where
  id : String
  timeStamp : Nat
deriving DecidableEq

/-- `PmJobV2`, with the attributes that are written after its creation. -/
@[ext]
structure PmJob (Auth : Type*) where
  callbackUri : String
  reports : Option (List JobReport)
  authentication : Option Auth
deriving DecidableEq

/-- `PmJobModificationsRequest`. -/
structure Modification (Auth : Type*) where
  callbackUri : Option String := none
  authentication : Option Auth := none
deriving DecidableEq

variable {Auth : Type*}

/-- The `callbackUri` of the body, if it is there and not empty. -/
def Modification.newCallbackUri (body : Modification Auth) : Option String :=
  body.callbackUri.filter (· ≠ "")

/-- Where the job is found, and its identifier. -/
structure Place where
  endpoint : String
  jobId : String

/-- `_gen_job_report`. -/
def genJobReport (place : Place) (report : PerformanceReport) : JobReport where
  href := place.endpoint ++ "/vnfpm/v2/pm_jobs/" ++ place.jobId ++ "/reports/" ++ report.id
  readyTime := report.timeStamp

namespace PmJob

/-- `update_report`, on the loaded job. -/
def updateReport (place : Place) (report : PerformanceReport) (job : PmJob Auth) : PmJob Auth :=
  match job.reports with
  | some reports => { job with reports := some (reports ++ [genJobReport place report]) }
  | none => { job with reports := some [genJobReport place report] }

/-- What `update` sets on the loaded job. -/
def modify (body : Modification Auth) (job : PmJob Auth) : PmJob Auth :=
  { job with
    callbackUri := body.newCallbackUri.getD job.callbackUri
    authentication := body.authentication.or job.authentication }

/-- The merge of `pm_job.update(context)`: the attributes that are set replace those of the row. -/
def mergeInto (job row : PmJob Auth) : PmJob Auth where
  callbackUri := job.callbackUri
  reports := job.reports.or row.reports
  authentication := job.authentication.or row.authentication

end PmJob

/-! ## Threads -/

/-- The program counter of a thread. -/
inductive Handler (Auth : Type*) where
  /-- No call is being served. -/
  | idle
  /-- `store_job_info`, before the rest of its reports. -/
  | store (reports : List PerformanceReport)
  /-- The report is stored; the job is loaded next. -/
  | load (report : PerformanceReport) (todo : List PerformanceReport)
  /-- The job is updated next. -/
  | save (report : PerformanceReport) (loaded : PmJob Auth) (todo : List PerformanceReport)
  /-- `update` of the API, before the lock of the job. -/
  | lock (body : Modification Auth)
  /-- The lock is held; the job is loaded next. -/
  | loadLocked (body : Modification Auth)
  /-- The job is tested and updated next. -/
  | saveLocked (body : Modification Auth) (loaded : PmJob Auth)
  /-- The lock is released next. -/
  | unlock
deriving DecidableEq

/-- What a thread does. -/
inductive Action (Auth : Type*) where
  /-- A call of `store_job_info` arrives. -/
  | storeJobInfo (reports : List PerformanceReport)
  /-- A modification request arrives. -/
  | modify (body : Modification Auth)
  /-- The next statement is executed. -/
  | go
  /-- `get_subsc_auth` or `test_notification` raises. -/
  | reject
deriving DecidableEq

/-- A thread and what it does. -/
structure Event (Auth : Type*) where
  thread : Nat
  action : Action Auth

/-- The row of the job, the stored reports, the lock of the job and the threads. -/
structure State (Auth : Type*) where
  job : PmJob Auth
  reports : Table PerformanceReport.id := ∅
  lock : Option Nat := none
  handlers : Nat → Handler Auth := fun _ => .idle

namespace State

/-- The thread goes on at the program counter. -/
def goOn (s : State Auth) (i : Nat) (h : Handler Auth) : State Auth :=
  { s with handlers := Function.update s.handlers i h }

/-- `_store_report`; the call ends if the identifier is taken. -/
def storeReport (s : State Auth) (i : Nat) (report : PerformanceReport)
    (todo : List PerformanceReport) : State Auth :=
  match s.reports.insert report with
  | some reports => { s with reports := reports }.goOn i (.load report todo)
  | none => s.goOn i .idle

/-- `lock_resources`, which does not wait. -/
def acquire (s : State Auth) (i : Nat) (body : Modification Auth) : State Auth :=
  if s.lock = none then { s with lock := some i }.goOn i (.loadLocked body) else s.goOn i .idle

/-- The next statement of a thread. -/
def go (place : Place) (s : State Auth) (i : Nat) : Handler Auth → Option (State Auth)
  | .idle => none
  | .store [] => some (s.goOn i .idle)
  | .store (report :: todo) => some (s.storeReport i report todo)
  | .load report todo => some (s.goOn i (.save report s.job todo))
  | .save report loaded todo =>
    some ({ s with job := (loaded.updateReport place report).mergeInto s.job }.goOn i (.store todo))
  | .lock body => some (s.acquire i body)
  | .loadLocked body => some (s.goOn i (.saveLocked body s.job))
  | .saveLocked body loaded =>
    some ({ s with job := (loaded.modify body).mergeInto s.job }.goOn i .unlock)
  | .unlock => some ({ s with lock := none }.goOn i .idle)

/-- A call starts on a thread that serves none. -/
def start (s : State Auth) (i : Nat) (h : Handler Auth) : Handler Auth → Option (State Auth)
  | .idle => some (s.goOn i h)
  | _ => none

/-- The exception leaves the handler. -/
def reject (s : State Auth) (i : Nat) : Handler Auth → Option (State Auth)
  | .saveLocked _ _ => some (s.goOn i .unlock)
  | _ => none

/-- One step of one thread. -/
def step (place : Place) (s : State Auth) (e : Event Auth) : Option (State Auth) :=
  match e.action with
  | .storeJobInfo reports => s.start e.thread (.store reports) (s.handlers e.thread)
  | .modify body => s.start e.thread (.lock body) (s.handlers e.thread)
  | .go => s.go place e.thread (s.handlers e.thread)
  | .reject => s.reject e.thread (s.handlers e.thread)

/-- The state after `pm_job.create(context)`: the job has no reports, and no thread works on it. -/
def created (callbackUri : String) (authentication : Option Auth) : State Auth where
  job := { callbackUri := callbackUri, reports := some [], authentication := authentication }

/-- All calls and requests have finished. -/
def Finished (s : State Auth) : Prop :=
  ∀ i, s.handlers i = .idle

end State

/-! ## Accepted modifications -/

namespace Handler

/-- The modification that the next statement stores. -/
def accepts : Handler Auth → Option (Modification Auth)
  | saveLocked body _ => some body
  | _ => none

/-- The stored report that has no entry in the job yet. -/
def pending : Handler Auth → Option PerformanceReport
  | load report _ | save report _ _ => some report
  | _ => none

end Handler

/-- The modification that the step stores. -/
def acceptedBy (p : State Auth × Event Auth) : Option (Modification Auth) :=
  match p.2.action with
  | .go => (p.1.handlers p.2.thread).accepts
  | _ => none

/-- The modifications that a run accepts, the first one first. -/
def accepted (tr : List (State Auth × Event Auth)) : List (Modification Auth) :=
  tr.filterMap acceptedBy

end

/-!
## When no report and no modification of a PM job is lost

A thread changes a copy of the job and writes the whole copy back. What other threads wrote between
its load and its save is kept if the copy still agrees with the row on the attributes that the
thread does not set itself. If every save of a run does so, the row is what the changes make of it
one after the other.
-/

variable {Auth : Type*} {place : Place} {s t : State Auth} {e : Event Auth} {i j : Nat}
  {tr : List (State Auth × Event Auth)}

/-! ## Saves that lose nothing -/

/-- Saving the loaded attribute leaves that of the row as it is: an unset attribute is not
written. -/
def Keeps {α : Type*} (loaded row : Option α) : Prop :=
  loaded = none ∨ loaded = row

lemma keeps_iff {α : Type*} {loaded row : Option α} : Keeps loaded row ↔ loaded.or row = row := by
  cases loaded with
  | none => simp [Keeps]
  | some a => simp [Keeps]

/-- The row still is as it was loaded, up to the attributes that the next statement sets. -/
def Handler.Current (row : PmJob Auth) : Handler Auth → Prop
  | .save _ loaded _ =>
    loaded.reports.getD [] = row.reports.getD [] ∧ loaded.callbackUri = row.callbackUri ∧
      Keeps loaded.authentication row.authentication
  | .saveLocked body loaded =>
    Keeps loaded.reports row.reports ∧
      (body.newCallbackUri = none → loaded.callbackUri = row.callbackUri) ∧
      (body.authentication = none → Keeps loaded.authentication row.authentication)
  | _ => True

instance {α : Type*} [DecidableEq α] {loaded row : Option α} : Decidable (Keeps loaded row) :=
  inferInstanceAs (Decidable (loaded = none ∨ loaded = row))

instance [DecidableEq Auth] {row : PmJob Auth} : (h : Handler Auth) → Decidable (h.Current row)
  | .save _ _ _ => inferInstanceAs (Decidable (_ ∧ _ ∧ Keeps _ _))
  | .saveLocked _ _ =>
    inferInstanceAs (Decidable (Keeps _ _ ∧ (_ = none → _ = _) ∧ (_ = none → Keeps _ _)))
  | .idle | .store _ | .load _ _ | .lock _ | .loadLocked _ | .unlock =>
    inferInstanceAs (Decidable True)

/-- Each save finds the row as its thread loaded it, up to what it sets itself. -/
def SavedAsLoaded (p : State Auth × Event Auth) : Prop :=
  p.2.action = .go → (p.1.handlers p.2.thread).Current p.1.job

instance [DecidableEq Auth] : DecidablePred fun p : State Auth × Event Auth => SavedAsLoaded p :=
  fun p =>
  inferInstanceAs (Decidable (p.2.action = .go → (p.1.handlers p.2.thread).Current p.1.job))

namespace PmJob

variable {job loaded row : PmJob Auth} {report : PerformanceReport} {body : Modification Auth}

lemma reports_updateReport :
    (job.updateReport place report).reports =
      some (job.reports.getD [] ++ [genJobReport place report]) := by
  unfold updateReport
  cases reports : job.reports with
  | none => rfl
  | some reports => rfl

@[simp] lemma callbackUri_updateReport :
    (job.updateReport place report).callbackUri = job.callbackUri := by
  unfold updateReport
  cases job.reports with
  | none => rfl
  | some reports => rfl

@[simp] lemma authentication_updateReport :
    (job.updateReport place report).authentication = job.authentication := by
  unfold updateReport
  cases job.reports with
  | none => rfl
  | some reports => rfl

/-- A report is added to the row as it is now exactly if the row is as it was loaded. -/
lemma merge_updateReport_iff {todo : List PerformanceReport} :
    (loaded.updateReport place report).mergeInto row = row.updateReport place report ↔
      (Handler.save report loaded todo).Current row := by
  constructor
  · intro eq
    have uri := congrArg callbackUri eq
    have reports := congrArg PmJob.reports eq
    have auth := congrArg authentication eq
    simp only [mergeInto, callbackUri_updateReport] at uri
    simp only [mergeInto, authentication_updateReport] at auth
    simp only [mergeInto, reports_updateReport, Option.some_or, Option.some.injEq] at reports
    exact ⟨List.append_cancel_right reports, uri, keeps_iff.mpr auth⟩
  · rintro ⟨reports, uri, auth⟩
    apply PmJob.ext
    · simpa [mergeInto] using uri
    · simp only [mergeInto, reports_updateReport, reports, Option.some_or]
    · simpa [mergeInto] using keeps_iff.mp auth

/-- A modification changes the row as it is now exactly if the row is as it was loaded. -/
lemma merge_modify_iff :
    (loaded.modify body).mergeInto row = row.modify body ↔
      (Handler.saveLocked body loaded).Current row := by
  constructor
  · intro eq
    have uri := congrArg callbackUri eq
    have reports := congrArg PmJob.reports eq
    have auth := congrArg authentication eq
    refine ⟨keeps_iff.mpr reports, fun unset => ?_, fun unset => keeps_iff.mpr ?_⟩
    · simpa [mergeInto, modify, unset] using uri
    · simpa [mergeInto, modify, unset] using auth
  · rintro ⟨reports, uri, auth⟩
    apply PmJob.ext
    · cases set : body.newCallbackUri with
      | none => simpa [mergeInto, modify, set] using uri set
      | some new => simp [mergeInto, modify, set]
    · exact keeps_iff.mp reports
    · cases set : body.authentication with
      | none => simpa [mergeInto, modify, set] using keeps_iff.mp (auth set)
      | some new => simp [mergeInto, modify, set]

end PmJob

/-! ## What a step can do -/

/-- The steps of the system, by what they do to the job and to the stored reports. -/
inductive Move (place : Place) (s : State Auth) (e : Event Auth) (t : State Auth) : Prop where
  /-- Neither changes. -/
  | quiet {h : Handler Auth} (goes : t.handlers = Function.update s.handlers e.thread h)
      (job : t.job = s.job) (reports : t.reports = s.reports)
      (pending : h.pending = (s.handlers e.thread).pending) (none : acceptedBy (s, e) = none)
  /-- A report is stored, and waits for its entry. -/
  | stored {h : Handler Auth} {report : PerformanceReport}
      (goes : t.handlers = Function.update s.handlers e.thread h) (job : t.job = s.job)
      (reports : s.reports.insert report = some t.reports)
      (was : (s.handlers e.thread).pending = none) (pending : h.pending = some report)
      (none : acceptedBy (s, e) = none)
  /-- The job is saved with the entry of a report. -/
  | saved {h : Handler Auth} {report : PerformanceReport} {loaded : PmJob Auth}
      {todo : List PerformanceReport} (go : e.action = .go)
      (stands : s.handlers e.thread = .save report loaded todo)
      (goes : t.handlers = Function.update s.handlers e.thread h)
      (job : t.job = (loaded.updateReport place report).mergeInto s.job)
      (reports : t.reports = s.reports) (pending : h.pending = none)
      (none : acceptedBy (s, e) = none)
  /-- The job is saved with a modification. -/
  | modified {h : Handler Auth} {body : Modification Auth} {loaded : PmJob Auth}
      (go : e.action = .go) (stands : s.handlers e.thread = .saveLocked body loaded)
      (goes : t.handlers = Function.update s.handlers e.thread h)
      (job : t.job = (loaded.modify body).mergeInto s.job) (reports : t.reports = s.reports)
      (pending : h.pending = none) (some : acceptedBy (s, e) = some body)

/-- A call can only start on a thread without a pending report. -/
lemma move_start {h h' : Handler Auth} (same : s.handlers e.thread = h')
    (started : s.start e.thread h h' = some t) (pending : h.pending = none)
    (none : acceptedBy (s, e) = none) : Move place s e t := by
  cases h' with
  | idle =>
    obtain rfl := Option.some.inj started
    exact .quiet rfl rfl rfl (pending.trans (by rw [same]; rfl)) none
  | _ => cases started

lemma move_go {h : Handler Auth} (go : e.action = .go) (same : s.handlers e.thread = h)
    (st : s.go place e.thread h = some t) : Move place s e t := by
  have accepts : acceptedBy (s, e) = h.accepts := by simp only [acceptedBy, go, same]
  cases h with
  | idle => cases st
  | store reports =>
    cases reports with
    | nil =>
      obtain rfl := Option.some.inj st
      exact .quiet rfl rfl rfl (by rw [same]; rfl) accepts
    | cons report todo =>
      obtain rfl := Option.some.inj st
      cases insert : s.reports.insert report with
      | none =>
        have eq : s.storeReport e.thread report todo = s.goOn e.thread .idle := by
          simp only [State.storeReport, insert]
        rw [eq]
        exact .quiet rfl rfl rfl (by rw [same]; rfl) accepts
      | some reports =>
        have eq : s.storeReport e.thread report todo =
            { s with reports := reports }.goOn e.thread (.load report todo) := by
          simp only [State.storeReport, insert]
        rw [eq]
        exact .stored rfl rfl insert (by rw [same]; rfl) rfl accepts
  | load report todo =>
    obtain rfl := Option.some.inj st
    exact .quiet rfl rfl rfl (by rw [same]; rfl) accepts
  | save report loaded todo =>
    obtain rfl := Option.some.inj st
    exact .saved go same rfl rfl rfl rfl accepts
  | lock body =>
    obtain rfl := Option.some.inj st
    unfold State.acquire
    split
    · exact .quiet rfl rfl rfl (by rw [same]; rfl) accepts
    · exact .quiet rfl rfl rfl (by rw [same]; rfl) accepts
  | loadLocked body =>
    obtain rfl := Option.some.inj st
    exact .quiet rfl rfl rfl (by rw [same]; rfl) accepts
  | saveLocked body loaded =>
    obtain rfl := Option.some.inj st
    exact .modified go same rfl rfl rfl rfl accepts
  | unlock =>
    obtain rfl := Option.some.inj st
    exact .quiet rfl rfl rfl (by rw [same]; rfl) accepts

lemma move_reject {h : Handler Auth} (same : s.handlers e.thread = h)
    (st : s.reject e.thread h = some t) (none : acceptedBy (s, e) = none) : Move place s e t := by
  cases h with
  | saveLocked body loaded =>
    obtain rfl := Option.some.inj st
    exact .quiet rfl rfl rfl (by rw [same]; rfl) none
  | _ => cases st

/-- Every step is one of the moves. -/
lemma step_cases (st : StepOf (State.step place) s e t) : Move place s e t := by
  have eq : s.step place e = some t := st
  unfold State.step at eq
  cases action : e.action with
  | storeJobInfo reports =>
    simp only [action] at eq
    exact move_start rfl eq rfl (by simp only [acceptedBy, action])
  | modify body =>
    simp only [action] at eq
    exact move_start rfl eq rfl (by simp only [acceptedBy, action])
  | go =>
    simp only [action] at eq
    exact move_go action rfl eq
  | reject =>
    simp only [action] at eq
    exact move_reject rfl eq (by simp only [acceptedBy, action])

/-- Only the thread of a step moves. -/
lemma other_thread (st : StepOf (State.step place) s e t) (other : e.thread ≠ i) :
    t.handlers i = s.handlers i := by
  cases step_cases st with
  | quiet goes => rw [goes, Function.update_of_ne other.symm]
  | stored goes => rw [goes, Function.update_of_ne other.symm]
  | saved _ _ goes => rw [goes, Function.update_of_ne other.symm]
  | modified _ _ goes => rw [goes, Function.update_of_ne other.symm]

/-- A thread without a step in the run still is where it was. -/
lemma untouched (run : Run (StepOf (State.step place)) s tr t)
    (other : ∀ p ∈ tr, p.2.thread ≠ i) : t.handlers i = s.handlers i := by
  induction run with
  | nil => rfl
  | @snoc tr _ e _ _ st ih =>
    rw [other_thread st (other _ (List.mem_append_right tr (List.mem_singleton.mpr rfl)))]
    exact ih fun p mem => other p (List.mem_append_left _ mem)

/-- Only these threads took steps, and none of them serves a call. -/
def FinishedAmong (threads : List Nat) (tr : List (State Auth × Event Auth)) (s : State Auth) :
    Prop :=
  (∀ p ∈ tr, p.2.thread ∈ threads) ∧ ∀ i ∈ threads, s.handlers i = .idle

instance [DecidableEq Auth] {threads : List Nat} :
    Decidable (FinishedAmong threads tr s) :=
  inferInstanceAs
    (Decidable ((∀ p ∈ tr, p.2.thread ∈ threads) ∧ ∀ i ∈ threads, s.handlers i = .idle))

lemma FinishedAmong.finished {callbackUri : String} {authentication : Option Auth}
    {threads : List Nat} (among : FinishedAmong threads tr s)
    (run : Run (StepOf (State.step place)) (State.created callbackUri authentication) tr s) :
    s.Finished := by
  intro i
  by_cases mem : i ∈ threads
  · exact among.2 i mem
  · exact untouched run fun p mem' same => mem (same ▸ among.1 p mem')

/-! ## What is kept -/

/-- The last value that one of the modifications sets. -/
def lastSet {α : Type*} (value : Modification Auth → Option α) (bodies : List (Modification Auth)) :
    Option α :=
  (bodies.filterMap value).getLast?

lemma lastSet_append {α : Type*} {value : Modification Auth → Option α}
    {bodies : List (Modification Auth)} {body : Modification Auth} :
    lastSet value (bodies ++ [body]) = (value body).or (lastSet value bodies) := by
  cases set : value body with
  | none => simp [lastSet, set]
  | some a => simp [lastSet, set]

/-- The job has one entry for each stored report, and each attribute is the one that the last
accepted modification of it set. -/
structure Kept (place : Place) (first : PmJob Auth) (tr : List (State Auth × Event Auth))
    (s : State Auth) : Prop where
  reports : (s.job.reports.getD []).Perm (s.reports.rows.map (genJobReport place))
  callbackUri :
    s.job.callbackUri =
      (lastSet Modification.newCallbackUri (accepted tr)).getD first.callbackUri
  authentication :
    s.job.authentication =
      (lastSet Modification.authentication (accepted tr)).or first.authentication

/-- What holds before all calls have finished: the entries are those of the reports that no thread
still has to enter. -/
structure Entered (place : Place) (first : PmJob Auth) (tr : List (State Auth × Event Auth))
    (s : State Auth) (entered : List PerformanceReport) : Prop where
  flight : InFlight s.reports.rows entered (fun i => (s.handlers i).pending)
  reports : s.job.reports = some (entered.map (genJobReport place))
  callbackUri :
    s.job.callbackUri =
      (lastSet Modification.newCallbackUri (accepted tr)).getD first.callbackUri
  authentication :
    s.job.authentication =
      (lastSet Modification.authentication (accepted tr)).or first.authentication

variable {first : PmJob Auth} {entered : List PerformanceReport}

lemma pending_update {handlers : Nat → Handler Auth} {h : Handler Auth} :
    (fun j => (Function.update handlers i h j).pending) =
      Function.update (fun j => (handlers j).pending) i h.pending := by
  funext j
  by_cases same : j = i
  · rw [same, Function.update_self, Function.update_self]
  · rw [Function.update_of_ne same, Function.update_of_ne same]

lemma accepted_snoc_none (none : acceptedBy (s, e) = none) :
    accepted (tr ++ [(s, e)]) = accepted tr := by
  simp [accepted, none]

lemma accepted_snoc_some {body : Modification Auth} (some : acceptedBy (s, e) = some body) :
    accepted (tr ++ [(s, e)]) = accepted tr ++ [body] := by
  simp [accepted, some]

/-- The rows after the insertion of a report. -/
lemma rows_insert {reports reports' : Table PerformanceReport.id} {report : PerformanceReport}
    (insert : reports.insert report = some reports') :
    report ∉ reports.rows ∧ reports'.rows = reports.rows ++ [report] := by
  unfold Table.insert at insert
  split at insert
  · cases insert
  · case isFalse fresh =>
    obtain rfl := Option.some.inj insert
    exact ⟨fun mem => fresh (List.mem_map_of_mem mem), rfl⟩

/-- A guarded step keeps the account. -/
lemma Entered.step (ok : Entered place first tr s entered) (guard : SavedAsLoaded (s, e))
    (st : StepOf (State.step place) s e t) :
    ∃ entered, Entered place first (tr ++ [(s, e)]) t entered := by
  cases step_cases st with
  | quiet goes job reports pending none =>
    refine ⟨entered, ?_, ?_, ?_, ?_⟩
    · rw [goes, pending_update, pending, Function.update_eq_self, reports]
      exact ok.flight
    · rw [job]
      exact ok.reports
    · rw [job, accepted_snoc_none none]
      exact ok.callbackUri
    · rw [job, accepted_snoc_none none]
      exact ok.authentication
  | stored goes job reports was pending none =>
    obtain ⟨fresh, rows⟩ := rows_insert reports
    refine ⟨entered, ?_, ?_, ?_, ?_⟩
    · rw [goes, pending_update, pending, rows]
      exact ok.flight.take was fresh
    · rw [job]
      exact ok.reports
    · rw [job, accepted_snoc_none none]
      exact ok.callbackUri
    · rw [job, accepted_snoc_none none]
      exact ok.authentication
  | @saved h report loaded todo go stands goes job reports pending none =>
    have current : (Handler.save report loaded todo).Current s.job := stands ▸ guard go
    rw [PmJob.merge_updateReport_iff.mpr current] at job
    refine ⟨entered ++ [report], ?_, ?_, ?_, ?_⟩
    · rw [goes, pending_update, pending, reports]
      exact ok.flight.settle (show (s.handlers e.thread).pending = some report by rw [stands]; rfl)
    · rw [job, PmJob.reports_updateReport, ok.reports, List.map_append]
      rfl
    · rw [job, PmJob.callbackUri_updateReport, accepted_snoc_none none]
      exact ok.callbackUri
    · rw [job, PmJob.authentication_updateReport, accepted_snoc_none none]
      exact ok.authentication
  | @modified h body loaded go stands goes job reports pending some =>
    have current : (Handler.saveLocked body loaded).Current s.job := stands ▸ guard go
    rw [PmJob.merge_modify_iff.mpr current] at job
    have held : (s.handlers e.thread).pending = none := by rw [stands]; rfl
    refine ⟨entered, ?_, ?_, ?_, ?_⟩
    · rw [goes, pending_update, pending, ← held, Function.update_eq_self, reports]
      exact ok.flight
    · rw [job]
      exact ok.reports
    · rw [job, accepted_snoc_some some, lastSet_append]
      show body.newCallbackUri.getD s.job.callbackUri = _
      rw [ok.callbackUri]
      cases body.newCallbackUri with
      | none => rfl
      | some uri => rfl
    · rw [job, accepted_snoc_some some, lastSet_append, Option.or_assoc]
      exact congrArg body.authentication.or ok.authentication

lemma Entered.created {callbackUri : String} {authentication : Option Auth} :
    Entered place (State.created callbackUri authentication).job []
      (State.created callbackUri authentication) [] where
  flight := InFlight.none
  reports := rfl
  callbackUri := rfl
  authentication := rfl

/-- In every run whose saves find the row as loaded, no report and no modification is lost once all
calls have finished. -/
theorem reports_and_modifications_kept (place : Place) (callbackUri : String)
    (authentication : Option Auth) (tr : List (State Auth × Event Auth)) (s : State Auth)
    (run : Run (StepOf (State.step place)) (State.created callbackUri authentication) tr s)
    (guard : Guarded SavedAsLoaded tr) (finished : s.Finished) :
    Kept place (State.created callbackUri authentication).job tr s := by
  obtain ⟨entered, ok⟩ :
      ∃ entered, Entered place (State.created callbackUri authentication).job tr s entered := by
    apply run.invariant_hist _ guard
    · exact ⟨[], Entered.created⟩
    · rintro tr t e u - - guard st ⟨entered, ok⟩
      exact ok.step guard st
  have perm : entered.Perm s.reports.rows :=
    ok.flight.settled_perm (fun i => by rw [finished i]; rfl)
  refine ⟨?_, ok.callbackUri, ok.authentication⟩
  rw [ok.reports]
  exact perm.map (genJobReport place)

/-- A run in which both kinds of calls take turns. -/
def takingTurns : List (Event String) :=
  [⟨0, .storeJobInfo [⟨"report-1", 1⟩]⟩, ⟨1, .modify { callbackUri := some "http://new" }⟩,
    ⟨0, .go⟩, ⟨1, .go⟩, ⟨0, .go⟩, ⟨0, .go⟩, ⟨1, .go⟩, ⟨1, .go⟩, ⟨1, .go⟩, ⟨0, .go⟩]

/-- The job of the runs below. -/
def placeOfJob : Place where
  endpoint := "http://vnfm"
  jobId := "job"

theorem kept_taking_turns :
    ∃ (tr : List (State String × Event String)) (s : State String), s.reports.rows.length = 1 ∧
      accepted tr = [{ callbackUri := some "http://new" }] ∧
      Kept placeOfJob (State.created "http://old" none).job tr s := by
  obtain ⟨tr, s, run, guard, among, stored, bodies⟩ :=
    Run.of_replay (State.step placeOfJob) (State.created "http://old" none) takingTurns
      (fun tr s => Guarded SavedAsLoaded tr ∧ FinishedAmong [0, 1] tr s ∧
        s.reports.rows.length = 1 ∧ accepted tr = [{ callbackUri := some "http://new" }])
      (by decide)
  exact ⟨tr, s, stored, bodies, reports_and_modifications_kept placeOfJob "http://old" none tr s run
    guard (among.finished run)⟩

/-- Two calls that load the job before either saves it. -/
def bothLoaded : List (Event String) :=
  [⟨0, .storeJobInfo [⟨"report-1", 1⟩]⟩, ⟨1, .storeJobInfo [⟨"report-2", 2⟩]⟩, ⟨0, .go⟩, ⟨1, .go⟩,
    ⟨0, .go⟩, ⟨1, .go⟩, ⟨0, .go⟩, ⟨1, .go⟩, ⟨0, .go⟩, ⟨1, .go⟩]

/-- The job that is saved last has no entry for the other report. -/
theorem store_job_info_loses_entry :
    ¬ ∀ (tr : List (State String × Event String)) (s : State String),
      Run (StepOf (State.step placeOfJob)) (State.created "http://old" none) tr s →
      s.Finished → Kept placeOfJob (State.created "http://old" none).job tr s := by
  intro kept
  obtain ⟨tr, s, run, among, entries, stored⟩ :=
    Run.of_replay (State.step placeOfJob) (State.created "http://old" none) bothLoaded
      (fun tr s => FinishedAmong [0, 1] tr s ∧ (s.job.reports.getD []).length = 1 ∧
        s.reports.rows.length = 2)
      (by decide)
  have same := (kept tr s run (among.finished run)).reports.length_eq
  rw [List.length_map, entries, stored] at same
  exact absurd same (by decide)

end Tacker.Pm
