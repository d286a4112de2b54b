import Tacker.Usage.Effects
import Tacker.Usage.Registrations

/-!
# A package is in use when an instance refers to it

In every run, whichever processes crash and however their updates interleave: a usage state that is
not being updated says whether an instance refers to the package, as long as no two updates of the
same package overlap, no update is lost in a crash, and no package is removed which an operation is
to change to.
-/

namespace Tacker.Usage

open Tacker.Basis
open Tacker.Conductor (VnfInstance LocalNfvo PackageUsageState)
open Tacker.Objects (LcmOperationState)

variable {κ : Type} [DecidableEq κ] {s t : State κ} {e : Event κ} {vnfdId : String} {process : κ}
  {inst : VnfInstance} {operation : Operation κ} {state : LcmOperationState}

/-- The operation is not to change an instance to the VNFD. -/
def Operation.spares (operation : Operation κ) (vnfdId : String) : Bool :=
  operation.vnfdId ≠ some vnfdId

/-- Completing the operation changes no VNFD whose usage state is being updated. -/
def State.mayComplete (s : State κ) (id : String) : Bool :=
  (s.operations.get id).all fun operation => (s.insts.get operation.vnfInstanceId).all fun inst =>
    (moved operation inst).vnfdId = inst.vnfdId ||
      !s.isUpdating inst.vnfdId && !s.isUpdating (moved operation inst).vnfdId

/-- The step leads to no update that overlaps another one for the same VNFD, loses none, and removes
no package that an operation is to change to. -/
def isOrderly (p : State κ × Event κ) : Bool :=
  match p.2 with
  | .removePackage vnfdId =>
    !p.1.isUpdating vnfdId && p.1.operations.rows.all fun operation => operation.spares vnfdId
  | .create _ inst => !p.1.isUpdating inst.vnfdId
  | .delete _ instId => (p.1.insts.get instId).all fun inst => !p.1.isUpdating inst.vnfdId
  | .complete id => p.1.mayComplete id
  | .crash process => p.1.updates.all fun update => update.process ≠ process || update.accesses = []
  | _ => true

/-! ## The invariant -/

/-- What the operations ask for is onboarded. -/
def Asked (s : State κ) : Prop :=
  ∀ id operation vnfdId, s.operations.get id = some operation → operation.vnfdId = some vnfdId →
    s.packages vnfdId ≠ none

/-- What holds in every orderly run. -/
structure Invariant (s : State κ) : Prop where
  exact : Exact s
  registered : Registered s
  asked : Asked s

omit [DecidableEq κ] in
/-- Nothing new is asked for, and no package is removed. -/
lemma Asked.congr (asked : Asked s)
    (packages : ∀ vnfdId, s.packages vnfdId ≠ none → t.packages vnfdId ≠ none)
    (operations : ∀ id operation, t.operations.get id = some operation →
      ∃ operation', s.operations.get id = some operation' ∧ operation.vnfdId = operation'.vnfdId) :
    Asked t := by
  intro id operation vnfdId there asks
  obtain ⟨operation', there', same⟩ := operations id operation there
  exact packages vnfdId (asked id operation' vnfdId there' (same.symm.trans asks))

omit [DecidableEq κ] in
/-- Nothing more is asked for when an operation ends. -/
lemma Asked.erase (asked : Asked s) {id : String} (packages : t.packages = s.packages)
    (operations : t.operations = s.operations.erase id) : Asked t := by
  refine asked.congr (fun vnfdId there => packages ▸ there) fun id' operation there => ?_
  rw [operations, Table.get_erase] at there
  split at there
  · cases there
  · exact ⟨operation, there, rfl⟩

/-- An operation goes on. -/
lemma Invariant.record (invariant : Invariant s) {id : String} (found : Found s id operation inst)
    {runner : Runner κ} (going : state ≠ .completed)
    (others : ∀ {id' operation'}, s.operations.get id' = some operation' → id' ≠ id →
      operation'.vnfInstanceId = operation.vnfInstanceId → operation'.runner ≠ .conductor process)
    (runs : runner = .nobody ∨ runner = .conductor process ∧ s.isLocked inst.id = false) :
    Invariant (s.record process inst operation state runner) where
  exact := invariant.exact.push_nil (notify_updates invariant.registered.spent going) rfl fun _ => rfl
  registered := invariant.registered.record found others runs
  asked := by
    refine invariant.asked.congr (fun _ there => there) fun id' operation' there => ?_
    replace there : (s.operations.put { operation with operationState := state, runner := runner }).get
      id' = some operation' := there
    rw [Table.get_put] at there
    split at there
    · case isTrue same =>
      cases there
      have key : operation.id = id' := same
      rw [← key, (Table.get_eq_some.mp found.row).2]
      exact ⟨operation, found.row, rfl⟩
    · exact ⟨operation', there, rfl⟩

/-- An operation ends without having changed its instance. -/
lemma Invariant.finish (invariant : Invariant s) {id : String} (found : Found s id operation inst)
    (going : state ≠ .completed)
    (others : ∀ {id' operation'}, s.operations.get id' = some operation' → id' ≠ id →
      operation'.vnfInstanceId = operation.vnfInstanceId → operation'.runner ≠ .conductor process) :
    Invariant (s.finish process inst operation state) where
  exact := invariant.exact.push_nil (notify_updates invariant.registered.spent going) rfl fun _ => rfl
  registered := invariant.registered.finish found rfl (fun _ _ => rfl) fun there ne same =>
    .inr ⟨rfl, others there ne same⟩
  asked := invariant.asked.erase rfl rfl

/-- An operation of which another one is not run by the process. -/
lemma Registered.others (registered : Registered s) {id : String} (found : Found s id operation inst)
    (free : operation.runner = .conductor process ∨ s.isLocked inst.id = false ∨
      s.isRunning process = false) {id' : String} {operation' : Operation κ}
    (there : s.operations.get id' = some operation') (ne : id' ≠ id)
    (same : operation'.vnfInstanceId = operation.vnfInstanceId) :
    operation'.runner ≠ .conductor process := by
  rcases free with runner | unlocked | idle
  · exact fun runner' => ne (registered.alone there found.row runner' runner same)
  · have instKey : inst.id = operation.vnfInstanceId := (Table.get_eq_some.mp found.inst).2
    exact not_run_of_unlocked unlocked there (same.trans instKey.symm)
  · exact not_run_of_idle idle there

/-- The operation completes. -/
lemma Invariant.complete (invariant : Invariant s) {id : String} (found : Found s id operation inst)
    (runner : operation.runner = .conductor process) (processing : operation.operationState = .processing)
    (may : s.mayComplete id = true) :
    Invariant ({ s with insts := s.insts.put (moved operation inst) }.finish process
      (moved operation inst) operation .completed) where
  exact := by
    have remembered := invariant.registered.registered found.row runner processing found.inst
    have updates := notify_completed (s := { s with
      insts := s.insts.put (moved operation inst)
      operations := s.operations.erase operation.id }) (moved operation inst)
      invariant.registered.spent remembered
    by_cases same : inst.vnfdId = (moved operation inst).vnfdId
    · rw [if_neg (not_not_intro same)] at updates
      refine invariant.exact.push_nil updates rfl fun vnfdId => refers_congr fun id' inst' _ => ?_
      show (s.insts.put (moved operation inst)).get id' = some inst' ↔ _
      have unmoved : moved operation inst = inst := by
        show { inst with vnfdId := (moved operation inst).vnfdId } = inst
        rw [← same]
      have key : inst.id = operation.vnfInstanceId := (Table.get_eq_some.mp found.inst).2
      rw [Table.get_put, unmoved]
      split
      · case isTrue here =>
        rw [← here, key, found.inst]
      · exact Iff.rfl
    · rw [if_pos same] at updates
      rw [State.mayComplete, found.row, Option.all_some, found.inst, Option.all_some,
        Bool.or_eq_true, decide_eq_true_iff, Bool.and_eq_true] at may
      obtain ⟨idle, idle'⟩ := may.resolve_left (Ne.symm same)
      have asks : operation.vnfdId = some (moved operation inst).vnfdId := by
        cases asked : operation.vnfdId with
        | none =>
          rw [moved, asked] at same
          exact absurd rfl same
        | some vnfdId =>
          rw [moved, asked]
          rfl
      have sameId : (moved operation inst).id = inst.id := rfl
      exact invariant.exact.move found.inst sameId same (invariant.asked id operation _ found.row asks)
        (Bool.eq_false_of_not_eq_true' idle) (Bool.eq_false_of_not_eq_true' idle') rfl rfl updates
  registered := by
    refine invariant.registered.finish found rfl ?_ ?_
    · intro id' other
      show (s.insts.put (moved operation inst)).get id' = _
      rw [Table.get_put]
      exact if_neg (Ne.symm other)
    · intro id' operation' there ne same
      exact .inl fun process' runner' =>
        ne (invariant.registered.alone there found.row runner' runner same)
  asked := invariant.asked.erase rfl rfl

omit [DecidableEq κ] in
/-- The checks of a request see to it that what it asks for is onboarded. -/
lemma onboarded_of_accepts (exact : Exact s) {instId : String} {kind : Kind}
    (found : s.insts.get instId = some inst) (accepts : s.accepts inst kind (some vnfdId) = true) :
    s.packages vnfdId ≠ none := by
  rw [State.accepts, Bool.or_eq_true] at accepts
  rcases accepts with onboarded | same
  · exact Option.isSome_iff_ne_none.mp onboarded
  · obtain ⟨-, same⟩ := Bool.and_eq_true_iff.mp same
    exact exact.onboarded (refers_iff.mpr ⟨instId, inst, found, (of_decide_eq_true same).symm⟩)

/-- Every orderly step keeps the invariant. -/
theorem Invariant.step (invariant : Invariant s) (takes : Takes s e t) (orderly : isOrderly (s, e) = true) :
    Invariant t := by
  cases takes with
  | @onboard vnfdId missing =>
    obtain ⟨idle, free⟩ := invariant.exact.missing missing
    refine ⟨invariant.exact.setPackage idle free (fun eq => by cases eq),
      invariant.registered.congr rfl (fun there _ => there) fun _ _ => rfl,
      invariant.asked.congr ?_ fun id operation there => ⟨operation, there, rfl⟩⟩
    intro vnfdId' there
    rw [setPackage_packages_of_ne]
    · exact there
    · rintro rfl
      exact there missing
  | removePackage free =>
    obtain ⟨idle, spared⟩ := Bool.and_eq_true_iff.mp orderly
    have idle := Bool.eq_false_of_not_eq_true' idle
    refine ⟨invariant.exact.setPackage idle (invariant.exact.free free idle) (fun eq => by cases eq),
      invariant.registered.congr rfl (fun there _ => there) fun _ _ => rfl, ?_⟩
    intro id operation vnfdId' there asks
    rw [setPackage_packages_of_ne]
    · exact invariant.asked id operation vnfdId' there asks
    · rintro rfl
      have spares := List.all_eq_true.mp spared operation (Table.get_eq_some.mp there).1
      exact of_decide_eq_true spares asks
  | @create process inst insts onboarded fresh =>
    refine ⟨invariant.exact.create fresh (Option.isSome_iff_ne_none.mp onboarded)
        (Bool.eq_false_of_not_eq_true' orderly),
      invariant.registered.congr rfl (fun there _ => there) fun there runner => ?_,
      invariant.asked.congr (fun _ there => there) fun _ operation there => ⟨operation, there, rfl⟩⟩
    show insts.get _ = _
    rw [Table.get_insert fresh, if_neg]
    intro same
    exact invariant.registered.there there runner (same ▸ Table.fresh_of_insert fresh)
  | @delete process instId inst found unlocked =>
    have idle : (s.insts.get instId).all (fun inst => !s.isUpdating inst.vnfdId) = true := orderly
    rw [found] at idle
    refine ⟨invariant.exact.delete found (Bool.eq_false_of_not_eq_true' idle),
      invariant.registered.congr rfl (fun there _ => there) fun there runner => ?_,
      invariant.asked.congr (fun _ there => there) fun _ operation there => ⟨operation, there, rfl⟩⟩
    show (s.insts.erase instId).get _ = _
    rw [Table.get_erase, if_neg]
    intro same
    exact not_run_of_unlocked unlocked there same.symm runner
  | @request id instId kind vnfdId inst operation operations found accepts new asks sent fresh =>
    refine ⟨⟨invariant.exact.apart, invariant.exact.exact, invariant.exact.updated⟩,
      invariant.registered.congr rfl (fun there runner => ?_) fun _ _ => rfl, ?_⟩
    · replace there : operations.get _ = some _ := there
      rw [Table.get_insert fresh] at there
      split at there
      · cases there
        cases sent.symm.trans runner
      · exact there
    · intro id' operation' vnfdId' there asks'
      replace there : operations.get id' = some operation' := there
      rw [Table.get_insert fresh] at there
      split at there
      · cases there
        cases asks.symm.trans asks'
        have onboarded := onboarded_of_accepts invariant.exact found accepts
        exact onboarded
      · exact invariant.asked id' operation' vnfdId' there asks'
  | start found unlocked =>
    exact invariant.record found (fun eq => by cases eq)
      (invariant.registered.others found (.inr (.inl unlocked))) (.inr ⟨rfl, unlocked⟩)
  | reject found unlocked =>
    exact invariant.finish found (fun eq => by cases eq)
      (invariant.registered.others found (.inr (.inl unlocked)))
  | complete found runner processing => exact invariant.complete found runner processing orderly
  | failTemp found runner =>
    exact invariant.record found (fun eq => by cases eq)
      (invariant.registered.others found (.inl runner)) (.inl rfl)
  | retry found unlocked =>
    exact invariant.record found (fun eq => by cases eq)
      (invariant.registered.others found (.inr (.inl unlocked))) (.inr ⟨rfl, unlocked⟩)
  | rollback found unlocked =>
    exact invariant.record found (fun eq => by cases eq)
      (invariant.registered.others found (.inr (.inl unlocked))) (.inr ⟨rfl, unlocked⟩)
  | rolledBack found runner =>
    exact invariant.finish found (fun eq => by cases eq)
      (invariant.registered.others found (.inl runner))
  | fail =>
    refine ⟨⟨invariant.exact.apart, invariant.exact.exact, invariant.exact.updated⟩,
      invariant.registered.congr rfl (fun there _ => ?_) fun _ _ => rfl, invariant.asked.erase rfl rfl⟩
    replace there : (s.operations.erase _).get _ = some _ := there
    rw [Table.get_erase] at there
    split at there
    · cases there
    · exact there
  | recoverStarting found idle =>
    exact invariant.finish found (fun eq => by cases eq)
      (invariant.registered.others found (.inr (.inr idle)))
  | recover found idle =>
    exact invariant.record found (fun eq => by cases eq)
      (invariant.registered.others found (.inr (.inr idle))) (.inl rfl)
  | @access place update there =>
    obtain ⟨insts, nfvo, operations⟩ := access_frame (s := s) place update
    refine ⟨invariant.exact.access there, invariant.registered.congr nfvo (fun there _ => ?_) fun _ _ => ?_,
      invariant.asked.congr (fun _ there => access_onboarded place update there) fun _ operation there => ?_⟩
    · rw [operations] at there
      exact there
    · rw [insts]
    · rw [operations] at there
      exact ⟨operation, there, rfl⟩
  | @crash process =>
    refine ⟨invariant.exact.drop rfl ?_ rfl rfl, invariant.registered.crash process,
      invariant.asked.congr (fun _ there => there) fun id operation there => ?_⟩
    · intro update mem dropped
      have done := List.all_eq_true.mp orderly update mem
      rw [dropped, Bool.false_or] at done
      exact of_decide_eq_true done
    · replace there : (s.operations.mapRows (·.interrupted process)
        (Operation.interrupted_id process)).get id = some operation := there
      rw [Table.get_mapRows] at there
      obtain ⟨before, found, rfl⟩ := Option.map_eq_some_iff.mp there
      exact ⟨before, found, rfl⟩

/-! ## Runs -/

/-- Nothing is there yet. -/
def State.init : State κ where
  insts := ∅
  packages := fun _ => none
  operations := ∅
  nfvo := fun _ => {}
  updates := []

lemma Invariant.init : Invariant (State.init : State κ) where
  exact := by
    refine ⟨List.Pairwise.nil, fun vnfdId => ?_, fun vnfdId updating => ?_⟩
    · exact iff_of_false (fun eq => by cases eq) (fun eq => by cases eq)
    · cases updating
  registered := by
    refine ⟨?_, ?_, ?_, fun process => rfl⟩
    · intro id id' operation operation' process process' there
      cases there
    · intro id operation process inst there
      cases there
    · intro id operation process there
      cases there
  asked := by
    intro id operation vnfdId there
    cases there

/-- A run of the API server and the conductors. -/
abbrev Runs (tr : List (State κ × Event κ)) (s : State κ) : Prop :=
  Run (StepOf next) State.init tr s

/-- An instance of the given VNFD. -/
def instOf (id vnfdId : String) : VnfInstance where
  id := id
  vnfInstanceName := none
  vnfdId := vnfdId
  vnfProvider := "provider"
  vnfProductName := "product"
  vnfSoftwareVersion := "1.0"
  vnfdVersion := "1.0"
  vimConnectionInfo := none

/-- An instance is created and moved from one package to another. -/
def moves : List (Event Unit) :=
  [.onboard "old", .onboard "new", .create () (instOf "inst" "old"), .access 0,
    .request "occ" "inst" .modifyInfo (some "new"), .start () "occ", .complete "occ"]

end Tacker.Usage
