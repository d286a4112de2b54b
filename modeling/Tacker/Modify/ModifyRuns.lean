import Tacker.Modify.ChangedInfo

/-!
# The life of a modification

An accepted `MODIFY_INFO` is processed, retried, rolled back or given up, by `_modify_vnfinfo`,
`_retry_lcm_op` and `_rollback_lcm_op` of the conductor and the API. The stored instance is written
together with the occurrence when the process ends well, and at no other time.
-/

namespace Tacker.Modify

open Tacker.Basis Tacker.Basis.Json Tacker.Objects
open Tacker.Fields (Atom Json str)

/-! ## Occurrences -/

/-- What is stored of an occurrence and of its instance. -/
structure State where
  stored : VnfInstance
  operationState : LcmOperationState := .processing
  changedInfo : Option VnfInfoModifications := none

/-- What happens to an occurrence. A process and a rollback may be interrupted, by a script of the
package or by a request that is not answered. -/
inductive Event where
  | process (interrupted : Bool)
  | retry
  | rollback
  | rolledBack (interrupted : Bool)
  | fail
  | restart
deriving DecidableEq

variable (getVnfd : String → Option NewVnfd) (req : VnfInfoModificationRequest)

/-- The end of a process: the instance and the occurrence are updated at the same time, or the
exception is recorded. -/
def State.processed (s : State) (interrupted : Bool) : State :=
  match if interrupted then none else modifyInfoProcess getVnfd req s.stored with
  | some inst =>
    { stored := inst
      operationState := .completed
      changedInfo := some (changeVnfInfo s.stored inst) }
  | none => { s with operationState := .failedTemp }

/-- The occurrence after an event. -/
def State.step (s : State) (e : Event) : Option State :=
  match s.operationState, e with
  | .processing, .process interrupted => some (s.processed getVnfd req interrupted)
  | .processing, .restart => some { s with operationState := .failedTemp }
  | .failedTemp, .retry => some { s with operationState := .processing }
  | .failedTemp, .rollback => some { s with operationState := .rollingBack }
  | .failedTemp, .fail => some { s with operationState := .failed }
  | .rollingBack, .rolledBack interrupted =>
    some { s with operationState := if interrupted then .failedTemp else .rolledBack }
  | .rollingBack, .restart => some { s with operationState := .failedTemp }
  | _, _ => none

/-! ## What is expected -/

/-- After completion the stored instance is the merged one and `changedInfo` the difference; in every
other state the stored instance is the old one. -/
structure Expected (old : VnfInstance) (s : State) : Prop where
  completed : s.operationState = .completed → IsModified getVnfd req old s.stored ∧
    ∃ info, s.changedInfo = some info ∧ Exact old s.stored info
  unchanged : s.operationState ≠ .completed → s.stored = old

/-! ## Runs -/

/-- What holds of an occurrence at all times. -/
structure Inv (old : VnfInstance) (s : State) : Prop where
  completed : s.operationState = .completed → IsPatched getVnfd req old s.stored ∧
    s.changedInfo = some (changeVnfInfo old s.stored)
  unchanged : s.operationState ≠ .completed → s.stored = old

variable {getVnfd req} {old : VnfInstance} {s s' : State} {e : Event}

lemma inv_processed (inv : Inv getVnfd req old s) (unfinished : s.operationState ≠ .completed)
    (interrupted : Bool) : Inv getVnfd req old (s.processed getVnfd req interrupted) := by
  have isOld := inv.unchanged unfinished
  unfold State.processed
  cases done : if interrupted then none else modifyInfoProcess getVnfd req s.stored with
  | none => exact ⟨fun completed => (by cases completed), fun _ => isOld⟩
  | some inst =>
    have done : modifyInfoProcess getVnfd req old = some inst := by
      rw [isOld] at done
      cases interrupted with
      | true => cases done
      | false => exact done
    refine ⟨fun _ => ⟨isPatched_modifyInfoProcess done, ?_⟩, fun other => absurd rfl other⟩
    rw [isOld]

/-- An occurrence that is not completed is processed, or another state is recorded. -/
lemma State.step_cases (st : s.step getVnfd req e = some s') :
    s.operationState ≠ .completed ∧
      ((∃ interrupted, s' = s.processed getVnfd req interrupted) ∨
        ∃ state, state ≠ .completed ∧ s' = { s with operationState := state }) := by
  have other : ∀ state, state ≠ .completed → some { s with operationState := state } = some s' →
      ∃ state, state ≠ .completed ∧ s' = { s with operationState := state } :=
    fun state ne eq => ⟨state, ne, (Option.some.inj eq).symm⟩
  cases state : s.operationState with
  | processing =>
    refine ⟨fun eq => (by cases eq), ?_⟩
    cases e with
    | process interrupted =>
      simp only [State.step, state] at st
      exact .inl ⟨interrupted, (Option.some.inj st).symm⟩
    | restart =>
      simp only [State.step, state] at st
      exact .inr (other .failedTemp (fun eq => (by cases eq)) st)
    | _ =>
      simp only [State.step, state] at st
      cases st
  | failedTemp =>
    refine ⟨fun eq => (by cases eq), ?_⟩
    cases e with
    | retry =>
      simp only [State.step, state] at st
      exact .inr (other .processing (fun eq => (by cases eq)) st)
    | rollback =>
      simp only [State.step, state] at st
      exact .inr (other .rollingBack (fun eq => (by cases eq)) st)
    | fail =>
      simp only [State.step, state] at st
      exact .inr (other .failed (fun eq => (by cases eq)) st)
    | _ =>
      simp only [State.step, state] at st
      cases st
  | rollingBack =>
    refine ⟨fun eq => (by cases eq), ?_⟩
    cases e with
    | rolledBack interrupted =>
      simp only [State.step, state] at st
      apply Or.inr (other _ _ st)
      cases interrupted <;> exact fun eq => (by cases eq)
    | restart =>
      simp only [State.step, state] at st
      exact .inr (other .failedTemp (fun eq => (by cases eq)) st)
    | _ =>
      simp only [State.step, state] at st
      cases st
  | _ =>
    simp only [State.step, state] at st
    cases st

/-- Only the process writes the instance. -/
lemma Inv.step (inv : Inv getVnfd req old s) (st : s.step getVnfd req e = some s') :
    Inv getVnfd req old s' := by
  obtain ⟨unfinished, ⟨interrupted, rfl⟩ | ⟨state, ne, rfl⟩⟩ := State.step_cases st
  · exact inv_processed inv unfinished interrupted
  · exact ⟨fun completed => absurd completed ne, fun _ => inv.unchanged unfinished⟩

lemma Inv.run {tr : List (State × Event)}
    (run : Run (StepOf (State.step getVnfd req)) { stored := old } tr s) :
    Inv getVnfd req old s := by
  apply Run.invariant' _ run
  · exact ⟨fun completed => (by cases completed), fun _ => rfl⟩
  · intro t e u st inv
    exact inv.step st

/-- A process that ends well is a run. -/
lemma run_processed {inst : VnfInstance} (done : modifyInfoProcess getVnfd req old = some inst) :
    Run (StepOf (State.step getVnfd req)) { stored := old } [({ stored := old }, .process false)]
      ⟨inst, .completed, some (changeVnfInfo old inst)⟩ := by
  apply Run.single
  show some (State.processed getVnfd req { stored := old } false) = _
  unfold State.processed
  simp only [done, Bool.false_eq_true, if_false]

/-! ## Main results -/

/-- An instance whose attributes are not set. -/
def plainInst (vnfcInfo : Option (Table VnfcInfo.id)) : VnfInstance where
  vnfdId := "vnfd"
  vnfProvider := "provider"
  vnfProductName := "product"
  vnfSoftwareVersion := "1.0"
  vnfdVersion := "1.0"
  vnfcInfo := vnfcInfo

/-- A request that sets metadata. -/
def metadataReq : VnfInfoModificationRequest where
  metadata := some ⟨Json.empty.set "key" (str "value"), rfl⟩

/-- A VNFC without properties. -/
def bareVnfc : Table VnfcInfo.id where
  rows := [{ id := "VDU1-a" }]
  nodup := List.nodup_singleton "VDU1-a"

/-- A request that gives it empty ones. -/
def emptyReq : VnfInfoModificationRequest where
  vnfcInfoModifications := some [⟨"VDU1-a", .empty⟩]

end Tacker.Modify
