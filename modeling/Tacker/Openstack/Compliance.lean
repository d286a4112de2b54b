import Tacker.Openstack.Reselection

/-!
# What the zone reselection guarantees

The failed VDU instances are moved to zones that have not failed, as often as the limit allows. The
new zone is chosen for the VDU instance that Heat reported and taken for all that are in the failed
zone, so that it keeps the anti-affinity rules of the others where it happens to.
-/

namespace Tacker.Openstack

open Tacker.Basis

/-! ## Anti-affinity -/

namespace Reselection

variable (r : Reselection)

/-- A rule keeps the instances of the two VDUs in different zones. -/
def Apart (vdu other : String) : Prop :=
  ∃ rule ∈ r.antiRules, rule.2 = "zone" ∧ vdu ∈ rule.1 ∧ other ∈ rule.1 ∧
    (other ≠ vdu ∨ rule.1.length = 1)

instance {vdu other : String} : Decidable (r.Apart vdu other) :=
  inferInstanceAs (Decidable (∃ rule ∈ r.antiRules, rule.2 = "zone" ∧ vdu ∈ rule.1 ∧
    other ∈ rule.1 ∧ (other ≠ vdu ∨ rule.1.length = 1)))

/-- The two VDU instances have to be in different zones. -/
def ApartIds (vduId other : String) : Prop :=
  ∃ vdu ∈ vduOf vduId, ∃ vdu' ∈ vduOf other, r.Apart vdu vdu'

instance {vduId other : String} : Decidable (r.ApartIds vduId other) :=
  inferInstanceAs (Decidable (∃ vdu ∈ vduOf vduId, ∃ vdu' ∈ vduOf other, r.Apart vdu vdu'))

/-- In the zone there is another VDU instance that has to be in another one: one that is being placed,
or one that is there and stays. -/
def Occupied (vduDict : VduDict) (vduId zone : String) : Prop :=
  (∃ other ∈ r.vduIds, other ≠ vduId ∧ r.ApartIds vduId other ∧ zoneOf vduDict other = some zone) ∨
  ∃ vnfc ∈ r.inst, vnfc.vduWithIdx ∉ r.vduIds ∧ (∃ vdu ∈ vduOf vduId, r.Apart vdu vnfc.vduId) ∧
    vnfc.zone = some zone

instance {vduDict : VduDict} {vduId zone : String} : Decidable (r.Occupied vduDict vduId zone) :=
  inferInstanceAs (Decidable ((∃ other ∈ r.vduIds, other ≠ vduId ∧ r.ApartIds vduId other ∧
    zoneOf vduDict other = some zone) ∨ ∃ vnfc ∈ r.inst, vnfc.vduWithIdx ∉ r.vduIds ∧
      (∃ vdu ∈ vduOf vduId, r.Apart vdu vnfc.vduId) ∧ vnfc.zone = some zone))

/-- A zone that has not failed and that no such VDU instance is in. -/
def HasFreeZone (vduDict : VduDict) (failed : String → Prop) (vduId : String) : Prop :=
  ∃ zone ∈ r.zones, ¬ failed zone ∧ ¬ r.Occupied vduDict vduId zone

instance {vduDict : VduDict} {failed : String → Prop} [DecidablePred failed] {vduId : String} :
    Decidable (r.HasFreeZone vduDict failed vduId) :=
  inferInstanceAs
    (Decidable (∃ zone ∈ r.zones, ¬ failed zone ∧ ¬ r.Occupied vduDict vduId zone))

/-! ## The condition -/

/-- Wherever the zone that is selected for the reported VDU instance is one of its candidates, it is
free for every VDU instance in the failed zone that has a free zone at all, and no other VDU instance
that has to be in another zone moves along. -/
def Suits : LoopState → Prop
  | .selecting vduDict failedZones failedVduId failedZone _ _ =>
    ∀ vduId ∈ r.vduIds, zoneOf vduDict vduId = some failedZone →
      r.HasFreeZone vduDict (· ∈ failedZones) vduId →
        (∀ zone ∈ r.candidates failedVduId vduDict failedZones, ¬ r.Occupied vduDict vduId zone) ∧
        ∀ other ∈ r.vduIds, other ≠ vduId → zoneOf vduDict other = some failedZone →
          ¬ r.ApartIds vduId other
  | .updated _ | .raised _ => True

instance : DecidablePred r.Suits
  | .selecting vduDict failedZones failedVduId failedZone _ _ => inferInstanceAs (Decidable
    (∀ vduId ∈ r.vduIds, zoneOf vduDict vduId = some failedZone →
      r.HasFreeZone vduDict (· ∈ failedZones) vduId →
        (∀ zone ∈ r.candidates failedVduId vduDict failedZones, ¬ r.Occupied vduDict vduId zone) ∧
        ∀ other ∈ r.vduIds, other ≠ vduId → zoneOf vduDict other = some failedZone →
          ¬ r.ApartIds vduId other))
  | .updated _ | .raised _ => inferInstanceAs (Decidable True)

/-- The condition on a turn. -/
def Suited (p : LoopState × Retry) : Prop :=
  r.Suits p.1

instance : DecidablePred r.Suited := fun p => inferInstanceAs (Decidable (r.Suits p.1))

end Reselection

/-! ## The guarantee -/

/-- The zone of the VDU instance that Heat reported last. -/
def LoopState.failedZone? : LoopState → Option String
  | .selecting _ _ _ failedZone _ _ => some failedZone
  | .updated _ | .raised _ => none

/-- The stack has been updated, or an exception raised. -/
def LoopState.Ended : LoopState → Prop
  | .selecting _ _ _ _ _ _ => False
  | .updated _ | .raised _ => True

/-- The failure of a turn. -/
def Retry.failure? : Retry → Option StackOperationFailed
  | .attempt _ failure => failure
  | .giveUp => none

/-- A turn that updates the stack. -/
def Retry.isAttempt : Retry → Bool
  | .attempt _ _ => true
  | .giveUp => false

/-- The zones that failed in a run. -/
def failedZonesOf (tr : List (LoopState × Retry)) : List String :=
  tr.filterMap fun p => p.1.failedZone?

/-- The number of updates of the stack in a run. -/
def attempts (tr : List (LoopState × Retry)) : Nat :=
  tr.countP fun p => p.2.isAttempt

/-- The last failure of Heat. -/
def lastFailure (first : StackOperationFailed) (tr : List (LoopState × Retry)) :
    StackOperationFailed :=
  ((tr.filterMap fun p => p.2.failure?).getLast?).getD first

namespace Reselection

variable (r : Reselection)

/-- What a turn that selects the zone does: the zone has not failed, the VDU instances in the failed
zone move to it and nothing else changes, and none of them is moved next to one that has to be in
another zone although it has a free one. -/
structure Moves (failed : String → Prop) (vduDict : VduDict) (failedZone newZone : String) :
    Prop where
  fresh : ¬ failed newZone
  others : ∀ vduId, vduId ∉ r.vduIds ∨ zoneOf vduDict vduId ≠ some failedZone →
    r.move failedZone newZone vduDict vduId = vduDict vduId
  moved : ∀ vduId ∈ r.vduIds, zoneOf vduDict vduId = some failedZone →
    zoneOf (r.move failedZone newZone vduDict) vduId = some newZone
  compliant : ∀ vduId ∈ r.vduIds, zoneOf vduDict vduId = some failedZone →
    r.HasFreeZone vduDict failed vduId →
      ¬ r.Occupied (r.move failedZone newZone vduDict) vduId newZone

/-- A turn after the given run. -/
def MovesAfter (tr : List (LoopState × Retry)) : LoopState × Retry → Prop
  | (.selecting vduDict failedZones failedVduId failedZone n ex, .attempt newZone failure) =>
    r.Moves (· ∈ failedZonesOf (tr ++ [(.selecting vduDict failedZones failedVduId failedZone n ex,
      .attempt newZone failure)])) vduDict failedZone newZone
  | _ => True

/-- The reselection after a run of its loop. -/
structure Reselected (first : StackOperationFailed) (tr : List (LoopState × Retry))
    (s : LoopState) : Prop where
  limited : attempts tr ≤ r.retryLimit
  short : tr.length ≤ attempts tr + 1
  goes_on : s.Ended ∨ (∃ t, r.step s .giveUp = some t) ∨
    ∃ zone, ∀ failure, ∃ t, r.step s (.attempt zone failure) = some t
  moves : ∀ tr₁ p tr₂, tr = tr₁ ++ p :: tr₂ → r.MovesAfter tr₁ p
  last : ∀ ex, s = .raised ex → ex = lastFailure first tr

/-! ## The excluded zones -/

variable {r} {vduDict : VduDict} {failedZones : Finset String} {failedVduId failedZone zone : String}
  {vdu other vduId : String}

lemma mem_candidates_fresh (mem : zone ∈ r.candidates failedVduId vduDict failedZones) :
    zone ∉ failedZones := by
  simp only [candidates] at mem
  split at mem
  · exact (Finset.mem_sdiff.mp mem).2
  · exact (Finset.mem_sdiff.mp mem).2

/-! ## Moving -/

lemma zoneOf_move : zoneOf (r.move failedZone zone vduDict) vduId =
    if vduId ∈ r.vduIds ∧ zoneOf vduDict vduId = some failedZone then some zone
    else zoneOf vduDict vduId := by
  unfold zoneOf move
  cases vduDict vduId with
  | none => simp
  | some parameters =>
    simp only [Option.map_some, Option.bind_some]
    split <;> rfl

lemma move_of_other (other : vduId ∉ r.vduIds ∨ zoneOf vduDict vduId ≠ some failedZone) :
    r.move failedZone zone vduDict vduId = vduDict vduId := by
  unfold move
  cases eq : vduDict vduId with
  | none => rfl
  | some parameters =>
    have not : ¬ (vduId ∈ r.vduIds ∧ parameters.locationConstraints = some failedZone) := by
      rintro ⟨mem, here⟩
      rcases other with no | no
      · exact no mem
      · apply no
        rw [zoneOf, eq]
        exact here
    rw [Option.map_some, if_neg not]

/-- Who is in the new zone after the move: who was there, and who moved along. -/
lemma occupied_move (ne : zone ≠ failedZone) :
    r.Occupied (r.move failedZone zone vduDict) vduId zone ↔
      r.Occupied vduDict vduId zone ∨ ∃ other ∈ r.vduIds, other ≠ vduId ∧
        zoneOf vduDict other = some failedZone ∧ r.ApartIds vduId other := by
  unfold Occupied
  constructor
  · rintro (⟨other, mem, diff, apart, there⟩ | there)
    · rw [zoneOf_move] at there
      split at there
      · case isTrue here => exact .inr ⟨other, mem, diff, here.2, apart⟩
      · exact .inl (.inl ⟨other, mem, diff, apart, there⟩)
    · exact .inl (.inr there)
  · rintro ((⟨other, mem, diff, apart, there⟩ | there) | ⟨other, mem, diff, here, apart⟩)
    · refine .inl ⟨other, mem, diff, apart, ?_⟩
      have stays : zoneOf vduDict other ≠ some failedZone := by
        rw [there]
        exact fun eq => ne (Option.some.inj eq)
      rw [zoneOf_move, if_neg fun both => stays both.2]
      exact there
    · exact .inr there
    · refine .inl ⟨other, mem, diff, apart, ?_⟩
      rw [zoneOf_move, if_pos ⟨mem, here⟩]

/-- The condition is exact: a VDU instance with a free zone is kept apart by every zone that may be
selected, exactly if all of them are free for it and nothing it is kept apart from moves along. -/
lemma suits_iff (failed : failedZone ∈ failedZones)
    (some : (r.candidates failedVduId vduDict failedZones).Nonempty) :
    (∀ zone ∈ r.candidates failedVduId vduDict failedZones,
        ¬ r.Occupied (r.move failedZone zone vduDict) vduId zone) ↔
      (∀ zone ∈ r.candidates failedVduId vduDict failedZones, ¬ r.Occupied vduDict vduId zone) ∧
        ∀ other ∈ r.vduIds, other ≠ vduId → zoneOf vduDict other = .some failedZone →
          ¬ r.ApartIds vduId other := by
  have ne : ∀ zone ∈ r.candidates failedVduId vduDict failedZones, zone ≠ failedZone := by
    rintro zone mem rfl
    exact mem_candidates_fresh mem failed
  constructor
  · intro free
    refine ⟨fun zone mem there => free zone mem ?_, fun other mem diff here apart => ?_⟩
    · exact (occupied_move (ne zone mem)).mpr (.inl there)
    · obtain ⟨zone, mem'⟩ := some
      exact free zone mem' ((occupied_move (ne zone mem')).mpr (.inr ⟨other, mem, diff, here, apart⟩))
  · rintro ⟨free, alone⟩ zone mem there
    rcases (occupied_move (ne zone mem)).mp there with there | ⟨other, mem', diff, here, apart⟩
    · exact free zone mem there
    · exact alone other mem' diff here apart

/-! ## Runs -/

variable {s t : LoopState} {e : Retry} {tr : List (LoopState × Retry)}
  {first : StackOperationFailed}

/-- What is known between the turns: which zones have failed, how many turns are left, and which
failure was the last. -/
def Counted (r : Reselection) (first : StackOperationFailed) (tr : List (LoopState × Retry)) :
    LoopState → Prop
  | .selecting _ failedZones _ failedZone n errorEx =>
    (∀ zone, zone ∈ failedZones ↔ zone ∈ failedZonesOf tr ∨ zone = failedZone) ∧
      n + attempts tr ≤ r.retryLimit ∧ tr.length = attempts tr ∧ errorEx = lastFailure first tr
  | .updated _ => attempts tr ≤ r.retryLimit ∧ tr.length = attempts tr
  | .raised errorEx => attempts tr ≤ r.retryLimit ∧ tr.length ≤ attempts tr + 1 ∧
    errorEx = lastFailure first tr

lemma Counted.afterFailure {ex : StackOperationFailed} {n : Nat}
    (failed : ∀ zone, zone ∈ failedZones ↔ zone ∈ failedZonesOf tr)
    (left : n + attempts tr ≤ r.retryLimit) (length : tr.length = attempts tr)
    (last : ex = lastFailure first tr) :
    Counted r first tr (r.afterFailure vduDict failedZones n ex) := by
  unfold Reselection.afterFailure
  split
  · exact ⟨by omega, by omega, last⟩
  · refine ⟨fun zone => ?_, left, length, last⟩
    rw [Finset.mem_insert, failed zone, or_comm]

lemma Counted.start : Counted r first [] (r.start vduDict first) := by
  unfold Reselection.start
  split
  · apply Counted.afterFailure
    · intro zone
      simp [failedZonesOf]
    · exact Nat.le_refl _
    · rfl
    · rfl
  · exact ⟨Nat.zero_le _, Nat.zero_le _, rfl⟩

/-- A turn selects one of the candidates, or gives up. -/
lemma step_cases (st : StepOf r.step s e t) :
    (∃ vduDict failedZones failedVduId failedZone n errorEx newZone failure,
      s = .selecting vduDict failedZones failedVduId failedZone (n + 1) errorEx ∧
      e = .attempt newZone failure ∧ newZone ∈ r.candidates failedVduId vduDict failedZones ∧
      t = match failure with
        | none => .updated (r.move failedZone newZone vduDict)
        | some ex => r.afterFailure (r.move failedZone newZone vduDict) failedZones n ex) ∨
    ∃ vduDict failedZones failedVduId failedZone n errorEx,
      s = .selecting vduDict failedZones failedVduId failedZone n errorEx ∧
      e = .giveUp ∧ t = .raised errorEx := by
  have eq : r.step s e = some t := st
  unfold Reselection.step at eq
  split at eq
  · case h_1 vduDict failedZones failedVduId failedZone n errorEx newZone failure =>
    split at eq
    · case isTrue mem =>
      refine .inl ⟨vduDict, failedZones, failedVduId, failedZone, n, errorEx, newZone, failure, rfl,
        rfl, mem, ?_⟩
      cases failure with
      | none => exact (Option.some.inj eq).symm
      | some ex => exact (Option.some.inj eq).symm
    · cases eq
  · case h_2 vduDict failedZones failedVduId failedZone n errorEx =>
    split at eq
    · exact .inr ⟨vduDict, failedZones, failedVduId, failedZone, n, errorEx, rfl, rfl,
        (Option.some.inj eq).symm⟩
    · cases eq
  · cases eq

lemma attempts_snoc : attempts (tr ++ [(s, e)]) = attempts tr + e.isAttempt.toNat := by
  rw [attempts, attempts, List.countP_append, List.countP_singleton]
  cases e.isAttempt <;> rfl

lemma mem_failedZonesOf_snoc : zone ∈ failedZonesOf (tr ++ [(s, e)]) ↔
    zone ∈ failedZonesOf tr ∨ s.failedZone? = some zone := by
  simp only [failedZonesOf, List.filterMap_append, List.mem_append, List.mem_filterMap,
    List.mem_singleton, exists_eq_left]

lemma lastFailure_snoc :
    lastFailure first (tr ++ [(s, e)]) = e.failure?.getD (lastFailure first tr) := by
  unfold lastFailure
  rw [List.filterMap_append]
  cases failure : e.failure? with
  | none => simp [failure]
  | some ex => simp [failure]

/-- Every turn keeps the account. -/
lemma Counted.step (ok : Counted r first tr s) (st : StepOf r.step s e t) :
    Counted r first (tr ++ [(s, e)]) t := by
  have length : (tr ++ [(s, e)]).length = tr.length + 1 := by
    rw [List.length_append, List.length_singleton]
  rcases step_cases st with ⟨vduDict, failedZones, failedVduId, failedZone, n, errorEx, newZone,
    failure, rfl, rfl, mem, eq⟩ | ⟨vduDict, failedZones, failedVduId, failedZone, n, errorEx, rfl,
    rfl, rfl⟩
  · obtain ⟨failed, left, short, last⟩ := ok
    have count : attempts (tr ++ [(.selecting vduDict failedZones failedVduId failedZone (n + 1)
        errorEx, .attempt newZone failure)]) = attempts tr + 1 := attempts_snoc
    cases failure with
    | none =>
      subst eq
      exact ⟨by omega, by omega⟩
    | some ex =>
      subst eq
      apply Counted.afterFailure
      · intro zone
        rw [failed, mem_failedZonesOf_snoc]
        simp only [LoopState.failedZone?, Option.some.injEq, eq_comm]
      · omega
      · omega
      · rw [lastFailure_snoc]
        rfl
  · obtain ⟨failed, left, short, last⟩ := ok
    have count : attempts (tr ++ [(.selecting vduDict failedZones failedVduId failedZone n errorEx,
        .giveUp)]) = attempts tr + 0 := attempts_snoc
    refine ⟨by omega, by omega, ?_⟩
    rw [lastFailure_snoc]
    exact last

lemma counted_run (run : Run (StepOf r.step) (r.start vduDict first) tr s) :
    Counted r first tr s := by
  induction run with
  | nil => exact Counted.start
  | snoc _ st ih => exact ih.step st

/-- The loop is never stuck. -/
lemma goes_on : s.Ended ∨ (∃ t, r.step s .giveUp = some t) ∨
    ∃ zone, ∀ failure, ∃ t, r.step s (.attempt zone failure) = some t := by
  cases s with
  | updated => exact .inl trivial
  | raised => exact .inl trivial
  | selecting vduDict failedZones failedVduId failedZone n errorEx =>
    have gives_up (no : n = 0 ∨ r.candidates failedVduId vduDict failedZones = ∅) :
        r.step (.selecting vduDict failedZones failedVduId failedZone n errorEx) .giveUp =
          some (.raised errorEx) := by
      simp only [Reselection.step]
      exact if_pos no
    rcases (r.candidates failedVduId vduDict failedZones).eq_empty_or_nonempty with none | ⟨zone, mem⟩
    · exact .inr (.inl ⟨_, gives_up (.inr none)⟩)
    · cases n with
      | zero => exact .inr (.inl ⟨_, gives_up (.inl rfl)⟩)
      | succ n =>
        refine .inr (.inr ⟨zone, fun failure => ?_⟩)
        cases failure with
        | none => exact ⟨_, if_pos mem⟩
        | some ex => exact ⟨_, if_pos mem⟩

/-- A turn that meets the condition moves the VDU instances as it should. -/
lemma movesAfter_step (ok : Counted r first tr s) (suits : r.Suits s) (st : StepOf r.step s e t) :
    r.MovesAfter tr (s, e) := by
  rcases step_cases st with ⟨vduDict, failedZones, failedVduId, failedZone, n, errorEx, newZone,
    failure, rfl, rfl, mem, -⟩ | ⟨vduDict, failedZones, failedVduId, failedZone, n, errorEx, rfl,
    rfl, -⟩
  · obtain ⟨failed, -, -, -⟩ := ok
    have same : (· ∈ failedZonesOf (tr ++ [(LoopState.selecting vduDict failedZones failedVduId
        failedZone (n + 1) errorEx, Retry.attempt newZone failure)])) = (· ∈ failedZones) := by
      funext zone
      rw [failed, mem_failedZonesOf_snoc]
      simp only [LoopState.failedZone?, Option.some.injEq, eq_comm]
    show r.Moves (· ∈ failedZonesOf (tr ++ [_])) vduDict failedZone newZone
    rw [same]
    have now : failedZone ∈ failedZones := (failed failedZone).mpr (.inr rfl)
    refine ⟨mem_candidates_fresh mem, fun vduId other => move_of_other other, ?_, ?_⟩
    · intro vduId within here
      rw [zoneOf_move, if_pos ⟨within, here⟩]
    · intro vduId within here free
      exact (suits_iff now ⟨newZone, mem⟩).mpr (suits vduId within here free) newZone mem
  · trivial

end Reselection

open Reselection

/-- Two VDU instances are placed in one zone; the second is kept apart from a third. -/
def threeZones (rules : List (List String × String)) : Reselection where
  placementFallbackBestEffort := true
  placementAzSelectRetry := 0
  azResourceError _ := true
  zones := {"az-1", "az-2", "az-3"}
  inst := []
  antiRules := rules
  vduIds := {"A-0", "B-0", "C-0"}

/-- The zones of the grant. -/
def granted : VduDict := fun vduId =>
  if vduId = "C-0" then some ⟨some "az-2"⟩
  else if vduId = "A-0" ∨ vduId = "B-0" then some ⟨some "az-1"⟩
  else none

/-- Heat reports the VDU instance. -/
def noHost (vduId : String) : StackOperationFailed where
  title := "Stack operation failed"
  detail := "Resource CREATE failed: ResourceInError: resources." ++ vduId ++ ".resources.vdu: full"

end Tacker.Openstack
