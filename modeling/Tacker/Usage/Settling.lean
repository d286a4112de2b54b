import Mathlib.Data.List.Basic
import Tacker.Usage.UsageStates

/-!
# Settling the usage states

What the accesses that are still to come make of the usage state of a package. An access does not
change that by being made: what the rest makes of the new state is what all made of the old one.
-/

namespace Tacker.Usage

open Tacker.Basis
open Tacker.Conductor (VnfInstance LocalNfvo PackageUsageState)
open Tacker.Objects (LcmOperationState)

variable {κ : Type} [DecidableEq κ] {s t : State κ} {vnfdId : String}

/-! ## What is still to come -/

/-- The usage state after an access to its package, if the VNFD is referred to or not. -/
def Access.apply (refers : Bool) (state : Option PackageUsageState) : Access → Option PackageUsageState
  | .query _ => if refers then state else state.map fun _ => .notInUse
  | .save _ new => state.map fun _ => new

/-- The accesses for one VNFD. -/
def onVnfd (vnfdId : String) (accesses : List Access) : List Access :=
  accesses.filter fun access => access.vnfdId = vnfdId

@[inherit_doc onVnfd]
def accessesOn (vnfdId : String) (updates : List (Update κ)) : List Access :=
  onVnfd vnfdId (updates.flatMap (·.accesses))

/-- The usage state when the accesses that are still to come were made. -/
def State.settled (s : State κ) (vnfdId : String) : Option PackageUsageState :=
  (accessesOn vnfdId s.updates).foldl (Access.apply (s.refers vnfdId)) (s.packages vnfdId)

/-- The update has something to do with the VNFD. -/
def Update.isFor (update : Update κ) (vnfdId : String) : Bool :=
  update.accesses.any fun access => access.vnfdId = vnfdId

/-- The usage state of the VNFD is being updated. -/
def State.isUpdating (s : State κ) (vnfdId : String) : Bool :=
  s.updates.any fun update => update.isFor vnfdId

/-- Updates that have no VNFD in common. -/
def Apart (updates : List (Update κ)) : Prop :=
  updates.Pairwise fun update update' =>
    ∀ vnfdId, update.isFor vnfdId = true → update'.isFor vnfdId = false

omit [DecidableEq κ]

lemma onVnfd_cons_self (access : Access) (accesses : List Access) :
    onVnfd access.vnfdId (access :: accesses) = access :: onVnfd access.vnfdId accesses :=
  List.filter_cons_of_pos (decide_eq_true rfl)

lemma onVnfd_cons_of_ne (access : Access) (accesses : List Access) (ne : access.vnfdId ≠ vnfdId) :
    onVnfd vnfdId (access :: accesses) = onVnfd vnfdId accesses :=
  List.filter_cons_of_neg fun eq => ne (of_decide_eq_true eq)

lemma accessesOn_append (vnfdId : String) (updates updates' : List (Update κ)) :
    accessesOn vnfdId (updates ++ updates') = accessesOn vnfdId updates ++ accessesOn vnfdId updates' := by
  rw [accessesOn, onVnfd, List.flatMap_append, List.filter_append]
  rfl

lemma accessesOn_cons (vnfdId : String) (update : Update κ) (updates : List (Update κ)) :
    accessesOn vnfdId (update :: updates) =
      onVnfd vnfdId update.accesses ++ accessesOn vnfdId updates := by
  rw [accessesOn, onVnfd, List.flatMap_cons, List.filter_append]
  rfl

/-- Nothing is to come for a VNFD that no update is for. -/
lemma accessesOn_eq_nil {updates : List (Update κ)} :
    accessesOn vnfdId updates = [] ↔ ∀ update ∈ updates, update.isFor vnfdId = false := by
  simp only [accessesOn, onVnfd, List.filter_eq_nil_iff, List.mem_flatMap, Update.isFor, List.any_eq_false]
  constructor
  · intro none update mem access mem'
    exact none access ⟨update, mem, mem'⟩
  · rintro none access ⟨update, mem, mem'⟩
    exact none update mem access mem'

lemma not_updating : s.isUpdating vnfdId = false ↔ accessesOn vnfdId s.updates = [] := by
  rw [accessesOn_eq_nil, State.isUpdating, List.any_eq_false]
  simp only [Bool.not_eq_true]

/-- Where no update is under way the usage state is settled. -/
lemma settled_of_not_updating (idle : s.isUpdating vnfdId = false) :
    s.settled vnfdId = s.packages vnfdId := by
  rw [State.settled, not_updating.mp idle, List.foldl_nil]

/-- The accesses leave a missing package missing. -/
lemma settled_none {refers : Bool} (accesses : List Access) :
    accesses.foldl (Access.apply refers) none = none := by
  induction accesses with
  | nil => rfl
  | cons access accesses ih =>
    have same : Access.apply refers none access = none := by
      cases access with
      | query _ =>
        rw [Access.apply]
        split
        · rfl
        · rfl
      | save _ _ => rfl
    rw [List.foldl_cons, same]
    exact ih

/-- A state that is settled to be in use belongs to a package. -/
lemma onboarded_of_settled (settled : s.settled vnfdId = some .inUse) : s.packages vnfdId ≠ none := by
  intro missing
  rw [State.settled, missing, settled_none] at settled
  cases settled

/-! ## Making an access -/

/-- A list with another item in one place. -/
lemma set_of_getElem? {α : Type*} {items : List α} {place : ℕ} {item : α}
    (there : items[place]? = some item) : ∃ before after, items = before ++ item :: after ∧
      ∀ item', items.set place item' = before ++ item' :: after := by
  induction items generalizing place with
  | nil => cases there
  | cons first items ih =>
    cases place with
    | zero =>
      cases there
      exact ⟨[], items, rfl, fun _ => rfl⟩
    | succ place =>
      obtain ⟨before, after, rfl, set⟩ := ih there
      refine ⟨first :: before, after, rfl, fun item' => ?_⟩
      rw [List.set_cons_succ, set, List.cons_append]

/-- Of updates that are apart, one at most is for a VNFD. -/
lemma Apart.others {before after : List (Update κ)} {update : Update κ}
    (apart : Apart (before ++ update :: after)) (here : update.isFor vnfdId = true) :
    accessesOn vnfdId before = [] ∧ accessesOn vnfdId after = [] := by
  obtain ⟨-, later, across⟩ := List.pairwise_append.mp apart
  obtain ⟨first, -⟩ := List.pairwise_cons.mp later
  refine ⟨accessesOn_eq_nil.mpr fun other mem => ?_, accessesOn_eq_nil.mpr fun other mem => ?_⟩
  · by_contra isFor
    have not := across other mem update List.mem_cons_self vnfdId (Bool.not_eq_false _ ▸ isFor)
    rw [here] at not
    cases not
  · exact first other mem vnfdId here

/-- Updates of which one does less stay apart. -/
lemma Apart.shrink {before after : List (Update κ)} {update update' : Update κ}
    (apart : Apart (before ++ update :: after))
    (less : ∀ vnfdId, update'.isFor vnfdId = true → update.isFor vnfdId = true) :
    Apart (before ++ update' :: after) := by
  obtain ⟨earlier, later, across⟩ := List.pairwise_append.mp apart
  obtain ⟨first, rest⟩ := List.pairwise_cons.mp later
  refine List.pairwise_append.mpr ⟨earlier, List.pairwise_cons.mpr ⟨?_, rest⟩, ?_⟩
  · intro other mem vnfdId isFor
    exact first other mem vnfdId (less vnfdId isFor)
  · intro other mem other' mem' vnfdId isFor
    rcases List.mem_cons.mp mem' with rfl | mem'
    · by_contra isFor'
      have not := across other mem update List.mem_cons_self vnfdId isFor
      rw [less vnfdId (Bool.not_eq_false _ ▸ isFor')] at not
      cases not
    · exact across other mem other' (List.mem_cons_of_mem _ mem') vnfdId isFor

/-! ## The instances that refer to a VNFD -/

lemma refers_iff : s.refers vnfdId = true ↔
    ∃ id inst, s.insts.get id = some inst ∧ inst.vnfdId = vnfdId := by
  rw [State.refers, List.any_eq_true]
  constructor
  · rintro ⟨inst, mem, eq⟩
    exact ⟨inst.id, inst, Table.get_eq_some.mpr ⟨mem, rfl⟩, of_decide_eq_true eq⟩
  · rintro ⟨id, inst, found, eq⟩
    exact ⟨inst, (Table.get_eq_some.mp found).1, decide_eq_true eq⟩

/-- Where the tables refer to the same VNFDs. -/
lemma refers_congr (same : ∀ id inst, inst.vnfdId = vnfdId →
    (t.insts.get id = some inst ↔ s.insts.get id = some inst)) : t.refers vnfdId = s.refers vnfdId := by
  rw [Bool.eq_iff_iff, refers_iff, refers_iff]
  constructor
  · rintro ⟨id, inst, found, eq⟩
    exact ⟨id, inst, (same id inst eq).mp found, eq⟩
  · rintro ⟨id, inst, found, eq⟩
    exact ⟨id, inst, (same id inst eq).mpr found, eq⟩

/-! ## The invariant -/

/-- What the usage states are worth at any time. -/
structure Exact (s : State κ) : Prop where
  apart : Apart s.updates
  exact : ∀ vnfdId, s.settled vnfdId = some .inUse ↔ s.refers vnfdId = true
  updated : ∀ vnfdId, s.isUpdating vnfdId = true → s.packages vnfdId ≠ none

/-- The package of an instance is there. -/
lemma Exact.onboarded (exact : Exact s) (refers : s.refers vnfdId = true) : s.packages vnfdId ≠ none :=
  onboarded_of_settled ((exact.exact vnfdId).mpr refers)

/-- A usage state that is not being updated is as it should be. -/
lemma Exact.of_not_updating (exact : Exact s) (idle : s.isUpdating vnfdId = false) :
    s.packages vnfdId = some .inUse ↔ s.refers vnfdId = true := by
  rw [← settled_of_not_updating idle]
  exact exact.exact vnfdId

/-- An update begins that is for VNFDs that no other update is for, and accounts for what changed. -/
lemma Exact.push (exact : Exact s) {process : κ} (accesses : List Access)
    (updates : t.updates = s.updates ++ [⟨process, accesses⟩]) (packages : t.packages = s.packages)
    (fresh : ∀ access ∈ accesses, s.isUpdating access.vnfdId = false)
    (present : ∀ access ∈ accesses, s.packages access.vnfdId ≠ none)
    (others : ∀ vnfdId, (∀ access ∈ accesses, access.vnfdId ≠ vnfdId) →
      t.refers vnfdId = s.refers vnfdId)
    (own : ∀ vnfdId, (∃ access ∈ accesses, access.vnfdId = vnfdId) →
      ((onVnfd vnfdId accesses).foldl (Access.apply (t.refers vnfdId)) (s.packages vnfdId) =
        some .inUse ↔ t.refers vnfdId = true)) : Exact t where
  apart := by
    rw [updates]
    refine List.pairwise_append.mpr ⟨exact.apart, List.pairwise_singleton _ _, ?_⟩
    intro update mem update' mem' vnfdId isFor
    cases List.mem_singleton.mp mem'
    apply List.any_eq_false.mpr
    intro access mem' same
    have idle := fresh access mem'
    rw [of_decide_eq_true same, State.isUpdating, List.any_eq_false] at idle
    exact idle update mem isFor
  exact := by
    intro vnfdId
    have split : accessesOn vnfdId t.updates =
        accessesOn vnfdId s.updates ++ onVnfd vnfdId accesses := by
      rw [updates, accessesOn_append, accessesOn_cons]
      exact congrArg _ (List.append_nil _)
    by_cases concerned : ∃ access ∈ accesses, access.vnfdId = vnfdId
    · obtain ⟨access, mem, rfl⟩ := concerned
      rw [State.settled, split, not_updating.mp (fresh access mem), List.nil_append, packages]
      exact own access.vnfdId ⟨access, mem, rfl⟩
    · have none : onVnfd vnfdId accesses = [] := by
        rw [onVnfd, List.filter_eq_nil_iff]
        intro access mem same
        exact concerned ⟨access, mem, of_decide_eq_true same⟩
      have same := others vnfdId fun access mem same => concerned ⟨access, mem, same⟩
      rw [State.settled, split, none, List.append_nil, packages, same]
      exact exact.exact vnfdId
  updated := by
    intro vnfdId updating
    rw [State.isUpdating, updates, List.any_append, Bool.or_eq_true] at updating
    rw [packages]
    rcases updating with updating | updating
    · exact exact.updated vnfdId updating
    · obtain ⟨update, mem, isFor⟩ := List.any_eq_true.mp updating
      cases List.mem_singleton.mp mem
      obtain ⟨access, mem, same⟩ := List.any_eq_true.mp isFor
      rw [← of_decide_eq_true same]
      exact present access mem

/-- An update without an access changes nothing. -/
lemma Exact.push_nil (exact : Exact s) {process : κ} (updates : t.updates = s.updates ++ [⟨process, []⟩])
    (packages : t.packages = s.packages) (same : ∀ vnfdId, t.refers vnfdId = s.refers vnfdId) :
    Exact t := by
  refine exact.push [] updates packages ?_ ?_ ?_ ?_
  · intro access mem
    cases mem
  · intro access mem
    cases mem
  · intro vnfdId _
    exact same vnfdId
  · rintro vnfdId ⟨access, mem, -⟩
    cases mem

/-- An update with one access begins. -/
lemma Exact.push_one (exact : Exact s) {process : κ} (access : Access)
    (updates : t.updates = s.updates ++ [⟨process, [access]⟩]) (packages : t.packages = s.packages)
    (fresh : s.isUpdating access.vnfdId = false) (present : s.packages access.vnfdId ≠ none)
    (others : ∀ vnfdId, access.vnfdId ≠ vnfdId → t.refers vnfdId = s.refers vnfdId)
    (own : Access.apply (t.refers access.vnfdId) (s.packages access.vnfdId) access = some .inUse ↔
      t.refers access.vnfdId = true) : Exact t := by
  refine exact.push [access] updates packages ?_ ?_ ?_ ?_
  · intro access' mem
    cases List.mem_singleton.mp mem
    exact fresh
  · intro access' mem
    cases List.mem_singleton.mp mem
    exact present
  · intro vnfdId other
    exact others vnfdId (other access (List.mem_singleton.mpr rfl))
  · rintro vnfdId ⟨access', mem, same⟩
    cases List.mem_singleton.mp mem
    subst same
    rw [onVnfd_cons_self]
    exact own

end Tacker.Usage
