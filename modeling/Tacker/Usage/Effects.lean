import Tacker.Usage.Settling

/-!
# What the steps do to the usage states

Creating an instance, deleting it and moving it to another package begin an update of the usage
states, which the accesses then carry out. None of this makes a usage state wrong, as long as no two
updates of the same usage state overlap.
-/

namespace Tacker.Usage

open Tacker.Basis
open Tacker.Conductor (VnfInstance LocalNfvo PackageUsageState)
open Tacker.Objects (LcmOperationState)

variable {κ : Type} [DecidableEq κ] {s t : State κ} {vnfdId : String} {process : κ}

omit [DecidableEq κ]

/-! ## Instances -/

/-- A new instance refers to its VNFD. -/
lemma Exact.create (exact : Exact s) {inst : VnfInstance}
    {insts : Table (fun inst : VnfInstance => inst.id)} (fresh : s.insts.insert inst = some insts)
    (onboarded : s.packages inst.vnfdId ≠ none) (idle : s.isUpdating inst.vnfdId = false) :
    Exact ({ s with insts := insts }.update process inst.vnfdId .inUse) := by
  have new := Table.fresh_of_insert fresh
  have refers : State.refers ({ s with insts := insts }.update process inst.vnfdId .inUse)
      inst.vnfdId = true := by
    refine refers_iff.mpr ⟨inst.id, inst, ?_, rfl⟩
    show insts.get inst.id = some inst
    rw [Table.get_insert fresh, if_pos rfl]
  refine exact.push_one (.save inst.vnfdId .inUse) rfl rfl idle onboarded ?_ (iff_of_true ?_ refers)
  · intro vnfdId other
    apply refers_congr
    intro id inst' same
    show insts.get id = some inst' ↔ _
    rw [Table.get_insert fresh]
    split
    · case isTrue here =>
      subst here
      rw [new]
      refine iff_of_false (fun eq => ?_) (fun eq => by cases eq)
      cases eq
      exact other same
    · exact Iff.rfl
  · obtain ⟨state, there⟩ := Option.ne_none_iff_exists'.mp onboarded
    show (s.packages inst.vnfdId).map _ = _
    rw [there]
    rfl

/-- A deleted instance no longer refers to its VNFD, but others may. -/
lemma Exact.delete (exact : Exact s) {id : String} {inst : VnfInstance}
    (found : s.insts.get id = some inst) (idle : s.isUpdating inst.vnfdId = false) :
    Exact ({ s with insts := s.insts.erase id }.update process inst.vnfdId .notInUse) := by
  have before := (exact.of_not_updating idle).mpr (refers_iff.mpr ⟨id, inst, found, rfl⟩)
  refine exact.push_one (.query inst.vnfdId) rfl rfl idle ?_ ?_ ?_
  · show s.packages inst.vnfdId ≠ none
    rw [before]
    exact Option.some_ne_none _
  · intro vnfdId other
    apply refers_congr
    intro id' inst' same
    show (s.insts.erase id).get id' = some inst' ↔ _
    rw [Table.get_erase]
    split
    · case isTrue here =>
      subst here
      rw [found]
      refine iff_of_false (fun eq => by cases eq) (fun eq => ?_)
      cases eq
      exact other same
    · exact Iff.rfl
  · show (if _ then s.packages inst.vnfdId else (s.packages inst.vnfdId).map _) = _ ↔ _
    rw [before]
    split
    · case isTrue refers => exact iff_of_true rfl refers
    · case isFalse not => exact iff_of_false (fun eq => by cases eq) not

/-- An instance that is moved refers to another VNFD than before. -/
lemma Exact.move (exact : Exact s) {id : String} {inst inst' : VnfInstance}
    (found : s.insts.get id = some inst) (same : inst'.id = inst.id)
    (differs : inst.vnfdId ≠ inst'.vnfdId) (onboarded : s.packages inst'.vnfdId ≠ none)
    (idle : s.isUpdating inst.vnfdId = false) (idle' : s.isUpdating inst'.vnfdId = false)
    (insts : t.insts = s.insts.put inst') (packages : t.packages = s.packages)
    (updates : t.updates =
      s.updates ++ [⟨process, [.query inst.vnfdId, .save inst'.vnfdId .inUse]⟩]) : Exact t := by
  have there : inst.id = id := (Table.get_eq_some.mp found).2
  have key : id = inst'.id := (same.trans there).symm
  have before := (exact.of_not_updating idle).mpr (refers_iff.mpr ⟨id, inst, found, rfl⟩)
  refine exact.push [.query inst.vnfdId, .save inst'.vnfdId .inUse] updates packages ?_ ?_ ?_ ?_
  · intro access mem
    rcases List.mem_cons.mp mem with rfl | mem
    · exact idle
    · cases List.mem_singleton.mp mem
      exact idle'
  · intro access mem
    rcases List.mem_cons.mp mem with rfl | mem
    · show s.packages inst.vnfdId ≠ none
      rw [before]
      exact Option.some_ne_none _
    · cases List.mem_singleton.mp mem
      exact onboarded
  · intro vnfdId other
    apply refers_congr
    intro id' inst'' refers
    rw [insts, Table.get_put]
    split
    · case isTrue here =>
      rw [← here, ← key, found]
      refine iff_of_false (fun eq => ?_) (fun eq => ?_)
      · cases eq
        exact other _ (List.mem_cons_of_mem _ (List.mem_singleton.mpr rfl)) refers
      · cases eq
        exact other _ List.mem_cons_self refers
    · exact Iff.rfl
  · rintro vnfdId ⟨access, mem, here⟩
    rcases List.mem_cons.mp mem with rfl | mem
    · obtain rfl : inst.vnfdId = vnfdId := here
      have kept : onVnfd inst.vnfdId [.query inst.vnfdId, .save inst'.vnfdId .inUse] =
          [.query inst.vnfdId] := by
        simp [onVnfd, Access.vnfdId, Ne.symm differs]
      rw [kept, List.foldl_cons, List.foldl_nil, Access.apply, before]
      split
      · case isTrue refers => exact iff_of_true rfl refers
      · case isFalse not => exact iff_of_false (fun eq => by cases eq) not
    · cases List.mem_singleton.mp mem
      obtain rfl : inst'.vnfdId = vnfdId := here
      have kept : onVnfd inst'.vnfdId [.query inst.vnfdId, .save inst'.vnfdId .inUse] =
          [.save inst'.vnfdId .inUse] := by
        simp [onVnfd, Access.vnfdId, differs]
      rw [kept, List.foldl_cons, List.foldl_nil]
      obtain ⟨state, there⟩ := Option.ne_none_iff_exists'.mp onboarded
      refine iff_of_true ?_ (refers_iff.mpr ⟨inst'.id, inst', ?_, rfl⟩)
      · rw [there]
        rfl
      · rw [insts, Table.get_put, if_pos rfl]

/-! ## Packages -/

/-- The state with another package. -/
abbrev State.setPackage (s : State κ) (vnfdId : String) (state : Option PackageUsageState) : State κ :=
  { s with packages := Function.update s.packages vnfdId state }

lemma setPackage_packages (state : Option PackageUsageState) :
    (s.setPackage vnfdId state).packages vnfdId = state :=
  Function.update_self vnfdId state s.packages

lemma setPackage_packages_of_ne {vnfdId' : String} (state : Option PackageUsageState)
    (ne : vnfdId' ≠ vnfdId) : (s.setPackage vnfdId state).packages vnfdId' = s.packages vnfdId' :=
  Function.update_of_ne ne state s.packages

/-- A package that no instance refers to and whose usage state is not updated is onboarded or removed. -/
lemma Exact.setPackage (exact : Exact s) (idle : s.isUpdating vnfdId = false)
    (free : s.refers vnfdId = false) {state : Option PackageUsageState} (not : state ≠ some .inUse) :
    Exact (s.setPackage vnfdId state) where
  apart := exact.apart
  exact := by
    intro vnfdId'
    by_cases same : vnfdId' = vnfdId
    · subst same
      have idle' : (s.setPackage vnfdId' state).isUpdating vnfdId' = false := idle
      rw [settled_of_not_updating idle', setPackage_packages]
      exact iff_of_false not fun refers => by
        cases free.symm.trans refers
    · have settled := exact.exact vnfdId'
      rw [State.settled] at settled ⊢
      rw [setPackage_packages_of_ne state same]
      exact settled
  updated := by
    intro vnfdId' updating
    by_cases same : vnfdId' = vnfdId
    · subst same
      cases idle.symm.trans updating
    · rw [setPackage_packages_of_ne state same]
      exact exact.updated vnfdId' updating

/-- What is not onboarded is neither referred to nor updated. -/
lemma Exact.missing (exact : Exact s) (missing : s.packages vnfdId = none) :
    s.isUpdating vnfdId = false ∧ s.refers vnfdId = false :=
  ⟨Bool.eq_false_iff.mpr fun updating => exact.updated vnfdId updating missing,
    Bool.eq_false_iff.mpr fun refers => exact.onboarded refers missing⟩

/-- What is not in use and not updated is not referred to. -/
lemma Exact.free (exact : Exact s) (free : s.packages vnfdId = some .notInUse)
    (idle : s.isUpdating vnfdId = false) : s.refers vnfdId = false := by
  apply Bool.eq_false_iff.mpr
  intro refers
  cases free.symm.trans ((exact.of_not_updating idle).mpr refers)

/-! ## Accesses -/

/-- Another update takes the place of one, for the same VNFDs or less. -/
lemma Exact.replace (exact : Exact s) {before after : List (Update κ)} {update update' : Update κ}
    (split : s.updates = before ++ update :: after) (updates : t.updates = before ++ update' :: after)
    (insts : t.insts = s.insts)
    (less : ∀ vnfdId, update'.isFor vnfdId = true → update.isFor vnfdId = true)
    (others : ∀ vnfdId, update.isFor vnfdId = false → t.packages vnfdId = s.packages vnfdId)
    (present : ∀ vnfdId, s.packages vnfdId ≠ none → t.packages vnfdId ≠ none)
    (same : ∀ vnfdId,
      (onVnfd vnfdId update'.accesses).foldl (Access.apply (s.refers vnfdId)) (t.packages vnfdId) =
      (onVnfd vnfdId update.accesses).foldl (Access.apply (s.refers vnfdId)) (s.packages vnfdId)) :
    Exact t where
  apart := by
    rw [updates]
    exact Apart.shrink (split ▸ exact.apart) less
  exact := by
    intro vnfdId
    have refers : t.refers vnfdId = s.refers vnfdId := by rw [State.refers, State.refers, insts]
    have settled := exact.exact vnfdId
    rw [State.settled, split, accessesOn_append, accessesOn_cons] at settled
    rw [State.settled, refers, updates, accessesOn_append, accessesOn_cons]
    cases here : update.isFor vnfdId with
    | true =>
      obtain ⟨none, none'⟩ := Apart.others (split ▸ exact.apart) here
      rw [none, none', List.nil_append, List.append_nil] at settled ⊢
      rw [same vnfdId]
      exact settled
    | false =>
      have skipped : ∀ {update : Update κ}, update.isFor vnfdId = false →
          onVnfd vnfdId update.accesses = [] := by
        intro update not
        exact List.filter_eq_nil_iff.mpr (List.any_eq_false.mp not)
      have here' : update'.isFor vnfdId = false := Bool.eq_false_iff.mpr fun isFor => by
        cases here.symm.trans (less vnfdId isFor)
      rw [skipped here] at settled
      rw [skipped here', others vnfdId here]
      exact settled
  updated := by
    intro vnfdId updating
    apply present
    apply exact.updated
    rw [State.isUpdating, updates, List.any_append, List.any_cons] at updating
    rw [State.isUpdating, split, List.any_append, List.any_cons]
    simp only [Bool.or_eq_true] at updating ⊢
    exact updating.imp_right fun here => here.imp_left (less vnfdId)

/-- A query that leads to nothing leaves the usage state. -/
lemma query_kept (kept : ¬ (s.isOnboarded vnfdId && !s.refers vnfdId) = true) :
    Access.apply (s.refers vnfdId) (s.packages vnfdId) (.query vnfdId) = s.packages vnfdId := by
  rw [Access.apply]
  split
  · rfl
  · case isFalse not =>
    cases missing : s.packages vnfdId with
    | none => rfl
    | some state =>
      refine absurd (Bool.and_eq_true_iff.mpr ⟨?_, ?_⟩) kept
      · rw [State.isOnboarded, missing]
        rfl
      · rw [Bool.eq_false_iff.mpr not]
        rfl

/-- An access leaves what the usage states are worth. -/
lemma Exact.access (exact : Exact s) {place : ℕ} {update : Update κ}
    (there : s.updates[place]? = some update) : Exact (s.access place update) := by
  obtain ⟨before, after, split, set⟩ := set_of_getElem? there
  obtain ⟨process, accesses⟩ := update
  have drops : ∀ {first : Access} {rest : List Access} (vnfdId : String),
      Update.isFor ⟨process, rest⟩ vnfdId = true →
        Update.isFor ⟨process, first :: rest⟩ vnfdId = true := by
    intro first rest vnfdId isFor
    obtain ⟨access, mem, here⟩ := List.any_eq_true.mp isFor
    exact List.any_eq_true.mpr ⟨access, List.mem_cons_of_mem first mem, here⟩
  cases accesses with
  | nil => exact exact
  | cons first rest =>
    cases first with
    | query vnfdId =>
      show Exact (if s.isOnboarded vnfdId && !s.refers vnfdId then _ else _)
      split
      · case isTrue free =>
        obtain ⟨-, free⟩ := Bool.and_eq_true_iff.mp free
        have free : s.refers vnfdId = false := Bool.eq_false_of_not_eq_true' free
        refine exact.replace split (set _) rfl (fun _ => id) (fun _ _ => rfl) (fun _ => id) fun vnfdId' => ?_
        by_cases same : vnfdId = vnfdId'
        · subst same
          show (onVnfd (Access.save vnfdId .notInUse).vnfdId _).foldl _ _ =
            (onVnfd (Access.query vnfdId).vnfdId _).foldl _ _
          rw [onVnfd_cons_self, onVnfd_cons_self, List.foldl_cons, List.foldl_cons, free]
          rfl
        · rw [onVnfd_cons_of_ne (.save vnfdId .notInUse) rest same,
            onVnfd_cons_of_ne (.query vnfdId) rest same]
      · case isFalse kept =>
        refine exact.replace split (set _) rfl drops (fun _ _ => rfl) (fun _ => id) fun vnfdId' => ?_
        by_cases same : vnfdId = vnfdId'
        · subst same
          show _ = (onVnfd (Access.query vnfdId).vnfdId _).foldl _ _
          rw [onVnfd_cons_self, List.foldl_cons, query_kept kept]
          rfl
        · rw [onVnfd_cons_of_ne (.query vnfdId) rest same]
    | save vnfdId state =>
      have elsewhere : ∀ vnfdId', vnfdId' ≠ vnfdId →
          (s.access place ⟨process, .save vnfdId state :: rest⟩).packages vnfdId' = s.packages vnfdId' :=
        fun vnfdId' ne => Function.update_of_ne ne _ s.packages
      have here : (s.access place ⟨process, .save vnfdId state :: rest⟩).packages vnfdId =
          (s.packages vnfdId).map fun _ => state := Function.update_self vnfdId _ s.packages
      refine exact.replace split (set _) rfl drops ?_ ?_ fun vnfdId' => ?_
      · intro vnfdId' not
        apply elsewhere
        rintro rfl
        rw [Update.isFor, List.any_cons, decide_eq_true (show Access.vnfdId (.save vnfdId' state) = vnfdId'
          from rfl), Bool.true_or] at not
        cases not
      · intro vnfdId' present
        by_cases same : vnfdId' = vnfdId
        · subst same
          rw [here]
          exact fun missing => present (Option.map_eq_none_iff.mp missing)
        · rw [elsewhere vnfdId' same]
          exact present
      · by_cases same : vnfdId = vnfdId'
        · subst same
          rw [here]
          show _ = (onVnfd (Access.save vnfdId state).vnfdId _).foldl _ _
          rw [onVnfd_cons_self]
          rfl
        · rw [onVnfd_cons_of_ne (.save vnfdId state) rest same, elsewhere vnfdId' (Ne.symm same)]

/-- An access writes nothing but the package and the updates. -/
lemma access_frame (place : ℕ) (update : Update κ) :
    (s.access place update).insts = s.insts ∧ (s.access place update).nfvo = s.nfvo ∧
      (s.access place update).operations = s.operations := by
  rw [State.access]
  split
  · exact ⟨rfl, rfl, rfl⟩
  · split
    · exact ⟨rfl, rfl, rfl⟩
    · exact ⟨rfl, rfl, rfl⟩
  · exact ⟨rfl, rfl, rfl⟩

/-- An access removes no package. -/
lemma access_onboarded (place : ℕ) (update : Update κ) (there : s.packages vnfdId ≠ none) :
    (s.access place update).packages vnfdId ≠ none := by
  rw [State.access]
  split
  · exact there
  · split
    · exact there
    · exact there
  · case h_3 vnfdId' state rest _ =>
    show Function.update s.packages vnfdId' _ vnfdId ≠ none
    by_cases same : vnfdId = vnfdId'
    · subst same
      rw [Function.update_self]
      exact fun missing => there (Option.map_eq_none_iff.mp missing)
    · rw [Function.update_of_ne same]
      exact there

/-- Updates that had nothing more to do are dropped. -/
lemma Exact.drop (exact : Exact s) {keeps : Update κ → Bool}
    (updates : t.updates = s.updates.filter keeps)
    (done : ∀ update ∈ s.updates, keeps update = false → update.accesses = [])
    (insts : t.insts = s.insts) (packages : t.packages = s.packages) : Exact t := by
  have same : ∀ vnfdId, accessesOn vnfdId t.updates = accessesOn vnfdId s.updates := by
    intro vnfdId
    rw [updates]
    revert done
    generalize s.updates = us
    intro done
    induction us with
    | nil => rfl
    | cons u us ih =>
      have ih := ih fun update mem => done update (List.mem_cons_of_mem _ mem)
      cases kept : keeps u with
      | true => rw [List.filter_cons_of_pos kept, accessesOn_cons, accessesOn_cons, ih]
      | false =>
        rw [List.filter_cons_of_neg (Bool.not_eq_true _ ▸ kept), accessesOn_cons, ih,
          done u List.mem_cons_self kept]
        rfl
  refine ⟨?_, fun vnfdId => ?_, fun vnfdId updating => ?_⟩
  · rw [updates]
    exact exact.apart.sublist List.filter_sublist
  · have settled := exact.exact vnfdId
    rw [State.settled, State.refers] at settled ⊢
    rw [same, insts, packages]
    exact settled
  · rw [packages]
    apply exact.updated
    by_contra idle
    have none := not_updating.mp (Bool.eq_false_iff.mpr idle)
    rw [not_updating.mpr ((same vnfdId).trans none)] at updating
    cases updating

end Tacker.Usage
