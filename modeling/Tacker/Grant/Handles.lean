import Mathlib.Data.List.Forall2
import Mathlib.Data.List.Induction
import Tacker.Grant.RemovedVnfcs

/-!
# Handles of removed resources

What the removed definitions stand for, and when the loops over the virtual links give each of them
the handle of its own port.
-/

namespace Tacker.Grant

open Tacker.Basis

/-! ## Filling in -/

lemma map_snd_filled (ports : List (String × ResourceHandle)) (noted : List Noted) :
    (filled ports noted).map Prod.snd = noted.map Prod.snd := by
  induction noted with
  | nil => rfl
  | cons entry noted ih =>
    obtain ⟨res, key⟩ := entry
    cases key with
    | none => exact congrArg (none :: ·) ih
    | some key =>
      rw [filled]
      by_cases later : some key ∈ noted.map Prod.snd
      · rw [if_pos later]
        exact congrArg (some key :: ·) ih
      · rw [if_neg later]
        exact congrArg (some key :: ·) ih

lemma lastHandle_append (key : String) (ports : List (String × ResourceHandle))
    (port : String × ResourceHandle) :
    lastHandle key (ports ++ [port]) =
      if port.1 = key then some port.2 else lastHandle key ports := by
  rw [lastHandle, lastHandle, List.filter_append]
  by_cases same : port.1 = key
  · simp [same]
  · simp [same]

/-- A port under whose key nothing is noted makes no difference. -/
lemma filled_append_absent (ports : List (String × ResourceHandle))
    {port : String × ResourceHandle} {noted : List Noted}
    (absent : some port.1 ∉ noted.map Prod.snd) :
    filled (ports ++ [port]) noted = filled ports noted := by
  induction noted with
  | nil => rfl
  | cons entry noted ih =>
    obtain ⟨res, key⟩ := entry
    obtain ⟨ne, absentRest⟩ := not_or.mp fun mem => absent (List.mem_cons.mpr mem)
    cases key with
    | none => rw [filled, filled, ih absentRest]
    | some key =>
      have other : port.1 ≠ key := fun same => ne (congrArg some same)
      rw [filled, filled, ih absentRest, lastHandle_append, if_neg other]

/-- One more port. -/
lemma fillHandle_filled (ports : List (String × ResourceHandle)) (port : String × ResourceHandle)
    (noted : List Noted) :
    fillHandle port.1 port.2 (filled ports noted) = filled (ports ++ [port]) noted := by
  induction noted with
  | nil => rfl
  | cons entry noted ih =>
    obtain ⟨res, key⟩ := entry
    by_cases later : some port.1 ∈ noted.map Prod.snd
    · have onward : ∀ res', fillHandle port.1 port.2 ((res', key) :: filled ports noted) =
          (res', key) :: filled (ports ++ [port]) noted := by
        intro res'
        rw [fillHandle, map_snd_filled, if_pos later, ih]
      cases key with
      | none => exact onward res
      | some key =>
        rw [filled, filled]
        by_cases again : some key ∈ noted.map Prod.snd
        · rw [if_pos again, if_pos again, onward]
        · have other : port.1 ≠ key := by
            rintro rfl
            exact again later
          rw [if_neg again, if_neg again, onward, lastHandle_append, if_neg other]
    · have absent := filled_append_absent ports later
      cases key with
      | none =>
        rw [filled, filled, fillHandle, map_snd_filled, if_neg later, if_neg (by simp), absent]
      | some key =>
        rw [filled, filled]
        by_cases same : key = port.1
        · subst same
          rw [if_neg later, if_neg later, fillHandle, map_snd_filled, if_neg later, if_pos rfl,
            absent, lastHandle_append, if_pos rfl]
          rfl
        · have ne : ¬ some key = some port.1 := fun eq => same (Option.some_inj.mp eq)
          by_cases again : some key ∈ noted.map Prod.snd
          · rw [if_pos again, if_pos again, fillHandle, map_snd_filled, if_neg later, if_neg ne,
              absent]
          · rw [if_neg again, if_neg again, fillHandle, map_snd_filled, if_neg later, if_neg ne,
              absent, lastHandle_append, if_neg (Ne.symm same)]

lemma filled_nil (noted : List Noted) : filled [] noted = noted := by
  induction noted with
  | nil => rfl
  | cons entry noted ih =>
    obtain ⟨res, key⟩ := entry
    cases key with
    | none => rw [filled, ih]
    | some key =>
      rw [filled, ih, ite_eq_left_iff]
      intro _
      rfl

/-- What the loops over the virtual links leave. -/
lemma fillHandles_eq (ports : List (String × ResourceHandle)) (noted : List Noted) :
    fillHandles ports noted = filled ports noted := by
  induction ports using List.reverseRecOn with
  | nil => exact (filled_nil noted).symm
  | append_singleton ports port ih =>
    rw [fillHandles, List.foldl_append]
    show fillHandle port.1 port.2 (fillHandles ports noted) = _
    rw [ih, fillHandle_filled]

/-! ## What the definitions stand for -/

/-- A resource of the instance that is removed: where the instance records it, by the handles found
there. -/
structure Stand where
  type : ResourceType
  resourceTemplateId : String
  resources : List ResourceHandle

/-- A resource is recorded once. -/
def Stand.Single (stand : Stand) : Prop := ∃ handle, stand.resources = [handle]

/-- A definition carries the handle of the resource that it stands for. -/
def Carries (res : ResourceDefinition) (stand : Stand) : Prop :=
  res.type = stand.type ∧ res.resourceTemplateId = stand.resourceTemplateId ∧
    ∃ handle, stand.resources = [handle] ∧ res.resource = some handle

/-- Each definition carries the handle of the resource that it stands for, and no two of them stand
for one resource. -/
structure Accurate (reses : List ResourceDefinition) (stands : List Stand) : Prop where
  carry : List.Forall₂ Carries reses stands
  differ : (reses.map (·.resource)).Nodup

/-- Each resource is recorded once, and all are different. -/
structure Separate (stands : List Stand) : Prop where
  single : ∀ stand ∈ stands, stand.Single
  differ : (stands.flatMap Stand.resources).Nodup

variable {reses reses' : List ResourceDefinition} {stands stands' : List Stand}

lemma map_resource_of_carry (carry : List.Forall₂ Carries reses stands) :
    reses.map (·.resource) = (stands.flatMap Stand.resources).map some := by
  induction carry with
  | nil => rfl
  | cons carries _ ih =>
    obtain ⟨_, _, handle, single, resource⟩ := carries
    rw [List.map_cons, ih, List.flatMap_cons, single, resource]
    rfl

lemma single_of_carry (carry : List.Forall₂ Carries reses stands) :
    ∀ stand ∈ stands, stand.Single := by
  induction carry with
  | nil => exact fun _ mem => absurd mem List.not_mem_nil
  | cons carries _ ih =>
    obtain ⟨_, _, handle, single, _⟩ := carries
    exact List.forall_mem_cons.mpr ⟨⟨handle, single⟩, ih⟩

/-- Definitions that carry their handles are accurate if and only if the resources are all
different. -/
lemma accurate_iff_of_carry (carry : List.Forall₂ Carries reses stands) :
    Accurate reses stands ↔ Separate stands := by
  have nodup : (reses.map (·.resource)).Nodup ↔ (stands.flatMap Stand.resources).Nodup := by
    rw [map_resource_of_carry carry, List.nodup_map_iff fun _ _ eq => Option.some_inj.mp eq]
  exact ⟨fun accurate => ⟨single_of_carry carry, nodup.mp accurate.differ⟩,
    fun separate => ⟨carry, nodup.mpr separate.differ⟩⟩

/-! ## Ports -/

/-- The handles of the ports under a key. -/
def handlesAt (key : String) (ports : List (String × ResourceHandle)) : List ResourceHandle :=
  (ports.filter fun port => port.1 = key).map Prod.snd

/-- A noted definition waits for the port that it stands for, or carries its handle already. -/
def Waits (ports : List (String × ResourceHandle)) (entry : Noted) (stand : Stand) : Prop :=
  match entry.2 with
  | none => Carries entry.1 stand
  | some key => entry.1.type = stand.type ∧
      entry.1.resourceTemplateId = stand.resourceTemplateId ∧ entry.1.resource = none ∧
      stand.resources = handlesAt key ports

lemma lastHandle_of_single {key : String} {ports : List (String × ResourceHandle)}
    {handle : ResourceHandle} (single : handlesAt key ports = [handle]) :
    lastHandle key ports = some handle := by
  rw [handlesAt] at single
  rw [lastHandle, ← List.getLast?_map, single]
  rfl

/-- The loops over the virtual links give each definition the handle of its own port if and only if
no two ports are noted under one key and each is recorded once. -/
theorem carry_filled_iff {ports : List (String × ResourceHandle)} {noted : List Noted}
    (waits : List.Forall₂ (Waits ports) noted stands) :
    List.Forall₂ Carries ((filled ports noted).map Prod.fst) stands ↔
      (noted.filterMap Prod.snd).Nodup ∧ ∀ stand ∈ stands, stand.Single := by
  induction waits with
  | nil => exact ⟨fun _ => ⟨List.nodup_nil, fun _ mem => absurd mem List.not_mem_nil⟩,
      fun _ => .nil⟩
  | @cons entry stand noted stands wait _ ih =>
    obtain ⟨res, key⟩ := entry
    rw [List.forall_mem_cons]
    cases key with
    | none =>
      have wait : Carries res stand := wait
      obtain ⟨_, _, handle, single, _⟩ := wait
      rw [filled, List.map_cons, List.forall₂_cons, ih]
      exact ⟨fun both => ⟨both.2.1, ⟨handle, single⟩, both.2.2⟩,
        fun both => ⟨wait, both.1, both.2.2⟩⟩
    | some key =>
      obtain ⟨type, template, unset, recorded⟩ := wait
      rw [filled, show ((res, some key) :: noted).filterMap Prod.snd =
        key :: noted.filterMap Prod.snd from rfl, List.nodup_cons]
      have noted_iff : key ∈ noted.filterMap Prod.snd ↔ some key ∈ noted.map Prod.snd := by
        simp [List.mem_filterMap, List.mem_map]
      rw [noted_iff]
      by_cases later : some key ∈ noted.map Prod.snd
      · rw [if_pos later, List.map_cons, List.forall₂_cons]
        apply Iff.intro
        · rintro ⟨⟨_, _, handle, _, resource⟩, _⟩
          have unset : res.resource = none := unset
          rw [unset] at resource
          cases resource
        · rintro ⟨⟨absent, _⟩, _⟩
          exact absurd later absent
      · rw [if_neg later, List.map_cons, List.forall₂_cons, ih, and_iff_right later]
        apply Iff.intro
        · rintro ⟨⟨_, _, handle, single, _⟩, nodup, rest⟩
          exact ⟨nodup, ⟨handle, single⟩, rest⟩
        · rintro ⟨nodup, ⟨handle, single⟩, rest⟩
          refine ⟨⟨type, template, handle, single, ?_⟩, nodup, rest⟩
          show (lastHandle key ports).or res.resource = some handle
          rw [lastHandle_of_single (recorded ▸ single)]
          rfl

/-- The definitions after the loops over the virtual links are accurate if and only if no two ports
are noted under one key, and the resources are recorded once and all different. -/
theorem accurate_filled_iff {ports : List (String × ResourceHandle)} {noted : List Noted}
    (waits : List.Forall₂ (Waits ports) noted stands)
    (carry : List.Forall₂ Carries reses' stands') :
    Accurate ((fillHandles ports noted).map Prod.fst ++ reses') (stands ++ stands') ↔
      (noted.filterMap Prod.snd).Nodup ∧ Separate (stands ++ stands') := by
  rw [fillHandles_eq]
  apply Iff.intro
  · intro accurate
    have both := accurate.carry
    have first : List.Forall₂ Carries ((filled ports noted).map Prod.fst) stands := by
      have lengths : ((filled ports noted).map Prod.fst).length = stands.length := by
        rw [List.length_map, ← waits.length_eq, ← List.length_map (f := Prod.snd),
          map_snd_filled, List.length_map]
      have taken := List.forall₂_take (stands.length) both
      rwa [List.take_left, List.take_left' lengths] at taken
    exact ⟨((carry_filled_iff waits).mp first).1, (accurate_iff_of_carry both).mp accurate⟩
  · rintro ⟨nodup, separate⟩
    have first := (carry_filled_iff waits).mpr
      ⟨nodup, fun stand mem => separate.single stand (List.mem_append_left _ mem)⟩
    exact (accurate_iff_of_carry (List.rel_append first carry)).mpr separate

end Tacker.Grant
