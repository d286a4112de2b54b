import Tacker.UserData.LinkEffects

/-!
# References at any place

What the links ought to do with the references to them: they are in dictionaries and lists alike,
where `_change` goes through dictionaries only.
-/

namespace Tacker.UserData

open Tacker.Basis

variable {t v w : Value} {network : String → Option String} {name : String}

/-- The resource is referred to in a part of the value, at any depth. -/
def RefersIn (name : String) : Value → Prop
  | .obj ks _ value => ∃ key ∈ ks, refName (value key) = some name ∨ RefersIn name (value key)
  | .arr _ item => ∃ i, refName (item i) = some name ∨ RefersIn name (item i)
  | _ => False

/-- The resource is referred to in an item of a list, at any depth. -/
def RefersInList (name : String) : Value → Prop
  | .obj ks _ value => ∃ key ∈ ks, RefersInList name (value key)
  | .arr _ item => ∃ i, refName (item i) = some name ∨ RefersIn name (item i)
  | _ => False

/-- The value with every reference to a link replaced, in lists as well. -/
def replaceAll (network : String → Option String) : Value → Value
  | .obj ks unique value => .obj ks unique fun key =>
    replaceRef network (value key) (replaceAll network (value key))
  | .arr size item => .arr size fun i => replaceRef network (item i) (replaceAll network (item i))
  | value => value

/-! ## Where references are -/

lemma refersIn_iff : RefersIn name t ↔ RefersTo name t ∨ RefersInList name t := by
  induction t with
  | obj ks unique value ih =>
    constructor
    · rintro ⟨key, mem, isRef | refers⟩
      · exact .inl ⟨key, mem, .inl isRef⟩
      · rcases (ih key).mp refers with refers | refers
        · exact .inl ⟨key, mem, .inr refers⟩
        · exact .inr ⟨key, mem, refers⟩
    · rintro (⟨key, mem, isRef | refers⟩ | ⟨key, mem, refers⟩)
      · exact ⟨key, mem, .inl isRef⟩
      · exact ⟨key, mem, .inr ((ih key).mpr (.inl refers))⟩
      · exact ⟨key, mem, .inr ((ih key).mpr (.inr refers))⟩
  | arr size item ih => exact ⟨fun refers => .inr refers, fun refers => refers.resolve_left id⟩
  | _ => exact ⟨fun refers => .inl refers, fun refers => refers.elim id id⟩

lemma refersIn_of_get? {key : Key} (found : v.get? key = some w)
    (refers : refName w = some name ∨ RefersIn name w) : RefersIn name v := by
  cases v with
  | obj ks unique value =>
    by_cases mem : key ∈ ks
    · simp only [Json.get?, mem, if_true, Option.some.injEq] at found
      subst found
      exact ⟨key, mem, refers⟩
    · simp [Json.get?, mem] at found
  | _ => cases found

/-- In a dictionary the references are in its members. -/
lemma refersIn_dict (dict : v.isDict = true) : RefersIn name v ↔
    ∃ key w, v.get? key = some w ∧ (refName w = some name ∨ RefersIn name w) := by
  constructor
  · intro refers
    cases v with
    | obj ks unique value =>
      obtain ⟨key, mem, refers⟩ := refers
      exact ⟨key, value key, by simp [Json.get?, mem], refers⟩
    | _ => cases dict
  · rintro ⟨key, w, found, refers⟩
    exact refersIn_of_get? found refers

/-- A reference has no reference in it. -/
lemma not_refersIn_of_refName {other : String} (eq : refName v = some other) :
    ¬ RefersIn name v := by
  rw [refersIn_dict (isDict_of_refName eq)]
  rintro ⟨key, w, found, refers⟩
  obtain ⟨-, rfl⟩ := get?_of_refName eq found
  rcases refers with isRef | refers
  · cases isRef
  · exact refers

/-! ## The same documents have the same references -/

lemma refName_of_same (same : v.Same w) (eq : refName v = some name) : refName w = some name := by
  obtain ⟨keys, arg⟩ := refName_eq_some eq
  have dict : w.isDict = true := same.isDict ▸ isDict_of_refName eq
  have rel := same.get? "get_resource"
  rw [arg] at rel
  cases found : w.get? (.str "get_resource") with
  | none =>
    rw [found] at rel
    cases rel
  | some arg' =>
    rw [found] at rel
    have argSame : (text name).Same arg' := by
      cases rel with
      | some same => exact same
    have eq' : arg' = text name := by
      cases arg' with
      | atom a =>
        have atom : Scalar.str name = a := argSame
        rw [← atom]
        rfl
      | _ => exact argSame.elim
    have only : w.keys = [.str "get_resource"] := by
      apply List.perm_singleton.mp
      apply (List.perm_ext_iff_of_nodup (Json.unique_keys w) (List.nodup_singleton _)).mpr
      intro key
      rw [← keys, Json.mem_keys_iff, Json.mem_keys_iff]
      have rel := same.get? key
      cases left : v.get? key with
      | none =>
        cases right : w.get? key with
        | none => exact Iff.rfl
        | some _ =>
          rw [left, right] at rel
          cases rel
      | some _ =>
        cases right : w.get? key with
        | none =>
          rw [left, right] at rel
          cases rel
        | some _ => simp
    rw [refName, if_pos only, found, eq']
    rfl

lemma refersIn_of_same (same : v.Same w) (refers : RefersIn name v) : RefersIn name w := by
  induction v generalizing w with
  | obj ks unique value ih =>
    cases w with
    | obj ks' unique' value' =>
      obtain ⟨key, mem, refers⟩ := refers
      have inner := (same key).2 mem
      refine ⟨key, (same key).1.mp mem, ?_⟩
      rcases refers with isRef | refers
      · exact .inl (refName_of_same inner isRef)
      · exact .inr (ih key inner refers)
    | _ => cases same
  | arr size item ih =>
    cases w with
    | arr size' item' =>
      obtain ⟨rfl, inner⟩ := same
      obtain ⟨i, refers⟩ := refers
      refine ⟨i, ?_⟩
      rcases refers with isRef | refers
      · exact .inl (refName_of_same (inner i) isRef)
      · exact .inr (ih i (inner i) refers)
    | _ => cases same
  | _ => exact refers.elim

/-- The links that stand for a network. -/
def Known (network : String → Option String) (name : String) : Prop :=
  network name ≠ none

/-! ## What is replaced -/

/-- A part of a value stays as it is exactly if no link is referred to. -/
lemma same_replaceRef (below : v.Same (replaceAll network v) ↔
      ∀ name, Known network name → ¬ RefersIn name v) :
    v.Same (replaceRef network v (replaceAll network v)) ↔
      ∀ name, Known network name → ¬ (refName v = some name ∨ RefersIn name v) := by
  cases ref : refName v with
  | none =>
    rw [replaceRef_none ref, below]
    simp
  | some other =>
    rw [replaceRef_some ref]
    have dict := isDict_of_refName ref
    cases id : network other with
    | none =>
      refine ⟨fun _ name known => ?_, fun _ => Json.Same.refl _⟩
      rintro (eq | refers)
      · cases eq
        exact known id
      · exact not_refersIn_of_refName ref refers
    | some networkId =>
      constructor
      · intro same
        have eq : v.isDict = false := same.isDict
        rw [dict] at eq
        cases eq
      · intro none
        have known : Known network other := by
          rw [Known, id]
          exact Option.some_ne_none networkId
        exact absurd (.inl rfl) (none other known)

/-- A value stays as it is exactly if no link is referred to in it. -/
lemma same_replaceAll_iff : t.Same (replaceAll network t) ↔
    ∀ name, Known network name → ¬ RefersIn name t := by
  induction t with
  | obj ks unique value ih =>
    constructor
    · rintro same name known ⟨key, mem, refers⟩
      exact (same_replaceRef (ih key)).mp ((same key).2 mem) name known refers
    · intro none key
      refine ⟨Iff.rfl, fun mem => (same_replaceRef (ih key)).mpr fun name known refers => ?_⟩
      exact none name known ⟨key, mem, refers⟩
  | arr size item ih =>
    constructor
    · rintro ⟨sizes, same⟩ name known ⟨i, refers⟩
      exact (same_replaceRef (ih i)).mp (same i) name known refers
    · intro none
      refine ⟨rfl, fun i => (same_replaceRef (ih i)).mpr fun name known refers => ?_⟩
      exact none name known ⟨i, refers⟩
  | _ => exact ⟨fun _ _ _ refers => refers.elim, fun _ => Json.Same.refl _⟩

/-- Going through dictionaries only replaces all references exactly if none is in a list. -/
lemma same_rewrite_replaceAll : (rewrite network t).Same (replaceAll network t) ↔
    ∀ name, Known network name → ¬ RefersInList name t := by
  induction t with
  | obj ks unique value ih =>
    have member : ∀ key, (replaceRef network (value key) (rewrite network (value key))).Same
        (replaceRef network (value key) (replaceAll network (value key))) ↔
          ∀ name, Known network name → ¬ RefersInList name (value key) := by
      intro key
      cases ref : refName (value key) with
      | none => rw [replaceRef_none ref, replaceRef_none ref, ih key]
      | some other =>
        rw [replaceRef_some ref, replaceRef_some ref]
        refine ⟨fun _ name _ refers => ?_, fun _ => Json.Same.refl _⟩
        exact not_refersIn_of_refName ref (refersIn_iff.mpr (.inr refers))
    constructor
    · rintro same name known ⟨key, mem, refers⟩
      exact (member key).mp ((same key).2 mem) name known refers
    · intro none key
      refine ⟨Iff.rfl, fun mem => (member key).mpr fun name known refers => ?_⟩
      exact none name known ⟨key, mem, refers⟩
  | arr size item ih => exact same_replaceAll_iff
  | _ => exact ⟨fun _ _ _ refers => refers.elim, fun _ => Json.Same.refl _⟩

@[simp] lemma isDict_rewrite : (rewrite network v).isDict = v.isDict := by
  cases v <;> rfl

@[simp] lemma keys_rewrite : (rewrite network v).keys = v.keys := by
  cases v <;> rfl

lemma get?_rewrite {key : Key} : (rewrite network v).get? key =
    (v.get? key).map fun w => replaceRef network w (rewrite network w) := by
  cases v with
  | obj ks unique value => by_cases mem : key ∈ ks <;> simp [rewrite, Json.get?, mem]
  | _ => rfl

lemma replaceRef_value {other : Value} (value : v.isDict = false) :
    replaceRef network v other = other :=
  replaceRef_none (refName_value value)

lemma rewrite_value (value : v.isDict = false) : rewrite network v = v := by
  cases v with
  | obj ks unique inner => cases value
  | _ => rfl

/-- Replacing makes no new references. -/
lemma refName_rewrite (plain : ∀ arg, v.get? "get_resource" = some arg → arg.isDict = false) :
    refName (rewrite network v) = refName v := by
  unfold refName
  rw [keys_rewrite, get?_rewrite]
  cases found : v.get? "get_resource" with
  | none => rfl
  | some arg =>
    have value := plain arg found
    rw [Option.map_some, replaceRef_value value, rewrite_value value]

/-- The references that are left when dictionaries were gone through. -/
lemma refersIn_rewrite (plain : PlainArgs t) : RefersIn name (rewrite network t) ↔
    (RefersTo name t ∧ network name = none) ∨ RefersInList name t := by
  induction t with
  | obj ks unique value ih =>
    have member : ∀ key ∈ ks,
        (refName (replaceRef network (value key) (rewrite network (value key))) = some name ∨
          RefersIn name (replaceRef network (value key) (rewrite network (value key)))) ↔
        ((refName (value key) = some name ∨ RefersTo name (value key)) ∧ network name = none) ∨
          RefersInList name (value key) := by
      intro key mem
      obtain ⟨-, inner⟩ := plain key mem
      cases ref : refName (value key) with
      | none =>
        rw [replaceRef_none ref, refName_rewrite fun arg found => (inner.get? found).2 rfl, ref,
          ih key inner]
        simp
      | some other =>
        rw [replaceRef_some ref]
        have not : ¬ RefersInList name (value key) := fun refers =>
          not_refersIn_of_refName ref (refersIn_iff.mpr (.inr refers))
        have not' : ¬ RefersTo name (value key) := not_refersTo_of_refName ref
        cases id : network other with
        | none =>
          show (refName (value key) = some name ∨ RefersIn name (value key)) ↔ _
          rw [ref]
          constructor
          · rintro (eq | refers)
            · cases eq
              exact .inl ⟨.inl rfl, id⟩
            · exact absurd refers (not_refersIn_of_refName ref)
          · rintro (⟨eq | refers, -⟩ | refers)
            · exact .inl eq
            · exact absurd refers not'
            · exact absurd refers not
        | some networkId =>
          constructor
          · rintro (eq | refers)
            · cases eq
            · exact refers.elim
          · rintro (⟨eq | refers, none⟩ | refers)
            · cases eq
              rw [id] at none
              cases none
            · exact absurd refers not'
            · exact absurd refers not
    constructor
    · rintro ⟨key, mem, refers⟩
      rcases (member key mem).mp refers with ⟨refers, none⟩ | refers
      · exact .inl ⟨⟨key, mem, refers⟩, none⟩
      · exact .inr ⟨key, mem, refers⟩
    · rintro (⟨⟨key, mem, refers⟩, none⟩ | ⟨key, mem, refers⟩)
      · exact ⟨key, mem, (member key mem).mpr (.inl ⟨refers, none⟩)⟩
      · exact ⟨key, mem, (member key mem).mpr (.inr refers)⟩
  | arr size item ih =>
    exact ⟨fun refers => .inr refers, fun refers => refers.resolve_left fun refers => refers.1⟩
  | _ => exact ⟨fun refers => refers.elim, fun refers => refers.elim (fun refers => refers.1.elim) id⟩

end Tacker.UserData
