import Tacker.Basis.MergePatch

/-!
# MergePatch of RFC 7396

What the RFC asks of the result of a merge, member by member and without an order of steps. The
result is known up to the order of members, has no null that the target did not have, and the same
patch does not change it again.
-/

namespace Tacker.Patch

open Tacker.Basis

variable {κ α : Type} [DecidableEq κ]

/-- The result of merging a patch into a target. A target that is no object counts as the empty one;
an undefined member is no object, as null is none. -/
inductive MergePatch : Json κ α → Json κ α → Json κ α → Prop where
  /-- A patch that is no object replaces the target. -/
  | value {target patch : Json κ α} : patch.isDict = false → MergePatch target patch patch
  /-- An object is merged member by member: a member that the patch does not have is kept, null
  deletes it, and any other value is merged into it. -/
  | object {target patch result : Json κ α} :
    patch.isDict = true → result.isDict = true →
    (∀ k, patch.get? k = none → result.get? k = target.get? k) →
    (∀ k, patch.get? k = some .null → result.get? k = none) →
    (∀ k v, patch.get? k = some v → v.isNull = false → (result.get? k).isSome = true) →
    (∀ k v, patch.get? k = some v → v.isNull = false →
      MergePatch ((target.get? k).getD .null) v ((result.get? k).getD .null)) →
    MergePatch target patch result

variable {target target' patch result result' : Json κ α}

/-- The loop over the members of the patch makes a result as the RFC asks for. -/
lemma mergePatch_jsonMergePatch (target patch : Json κ α) :
    MergePatch target patch (target.jsonMergePatch patch) := by
  induction patch generalizing target with
  | obj ks unique value ih =>
    have dict : (Json.obj ks unique value).isDict = true := rfl
    have merged (k : κ) (v : Json κ α) (found : (Json.obj ks unique value).get? k = some v)
        (notNull : v.isNull = false) :
        (target.jsonMergePatch (.obj ks unique value)).get? k =
          some (((target.get? k).getD .null).jsonMergePatch v) := by
      rw [Json.get?_jsonMergePatch_some dict found notNull, Json.get?_asDict]
    apply MergePatch.object dict
    · rw [Json.isDict_jsonMergePatch]
      rfl
    · intro k absent
      rw [Json.get?_jsonMergePatch_none dict absent, Json.get?_asDict]
    · intro k isNull
      exact Json.get?_jsonMergePatch_null dict isNull
    · intro k v found notNull
      rw [merged k v found notNull]
      rfl
    · intro k v found notNull
      rw [merged k v found notNull, Option.getD_some]
      have here := (Option.ite_none_right_eq_some.mp found).2
      rw [← Option.some.inj here]
      exact ih k _
  | null => exact .value rfl
  | atom value => exact .value rfl
  | arr size item => exact .value rfl

lemma MergePatch.isDict (merge : MergePatch target patch result) : result.isDict = patch.isDict := by
  cases merge with
  | value => rfl
  | object dict dict' => rw [dict, dict']

lemma MergePatch.isNull (merge : MergePatch target patch result) (notNull : patch.isNull = false) :
    result.isNull = false := by
  cases merge with
  | value => exact notNull
  | object dict dict' => exact Json.isNull_of_isDict dict'

omit [DecidableEq κ] in
lemma rel_some_getD {s t : Option (Json κ α)} (left : s.isSome = true) (right : t.isSome = true)
    (same : (s.getD .null).Same (t.getD .null)) : Option.Rel Json.Same s t := by
  obtain ⟨v, rfl⟩ := Option.isSome_iff_exists.mp left
  obtain ⟨w, rfl⟩ := Option.isSome_iff_exists.mp right
  exact .some same

omit [DecidableEq κ] in
lemma same_getD {s t : Option (Json κ α)} (rel : Option.Rel Json.Same s t) :
    (s.getD .null).Same (t.getD .null) := by
  cases rel with
  | none => exact Json.Same.refl _
  | some same => exact same

/-- The RFC leaves no choice. -/
theorem MergePatch.unique (merge : MergePatch target patch result)
    (merge' : MergePatch target' patch result') (same : ∀ k, Option.Rel Json.Same (target.get? k)
      (target'.get? k)) : result.Same result' := by
  induction merge generalizing target' result' with
  | value notDict =>
    cases merge' with
    | value => exact Json.Same.refl _
    | object dict =>
      rw [notDict] at dict
      cases dict
  | @object target patch result dict dict' keeps deletes sets merges ih =>
    cases merge' with
    | value notDict =>
      rw [dict] at notDict
      cases notDict
    | object _ dict'' keeps' deletes' sets' merges' =>
      rw [Json.same_iff dict' dict'']
      intro k
      cases found : patch.get? k with
      | none =>
        rw [keeps k found, keeps' k found]
        exact same k
      | some v =>
        cases isNull : v.isNull with
        | true =>
          obtain rfl := Json.isNull_iff.mp isNull
          rw [deletes k found, deletes' k found]
          exact .none
        | false =>
          apply rel_some_getD (sets k v found isNull) (sets' k v found isNull)
          apply ih k v found isNull (merges' k v found isNull)
          exact fun key => (same_getD (same k)).get? key

/-- A null at a path of members of the result was in the target. -/
theorem MergePatch.null_of_target (merge : MergePatch target patch result) {path : List κ}
    (ne : path ≠ []) (isNull : result.at? path = some .null) : target.at? path = some .null := by
  induction merge generalizing path with
  | value notDict =>
    cases path with
    | nil => exact absurd rfl ne
    | cons k path =>
      rw [Json.at?_cons] at isNull
      obtain ⟨v, found, -⟩ := Option.bind_eq_some_iff.mp isNull
      rw [Json.isDict_of_get? found] at notDict
      cases notDict
  | @object target patch result dict dict' keeps deletes sets merges ih =>
    cases path with
    | nil => exact absurd rfl ne
    | cons k path =>
      rw [Json.at?_cons] at isNull ⊢
      cases found : patch.get? k with
      | none =>
        rw [keeps k found] at isNull
        exact isNull
      | some v =>
        cases vNull : v.isNull with
        | true =>
          obtain rfl := Json.isNull_iff.mp vNull
          rw [deletes k found] at isNull
          cases isNull
        | false =>
          obtain ⟨w, made, isNull⟩ := Option.bind_eq_some_iff.mp isNull
          have merged := merges k v found vNull
          rw [made, Option.getD_some] at merged
          have below (ne : path ≠ []) : ((target.get? k).getD .null).at? path = some .null := by
            apply ih k v found vNull ne
            rw [made, Option.getD_some]
            exact isNull
          cases path with
          | nil =>
            have notNull := merged.isNull vNull
            rw [Json.at?_nil] at isNull
            rw [Option.some.inj isNull] at notNull
            cases notNull
          | cons key path =>
            cases old : target.get? k with
            | none =>
              have absent := below (List.cons_ne_nil key path)
              rw [old] at absent
              cases absent
            | some t =>
              have here := below (List.cons_ne_nil key path)
              rw [old] at here
              exact here

/-- The same patch does not change the result again. -/
theorem MergePatch.idempotent (merge : MergePatch target patch result)
    (again : MergePatch result patch result') : result'.Same result := by
  induction merge generalizing result' with
  | value notDict =>
    cases again with
    | value => exact Json.Same.refl _
    | object dict =>
      rw [notDict] at dict
      cases dict
  | @object target patch result dict dict' keeps deletes sets merges ih =>
    cases again with
    | value notDict =>
      rw [dict] at notDict
      cases notDict
    | object _ dict'' keeps' deletes' sets' merges' =>
      rw [Json.same_iff dict'' dict']
      intro k
      cases found : patch.get? k with
      | none =>
        rw [keeps' k found]
        exact Json.same_rel_refl _
      | some v =>
        cases isNull : v.isNull with
        | true =>
          obtain rfl := Json.isNull_iff.mp isNull
          rw [deletes k found, deletes' k found]
          exact .none
        | false =>
          apply rel_some_getD (sets' k v found isNull) (sets k v found isNull)
          exact ih k v found isNull (merges' k v found isNull)

end Tacker.Patch
