import Mathlib.Data.List.FinRange
import Tacker.Basis.MergePatch

/-!
# Patched and compared documents

What the standard tells of a merge patch, as a relation between a place of a document before and
after; the patches of a list, one laid over the result of the other; and documents as a program
compares them, which may take different scalars for equal.
-/

namespace Tacker.Basis.Json

variable {κ α : Type} [DecidableEq κ]

/-! ## What a patch means -/

/-- The place of a document before and after a patch: `null` removes what is there, a dictionary is
merged key by key into the one that is there or into an empty one, and every other value takes the
place. -/
inductive Merged : Option (Json κ α) → Json κ α → Option (Json κ α) → Prop where
  | removed (o) : Merged o null none
  | replaced {o patch} : patch.isDict = false → patch.isNull = false → Merged o patch (some patch)
  | merged {o patch t} : patch.isDict = true → t.isDict = true →
      (∀ k, patch.get? k = none → t.get? k = o.bind (·.get? k)) →
      (∀ k v, patch.get? k = some v → Merged (o.bind (·.get? k)) v (t.get? k)) →
      Merged o patch (some t)

lemma get?_asDict_getD (o : Option (Json κ α)) (k : κ) :
    (o.getD null).asDict.get? k = o.bind (·.get? k) := by
  rw [get?_asDict]
  cases o with
  | none => rfl
  | some t => rfl

/-- The patch of a place is what the standard tells. -/
theorem merged_patchAt (o : Option (Json κ α)) (patch : Json κ α) :
    Merged o patch (patchAt o patch) := by
  induction patch generalizing o with
  | null => exact .removed o
  | atom a => exact .replaced rfl rfl
  | arr size item ih => exact .replaced rfl rfl
  | obj ks unique value ih =>
    have dict : (jsonMergePatch (o.getD null) (obj ks unique value)).isDict = true := by
      rw [isDict_jsonMergePatch]
      rfl
    have isPatched : patchAt o (obj ks unique value) =
        some (jsonMergePatch (o.getD null) (obj ks unique value)) := rfl
    rw [isPatched]
    apply Merged.merged rfl dict
    · intro k absent
      rw [get?_jsonMergePatch_none rfl absent, get?_asDict_getD]
    · intro k v found
      have mem : k ∈ ks := by
        by_contra absent
        simp [get?, absent] at found
      have isValue : v = value k := by simpa [get?, mem] using found.symm
      rw [get?_jsonMergePatch rfl, found, get?_asDict_getD, isValue]
      exact ih k (o.bind (·.get? k))

/-! ## Patches in order -/

/-- The place of a document after the patches of a list. -/
def patched (o : Option (Json κ α)) (patches : List (Json κ α)) : Option (Json κ α) :=
  patches.foldl patchAt o

/-- The place of a document before and after the patches of a list. -/
inductive MergedAll : Option (Json κ α) → List (Json κ α) → Option (Json κ α) → Prop where
  | nil (o) : MergedAll o [] o
  | cons {o o' o'' patch patches} : Merged o patch o' → MergedAll o' patches o'' →
      MergedAll o (patch :: patches) o''

/-- The patches of a list are laid over one after the other. -/
lemma mergedAll_patched (o : Option (Json κ α)) (patches : List (Json κ α)) :
    MergedAll o patches (patched o patches) := by
  induction patches generalizing o with
  | nil => exact .nil o
  | cons patch patches ih => exact .cons (merged_patchAt o patch) (ih (patchAt o patch))

@[simp] lemma patched_nil (o : Option (Json κ α)) : patched o [] = o := rfl

lemma patched_cons (o : Option (Json κ α)) (patch : Json κ α) (patches : List (Json κ α)) :
    patched o (patch :: patches) = patched (patchAt o patch) patches := rfl

lemma patched_append (o : Option (Json κ α)) (patches patches' : List (Json κ α)) :
    patched o (patches ++ patches') = patched (patched o patches) patches' :=
  List.foldl_append

/-! ## Comparing documents -/

/-- Equality of documents as a program tells it, which compares the scalars in its own way. -/
def eqBy (eq : α → α → Bool) : Json κ α → Json κ α → Bool
  | null, null => true
  | atom a, atom b => eq a b
  | arr n item, arr m item' =>
    if same : n = m then (List.finRange n).all fun i => eqBy eq (item i) (item' (i.cast same))
    else false
  | obj ks _ value, obj ks' _ value' =>
    ks.all (fun k => decide (k ∈ ks')) && ks'.all (fun k => decide (k ∈ ks)) &&
      ks.all fun k => eqBy eq (value k) (value' k)
  | _, _ => false

/-- A program that takes a scalar for itself takes a document for itself. -/
lemma eqBy_of_same {eq : α → α → Bool} (refl : ∀ a, eq a a = true) {s t : Json κ α}
    (same : Same s t) : eqBy eq s t = true := by
  induction s generalizing t with
  | null =>
    cases t with
    | null => rfl
    | _ => cases same
  | atom a =>
    cases t with
    | atom b =>
      obtain rfl := same
      exact refl a
    | _ => cases same
  | arr size item ih =>
    cases t with
    | arr size' item' =>
      obtain ⟨rfl, same⟩ := same
      simp only [eqBy, dif_pos, List.all_eq_true]
      exact fun i _ => ih i (same i)
    | _ => cases same
  | obj ks unique value ih =>
    cases t with
    | obj ks' unique' value' =>
      simp only [eqBy, Bool.and_eq_true, List.all_eq_true, decide_eq_true_eq]
      exact ⟨⟨fun k mem => (same k).1.mp mem, fun k mem => (same k).1.mpr mem⟩,
        fun k mem => ih k ((same k).2 mem)⟩
    | _ => cases same

/-- A program that compares scalars both ways alike compares documents so. -/
lemma eqBy_symm {eq : α → α → Bool} (symm : ∀ a b, eq a b = true → eq b a = true) {s t : Json κ α}
    (same : eqBy eq s t = true) : eqBy eq t s = true := by
  induction s generalizing t with
  | null =>
    cases t with
    | null => rfl
    | _ => cases same
  | atom a =>
    cases t with
    | atom b => exact symm a b same
    | _ => cases same
  | arr size item ih =>
    cases t with
    | arr size' item' =>
      by_cases sizes : size = size'
      · subst sizes
        simp only [eqBy, dif_pos, List.all_eq_true] at same ⊢
        exact fun i mem => ih i (same i mem)
      · simp only [eqBy, dif_neg sizes] at same
        cases same
    | _ => cases same
  | obj ks unique value ih =>
    cases t with
    | obj ks' unique' value' =>
      simp only [eqBy, Bool.and_eq_true, List.all_eq_true, decide_eq_true_eq] at same ⊢
      obtain ⟨⟨left, right⟩, each⟩ := same
      exact ⟨⟨right, left⟩, fun k mem => ih k (each k (right k mem))⟩
    | _ => cases same

/-- What a program takes for a document it takes for the same document. -/
lemma eqBy_same {eq : α → α → Bool} {s t t' : Json κ α} (taken : eqBy eq s t = true)
    (same : Same t t') : eqBy eq s t' = true := by
  induction s generalizing t t' with
  | null =>
    cases t with
    | null =>
      cases t' with
      | null => rfl
      | _ => cases same
    | _ => cases taken
  | atom a =>
    cases t with
    | atom b =>
      cases t' with
      | atom c =>
        obtain rfl := same
        exact taken
      | _ => cases same
    | _ => cases taken
  | arr size item ih =>
    cases t with
    | arr size' item' =>
      cases t' with
      | arr size'' item'' =>
        obtain ⟨rfl, same⟩ := same
        by_cases sizes : size = size'
        · subst sizes
          simp only [eqBy, dif_pos, List.all_eq_true] at taken ⊢
          exact fun i mem => ih i (taken i mem) (same i)
        · simp only [eqBy, dif_neg sizes] at taken
          cases taken
      | _ => cases same
    | _ => cases taken
  | obj ks unique value ih =>
    cases t with
    | obj ks' unique' value' =>
      cases t' with
      | obj ks'' unique'' value'' =>
        simp only [eqBy, Bool.and_eq_true, List.all_eq_true, decide_eq_true_eq] at taken ⊢
        obtain ⟨⟨left, right⟩, each⟩ := taken
        exact ⟨⟨fun k mem => (same k).1.mp (left k mem), fun k mem => right k ((same k).1.mpr mem)⟩,
          fun k mem => ih k (each k mem) ((same k).2 (left k mem))⟩
      | _ => cases same
    | _ => cases taken

end Tacker.Basis.Json
