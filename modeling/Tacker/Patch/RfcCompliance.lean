import Tacker.Patch.JsonMergePatch

/-!
# The merge in place and RFC 7396

The function merges two documents as the RFC says, applied twice it changes nothing more, and the
dictionaries of the patch are left alone.
-/

namespace Tacker.Patch

open Tacker.Basis

variable {κ α : Type} [DecidableEq κ] {h h' : Heap κ α} {t p : Json κ α} {target patch : Val κ α}
  {T T' P : Set Nat} {fuel : Nat}

/-- A merge leaves a patch that shares nothing with the target, and still shares nothing. -/
lemma Denotes.patch_kept (patched : Denotes h p patch P) (apart : Disjoint P T)
    (within : Within h T h' T') :
    Denotes h' p patch P ∧ Disjoint P T' ∧ ∀ x ∈ P, h'.dicts x = h.dicts x := by
  refine ⟨patched.within within apart, ?_, ?_⟩
  · exact within.disjoint (fun x mem => patched.made mem) apart
  · intro x mem
    exact within.same x (patched.made mem) (Set.disjoint_left.mp apart mem)

/-- For a target and a patch that are documents of their own, the function returns, its result is
the one that the RFC asks for and has no null that the target does not have, the patch is not
modified, and to apply it once more returns the same document. -/
theorem jsonMergePatch_compliant (targeted : Denotes h t target T) (patched : Denotes h p patch P)
    (apart : Disjoint P T) (enough : depth p < fuel) :
    ∃ h₁ merged T₁ r, jsonMergePatch fuel h target patch = some (h₁, merged) ∧
      Denotes h₁ r merged T₁ ∧ MergePatch t p r ∧ (∀ r', MergePatch t p r' → r'.Same r) ∧
      (∀ path, path ≠ [] → r.at? path = some .null → t.at? path = some .null) ∧
      Denotes h₁ p patch P ∧ (∀ x ∈ P, h₁.dicts x = h.dicts x) ∧
      ∃ h₂ again T₂ r₂, jsonMergePatch fuel h₁ merged patch = some (h₂, again) ∧
        Denotes h₂ r₂ again T₂ ∧ r₂.Same r ∧
        Denotes h₂ p patch P ∧ ∀ x ∈ P, h₂.dicts x = h.dicts x := by
  obtain ⟨h₁, merged, T₁, returned, denotes, within⟩ :=
    jsonMergePatch_merges p enough h t target patch T P targeted patched apart
  obtain ⟨patched₁, apart₁, same₁⟩ := patched.patch_kept apart within
  obtain ⟨h₂, again, T₂, returned₂, denotes₂, within₂⟩ :=
    jsonMergePatch_merges p enough h₁ _ merged patch T₁ P denotes patched₁ apart₁
  obtain ⟨patched₂, -, same₂⟩ := patched₁.patch_kept apart₁ within₂
  have merge := mergePatch_jsonMergePatch t p
  refine ⟨h₁, merged, T₁, _, returned, denotes, merge, ?_, ?_, patched₁, same₁,
    h₂, again, T₂, _, returned₂, denotes₂, ?_, patched₂, ?_⟩
  · intro r' merge'
    apply merge'.unique merge
    exact fun k => Json.same_rel_refl _
  · intro path ne isNull
    exact merge.null_of_target ne isNull
  · exact merge.idempotent (mergePatch_jsonMergePatch _ p)
  · intro x mem
    rw [same₂ x mem, same₁ x mem]

/-! ## A target with one member, and a patch that deletes it -/

/-- A dictionary without dictionaries in it stands for a document. -/
lemma denotes_flat {t : Json κ α} {r : Nat} (dict : t.isDict = true)
    (keys : (h.dicts r).keys = t.keys) (made : r < h.next)
    (flat : ∀ k v, t.get? k = some v → v.isDict = false ∧ (h.dicts r).value k = .leaf v) :
    Denotes h t (.ref r) (footprint r fun _ : κ => ∅) := by
  apply (denotes_dict dict).mpr
  refine ⟨r, fun _ => ∅, rfl, ⟨dict, keys, made, ?_, fun _ _ => rfl, ?_, ?_⟩, rfl⟩
  · intro k v found
    obtain ⟨notDict, isLeaf⟩ := flat k v found
    exact (denotes_leaf notDict).mpr ⟨isLeaf, rfl⟩
  · exact fun _ _ _ => Set.disjoint_empty _
  · exact fun _ => Set.notMem_empty r

omit [DecidableEq κ] in
lemma disjoint_flat {r r' : Nat} (ne : r ≠ r') :
    Disjoint (footprint r fun _ : κ => ∅) (footprint r' fun _ : κ => ∅) := by
  apply Set.disjoint_left.mpr
  intro x mem mem'
  rcases mem_footprint.mp mem with rfl | ⟨_, mem⟩
  · rcases mem_footprint.mp mem' with same | ⟨_, mem'⟩
    · exact ne same
    · cases mem'
  · cases mem

/-- The dictionaries `{"a": 1}` and `{"a": None}`. -/
def deletion : Heap Char Nat where
  dicts r := if r = 0 then Dict.empty.set 'a' (.leaf (.atom 1)) else Dict.empty.set 'a' (.leaf .null)
  next := 2

/-- The patch deletes the member. -/
theorem deletion_compliant :
    ∃ h₁ merged T₁ r, jsonMergePatch 2 deletion (.ref 0) (.ref 1) = some (h₁, merged) ∧
      Denotes h₁ r merged T₁ ∧
      MergePatch (Json.empty.set 'a' (.atom 1)) (Json.empty.set 'a' .null) r := by
  have targeted : Denotes deletion (Json.empty.set 'a' (.atom 1)) (.ref 0)
      (footprint 0 fun _ : Char => ∅) := by
    apply denotes_flat rfl rfl (by decide)
    intro k v found
    rw [Json.get?_single] at found
    obtain ⟨rfl, found⟩ := Option.ite_none_right_eq_some.mp found
    rw [← Option.some.inj found]
    exact ⟨rfl, rfl⟩
  have patched : Denotes deletion (Json.empty.set 'a' .null) (.ref 1)
      (footprint 1 fun _ : Char => ∅) := by
    apply denotes_flat rfl rfl (by decide)
    intro k v found
    rw [Json.get?_single] at found
    obtain ⟨rfl, found⟩ := Option.ite_none_right_eq_some.mp found
    rw [← Option.some.inj found]
    exact ⟨rfl, rfl⟩
  obtain ⟨h₁, merged, T₁, r, returned, denotes, merge, -⟩ :=
    jsonMergePatch_compliant targeted patched (disjoint_flat (by decide))
      (show depth _ < 2 by decide)
  exact ⟨h₁, merged, T₁, r, returned, denotes, merge⟩

end Tacker.Patch
