import Tacker.Patch.Rfc7396
import Mathlib.Data.Set.Lattice
import Mathlib.Algebra.Order.BigOperators.Group.List
import Mathlib.Algebra.Order.Group.Nat
import Mathlib.Order.CompletePartialOrder

/-!
# Merging in place

`json_merge_patch` of `common/vnf_instance_utils.py`, which `common/utils.py` has too, on
dictionaries that live in a heap: the target is changed in place, and a dictionary that the target
does not have is made. What is not a dictionary is never changed.
-/

namespace Tacker.Patch

open Tacker.Basis

variable {κ α : Type}

/-! ## The heap -/

/-- A value: a reference to a dictionary, or a document that is none. -/
inductive Val (κ α : Type) where
  | ref (r : Nat)
  | leaf (t : Json κ α)

/-- A dictionary in the heap, with its keys in the order in which they were added. -/
structure Dict (κ α : Type) where
  keys : List κ
  unique : keys.Nodup
  value : κ → Val κ α

/-- The dictionaries by their references; those from `next` on are not made yet. -/
structure Heap (κ α : Type) where
  dicts : Nat → Dict κ α
  next : Nat

namespace Dict

/-- `{}`. -/
def empty : Dict κ α where
  keys := []
  unique := List.nodup_nil
  value _ := .leaf .null

variable [DecidableEq κ]

/-- `d.get(key)`. -/
def get (d : Dict κ α) (key : κ) : Val κ α :=
  if key ∈ d.keys then d.value key else .leaf .null

lemma nodup_add (d : Dict κ α) (key : κ) :
    (if key ∈ d.keys then d.keys else d.keys ++ [key]).Nodup := by
  by_cases mem : key ∈ d.keys
  · rw [if_pos mem]
    exact d.unique
  · rw [if_neg mem]
    apply List.Nodup.append d.unique (List.nodup_singleton key)
    simpa using mem

/-- `d[key] = v`. -/
def set (d : Dict κ α) (key : κ) (v : Val κ α) : Dict κ α where
  keys := if key ∈ d.keys then d.keys else d.keys ++ [key]
  unique := d.nodup_add key
  value := Function.update d.value key v

/-- `del d[key]`, if the key is there. -/
def del (d : Dict κ α) (key : κ) : Dict κ α where
  keys := d.keys.erase key
  unique := d.unique.erase key
  value := d.value

end Dict

namespace Heap

/-- The dictionary of the reference is changed. -/
def change (h : Heap κ α) (r : Nat) (d : Dict κ α) : Heap κ α :=
  { h with dicts := Function.update h.dicts r d }

/-- The target if it is a dictionary, and else a new empty one. -/
def asDict (h : Heap κ α) : Val κ α → Heap κ α × Nat
  | .ref r => (h, r)
  | .leaf _ => ({ dicts := Function.update h.dicts h.next .empty, next := h.next + 1 }, h.next)

end Heap

/-! ## The function -/

variable [DecidableEq κ]

/-- `value is None`. -/
def Val.isNone : Val κ α → Bool
  | .leaf t => t.isNull
  | .ref _ => false

/-- One turn of the loop over the items of the patch; `merge` is the recursive call. -/
def patchItem (merge : Heap κ α → Val κ α → Val κ α → Option (Heap κ α × Val κ α)) (target : Nat)
    (h : Heap κ α) (key : κ) (value : Val κ α) : Option (Heap κ α) :=
  if value.isNone then some (h.change target ((h.dicts target).del key))
  else
    (merge h ((h.dicts target).get key) value).map fun (h, v) =>
      h.change target ((h.dicts target).set key v)

/-- `json_merge_patch`, with a bound on the depth of the calls. -/
def jsonMergePatch : Nat → Heap κ α → Val κ α → Val κ α → Option (Heap κ α × Val κ α)
  | 0, _, _, _ => none
  | _ + 1, h, _, .leaf t => some (h, .leaf t)
  | fuel + 1, h, target, .ref p =>
    let (h, target) := h.asDict target
    ((h.dicts p).keys.foldlM (fun h key =>
      patchItem (jsonMergePatch fuel) target h key ((h.dicts p).value key)) h).map fun h =>
        (h, .ref target)

/-! ## What a value stands for -/

/-- The value stands for the document, and has the references of the set; a dictionary has no
reference that is in it twice. -/
def Denotes (h : Heap κ α) : Json κ α → Val κ α → Set Nat → Prop
  | .obj keys _ value, v, S => ∃ (r : Nat) (parts : κ → Set Nat),
      v = .ref r ∧ (h.dicts r).keys = keys ∧ r < h.next ∧
      (∀ k, k ∈ keys → Denotes h (value k) ((h.dicts r).value k) (parts k)) ∧
      (∀ k, k ∉ keys → parts k = ∅) ∧ (∀ k k', k ≠ k' → Disjoint (parts k) (parts k')) ∧
      (∀ k, r ∉ parts k) ∧ S = insert r (⋃ k, parts k)
  | t, v, S => v = .leaf t ∧ S = ∅

/-- The dictionary of a reference stands for a document that is one, with the references of each
member. -/
structure Dictionary (h : Heap κ α) (t : Json κ α) (r : Nat) (parts : κ → Set Nat) : Prop where
  dict : t.isDict = true
  keys : (h.dicts r).keys = t.keys
  made : r < h.next
  member : ∀ k v, t.get? k = some v → Denotes h v ((h.dicts r).value k) (parts k)
  absent : ∀ k, t.get? k = none → parts k = ∅
  apart : ∀ k k', k ≠ k' → Disjoint (parts k) (parts k')
  outside : ∀ k, r ∉ parts k

variable {h h' : Heap κ α} {t p : Json κ α} {v target patch : Val κ α} {S T P : Set Nat} {r : Nat}
  {parts : κ → Set Nat}

omit [DecidableEq κ] in
lemma denotes_leaf (notDict : t.isDict = false) : Denotes h t v S ↔ v = .leaf t ∧ S = ∅ := by
  cases t with
  | obj keys unique value => cases notDict
  | _ => exact Iff.rfl

lemma denotes_dict (dict : t.isDict = true) :
    Denotes h t v S ↔ ∃ r parts, v = .ref r ∧ Dictionary h t r parts ∧
      S = insert r (⋃ k, parts k) := by
  cases t with
  | obj keys unique value =>
    have found (k : κ) : (Json.obj keys unique value).get? k =
        if k ∈ keys then some (value k) else none := rfl
    constructor
    · rintro ⟨r, parts, isRef, isKeys, made, member, absent, apart, outside, rfl⟩
      refine ⟨r, parts, isRef, ⟨rfl, isKeys, made, ?_, ?_, apart, outside⟩, rfl⟩
      · intro k v get
        obtain ⟨mem, isValue⟩ := Option.ite_none_right_eq_some.mp get
        rw [← Option.some.inj isValue]
        exact member k mem
      · intro k get
        apply absent
        intro mem
        rw [found, if_pos mem] at get
        cases get
    · rintro ⟨r, parts, isRef, d, rfl⟩
      refine ⟨r, parts, isRef, d.keys, d.made, ?_, ?_, d.apart, d.outside, rfl⟩
      · intro k mem
        exact d.member k _ (if_pos mem)
      · intro k notMem
        exact d.absent k (if_neg notMem)
  | _ => cases dict

omit [DecidableEq κ] in
/-- Only the references of a value tell what it stands for. -/
lemma Denotes.frame (denotes : Denotes h t v S) (same : ∀ r ∈ S, h'.dicts r = h.dicts r)
    (next : h.next ≤ h'.next) : Denotes h' t v S := by
  induction t generalizing v S with
  | obj keys unique value ih =>
    obtain ⟨r, parts, isRef, isKeys, made, member, absent, apart, outside, rfl⟩ := denotes
    have here := same r (Set.mem_insert _ _)
    refine ⟨r, parts, isRef, ?_, lt_of_lt_of_le made next, ?_, absent, apart, outside, rfl⟩
    · rw [here]
      exact isKeys
    · intro k mem
      rw [here]
      apply ih k (member k mem)
      intro r' mem'
      exact same r' (Set.mem_insert_of_mem _ (Set.mem_iUnion.mpr ⟨k, mem'⟩))
  | null => exact denotes
  | atom value => exact denotes
  | arr size item => exact denotes

omit [DecidableEq κ] in
/-- The references of a value are made. -/
lemma Denotes.made (denotes : Denotes h t v S) (mem : r ∈ S) : r < h.next := by
  induction t generalizing v S with
  | obj keys unique value ih =>
    obtain ⟨r', parts, -, -, made, member, absent, -, -, rfl⟩ := denotes
    rcases Set.mem_insert_iff.mp mem with rfl | mem
    · exact made
    · obtain ⟨k, mem⟩ := Set.mem_iUnion.mp mem
      by_cases isKey : k ∈ keys
      · exact ih k (member k isKey) mem
      · rw [absent k isKey] at mem
        cases mem
  | null => rw [denotes.2] at mem; cases mem
  | atom value => rw [denotes.2] at mem; cases mem
  | arr size item => rw [denotes.2] at mem; cases mem

/-! ## Changes of the heap -/

/-- The references of a dictionary and of its members. -/
def footprint (r : Nat) (parts : κ → Set Nat) : Set Nat :=
  insert r (⋃ k, parts k)

omit [DecidableEq κ] in
lemma mem_footprint {x : Nat} : x ∈ footprint r parts ↔ x = r ∨ ∃ k, x ∈ parts k := by
  rw [footprint, Set.mem_insert_iff, Set.mem_iUnion]

/-- Of the dictionaries that were made, only those of the first set have changed, and the second set
has otherwise only new ones. -/
structure Within (h : Heap κ α) (T : Set Nat) (h' : Heap κ α) (T' : Set Nat) : Prop where
  next : h.next ≤ h'.next
  same : ∀ x, x < h.next → x ∉ T → h'.dicts x = h.dicts x
  old : ∀ x ∈ T', x ∈ T ∨ h.next ≤ x

omit [DecidableEq κ] in
lemma Within.refl (h : Heap κ α) (T : Set Nat) : Within h T h T :=
  ⟨le_rfl, fun _ _ _ => rfl, fun _ mem => .inl mem⟩

omit [DecidableEq κ] in
lemma Within.trans {h₁ h₂ h₃ : Heap κ α} {T₁ T₂ T₃ : Set Nat} (first : Within h₁ T₁ h₂ T₂)
    (second : Within h₂ T₂ h₃ T₃) : Within h₁ T₁ h₃ T₃ := by
  constructor
  · exact le_trans first.next second.next
  · intro x made other
    rw [second.same x (lt_of_lt_of_le made first.next), first.same x made other]
    intro mem
    rcases first.old x mem with mem | new
    · exact other mem
    · exact absurd made (not_lt.mpr new)
  · intro x mem
    rcases second.old x mem with mem | new
    · exact first.old x mem
    · exact .inr (le_trans first.next new)

omit [DecidableEq κ] in
/-- A value that shares nothing with what was changed stands for the same document. -/
lemma Denotes.within (denotes : Denotes h t v S) (within : Within h T h' P)
    (apart : Disjoint S T) : Denotes h' t v S := by
  apply denotes.frame _ within.next
  intro x mem
  exact within.same x (denotes.made mem) (Set.disjoint_left.mp apart mem)

omit [DecidableEq κ] in
lemma Within.disjoint (within : Within h T h' P) (made : ∀ x ∈ S, x < h.next)
    (apart : Disjoint S T) : Disjoint S P := by
  apply Set.disjoint_left.mpr
  intro x mem mem'
  rcases within.old x mem' with old | new
  · exact Set.disjoint_left.mp apart mem old
  · exact absurd (made x mem) (not_lt.mpr new)

omit [DecidableEq κ] in
lemma dicts_change {d : Dict κ α} {x : Nat} (ne : x ≠ r) : (h.change r d).dicts x = h.dicts x :=
  Function.update_of_ne ne _ _

omit [DecidableEq κ] in
lemma dicts_change_self {d : Dict κ α} : (h.change r d).dicts r = d :=
  Function.update_self _ _ _

omit [DecidableEq κ] in
/-- A change of a dictionary that is not its own leaves what a value stands for. -/
lemma Denotes.change (denotes : Denotes h t v S) (outside : r ∉ S) (d : Dict κ α) :
    Denotes (h.change r d) t v S := by
  apply denotes.frame
  · intro x mem
    apply dicts_change
    rintro rfl
    exact outside mem
  · exact le_rfl

/-- A member of a dictionary is deleted. -/
lemma Dictionary.del (d : Dictionary h t r parts) (k : κ) :
    Dictionary (h.change r ((h.dicts r).del k)) (t.del k) r (Function.update parts k ∅) := by
  constructor
  · rw [Json.isDict_del, d.dict]
  · rw [dicts_change_self]
    show (h.dicts r).keys.erase k = _
    rw [d.keys]
    cases t with
    | obj keys unique value => rfl
    | _ => cases d.dict
  · exact d.made
  · intro k' v found
    rw [Json.get?_del] at found
    obtain ⟨ne, found⟩ := Option.ite_none_left_eq_some.mp found
    rw [dicts_change_self, Function.update_of_ne ne]
    exact (d.member k' v found).change (d.outside k') _
  · intro k' absent
    rw [Json.get?_del] at absent
    by_cases same : k' = k
    · rw [same, Function.update_self]
    · rw [if_neg same] at absent
      rw [Function.update_of_ne same]
      exact d.absent k' absent
  · intro k₁ k₂ ne
    by_cases first : k₁ = k
    · rw [first, Function.update_self]
      exact Set.empty_disjoint _
    · by_cases second : k₂ = k
      · rw [second, Function.update_self]
        exact Set.disjoint_empty _
      · rw [Function.update_of_ne first, Function.update_of_ne second]
        exact d.apart k₁ k₂ ne
  · intro k'
    by_cases same : k' = k
    · rw [same, Function.update_self]
      exact Set.notMem_empty r
    · rw [Function.update_of_ne same]
      exact d.outside k'

/-- A member of a dictionary is set, after only its old value was changed. -/
lemma Dictionary.set (d : Dictionary h t r parts) {k : κ} (within : Within h (parts k) h' T)
    {w : Json κ α} {u : Val κ α} (denotes : Denotes h' w u T) :
    Dictionary (h'.change r ((h'.dicts r).set k u)) (t.set k w) r (Function.update parts k T) := by
  have sameR : h'.dicts r = h.dicts r := within.same r d.made (d.outside k)
  have outside : r ∉ T := by
    intro mem
    rcases within.old r mem with old | new
    · exact d.outside k old
    · exact absurd d.made (not_lt.mpr new)
  have made (k' : κ) : ∀ x ∈ parts k', x < h.next := by
    intro x mem
    cases found : t.get? k' with
    | none =>
      rw [d.absent k' found] at mem
      cases mem
    | some v => exact (d.member k' v found).made mem
  have apart (k' : κ) (ne : k' ≠ k) : Disjoint (parts k') T :=
    within.disjoint (made k') (d.apart k' k ne)
  constructor
  · rw [Json.isDict_set, d.dict]
  · rw [dicts_change_self, sameR]
    show (if k ∈ (h.dicts r).keys then (h.dicts r).keys else (h.dicts r).keys ++ [k]) = _
    rw [d.keys]
    cases t with
    | obj keys unique value => rfl
    | _ => cases d.dict
  · exact lt_of_lt_of_le d.made within.next
  · intro k' v found
    rw [Json.get?_set d.dict] at found
    rw [dicts_change_self]
    show Denotes _ v (Function.update (h'.dicts r).value k u k') _
    by_cases same : k' = k
    · rw [if_pos same] at found
      obtain rfl := Option.some.inj found
      rw [same, Function.update_self, Function.update_self]
      exact denotes.change outside _
    · rw [if_neg same] at found
      have kept := (d.member k' v found).within within (d.apart k' k same)
      rw [Function.update_of_ne same, Function.update_of_ne same]
      rw [← sameR] at kept
      exact kept.change (d.outside k') _
  · intro k' absent
    rw [Json.get?_set d.dict] at absent
    by_cases same : k' = k
    · rw [if_pos same] at absent
      cases absent
    · rw [if_neg same] at absent
      rw [Function.update_of_ne same]
      exact d.absent k' absent
  · intro k₁ k₂ ne
    by_cases first : k₁ = k
    · have second : k₂ ≠ k := fun same => ne (first.trans same.symm)
      rw [first, Function.update_self, Function.update_of_ne second]
      exact (apart k₂ second).symm
    · by_cases second : k₂ = k
      · rw [second, Function.update_self, Function.update_of_ne first]
        exact apart k₁ first
      · rw [Function.update_of_ne first, Function.update_of_ne second]
        exact d.apart k₁ k₂ ne
  · intro k'
    by_cases same : k' = k
    · rw [same, Function.update_self]
      exact outside
    · rw [Function.update_of_ne same]
      exact d.outside k'

/-- The target, or a new dictionary in its place, stands for the target as a dictionary. -/
lemma Denotes.asDict (denotes : Denotes h t target T) :
    ∃ parts, Dictionary (h.asDict target).1 t.asDict (h.asDict target).2 parts ∧
      Within h T (h.asDict target).1 (footprint (h.asDict target).2 parts) := by
  cases dict : t.isDict with
  | true =>
    obtain ⟨r, parts, rfl, d, rfl⟩ := (denotes_dict dict).mp denotes
    refine ⟨parts, ?_, Within.refl _ _⟩
    rw [Json.asDict_of_isDict dict]
    exact d
  | false =>
    obtain ⟨rfl, rfl⟩ := (denotes_leaf dict).mp denotes
    have isEmpty : t.asDict = .empty := by
      cases t with
      | obj keys unique value => cases dict
      | _ => rfl
    refine ⟨fun _ => ∅, ?_, ?_⟩
    · rw [isEmpty]
      constructor
      · rfl
      · show (Function.update h.dicts h.next Dict.empty h.next).keys = _
        rw [Function.update_self]
        rfl
      · exact Nat.lt_succ_self _
      · intro k v found
        cases found
      · exact fun _ _ => rfl
      · exact fun _ _ _ => Set.disjoint_empty _
      · exact fun _ => Set.notMem_empty _
    · constructor
      · exact Nat.le_succ _
      · intro x made _
        exact Function.update_of_ne (Nat.ne_of_lt made) _ _
      · intro x mem
        rcases mem_footprint.mp mem with rfl | ⟨k, mem⟩
        · exact .inr le_rfl
        · cases mem

/-! ## The loop -/

/-- How deep the dictionaries of a document are nested, or more. -/
def depth : Json κ α → Nat
  | .obj keys _ value => (keys.map fun k => depth (value k)).sum + 1
  | _ => 0

/-- The merge of two values is a value for the merged document, and has changed only the target. -/
def Merges (merge : Heap κ α → Val κ α → Val κ α → Option (Heap κ α × Val κ α)) (p : Json κ α) :
    Prop :=
  ∀ h t target patch T P, Denotes h t target T → Denotes h p patch P → Disjoint P T →
    ∃ h' v T', merge h target patch = some (h', v) ∧ Denotes h' (t.jsonMergePatch p) v T' ∧
      Within h T h' T'

/-- A member of the patch is merged into the document. -/
def mergeItem (t : Json κ α) (k : κ) (w : Json κ α) : Json κ α :=
  if w.isNull then t.del k else t.set k (((t.get? k).getD .null).jsonMergePatch w)

lemma Denotes.isNone (denotes : Denotes h t v S) : v.isNone = t.isNull := by
  cases dict : t.isDict with
  | true =>
    obtain ⟨r, parts, rfl, -, -⟩ := (denotes_dict dict).mp denotes
    rw [Json.isNull_of_isDict dict]
    rfl
  | false =>
    obtain ⟨rfl, -⟩ := (denotes_leaf dict).mp denotes
    rfl

/-- What a dictionary has for a key, or `None`. -/
lemma Dictionary.get (d : Dictionary h t r parts) (k : κ) :
    Denotes h ((t.get? k).getD .null) ((h.dicts r).get k) (parts k) := by
  have mem : k ∈ (h.dicts r).keys ↔ (t.get? k).isSome = true := by
    rw [d.keys, Json.mem_keys_iff]
  cases found : t.get? k with
  | none =>
    have notMem : k ∉ (h.dicts r).keys := by
      rw [mem, found]
      exact Bool.false_ne_true
    rw [Dict.get, if_neg notMem, d.absent k found]
    exact ⟨rfl, rfl⟩
  | some v =>
    have isMem : k ∈ (h.dicts r).keys := by
      rw [mem, found]
      rfl
    rw [Dict.get, if_pos isMem]
    exact d.member k v found

lemma footprint_update {k : κ} {T : Set Nat} {x : Nat}
    (mem : x ∈ footprint r (Function.update parts k T)) : x ∈ footprint r parts ∨ x ∈ T := by
  rcases mem_footprint.mp mem with rfl | ⟨k', mem⟩
  · exact .inl (mem_footprint.mpr (.inl rfl))
  · by_cases same : k' = k
    · rw [same, Function.update_self] at mem
      exact .inr mem
    · rw [Function.update_of_ne same] at mem
      exact .inl (mem_footprint.mpr (.inr ⟨k', mem⟩))

/-- One turn of the loop. -/
lemma patchItem_denotes {merge : Heap κ α → Val κ α → Val κ α → Option (Heap κ α × Val κ α)}
    {w : Json κ α} {u : Val κ α} (merges : Merges merge w) (d : Dictionary h t r parts) (k : κ)
    (denotes : Denotes h w u P) (apart : Disjoint P (footprint r parts)) :
    ∃ h' parts', patchItem merge r h k u = some h' ∧
      Dictionary h' (mergeItem t k w) r parts' ∧
      Within h (footprint r parts) h' (footprint r parts') := by
  rw [patchItem, denotes.isNone, mergeItem]
  cases isNull : w.isNull with
  | true =>
    refine ⟨_, Function.update parts k ∅, rfl, d.del k, le_rfl, ?_, ?_⟩
    · intro x _ other
      apply dicts_change
      rintro rfl
      exact other (mem_footprint.mpr (.inl rfl))
    · intro x mem
      rcases footprint_update mem with mem | mem
      · exact .inl mem
      · cases mem
  | false =>
    have apartPart : Disjoint P (parts k) := by
      apply apart.mono_right
      exact fun x mem => mem_footprint.mpr (.inr ⟨k, mem⟩)
    obtain ⟨h', v, T', made, merged, within⟩ := merges h _ _ _ _ _ (d.get k) denotes apartPart
    refine ⟨h'.change r ((h'.dicts r).set k v), Function.update parts k T', ?_,
      d.set within merged, within.next, ?_, ?_⟩
    · simp only [Bool.false_eq_true, if_false, made]
      rfl
    · intro x made other
      have ne : x ≠ r := by
        rintro rfl
        exact other (mem_footprint.mpr (.inl rfl))
      rw [dicts_change ne]
      exact within.same x made fun mem => other (mem_footprint.mpr (.inr ⟨k, mem⟩))
    · intro x mem
      rcases footprint_update mem with mem | mem
      · exact .inl mem
      · rcases within.old x mem with old | new
        · exact .inl (mem_footprint.mpr (.inr ⟨k, old⟩))
        · exact .inr new

/-- The loop over the items of the patch, which is the dictionary of the reference `q`. -/
lemma loop_denotes {merge : Heap κ α → Val κ α → Val κ α → Option (Heap κ α × Val κ α)} {q : Nat}
    {ks : List κ} {value : κ → Json κ α} {sets : κ → Set Nat}
    (merges : ∀ k ∈ ks, Merges merge (value k)) (d : Dictionary h t r parts)
    (made : q < h.next) (other : q ∉ footprint r parts)
    (denotes : ∀ k ∈ ks, Denotes h (value k) ((h.dicts q).value k) (sets k))
    (apart : ∀ k ∈ ks, Disjoint (sets k) (footprint r parts)) :
    ∃ h' parts',
      ks.foldlM (fun h k => patchItem merge r h k ((h.dicts q).value k)) h = some h' ∧
      Dictionary h' (ks.foldl (fun t k => mergeItem t k (value k)) t) r parts' ∧
      Within h (footprint r parts) h' (footprint r parts') := by
  induction ks generalizing h t parts with
  | nil => exact ⟨h, parts, rfl, d, Within.refl _ _⟩
  | cons k ks ih =>
    obtain ⟨h₁, parts₁, patched, d₁, within⟩ := patchItem_denotes (merges k List.mem_cons_self) d k
      (denotes k List.mem_cons_self) (apart k List.mem_cons_self)
    have other₁ : q ∉ footprint r parts₁ := by
      intro mem
      rcases within.old q mem with old | new
      · exact other old
      · exact absurd made (not_lt.mpr new)
    have later (k' : κ) (mem : k' ∈ ks) :
        Denotes h₁ (value k') ((h₁.dicts q).value k') (sets k') := by
      rw [within.same q made other]
      exact (denotes k' (List.mem_cons_of_mem k mem)).within within
        (apart k' (List.mem_cons_of_mem k mem))
    have apart₁ (k' : κ) (mem : k' ∈ ks) : Disjoint (sets k') (footprint r parts₁) := by
      apply within.disjoint _ (apart k' (List.mem_cons_of_mem k mem))
      exact fun x isIn => (denotes k' (List.mem_cons_of_mem k mem)).made isIn
    obtain ⟨h', parts', rest, d', within'⟩ := ih
      (fun k' mem => merges k' (List.mem_cons_of_mem k mem)) d₁
      (lt_of_lt_of_le made within.next) other₁ later apart₁
    refine ⟨h', parts', ?_, d', within.trans within'⟩
    rw [List.foldlM_cons, patched]
    exact rest

lemma jsonMergePatch_ref (fuel : Nat) (h : Heap κ α) (target : Val κ α) (q : Nat) :
    jsonMergePatch (fuel + 1) h target (.ref q) =
      (((h.asDict target).1.dicts q).keys.foldlM (fun h' key =>
        patchItem (jsonMergePatch fuel) (h.asDict target).2 h' key ((h'.dicts q).value key))
        (h.asDict target).1).map fun h' => (h', .ref (h.asDict target).2) :=
  rfl

/-- With enough fuel, the function merges the documents that the values stand for. -/
lemma jsonMergePatch_merges (p : Json κ α) {fuel : Nat} (enough : depth p < fuel) :
    Merges (jsonMergePatch fuel) p := by
  induction p generalizing fuel with
  | obj keys unique value ih =>
    intro h t target patch T P denotes patched apart
    cases fuel with
    | zero => cases enough
    | succ fuel =>
      obtain ⟨q, sets, rfl, dq, rfl⟩ := (denotes_dict rfl).mp patched
      obtain ⟨parts, d, within⟩ := denotes.asDict
      have below (k : κ) (mem : k ∈ keys) : depth (value k) < fuel := by
        have le : depth (value k) ≤ (keys.map fun k => depth (value k)).sum :=
          List.le_sum_of_mem (List.mem_map_of_mem mem)
        have enough : (keys.map fun k => depth (value k)).sum + 1 < fuel + 1 := enough
        omega
      have notQ : q ∉ T := Set.disjoint_left.mp apart (mem_footprint.mpr (.inl rfl))
      have isQ : (h.asDict target).1.dicts q = h.dicts q := within.same q dq.made notQ
      have isKeys : (h.dicts q).keys = keys := dq.keys
      have setApart (k : κ) : Disjoint (sets k) T := by
        apply apart.mono_left
        exact fun x mem => mem_footprint.mpr (.inr ⟨k, mem⟩)
      have item (k : κ) (mem : k ∈ keys) :
          Denotes h (value k) ((h.dicts q).value k) (sets k) :=
        dq.member k _ (if_pos mem)
      have itemApart (k : κ) (mem : k ∈ keys) :
          Disjoint (sets k) (footprint (h.asDict target).2 parts) := by
        apply within.disjoint _ (setApart k)
        exact fun x isIn => (item k mem).made isIn
      have other : q ∉ footprint (h.asDict target).2 parts := by
        intro mem
        rcases within.old q mem with old | new
        · exact notQ old
        · exact absurd dq.made (not_lt.mpr new)
      have items (k : κ) (mem : k ∈ keys) : Denotes (h.asDict target).1 (value k)
          (((h.asDict target).1.dicts q).value k) (sets k) := by
        rw [isQ]
        exact (item k mem).within within (setApart k)
      obtain ⟨h', parts', looped, d', within'⟩ := loop_denotes
        (fun k mem => ih k (below k mem)) d (lt_of_lt_of_le dq.made within.next) other items
        itemApart
      refine ⟨h', .ref (h.asDict target).2, footprint (h.asDict target).2 parts', ?_, ?_,
        within.trans within'⟩
      · rw [jsonMergePatch_ref, isQ, isKeys, looped]
        rfl
      · apply (denotes_dict (by rw [Json.isDict_jsonMergePatch]; rfl)).mpr
        exact ⟨_, parts', rfl, d', rfl⟩
  | null | atom value | arr size item =>
    intro h t target patch T P denotes patched apart
    cases fuel with
    | zero => cases enough
    | succ fuel =>
      obtain ⟨rfl, rfl⟩ := patched
      refine ⟨h, _, ∅, rfl, ⟨rfl, rfl⟩, le_rfl, fun _ _ _ => rfl, ?_⟩
      intro x mem
      cases mem

end Tacker.Patch
