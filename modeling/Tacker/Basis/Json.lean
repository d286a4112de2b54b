import Mathlib.Data.List.Nodup
import Mathlib.Logic.Function.Basic
import Tacker.Basis.Attempt

/-!
# Trees of dictionaries and JSON merge patch

The values a document is made of. A dictionary has no key twice by construction and keeps the order
in which its keys were added, as the loops over it see it; `Same` is the equality of documents,
which ignores that order. The merge patch of a document is followed by the rules that tell when a
patch changes nothing, when the patched document is the patch, and when applying a document as a
patch undoes an earlier patch.
-/

namespace Tacker.Basis

variable {κ α : Type}

/-- A value of a document, over keys and atoms. -/
inductive Json (κ α : Type) where
  | null
  | atom (value : α)
  | arr (size : Nat) (item : Fin size → Json κ α)
  | obj (keys : List κ) (unique : keys.Nodup) (value : κ → Json κ α)

namespace Json

/-! ## Dictionaries -/

/-- The value is `null`. -/
def isNull : Json κ α → Bool
  | null => true
  | _ => false

/-- The value is a dictionary. -/
def isDict : Json κ α → Bool
  | obj _ _ _ => true
  | _ => false

/-- The keys of a dictionary, in the order they were added. -/
def keys : Json κ α → List κ
  | obj ks _ _ => ks
  | _ => []

/-- The empty dictionary. -/
def empty : Json κ α :=
  obj [] List.nodup_nil fun _ => null

/-- The value itself if it is a dictionary, and the empty one otherwise. -/
def asDict : Json κ α → Json κ α
  | obj ks unique value => obj ks unique value
  | _ => empty

lemma unique_keys (t : Json κ α) : t.keys.Nodup := by
  cases t with
  | obj ks unique value => exact unique
  | _ => exact List.nodup_nil

@[simp] lemma isNull_null : (null : Json κ α).isNull = true := rfl
@[simp] lemma isNull_obj {ks : List κ} {unique : ks.Nodup} {value : κ → Json κ α} :
    (obj ks unique value).isNull = false := rfl
@[simp] lemma isDict_empty : (empty : Json κ α).isDict = true := rfl
@[simp] lemma keys_empty : (empty : Json κ α).keys = [] := rfl

lemma isNull_iff {t : Json κ α} : t.isNull = true ↔ t = null := by
  cases t <;> simp [isNull]

lemma isDict_asDict (t : Json κ α) : t.asDict.isDict = true := by
  cases t <;> rfl

lemma asDict_of_isDict {t : Json κ α} (dict : t.isDict = true) : t.asDict = t := by
  cases t with
  | obj ks unique value => rfl
  | _ => cases dict

/-! ## Equality of documents -/

/-- The same document: dictionaries with the same keys and the same values, in any order. -/
def Same : Json κ α → Json κ α → Prop
  | null, null => True
  | atom a, atom b => a = b
  | arr n item, arr m item' => ∃ eq : n = m, ∀ i, Same (item i) (item' (i.cast eq))
  | obj ks _ value, obj ks' _ value' =>
    ∀ k, (k ∈ ks ↔ k ∈ ks') ∧ (k ∈ ks → Same (value k) (value' k))
  | _, _ => False

lemma Same.refl (t : Json κ α) : Same t t := by
  induction t with
  | null => trivial
  | atom value => rfl
  | arr size item ih => exact ⟨rfl, ih⟩
  | obj ks unique value ih => exact fun k => ⟨Iff.rfl, fun _ => ih k⟩

lemma Same.symm {s t : Json κ α} (same : Same s t) : Same t s := by
  induction s generalizing t with
  | null => cases t <;> simp_all [Same]
  | atom value => cases t <;> simp_all [Same]
  | arr size item ih =>
    cases t with
    | arr size' item' =>
      obtain ⟨rfl, same⟩ := same
      exact ⟨rfl, fun i => ih i (same i)⟩
    | _ => cases same
  | obj ks unique value ih =>
    cases t with
    | obj ks' unique' value' =>
      exact fun k => ⟨(same k).1.symm, fun mem => ih k ((same k).2 ((same k).1.mpr mem))⟩
    | _ => cases same

lemma Same.trans {r s t : Json κ α} (first : Same r s) (second : Same s t) : Same r t := by
  induction r generalizing s t with
  | null => cases s <;> cases t <;> simp_all [Same]
  | atom value => cases s <;> cases t <;> simp_all [Same]
  | arr size item ih =>
    cases s with
    | arr size' item' =>
      cases t with
      | arr size'' item'' =>
        obtain ⟨rfl, first⟩ := first
        obtain ⟨rfl, second⟩ := second
        exact ⟨rfl, fun i => ih i (first i) (second i)⟩
      | _ => cases second
    | _ => cases first
  | obj ks unique value ih =>
    cases s with
    | obj ks' unique' value' =>
      cases t with
      | obj ks'' unique'' value'' =>
        intro k
        refine ⟨(first k).1.trans (second k).1, fun mem => ?_⟩
        exact ih k ((first k).2 mem) ((second k).2 ((first k).1.mp mem))
      | _ => cases second
    | _ => cases first

lemma Same.isDict {s t : Json κ α} (same : Same s t) : s.isDict = t.isDict := by
  cases s <;> cases t <;> first | rfl | cases same

lemma Same.isNull {s t : Json κ α} (same : Same s t) : s.isNull = t.isNull := by
  cases s <;> cases t <;> first | rfl | cases same

/-! ## Reading and writing -/

variable [DecidableEq κ]

/-- The value of the key, if it is there. -/
def get? : Json κ α → κ → Option (Json κ α)
  | obj ks _ value, k => if k ∈ ks then some (value k) else none
  | _, _ => none

private lemma nodup_add {ks : List κ} (unique : ks.Nodup) (k : κ) :
    (if k ∈ ks then ks else ks ++ [k]).Nodup := by
  by_cases mem : k ∈ ks
  · simpa [mem] using unique
  · simp only [mem, if_false]
    apply List.Nodup.append unique (List.nodup_singleton k)
    simpa using mem

/-- `t[k] = v`; only a dictionary has keys. -/
def set : Json κ α → κ → Json κ α → Json κ α
  | obj ks unique value, k, v =>
    obj (if k ∈ ks then ks else ks ++ [k]) (nodup_add unique k) (Function.update value k v)
  | t, _, _ => t

/-- `del t[k]` if the key is there. -/
def del : Json κ α → κ → Json κ α
  | obj ks unique value, k => obj (ks.erase k) (unique.erase k) value
  | t, _ => t

/-- The dictionary of the entries, added one after the other. -/
def dict (entries : List (κ × Json κ α)) : Json κ α :=
  entries.foldl (fun t entry => t.set entry.1 entry.2) empty

/-- The list of the values. -/
def list (values : List (Json κ α)) : Json κ α :=
  arr values.length fun i => values.get i

/-- The value at the end of a path of keys. -/
def at? : Json κ α → List κ → Option (Json κ α)
  | t, [] => some t
  | t, k :: path => (t.get? k).bind fun v => v.at? path

@[simp] lemma get?_null (k : κ) : (null : Json κ α).get? k = none := rfl
@[simp] lemma get?_empty (k : κ) : (empty : Json κ α).get? k = none := rfl

lemma isDict_of_get? {t v : Json κ α} {k : κ} (found : t.get? k = some v) : t.isDict = true := by
  cases t with
  | obj ks unique value => rfl
  | _ => cases found

lemma mem_keys_iff {t : Json κ α} {k : κ} : k ∈ t.keys ↔ (t.get? k).isSome = true := by
  cases t with
  | obj ks unique value => by_cases mem : k ∈ ks <;> simp [keys, get?, mem]
  | _ => simp [keys, get?]

@[simp] lemma isDict_set {t v : Json κ α} {k : κ} : (t.set k v).isDict = t.isDict := by
  cases t <;> rfl

@[simp] lemma isDict_del {t : Json κ α} {k : κ} : (t.del k).isDict = t.isDict := by
  cases t <;> rfl

/-- A dictionary that was written at a key has the value there and is as before elsewhere. -/
lemma get?_set {t v : Json κ α} {k k' : κ} (dict : t.isDict = true) :
    (t.set k v).get? k' = if k' = k then some v else t.get? k' := by
  cases t with
  | obj ks unique value =>
    by_cases same : k' = k
    · subst same
      by_cases mem : k' ∈ ks <;> simp [set, get?, mem]
    · by_cases mem : k ∈ ks <;> simp [set, get?, mem, same, Function.update_of_ne]
  | _ => cases dict

/-- A dictionary with one member. -/
@[simp] lemma get?_single {k k' : κ} {v : Json κ α} :
    (empty.set k v).get? k' = if k' = k then some v else none :=
  get?_set isDict_empty

/-- A dictionary with two members. -/
@[simp] lemma get?_double {k₁ k₂ k' : κ} {v₁ v₂ : Json κ α} :
    ((empty.set k₁ v₁).set k₂ v₂).get? k' =
      if k' = k₂ then some v₂ else if k' = k₁ then some v₁ else none := by
  rw [get?_set rfl, get?_single]

/-- A dictionary lost the key and is as before elsewhere. -/
lemma get?_del {t : Json κ α} {k k' : κ} :
    (t.del k).get? k' = if k' = k then none else t.get? k' := by
  cases t with
  | obj ks unique value =>
    by_cases same : k' = k
    · subst same
      simp [del, get?, unique.not_mem_erase]
    · simp [del, get?, same, List.mem_erase_of_ne]
  | _ => simp [del, get?]

/-- Two dictionaries are the same if they tell the same for every key. -/
lemma same_iff {s t : Json κ α} (left : s.isDict = true) (right : t.isDict = true) :
    Same s t ↔ ∀ k, Option.Rel Same (s.get? k) (t.get? k) := by
  cases s with
  | obj ks unique value =>
    cases t with
    | obj ks' unique' value' =>
      apply forall_congr'
      intro k
      by_cases mem : k ∈ ks
      · by_cases mem' : k ∈ ks'
        · simp [get?, mem, mem']
        · simp [get?, mem, mem']
      · by_cases mem' : k ∈ ks'
        · simp [get?, mem, mem']
        · simp [get?, mem, mem']
    | _ => cases right
  | _ => cases left

/-- The same documents have the same members. -/
lemma Same.get? {s t : Json κ α} (same : Same s t) (k : κ) :
    Option.Rel Same (s.get? k) (t.get? k) := by
  cases dict : s.isDict with
  | true => exact (same_iff dict (same.isDict ▸ dict)).mp same k
  | false =>
    have dict' : t.isDict = false := same.isDict ▸ dict
    cases found : s.get? k with
    | some v => simp [isDict_of_get? found] at dict
    | none =>
      cases found' : t.get? k with
      | some v => simp [isDict_of_get? found'] at dict'
      | none => exact .none

/-- The same documents have the same values at the end of every path. -/
lemma Same.at? {s t : Json κ α} (same : Same s t) (path : List κ) :
    Option.Rel Same (s.at? path) (t.at? path) := by
  induction path generalizing s t with
  | nil => simpa [Json.at?] using same
  | cons k path ih =>
    show Option.Rel Same ((s.get? k).bind _) ((t.get? k).bind _)
    have rel := same.get? k
    generalize s.get? k = left, t.get? k = right at rel
    cases rel with
    | none => exact .none
    | some same => exact ih same

omit [DecidableEq κ] in
lemma same_rel_refl (t : Option (Json κ α)) : Option.Rel Same t t := by
  cases t with
  | none => exact .none
  | some t => exact .some (Same.refl t)

/-! ## Loops over dictionaries -/

variable {ε : Type}

/-- A loop that fills a new dictionary: each key gets the value that is made for it, if any. -/
def buildDict (make : κ → Except ε (Option (Json κ α))) (ks : List κ) : Except ε (Json κ α) :=
  ks.foldlM (fun t k => do
    let made ← make k
    return (made.map (t.set k)).getD t) empty

/-- A loop that writes each value of a dictionary anew. -/
def mapValuesM (f : κ → Json κ α → Except ε (Json κ α)) (t : Json κ α) : Except ε (Json κ α) :=
  t.keys.foldlM (fun t' k => do
    let v ← f k ((t.get? k).getD null)
    return t'.set k v) t

private lemma buildDict_from {make : κ → Except ε (Option (Json κ α))} {ks : List κ}
    {t t' : Json κ α} (dict : t.isDict = true)
    (eq : ks.foldlM (fun t k => do
      let made ← make k
      return (made.map (t.set k)).getD t) t = .ok t') :
    t'.isDict = true ∧ (∀ k ∈ ks, ∃ made, make k = .ok made) ∧
      ∀ k, t'.get? k = (if k ∈ ks then (make k).toOption.join else none).or (t.get? k) := by
  induction ks generalizing t with
  | nil =>
    obtain rfl := foldlM_nil_ok.mp eq
    exact ⟨dict, fun k mem => absurd mem List.not_mem_nil, fun k => by simp⟩
  | cons k₀ ks ih =>
    obtain ⟨next, step, eq⟩ := foldlM_cons_ok.mp eq
    obtain ⟨o, made, step⟩ := bind_ok.mp step
    obtain rfl := pure_ok.mp step
    have nextDict : ((o.map (t.set k₀)).getD t).isDict = true := by cases o <;> simp [dict]
    obtain ⟨dict', all, get⟩ := ih nextDict eq
    refine ⟨dict', fun k mem => ?_, fun k => ?_⟩
    · rcases List.mem_cons.mp mem with rfl | mem
      · exact ⟨o, made⟩
      · exact all k mem
    · rw [get k]
      by_cases same : k = k₀
      · subst same
        cases o <;> by_cases mem : k ∈ ks <;> simp [made, mem, get?_set dict, Except.toOption]
      · cases o <;> by_cases mem : k ∈ ks <;> simp [mem, same, get?_set dict]

/-- The loop made a value for every key, and the dictionary has just those. -/
lemma buildDict_ok {make : κ → Except ε (Option (Json κ α))} {ks : List κ} {t : Json κ α}
    (eq : buildDict make ks = .ok t) :
    t.isDict = true ∧ (∀ k ∈ ks, make k = .ok (t.get? k)) ∧ ∀ k, k ∉ ks → t.get? k = none := by
  obtain ⟨dict, all, get⟩ := buildDict_from isDict_empty eq
  refine ⟨dict, fun k mem => ?_, fun k absent => ?_⟩
  · obtain ⟨made, eq⟩ := all k mem
    rw [get k]
    simp [mem, eq, Except.toOption]
  · rw [get k]
    simp [absent]

private lemma mapValuesM_from {f : κ → Json κ α → Except ε (Json κ α)} {ks : List κ}
    {t s s' : Json κ α} (unique : ks.Nodup) (dict : s.isDict = true)
    (eq : ks.foldlM (fun s k => do
      let v ← f k ((t.get? k).getD null)
      return s.set k v) s = .ok s') :
    s'.isDict = true ∧ (∀ k ∈ ks, ∃ v, f k ((t.get? k).getD null) = .ok v ∧ s'.get? k = some v) ∧
      ∀ k, k ∉ ks → s'.get? k = s.get? k := by
  induction ks generalizing s with
  | nil =>
    obtain rfl := foldlM_nil_ok.mp eq
    exact ⟨dict, fun k mem => absurd mem List.not_mem_nil, fun k _ => rfl⟩
  | cons k₀ ks ih =>
    obtain ⟨fresh, unique⟩ := List.nodup_cons.mp unique
    obtain ⟨next, step, eq⟩ := foldlM_cons_ok.mp eq
    obtain ⟨v, made, step⟩ := bind_ok.mp step
    obtain rfl := pure_ok.mp step
    obtain ⟨dict', all, others⟩ := ih unique (by rw [isDict_set, dict]) eq
    refine ⟨dict', fun k mem => ?_, fun k absent => ?_⟩
    · rcases List.mem_cons.mp mem with rfl | mem
      · refine ⟨v, made, ?_⟩
        rw [others k fresh, get?_set dict, if_pos rfl]
      · exact all k mem
    · obtain ⟨ne, absent⟩ := not_or.mp (fun h => absent (List.mem_cons.mpr h))
      rw [others k absent, get?_set dict, if_neg ne]

/-- The loop wrote every value anew and kept the keys. -/
lemma mapValuesM_ok {f : κ → Json κ α → Except ε (Json κ α)} {t t' : Json κ α}
    (dict : t.isDict = true) (eq : mapValuesM f t = .ok t') :
    t'.isDict = true ∧ (∀ k v, t.get? k = some v → ∃ v', f k v = .ok v' ∧ t'.get? k = some v') ∧
      ∀ k, t.get? k = none → t'.get? k = none := by
  obtain ⟨dict', all, others⟩ := mapValuesM_from (unique_keys t) dict eq
  refine ⟨dict', fun k v found => ?_, fun k absent => ?_⟩
  · have mem : k ∈ t.keys := by simp [mem_keys_iff, found]
    simpa [found] using all k mem
  · rw [others k (by simp [mem_keys_iff, absent]), absent]

/-- The loop returns if something is made for every key. -/
lemma buildDict_total {make : κ → Except ε (Option (Json κ α))} {ks : List κ}
    (each : ∀ k ∈ ks, ∃ made, make k = .ok made) : ∃ t, buildDict make ks = .ok t := by
  apply foldlM_total
  intro k mem t
  obtain ⟨made, eq⟩ := each k mem
  exact ⟨_, bind_ok.mpr ⟨made, eq, rfl⟩⟩

/-- The loop returns if every value can be written anew. -/
lemma mapValuesM_total {f : κ → Json κ α → Except ε (Json κ α)} {t : Json κ α}
    (each : ∀ k v, t.get? k = some v → ∃ v', f k v = .ok v') : ∃ t', mapValuesM f t = .ok t' := by
  apply foldlM_total
  intro k mem t'
  obtain ⟨v, found⟩ := Option.isSome_iff_exists.mp (mem_keys_iff.mp mem)
  obtain ⟨v', eq⟩ := each k v found
  exact ⟨_, bind_ok.mpr ⟨v', by rw [found]; exact eq, rfl⟩⟩

end Json

end Tacker.Basis
