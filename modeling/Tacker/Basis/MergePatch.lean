import Tacker.Basis.Json

/-!
# JSON merge patch

A merge patch is a document that is laid over another one: its dictionaries are merged key by key,
`null` deletes and everything else replaces.
-/

namespace Tacker.Basis.Json

variable {κ α : Type} [DecidableEq κ]

/-- The target with the patch laid over it. -/
def jsonMergePatch (target : Json κ α) : Json κ α → Json κ α
  | obj ks _ value =>
    ks.foldl (fun t k =>
      if (value k).isNull then t.del k
      else t.set k (jsonMergePatch ((t.get? k).getD null) (value k))) target.asDict
  | patch => patch

@[simp] lemma get?_asDict {t : Json κ α} {k : κ} : t.asDict.get? k = t.get? k := by
  cases t <;> rfl

/-! ## What a patched document tells -/

/-- A loop that writes every key of a list once, each from what the key had before. -/
lemma get?_foldl {step : Json κ α → κ → Json κ α} {f : κ → Option (Json κ α) → Option (Json κ α)}
    (keeps : ∀ t k, t.isDict = true → (step t k).isDict = true)
    (writes : ∀ t k k', t.isDict = true →
      (step t k).get? k' = if k' = k then f k (t.get? k) else t.get? k')
    {ks : List κ} (unique : ks.Nodup) {t : Json κ α} (dict : t.isDict = true) (k : κ) :
    (ks.foldl step t).get? k = if k ∈ ks then f k (t.get? k) else t.get? k := by
  induction ks generalizing t with
  | nil => rfl
  | cons k' ks ih =>
    obtain ⟨fresh, unique⟩ := List.nodup_cons.mp unique
    rw [List.foldl_cons, ih unique (keeps t k' dict), writes t k' k dict]
    by_cases same : k = k'
    · subst same
      simp [fresh]
    · simp [same]

omit [DecidableEq κ] in
lemma isDict_foldl {step : Json κ α → κ → Json κ α}
    (keeps : ∀ t k, t.isDict = true → (step t k).isDict = true)
    (ks : List κ) {t : Json κ α} (dict : t.isDict = true) : (ks.foldl step t).isDict = true := by
  induction ks generalizing t with
  | nil => exact dict
  | cons k ks ih => exact ih (keeps t k dict)

variable {target patch : Json κ α}

/-- A patch that is no dictionary replaces the target. -/
lemma jsonMergePatch_value (value : patch.isDict = false) : jsonMergePatch target patch = patch := by
  cases patch with
  | obj ks unique value' => cases value
  | _ => rfl

/-- The result of a merge is a dictionary exactly if the patch is one. -/
@[simp] lemma isDict_jsonMergePatch : (jsonMergePatch target patch).isDict = patch.isDict := by
  cases patch with
  | obj ks unique value =>
    rw [jsonMergePatch]
    apply isDict_foldl
    · intro t k dict
      by_cases isNull : (value k).isNull <;> simp [isNull, dict]
    · exact isDict_asDict target
  | _ => rfl

@[simp] lemma isNull_jsonMergePatch : (jsonMergePatch target patch).isNull = patch.isNull := by
  cases h : patch with
  | obj ks unique value =>
    have dict : (jsonMergePatch target patch).isDict = true := by
      rw [isDict_jsonMergePatch, h]
      rfl
    rw [h] at dict
    cases eq : jsonMergePatch target (obj ks unique value) with
    | obj ks' unique' value' => rfl
    | _ =>
      rw [eq] at dict
      cases dict
  | _ => rfl

/-- Key by key: what the patch does not have is kept, `null` deletes, the rest is merged. -/
lemma get?_jsonMergePatch (dict : patch.isDict = true) (k : κ) :
    (jsonMergePatch target patch).get? k =
      match patch.get? k with
      | none => target.asDict.get? k
      | some v =>
        if v.isNull then none
        else some (jsonMergePatch ((target.asDict.get? k).getD null) v) := by
  cases patch with
  | obj ks unique value =>
    rw [jsonMergePatch, get?_foldl (f := fun k old =>
      if (value k).isNull then none else some (jsonMergePatch (old.getD null) (value k)))]
    · by_cases mem : k ∈ ks <;> simp [get?, mem]
    · intro t k dict
      by_cases isNull : (value k).isNull <;> simp [isNull, dict]
    · intro t k k' dict
      by_cases isNull : (value k).isNull
      · simp [isNull, get?_del]
      · simp [isNull, get?_set dict]
    · exact unique
    · exact isDict_asDict target
  | _ => cases dict

lemma get?_jsonMergePatch_none (dict : patch.isDict = true) {k : κ} (absent : patch.get? k = none) :
    (jsonMergePatch target patch).get? k = target.asDict.get? k := by
  rw [get?_jsonMergePatch dict, absent]

lemma get?_jsonMergePatch_null (dict : patch.isDict = true) {k : κ}
    (isNull : patch.get? k = some null) : (jsonMergePatch target patch).get? k = none := by
  rw [get?_jsonMergePatch dict, isNull]
  rfl

lemma get?_jsonMergePatch_some (dict : patch.isDict = true) {k : κ} {v : Json κ α}
    (found : patch.get? k = some v) (value : v.isNull = false) :
    (jsonMergePatch target patch).get? k =
      some (jsonMergePatch ((target.asDict.get? k).getD null) v) := by
  rw [get?_jsonMergePatch dict, found]
  simp [value]

/-- A patch of one member. -/
lemma get?_jsonMergePatch_single {k k' : κ} {v : Json κ α} (value : v.isNull = false) :
    (jsonMergePatch target (empty.set k v)).get? k' =
      if k' = k then some (jsonMergePatch ((target.asDict.get? k).getD null) v)
      else target.asDict.get? k' := by
  by_cases same : k' = k
  · subst same
    rw [get?_jsonMergePatch_some rfl (by rw [get?_single, if_pos rfl]) value, if_pos rfl]
  · rw [get?_jsonMergePatch_none rfl (by rw [get?_single, if_neg same]), if_neg same]

omit [DecidableEq κ] in
lemma isNull_of_isDict {t : Json κ α} (dict : t.isDict = true) : t.isNull = false := by
  cases t with
  | obj ks unique value => rfl
  | _ => cases dict

/-! ## When the patched document is the patch -/

/-- No member of a dictionary is `null`, at any depth. -/
def NoNull : Json κ α → Prop
  | obj ks _ value => ∀ k ∈ ks, (value k).isNull = false ∧ NoNull (value k)
  | _ => True

/-- The target has no member that the document does not have, wherever both are dictionaries. -/
def Within : Json κ α → Json κ α → Prop
  | obj ks _ value, obj ks' _ value' => ∀ k ∈ ks', k ∈ ks ∧ Within (value k) (value' k)
  | _, _ => True

/-- Every member that the patch sets is there in the document already, wherever both are
dictionaries. -/
def Covered : Json κ α → Json κ α → Prop
  | obj ks _ value, obj ks' _ value' =>
    ∀ k ∈ ks', (value' k).isNull = false → k ∈ ks ∧ Covered (value k) (value' k)
  | _, _ => True

omit [DecidableEq κ] in
lemma within_null (t : Json κ α) : Within t null := by
  cases t <;> trivial

omit [DecidableEq κ] in
lemma within_refl (t : Json κ α) : Within t t := by
  induction t with
  | obj ks unique value ih => exact fun k mem => ⟨mem, ih k⟩
  | _ => trivial

/-- Key by key. -/
lemma within_iff {ks : List κ} {unique : ks.Nodup} {value : κ → Json κ α} {t : Json κ α} :
    Within (obj ks unique value) t ↔
      ∀ k, (k ∉ ks → t.asDict.get? k = none) ∧
        (k ∈ ks → Within (value k) ((t.asDict.get? k).getD null)) := by
  cases t with
  | obj ks' unique' value' =>
    apply forall_congr'
    intro k
    show (k ∈ ks' → k ∈ ks ∧ Within (value k) (value' k)) ↔ _
    by_cases mem' : k ∈ ks' <;> by_cases mem : k ∈ ks <;>
      simp [asDict, get?, mem, mem', within_null]
  | _ => simp [Within, asDict, within_null]

/-- Laying a document over a target gives the document exactly if no member of it is `null` and the
target has no member that it does not have. -/
theorem same_jsonMergePatch_iff {target patch : Json κ α} :
    Same (jsonMergePatch target patch) patch ↔ NoNull patch ∧ Within patch target := by
  induction patch generalizing target with
  | obj ks unique value ih =>
    rw [same_iff (by rw [isDict_jsonMergePatch]; rfl) rfl, within_iff]
    show _ ↔ (∀ k, k ∈ ks → _) ∧ _
    rw [← forall_and]
    apply forall_congr'
    intro k
    by_cases mem : k ∈ ks
    · have found : (obj ks unique value).get? k = some (value k) := by simp [get?, mem]
      cases isNull : (value k).isNull with
      | true =>
        have eq := isNull_iff.mp isNull
        rw [get?_jsonMergePatch_null rfl (by rw [found, eq]), found]
        simp [mem]
      | false =>
        rw [get?_jsonMergePatch_some rfl found isNull, found]
        simp [mem, ih k]
    · have absent : (obj ks unique value).get? k = none := by simp [get?, mem]
      rw [get?_jsonMergePatch_none rfl absent, absent]
      cases target.asDict.get? k <;> simp [mem]
  | _ => exact ⟨fun _ => ⟨trivial, trivial⟩, fun _ => Same.refl _⟩

/-! ## When a patch changes nothing -/

/-- What a patch says of a place of a document is so already: where it has `null` there is nothing,
and everything else is there. -/
def Holds : Option (Json κ α) → Json κ α → Prop
  | o, null => o = none
  | o, obj ks _ value => ∃ t, o = some t ∧ t.isDict = true ∧ ∀ k ∈ ks, Holds (t.get? k) (value k)
  | o, patch => ∃ t, o = some t ∧ Same t patch

/-- The place of a document after a patch was laid over it. -/
def patchAt (o : Option (Json κ α)) (patch : Json κ α) : Option (Json κ α) :=
  if patch.isNull then none else some (jsonMergePatch (o.getD null) patch)

/-- A patch leaves a place of a document as it is exactly if what it says holds there. -/
theorem same_patchAt_iff {o : Option (Json κ α)} {patch : Json κ α} :
    Option.Rel Same (patchAt o patch) o ↔ Holds o patch := by
  induction patch generalizing o with
  | null => cases o <;> simp [patchAt, Holds]
  | atom a =>
    cases o with
    | none => simp [patchAt, Holds, isNull]
    | some t =>
      show Option.Rel Same (some (atom a)) (some t) ↔ ∃ t', some t = some t' ∧ Same t' (atom a)
      simp only [Option.rel_some_some, Option.some.injEq, exists_eq_left']
      exact ⟨Same.symm, Same.symm⟩
  | arr size item ih =>
    cases o with
    | none => simp [patchAt, Holds, isNull]
    | some t =>
      show Option.Rel Same (some (arr size item)) (some t) ↔ ∃ t', some t = some t' ∧ Same t' _
      simp only [Option.rel_some_some, Option.some.injEq, exists_eq_left']
      exact ⟨Same.symm, Same.symm⟩
  | obj ks unique value ih =>
    cases o with
    | none => simp [patchAt, Holds]
    | some t =>
      have dict : (jsonMergePatch t (obj ks unique value)).isDict = true := by
        rw [isDict_jsonMergePatch]
        rfl
      have key : ∀ k, Option.Rel Same ((jsonMergePatch t (obj ks unique value)).get? k)
          (t.get? k) ↔ (k ∈ ks → Holds (t.get? k) (value k)) := by
        intro k
        by_cases mem : k ∈ ks
        · have found : (obj ks unique value).get? k = some (value k) := by simp [get?, mem]
          rw [get?_jsonMergePatch rfl, found, ← ih k]
          simp [mem, patchAt]
        · have absent : (obj ks unique value).get? k = none := by simp [get?, mem]
          rw [get?_jsonMergePatch_none rfl absent, get?_asDict]
          simp [mem, same_rel_refl]
      show Option.Rel Same (some (jsonMergePatch t _)) (some t) ↔ ∃ t', some t = some t' ∧ _
      simp only [Option.rel_some_some, Option.some.injEq, exists_eq_left']
      constructor
      · intro same
        have tDict : t.isDict = true := same.isDict ▸ dict
        refine ⟨tDict, fun k mem => (key k).mp ?_ mem⟩
        exact (same_iff dict tDict).mp same k
      · rintro ⟨tDict, all⟩
        apply (same_iff dict tDict).mpr
        intro k
        exact (key k).mpr (all k)

/-! ## Undoing a patch -/

lemma covered_iff {ks : List κ} {unique : ks.Nodup} {value : κ → Json κ α} {patch : Json κ α}
    (dict : patch.isDict = true) :
    Covered (obj ks unique value) patch ↔
      ∀ k v, patch.get? k = some v → v.isNull = false → k ∈ ks ∧ Covered (value k) v := by
  cases patch with
  | obj ks' unique' value' =>
    apply forall_congr'
    intro k
    by_cases mem : k ∈ ks'
    · simp [get?, mem]
    · simp [get?, mem]
  | _ => cases dict

omit [DecidableEq κ] in
/-- A patch that is no dictionary sets no member. -/
lemma covered_value (t : Json κ α) {patch : Json κ α} (value : patch.isDict = false) :
    Covered t patch := by
  cases patch with
  | obj ks unique value' => cases value
  | _ => cases t <;> trivial

/-- A patch takes a document out of its own members exactly if it sets one that is not there. -/
lemma within_jsonMergePatch_iff {t patch : Json κ α} :
    Within t (jsonMergePatch t patch) ↔ Covered t patch := by
  induction t generalizing patch with
  | obj ks unique value ih =>
    cases dict : patch.isDict with
    | false =>
      rw [jsonMergePatch_value dict]
      cases patch with
      | obj ks' unique' value' => cases dict
      | _ => exact Iff.rfl
    | true =>
      have isDict : (jsonMergePatch (obj ks unique value) patch).isDict = true := by
        rw [isDict_jsonMergePatch, dict]
      rw [within_iff, covered_iff dict, asDict_of_isDict isDict]
      apply forall_congr'
      intro k
      have old : (obj ks unique value).asDict.get? k = if k ∈ ks then some (value k) else none := rfl
      cases found : patch.get? k with
      | none =>
        rw [get?_jsonMergePatch_none dict found, old]
        by_cases mem : k ∈ ks <;> simp [mem, within_refl]
      | some v =>
        cases isNull : v.isNull with
        | true =>
          rw [isNull_iff.mp isNull] at found
          rw [get?_jsonMergePatch_null dict found]
          simp [within_null, isNull_iff.mp isNull]
        | false =>
          rw [get?_jsonMergePatch_some dict found isNull, old]
          by_cases mem : k ∈ ks <;> simp [mem, isNull, ih]
  | _ => exact ⟨fun _ => trivial, fun _ => trivial⟩

/-- Laying a document over what a patch made of it gives the document back exactly if no member of
it is `null` and the patch sets no member that it does not have. -/
theorem undo_iff {t patch : Json κ α} :
    Same (jsonMergePatch (jsonMergePatch t patch) t) t ↔ NoNull t ∧ Covered t patch := by
  rw [same_jsonMergePatch_iff, within_jsonMergePatch_iff]

/-! ## Path by path -/

/-- What a document, read as a patch, tells of a member. -/
inductive Word where
  /-- It leaves the member as it is. -/
  | silent
  /-- The member is gone after it. -/
  | deletes
  /-- The member is there after it. -/
  | sets
  deriving DecidableEq

/-- What a patch tells of the member at the end of a path. -/
def word : Json κ α → List κ → Word
  | _, [] => .sets
  | obj ks _ value, k :: path =>
    if k ∈ ks then
      if (value k).isNull then .deletes else (value k).word path
    else .silent
  | _, _ :: _ => .deletes

@[simp] lemma word_nil (t : Json κ α) : t.word [] = .sets := by
  simp [word]

lemma word_cons {t : Json κ α} (dict : t.isDict = true) {k : κ} {path : List κ} :
    t.word (k :: path) =
      match t.get? k with
      | none => .silent
      | some v => if v.isNull then .deletes else v.word path := by
  cases t with
  | obj ks unique value => by_cases mem : k ∈ ks <;> simp [word, get?, mem]
  | _ => cases dict

lemma word_value_cons {t : Json κ α} (value : t.isDict = false) {k : κ} {path : List κ} :
    t.word (k :: path) = .deletes := by
  cases t with
  | obj ks unique value' => cases value
  | _ => rfl

/-- No matter what a document that is no dictionary is laid over, nothing of it is a member. -/
lemma word_asDict_cons {t : Json κ α} {k : κ} {path : List κ} :
    t.asDict.word (k :: path) = .sets ↔ t.word (k :: path) = .sets := by
  cases t with
  | obj ks unique value => exact Iff.rfl
  | _ => simp [asDict, empty, word]

/-- A member is there after a patch if the patch sets it, or leaves it and it was there. -/
theorem word_jsonMergePatch {t patch : Json κ α} {path : List κ} :
    (jsonMergePatch t patch).word path = .sets ↔
      patch.word path = .sets ∨ patch.word path = .silent ∧ t.word path = .sets := by
  induction path generalizing t patch with
  | nil => simp
  | cons k path ih =>
    cases dict : patch.isDict with
    | false => simp [jsonMergePatch_value dict, word_value_cons dict]
    | true =>
      have merged : (jsonMergePatch t patch).isDict = true := by rw [isDict_jsonMergePatch, dict]
      rw [word_cons merged, word_cons dict]
      cases found : patch.get? k with
      | none =>
        rw [get?_jsonMergePatch_none dict found, ← word_cons (isDict_asDict t), word_asDict_cons]
        simp
      | some v =>
        cases isNull : v.isNull with
        | true =>
          rw [isNull_iff.mp isNull] at found
          rw [get?_jsonMergePatch_null dict found]
          simp [isNull]
        | false =>
          rw [get?_jsonMergePatch_some dict found isNull]
          simp only [isNull_jsonMergePatch, isNull, Bool.false_eq_true, if_false, ih]
          apply or_congr_right'
          intro notSet
          apply and_congr_right'
          rw [← word_asDict_cons, word_cons (isDict_asDict t)]
          cases old : t.asDict.get? k with
          | none =>
            cases path with
            | nil => exact absurd (word_nil v) notSet
            | cons k' path => simp [word]
          | some w =>
            cases w with
            | null =>
              cases path with
              | nil => exact absurd (word_nil v) notSet
              | cons k' path => simp [word]
            | _ => exact Iff.rfl

/-- There is a dictionary at the end of the path. -/
def DictAt (t : Json κ α) (path : List κ) : Prop :=
  ∃ d, t.at? path = some d ∧ d.isDict = true

/-- There is a value at the end of the path. -/
def PresentAt (t : Json κ α) (path : List κ) : Prop :=
  ∃ v, t.at? path = some v

lemma presentAt_cons {t : Json κ α} {k : κ} {path : List κ} :
    t.PresentAt (k :: path) ↔ ∃ v, t.get? k = some v ∧ v.PresentAt path := by
  simp only [PresentAt, at?, Option.bind_eq_some_iff]
  constructor
  · rintro ⟨w, v, found, at'⟩
    exact ⟨v, found, w, at'⟩
  · rintro ⟨v, found, w, at'⟩
    exact ⟨w, v, found, at'⟩

lemma dictAt_cons {t : Json κ α} {k : κ} {path : List κ} :
    t.DictAt (k :: path) ↔ ∃ v, t.get? k = some v ∧ v.DictAt path := by
  simp only [DictAt, at?, Option.bind_eq_some_iff]
  constructor
  · rintro ⟨d, ⟨v, found, at'⟩, dict⟩
    exact ⟨v, found, d, at', dict⟩
  · rintro ⟨v, found, d, at', dict⟩
    exact ⟨d, ⟨v, found, at'⟩, dict⟩

private lemma covered_iff_paths_of_dict {t patch : Json κ α} (patchDict : patch.isDict = true) :
    Covered t patch ↔
      ∀ path k, patch.word (path ++ [k]) = .sets → t.DictAt path → t.PresentAt (path ++ [k]) := by
  induction t generalizing patch with
  | obj ks unique value ih =>
    rw [covered_iff patchDict]
    constructor
    · intro covered path k sets dictAt
      cases path with
      | nil =>
        rw [List.nil_append, word_cons patchDict] at sets
        cases found : patch.get? k with
        | none => simp [found] at sets
        | some v =>
          cases isNull : v.isNull with
          | true => simp [found, isNull] at sets
          | false =>
            have mem := (covered k v found isNull).1
            exact presentAt_cons.mpr ⟨value k, by simp [get?, mem], value k, rfl⟩
      | cons k' path =>
        rw [List.cons_append, word_cons patchDict] at sets
        obtain ⟨w, old, dictAt⟩ := dictAt_cons.mp dictAt
        apply presentAt_cons.mpr
        refine ⟨w, old, ?_⟩
        cases found : patch.get? k' with
        | none => simp [found] at sets
        | some v =>
          cases isNull : v.isNull with
          | true => simp [found, isNull] at sets
          | false =>
            have covered := covered k' v found isNull
            have eq : value k' = w := by simpa [get?, covered.1] using old
            subst eq
            simp only [found, isNull, Bool.false_eq_true, if_false] at sets
            cases dict : v.isDict with
            | true => exact (ih k' dict).mp covered.2 path k sets dictAt
            | false =>
              obtain ⟨k'', path', eq⟩ : ∃ k'' path', path ++ [k] = k'' :: path' := by
                cases path <;> exact ⟨_, _, rfl⟩
              rw [eq, word_value_cons dict] at sets
              cases sets
    · intro paths k v found isNull
      have mem : k ∈ ks := by
        have present := paths [] k (by rw [List.nil_append, word_cons patchDict]; simp [found, isNull])
          ⟨_, rfl, rfl⟩
        obtain ⟨w, old, -⟩ := presentAt_cons.mp present
        by_contra absent
        simp [get?, absent] at old
      have old : (obj ks unique value).get? k = some (value k) := by simp [get?, mem]
      refine ⟨mem, ?_⟩
      cases dict : v.isDict with
      | false => exact covered_value (value k) dict
      | true =>
        apply (ih k dict).mpr
        intro path k' sets dictAt
        have present := paths (k :: path) k'
          (by rw [List.cons_append, word_cons patchDict]; simp [found, isNull, sets])
          (dictAt_cons.mpr ⟨_, old, dictAt⟩)
        obtain ⟨w, old', present⟩ := presentAt_cons.mp present
        rw [old] at old'
        cases old'
        exact present
  | _ =>
    refine ⟨fun _ path k _ dictAt => ?_, fun _ => trivial⟩
    cases path with
    | nil =>
      obtain ⟨d, eq, dict⟩ := dictAt
      cases eq
      cases dict
    | cons k' path =>
      obtain ⟨v, found, -⟩ := dictAt_cons.mp dictAt
      cases found

/-- The members that a patch sets are there already, path by path. -/
theorem covered_iff_paths {t patch : Json κ α} :
    Covered t patch ↔
      ∀ path k, patch.word (path ++ [k]) = .sets → t.DictAt path → t.PresentAt (path ++ [k]) := by
  cases patchDict : patch.isDict with
  | false =>
    refine ⟨fun _ path k sets => ?_, fun _ => covered_value t patchDict⟩
    obtain ⟨k', path', eq⟩ : ∃ k' path', path ++ [k] = k' :: path' := by
      cases path <;> exact ⟨_, _, rfl⟩
    rw [eq, word_value_cons patchDict] at sets
    cases sets
  | true => exact covered_iff_paths_of_dict patchDict

/-! ## Two targets of one patch -/

lemma at?_cons {t : Json κ α} {k : κ} {path : List κ} :
    t.at? (k :: path) = (t.get? k).bind fun v => v.at? path := rfl

@[simp] lemma at?_nil {t : Json κ α} : t.at? [] = some t := by
  simp [at?]

lemma at?_append {t : Json κ α} {path rest : List κ} :
    t.at? (path ++ rest) = (t.at? path).bind fun v => v.at? rest := by
  induction path generalizing t with
  | nil => simp
  | cons k path ih =>
    rw [List.cons_append, at?_cons, at?_cons, Option.bind_assoc]
    simp only [ih]

lemma rel_at? {s t : Option (Json κ α)} (rel : Option.Rel Same s t) (path : List κ) :
    Option.Rel Same (s.bind fun v => v.at? path) (t.bind fun v => v.at? path) := by
  cases rel with
  | none => exact .none
  | some same => exact same.at? path

/-- Below a member that the patch has, what a missing member tells is what `null` tells. -/
private lemma at?_getD_null {t : Option (Json κ α)} {path : List κ} (ne : path ≠ []) :
    ((t.getD null).at? path) = t.bind fun v => v.at? path := by
  cases path with
  | nil => exact absurd rfl ne
  | cons k path =>
    cases t with
    | none => rfl
    | some v => rfl

private lemma ne_nil_of_silent {patch : Json κ α} {path : List κ}
    (silent : patch.word path = .silent) : path ≠ [] := by
  rintro rfl
  simp at silent

/-- Where the patch is silent, the document stays as it is. -/
theorem at?_jsonMergePatch_silent {t patch : Json κ α} {path : List κ}
    (silent : patch.word path = .silent) : (jsonMergePatch t patch).at? path = t.at? path := by
  induction path generalizing t patch with
  | nil => exact absurd rfl (ne_nil_of_silent silent)
  | cons k path ih =>
    cases dict : patch.isDict with
    | false =>
      rw [word_value_cons dict] at silent
      cases silent
    | true =>
      rw [word_cons dict] at silent
      rw [at?_cons, at?_cons]
      cases found : patch.get? k with
      | none => rw [get?_jsonMergePatch_none dict found, get?_asDict]
      | some v =>
        cases isNull : v.isNull with
        | true => simp [found, isNull] at silent
        | false =>
          simp only [found, isNull, Bool.false_eq_true, if_false] at silent
          rw [get?_jsonMergePatch_some dict found isNull, get?_asDict, Option.bind_some, ih silent,
            at?_getD_null (ne_nil_of_silent silent)]

/-- Two documents become the same under a patch exactly if they agree on all that it leaves. -/
theorem same_jsonMergePatch_both {s t patch : Json κ α} :
    Same (jsonMergePatch s patch) (jsonMergePatch t patch) ↔
      ∀ path, patch.word path = .silent → Option.Rel Same (s.at? path) (t.at? path) := by
  induction patch generalizing s t with
  | obj ks unique value ih =>
    have dict : (obj ks unique value).isDict = true := rfl
    have key : ∀ k, Option.Rel Same ((jsonMergePatch s (obj ks unique value)).get? k)
          ((jsonMergePatch t (obj ks unique value)).get? k) ↔
        ∀ rest, (obj ks unique value).word (k :: rest) = .silent →
          Option.Rel Same (s.at? (k :: rest)) (t.at? (k :: rest)) := by
      intro k
      by_cases mem : k ∈ ks
      · have found : (obj ks unique value).get? k = some (value k) := by simp [get?, mem]
        cases isNull : (value k).isNull with
        | true =>
          have eq := isNull_iff.mp isNull
          rw [get?_jsonMergePatch_null dict (by rw [found, eq]),
            get?_jsonMergePatch_null dict (by rw [found, eq])]
          simp [word, mem, isNull]
        | false =>
          rw [get?_jsonMergePatch_some dict found isNull,
            get?_jsonMergePatch_some dict found isNull]
          simp only [Option.rel_some_some, get?_asDict, ih k]
          apply forall_congr'
          intro rest
          have word : (obj ks unique value).word (k :: rest) = (value k).word rest := by
            simp [Json.word, mem, isNull]
          rw [word]
          apply forall_congr'
          intro silent
          rw [at?_getD_null (ne_nil_of_silent silent), at?_getD_null (ne_nil_of_silent silent)]
          exact Iff.rfl
      · have absent : (obj ks unique value).get? k = none := by simp [get?, mem]
        rw [get?_jsonMergePatch_none dict absent, get?_jsonMergePatch_none dict absent,
          get?_asDict, get?_asDict]
        refine ⟨fun rel rest _ => rel_at? rel rest, fun all => ?_⟩
        have rel := all [] (by simp [word, mem])
        simpa [at?_cons] using rel
    rw [same_iff (by rw [isDict_jsonMergePatch, dict]) (by rw [isDict_jsonMergePatch, dict])]
    constructor
    · intro all path silent
      cases path with
      | nil => exact absurd rfl (ne_nil_of_silent silent)
      | cons k rest => exact (key k).mp (all k) rest silent
    · intro all k
      exact (key k).mpr fun rest => all (k :: rest)
  | _ =>
    refine ⟨fun _ path silent => ?_, fun _ => Same.refl _⟩
    cases path with
    | nil => exact absurd rfl (ne_nil_of_silent silent)
    | cons k rest => cases silent

/-- The values at the end of a path become the same under a patch exactly if they agree on all
that it leaves there. -/
theorem rel_at?_jsonMergePatch {s t patch : Json κ α} {path : List κ} :
    Option.Rel Same ((jsonMergePatch s patch).at? path) ((jsonMergePatch t patch).at? path) ↔
      ∀ rest, patch.word (path ++ rest) = .silent →
        Option.Rel Same (s.at? (path ++ rest)) (t.at? (path ++ rest)) := by
  induction path generalizing s t patch with
  | nil => simpa using same_jsonMergePatch_both
  | cons k path ih =>
    rw [at?_cons, at?_cons]
    cases dict : patch.isDict with
    | false =>
      rw [jsonMergePatch_value dict, jsonMergePatch_value dict]
      refine ⟨fun _ rest silent => ?_, fun _ => same_rel_refl _⟩
      rw [List.cons_append, word_value_cons dict] at silent
      cases silent
    | true =>
      simp only [List.cons_append, word_cons dict]
      cases found : patch.get? k with
      | none =>
        rw [get?_jsonMergePatch_none dict found, get?_jsonMergePatch_none dict found,
          get?_asDict, get?_asDict]
        constructor
        · intro rel rest _
          rw [← List.cons_append, at?_append, at?_append]
          exact rel_at? rel rest
        · intro all
          have rel := all [] rfl
          rwa [List.append_nil] at rel
      | some v =>
        cases isNull : v.isNull with
        | true =>
          rw [isNull_iff.mp isNull] at found
          rw [get?_jsonMergePatch_null dict found, get?_jsonMergePatch_null dict found]
          simp [isNull]
        | false =>
          rw [get?_jsonMergePatch_some dict found isNull,
            get?_jsonMergePatch_some dict found isNull]
          simp only [Option.bind_some, get?_asDict, ih, isNull, Bool.false_eq_true, if_false]
          apply forall_congr'
          intro rest
          apply forall_congr'
          intro silent
          rw [at?_getD_null (ne_nil_of_silent silent), at?_getD_null (ne_nil_of_silent silent)]
          exact Iff.rfl

/-! ## Documents that are alike along a path -/

/-- The documents have the same keys of a path and tell the same of what is there: `null`, a
dictionary or another value. -/
def AlikeAlong : List κ → Json κ α → Json κ α → Prop
  | [], _, _ => True
  | k :: path, s, t =>
    s.isDict = t.isDict ∧ (s.get? k).isSome = (t.get? k).isSome ∧
      ∀ v w, s.get? k = some v → t.get? k = some w → v.isNull = w.isNull ∧ AlikeAlong path v w

lemma AlikeAlong.refl (path : List κ) (t : Json κ α) : AlikeAlong path t t := by
  induction path generalizing t with
  | nil => trivial
  | cons k path ih =>
    refine ⟨rfl, rfl, fun v w left right => ?_⟩
    rw [left] at right
    cases right
    exact ⟨rfl, ih v⟩

lemma AlikeAlong.word {path : List κ} {s t : Json κ α} (alike : AlikeAlong path s t) :
    s.word path = t.word path := by
  induction path generalizing s t with
  | nil => simp
  | cons k path ih =>
    obtain ⟨dicts, isSome, below⟩ := alike
    cases dict : s.isDict with
    | false => rw [word_value_cons dict, word_value_cons (dicts ▸ dict)]
    | true =>
      rw [word_cons dict, word_cons (dicts ▸ dict)]
      cases left : s.get? k with
      | none =>
        cases right : t.get? k with
        | none => rfl
        | some w => simp [left, right] at isSome
      | some v =>
        cases right : t.get? k with
        | none => simp [left, right] at isSome
        | some w =>
          obtain ⟨nulls, alike⟩ := below v w left right
          simp [nulls, ih alike]

/-- A patch keeps documents alike. -/
lemma AlikeAlong.jsonMergePatch {path : List κ} {s t : Json κ α} (alike : AlikeAlong path s t)
    (patch : Json κ α) : AlikeAlong path (jsonMergePatch s patch) (jsonMergePatch t patch) := by
  induction path generalizing s t patch with
  | nil => trivial
  | cons k path ih =>
    cases dict : patch.isDict with
    | false =>
      rw [jsonMergePatch_value dict, jsonMergePatch_value dict]
      exact .refl _ _
    | true =>
      obtain ⟨-, isSome, below⟩ := alike
      refine ⟨by rw [isDict_jsonMergePatch, isDict_jsonMergePatch], ?_⟩
      cases found : patch.get? k with
      | none =>
        rw [get?_jsonMergePatch_none dict found, get?_jsonMergePatch_none dict found,
          get?_asDict, get?_asDict]
        exact ⟨isSome, below⟩
      | some v =>
        cases isNull : v.isNull with
        | true =>
          rw [isNull_iff.mp isNull] at found
          rw [get?_jsonMergePatch_null dict found, get?_jsonMergePatch_null dict found]
          exact ⟨rfl, fun v w left => by cases left⟩
        | false =>
          rw [get?_jsonMergePatch_some dict found isNull,
            get?_jsonMergePatch_some dict found isNull, get?_asDict, get?_asDict]
          refine ⟨rfl, fun w w' left right => ?_⟩
          cases left
          cases right
          refine ⟨by rw [isNull_jsonMergePatch, isNull_jsonMergePatch], ?_⟩
          apply ih
          cases old : s.get? k with
          | none =>
            cases old' : t.get? k with
            | none => exact .refl _ _
            | some w => simp [old, old'] at isSome
          | some w =>
            cases old' : t.get? k with
            | none => simp [old, old'] at isSome
            | some w' => exact (below w w' old old').2

end Tacker.Basis.Json
