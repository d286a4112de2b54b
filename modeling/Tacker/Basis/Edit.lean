import Tacker.Basis.Json
import Tacker.Basis.Sequence

/-!
# Edits of documents

A pass over a document that changes or removes some of its members is an edit of a dictionary, made of
edits of its members. A second pass over what the first one left is one pass, so what two passes do
together is known member by member.
-/

namespace Tacker.Basis

variable {κ α : Type}

/-! ## Changes -/

/-- A change of a member: `none` where it raises, `some none` where the member is removed. -/
abbrev Change (κ α : Type) := Json κ α → Option (Option (Json κ α))

namespace Change

/-- The member stays as it is. -/
def keep : Change κ α := fun v => some (some v)

/-- The member is changed into another value. -/
def into (f : Json κ α → Option (Json κ α)) : Change κ α := fun v => (f v).map some

/-- One change after the other. -/
def andThen (first second : Change κ α) : Change κ α := fun v =>
  (first v).bind fun r =>
    match r with
    | some w => second w
    | none => some none

@[simp] lemma keep_andThen (h : Change κ α) : keep.andThen h = h := rfl

@[simp] lemma andThen_keep (h : Change κ α) : h.andThen keep = h := by
  funext v
  unfold andThen
  cases h v with
  | none => rfl
  | some r => cases r <;> rfl

lemma into_andThen_into (f g : Json κ α → Option (Json κ α)) :
    (into f).andThen (into g) = into fun v => (f v).bind g := by
  funext v
  show ((f v).map some).bind _ = ((f v).bind g).map some
  cases f v <;> rfl

lemma andThen_eq_none {first second : Change κ α} {v : Json κ α} (raises : first v = none) :
    first.andThen second v = none := by
  rw [andThen, raises]
  rfl

lemma andThen_removed {first second : Change κ α} {v : Json κ α} (removed : first v = some none) :
    first.andThen second v = some none := by
  rw [andThen, removed]
  rfl

lemma andThen_changed {first second : Change κ α} {v w : Json κ α}
    (changed : first v = some (some w)) : first.andThen second v = second w := by
  rw [andThen, changed]
  rfl

lemma isSome_of_andThen {first second : Change κ α} {v : Json κ α}
    (isSome : (first.andThen second v).isSome = true) : (first v).isSome = true := by
  cases made : first v with
  | none =>
    rw [andThen_eq_none made] at isSome
    cases isSome
  | some r => rfl

end Change

namespace Json

/-! ## Checks -/

/-- A function that changes nothing: it raises or leaves the document as it is. -/
def Keeping (f : Json κ α → Option (Json κ α)) : Prop :=
  ∀ t t', f t = some t' → t' = t

/-- A change that changes nothing. -/
def KeepingChange (h : Change κ α) : Prop :=
  ∀ v r, h v = some r → r = some v

lemma keepingChange_into {f : Json κ α → Option (Json κ α)} (keeping : Keeping f) :
    KeepingChange (Change.into f) := by
  intro v r changed
  obtain ⟨w, made, rfl⟩ := Option.map_eq_some_iff.mp changed
  rw [keeping v w made]

lemma keepingChange_keep : KeepingChange (Change.keep : Change κ α) := by
  intro v r changed
  exact (Option.some.inj changed).symm

/-- What raises or changes nothing keeps the document if it does not raise. -/
lemma Keeping.eq_self_iff {f : Json κ α → Option (Json κ α)} (keeping : Keeping f)
    {t : Json κ α} : f t = some t ↔ (f t).isSome = true := by
  constructor
  · intro same
    rw [same]
    rfl
  · intro isSome
    obtain ⟨t', made⟩ := Option.isSome_iff_exists.mp isSome
    rw [made, keeping t t' made]

/-! ## Lists -/

/-- The value is a list. -/
def isList : Json κ α → Bool
  | arr _ _ => true
  | _ => false

/-- The items of a list. -/
def items : Json κ α → List (Json κ α)
  | arr _ item => List.ofFn item
  | _ => []

/-- All items of a list are changed into others. Anything but a list raises. -/
def editItems (f : Json κ α → Option (Json κ α)) : Json κ α → Option (Json κ α)
  | arr size item => (sequence fun i => f (item i)).map (arr size)
  | _ => none

lemma mem_items_arr {size : Nat} {item : Fin size → Json κ α} {v : Json κ α} :
    v ∈ (arr size item).items ↔ ∃ i, item i = v := by
  show v ∈ List.ofFn item ↔ _
  rw [List.mem_ofFn]

lemma editItems_isSome {f : Json κ α → Option (Json κ α)} {t : Json κ α} :
    (editItems f t).isSome = true ↔
      t.isList = true ∧ ∀ v ∈ t.items, (f v).isSome = true := by
  cases t with
  | arr size item =>
    show ((sequence fun i => f (item i)).map _).isSome = true ↔ _
    rw [Option.isSome_map, sequence_isSome]
    constructor
    · intro each
      refine ⟨rfl, fun v mem => ?_⟩
      obtain ⟨i, rfl⟩ := mem_items_arr.mp mem
      exact each i
    · exact fun both i => both.2 _ (mem_items_arr.mpr ⟨i, rfl⟩)
  | _ => exact ⟨fun edited => (by cases edited), fun both => (by cases both.1)⟩

lemma editItems_eq_self {f : Json κ α → Option (Json κ α)} {t : Json κ α} :
    editItems f t = some t ↔ t.isList = true ∧ ∀ v ∈ t.items, f v = some v := by
  cases t with
  | arr size item =>
    show (sequence fun i => f (item i)).map _ = _ ↔ _
    constructor
    · intro edited
      obtain ⟨item', made, same⟩ := Option.map_eq_some_iff.mp edited
      obtain rfl : item' = item := by
        injection same
      refine ⟨rfl, fun v mem => ?_⟩
      obtain ⟨i, rfl⟩ := mem_items_arr.mp mem
      exact sequence_eq_some.mp made i
    · intro both
      rw [sequence_eq_some.mpr fun i => both.2 _ (mem_items_arr.mpr ⟨i, rfl⟩)]
      rfl
  | _ => exact ⟨fun edited => (by cases edited), fun both => (by cases both.1)⟩

lemma keeping_editItems {f : Json κ α → Option (Json κ α)} (keeping : Keeping f) :
    Keeping (editItems f) := by
  intro t t' edited
  have isSome : (editItems f t).isSome = true := Option.isSome_iff_exists.mpr ⟨t', edited⟩
  obtain ⟨isList, each⟩ := editItems_isSome.mp isSome
  have same : editItems f t = some t :=
    editItems_eq_self.mpr ⟨isList, fun v mem => keeping.eq_self_iff.mpr (each v mem)⟩
  exact Option.some.inj (edited.symm.trans same)

/-- Two passes over the items of a list, one after the other, are one. -/
lemma editItems_editItems (f f' : Json κ α → Option (Json κ α)) (t : Json κ α) :
    (editItems f t).bind (editItems f') = editItems (fun v => (f v).bind f') t := by
  cases t with
  | arr size item =>
    show ((sequence fun i => f (item i)).map _).bind _ =
      (sequence fun i => (f (item i)).bind f').map _
    rw [← sequence_bind, Option.map_bind, Option.bind_map]
    rfl
  | _ => rfl

/-- A list is made of its items. -/
lemma list_items {t : Json κ α} (isList : t.isList = true) : list t.items = t := by
  cases t with
  | arr size item =>
    have congr : ∀ {n m : Nat} {f : Fin n → Json κ α} {g : Fin m → Json κ α} (eq : n = m),
        (∀ i, f i = g (i.cast eq)) → arr n f = arr m g := by
      rintro n m f g rfl same
      rw [funext same]
      rfl
    apply congr (List.length_ofFn ..)
    intro i
    show (List.ofFn item).get i = _
    rw [List.get_ofFn]
  | _ => cases isList

@[simp] lemma items_list (values : List (Json κ α)) : (list values).items = values :=
  List.ofFn_get values

/-! ## Dictionaries -/

/-- Dictionaries with the same keys and the same values. -/
lemma obj_congr {ks ks' : List κ} {unique : ks.Nodup} {unique' : ks'.Nodup}
    {value value' : κ → Json κ α} (keys : ks = ks') (values : value = value') :
    obj ks unique value = obj ks' unique' value' := by
  subst keys values
  rfl

variable [DecidableEq κ]

/-- All members of a dictionary are changed. Anything but a dictionary raises. -/
def edit (h : κ → Change κ α) : Json κ α → Option (Json κ α)
  | obj ks unique value =>
    if ∀ k ∈ ks, (h k (value k)).isSome = true then
      some (obj (ks.filter fun k => ((h k (value k)).join).isSome) (unique.filter _)
        fun k => if k ∈ ks then ((h k (value k)).join).getD null else value k)
    else none
  | _ => none

lemma edit_obj {h : κ → Change κ α} {ks : List κ} {unique : ks.Nodup} {value : κ → Json κ α}
    (each : ∀ k ∈ ks, (h k (value k)).isSome = true) :
    edit h (obj ks unique value) =
      some (obj (ks.filter fun k => ((h k (value k)).join).isSome) (unique.filter _)
        fun k => if k ∈ ks then ((h k (value k)).join).getD null else value k) :=
  if_pos each

lemma edit_isSome {h : κ → Change κ α} {t : Json κ α} :
    (edit h t).isSome = true ↔
      t.isDict = true ∧ ∀ k v, t.get? k = some v → (h k v).isSome = true := by
  cases t with
  | obj ks unique value =>
    constructor
    · intro edited
      refine ⟨rfl, fun k v found => ?_⟩
      by_cases each : ∀ k ∈ ks, (h k (value k)).isSome = true
      · by_cases mem : k ∈ ks
        · rw [get?, if_pos mem] at found
          rw [← Option.some.inj found]
          exact each k mem
        · rw [get?, if_neg mem] at found
          cases found
      · rw [edit, if_neg each] at edited
        cases edited
    · intro both
      rw [edit_obj fun k mem => both.2 k (value k) (if_pos mem)]
      rfl
  | _ => exact ⟨fun edited => (by cases edited), fun both => (by cases both.1)⟩

lemma isDict_edit {h : κ → Change κ α} {t t' : Json κ α} (edited : edit h t = some t') :
    t.isDict = true ∧ t'.isDict = true := by
  cases t with
  | obj ks unique value =>
    by_cases each : ∀ k ∈ ks, (h k (value k)).isSome = true
    · rw [edit_obj each] at edited
      obtain rfl := Option.some.inj edited
      exact ⟨rfl, rfl⟩
    · rw [edit, if_neg each] at edited
      cases edited
  | _ => cases edited

/-- The members after an edit. -/
lemma get?_edit {h : κ → Change κ α} {t t' : Json κ α} (edited : edit h t = some t') (k : κ) :
    t'.get? k = (t.get? k).bind fun v => (h k v).join := by
  cases t with
  | obj ks unique value =>
    by_cases each : ∀ k ∈ ks, (h k (value k)).isSome = true
    · rw [edit_obj each] at edited
      obtain rfl := Option.some.inj edited
      by_cases mem : k ∈ ks
      · by_cases kept : ((h k (value k)).join).isSome = true
        · have mem' : k ∈ ks.filter fun k => ((h k (value k)).join).isSome :=
            List.mem_filter.mpr ⟨mem, kept⟩
          obtain ⟨w, isNew⟩ := Option.isSome_iff_exists.mp kept
          simp only [get?, if_pos mem, if_pos mem', Option.bind_some, isNew]
          rfl
        · have notMem : k ∉ ks.filter fun k => ((h k (value k)).join).isSome :=
            fun mem' => kept (List.mem_filter.mp mem').2
          simp only [get?, if_pos mem, if_neg notMem, Option.bind_some]
          exact (Option.not_isSome_iff_eq_none.mp kept).symm
      · have notMem : k ∉ ks.filter fun k => ((h k (value k)).join).isSome :=
          fun mem' => mem (List.mem_filter.mp mem').1
        simp only [get?, if_neg mem, if_neg notMem, Option.bind_none]
    · rw [edit, if_neg each] at edited
      cases edited
  | _ => cases edited

/-- Only the changes of members that are there matter. -/
lemma edit_congr {h h' : κ → Change κ α} {t : Json κ α}
    (same : ∀ k v, t.get? k = some v → h k v = h' k v) : edit h t = edit h' t := by
  cases t with
  | obj ks unique value =>
    have each : ∀ k ∈ ks, h k (value k) = h' k (value k) :=
      fun k mem => same k (value k) (if_pos mem)
    have all : (∀ k ∈ ks, (h k (value k)).isSome = true) ↔
        ∀ k ∈ ks, (h' k (value k)).isSome = true := by
      constructor
      · intro holds k mem
        rw [← each k mem]
        exact holds k mem
      · intro holds k mem
        rw [each k mem]
        exact holds k mem
    by_cases holds : ∀ k ∈ ks, (h k (value k)).isSome = true
    · rw [edit_obj holds, edit_obj (all.mp holds)]
      apply congrArg some
      apply obj_congr
      · exact List.filter_congr fun k mem => by rw [each k mem]
      · funext k
        by_cases mem : k ∈ ks
        · rw [if_pos mem, if_pos mem, each k mem]
        · rw [if_neg mem, if_neg mem]
    · rw [edit, edit, if_neg holds, if_neg fun holds' => holds (all.mpr holds')]
  | _ => rfl

/-- An edit that keeps all members keeps the dictionary, and no other does. -/
lemma edit_eq_self {h : κ → Change κ α} {t : Json κ α} :
    edit h t = some t ↔ t.isDict = true ∧ ∀ k v, t.get? k = some v → h k v = some (some v) := by
  constructor
  · intro edited
    refine ⟨(isDict_edit edited).1, fun k v found => ?_⟩
    have after := get?_edit edited k
    rw [found] at after
    exact Option.join_eq_some_iff.mp after.symm
  · rintro ⟨dict, same⟩
    have kept : edit h t = edit (fun _ => Change.keep) t := edit_congr same
    rw [kept]
    cases t with
    | obj ks unique value =>
      rw [edit_obj fun _ _ => rfl]
      apply congrArg some
      apply obj_congr
      · exact List.filter_eq_self.mpr fun _ _ => rfl
      · funext k
        by_cases mem : k ∈ ks
        · rw [if_pos mem]
          rfl
        · rw [if_neg mem]
    | _ => cases dict

/-- Two edits, one after the other, are one. -/
lemma edit_edit (h h' : κ → Change κ α) (t : Json κ α) :
    (edit h t).bind (edit h') = edit (fun k => (h k).andThen (h' k)) t := by
  cases t with
  | obj ks unique value =>
    by_cases each : ∀ k ∈ ks, (h k (value k)).isSome = true
    · rw [edit_obj each, Option.bind_some]
      -- a member was removed or changed, and only the changed ones are edited again
      have fate : ∀ k ∈ ks, ((h k).andThen (h' k) (value k) = some none ∧
            (h k (value k)).join = none) ∨
          ∃ w, (h k (value k)).join = some w ∧ (h k).andThen (h' k) (value k) = h' k w := by
        intro k mem
        obtain ⟨r, made⟩ := Option.isSome_iff_exists.mp (each k mem)
        cases r with
        | none =>
          left
          exact ⟨Change.andThen_removed made, by rw [made]; rfl⟩
        | some w =>
          right
          exact ⟨w, by rw [made]; rfl, Change.andThen_changed made⟩
      have all : (∀ k ∈ ks.filter fun k => ((h k (value k)).join).isSome,
            (h' k (if k ∈ ks then ((h k (value k)).join).getD null else value k)).isSome = true) ↔
          ∀ k ∈ ks, ((h k).andThen (h' k) (value k)).isSome = true := by
        constructor
        · intro again k mem
          rcases fate k mem with ⟨removed, _⟩ | ⟨w, isNew, changed⟩
          · rw [removed]
            rfl
          · have here := again k (List.mem_filter.mpr ⟨mem, by rw [isNew]; rfl⟩)
            rw [if_pos mem, isNew] at here
            rw [changed]
            exact here
        · intro both k kept
          obtain ⟨mem, isSome⟩ := List.mem_filter.mp kept
          have here := both k mem
          rcases fate k mem with ⟨_, isNone⟩ | ⟨w, isNew, changed⟩
          · rw [isNone] at isSome
            cases isSome
          · rw [changed] at here
            rw [if_pos mem, isNew]
            exact here
      by_cases both : ∀ k ∈ ks, ((h k).andThen (h' k) (value k)).isSome = true
      · rw [edit_obj both, edit_obj (all.mpr both)]
        apply congrArg some
        apply obj_congr
        · rw [List.filter_filter]
          apply List.filter_congr
          intro k mem
          rw [if_pos mem]
          rcases fate k mem with ⟨removed, isNone⟩ | ⟨w, isNew, changed⟩
          · rw [removed, isNone, Option.isSome_none, Bool.and_false]
            rfl
          · rw [isNew, changed, Option.isSome_some, Bool.and_true]
            rfl
        · funext k
          by_cases mem : k ∈ ks
          · rw [if_pos mem, if_pos mem]
            rcases fate k mem with ⟨removed, isNone⟩ | ⟨w, isNew, changed⟩
            · have notKept : k ∉ ks.filter fun k => ((h k (value k)).join).isSome := by
                rw [List.mem_filter, isNone]
                exact fun kept => (by cases kept.2)
              rw [if_neg notKept, removed, isNone]
              rfl
            · have kept : k ∈ ks.filter fun k => ((h k (value k)).join).isSome := by
                rw [List.mem_filter, isNew]
                exact ⟨mem, rfl⟩
              rw [if_pos kept, isNew, changed]
              rfl
          · rw [if_neg fun kept => mem (List.mem_filter.mp kept).1, if_neg mem, if_neg mem]
      · rw [edit, edit, if_neg both, if_neg fun again => both (all.mp again)]
    · rw [edit, if_neg each, edit, if_neg]
      · rfl
      · intro again
        exact each fun k mem => Change.isSome_of_andThen (again k mem)
  | _ => rfl

/-- A member that is written as it was. -/
lemma set_self {t v : Json κ α} {k : κ} (found : t.get? k = some v) : t.set k v = t := by
  cases t with
  | obj ks unique value =>
    by_cases mem : k ∈ ks
    · rw [get?, if_pos mem] at found
      apply obj_congr
      · exact if_pos mem
      · rw [← Option.some.inj found, Function.update_eq_self]
    · rw [get?, if_neg mem] at found
      cases found
  | _ => cases found

/-- A member that is written twice. -/
lemma set_set (t v w : Json κ α) (k : κ) : (t.set k v).set k w = t.set k w := by
  cases t with
  | obj ks unique value =>
    apply obj_congr
    · by_cases mem : k ∈ ks
      · rw [if_pos mem, if_pos mem]
      · rw [if_neg mem, if_pos (List.mem_append_right ks List.mem_cons_self)]
    · exact Function.update_idem ..
  | _ => rfl

/-- One member of a dictionary is changed, if it is there. -/
def alter (k : κ) (h : Change κ α) : Json κ α → Option (Json κ α) :=
  edit fun k' => if k' = k then h else Change.keep

lemma alter_absent {k : κ} {h : Change κ α} {t : Json κ α} (dict : t.isDict = true)
    (absent : t.get? k = none) : alter k h t = some t := by
  apply edit_eq_self.mpr
  refine ⟨dict, fun k' v found => ?_⟩
  by_cases same : k' = k
  · rw [same, absent] at found
    cases found
  · rw [if_neg same]
    rfl

lemma alter_alter (k : κ) (h h' : Change κ α) (t : Json κ α) :
    (alter k h t).bind (alter k h') = alter k (h.andThen h') t := by
  rw [alter, alter, edit_edit]
  apply edit_congr
  intro k' v _
  by_cases same : k' = k
  · rw [if_pos same, if_pos same, if_pos same]
  · rw [if_neg same, if_neg same, if_neg same, Change.keep_andThen]

/-- The members after one was changed. -/
lemma get?_alter {k : κ} {h : Change κ α} {t t' : Json κ α} (altered : alter k h t = some t') :
    t'.get? k = (t.get? k).bind fun v => (h v).join := by
  rw [get?_edit altered k, if_pos rfl]

lemma alter_isSome {k : κ} {h : Change κ α} {t : Json κ α} :
    (alter k h t).isSome = true ↔
      t.isDict = true ∧ ∀ v, t.get? k = some v → (h v).isSome = true := by
  rw [alter, edit_isSome]
  apply and_congr_right
  intro _
  constructor
  · intro each v found
    have here := each k v found
    rw [if_pos rfl] at here
    exact here
  · intro here k' v found
    by_cases same : k' = k
    · rw [if_pos same]
      exact here v (same ▸ found)
    · rw [if_neg same]
      rfl

lemma alter_eq_self {k : κ} {h : Change κ α} {t : Json κ α} :
    alter k h t = some t ↔ t.isDict = true ∧ ∀ v, t.get? k = some v → h v = some (some v) := by
  rw [alter, edit_eq_self]
  apply and_congr_right
  intro _
  constructor
  · intro each v found
    have here := each k v found
    rw [if_pos rfl] at here
    exact here
  · intro here k' v found
    by_cases same : k' = k
    · rw [if_pos same]
      exact here v (same ▸ found)
    · rw [if_neg same]
      rfl

/-- An edit and then a change of one member after the other are one edit. -/
lemma edit_foldlM_alter (h : Change κ α) {ks : List κ} (unique : ks.Nodup) (g : κ → Change κ α)
    (t : Json κ α) :
    (edit g t).bind (fun t' => ks.foldlM (fun t k => alter k h t) t') =
      edit (fun k => (g k).andThen (if k ∈ ks then h else Change.keep)) t := by
  induction ks generalizing g with
  | nil =>
    have same : (fun k => (g k).andThen (if k ∈ ([] : List κ) then h else Change.keep)) = g := by
      funext k
      rw [if_neg List.not_mem_nil, Change.andThen_keep]
    rw [same]
    cases edit g t <;> rfl
  | cons k ks ih =>
    obtain ⟨fresh, unique⟩ := List.nodup_cons.mp unique
    have first : (edit g t).bind (alter k h) =
        edit (fun k' => (g k').andThen (if k' = k then h else Change.keep)) t := edit_edit ..
    show (edit g t).bind (fun t' => (alter k h t').bind fun t'' => ks.foldlM _ t'') = _
    rw [← Option.bind_assoc, first, ih unique]
    apply edit_congr
    intro k' v _
    by_cases same : k' = k
    · subst same
      rw [if_pos rfl, if_neg fresh, if_pos List.mem_cons_self, Change.andThen_keep]
    · rw [if_neg same, Change.andThen_keep]
      by_cases mem : k' ∈ ks
      · rw [if_pos mem, if_pos (List.mem_cons_of_mem k mem)]
      · rw [if_neg mem, if_neg fun mem' => (List.mem_cons.mp mem').elim same mem]

/-- A change of one member after the other is one edit. -/
lemma foldlM_alter (h : Change κ α) {k : κ} {ks : List κ} (unique : (k :: ks).Nodup)
    (t : Json κ α) :
    (k :: ks).foldlM (fun t k => alter k h t) t =
      edit (fun k' => if k' ∈ k :: ks then h else Change.keep) t := by
  obtain ⟨fresh, unique⟩ := List.nodup_cons.mp unique
  show (alter k h t).bind (fun t' => ks.foldlM _ t') = _
  rw [alter, edit_foldlM_alter h unique]
  apply edit_congr
  intro k' v _
  by_cases same : k' = k
  · subst same
    rw [if_pos rfl, if_neg fresh, if_pos List.mem_cons_self, Change.andThen_keep]
  · rw [if_neg same, Change.keep_andThen]
    by_cases mem : k' ∈ ks
    · rw [if_pos mem, if_pos (List.mem_cons_of_mem k mem)]
    · rw [if_neg mem, if_neg fun mem' => (List.mem_cons.mp mem').elim same mem]

lemma keeping_edit {h : κ → Change κ α} (keeping : ∀ k, KeepingChange (h k)) :
    Keeping (edit h) := by
  intro t t' edited
  have dict := (isDict_edit edited).1
  have same : edit h t = some t := by
    apply edit_eq_self.mpr
    refine ⟨dict, fun k v found => ?_⟩
    have each := (edit_isSome.mp (Option.isSome_iff_exists.mpr ⟨t', edited⟩)).2 k v found
    obtain ⟨r, changed⟩ := Option.isSome_iff_exists.mp each
    rw [changed, keeping k v r changed]
  exact Option.some.inj (edited.symm.trans same)

lemma keeping_alter {k : κ} {h : Change κ α} (keeping : KeepingChange h) :
    Keeping (alter k h) := by
  apply keeping_edit
  intro k'
  by_cases same : k' = k
  · rw [if_pos same]
    exact keeping
  · rw [if_neg same]
    exact keepingChange_keep

end Json

end Tacker.Basis
