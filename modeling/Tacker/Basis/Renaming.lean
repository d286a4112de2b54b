import Tacker.Basis.Overlay
import Tacker.Basis.Paths

/-!
# Renaming the keys of documents

All keys of a document are written anew, but not those below one key that is left alone. Two such
renamings undo each other exactly on the documents whose keys they give back, and what is at the end
of a path is found at the end of the renamed path.
-/

namespace Tacker.Basis.Json

variable {κ α : Type}

/-! ## Conditions on dictionaries -/

/-- A condition on the keys of the dictionaries of a document that are not below `alone`. -/
def EachDict (P : List κ → Prop) (alone : κ) : Json κ α → Prop
  | arr _ item => ∀ i, EachDict P alone (item i)
  | obj ks _ value => P ks ∧ ∀ k ∈ ks, k ≠ alone → EachDict P alone (value k)
  | _ => True

lemma EachDict.mono {P Q : List κ → Prop} {alone : κ} {t : Json κ α} (each : EachDict P alone t)
    (mono : ∀ ks, P ks → Q ks) : EachDict Q alone t := by
  induction t with
  | null => trivial
  | atom value => trivial
  | arr size item ih => exact fun i => ih i (each i)
  | obj ks unique value ih =>
    exact ⟨mono ks each.1, fun k mem other => ih k (each.2 k mem other)⟩

/-- A condition on each key. -/
def EachKey (P : κ → Prop) (alone : κ) : Json κ α → Prop :=
  EachDict (fun ks => ∀ k ∈ ks, P k) alone

lemma EachKey.mono {P Q : κ → Prop} {alone : κ} {t : Json κ α} (each : EachKey P alone t)
    (mono : ∀ k, P k → Q k) : EachKey Q alone t :=
  EachDict.mono each fun _ all k mem => mono k (all k mem)

lemma EachKey.and {P Q : κ → Prop} {alone : κ} {t : Json κ α} (left : EachKey P alone t)
    (right : EachKey Q alone t) : EachKey (fun k => P k ∧ Q k) alone t := by
  induction t with
  | null => trivial
  | atom value => trivial
  | arr size item ih => exact fun i => ih i (left i) (right i)
  | obj ks unique value ih =>
    refine ⟨fun k mem => ⟨left.1 k mem, right.1 k mem⟩, fun k mem other => ?_⟩
    exact ih k (left.2 k mem other) (right.2 k mem other)

/-- No two keys of a dictionary get the same name. -/
def KeysApart (f : κ → κ) (alone : κ) : Json κ α → Prop :=
  EachDict (fun ks => ∀ j ∈ ks, ∀ k ∈ ks, f j = f k → j = k) alone

/-! ## Renaming -/

variable [DecidableEq κ]

instance decidableEachDict {P : List κ → Prop} [∀ ks, Decidable (P ks)] {alone : κ} :
    (t : Json κ α) → Decidable (EachDict P alone t)
  | null => .isTrue trivial
  | atom _ => .isTrue trivial
  | arr _ item =>
    have : ∀ i, Decidable (EachDict P alone (item i)) := fun i => decidableEachDict (item i)
    inferInstanceAs (Decidable (∀ i, EachDict P alone (item i)))
  | obj ks _ value =>
    have : ∀ k, Decidable (EachDict P alone (value k)) := fun k => decidableEachDict (value k)
    inferInstanceAs (Decidable (P ks ∧ ∀ k ∈ ks, k ≠ alone → EachDict P alone (value k)))

instance {P : κ → Prop} [DecidablePred P] {alone : κ} (t : Json κ α) :
    Decidable (EachKey P alone t) :=
  inferInstanceAs (Decidable (EachDict (fun ks => ∀ k ∈ ks, P k) alone t))

section lastWrite

variable {ws : List (κ × Json κ α)} {k : κ} {v : Json κ α}

lemma isSome_lastWrite : (lastWrite ws k).isSome = true ↔ ∃ w ∈ ws, w.1 = k := by
  induction ws using List.reverseRecOn with
  | nil => simp [lastWrite]
  | append_singleton ws w ih =>
    rw [lastWrite_snoc]
    by_cases same : k = w.1
    · rw [if_pos same]
      exact ⟨fun _ => ⟨w, List.mem_append_right ws List.mem_cons_self, same.symm⟩, fun _ => rfl⟩
    · rw [if_neg same, ih]
      constructor
      · rintro ⟨w', mem, eq⟩
        exact ⟨w', List.mem_append_left _ mem, eq⟩
      · rintro ⟨w', mem, eq⟩
        rcases List.mem_append.mp mem with mem | mem
        · exact ⟨w', mem, eq⟩
        · exact absurd (List.mem_singleton.mp mem ▸ eq).symm same

/-- A key under which one value only is written. -/
lemma lastWrite_of_unique (mem : (k, v) ∈ ws) (unique : ∀ w ∈ ws, w.1 = k → w.2 = v) :
    lastWrite ws k = some v := by
  induction ws using List.reverseRecOn with
  | nil => cases mem
  | append_singleton ws w ih =>
    rw [lastWrite_snoc]
    by_cases same : k = w.1
    · rw [if_pos same, unique w (List.mem_append_right ws List.mem_cons_self) same.symm]
    · rw [if_neg same]
      apply ih
      · rcases List.mem_append.mp mem with mem | mem
        · exact mem
        · exact absurd (congrArg Prod.fst (List.mem_singleton.mp mem)) same
      · exact fun w' mem' => unique w' (List.mem_append_left _ mem')

end lastWrite

/-- The document with its keys written anew, into new dictionaries. -/
def renameKeys (f : κ → κ) (alone : κ) : Json κ α → Json κ α
  | null => null
  | atom value => atom value
  | arr size item => arr size fun i => renameKeys f alone (item i)
  | obj ks _ value =>
    empty.writeAll (ks.map fun k =>
      (f k, if k = alone then value k else renameKeys f alone (value k)))

variable {f g : κ → κ} {alone alone' k k' : κ} {t v : Json κ α}

@[simp]
lemma isDict_renameKeys : (renameKeys f alone t).isDict = t.isDict := by
  cases t with
  | obj ks unique value => exact isDict_writeAll isDict_empty
  | _ => rfl

/-- The keys of a renamed dictionary are the names of its keys. -/
lemma mem_keys_renameKeys (dict : t.isDict = true) :
    k' ∈ (renameKeys f alone t).keys ↔ ∃ k ∈ t.keys, f k = k' := by
  cases t with
  | obj ks unique value =>
    rw [mem_keys_iff, renameKeys, get?_writeAll isDict_empty, get?_empty, Option.or_none,
      isSome_lastWrite]
    constructor
    · rintro ⟨w, mem, eq⟩
      obtain ⟨k, isKey, rfl⟩ := List.mem_map.mp mem
      exact ⟨k, isKey, eq⟩
    · rintro ⟨k, isKey, eq⟩
      exact ⟨_, List.mem_map.mpr ⟨k, isKey, rfl⟩, eq⟩
  | _ => cases dict

/-- The value of a key whose name no other key gets. -/
lemma get?_renameKeys (apart : ∀ j ∈ t.keys, f j = f k → j = k) (found : t.get? k = some v) :
    (renameKeys f alone t).get? (f k) =
      some (if k = alone then v else renameKeys f alone v) := by
  cases t with
  | obj ks unique value =>
    obtain ⟨mem, rfl⟩ : k ∈ ks ∧ value k = v := by
      rw [get?] at found
      obtain ⟨mem, eq⟩ := Option.ite_none_right_eq_some.mp found
      exact ⟨mem, Option.some.inj eq⟩
    rw [renameKeys, get?_writeAll isDict_empty, get?_empty, Option.or_none]
    apply lastWrite_of_unique
    · exact List.mem_map.mpr ⟨k, mem, rfl⟩
    · intro w isWrite same
      obtain ⟨j, isKey, rfl⟩ := List.mem_map.mp isWrite
      rw [apart j isKey same]
  | _ => cases found

/-! ## Back to the same keys -/

/-- The value of a key that gets its name back, after both renamings. -/
lemma get?_renameKeys_back (there : f alone = alone') (back : g alone' = alone)
    (fixed : ∀ k ∈ t.keys, g (f k) = k) (found : t.get? k = some v) :
    (renameKeys g alone' (renameKeys f alone t)).get? k =
      some (if k = alone then v else renameKeys g alone' (renameKeys f alone v)) := by
  have dict := isDict_of_get? found
  have isKey : k ∈ t.keys := by rw [mem_keys_iff, found]; rfl
  have once : (renameKeys f alone t).get? (f k) =
      some (if k = alone then v else renameKeys f alone v) :=
    get?_renameKeys (fun j mem same => by rw [← fixed j mem, same, fixed k isKey]) found
  have apart : ∀ j' ∈ (renameKeys f alone t).keys, g j' = g (f k) → j' = f k := by
    intro j' mem same
    obtain ⟨j, isKey', rfl⟩ := (mem_keys_renameKeys dict).mp mem
    rw [fixed j isKey', fixed k isKey] at same
    rw [same]
  have twice : (renameKeys g alone' (renameKeys f alone t)).get? (g (f k)) =
      some (if f k = alone' then if k = alone then v else renameKeys f alone v
        else renameKeys g alone' (if k = alone then v else renameKeys f alone v)) :=
    get?_renameKeys apart once
  rw [fixed k isKey] at twice
  rw [twice]
  by_cases same : k = alone
  · rw [if_pos same, if_pos same, if_pos (same ▸ there)]
  · rw [if_neg same, if_neg same, if_neg]
    intro eq
    apply same
    rw [← fixed k isKey, eq, back]

/-- Keys that get their names back come from keys of the document. -/
lemma mem_keys_back (dict : t.isDict = true)
    (mem : k ∈ (renameKeys g alone' (renameKeys f alone t)).keys) :
    ∃ j ∈ t.keys, g (f j) = k := by
  obtain ⟨k', mem, eq⟩ := (mem_keys_renameKeys (isDict_renameKeys.trans dict)).mp mem
  obtain ⟨j, isKey, rfl⟩ := (mem_keys_renameKeys dict).mp mem
  exact ⟨j, isKey, eq⟩

/-- Where every key gets its name back the renamings give the document back. -/
theorem same_of_fixed (there : f alone = alone') (back : g alone' = alone)
    (fixed : EachKey (fun k => g (f k) = k) alone t) :
    Same (renameKeys g alone' (renameKeys f alone t)) t := by
  induction t with
  | null => trivial
  | atom value => rfl
  | arr size item ih => exact ⟨rfl, fun i => ih i (fixed i)⟩
  | obj ks unique value ih =>
    apply (same_iff (by rw [isDict_renameKeys, isDict_renameKeys]; rfl) rfl).mpr
    intro k
    by_cases isKey : k ∈ ks
    · have found : (obj ks unique value).get? k = some (value k) := if_pos isKey
      have keysFixed : ∀ k ∈ (obj ks unique value).keys, g (f k) = k := fixed.1
      rw [get?_renameKeys_back there back keysFixed found, found]
      by_cases same : k = alone
      · rw [if_pos same]
        exact .some (Same.refl _)
      · rw [if_neg same]
        exact .some (ih k (fixed.2 k isKey same))
    · have absent : (obj ks unique value).get? k = none := if_neg isKey
      rw [absent]
      cases found : (renameKeys g alone' (renameKeys f alone (obj ks unique value))).get? k with
      | none => exact .none
      | some v =>
        have mem : k ∈ (renameKeys g alone' (renameKeys f alone (obj ks unique value))).keys := by
          rw [mem_keys_iff, found]
          rfl
        obtain ⟨j, isKey', eq⟩ := mem_keys_back rfl mem
        rw [fixed.1 j isKey'] at eq
        exact absurd (eq ▸ isKey') isKey

/-- If the renamings give the document back every key gets its name back, for names that stay when
they are made twice. -/
theorem fixed_of_same (there : f alone = alone') (back : g alone' = alone)
    (stays : EachKey (fun k => g (f (g (f k))) = g (f k)) alone t)
    (same : Same (renameKeys g alone' (renameKeys f alone t)) t) :
    EachKey (fun k => g (f k) = k) alone t := by
  induction t with
  | null => trivial
  | atom value => trivial
  | arr size item ih =>
    obtain ⟨eq, each⟩ := same
    exact fun i => ih i (stays i) (each i)
  | obj ks unique value ih =>
    have members := (same_iff (by rw [isDict_renameKeys, isDict_renameKeys]; rfl) rfl).mp same
    have fixed : ∀ k ∈ (obj ks unique value).keys, g (f k) = k := by
      intro k isKey
      have found : (obj ks unique value).get? k = some (value k) := if_pos isKey
      have member := members k
      rw [found] at member
      have mem : k ∈ (renameKeys g alone' (renameKeys f alone (obj ks unique value))).keys := by
        rw [mem_keys_iff]
        cases eq : (renameKeys g alone' (renameKeys f alone (obj ks unique value))).get? k with
        | some v => rfl
        | none =>
          rw [eq] at member
          cases member
      obtain ⟨j, isKey', eq⟩ := mem_keys_back rfl mem
      rw [← eq]
      exact stays.1 j isKey'
    refine ⟨fixed, fun k isKey other => ih k (stays.2 k isKey other) ?_⟩
    have found : (obj ks unique value).get? k = some (value k) := if_pos isKey
    have member := members k
    rw [get?_renameKeys_back there back fixed found, found, if_neg other] at member
    cases member with
    | some same => exact same

omit [DecidableEq κ] in
/-- Keys that get their names back stay apart. -/
lemma keysApart_of_fixed (fixed : EachKey (fun k => g (f k) = k) alone t) :
    KeysApart f alone t := by
  apply EachDict.mono fixed
  intro ks fixed j isKey k isKey' same
  rw [← fixed j isKey, same, fixed k isKey']

/-- So do their names. -/
lemma keysApart_renamed (there : f alone = alone')
    (fixed : EachKey (fun k => g (f k) = k) alone t) :
    KeysApart g alone' (renameKeys f alone t) := by
  induction t with
  | null => trivial
  | atom value => trivial
  | arr size item ih => exact fun i => ih i (fixed i)
  | obj ks unique value ih =>
    have apart (j k : κ) (isKey : j ∈ ks) (isKey' : k ∈ ks) (same : f j = f k) : j = k := by
      rw [← fixed.1 j isKey, same, fixed.1 k isKey']
    have dict : (renameKeys f alone (obj ks unique value)).isDict = true := by
      rw [isDict_renameKeys]
      rfl
    have names (k' : κ) : k' ∈ (renameKeys f alone (obj ks unique value)).keys ↔
        ∃ k ∈ ks, f k = k' := mem_keys_renameKeys rfl
    have values (k : κ) (isKey : k ∈ ks) :
        (renameKeys f alone (obj ks unique value)).get? (f k) =
          some (if k = alone then value k else renameKeys f alone (value k)) :=
      get?_renameKeys (fun j mem same => apart j k mem isKey same) (if_pos isKey)
    cases eq : renameKeys f alone (obj ks unique value) with
    | obj ks' unique' value' =>
      rw [eq] at names values
      refine ⟨fun j' mem k' mem' same => ?_, fun k' mem other => ?_⟩
      · obtain ⟨j, isKey, rfl⟩ := (names j').mp mem
        obtain ⟨k, isKey', rfl⟩ := (names k').mp mem'
        rw [fixed.1 j isKey, fixed.1 k isKey'] at same
        rw [same]
      · obtain ⟨k, isKey, rfl⟩ := (names k').mp mem
        have notAlone : k ≠ alone := fun same => other (same ▸ there)
        have value := values k isKey
        rw [get?, if_pos mem, if_neg notAlone] at value
        rw [Option.some.inj value]
        exact ih k (fixed.2 k isKey notAlone)
    | _ =>
      rw [eq] at dict
      cases dict

/-! ## Paths -/

/-- A step with its key renamed. -/
def Step.rename (f : κ → κ) : Step κ → Step κ
  | .key k => .key (f k)
  | .index i => .index i

/-- What is at the end of a path is renamed at the end of the renamed path. -/
lemma reach_renameKeys {path : List (Step κ)} (apart : KeysApart f alone t)
    (clear : Step.key alone ∉ path) (reached : t.reach path = some v) :
    (renameKeys f alone t).reach (path.map (Step.rename f)) = some (renameKeys f alone v) ∧
      KeysApart f alone v := by
  induction path generalizing t with
  | nil =>
    rw [← Option.some.inj reached]
    exact ⟨rfl, apart⟩
  | cons step path ih =>
    rw [List.mem_cons, not_or] at clear
    rw [reach_cons] at reached
    obtain ⟨u, found, more⟩ := Option.bind_eq_some_iff.mp reached
    rw [List.map_cons, reach_cons]
    cases step with
    | key k =>
      have notAlone : k ≠ alone := fun same => clear.1 (same ▸ rfl)
      cases t with
      | obj ks unique value =>
        obtain ⟨isKey, eq⟩ := Option.ite_none_right_eq_some.mp found
        have others : ∀ j ∈ (obj ks unique value).keys, f j = f k → j = k :=
          fun j mem same => apart.1 j mem k isKey same
        have child : (renameKeys f alone (obj ks unique value)).get? (f k) =
            some (if k = alone then u else renameKeys f alone u) := get?_renameKeys others found
        rw [if_neg notAlone] at child
        show ((renameKeys f alone (obj ks unique value)).get? (f k)).bind _ = _ ∧ _
        rw [child]
        exact ih (Option.some.inj eq ▸ apart.2 k isKey notAlone) clear.2 more
      | _ => cases found
    | index i =>
      cases t with
      | arr size item =>
        obtain ⟨bound, eq⟩ := Option.dite_none_right_eq_some.mp found
        show ((renameKeys f alone (arr size item)).item? i).bind _ = _ ∧ _
        rw [renameKeys, item?, dif_pos bound]
        apply ih (apart ⟨i, bound⟩) clear.2
        rw [Option.some.inj eq]
        exact more
      | _ => cases found

/-- What is below the key that is left alone is found unchanged below its new name. -/
theorem reach_alone {path : List (Step κ)} (apart : KeysApart f alone t)
    (clear : Step.key alone ∉ path) (reached : t.reach (path ++ [.key alone]) = some v) :
    (renameKeys f alone t).reach (path.map (Step.rename f) ++ [.key (f alone)]) = some v := by
  rw [reach_append] at reached
  obtain ⟨u, toDict, found⟩ := Option.bind_eq_some_iff.mp reached
  obtain ⟨renamed, apart⟩ := reach_renameKeys apart clear toDict
  rw [reach_append, renamed]
  rw [reach_cons] at found
  obtain ⟨w, found, eq⟩ := Option.bind_eq_some_iff.mp found
  rw [← Option.some.inj eq]
  show ((renameKeys f alone u).get? (f alone)).bind _ = _
  have found : u.get? alone = some w := found
  cases u with
  | obj ks unique value =>
    have isKey : alone ∈ ks := (Option.ite_none_right_eq_some.mp found).1
    have others : ∀ j ∈ (obj ks unique value).keys, f j = f alone → j = alone :=
      fun j mem same => apart.1 j mem alone isKey same
    rw [get?_renameKeys others found, if_pos rfl]
    rfl
  | _ => cases found

end Tacker.Basis.Json
