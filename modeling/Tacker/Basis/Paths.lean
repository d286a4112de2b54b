import Tacker.Basis.Edit

/-!
# Paths in documents

A document is known, up to the order of its members, by what is found at each path of keys and
indices. A change that removes parts of a document is known by what it removes: everything that is
at these parts and below them, and nothing else.
-/

namespace Tacker.Basis.Json

variable {κ α : Type}

/-! ## Steps and nodes -/

/-- A step down into a document: to a member of a dictionary or to an item of a list. -/
inductive Step (κ : Type) where
  | key (k : κ)
  | index (i : Nat)
deriving DecidableEq

/-- What is found at a path, without what is below it. -/
inductive Node (α : Type) where
  | null
  | scalar (value : α)
  | list (size : Nat)
  | dict

/-- The document without what is below it. -/
def node : Json κ α → Node α
  | null => .null
  | atom value => .scalar value
  | arr size _ => .list size
  | obj _ _ _ => .dict

/-- An item of a list. -/
def item? : Json κ α → Nat → Option (Json κ α)
  | arr size item, i => if bound : i < size then some (item ⟨i, bound⟩) else none
  | _, _ => none

lemma node_eq_dict {t : Json κ α} : t.node = .dict ↔ t.isDict = true := by
  cases t <;> simp [node, isDict]

lemma node_eq_null {t : Json κ α} : t.node = .null ↔ t.isNull = true := by
  cases t <;> simp [node, isNull]

lemma item?_of_isDict {t : Json κ α} (dict : t.isDict = true) (i : Nat) : t.item? i = none := by
  cases t with
  | obj ks unique value => rfl
  | _ => cases dict

variable [DecidableEq κ]

/-- One step down. -/
def child? (t : Json κ α) : Step κ → Option (Json κ α)
  | .key k => t.get? k
  | .index i => t.item? i

/-- The document at the end of a path. -/
def reach (t : Json κ α) : List (Step κ) → Option (Json κ α)
  | [] => some t
  | step :: path => (t.child? step).bind fun v => v.reach path

/-- What is found at a path. -/
def node? (t : Json κ α) (path : List (Step κ)) : Option (Node α) :=
  (t.reach path).map node

lemma reach_cons (t : Json κ α) (step : Step κ) (path : List (Step κ)) :
    t.reach (step :: path) = (t.child? step).bind fun v => v.reach path := rfl

lemma reach_append (t : Json κ α) (path rest : List (Step κ)) :
    t.reach (path ++ rest) = (t.reach path).bind fun v => v.reach rest := by
  induction path generalizing t with
  | nil => rfl
  | cons step path ih =>
    rw [List.cons_append, reach_cons, reach_cons, Option.bind_assoc]
    simp only [ih]

lemma node?_cons {t v : Json κ α} (step : Step κ) (found : t.child? step = some v)
    (path : List (Step κ)) : t.node? (step :: path) = v.node? path := by
  rw [node?, reach_cons, found]
  rfl

lemma node?_cons_absent {t : Json κ α} (step : Step κ) (absent : t.child? step = none)
    (path : List (Step κ)) : t.node? (step :: path) = none := by
  rw [node?, reach_cons, absent]
  rfl

lemma node?_eq_some {t : Json κ α} {path : List (Step κ)} {n : Node α} :
    t.node? path = some n ↔ ∃ v, t.reach path = some v ∧ v.node = n :=
  Option.map_eq_some_iff

lemma node?_eq_none {t : Json κ α} {path : List (Step κ)} :
    t.node? path = none ↔ t.reach path = none :=
  Option.map_eq_none_iff

/-- The same documents have the same children. -/
lemma Same.child? {s t : Json κ α} (same : Same s t) (step : Step κ) :
    Option.Rel Same (s.child? step) (t.child? step) := by
  cases step with
  | key k => exact same.get? k
  | index i =>
    show Option.Rel Same (s.item? i) (t.item? i)
    cases s with
    | arr size item =>
      cases t with
      | arr size' item' =>
        obtain ⟨rfl, each⟩ := same
        show Option.Rel Same (if bound : i < size then some (item ⟨i, bound⟩) else none)
          (if bound : i < size then some (item' ⟨i, bound⟩) else none)
        by_cases bound : i < size
        · rw [dif_pos bound, dif_pos bound]
          exact .some (each ⟨i, bound⟩)
        · rw [dif_neg bound, dif_neg bound]
          exact .none
      | _ => cases same
    | _ =>
      cases t with
      | arr size' item' => cases same
      | _ => exact .none

/-- The same documents have the same documents at the ends of all paths. -/
lemma Same.reach {s t v : Json κ α} (same : Same s t) {path : List (Step κ)}
    (reached : s.reach path = some v) : ∃ v', t.reach path = some v' ∧ Same v v' := by
  induction path generalizing s t with
  | nil =>
    rw [← Option.some.inj reached]
    exact ⟨t, rfl, same⟩
  | cons step path ih =>
    rw [reach_cons] at reached
    obtain ⟨u, found, reached⟩ := Option.bind_eq_some_iff.mp reached
    have rel := same.child? step
    rw [found] at rel
    cases found' : t.child? step with
    | none =>
      rw [found'] at rel
      cases rel
    | some u' =>
      rw [found'] at rel
      cases rel with
      | some same' =>
        obtain ⟨v', reached', same''⟩ := ih same' reached
        refine ⟨v', ?_, same''⟩
        rw [reach_cons, found']
        exact reached'

/-! ## Paths of keys -/

/-- A path through dictionaries only. -/
def keyPath (keys : List κ) : List (Step κ) := keys.map .key

omit [DecidableEq κ] in
lemma keyPath_cons (k : κ) (keys : List κ) : keyPath (k :: keys) = .key k :: keyPath keys := rfl

/-- Something other than null is found at the path. -/
def NonNull (t : Json κ α) (path : List (Step κ)) : Prop :=
  ∃ v, t.reach path = some v ∧ v.isNull = false

/-- What is found on the way down a path of keys is a dictionary. -/
def DictsAbove (t : Json κ α) (keys : List κ) : Prop :=
  ∀ front, front <+: keys → front ≠ keys → ∀ v, t.reach (keyPath front) = some v →
    v.isDict = true

lemma dictsAbove_cons {t : Json κ α} {k : κ} {keys : List κ} :
    DictsAbove t (k :: keys) ↔
      t.isDict = true ∧ ∀ v, t.get? k = some v → DictsAbove v keys := by
  constructor
  · intro above
    refine ⟨above [] List.nil_prefix (by simp) t rfl, fun v found front isFront ne u reached => ?_⟩
    apply above (k :: front) (List.cons_prefix_cons.mpr ⟨rfl, isFront⟩)
      (fun same => ne (List.cons_eq_cons.mp same).2) u
    have child : t.child? (.key k) = some v := found
    rw [keyPath_cons, reach_cons, child]
    exact reached
  · rintro ⟨dict, below⟩ front isFront ne v reached
    cases front with
    | nil =>
      rw [← Option.some.inj reached]
      exact dict
    | cons k' front =>
      obtain ⟨rfl, below'⟩ := List.cons_prefix_cons.mp isFront
      rw [keyPath_cons, reach_cons] at reached
      obtain ⟨u, found, reached⟩ := Option.bind_eq_some_iff.mp reached
      exact below u found front below' (fun same => ne (congrArg _ same)) v reached

lemma dictsAbove_nil (t : Json κ α) : DictsAbove t [] := by
  intro front isFront ne
  exact absurd (List.prefix_nil.mp isFront) ne

/-- What is above something is a dictionary. -/
lemma dictsAbove_of_reach {t v : Json κ α} {keys : List κ}
    (reached : t.reach (keyPath keys) = some v) : DictsAbove t keys := by
  induction keys generalizing t with
  | nil => exact dictsAbove_nil t
  | cons k keys ih =>
    rw [keyPath_cons, reach_cons] at reached
    obtain ⟨u, found, reached⟩ := Option.bind_eq_some_iff.mp reached
    have found : t.get? k = some u := found
    apply dictsAbove_cons.mpr
    refine ⟨isDict_of_get? found, fun u' found' => ?_⟩
    rw [← Option.some.inj (found.symm.trans found')]
    exact ih reached

/-! ## Parts -/

/-- A part of a document, by the paths that lead to it and the documents there. -/
abbrev Part (κ α : Type) := List (Step κ) → Json κ α → Prop

/-- The path leads to the part or below it. -/
def Covers (C : Part κ α) (t : Json κ α) (path : List (Step κ)) : Prop :=
  ∃ front rest v, path = front ++ rest ∧ t.reach front = some v ∧ C front v

/-- The part of a member of a dictionary. -/
def AtKey (k : κ) (C : Part κ α) : Part κ α := fun path v =>
  ∃ rest, path = .key k :: rest ∧ C rest v

/-- The parts of the members of a dictionary. -/
def AtKeys (C : κ → Part κ α) : Part κ α := fun path v =>
  ∃ k rest, path = .key k :: rest ∧ C k rest v

/-- The parts of the items of a list. -/
def AtItems (C : Part κ α) : Part κ α := fun path v =>
  ∃ i rest, path = .index i :: rest ∧ C rest v

/-- No part at all. -/
def nowhere : Part κ α := fun _ _ => False

variable {C C' : Part κ α}

lemma covers_whole {t : Json κ α} (whole : C [] t) (path : List (Step κ)) : Covers C t path :=
  ⟨[], path, t, rfl, rfl, whole⟩

lemma not_covers_nowhere (t : Json κ α) (path : List (Step κ)) : ¬ Covers nowhere t path := by
  rintro ⟨_, _, _, _, _, absurd⟩
  exact absurd

lemma Covers.append {t : Json κ α} {path : List (Step κ)} (covers : Covers C t path)
    (rest : List (Step κ)) : Covers C t (path ++ rest) := by
  obtain ⟨front, middle, v, rfl, found, isPart⟩ := covers
  exact ⟨front, middle ++ rest, v, List.append_assoc .., found, isPart⟩

lemma covers_or {t : Json κ α} {path : List (Step κ)} :
    Covers (fun p v => C p v ∨ C' p v) t path ↔ Covers C t path ∨ Covers C' t path := by
  constructor
  · rintro ⟨front, rest, v, same, found, isPart | isPart⟩
    · exact .inl ⟨front, rest, v, same, found, isPart⟩
    · exact .inr ⟨front, rest, v, same, found, isPart⟩
  · rintro (⟨front, rest, v, same, found, isPart⟩ | ⟨front, rest, v, same, found, isPart⟩)
    · exact ⟨front, rest, v, same, found, .inl isPart⟩
    · exact ⟨front, rest, v, same, found, .inr isPart⟩

/-- A part that does not have the document itself is below one of its children. -/
lemma covers_cons {t v : Json κ α} (step : Step κ) {path : List (Step κ)} (notWhole : ¬ C [] t)
    (found : t.child? step = some v) :
    Covers C t (step :: path) ↔ Covers (fun rest u => C (step :: rest) u) v path := by
  constructor
  · rintro ⟨front, rest, u, same, reached, isPart⟩
    cases front with
    | nil =>
      rw [← Option.some.inj reached] at isPart
      exact absurd isPart notWhole
    | cons first front =>
      obtain ⟨rfl, rfl⟩ := List.cons_eq_cons.mp same
      rw [reach_cons, found] at reached
      exact ⟨front, rest, u, rfl, reached, isPart⟩
  · rintro ⟨front, rest, u, rfl, reached, isPart⟩
    refine ⟨step :: front, rest, u, rfl, ?_, isPart⟩
    rw [reach_cons, found]
    exact reached

lemma covers_atKeys {D : κ → Part κ α} {t v : Json κ α} {k : κ} {path : List (Step κ)}
    (found : t.get? k = some v) :
    Covers (AtKeys D) t (.key k :: path) ↔ Covers (D k) v path := by
  have notWhole : ¬ AtKeys D [] t := by
    rintro ⟨_, _, same, _⟩
    cases same
  rw [covers_cons (.key k) notWhole found]
  have same : (fun rest u => AtKeys D (.key k :: rest) u) = D k := by
    funext rest u
    apply propext
    constructor
    · rintro ⟨k', rest', same, isPart⟩
      obtain ⟨here, rfl⟩ := List.cons_eq_cons.mp same
      obtain rfl := Step.key.inj here
      exact isPart
    · exact fun isPart => ⟨k, rest, rfl, isPart⟩
  rw [same]

lemma covers_atItems {t v : Json κ α} {i : Nat} {path : List (Step κ)}
    (found : t.item? i = some v) :
    Covers (AtItems C) t (.index i :: path) ↔ Covers C v path := by
  have notWhole : ¬ AtItems C [] t := by
    rintro ⟨_, _, same, _⟩
    cases same
  rw [covers_cons (.index i) notWhole found]
  have same : (fun rest u => AtItems C (.index i :: rest) u) = C := by
    funext rest u
    apply propext
    constructor
    · rintro ⟨i', rest', same, isPart⟩
      obtain ⟨_, rfl⟩ := List.cons_eq_cons.mp same
      exact isPart
    · exact fun isPart => ⟨i, rest, rfl, isPart⟩
  rw [same]

lemma atKey_eq (k : κ) (C : Part κ α) :
    AtKey k C = AtKeys fun k' => if k' = k then C else nowhere := by
  funext path v
  apply propext
  constructor
  · rintro ⟨rest, rfl, isPart⟩
    refine ⟨k, rest, rfl, ?_⟩
    show (if k = k then C else nowhere) rest v
    rw [if_pos rfl]
    exact isPart
  · rintro ⟨k', rest, rfl, isPart⟩
    have isPart : (if k' = k then C else nowhere) rest v := isPart
    by_cases same : k' = k
    · rw [if_pos same] at isPart
      exact ⟨rest, by rw [same], isPart⟩
    · rw [if_neg same] at isPart
      exact absurd isPart id

/-! ## Removals -/

/-- The function removes the part from a document, if it does not raise. -/
structure Removes (f : Json κ α → Option (Json κ α)) (C : Part κ α) : Prop where
  gone : ∀ {t t' path}, f t = some t' → Covers C t path → t'.node? path = none
  same : ∀ {t t' path}, f t = some t' → ¬ Covers C t path → t'.node? path = t.node? path
  intact : ∀ {t t' p v}, f t = some t' → t.reach p = some v →
    (∀ rest, ¬ Covers C t (p ++ rest)) → t'.reach p = some v

/-- The change removes the part from a member, which may be the whole member. -/
structure ChangeRemoves (h : Change κ α) (C : Part κ α) : Prop where
  whole : ∀ {v}, h v = some none → C [] v
  gone : ∀ {v w path}, h v = some (some w) → Covers C v path → w.node? path = none
  same : ∀ {v w path}, h v = some (some w) → ¬ Covers C v path → w.node? path = v.node? path
  intact : ∀ {v w p u}, h v = some (some w) → v.reach p = some u →
    (∀ rest, ¬ Covers C v (p ++ rest)) → w.reach p = some u

lemma changeRemoves_into {f : Json κ α → Option (Json κ α)} (removes : Removes f C) :
    ChangeRemoves (Change.into f) C where
  whole changed := by
    obtain ⟨_, _, absurd⟩ := Option.map_eq_some_iff.mp changed
    cases absurd
  gone changed covers := by
    obtain ⟨w, made, same⟩ := Option.map_eq_some_iff.mp changed
    rw [← Option.some.inj same]
    exact removes.gone made covers
  same changed uncovered := by
    obtain ⟨w, made, same⟩ := Option.map_eq_some_iff.mp changed
    rw [← Option.some.inj same]
    exact removes.same made uncovered
  intact changed reached uncovered := by
    obtain ⟨w, made, same⟩ := Option.map_eq_some_iff.mp changed
    rw [← Option.some.inj same]
    exact removes.intact made reached uncovered

lemma changeRemoves_keep : ChangeRemoves (Change.keep : Change κ α) nowhere where
  whole made := by cases made
  gone _ covers := absurd covers (not_covers_nowhere _ _)
  same made _ := by rw [Option.some.inj (Option.some.inj made)]
  intact made reached _ := by
    rw [← Option.some.inj (Option.some.inj made)]
    exact reached

/-- A removal of the members that satisfy a predicate. -/
lemma changeRemoves_drop {P : Json κ α → Prop} {h : Change κ α} (drops : ∀ v, P v → h v = some none)
    (keeps : ∀ v, ¬ P v → h v = some (some v)) :
    ChangeRemoves h fun path v => path = [] ∧ P v := by
  have stays : ∀ {v w : Json κ α}, h v = some (some w) → ¬ P v ∧ w = v := by
    intro v w made
    by_cases isIt : P v
    · rw [drops v isIt] at made
      cases made
    · rw [keeps v isIt] at made
      exact ⟨isIt, (Option.some.inj (Option.some.inj made)).symm⟩
  constructor
  · intro v made
    by_cases isIt : P v
    · exact ⟨rfl, isIt⟩
    · rw [keeps v isIt] at made
      cases made
  · rintro v w path made ⟨front, rest, u, _, found, rfl, isIt⟩
    obtain rfl := Option.some.inj found
    exact absurd isIt (stays made).1
  · intro v w path made _
    rw [(stays made).2]
  · intro v w path u made reached _
    rw [(stays made).2]
    exact reached

/-- What an edit does to a member. -/
lemma edit_member {h : κ → Change κ α} {t t' v : Json κ α} {k : κ} (edited : edit h t = some t')
    (found : t.get? k = some v) : (h k v = some none ∧ t'.get? k = none) ∨
      ∃ w, h k v = some (some w) ∧ t'.get? k = some w := by
  have isSome : (edit h t).isSome = true := by
    rw [edited]
    rfl
  obtain ⟨r, made⟩ := Option.isSome_iff_exists.mp ((edit_isSome.mp isSome).2 k v found)
  have there := get?_edit edited k
  rw [found, Option.bind_some, made] at there
  cases r with
  | none => exact .inl ⟨made, there⟩
  | some w => exact .inr ⟨w, made, there⟩

lemma removes_edit {h : κ → Change κ α} {D : κ → Part κ α} (each : ∀ k, ChangeRemoves (h k) (D k)) :
    Removes (edit h) (AtKeys D) := by
  constructor
  · intro t t' path edited covers
    obtain ⟨front, rest, u, rfl, reached, k, front', rfl, isPart⟩ := covers
    cases found : t.get? k with
    | none =>
      have absent : t.child? (.key k) = none := found
      rw [reach_cons, absent] at reached
      cases reached
    | some v =>
      have child : t.child? (.key k) = some v := found
      rw [reach_cons, child] at reached
      have covers : Covers (D k) v (front' ++ rest) := ⟨front', rest, u, rfl, reached, isPart⟩
      obtain ⟨_, absent⟩ | ⟨w, made, found'⟩ := edit_member edited found
      · exact node?_cons_absent (.key k) absent _
      · exact (node?_cons (.key k) found' _).trans ((each k).gone made covers)
  · intro t t' path edited uncovered
    obtain ⟨dict, dict'⟩ := isDict_edit edited
    cases path with
    | nil =>
      show some t'.node = some t.node
      rw [node_eq_dict.mpr dict, node_eq_dict.mpr dict']
    | cons step path =>
      cases step with
      | index i =>
        rw [node?_cons_absent (.index i) (item?_of_isDict dict i),
          node?_cons_absent (.index i) (item?_of_isDict dict' i)]
      | key k =>
        cases found : t.get? k with
        | none =>
          have absent : t'.get? k = none := by
            rw [get?_edit edited k, found]
            rfl
          rw [node?_cons_absent (.key k) found, node?_cons_absent (.key k) absent]
        | some v =>
          rw [covers_atKeys found] at uncovered
          obtain ⟨made, _⟩ | ⟨w, made, found'⟩ := edit_member edited found
          · exact absurd (covers_whole ((each k).whole made) path) uncovered
          · rw [node?_cons (.key k) found, node?_cons (.key k) found']
            exact (each k).same made uncovered
  · intro t t' path v edited reached uncovered
    obtain ⟨dict, _⟩ := isDict_edit edited
    cases path with
    | nil =>
      obtain rfl := Option.some.inj reached
      have self : edit h t = some t := by
        apply edit_eq_self.mpr
        refine ⟨dict, fun k u found => ?_⟩
        have below : ∀ rest, ¬ Covers (D k) u rest := fun rest covers =>
          uncovered (.key k :: rest) ((covers_atKeys found).mpr covers)
        obtain ⟨made, _⟩ | ⟨w, made, _⟩ := edit_member edited found
        · exact absurd (covers_whole ((each k).whole made) []) (below [])
        · rw [made, Option.some.inj ((each k).intact (p := []) made rfl below)]
      rw [← Option.some.inj (edited.symm.trans self)]
      rfl
    | cons step path =>
      cases step with
      | index i =>
        have absent : t.child? (.index i) = none := item?_of_isDict dict i
        rw [reach_cons, absent] at reached
        cases reached
      | key k =>
        cases found : t.get? k with
        | none =>
          have absent : t.child? (.key k) = none := found
          rw [reach_cons, absent] at reached
          cases reached
        | some u =>
          have child : t.child? (.key k) = some u := found
          rw [reach_cons, child] at reached
          have below : ∀ rest, ¬ Covers (D k) u (path ++ rest) := fun rest covers =>
            uncovered rest ((covers_atKeys found).mpr covers)
          obtain ⟨made, _⟩ | ⟨w, made, found'⟩ := edit_member edited found
          · exact absurd (covers_whole ((each k).whole made) _) (below [])
          · have child' : t'.child? (.key k) = some w := found'
            rw [reach_cons, child']
            exact (each k).intact made reached below

lemma removes_alter {h : Change κ α} (k : κ) (removes : ChangeRemoves h C) :
    Removes (alter k h) (AtKey k C) := by
  rw [atKey_eq]
  apply removes_edit
  intro k'
  by_cases same : k' = k
  · rw [if_pos same, if_pos same]
    exact removes
  · rw [if_neg same, if_neg same]
    exact changeRemoves_keep

/-- Changes of two members, one after the other. -/
lemma alter_bind_alter {k k' : κ} (ne : k' ≠ k) (h h' : Change κ α) (t : Json κ α) :
    (alter k h t).bind (alter k' h') =
      edit (fun j => if j = k then h else if j = k' then h' else Change.keep) t := by
  rw [alter, alter, edit_edit]
  apply edit_congr
  intro j v _
  by_cases first : j = k
  · rw [if_pos first, if_pos first, if_neg (first ▸ ne.symm), Change.andThen_keep]
  · rw [if_neg first, if_neg first, Change.keep_andThen]

lemma removes_alter_alter {h h' : Change κ α} {k k' : κ} (ne : k' ≠ k)
    (removes : ChangeRemoves h C) (removes' : ChangeRemoves h' C') :
    Removes (fun t => (alter k h t).bind (alter k' h')) fun path v =>
      AtKey k C path v ∨ AtKey k' C' path v := by
  have parts : (fun path v => AtKey k C path v ∨ AtKey k' C' path v) =
      AtKeys fun j => if j = k then C else if j = k' then C' else nowhere := by
    funext path v
    apply propext
    constructor
    · rintro (⟨rest, rfl, isPart⟩ | ⟨rest, rfl, isPart⟩)
      · refine ⟨k, rest, rfl, ?_⟩
        show (if k = k then C else _) rest v
        rw [if_pos rfl]
        exact isPart
      · refine ⟨k', rest, rfl, ?_⟩
        show (if k' = k then C else if k' = k' then C' else nowhere) rest v
        rw [if_neg ne, if_pos rfl]
        exact isPart
    · rintro ⟨j, rest, rfl, isPart⟩
      have isPart : (if j = k then C else if j = k' then C' else nowhere) rest v := isPart
      by_cases first : j = k
      · rw [if_pos first] at isPart
        exact .inl ⟨rest, by rw [first], isPart⟩
      · by_cases second : j = k'
        · rw [if_neg first, if_pos second] at isPart
          exact .inr ⟨rest, by rw [second], isPart⟩
        · rw [if_neg first, if_neg second] at isPart
          exact absurd isPart id
  rw [parts, funext (alter_bind_alter ne h h')]
  apply removes_edit
  intro j
  by_cases first : j = k
  · rw [if_pos first, if_pos first]
    exact removes
  · rw [if_neg first, if_neg first]
    by_cases second : j = k'
    · rw [if_pos second, if_pos second]
      exact removes'
    · rw [if_neg second, if_neg second]
      exact changeRemoves_keep

/-- What does the same or raises removes the same. -/
lemma Removes.restrict {f g : Json κ α → Option (Json κ α)} (removes : Removes f C)
    (sub : ∀ t t', g t = some t' → f t = some t') : Removes g C where
  gone made := removes.gone (sub _ _ made)
  same made := removes.same (sub _ _ made)
  intact made := removes.intact (sub _ _ made)

/-- What an edit of the items does to a list. -/
lemma editItems_items {f : Json κ α → Option (Json κ α)} {t t' : Json κ α}
    (edited : editItems f t = some t') : t'.node = t.node ∧
      (∀ k, t.get? k = none ∧ t'.get? k = none) ∧
        ∀ i, (t.item? i = none ∧ t'.item? i = none) ∨
          ∃ v w, t.item? i = some v ∧ f v = some w ∧ t'.item? i = some w := by
  cases t with
  | arr size item =>
    obtain ⟨item', made, rfl⟩ := Option.map_eq_some_iff.mp edited
    rw [sequence_eq_some] at made
    refine ⟨rfl, fun k => ⟨rfl, rfl⟩, fun i => ?_⟩
    by_cases bound : i < size
    · exact .inr ⟨item ⟨i, bound⟩, item' ⟨i, bound⟩, dif_pos bound, made _, dif_pos bound⟩
    · exact .inl ⟨dif_neg bound, dif_neg bound⟩
  | _ => cases edited

lemma removes_editItems {f : Json κ α → Option (Json κ α)} (removes : Removes f C) :
    Removes (editItems f) (AtItems C) := by
  constructor
  · intro t t' path edited covers
    obtain ⟨front, rest, u, rfl, reached, i, front', rfl, isPart⟩ := covers
    obtain ⟨absent, _⟩ | ⟨v, w, found, made, found'⟩ := (editItems_items edited).2.2 i
    · have absent : t.child? (.index i) = none := absent
      rw [reach_cons, absent] at reached
      cases reached
    · have child : t.child? (.index i) = some v := found
      rw [reach_cons, child] at reached
      have covers : Covers C v (front' ++ rest) := ⟨front', rest, u, rfl, reached, isPart⟩
      exact (node?_cons (.index i) found' _).trans (removes.gone made covers)
  · intro t t' path edited uncovered
    obtain ⟨node, keys, items⟩ := editItems_items edited
    cases path with
    | nil => exact congrArg some node
    | cons step path =>
      cases step with
      | key k =>
        rw [node?_cons_absent (.key k) (keys k).1,
          node?_cons_absent (.key k) (keys k).2]
      | index i =>
        obtain ⟨absent, absent'⟩ | ⟨v, w, found, made, found'⟩ := items i
        · rw [node?_cons_absent (.index i) absent,
            node?_cons_absent (.index i) absent']
        · rw [covers_atItems found] at uncovered
          rw [node?_cons (.index i) found, node?_cons (.index i) found']
          exact removes.same made uncovered
  · intro t t' path v edited reached uncovered
    obtain ⟨_, keys, items⟩ := editItems_items edited
    cases path with
    | nil =>
      obtain rfl := Option.some.inj reached
      have isSome : (editItems f t).isSome = true := by
        rw [edited]
        rfl
      obtain ⟨isList, each⟩ := editItems_isSome.mp isSome
      have self : editItems f t = some t := by
        apply editItems_eq_self.mpr
        refine ⟨isList, fun u mem => ?_⟩
        cases t with
        | arr size item =>
          obtain ⟨i, rfl⟩ := mem_items_arr.mp mem
          obtain ⟨w, made⟩ := Option.isSome_iff_exists.mp (each (item i) mem)
          have found : (arr size item).item? i.val = some (item i) := dif_pos i.isLt
          have below : ∀ rest, ¬ Covers C (item i) rest := fun rest covers =>
            uncovered (.index i.val :: rest) ((covers_atItems found).mpr covers)
          rw [made]
          exact removes.intact (p := []) made rfl below
        | _ => cases isList
      rw [← Option.some.inj (edited.symm.trans self)]
      rfl
    | cons step path =>
      cases step with
      | key k =>
        have absent : t.child? (.key k) = none := (keys k).1
        rw [reach_cons, absent] at reached
        cases reached
      | index i =>
        obtain ⟨absent, _⟩ | ⟨u, w, found, made, found'⟩ := items i
        · have absent : t.child? (.index i) = none := absent
          rw [reach_cons, absent] at reached
          cases reached
        · have child : t.child? (.index i) = some u := found
          have child' : t'.child? (.index i) = some w := found'
          rw [reach_cons, child] at reached
          rw [reach_cons, child']
          exact removes.intact made reached fun rest covers =>
            uncovered rest ((covers_atItems found).mpr covers)

/-- A part that depends on nothing below its documents. -/
def Shallow (C : Part κ α) : Prop :=
  ∀ path v v', v.node = v'.node → C path v → C path v'

/-- A shallow part is where it was after a removal of another part. -/
lemma Removes.covers_iff {f : Json κ α → Option (Json κ α)} (removes : Removes f C)
    (shallow : Shallow C') {t t' : Json κ α} {path : List (Step κ)} (made : f t = some t')
    (uncovered : ¬ Covers C t path) : Covers C' t' path ↔ Covers C' t path := by
  have there : ∀ {front rest}, path = front ++ rest → t'.node? front = t.node? front := by
    intro front rest same
    apply removes.same made
    intro covers
    rw [same] at uncovered
    exact uncovered (covers.append rest)
  constructor
  · rintro ⟨front, rest, v', same, found, isPart⟩
    have here := there same
    rw [node?, found] at here
    obtain ⟨v, found, node⟩ := node?_eq_some.mp here.symm
    exact ⟨front, rest, v, same, found, shallow front v' v node.symm isPart⟩
  · rintro ⟨front, rest, v, same, found, isPart⟩
    have here := there same
    rw [node?, node?, found] at here
    obtain ⟨v', found', node⟩ := Option.map_eq_some_iff.mp here
    exact ⟨front, rest, v', same, found', shallow front v v' node.symm isPart⟩

/-- One removal after another. -/
lemma Removes.bind {f g : Json κ α → Option (Json κ α)} (first : Removes f C)
    (second : Removes g C') (shallow : Shallow C') :
    Removes (fun t => (f t).bind g) fun path v => C path v ∨ C' path v := by
  constructor
  · intro t t'' path bound covers
    obtain ⟨t', made, made'⟩ := Option.bind_eq_some_iff.mp bound
    by_cases here : Covers C t path
    · have absent := first.gone made here
      by_cases again : Covers C' t' path
      · exact second.gone made' again
      · rw [second.same made' again, absent]
    · rcases covers_or.mp covers with covers | covers
      · exact absurd covers here
      · exact second.gone made' ((first.covers_iff shallow made here).mpr covers)
  · intro t t'' path bound uncovered
    obtain ⟨t', made, made'⟩ := Option.bind_eq_some_iff.mp bound
    have here : ¬ Covers C t path := fun covers => uncovered (covers_or.mpr (.inl covers))
    rw [second.same made' fun covers =>
      uncovered (covers_or.mpr (.inr ((first.covers_iff shallow made here).mp covers))),
      first.same made here]
  · intro t t'' path v bound reached uncovered
    obtain ⟨t', made, made'⟩ := Option.bind_eq_some_iff.mp bound
    have here : ∀ rest, ¬ Covers C t (path ++ rest) := fun rest covers =>
      uncovered rest (covers_or.mpr (.inl covers))
    exact second.intact made' (first.intact made reached here) fun rest covers =>
      uncovered rest (covers_or.mpr
        (.inr ((first.covers_iff shallow made (here rest)).mp covers)))

end Tacker.Basis.Json
