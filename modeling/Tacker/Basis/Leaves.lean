import Tacker.Basis.MergePatch

/-!
# Dictionaries grown from paths

A dictionary of dictionaries is grown by planting `null` at the ends of paths, one after the other,
where dictionaries are made on the way. The paths of a set can be planted so that their ends are the
leaves exactly if none of them leads on from another one; the dictionary is then known by the set.
-/

namespace Tacker.Basis.Json

variable {κ α : Type}

/-! ## Sets of paths -/

/-- The path is in the set, and none of the others goes on from it. -/
def Maximal (paths : List κ → Prop) (path : List κ) : Prop :=
  paths path ∧ ∀ longer, paths longer → path <+: longer → path = longer

/-- No path of the set goes on from another one. -/
def Apart (paths : List κ → Prop) : Prop :=
  ∀ path longer, paths path → paths longer → path <+: longer → path = longer

lemma apart_maximal (paths : List κ → Prop) : Apart (Maximal paths) :=
  fun _ longer isMaximal isMaximal' isFront => isMaximal.2 longer isMaximal'.1 isFront

/-- Paths that are no longer than a bound lead to maximal ones. -/
lemma exists_maximal {paths : List κ → Prop} {bound : Nat}
    (bounded : ∀ path, paths path → path.length ≤ bound) {path : List κ} (mem : paths path) :
    ∃ longer, Maximal paths longer ∧ path <+: longer := by
  induction left : bound - path.length using Nat.strongRecOn generalizing path with
  | _ left' ih =>
    by_cases isMaximal : Maximal paths path
    · exact ⟨path, isMaximal, List.prefix_refl _⟩
    · obtain ⟨longer, mem', isFront, ne⟩ : ∃ longer, paths longer ∧ path <+: longer ∧
          path ≠ longer := by
        by_contra none
        push Not at none
        exact isMaximal ⟨mem, none⟩
      have shorter : path.length < longer.length := by
        have le := isFront.length_le
        by_contra notLt
        exact ne (isFront.eq_of_length_le (by omega))
      have bound' := bounded longer mem'
      obtain ⟨last, isLast, isFront'⟩ := ih (bound - longer.length) (by omega) mem' rfl
      exact ⟨last, isLast, isFront.trans isFront'⟩

variable [DecidableEq κ]

/-! ## Grown dictionaries -/

/-- The leaves of the dictionary are `null` at the ends of the paths, and nothing else is there but
the dictionaries on the way. -/
structure Grown (paths : List κ → Prop) (t : Json κ α) : Prop where
  root : t.isDict = true
  leaf : ∀ path, paths path → t.at? path = some null
  inner : ∀ front path, paths path → front <+: path → front ≠ path → t.DictAt front
  outside : ∀ path, path ≠ [] → (∀ longer, paths longer → ¬ path <+: longer) → t.at? path = none

lemma grown_empty : Grown (fun _ => False) (empty : Json κ α) where
  root := rfl
  leaf _ absurd := absurd.elim
  inner _ _ absurd := absurd.elim
  outside path nonempty _ := by
    cases path with
    | nil => exact absurd rfl nonempty
    | cons k path => rfl

lemma Grown.congr {paths paths' : List κ → Prop} {t : Json κ α} (grown : Grown paths t)
    (same : ∀ path, paths path ↔ paths' path) : Grown paths' t where
  root := grown.root
  leaf path mem := grown.leaf path ((same path).mpr mem)
  inner front path mem := grown.inner front path ((same path).mpr mem)
  outside path nonempty none :=
    grown.outside path nonempty fun longer mem => none longer ((same longer).mp mem)

/-- What is at a key of a grown dictionary: nothing, a leaf, or a grown dictionary. -/
lemma Grown.get?_cases {paths : List κ → Prop} {t : Json κ α} (grown : Grown paths t) (k : κ) :
    (t.get? k = none ∧ ∀ path, ¬ paths (k :: path)) ∨ (t.get? k = some null ∧ paths [k]) ∨
      ∃ v, t.get? k = some v ∧ (¬ paths [k] ∧ ∃ path, paths (k :: path)) ∧
        Grown (fun path => paths (k :: path)) v := by
  have single : t.at? [k] = t.get? k := Option.bind_fun_some _
  by_cases here : paths [k]
  · exact .inr (.inl ⟨single.symm.trans (grown.leaf [k] here), here⟩)
  · by_cases below : ∃ path, paths (k :: path)
    · obtain ⟨path, mem⟩ := below
      have ne : [k] ≠ k :: path := fun same => here (same ▸ mem)
      obtain ⟨v, found, dict⟩ := grown.inner [k] (k :: path) mem ⟨path, rfl⟩ ne
      rw [single] at found
      have under : ∀ path', t.at? (k :: path') = v.at? path' := fun path' => by
        rw [at?_cons, found]
        rfl
      refine .inr (.inr ⟨v, found, ⟨here, path, mem⟩, dict, fun path' mem' => ?_,
        fun front path' mem' isFront ne' => ?_, fun path' nonempty none => ?_⟩)
      · rw [← under]
        exact grown.leaf (k :: path') mem'
      · obtain ⟨d, found', dict'⟩ := grown.inner (k :: front) (k :: path') mem'
          (List.cons_prefix_cons.mpr ⟨rfl, isFront⟩) fun same => ne' (List.cons_eq_cons.mp same).2
        exact ⟨d, (under front).symm.trans found', dict'⟩
      · rw [← under]
        apply grown.outside (k :: path') (List.cons_ne_nil k path')
        intro longer mem' isFront
        cases longer with
        | nil => cases List.prefix_nil.mp isFront
        | cons k' longer =>
          obtain ⟨rfl, isFront'⟩ := List.cons_prefix_cons.mp isFront
          exact none longer mem' isFront'
    · push Not at below
      refine .inl ⟨?_, below⟩
      rw [← single]
      apply grown.outside [k] (List.cons_ne_nil k [])
      intro longer mem isFront
      obtain ⟨rest, rfl⟩ := isFront
      exact below rest mem

/-- A grown dictionary is known by its paths. -/
lemma Grown.same {paths : List κ → Prop} {t t' : Json κ α} (grown : Grown paths t)
    (grown' : Grown paths t') (apart : Apart paths) : Same t t' := by
  induction t generalizing paths t' with
  | obj ks unique value ih =>
    apply (same_iff grown.root grown'.root).mpr
    intro k
    have apart' : Apart fun path => paths (k :: path) := by
      intro path longer mem mem' isFront
      exact (List.cons_eq_cons.mp (apart (k :: path) (k :: longer) mem mem'
        (List.cons_prefix_cons.mpr ⟨rfl, isFront⟩))).2
    rcases grown.get?_cases k with ⟨found, none⟩ | ⟨found, here⟩ | ⟨v, found, ⟨notHere, deeper⟩, below⟩
    · rcases grown'.get?_cases k with ⟨found', _⟩ | ⟨_, here⟩ | ⟨_, _, ⟨_, path, mem⟩, _⟩
      · rw [found, found']
        exact .none
      · exact absurd here (none [])
      · exact absurd mem (none path)
    · rcases grown'.get?_cases k with ⟨_, none⟩ | ⟨found', _⟩ | ⟨_, _, ⟨notHere, _⟩, _⟩
      · exact absurd here (none [])
      · rw [found, found']
        exact .some trivial
      · exact absurd here notHere
    · rcases grown'.get?_cases k with ⟨_, none⟩ | ⟨_, here⟩ | ⟨v', found', _, below'⟩
      · obtain ⟨path, mem⟩ := deeper
        exact absurd mem (none path)
      · exact absurd here notHere
      · rw [found, found']
        apply Option.Rel.some
        have isValue : value k = v := by
          by_cases mem : k ∈ ks
          · exact Option.some.inj ((if_pos mem).symm.trans found)
          · exact absurd ((if_neg mem).symm.trans found) fun absurd => by cases absurd
        rw [← isValue] at below ⊢
        exact ih k below below' apart'
  | _ => cases grown.root

/-! ## Planting -/

/-- `null` is planted at the end of the path, in dictionaries that are made where there are none;
`none` where something else is in the way. -/
def plant (t : Json κ α) : List κ → Option (Json κ α)
  | [] => some t
  | [k] => if t.isDict then some (t.set k null) else none
  | k :: ks => if t.isDict then (((t.get? k).getD empty).plant ks).map (t.set k) else none

/-- What is found before the end of the path is a dictionary. -/
def Open (t : Json κ α) (path : List κ) : Prop :=
  ∀ front, front <+: path → front ≠ path → ∀ v, t.at? front = some v → v.isDict = true

/-- What planting makes of a dictionary. -/
structure Planted (path : List κ) (t t' : Json κ α) : Prop where
  leaf : t'.at? path = some null
  inner : ∀ front, front <+: path → front ≠ path → t'.DictAt front
  aside : ∀ other, ¬ path <+: other → ¬ other <+: path → t'.at? other = t.at? other

lemma at?_empty {path : List κ} (nonempty : path ≠ []) : (empty : Json κ α).at? path = none := by
  cases path with
  | nil => exact absurd rfl nonempty
  | cons k path => rfl

lemma open_cons {t : Json κ α} {k : κ} {path : List κ} :
    t.Open (k :: path) ↔ t.isDict = true ∧ ((t.get? k).getD empty).Open path := by
  constructor
  · intro isOpen
    refine ⟨isOpen [] List.nil_prefix (List.cons_ne_nil k path).symm t at?_nil,
      fun front isFront ne v reached => ?_⟩
    cases found : t.get? k with
    | none =>
      rw [found, Option.getD_none] at reached
      cases front with
      | nil =>
        obtain rfl := Option.some.inj (at?_nil.symm.trans reached)
        rfl
      | cons k' front => cases reached
    | some u =>
      rw [found, Option.getD_some] at reached
      apply isOpen (k :: front) (List.cons_prefix_cons.mpr ⟨rfl, isFront⟩)
        (fun same => ne (List.cons_eq_cons.mp same).2) v
      rw [at?_cons, found]
      exact reached
  · rintro ⟨dict, isOpen⟩ front isFront ne v reached
    cases front with
    | nil =>
      obtain rfl := Option.some.inj (at?_nil.symm.trans reached)
      exact dict
    | cons k' front =>
      obtain ⟨rfl, isFront'⟩ := List.cons_prefix_cons.mp isFront
      rw [at?_cons] at reached
      obtain ⟨u, found, reached⟩ := Option.bind_eq_some_iff.mp reached
      apply isOpen front isFront' (fun same => ne (congrArg _ same)) v
      rw [found]
      exact reached

lemma plant_cons {t : Json κ α} {k : κ} {path : List κ} (nonempty : path ≠ []) :
    t.plant (k :: path) =
      if t.isDict then (((t.get? k).getD empty).plant path).map (t.set k) else none := by
  cases path with
  | nil => exact absurd rfl nonempty
  | cons k' path => rfl

/-- A member of a dictionary that was planted in, and what this makes of the dictionary. -/
lemma planted_set {t v v' : Json κ α} {k : κ} {path : List κ} (dict : t.isDict = true)
    (planted : Planted path v v')
    (same : ∀ other, ¬ path <+: other → ¬ other <+: path → v.at? other = t.at? (k :: other)) :
    Planted (k :: path) t (t.set k v') := by
  have below : ∀ other, (t.set k v').at? (k :: other) = v'.at? other := by
    intro other
    rw [at?_cons, get?_set dict, if_pos rfl]
    rfl
  constructor
  · rw [below]
    exact planted.leaf
  · intro front isFront ne
    cases front with
    | nil => exact ⟨_, at?_nil, isDict_set.trans dict⟩
    | cons k' front =>
      obtain ⟨rfl, isFront'⟩ := List.cons_prefix_cons.mp isFront
      obtain ⟨d, found, isDict⟩ := planted.inner front isFront' fun same' => ne (congrArg _ same')
      exact ⟨d, (below front).trans found, isDict⟩
  · intro other notBelow notAbove
    cases other with
    | nil => exact absurd List.nil_prefix notAbove
    | cons k' other =>
      by_cases here : k' = k
      · subst here
        have notBelow' : ¬ path <+: other := fun isFront =>
          notBelow (List.cons_prefix_cons.mpr ⟨rfl, isFront⟩)
        have notAbove' : ¬ other <+: path := fun isFront =>
          notAbove (List.cons_prefix_cons.mpr ⟨rfl, isFront⟩)
        rw [below, planted.aside other notBelow' notAbove', same other notBelow' notAbove']
      · rw [at?_cons, at?_cons, get?_set dict, if_neg here]

lemma planted_null {v : Json κ α} : Planted [] v null where
  leaf := at?_nil
  inner _ isFront ne := absurd (List.prefix_nil.mp isFront) ne
  aside _ notBelow := absurd List.nil_prefix notBelow

/-- Planting succeeds exactly if nothing is in the way. -/
lemma plant_isSome {t : Json κ α} {path : List κ} (nonempty : path ≠ []) :
    (t.plant path).isSome = true ↔ t.Open path := by
  induction path generalizing t with
  | nil => exact absurd rfl nonempty
  | cons k path ih =>
    rw [open_cons]
    cases path with
    | nil =>
      have always : ((t.get? k).getD empty).Open [] := fun front isFront ne =>
        absurd (List.prefix_nil.mp isFront) ne
      show (if t.isDict then some (t.set k null) else none).isSome = true ↔ _
      cases t.isDict with
      | true => exact ⟨fun _ => ⟨rfl, always⟩, fun _ => rfl⟩
      | false => exact ⟨fun absurd => (by cases absurd), fun both => (by cases both.1)⟩
    | cons k' path =>
      rw [plant_cons (List.cons_ne_nil k' path), ← ih (List.cons_ne_nil k' path)]
      cases t.isDict with
      | true =>
        rw [if_pos rfl, Option.isSome_map]
        exact ⟨fun isSome => ⟨rfl, isSome⟩, And.right⟩
      | false => exact ⟨fun absurd => (by cases absurd), fun both => (by cases both.1)⟩

lemma plant_planted {t t' : Json κ α} {path : List κ} (nonempty : path ≠ [])
    (made : t.plant path = some t') : Planted path t t' := by
  induction path generalizing t t' with
  | nil => exact absurd rfl nonempty
  | cons k path ih =>
    cases dict : t.isDict with
    | false =>
      have fails : t.plant (k :: path) = none := by
        cases path with
        | nil => exact if_neg (by rw [dict]; exact Bool.false_ne_true)
        | cons k' path => exact if_neg (by rw [dict]; exact Bool.false_ne_true)
      rw [fails] at made
      cases made
    | true =>
      cases path with
      | nil =>
        have made : (if t.isDict then some (t.set k null) else none) = some t' := made
        rw [if_pos dict] at made
        rw [← Option.some.inj made]
        exact planted_set dict (planted_null (v := null)) fun other notBelow =>
          absurd List.nil_prefix notBelow
      | cons k' path =>
        rw [plant_cons (List.cons_ne_nil k' path), if_pos dict] at made
        obtain ⟨v', inner, rfl⟩ := Option.map_eq_some_iff.mp made
        apply planted_set dict (ih (List.cons_ne_nil k' path) inner)
        intro other _ notAbove
        rw [at?_cons]
        cases found : t.get? k with
        | none => exact at?_empty fun same => notAbove (same ▸ List.nil_prefix)
        | some v => rfl

/-! ## Planting many paths -/

/-- The paths are planted one after the other. -/
def plantAll (paths : List (List κ)) (t : Json κ α) : Option (Json κ α) :=
  paths.foldlM plant t

lemma at?_below {t : Json κ α} {path other : List κ} (leaf : t.at? path = some null)
    (isFront : path <+: other) (ne : path ≠ other) : t.at? other = none := by
  obtain ⟨rest, rfl⟩ := isFront
  rw [at?_append, leaf]
  cases rest with
  | nil => exact absurd (List.append_nil path).symm ne
  | cons k rest => rfl

/-- What is found in a grown dictionary before the end of a path that is apart from its paths. -/
lemma Grown.isOpen {paths : List κ → Prop} {t : Json κ α} (grown : Grown paths t) {path : List κ}
    (apart : Apart fun other => paths other ∨ other = path) : t.Open path := by
  intro front isFront ne v found
  by_cases empty : front = []
  · subst empty
    rw [← Option.some.inj (at?_nil.symm.trans found)]
    exact grown.root
  · by_cases inside : ∃ longer, paths longer ∧ front <+: longer
    · obtain ⟨longer, mem, isFront'⟩ := inside
      by_cases isWhole : front = longer
      · exact absurd (apart front path (.inl (isWhole ▸ mem)) (.inr rfl) isFront) ne
      · obtain ⟨d, found', dict⟩ := grown.inner front longer mem isFront' isWhole
        rw [Option.some.inj (found.symm.trans found')]
        exact dict
    · push Not at inside
      rw [grown.outside front empty inside] at found
      cases found

/-- A path that is apart from the others can be planted. -/
lemma Grown.plant {paths : List κ → Prop} {t : Json κ α} (grown : Grown paths t) {path : List κ}
    (nonempty : path ≠ []) (apart : Apart fun other => paths other ∨ other = path) :
    ∃ t', t.plant path = some t' ∧ Grown (fun other => paths other ∨ other = path) t' := by
  obtain ⟨t', made⟩ := Option.isSome_iff_exists.mp
    ((plant_isSome nonempty).mpr (grown.isOpen apart))
  have planted := plant_planted nonempty made
  refine ⟨t', made, ?_, ?_, ?_, ?_⟩
  · obtain ⟨d, found, dict⟩ := planted.inner [] List.nil_prefix nonempty.symm
    rw [Option.some.inj (at?_nil.symm.trans found)]
    exact dict
  · rintro other (mem | rfl)
    · by_cases below : path <+: other
      · rw [← apart path other (.inr rfl) (.inl mem) below]
        exact planted.leaf
      · by_cases above : other <+: path
        · rw [apart other path (.inl mem) (.inr rfl) above]
          exact planted.leaf
        · rw [planted.aside other below above]
          exact grown.leaf other mem
    · exact planted.leaf
  · rintro front other (mem | rfl) isFront ne
    · by_cases below : path <+: front
      · obtain rfl := apart path other (.inr rfl) (.inl mem) (below.trans isFront)
        exact absurd (isFront.eq_of_length_le below.length_le) ne
      · by_cases above : front <+: path
        · exact planted.inner front above fun same => below (same ▸ List.prefix_refl _)
        · obtain ⟨d, found, dict⟩ := grown.inner front other mem isFront ne
          exact ⟨d, (planted.aside front below above).trans found, dict⟩
    · exact planted.inner front isFront ne
  · intro other ne none
    have above : ¬ other <+: path := none path (.inr rfl)
    by_cases below : path <+: other
    · exact at?_below planted.leaf below fun same => above (same ▸ List.prefix_refl _)
    · rw [planted.aside other below above]
      exact grown.outside other ne fun longer mem => none longer (.inl mem)

/-- Paths that are apart grow a dictionary with these leaves. -/
lemma Grown.plantAll {planted : List κ → Prop} {t : Json κ α} (grown : Grown planted t)
    {paths : List (List κ)} (nonempty : ∀ path ∈ paths, path ≠ [])
    (apart : Apart fun other => planted other ∨ other ∈ paths) :
    ∃ t', plantAll paths t = some t' ∧ Grown (fun other => planted other ∨ other ∈ paths) t' := by
  induction paths generalizing planted t with
  | nil =>
    refine ⟨t, rfl, grown.congr fun path => ⟨.inl, fun either => ?_⟩⟩
    exact either.resolve_right List.not_mem_nil
  | cons path paths ih =>
    have assoc : ∀ other, (planted other ∨ other = path) ∨ other ∈ paths ↔
        planted other ∨ other ∈ path :: paths := by
      intro other
      rw [List.mem_cons, or_assoc]
    obtain ⟨t', made, grown'⟩ := grown.plant (nonempty path List.mem_cons_self) fun other longer
      mem mem' => apart other longer ((assoc other).mp (.inl mem)) ((assoc longer).mp (.inl mem'))
    obtain ⟨t'', made', grown''⟩ := ih grown'
      (fun other mem => nonempty other (List.mem_cons_of_mem path mem)) fun other longer mem mem' =>
        apart other longer ((assoc other).mp mem) ((assoc longer).mp mem')
    exact ⟨t'', Option.bind_eq_some_iff.mpr ⟨t', made, made'⟩, grown''.congr assoc⟩

/-- What is known of a dictionary in which paths were planted, whatever these are: its leaves are
among their ends, and on the way along each of them there is one. -/
structure Leafy (paths : List (List κ)) (t : Json κ α) : Prop where
  only : ∀ path v, t.at? path = some v → v.isDict = true ∨ v = null ∧ path ∈ paths
  cover : ∀ path ∈ paths, ∃ front, front <+: path ∧ t.at? front = some null

lemma Leafy.plant {paths : List (List κ)} {t t' : Json κ α} (leafy : Leafy paths t)
    {path : List κ} (nonempty : path ≠ []) (made : t.plant path = some t') :
    Leafy (paths ++ [path]) t' := by
  have planted := plant_planted nonempty made
  have isOpen := (plant_isSome nonempty).mp (by rw [made]; rfl)
  have last : path ∈ paths ++ [path] := List.mem_append_right _ List.mem_cons_self
  constructor
  · intro other v found
    by_cases below : path <+: other
    · by_cases same : path = other
      · subst same
        exact .inr ⟨Option.some.inj (found.symm.trans planted.leaf), last⟩
      · rw [at?_below planted.leaf below same] at found
        cases found
    · by_cases above : other <+: path
      · obtain ⟨d, found', dict⟩ := planted.inner other above fun same =>
          below (same ▸ List.prefix_refl _)
        rw [Option.some.inj (found.symm.trans found')]
        exact .inl dict
      · rw [planted.aside other below above] at found
        exact (leafy.only other v found).imp_right fun both =>
          ⟨both.1, List.mem_append_left _ both.2⟩
  · intro other mem
    rcases List.mem_append.mp mem with mem | mem
    · obtain ⟨front, isFront, leaf⟩ := leafy.cover other mem
      by_cases below : path <+: front
      · exact ⟨path, below.trans isFront, planted.leaf⟩
      · by_cases above : front <+: path
        · have dict := isOpen front above (fun same => below (same ▸ List.prefix_refl _)) _ leaf
          cases dict
        · exact ⟨front, isFront, (planted.aside front below above).trans leaf⟩
    · rw [List.mem_singleton.mp mem]
      exact ⟨path, List.prefix_refl _, planted.leaf⟩

lemma Leafy.plantAll {planted paths : List (List κ)} {t t' : Json κ α} (leafy : Leafy planted t)
    (nonempty : ∀ path ∈ paths, path ≠ []) (made : plantAll paths t = some t') :
    Leafy (planted ++ paths) t' := by
  induction paths generalizing planted t with
  | nil =>
    obtain rfl := Option.some.inj made
    rw [List.append_nil]
    exact leafy
  | cons path paths ih =>
    obtain ⟨next, first, rest⟩ := Option.bind_eq_some_iff.mp made
    have after := ih (leafy.plant (nonempty path List.mem_cons_self) first)
      (fun other mem => nonempty other (List.mem_cons_of_mem path mem)) rest
    rw [List.append_assoc] at after
    exact after

lemma leafy_empty : Leafy [] (empty : Json κ α) where
  only path v found := by
    cases path with
    | nil =>
      rw [← Option.some.inj (at?_nil.symm.trans found)]
      exact .inl rfl
    | cons k path => cases found
  cover _ mem := absurd mem List.not_mem_nil

/-- The planted paths grow the dictionary whose leaves are the maximal paths of a larger set exactly
if none of them leads on from another one, and every path of the set is on the way to one of them. -/
theorem plantAll_grown_iff {paths : List (List κ)} (nonempty : ∀ path ∈ paths, path ≠ [])
    {all : List κ → Prop} (within : ∀ path ∈ paths, all path) {bound : Nat}
    (bounded : ∀ path, all path → path.length ≤ bound) :
    (∃ t : Json κ α, plantAll paths empty = some t ∧ Grown (Maximal all) t) ↔
      Apart (fun path => path ∈ paths) ∧ ∀ path, all path → ∃ longer ∈ paths, path <+: longer := by
  constructor
  · rintro ⟨t, made, grown⟩
    have leafy := leafy_empty.plantAll nonempty made
    rw [List.nil_append] at leafy
    constructor
    · intro path longer mem mem' isFront
      by_contra ne
      obtain ⟨last, isLast, isFront'⟩ := exists_maximal bounded (within longer mem')
      obtain ⟨front, isFront'', leaf⟩ := leafy.cover path mem
      have before : front ≠ last := by
        rintro rfl
        apply ne
        apply isFront.eq_of_length_le
        exact Nat.le_trans isFront'.length_le isFront''.length_le
      obtain ⟨d, found, dict⟩ := grown.inner front last isLast
        ((isFront''.trans isFront).trans isFront') before
      obtain rfl := Option.some.inj (leaf.symm.trans found)
      cases dict
    · intro path mem
      obtain ⟨last, isLast, isFront⟩ := exists_maximal bounded mem
      rcases leafy.only last null (grown.leaf last isLast) with dict | ⟨_, mem'⟩
      · cases dict
      · exact ⟨last, mem', isFront⟩
  · rintro ⟨apart, covers⟩
    have apart' : Apart fun other => (False : Prop) ∨ other ∈ paths := fun other longer mem mem' =>
      apart other longer (mem.resolve_left id) (mem'.resolve_left id)
    obtain ⟨t, made, grown⟩ := grown_empty.plantAll nonempty apart'
    refine ⟨t, made, grown.congr fun path => ?_⟩
    rw [or_iff_right id]
    constructor
    · intro mem
      refine ⟨within path mem, fun longer mem' isFront => ?_⟩
      obtain ⟨last, isLast, isFront'⟩ := covers longer mem'
      have same := apart path last mem isLast (isFront.trans isFront')
      apply isFront.eq_of_length_le
      rw [same]
      exact isFront'.length_le
    · intro isMaximal
      obtain ⟨last, isLast, isFront⟩ := covers path isMaximal.1
      rw [isMaximal.2 last (within last isLast) isFront]
      exact isLast

end Tacker.Basis.Json
