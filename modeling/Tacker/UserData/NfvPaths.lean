import Tacker.Basis.Leaves
import Tacker.Basis.Paths
import Tacker.UserData.NewCps
import Mathlib.Data.Finset.Lattice.Fold
import Mathlib.Data.List.ReduceOption

/-!
# The paths of the parameters

The paths that the `get_param` functions of a template take from `nfv`. `init_nfv_dict` returns the
dictionary whose leaves are the longest of them exactly if none of the collected ones leads on from
another one and no other one was missed; it is the same for every order of the members of the
template.
-/

namespace Tacker.UserData

open Tacker.Basis

/-! ## The paths of a template -/

/-- The key of the function. -/
abbrev getParamStep : Json.Step Key := .key (.str "get_param")

/-- The argument of a `get_param` that the steps lead to from the properties of a resource. -/
def GetParamAt (hotTemplate : Value) (steps : List (Json.Step Key)) (param : Value) : Prop :=
  ∃ name : Key, hotTemplate.reach (.key (.str "resources") :: .key name ::
    .key (.str "properties") :: (steps ++ [getParamStep])) = some param

/-- A path of four or more elements, `nfv` among them, that some `get_param` in the properties of a
resource has, at any depth. -/
def NfvPath (hotTemplate : Value) (ks : List Key) : Prop :=
  ∃ steps param, GetParamAt hotTemplate steps param ∧ nfvKeys param = .ok (some ks)

/-- The argument of a `get_param` that is not in the argument of another one. -/
def Collected (hotTemplate : Value) (param : Value) : Prop :=
  ∃ steps, (∀ step ∈ steps, step ≠ getParamStep) ∧ GetParamAt hotTemplate steps param

/-- The path of a `get_param` that is not in the argument of another one. -/
def CollectedPath (hotTemplate : Value) (ks : List Key) : Prop :=
  ∃ param, Collected hotTemplate param ∧ nfvKeys param = .ok (some ks)

/-- A template and its resources are dictionaries. -/
structure HotShape (hotTemplate : Value) : Prop where
  root : hotTemplate.isDict = true
  resources : ∀ v, hotTemplate.get? "resources" = some v → v.isDict = true
  each : ∀ name res, hotTemplate.reach [.key (.str "resources"), .key name] = some res →
    res.isDict = true

/-- The dictionary has the longest paths of the template as its leaves, and is the same for every
order of the members of the template. -/
def InitsNfvDict (hotTemplate : Value) : Prop :=
  ∃ nfv, initNfvDict hotTemplate = .ok nfv ∧ Json.Grown (Json.Maximal (NfvPath hotTemplate)) nfv ∧
    ∀ hotTemplate', Json.Same hotTemplate hotTemplate' →
      ∃ nfv', initNfvDict hotTemplate' = .ok nfv' ∧ Json.Same nfv nfv'

/-- The template has the shape that the loops count on: the items of a path are hashable, no path
that is collected leads on from another one, and every path in the argument of another `get_param`
is on the way to one that is collected. -/
structure NfvFits (hotTemplate : Value) : Prop where
  shape : HotShape hotTemplate
  hashable : ∀ param, Collected hotTemplate param → ∃ found, nfvKeys param = .ok found
  apart : Json.Apart (CollectedPath hotTemplate)
  covers : ∀ ks, NfvPath hotTemplate ks → ∃ longer, CollectedPath hotTemplate longer ∧ ks <+: longer

/-! ## What is collected -/

/-- What `_get_get_param` collects. -/
lemma mem_getGetParam {t param : Value} : param ∈ getGetParam t ↔
    ∃ steps, (∀ step ∈ steps, step ≠ getParamStep) ∧
      t.reach (steps ++ [getParamStep]) = some param := by
  induction t with
  | null =>
    refine ⟨fun mem => absurd mem List.not_mem_nil, ?_⟩
    rintro ⟨steps, _, reached⟩
    cases steps with
    | nil => cases reached
    | cons step steps => cases step <;> cases reached
  | atom value =>
    refine ⟨fun mem => absurd mem List.not_mem_nil, ?_⟩
    rintro ⟨steps, _, reached⟩
    cases steps with
    | nil => cases reached
    | cons step steps => cases step <;> cases reached
  | arr size item ih =>
    have child : ∀ i : Fin size, (Json.arr size item : Value).child? (.index i) = some (item i) :=
      fun i => dif_pos i.isLt
    constructor
    · intro mem
      obtain ⟨i, _, mem⟩ := List.mem_flatMap.mp mem
      obtain ⟨steps, outside, reached⟩ := (ih i).mp mem
      refine ⟨.index i :: steps, fun step mem' => ?_, ?_⟩
      · rcases List.mem_cons.mp mem' with rfl | mem'
        · exact fun absurd => by cases absurd
        · exact outside step mem'
      · rw [List.cons_append, Json.reach_cons, child]
        exact reached
    · rintro ⟨steps, outside, reached⟩
      cases steps with
      | nil => cases reached
      | cons step steps =>
        cases step with
        | key k => cases reached
        | index i =>
          rw [List.cons_append, Json.reach_cons] at reached
          obtain ⟨v, found, reached⟩ := Option.bind_eq_some_iff.mp reached
          have found : (if bound : i < size then some (item ⟨i, bound⟩) else none) = some v := found
          by_cases bound : i < size
          · rw [dif_pos bound] at found
            obtain rfl := Option.some.inj found
            apply List.mem_flatMap.mpr
            refine ⟨⟨i, bound⟩, List.mem_finRange _, (ih _).mpr ⟨steps, ?_, reached⟩⟩
            exact fun step mem => outside step (List.mem_cons_of_mem _ mem)
          · rw [dif_neg bound] at found
            cases found
  | obj ks unique value ih =>
    have child : ∀ k ∈ ks, (Json.obj ks unique value : Value).child? (.key k) = some (value k) :=
      fun k mem => if_pos mem
    have inv : ∀ {k v}, (Json.obj ks unique value : Value).child? (.key k) = some v →
        k ∈ ks ∧ value k = v := fun found =>
      Option.ite_none_right_eq_some.mp found |>.imp_right Option.some.inj
    constructor
    · intro mem
      obtain ⟨key, isKey, mem⟩ := List.mem_flatMap.mp mem
      by_cases isGet : key = .str "get_param"
      · rw [if_pos isGet] at mem
        rw [List.mem_singleton.mp mem]
        refine ⟨[], fun step mem => absurd mem List.not_mem_nil, ?_⟩
        rw [List.nil_append, getParamStep, ← isGet, Json.reach_cons, child key isKey]
        rfl
      · rw [if_neg isGet] at mem
        obtain ⟨steps, outside, reached⟩ := (ih key).mp mem
        refine ⟨.key key :: steps, fun step mem' => ?_, ?_⟩
        · rcases List.mem_cons.mp mem' with rfl | mem'
          · exact fun same => isGet (Json.Step.key.inj same)
          · exact outside step mem'
        · rw [List.cons_append, Json.reach_cons, child key isKey]
          exact reached
    · rintro ⟨steps, outside, reached⟩
      cases steps with
      | nil =>
        rw [List.nil_append, Json.reach_cons] at reached
        obtain ⟨v, found, same⟩ := Option.bind_eq_some_iff.mp reached
        obtain ⟨isKey, rfl⟩ := inv found
        obtain rfl := Option.some.inj same
        apply List.mem_flatMap.mpr
        refine ⟨.str "get_param", isKey, ?_⟩
        rw [if_pos rfl]
        exact List.mem_singleton_self _
      | cons step steps =>
        cases step with
        | index i => cases reached
        | key k =>
          rw [List.cons_append, Json.reach_cons] at reached
          obtain ⟨v, found, reached⟩ := Option.bind_eq_some_iff.mp reached
          obtain ⟨isKey, rfl⟩ := inv found
          have notGet : k ≠ .str "get_param" := fun same =>
            outside (.key k) List.mem_cons_self (congrArg _ same)
          apply List.mem_flatMap.mpr
          refine ⟨k, isKey, ?_⟩
          rw [if_neg notGet]
          exact (ih k).mpr ⟨steps, fun step mem =>
            outside step (List.mem_cons_of_mem _ mem), reached⟩

lemma reach_key {t : Value} (k : Key) (path : List (Json.Step Key)) :
    t.reach (.key k :: path) = (t.get? k).bind fun v => v.reach path := rfl

/-- The arguments of a resource are collected. -/
lemma mem_params_of_resource {res param : Value} :
    param ∈ getGetParam ((res.get? "properties").getD .empty) ↔
      ∃ steps, (∀ step ∈ steps, step ≠ getParamStep) ∧
        res.reach (.key (.str "properties") :: (steps ++ [getParamStep])) = some param := by
  rw [mem_getGetParam]
  apply exists_congr
  intro steps
  apply and_congr_right
  intro _
  rw [reach_key]
  cases res.get? "properties" with
  | some v => exact Iff.rfl
  | none =>
    refine ⟨fun reached => ?_, fun absurd => by cases absurd⟩
    cases steps with
    | nil => cases reached
    | cons step steps => cases step <;> cases reached

/-- One turn of the loop over the resources. -/
lemma resource_ok {resources : Value} {name : Key} {found : List Value} :
    (do
      let res ← item resources name
      let properties ← getOrEmpty res "properties"
      return getGetParam properties : Except Raised (List Value)) = .ok found ↔
      ∃ res, resources.get? name = some res ∧ res.isDict = true ∧
        getGetParam ((res.get? "properties").getD .empty) = found := by
  constructor
  · intro eq
    obtain ⟨res, got, eq⟩ := bind_ok.mp eq
    obtain ⟨properties, props, eq⟩ := bind_ok.mp eq
    obtain ⟨dict, rfl⟩ := getOrEmpty_ok.mp props
    exact ⟨res, item_ok.mp got, dict, pure_ok.mp eq⟩
  · rintro ⟨res, got, dict, rfl⟩
    exact bind_ok.mpr ⟨res, item_ok.mpr got, bind_ok.mpr ⟨_, getOrEmpty_ok.mpr ⟨dict, rfl⟩, rfl⟩⟩

lemma reach_resource {hot : Value} {name : Key} :
    hot.reach [.key (.str "resources"), .key name] =
      (hot.get? "resources").bind fun v => v.get? name := by
  rw [reach_key]
  apply congrArg (fun f => (hot.get? "resources").bind f)
  funext v
  exact Option.bind_fun_some _

/-- The arguments can be collected exactly if the template has its shape. -/
lemma getParams_total {hot : Value} : (∃ params, getParams hot = .ok params) ↔ HotShape hot := by
  constructor
  · rintro ⟨params, eq⟩
    obtain ⟨resources, resEq, eq⟩ := bind_ok.mp eq
    obtain ⟨names, namesEq, eq⟩ := bind_ok.mp eq
    obtain ⟨found, foundEq, _⟩ := bind_ok.mp eq
    obtain ⟨root, resIs⟩ := getOrEmpty_ok.mp resEq
    obtain ⟨dict, rfl⟩ := keysOf_ok.mp namesEq
    refine ⟨root, fun v got => ?_, fun name res reached => ?_⟩
    · rw [got, Option.getD_some] at resIs
      rw [← resIs]
      exact dict
    · rw [reach_resource] at reached
      obtain ⟨v, got, got'⟩ := Option.bind_eq_some_iff.mp reached
      rw [got, Option.getD_some] at resIs
      subst resIs
      have isKey : name ∈ resources.keys := Json.mem_keys_iff.mpr (by rw [got']; rfl)
      obtain ⟨found', turn⟩ := mapM_ok_of_mem foundEq isKey
      obtain ⟨res', got'', isDict, _⟩ := resource_ok.mp turn
      rw [Option.some.inj (got'.symm.trans got'')]
      exact isDict
  · rintro ⟨root, resources, each⟩
    have dict : ((hot.get? "resources").getD .empty).isDict = true := by
      cases got : hot.get? "resources" with
      | none => rfl
      | some v => exact resources v got
    obtain ⟨found, foundEq⟩ : ∃ found, (((hot.get? "resources").getD .empty).keys.mapM fun name => do
        let res ← item ((hot.get? "resources").getD .empty) name
        let properties ← getOrEmpty res "properties"
        return getGetParam properties : Except Raised (List (List Value))) = .ok found := by
      apply mapM_ok_total.mpr
      intro name isKey
      obtain ⟨res, got⟩ := Option.isSome_iff_exists.mp (Json.mem_keys_iff.mp isKey)
      refine ⟨_, resource_ok.mpr ⟨res, got, ?_, rfl⟩⟩
      apply each name res
      rw [reach_resource]
      cases got' : hot.get? "resources" with
      | none =>
        rw [got'] at got
        cases got
      | some v =>
        rw [got'] at got
        exact got
    exact ⟨found.flatten, bind_ok.mpr ⟨_, getOrEmpty_ok.mpr ⟨root, rfl⟩,
      bind_ok.mpr ⟨_, keysOf_ok.mpr ⟨dict, rfl⟩, bind_ok.mpr ⟨found, foundEq, rfl⟩⟩⟩⟩

lemma mem_getParams {hot : Value} {params : List Value} (eq : getParams hot = .ok params)
    {param : Value} : param ∈ params ↔ Collected hot param := by
  obtain ⟨resources, resEq, eq⟩ := bind_ok.mp eq
  obtain ⟨names, namesEq, eq⟩ := bind_ok.mp eq
  obtain ⟨found, foundEq, eq⟩ := bind_ok.mp eq
  obtain rfl := pure_ok.mp eq
  obtain ⟨_, rfl⟩ := getOrEmpty_ok.mp resEq
  obtain ⟨_, rfl⟩ := keysOf_ok.mp namesEq
  rw [List.mem_flatten]
  constructor
  · rintro ⟨params, mem, mem'⟩
    obtain ⟨name, _, turn⟩ := (mem_of_mapM_ok foundEq).mp mem
    obtain ⟨res, got, _, rfl⟩ := resource_ok.mp turn
    obtain ⟨steps, outside, reached⟩ := mem_params_of_resource.mp mem'
    refine ⟨steps, outside, name, ?_⟩
    rw [reach_key]
    cases got' : hot.get? "resources" with
    | none =>
      rw [got'] at got
      cases got
    | some v =>
      rw [got', Option.getD_some] at got
      rw [Option.bind_some, reach_key, got]
      exact reached
  · rintro ⟨steps, outside, name, reached⟩
    rw [reach_key] at reached
    obtain ⟨v, got, reached⟩ := Option.bind_eq_some_iff.mp reached
    rw [reach_key] at reached
    obtain ⟨res, got', reached⟩ := Option.bind_eq_some_iff.mp reached
    rw [got, Option.getD_some] at foundEq
    have isKey : name ∈ v.keys := Json.mem_keys_iff.mpr (by rw [got']; rfl)
    obtain ⟨params, turn⟩ := mapM_ok_of_mem foundEq isKey
    refine ⟨params, (mem_of_mapM_ok foundEq).mpr ⟨name, isKey, turn⟩, ?_⟩
    obtain ⟨res', got'', _, rfl⟩ := resource_ok.mp turn
    rw [← Option.some.inj (got'.symm.trans got'')]
    exact mem_params_of_resource.mpr ⟨steps, outside, reached⟩

/-! ## The loop over the arguments -/

lemma setNone_ok_iff {t t' : Value} {ks : List Key} :
    setNone t ks = .ok t' ↔ t.plant ks = some t' := by
  induction ks generalizing t t' with
  | nil => exact ⟨fun eq => congrArg some (Except.ok.inj eq), fun eq =>
      congrArg Except.ok (Option.some.inj eq)⟩
  | cons k ks ih =>
    cases ks with
    | nil =>
      show (if t.isDict then .ok (t.set k .null) else .error .typeError : Except Raised Value) = _ ↔
        (if t.isDict then some (t.set k .null) else none) = _
      cases t.isDict with
      | true => exact ⟨fun eq => congrArg some (Except.ok.inj eq), fun eq =>
          congrArg Except.ok (Option.some.inj eq)⟩
      | false => exact ⟨fun eq => (by cases eq), fun eq => (by cases eq)⟩
    | cons k' ks =>
      rw [Json.plant_cons (List.cons_ne_nil k' ks)]
      cases dict : t.isDict with
      | true =>
        have unfolds : setNone t (k :: k' :: ks) =
            (setNone ((t.get? k).getD .empty) (k' :: ks) >>= fun child =>
              return t.set k child) := if_pos dict
        rw [unfolds, if_pos rfl, bind_ok, Option.map_eq_some_iff]
        apply exists_congr
        intro v
        rw [ih, pure_ok]
      | false =>
        have unfolds : setNone t (k :: k' :: ks) = .error .attributeError :=
          if_neg (by rw [dict]; exact Bool.false_ne_true)
        rw [unfolds]
        exact ⟨fun eq => (by cases eq), fun eq => (by cases eq)⟩

/-- The loop returns if the items of the paths are hashable and the paths can be planted. -/
lemma addParams_ok_iff {params : List Value} {t t' : Value} :
    params.foldlM addParam t = .ok t' ↔
      ∃ found, params.mapM nfvKeys = .ok found ∧ Json.plantAll found.reduceOption t = some t' := by
  induction params generalizing t with
  | nil =>
    rw [foldlM_nil_ok]
    constructor
    · rintro rfl
      exact ⟨[], mapM_nil_ok.mpr rfl, rfl⟩
    · rintro ⟨found, eq, planted⟩
      rw [mapM_nil_ok.mp eq] at planted
      exact Option.some.inj planted
  | cons param params ih =>
    rw [foldlM_cons_ok]
    constructor
    · rintro ⟨next, step, eq⟩
      obtain ⟨found, foundEq, planted⟩ := ih.mp eq
      obtain ⟨first, keys, added⟩ := bind_ok.mp step
      refine ⟨first :: found, mapM_cons_ok.mpr ⟨first, found, keys, foundEq, rfl⟩, ?_⟩
      cases first with
      | none =>
        rw [pure_ok.mp added]
        exact planted
      | some ks => exact Option.bind_eq_some_iff.mpr ⟨next, setNone_ok_iff.mp added, planted⟩
    · rintro ⟨found, eq, planted⟩
      obtain ⟨first, rest, keys, foundEq, rfl⟩ := mapM_cons_ok.mp eq
      cases first with
      | none => exact ⟨t, bind_ok.mpr ⟨none, keys, rfl⟩, ih.mpr ⟨rest, foundEq, planted⟩⟩
      | some ks =>
        obtain ⟨next, first, planted⟩ := Option.bind_eq_some_iff.mp planted
        exact ⟨next, bind_ok.mpr ⟨some ks, keys, setNone_ok_iff.mpr first⟩,
          ih.mpr ⟨rest, foundEq, planted⟩⟩

/-! ## The sizes of lists -/

/-- The lists in a document are no longer than a bound. -/
lemma exists_bound (t : Value) : ∃ bound : Nat, ∀ path size item,
    t.reach path = some (.arr size item) → size ≤ bound := by
  induction t with
  | null =>
    refine ⟨0, fun path size item reached => ?_⟩
    cases path with
    | nil => cases reached
    | cons step path => cases step <;> cases reached
  | atom value =>
    refine ⟨0, fun path size item reached => ?_⟩
    cases path with
    | nil => cases reached
    | cons step path => cases step <;> cases reached
  | arr size item ih =>
    choose bound isBound using ih
    refine ⟨max size (Finset.univ.sup bound), fun path size' item' reached => ?_⟩
    cases path with
    | nil =>
      obtain ⟨rfl, _⟩ := Json.arr.inj (Option.some.inj reached)
      exact Nat.le_max_left _ _
    | cons step path =>
      cases step with
      | key k => cases reached
      | index i =>
        rw [Json.reach_cons] at reached
        obtain ⟨v, found, reached⟩ := Option.bind_eq_some_iff.mp reached
        have found : (if bound : i < size then some (item ⟨i, bound⟩) else none) = some v := found
        by_cases within : i < size
        · rw [dif_pos within] at found
          obtain rfl := Option.some.inj found
          have le := isBound ⟨i, within⟩ path size' item' reached
          have le' : bound ⟨i, within⟩ ≤ Finset.univ.sup bound := Finset.le_sup (Finset.mem_univ _)
          exact Nat.le_trans (Nat.le_trans le le') (Nat.le_max_right _ _)
        · rw [dif_neg within] at found
          cases found
  | obj ks unique value ih =>
    choose bound isBound using ih
    refine ⟨ks.toFinset.sup bound, fun path size item reached => ?_⟩
    cases path with
    | nil => cases reached
    | cons step path =>
      cases step with
      | index i => cases reached
      | key k =>
        rw [Json.reach_cons] at reached
        obtain ⟨v, found, reached⟩ := Option.bind_eq_some_iff.mp reached
        obtain ⟨isKey, same⟩ := Option.ite_none_right_eq_some.mp found
        obtain rfl := Option.some.inj same
        exact Nat.le_trans (isBound k path size item reached)
          (Finset.le_sup (List.mem_toFinset.mpr isKey))

/-- What a path is read from. -/
lemma nfvKeys_some {param : Value} {ks : List Key} (eq : nfvKeys param = .ok (some ks)) :
    ∃ size item, param = .arr size item ∧ ks.length + 1 = size := by
  unfold nfvKeys at eq
  split at eq
  · rename_i b c d rest isList
    obtain ⟨ks', keys, same⟩ := map_ok.mp eq
    have length := mapM_ok_length keys
    cases param with
    | arr size item =>
      have sizes := congrArg List.length (Option.some.inj isList)
      rw [List.length_ofFn] at sizes
      refine ⟨size, item, rfl, ?_⟩
      rw [← Option.some.inj same, length, sizes]
      rfl
    | _ => cases isList
  · cases eq

lemma nfvPath_bounded (hot : Value) : ∃ bound : Nat, ∀ ks, NfvPath hot ks → ks.length ≤ bound := by
  obtain ⟨bound, isBound⟩ := exists_bound hot
  refine ⟨bound, ?_⟩
  rintro ks ⟨steps, param, ⟨name, reached⟩, keys⟩
  obtain ⟨size, item, rfl, length⟩ := nfvKeys_some keys
  have le := isBound _ size item reached
  omega

/-! ## Other orders -/

lemma items_same {v v' : Value} (same : Json.Same v v') :
    Option.Rel (List.Forall₂ Json.Same) (items v) (items v') := by
  cases v with
  | arr size item =>
    cases v' with
    | arr size' item' =>
      obtain ⟨rfl, each⟩ := same
      apply Option.Rel.some
      apply List.forall₂_iff_get.mpr
      refine ⟨by rw [List.length_ofFn, List.length_ofFn], fun i left right => ?_⟩
      rw [List.get_ofFn, List.get_ofFn]
      exact each _
    | _ => cases same
  | _ =>
    cases v' with
    | arr size' item' => cases same
    | _ => exact .none

lemma toKey_same {v v' : Value} (same : Json.Same v v') : toKey v = toKey v' := by
  cases v with
  | atom a =>
    cases v' with
    | atom b => rw [show a = b from same]
    | _ => cases same
  | _ =>
    cases v' with
    | atom b => cases same
    | null => first | rfl | cases same
    | _ => first | rfl | cases same

lemma mapM_toKey_same {vs vs' : List Value} (same : List.Forall₂ Json.Same vs vs') :
    vs.mapM toKey = vs'.mapM toKey := by
  induction same with
  | nil => rfl
  | cons first _ ih => rw [List.mapM_cons, List.mapM_cons, toKey_same first, ih]

/-- The items of an argument that is a path. -/
def IsNfvList (param : Value) (keys : List Value) : Prop :=
  items param = some (.atom (.str "nfv") :: keys) ∧ 3 ≤ keys.length

lemma nfvKeys_of_list {param : Value} {keys : List Value} (isList : IsNfvList param keys) :
    nfvKeys param = some <$> keys.mapM toKey := by
  obtain ⟨isItems, long⟩ := isList
  match keys, long with
  | b :: c :: d :: rest, _ =>
    unfold nfvKeys
    rw [isItems]
    rfl

lemma nfvKeys_of_not_list {param : Value} (notList : ∀ keys, ¬ IsNfvList param keys) :
    nfvKeys param = .ok none := by
  unfold nfvKeys
  split
  · rename_i b c d rest isItems
    exact absurd ⟨isItems, Nat.le_add_left 3 rest.length⟩ (notList (b :: c :: d :: rest))
  · rfl

lemma IsNfvList.same {param param' : Value} {keys : List Value} (isList : IsNfvList param keys)
    (same : Json.Same param param') :
    ∃ keys', IsNfvList param' keys' ∧ List.Forall₂ Json.Same keys keys' := by
  obtain ⟨isItems, long⟩ := isList
  have rel := items_same same
  rw [isItems] at rel
  cases found : items param' with
  | none =>
    rw [found] at rel
    cases rel
  | some list =>
    rw [found] at rel
    cases rel with
    | some each =>
      cases each with
      | @cons _ v _ keys' first rest =>
        refine ⟨keys', ⟨?_, rest.length_eq ▸ long⟩, rest⟩
        cases v with
        | atom b => rw [found, ← show Scalar.str "nfv" = b from first]
        | _ => cases first

/-- The path of an argument does not depend on any order. -/
lemma nfvKeys_same {param param' : Value} (same : Json.Same param param') :
    nfvKeys param = nfvKeys param' := by
  by_cases isList : ∃ keys, IsNfvList param keys
  · obtain ⟨keys, isList⟩ := isList
    obtain ⟨keys', isList', each⟩ := isList.same same
    rw [nfvKeys_of_list isList, nfvKeys_of_list isList', mapM_toKey_same each]
  · push Not at isList
    rw [nfvKeys_of_not_list isList]
    symm
    apply nfvKeys_of_not_list
    intro keys' isList'
    obtain ⟨keys, isList'', _⟩ := isList'.same same.symm
    exact isList keys isList''

lemma GetParamAt.same {hot hot' param : Value} {steps : List (Json.Step Key)}
    (found : GetParamAt hot steps param) (same : Json.Same hot hot') :
    ∃ param', GetParamAt hot' steps param' ∧ Json.Same param param' := by
  obtain ⟨name, reached⟩ := found
  obtain ⟨param', reached', same'⟩ := same.reach reached
  exact ⟨param', ⟨name, reached'⟩, same'⟩

lemma NfvPath.same {hot hot' : Value} {ks : List Key} (isPath : NfvPath hot ks)
    (same : Json.Same hot hot') : NfvPath hot' ks := by
  obtain ⟨steps, param, found, keys⟩ := isPath
  obtain ⟨param', found', same'⟩ := found.same same
  exact ⟨steps, param', found', (nfvKeys_same same').symm.trans keys⟩

lemma Collected.same {hot hot' param : Value} (collected : Collected hot param)
    (same : Json.Same hot hot') : ∃ param', Collected hot' param' ∧ Json.Same param param' := by
  obtain ⟨steps, outside, found⟩ := collected
  obtain ⟨param', found', same'⟩ := found.same same
  exact ⟨param', ⟨steps, outside, found'⟩, same'⟩

lemma CollectedPath.same {hot hot' : Value} {ks : List Key} (isPath : CollectedPath hot ks)
    (same : Json.Same hot hot') : CollectedPath hot' ks := by
  obtain ⟨param, collected, keys⟩ := isPath
  obtain ⟨param', collected', same'⟩ := collected.same same
  exact ⟨param', collected', (nfvKeys_same same').symm.trans keys⟩

lemma HotShape.same {hot hot' : Value} (shape : HotShape hot) (same : Json.Same hot hot') :
    HotShape hot' where
  root := same.isDict ▸ shape.root
  resources v' got' := by
    have rel := same.get? "resources"
    rw [got'] at rel
    cases got : hot.get? "resources" with
    | none =>
      rw [got] at rel
      cases rel
    | some v =>
      rw [got] at rel
      cases rel with
      | some same' => exact same'.isDict ▸ shape.resources v got
  each name res' reached' := by
    obtain ⟨res, reached, same'⟩ := same.symm.reach reached'
    exact same'.isDict.trans (shape.each name res reached)

/-- A template that fits does so in every order. -/
lemma NfvFits.same {hot hot' : Value} (fits : NfvFits hot) (same : Json.Same hot hot') :
    NfvFits hot' where
  shape := fits.shape.same same
  hashable param' collected' := by
    obtain ⟨param, collected, same'⟩ := collected'.same same.symm
    rw [nfvKeys_same same']
    exact fits.hashable param collected
  apart ks longer isPath isPath' :=
    fits.apart ks longer (isPath.same same.symm) (isPath'.same same.symm)
  covers ks isPath := by
    obtain ⟨longer, isPath', isFront⟩ := fits.covers ks (isPath.same same.symm)
    exact ⟨longer, isPath'.same same, isFront⟩

/-! ## The dictionary -/

lemma CollectedPath.nfvPath {hot : Value} {ks : List Key} (isPath : CollectedPath hot ks) :
    NfvPath hot ks := by
  obtain ⟨param, ⟨steps, _, found⟩, keys⟩ := isPath
  exact ⟨steps, param, found, keys⟩

lemma mem_reduceOption {hot : Value} {params : List Value} {found : List (Option (List Key))}
    (eq : getParams hot = .ok params) (keys : params.mapM nfvKeys = .ok found) {ks : List Key} :
    ks ∈ found.reduceOption ↔ CollectedPath hot ks := by
  rw [List.reduceOption_mem_iff, mem_of_mapM_ok keys]
  apply exists_congr
  intro param
  rw [mem_getParams eq]

/-- `init_nfv_dict` grows the longest paths exactly if the template fits. -/
lemma grown_iff {hot : Value} :
    (∃ nfv, initNfvDict hot = .ok nfv ∧ Json.Grown (Json.Maximal (NfvPath hot)) nfv) ↔
      NfvFits hot := by
  have nonempty : ∀ {ks}, CollectedPath hot ks → ks ≠ [] := by
    rintro ks ⟨param, _, keys⟩ rfl
    have long := nfvKeys_length keys
    cases long
  obtain ⟨bound, bounded⟩ := nfvPath_bounded hot
  constructor
  · rintro ⟨nfv, eq, grown⟩
    obtain ⟨params, paramsEq, eq⟩ := bind_ok.mp eq
    obtain ⟨found, keys, planted⟩ := addParams_ok_iff.mp eq
    have mem := @mem_reduceOption hot params found paramsEq keys
    obtain ⟨apart, covers⟩ := (Json.plantAll_grown_iff
      (fun ks isPath => nonempty (mem.mp isPath)) (fun ks isPath => (mem.mp isPath).nfvPath)
      bounded).mp ⟨nfv, planted, grown⟩
    refine ⟨getParams_total.mp ⟨params, paramsEq⟩, fun param collected => ?_,
      fun ks longer isPath isPath' => apart ks longer (mem.mpr isPath) (mem.mpr isPath'),
      fun ks isPath => ?_⟩
    · exact mapM_ok_of_mem keys ((mem_getParams paramsEq).mpr collected)
    · obtain ⟨longer, mem', isFront⟩ := covers ks isPath
      exact ⟨longer, mem.mp mem', isFront⟩
  · intro fits
    obtain ⟨params, paramsEq⟩ := getParams_total.mpr fits.shape
    obtain ⟨found, keys⟩ := mapM_ok_total.mpr fun param isParam =>
      fits.hashable param ((mem_getParams paramsEq).mp isParam)
    have mem := @mem_reduceOption hot params found paramsEq keys
    obtain ⟨nfv, planted, grown⟩ := (Json.plantAll_grown_iff
      (fun ks isPath => nonempty (mem.mp isPath)) (fun ks isPath => (mem.mp isPath).nfvPath)
      bounded).mpr ⟨fun ks longer isPath isPath' isFront =>
        fits.apart ks longer (mem.mp isPath) (mem.mp isPath') isFront, fun ks isPath => by
          obtain ⟨longer, isPath', isFront⟩ := fits.covers ks isPath
          exact ⟨longer, mem.mpr isPath', isFront⟩⟩
    exact ⟨nfv, bind_ok.mpr ⟨params, paramsEq, addParams_ok_iff.mpr ⟨found, keys, planted⟩⟩, grown⟩

/-- For every template, `init_nfv_dict` returns the dictionary with the longest paths as its leaves,
in every order of the members of the template, if and only if the template fits. -/
theorem initNfvDict_iff (hotTemplate : Value) : InitsNfvDict hotTemplate ↔ NfvFits hotTemplate := by
  constructor
  · rintro ⟨nfv, eq, grown, _⟩
    exact grown_iff.mp ⟨nfv, eq, grown⟩
  · intro fits
    obtain ⟨nfv, eq, grown⟩ := grown_iff.mpr fits
    refine ⟨nfv, eq, grown, fun hotTemplate' same => ?_⟩
    obtain ⟨nfv', eq', grown'⟩ := grown_iff.mpr (fits.same same)
    have samePaths : ∀ ks, Json.Maximal (NfvPath hotTemplate') ks ↔
        Json.Maximal (NfvPath hotTemplate) ks := by
      have each : ∀ ks, NfvPath hotTemplate' ks ↔ NfvPath hotTemplate ks := fun ks =>
        ⟨fun isPath => isPath.same same.symm, fun isPath => isPath.same same⟩
      intro ks
      unfold Json.Maximal
      simp only [each]
    exact ⟨nfv', eq', grown.same (grown'.congr samePaths) (Json.apart_maximal _)⟩

/-! ## A path that leads on from another one -/

/-- A resource of a template with a property for each of the paths. -/
def pathsTemplate (paths : List (List String)) : Value :=
  (Json.empty : Value).set "resources" ((Json.empty : Value).set "VDU1"
    ((Json.empty : Value).set "properties" (.list (paths.map fun path =>
      (Json.empty : Value).set "get_param" (.list (path.map text))))))

/-- A parameter and one below it. -/
def prefixTemplate : Value :=
  pathsTemplate [["nfv", "CP", "VDU1_CP1", "network"], ["nfv", "CP", "VDU1_CP1", "network", "id"]]

/-- A parameter below another one raises. -/
theorem prefix_raises : ¬ ∀ hotTemplate : Value, InitsNfvDict hotTemplate := by
  intro each
  obtain ⟨nfv, eq, _⟩ := each prefixTemplate
  have raised : initNfvDict prefixTemplate = .error .typeError := rfl
  rw [raised] at eq
  cases eq

end Tacker.UserData
