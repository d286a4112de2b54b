import Tacker.Basis.Paths
import Tacker.Fields.Kinds

/-!
# Attribute selectors

`EnhanceAttributeSelector` of `vnflcm_view.py`. A selector that was made from a request removes the
excluded fields from the dictionary of a resource, or moves some attributes away and puts the
selected fields of them back.
-/

namespace Tacker.View

open Tacker.Basis Tacker.Fields

/-! ## The selector -/

/-- A selector. Sets are lists in some order; fields are lists of keys. -/
structure Selector where
  returnAttrs : List String
  excludeFields : List (List String)
  fields : List (List String)
  extraAttrs : List String
  nested : ∀ klist ∈ excludeFields ++ fields, 2 ≤ klist.length
  oneKind : excludeFields = [] ∨ fields = []

/-- The parameters `all_fields`, `fields`, `exclude_fields` and `exclude_default` of a request. -/
structure SelectorParams where
  allFields : Bool
  fields : Option String
  excludeFields : Option String
  excludeDefault : Bool

/-- The attributes and fields in a parameter, as lists of keys. -/
def klists (text : String) : List (List String) :=
  (text.splitOn ",").map fun field => field.splitOn "/"

/-- Those that have a slash. -/
def nestedOf (text : String) : List (List String) :=
  (klists text).filter fun klist => 2 ≤ klist.length

lemma le_length_of_nestedOf {text : String} {klist : List String} (mem : klist ∈ nestedOf text) :
    2 ≤ klist.length :=
  of_decide_eq_true (List.mem_filter.mp mem).2

/-- `return_attrs.remove`, for each attribute without a slash. -/
def removeAttrs (allAttrs : List String) (text : String) : Option (List String) :=
  (klists text).foldlM (fun attrs klist =>
    match klist with
    | [attr] => if attr ∈ attrs then some (attrs.erase attr) else none
    | _ => some attrs) allAttrs

namespace Selector

/-- A selector of whole attributes. -/
def ofAttrs (returnAttrs : List String) : Selector where
  returnAttrs := returnAttrs
  excludeFields := []
  fields := []
  extraAttrs := []
  nested _ mem := absurd mem List.not_mem_nil
  oneKind := .inl rfl

/-- A selector of attributes and fields. -/
def ofFields (returnAttrs : List String) (text : String) : Selector where
  returnAttrs := returnAttrs ++ (klists text).filterMap List.head?
  excludeFields := []
  fields := nestedOf text
  extraAttrs := []
  nested _ mem := le_length_of_nestedOf mem
  oneKind := .inl rfl

/-- A selector that excludes fields. -/
def ofExcludeFields (returnAttrs : List String) (text : String) : Selector where
  returnAttrs := returnAttrs
  excludeFields := nestedOf text
  fields := []
  extraAttrs := []
  nested _ mem := le_length_of_nestedOf (List.append_nil (nestedOf text) ▸ mem)
  oneKind := .inr rfl

/-- `__init__`; `none` where it raises. -/
def ofParams (allAttrs mandatoryAttrs defaultExcludeAttrs : List String) (params : SelectorParams) :
    Option Selector :=
  if params.allFields then
    if params.fields.isSome || params.excludeFields.isSome || params.excludeDefault then none
    else some (ofAttrs allAttrs)
  else
    match params.fields, params.excludeFields with
    | some _, some _ => none
    | some fields, none =>
      some (ofFields (if params.excludeDefault then
        allAttrs.filter fun attr => attr ∉ defaultExcludeAttrs else mandatoryAttrs) fields)
    | none, some excludeFields =>
      if params.excludeDefault then none
      else (removeAttrs allAttrs excludeFields).map fun attrs => ofExcludeFields attrs excludeFields
    | none, none => some (ofAttrs (allAttrs.filter fun attr => attr ∉ defaultExcludeAttrs))

/-- `add_extra_attrs`. -/
def addExtraAttrs (sel : Selector) (attrs : List String) : Selector :=
  { sel with
    extraAttrs := sel.extraAttrs ++ attrs.filter fun attr => attr ∉ sel.returnAttrs }

end Selector

/-! ## The filter -/

/-- The extra attributes are deleted. -/
def dropExtra (attrs : List String) (odict : Json) : Json :=
  attrs.foldl Json.del odict

/-- A member that is not `None` is deleted. -/
def dropNonNull : Change String Atom := fun v => if v.isNull then some (some v) else some none

/-- The field is deleted, if the dictionaries down to it are there. -/
def excludeAt : List String → Json → Option Json
  | [], odict => some odict
  | [key], odict => odict.alter key dropNonNull
  | key :: next :: rest, odict => odict.alter key (Change.into (excludeAt (next :: rest)))

/-- One turn of the loop over `exclude_fields`. -/
def excludeField (odict : Json) (klist : List String) : Option Json :=
  if klist.length = 1 then some odict else excludeAt klist odict

/-- The loop over `exclude_fields`. -/
def excludeAll (fields : List (List String)) (odict : Json) : Option Json :=
  fields.foldlM excludeField odict

/-- The saved value of a field, which may be `None`. -/
def savedValue : List String → Json → Option (Option Json)
  | [], saved => some (some saved)
  | [key], saved =>
    if saved.isDict then some ((saved.get? key).filter fun v => !v.isNull) else none
  | key :: next :: rest, saved =>
    if saved.isDict then savedValue (next :: rest) ((saved.get? key).getD Json.empty) else none

/-- The value is set, in dictionaries that are made where there are none. -/
def putAt : List String → Json → Json → Option Json
  | [], _, odict => some odict
  | [key], val, odict => if odict.isDict then some (odict.set key val) else none
  | key :: next :: rest, val, odict =>
    if odict.isDict then
      (putAt (next :: rest) val ((odict.get? key).getD Json.empty)).map (odict.set key)
    else none

/-- An attribute is moved from `odict` to `saved`. -/
def saveAttr (attr : String) (state : Json × Json) : Option (Json × Json) :=
  if attr ∈ state.2.keys then some state
  else (state.1.get? attr).map fun v => (state.1.del attr, state.2.set attr v)

/-- The saved value of a field is put into `odict`, if it is not `None`. -/
def putBack (klist : List String) (state : Json × Json) : Option Json → Option (Json × Json)
  | none => some state
  | some val => (putAt klist val state.1).map fun odict => (odict, state.2)

/-- The value of a field is read and put back. -/
def readd (klist : List String) (state : Json × Json) : Option (Json × Json) :=
  (savedValue klist state.2).bind (putBack klist state)

/-- One turn of the loop over `fields`, with `odict` and `saved`. -/
def selectField (state : Json × Json) (klist : List String) : Option (Json × Json) :=
  if klist.length = 1 then some state
  else (saveAttr (klist.headD "") state).bind (readd klist)

/-- The loop over `fields`. -/
def selectAll (fields : List (List String)) (odict : Json) : Option Json :=
  (fields.foldlM selectField (odict, Json.empty)).map Prod.fst

/-- `filter`. -/
def Selector.filter (sel : Selector) (odict : Json) : Option Json :=
  (excludeAll sel.excludeFields (dropExtra sel.extraAttrs odict)).bind (selectAll sel.fields)

/-! ## What is selected -/

/-- A path in the dictionary of a resource. -/
abbrev Path := List (Json.Step String)

/-- The field is reached by its first keys: what is found there is a dictionary, or one of the
fields that are deleted before it. -/
def Readable (odict : Json) (done : List (List String)) (klist : List String) : Prop :=
  ∀ front, front <+: klist → front ≠ klist →
    (∃ klist' ∈ done, Json.keyPath klist' <+: Json.keyPath front ∧
      odict.NonNull (Json.keyPath klist')) ∨
    ∀ v, odict.reach (Json.keyPath front) = some v → v.isDict = true

/-- The fields of the selector can be read in the dictionary; the attributes of selected fields are
there. -/
def Selector.PathsReadable (sel : Selector) (odict : Json) : Prop :=
  (∀ done klist rest, sel.excludeFields = done ++ klist :: rest → Readable odict done klist) ∧
    ∀ klist ∈ sel.fields, Json.DictsAbove odict klist ∧ (odict.get? (klist.headD "")).isSome = true

/-- The path is at or above the value of one of the fields, or below it. -/
def AtFields (fields : List (List String)) (odict : Json) (path : Path) : Prop :=
  ∃ klist ∈ fields, odict.NonNull (Json.keyPath klist) ∧
    (Json.keyPath klist <+: path ∨ path <+: Json.keyPath klist)

/-- The path is in an attribute of which fields are selected. -/
def InHeads (fields : List (List String)) (path : Path) : Prop :=
  ∃ klist ∈ fields, path.head? = some (.key (klist.headD ""))

/-- What is at the path in the dictionary is selected: no excluded field is at the path or above it,
and where fields of the attribute are selected it is on the way to one of them or below. A field that
is `None` counts as missing. -/
def Selector.Returned (sel : Selector) (odict : Json) (path : Path) : Prop :=
  (∀ klist ∈ sel.excludeFields, Json.keyPath klist <+: path →
    ¬ odict.NonNull (Json.keyPath klist)) ∧
    (InHeads sel.fields path → AtFields sel.fields odict path)

/-! ## Excluded fields -/

/-- The part that `excludeAt` deletes. -/
def fieldPart (klist : List String) : Json.Part String Atom := fun path v =>
  path = Json.keyPath klist ∧ v.isNull = false

/-- The part that the loop over `exclude_fields` deletes. -/
def fieldsPart (fields : List (List String)) : Json.Part String Atom := fun path v =>
  ∃ klist ∈ fields, fieldPart klist path v

lemma isDict_del {t : Json} (key : String) (dict : t.isDict = true) : (t.del key).isDict = true := by
  cases t with
  | obj keys unique value => rfl
  | _ => cases dict

lemma isDict_dropExtra {attrs : List String} {odict : Json} (dict : odict.isDict = true) :
    (dropExtra attrs odict).isDict = true := by
  induction attrs generalizing odict with
  | nil => exact dict
  | cons attr attrs ih => exact ih (isDict_del attr dict)

lemma get?_dropExtra (attrs : List String) (odict : Json) (key : String) :
    (dropExtra attrs odict).get? key = if key ∈ attrs then none else odict.get? key := by
  induction attrs generalizing odict with
  | nil => rfl
  | cons attr attrs ih =>
    apply (ih (odict.del attr)).trans
    rw [Json.get?_del]
    by_cases here : key = attr
    · rw [if_pos here, ite_self, if_pos (here ▸ List.mem_cons_self)]
    · rw [if_neg here]
      by_cases later : key ∈ attrs
      · rw [if_pos later, if_pos (List.mem_cons_of_mem attr later)]
      · rw [if_neg later, if_neg (List.not_mem_cons_of_ne_of_not_mem here later)]

lemma shallow_fieldsPart (fields : List (List String)) : Json.Shallow (fieldsPart fields) := by
  rintro path v v' same ⟨klist, mem, isPath, notNull⟩
  refine ⟨klist, mem, isPath, ?_⟩
  rw [Bool.eq_false_iff] at notNull ⊢
  intro isNull
  exact notNull (Json.node_eq_null.mp (same.trans (Json.node_eq_null.mpr isNull)))

lemma changeRemoves_dropNonNull :
    Json.ChangeRemoves dropNonNull fun path v => path = [] ∧ v.isNull = false := by
  apply Json.changeRemoves_drop
  · intro v notNull
    rw [dropNonNull, notNull]
    rfl
  · intro v isNull
    exact if_pos (Bool.not_eq_false _ ▸ isNull)

lemma removes_excludeAt {klist : List String} (nonempty : klist ≠ []) :
    Json.Removes (excludeAt klist) (fieldPart klist) := by
  have atKey : ∀ key rest, fieldPart (key :: rest) = Json.AtKey key (fieldPart rest) := by
    intro key rest
    funext path v
    apply propext
    constructor
    · rintro ⟨rfl, notNull⟩
      exact ⟨Json.keyPath rest, rfl, rfl, notNull⟩
    · rintro ⟨_, rfl, rfl, notNull⟩
      exact ⟨rfl, notNull⟩
  induction klist with
  | nil => exact absurd rfl nonempty
  | cons key rest ih =>
    rw [atKey]
    cases rest with
    | nil => exact Json.removes_alter key changeRemoves_dropNonNull
    | cons next rest =>
      exact Json.removes_alter key (Json.changeRemoves_into (ih (List.cons_ne_nil next rest)))

lemma excludeAt_isSome {klist : List String} (nonempty : klist ≠ []) (odict : Json) :
    (excludeAt klist odict).isSome = true ↔ Json.DictsAbove odict klist := by
  induction klist generalizing odict with
  | nil => exact absurd rfl nonempty
  | cons key rest ih =>
    rw [Json.dictsAbove_cons]
    cases rest with
    | nil =>
      apply Json.alter_isSome.trans
      apply and_congr_right
      intro _
      constructor
      · exact fun _ v _ => Json.dictsAbove_nil v
      · intro _ v _
        unfold dropNonNull
        by_cases isNull : v.isNull = true
        · rw [if_pos isNull]
          rfl
        · rw [if_neg isNull]
          rfl
    | cons next rest =>
      apply Json.alter_isSome.trans
      apply and_congr_right
      intro _
      apply forall_congr'
      intro v
      apply imp_congr_right
      intro _
      rw [Change.into, Option.isSome_map]
      exact ih (List.cons_ne_nil next rest) v

lemma excludeField_nested {klist : List String} (nested : 2 ≤ klist.length) (odict : Json) :
    excludeField odict klist = excludeAt klist odict :=
  if_neg (by omega)

lemma ne_nil_of_nested {klist : List String} (nested : 2 ≤ klist.length) : klist ≠ [] := by
  rintro rfl
  cases nested

lemma covers_fieldsPart {fields : List (List String)} {odict : Json} {path : Path} :
    Json.Covers (fieldsPart fields) odict path ↔
      ∃ klist ∈ fields, Json.keyPath klist <+: path ∧ odict.NonNull (Json.keyPath klist) := by
  constructor
  · rintro ⟨_, rest, v, rfl, reached, klist, mem, rfl, notNull⟩
    exact ⟨klist, mem, List.prefix_append .., v, reached, notNull⟩
  · rintro ⟨klist, mem, ⟨rest, rfl⟩, v, reached, notNull⟩
    exact ⟨_, rest, v, rfl, reached, klist, mem, rfl, notNull⟩

lemma excludeAll_append (fields : List (List String)) (klist : List String) (odict : Json) :
    excludeAll (fields ++ [klist]) odict =
      (excludeAll fields odict).bind fun t => excludeField t klist := by
  unfold excludeAll
  rw [List.foldlM_append]
  apply congrArg (fun g => (fields.foldlM excludeField odict).bind g)
  funext t
  show (excludeField t klist).bind some = _
  exact Option.bind_fun_some _

lemma removes_excludeAll {fields : List (List String)}
    (nested : ∀ klist ∈ fields, 2 ≤ klist.length) :
    Json.Removes (excludeAll fields) (fieldsPart fields) := by
  induction fields using List.reverseRecOn with
  | nil =>
    have none : ∀ {t path}, ¬ Json.Covers (fieldsPart []) t path := by
      intro t path covers
      obtain ⟨_, mem, _⟩ := covers_fieldsPart.mp covers
      cases mem
    constructor
    · intro t t' path _ covers
      exact absurd covers none
    · intro t t' path made _
      rw [Option.some.inj made]
    · intro t t' path v made reached _
      rw [← Option.some.inj made]
      exact reached
  | append_singleton fields klist ih =>
    have here : 2 ≤ klist.length := nested klist (List.mem_append_right _ List.mem_cons_self)
    have steps : excludeAll (fields ++ [klist]) = fun odict =>
        (excludeAll fields odict).bind (excludeAt klist) := by
      funext odict
      rw [excludeAll_append]
      simp only [excludeField_nested here]
    have parts : fieldsPart (fields ++ [klist]) = fun path v =>
        fieldsPart fields path v ∨ fieldPart klist path v := by
      funext path v
      apply propext
      constructor
      · rintro ⟨klist', mem, isPart⟩
        rcases List.mem_append.mp mem with mem | mem
        · exact .inl ⟨klist', mem, isPart⟩
        · exact .inr (List.mem_singleton.mp mem ▸ isPart)
      · rintro (⟨klist', mem, isPart⟩ | isPart)
        · exact ⟨klist', List.mem_append_left _ mem, isPart⟩
        · exact ⟨klist, List.mem_append_right _ List.mem_cons_self, isPart⟩
    rw [steps, parts]
    apply Json.Removes.bind (ih fun klist' mem => nested klist' (List.mem_append_left _ mem))
      (removes_excludeAt (ne_nil_of_nested here))
    intro path v v' same isPart
    obtain ⟨_, mem, isPart⟩ := shallow_fieldsPart [klist] path v v' same
      ⟨klist, List.mem_cons_self, isPart⟩
    exact List.mem_singleton.mp mem ▸ isPart

lemma excludeAll_isSome {fields : List (List String)}
    (nested : ∀ klist ∈ fields, 2 ≤ klist.length) (odict : Json) :
    (excludeAll fields odict).isSome = true ↔
      ∀ done klist rest, fields = done ++ klist :: rest → Readable odict done klist := by
  induction fields using List.reverseRecOn with
  | nil =>
    refine ⟨fun _ done klist rest same => ?_, fun _ => rfl⟩
    cases done <;> cases same
  | append_singleton fields klist ih =>
    have here : 2 ≤ klist.length := nested klist (List.mem_append_right _ List.mem_cons_self)
    have nested' : ∀ klist' ∈ fields, 2 ≤ klist'.length := fun klist' mem =>
      nested klist' (List.mem_append_left _ mem)
    have last : ∀ {t}, excludeAll fields odict = some t →
        ((excludeField t klist).isSome = true ↔ Readable odict fields klist) := by
      intro t made
      rw [excludeField_nested here, excludeAt_isSome (ne_nil_of_nested here)]
      apply forall_congr'
      intro front
      apply imp_congr_right
      intro _
      apply imp_congr_right
      intro _
      have node : ∀ {t' : Json}, (∀ v, t'.reach (Json.keyPath front) = some v → v.isDict = true) ↔
          ∀ n, t'.node? (Json.keyPath front) = some n → n = .dict := by
        intro t'
        constructor
        · intro each n found
          obtain ⟨v, reached, rfl⟩ := Json.node?_eq_some.mp found
          exact Json.node_eq_dict.mpr (each v reached)
        · intro each v reached
          exact Json.node_eq_dict.mp (each _ (Json.node?_eq_some.mpr ⟨v, reached, rfl⟩))
      rw [← covers_fieldsPart]
      by_cases covers : Json.Covers (fieldsPart fields) odict (Json.keyPath front)
      · refine ⟨fun _ => .inl covers, fun _ => node.mpr fun n found => ?_⟩
        rw [(removes_excludeAll nested').gone made covers] at found
        cases found
      · rw [node, node, (removes_excludeAll nested').same made covers]
        exact ⟨.inr, fun either => either.resolve_left covers⟩
    rw [excludeAll_append]
    constructor
    · intro isSome
      obtain ⟨t', bound⟩ := Option.isSome_iff_exists.mp isSome
      obtain ⟨t, made, made'⟩ := Option.bind_eq_some_iff.mp bound
      intro done klist' rest same
      rcases List.eq_nil_or_concat rest with rfl | ⟨rest', x, rfl⟩
      · obtain ⟨rfl, last'⟩ := List.append_inj' same rfl
        obtain rfl := List.singleton_inj.mp last'
        exact (last made).mp (by rw [made']; rfl)
      · have same' : fields ++ [klist] = (done ++ klist' :: rest') ++ [x] := by
          rw [same, List.append_assoc, List.concat_eq_append]
          rfl
        obtain ⟨front, _⟩ := List.append_inj' same' rfl
        exact (ih nested').mp (by rw [made]; rfl) done klist' rest' front
    · intro each
      have before : (excludeAll fields odict).isSome = true := by
        apply (ih nested').mpr
        intro done klist' rest same
        apply each done klist' (rest ++ [klist])
        rw [same, List.append_assoc]
        rfl
      obtain ⟨t, made⟩ := Option.isSome_iff_exists.mp before
      rw [made]
      exact (last made).mpr (each fields klist [] rfl)

end Tacker.View
