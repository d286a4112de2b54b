import Tacker.Basis.Edit
import Tacker.Fields.RoundTrip

/-!
# Places in objects

A hook on the conversion of an object goes over dictionaries of free keys, or over texts, that are at
some place in it: in an attribute, in an attribute of that, or in the values of a dictionary. The
same place is in the primitive of the object, and a change at a place in memory is a change at that
place in the primitive.
-/

namespace Tacker.Fields

open Tacker.Basis

variable {κ : Type} {reg : Registry κ} {types : FieldTypes} {f g : Json → Option Json}

/-- Where in the values of a kind there are dictionaries of free keys, or texts. -/
inductive Place (reg : Registry κ) : Kind κ → Type where
  | pairs : Place reg .keyValuePairs
  | text : Place reg .string
  | attr {cls : κ} {isParams : Bool} (i : Fin (reg cls).size)
    (inner : Place reg ((reg cls).kind i)) : Place reg (.object cls isParams)
  | values {kind : Kind κ} (inner : Place reg kind) : Place reg (.dict kind)

/-! ## Changes in memory -/

namespace Value

/-- A text field that holds the string. -/
def ofText : Json → Option (Value reg .string)
  | .atom (.str value) => some (.scalar (.text value rfl))
  | _ => none

/-- Key value pairs that are the dictionary. -/
def ofPairs (doc : Json) : Option (Value reg .keyValuePairs) :=
  if isDict : doc.isDict = true then some (.keyValuePairs doc isDict) else none

/-- A change of key value pairs. -/
def onPairs (f : Json → Option Json) : Value reg .keyValuePairs → Option (Value reg .keyValuePairs)
  | .keyValuePairs doc _ => (f doc).bind ofPairs

/-- A change of a text. -/
def onText (f : Json → Option Json) : Value reg .string → Option (Value reg .string)
  | .scalar (.text value _) => (f (str value)).bind ofText

/-- A change of an attribute, if it is set. -/
def onAttr {cls : κ} {isParams : Bool} (i : Fin (reg cls).size)
    (change : Value reg ((reg cls).kind i) → Option (Value reg ((reg cls).kind i)))
    (x : Value reg (.object cls isParams)) : Option (Value reg (.object cls isParams)) :=
  match x.attr? i with
  | some value => (change value).map (x.setAttr i)
  | none => some x

/-- A change of all values of a dictionary. -/
def onValues {kind : Kind κ} (change : Value reg kind → Option (Value reg kind)) :
    Value reg (.dict kind) → Option (Value reg (.dict kind))
  | .dict keys unique item => (sequence fun j => change (item j)).map (.dict keys unique)

end Value

namespace Place

/-- The value, changed at the place. -/
def change (f : Json → Option Json) :
    {kind : Kind κ} → Place reg kind → Value reg kind → Option (Value reg kind)
  | _, .pairs => Value.onPairs f
  | _, .text => Value.onText f
  | _, .attr i inner => Value.onAttr i (inner.change f)
  | _, .values inner => Value.onValues (inner.change f)

/-- The primitive of a value, changed at the place. -/
def changeDoc (f : Json → Option Json) : {kind : Kind κ} → Place reg kind → Json → Option Json
  | _, .pairs => f
  | _, .text => f
  | _, @Place.attr _ _ cls _ i inner => Json.alter ((reg cls).name i) (Change.into (inner.changeDoc f))
  | _, .values inner => Json.edit fun _ => Change.into (inner.changeDoc f)

/-- What is at the place satisfies the predicate. -/
def Each (P : Json → Prop) : {kind : Kind κ} → Place reg kind → Value reg kind → Prop
  | _, .pairs, .keyValuePairs doc _ => P doc
  | _, .text, .scalar (.text value _) => P (str value)
  | _, .attr i inner, x => ∀ value, x.attr? i = some value → inner.Each P value
  | _, .values inner, .dict _ _ item => ∀ j, inner.Each P (item j)

end Place

/-- A change of dictionaries and texts leaves them dictionaries and texts. -/
structure KeepsShape (f : Json → Option Json) : Prop where
  dict : ∀ t t', t.isDict = true → f t = some t' → t'.isDict = true
  text : ∀ value t', f (str value) = some t' → ∃ value', t' = str value'

namespace Value

lemma ofPairs_eq_some {doc : Json} (isDict : doc.isDict = true) :
    ofPairs doc = some (.keyValuePairs doc isDict : Value reg .keyValuePairs) :=
  dif_pos isDict

lemma eq_str_of_ofText {doc : Json} {value : String} {isValid : (fun _ => true) value = true}
    (eq : ofText doc = some (.scalar (.text value isValid) : Value reg .string)) :
    doc = str value := by
  cases doc with
  | atom a =>
    cases a with
    | str value' =>
      injection Option.some.inj eq with _ same
      injection same with _ same
      rw [same]
    | _ => cases eq
  | _ => cases eq

variable {cls : κ} {isParams : Bool} {i : Fin (reg cls).size}
  {change change' : Value reg ((reg cls).kind i) → Option (Value reg ((reg cls).kind i))}
  {x : Value reg (.object cls isParams)}

lemma onAttr_unset (unset : x.attr? i = none) : onAttr i change x = some x := by
  rw [onAttr, unset]

lemma onAttr_set {value : Value reg ((reg cls).kind i)} (set : x.attr? i = some value) :
    onAttr i change x = (change value).map (x.setAttr i) := by
  rw [onAttr, set]

lemma attr?_setAttr_self (value : Value reg ((reg cls).kind i)) :
    (x.setAttr i value).attr? i = some value := by
  rw [attr?_setAttr, Function.update_self]

lemma setAttr_setAttr (value value' : Value reg ((reg cls).kind i)) :
    (x.setAttr i value).setAttr i value' = x.setAttr i value' := by
  apply attr?_injective
  rw [attr?_setAttr, attr?_setAttr, attr?_setAttr, Function.update_idem]

lemma setAttr_eq_self {value value' : Value reg ((reg cls).kind i)}
    (set : x.attr? i = some value) : x.setAttr i value' = x ↔ value' = value := by
  constructor
  · intro same
    have here := congrFun (congrArg attr? same) i
    rw [attr?_setAttr_self, set] at here
    exact Option.some.inj here
  · rintro rfl
    apply attr?_injective
    rw [attr?_setAttr]
    funext j
    by_cases same : j = i
    · subst same
      rw [Function.update_self, set]
    · rw [Function.update_of_ne same]

/-- Two changes of an attribute are one. -/
lemma onAttr_bind :
    (onAttr i change x).bind (onAttr i change') = onAttr i (fun v => (change v).bind change') x := by
  cases set : x.attr? i with
  | none => rw [onAttr_unset set, Option.bind_some, onAttr_unset set, onAttr_unset set]
  | some value =>
    rw [onAttr_set set, onAttr_set set]
    cases change value with
    | none => rfl
    | some changed =>
      show onAttr i change' (x.setAttr i changed) = (change' changed).map _
      rw [onAttr_set (attr?_setAttr_self changed)]
      cases change' changed with
      | none => rfl
      | some changed' => exact congrArg some (setAttr_setAttr changed changed')

lemma onAttr_isSome :
    (onAttr i change x).isSome = true ↔
      ∀ value, x.attr? i = some value → (change value).isSome = true := by
  cases set : x.attr? i with
  | none =>
    rw [onAttr_unset set]
    exact ⟨fun _ _ absent => (by cases absent), fun _ => rfl⟩
  | some value =>
    rw [onAttr_set set, Option.isSome_map]
    constructor
    · intro isSome value' same
      rw [← Option.some.inj same]
      exact isSome
    · exact fun each => each value rfl

/-- The other attributes are as they were. -/
lemma attr?_onAttr {x' : Value reg (.object cls isParams)} (changed : onAttr i change x = some x')
    {j : Fin (reg cls).size} (ne : j ≠ i) : x'.attr? j = x.attr? j := by
  cases set : x.attr? i with
  | none =>
    rw [onAttr_unset set] at changed
    rw [Option.some.inj changed]
  | some value =>
    rw [onAttr_set set] at changed
    obtain ⟨value', _, rfl⟩ := Option.map_eq_some_iff.mp changed
    rw [attr?_setAttr, Function.update_of_ne ne]

/-- Changes of two attributes are made if each of them is. -/
lemma onAttr_bind_isSome {j : Fin (reg cls).size} (ne : i ≠ j)
    {other : Value reg ((reg cls).kind j) → Option (Value reg ((reg cls).kind j))} :
    ((onAttr i change x).bind (onAttr j other)).isSome = true ↔
      (∀ value, x.attr? i = some value → (change value).isSome = true) ∧
        ∀ value, x.attr? j = some value → (other value).isSome = true := by
  rw [← onAttr_isSome]
  cases changed : onAttr i change x with
  | none => exact ⟨fun isSome => (by cases isSome), fun both => (by cases both.1)⟩
  | some x' =>
    rw [Option.bind_some, onAttr_isSome, attr?_onAttr changed ne.symm]
    exact ⟨fun each => ⟨rfl, each⟩, fun both => both.2⟩

/-- A change that changes nothing in the attribute changes nothing in the object. -/
lemma onAttr_keeping (keeping : ∀ v v', change v = some v' → v' = v)
    {x' : Value reg (.object cls isParams)} (changed : onAttr i change x = some x') : x' = x := by
  cases set : x.attr? i with
  | none =>
    rw [onAttr_unset set] at changed
    exact (Option.some.inj changed).symm
  | some value =>
    rw [onAttr_set set] at changed
    obtain ⟨value', made, rfl⟩ := Option.map_eq_some_iff.mp changed
    exact (setAttr_eq_self set).mpr (keeping value value' made)

/-- Changes of different attributes can be made in any order. -/
lemma onAttr_comm {j : Fin (reg cls).size} (ne : i ≠ j)
    {other : Value reg ((reg cls).kind j) → Option (Value reg ((reg cls).kind j))} :
    (onAttr i change x).bind (onAttr j other) = (onAttr j other x).bind (onAttr i change) := by
  have stays : ∀ value, (x.setAttr i value).attr? j = x.attr? j := by
    intro value
    rw [attr?_setAttr, Function.update_of_ne ne.symm]
  have stays' : ∀ value, (x.setAttr j value).attr? i = x.attr? i := by
    intro value
    rw [attr?_setAttr, Function.update_of_ne ne]
  cases set : x.attr? i with
  | none =>
    rw [onAttr_unset set, Option.bind_some]
    cases set' : x.attr? j with
    | none => rw [onAttr_unset set', Option.bind_some, onAttr_unset set]
    | some value' =>
      rw [onAttr_set set']
      cases other value' with
      | none => rfl
      | some changed' => exact (onAttr_unset ((stays' changed').trans set)).symm
  | some value =>
    cases set' : x.attr? j with
    | none =>
      rw [onAttr_unset set', Option.bind_some, onAttr_set set]
      cases change value with
      | none => rfl
      | some changed => exact onAttr_unset ((stays changed).trans set')
    | some value' =>
      rw [onAttr_set set, onAttr_set set']
      cases made : change value with
      | none =>
        cases other value' with
        | none => rfl
        | some changed' =>
          show none = onAttr i change (x.setAttr j changed')
          rw [onAttr_set ((stays' changed').trans set), made]
          rfl
      | some changed =>
        show onAttr j other (x.setAttr i changed) = _
        rw [onAttr_set ((stays changed).trans set')]
        cases other value' with
        | none => rfl
        | some changed' =>
          show some _ = onAttr i change (x.setAttr j changed')
          rw [onAttr_set ((stays' changed').trans set), made]
          apply congrArg some
          apply attr?_injective
          simp only [attr?_setAttr]
          exact Function.update_comm ne _ _ _

end Value

namespace Place

open Value

/-! ## Rules of changes -/

/-- A change that keeps what is at the place keeps the value, and no other does. -/
lemma change_eq_self {kind : Kind κ} (p : Place reg kind) (v : Value reg kind) :
    p.change f v = some v ↔ p.Each (fun t => f t = some t) v := by
  induction p with
  | pairs =>
    cases v with
    | keyValuePairs doc isDict =>
      show (f doc).bind ofPairs = _ ↔ f doc = some doc
      constructor
      · intro eq
        obtain ⟨doc', made, same⟩ := Option.bind_eq_some_iff.mp eq
        rw [made]
        by_cases isDict' : doc'.isDict = true
        · rw [ofPairs_eq_some isDict'] at same
          injection Option.some.inj same with same
          rw [same]
        · rw [ofPairs, dif_neg isDict'] at same
          cases same
      · intro eq
        rw [eq]
        exact ofPairs_eq_some isDict
  | text =>
    cases v with
    | scalar value =>
      cases value with
      | text value isValid =>
        show (f (str value)).bind ofText = _ ↔ f (str value) = some (str value)
        constructor
        · intro eq
          obtain ⟨doc', made, same⟩ := Option.bind_eq_some_iff.mp eq
          rw [made, eq_str_of_ofText same]
        · intro eq
          rw [eq]
          rfl
  | attr i inner ih =>
    show onAttr i (inner.change f) v = some v ↔ ∀ value, v.attr? i = some value → _
    cases set : v.attr? i with
    | none =>
      rw [onAttr_unset set]
      exact ⟨fun _ _ absent => (by cases absent), fun _ => rfl⟩
    | some value =>
      rw [onAttr_set set]
      constructor
      · intro eq value' same
        rw [← Option.some.inj same]
        obtain ⟨changed, made, eq⟩ := Option.map_eq_some_iff.mp eq
        rw [(setAttr_eq_self set).mp eq] at made
        exact (ih value).mp made
      · intro each
        rw [(ih value).mpr (each value rfl)]
        exact congrArg some ((setAttr_eq_self set).mpr rfl)
  | values inner ih =>
    cases v with
    | dict keys unique item =>
      show (sequence fun j => inner.change f (item j)).map _ = _ ↔ ∀ j, inner.Each _ (item j)
      constructor
      · intro eq j
        obtain ⟨item', made, same⟩ := Option.map_eq_some_iff.mp eq
        obtain rfl : item' = item := by
          injection same
        exact (ih _).mp (sequence_eq_some.mp made j)
      · intro each
        rw [sequence_eq_some.mpr fun j => (ih _).mpr (each j)]
        rfl

/-- Two changes at a place, one after the other, are one. -/
lemma change_change (keepsShape : KeepsShape f) {kind : Kind κ} (p : Place reg kind)
    (v : Value reg kind) :
    (p.change f v).bind (p.change g) = p.change (fun t => (f t).bind g) v := by
  induction p with
  | pairs =>
    cases v with
    | keyValuePairs doc isDict =>
      show ((f doc).bind ofPairs).bind (onPairs g) = ((f doc).bind g).bind ofPairs
      cases made : f doc with
      | none => rfl
      | some doc' =>
        show (ofPairs doc').bind (onPairs g) = (g doc').bind ofPairs
        rw [ofPairs_eq_some (keepsShape.dict doc doc' isDict made)]
        rfl
  | text =>
    cases v with
    | scalar value =>
      cases value with
      | text value isValid =>
        show ((f (str value)).bind ofText).bind (onText g) = ((f (str value)).bind g).bind ofText
        cases made : f (str value) with
        | none => rfl
        | some doc' =>
          obtain ⟨value', rfl⟩ := keepsShape.text value doc' made
          rfl
  | attr i inner ih =>
    show (onAttr i (inner.change f) v).bind (onAttr i (inner.change g)) = onAttr i _ v
    rw [onAttr_bind, funext ih]
  | values inner ih =>
    cases v with
    | dict keys unique item =>
      show ((sequence fun j => inner.change f (item j)).map _).bind _ =
        (sequence fun j => inner.change _ (item j)).map _
      rw [← funext fun j => ih (item j), ← sequence_bind, Option.map_bind, Option.bind_map]
      rfl

/-- A change at a place is made if it is made of what is there. -/
lemma change_isSome (keepsShape : KeepsShape f) {kind : Kind κ} (p : Place reg kind)
    (v : Value reg kind) :
    (p.change f v).isSome = true ↔ p.Each (fun t => (f t).isSome = true) v := by
  induction p with
  | pairs =>
    cases v with
    | keyValuePairs doc isDict =>
      show ((f doc).bind ofPairs).isSome = true ↔ (f doc).isSome = true
      cases made : f doc with
      | none => rfl
      | some doc' =>
        show (ofPairs doc').isSome = true ↔ _
        rw [ofPairs_eq_some (keepsShape.dict doc doc' isDict made)]
        rfl
  | text =>
    cases v with
    | scalar value =>
      cases value with
      | text value isValid =>
        show ((f (str value)).bind ofText).isSome = true ↔ (f (str value)).isSome = true
        cases made : f (str value) with
        | none => rfl
        | some doc' =>
          obtain ⟨value', rfl⟩ := keepsShape.text value doc' made
          rfl
  | attr i inner ih =>
    show (onAttr i (inner.change f) v).isSome = true ↔ ∀ value, v.attr? i = some value → _
    cases set : v.attr? i with
    | none =>
      rw [onAttr_unset set]
      exact ⟨fun _ _ absent => (by cases absent), fun _ => rfl⟩
    | some value =>
      rw [onAttr_set set, Option.isSome_map, ih value]
      constructor
      · intro here value' same
        rw [← Option.some.inj same]
        exact here
      · exact fun each => each value rfl
  | values inner ih =>
    cases v with
    | dict keys unique item =>
      show ((sequence fun j => inner.change f (item j)).map _).isSome = true ↔ _
      rw [Option.isSome_map, sequence_isSome]
      exact forall_congr' fun j => ih (item j)

/-- A check at a place changes nothing, and raises unless what is there passes it. -/
lemma change_keeping (keeping : Json.Keeping f) {kind : Kind κ} (p : Place reg kind)
    (v : Value reg kind) :
    (∀ v', p.change f v = some v' → v' = v) ∧
      (p.change f v = some v ↔ p.Each (fun t => (f t).isSome = true) v) := by
  have keepsShape : KeepsShape f := {
    dict := fun t t' dict made => keeping t t' made ▸ dict
    text := fun value t' made => ⟨value, keeping _ _ made⟩ }
  have same : p.change f v = some v ↔ p.Each (fun t => (f t).isSome = true) v := by
    rw [change_eq_self]
    have each : (fun t => f t = some t) = fun t => (f t).isSome = true :=
      funext fun t => propext keeping.eq_self_iff
    rw [each]
  refine ⟨fun v' changed => ?_, same⟩
  have isSome := (change_isSome keepsShape p v).mp (Option.isSome_iff_exists.mpr ⟨v', changed⟩)
  exact Option.some.inj (changed.symm.trans (same.mpr isSome))

end Place

/-! ## Changes in primitives -/

lemma members_other {n : Nat} {name : Fin n → String} {value : Fin n → Json} {key : String}
    (other : ∀ i, name i ≠ key) : members name value key = .null := by
  have absent : position name key = none := by
    apply List.find?_eq_none.mpr
    intro i _ isIt
    exact other i (of_decide_eq_true isIt)
  rw [members, absent]

/-- The dictionary of the attributes of an object that have documents. -/
def objectDoc (cls : Class κ) (docs : Fin cls.size → Option Json) : Json :=
  .obj (setNames cls fun i => (docs i).isSome) (nodup_setNames _ _)
    (members cls.name fun i => (docs i).getD .null)

lemma get?_objectDoc {cls : Class κ} (docs : Fin cls.size → Option Json) (i : Fin cls.size) :
    (objectDoc cls docs).get? (cls.name i) = docs i := by
  rw [objectDoc, Json.get?]
  by_cases set : (docs i).isSome = true
  · rw [if_pos (mem_setNames.mpr set), members_name cls.name_injective]
    obtain ⟨doc, isDoc⟩ := Option.isSome_iff_exists.mp set
    rw [isDoc]
    rfl
  · rw [if_neg fun mem => set (mem_setNames.mp mem)]
    exact (Option.not_isSome_iff_eq_none.mp set).symm

lemma get?_objectDoc_other {cls : Class κ} (docs : Fin cls.size → Option Json) {key : String}
    (other : ∀ i, cls.name i ≠ key) : (objectDoc cls docs).get? key = none := by
  rw [objectDoc, Json.get?]
  apply if_neg
  intro mem
  obtain ⟨i, _, same⟩ := List.mem_map.mp mem
  exact other i same

/-- The primitive of an object has the primitives of its attributes. -/
lemma toPrimitive_object {cls : κ} {isParams : Bool} (x : Value reg (.object cls isParams)) :
    x.toPrimitive types = objectDoc (reg cls) fun i => (x.attr? i).map (Value.toPrimitive types) := by
  cases x with
  | object isSet attr =>
    apply Json.obj_congr
    · apply congrArg
      funext i
      rw [Option.isSome_map, Value.isSome_attr?]
    · apply congrArg
      funext i
      show _ = (((Value.object isSet attr : Value reg (.object cls isParams)).attr? i).map
        (Value.toPrimitive types)).getD .null
      rw [Value.attr?_object]
      by_cases set : isSet i = true
      · rw [dif_pos set, dif_pos set]
        rfl
      · rw [dif_neg set, dif_neg set]
        rfl

/-- A member of the dictionary of an object is changed. -/
lemma alter_objectDoc {cls : Class κ} (docs : Fin cls.size → Option Json) (i : Fin cls.size)
    (h : Change String Atom) {doc : Json} (set : docs i = some doc) :
    Json.alter (cls.name i) h (objectDoc cls docs) =
      (h doc).map fun r => objectDoc cls (Function.update docs i r) := by
  have value : ∀ j, (if cls.name j = cls.name i then h else Change.keep)
      (members cls.name (fun i => (docs i).getD .null) (cls.name j)) =
        if j = i then h doc else some (some ((docs j).getD .null)) := by
    intro j
    rw [members_name cls.name_injective]
    by_cases same : j = i
    · subst same
      rw [if_pos rfl, if_pos rfl, set]
      rfl
    · rw [if_neg fun eq => same (cls.name_injective eq), if_neg same]
      rfl
  cases made : h doc with
  | none =>
    have raises : ¬ (Json.alter (cls.name i) h (objectDoc cls docs)).isSome = true := by
      rw [Json.alter_isSome]
      intro both
      have here := both.2 doc ((get?_objectDoc docs i).trans set)
      rw [made] at here
      cases here
    exact Option.not_isSome_iff_eq_none.mp raises
  | some r =>
    rw [Json.alter, objectDoc, Json.edit_obj]
    · apply congrArg some
      apply Json.obj_congr
      · rw [setNames, setNames, List.filter_map, List.filter_filter]
        apply congrArg
        apply List.filter_congr
        intro j _
        rw [Function.comp_apply, value]
        by_cases same : j = i
        · subst same
          rw [if_pos rfl, made, Function.update_self, set, Option.isSome_some, Bool.and_true]
          rfl
        · rw [if_neg same, Function.update_of_ne same]
          rfl
      · funext k
        by_cases isName : ∃ j, cls.name j = k
        · obtain ⟨j, rfl⟩ := isName
          rw [value, members_name cls.name_injective, members_name cls.name_injective]
          by_cases same : j = i
          · subst same
            rw [if_pos (mem_setNames.mpr (by rw [set]; rfl)), if_pos rfl, made,
              Function.update_self]
            rfl
          · rw [if_neg same, Function.update_of_ne same]
            exact ite_self _
        · have other : ∀ j, cls.name j ≠ k := fun j same => isName ⟨j, same⟩
          rw [members_other other, members_other other, if_neg]
          intro mem
          obtain ⟨j, _, same⟩ := List.mem_map.mp mem
          exact other j same
    · intro k mem
      obtain ⟨j, _, rfl⟩ := List.mem_map.mp mem
      rw [value]
      by_cases same : j = i
      · rw [if_pos same, made]
        rfl
      · rw [if_neg same]
        rfl

/-- All values of a dictionary that was filled in a loop are changed. -/
lemma edit_members {keys : List String} (unique : keys.Nodup) (docs : Fin keys.length → Json)
    (change : Json → Option Json) :
    Json.edit (fun _ => Change.into change) (.obj keys unique (members keys.get docs)) =
      (sequence fun j => change (docs j)).map fun docs' =>
        .obj keys unique (members keys.get docs') := by
  have inj : Function.Injective keys.get := List.nodup_iff_injective_get.mp unique
  cases made : sequence fun j => change (docs j) with
  | none =>
    apply Option.not_isSome_iff_eq_none.mp
    rw [Json.edit_isSome]
    intro both
    have all : (sequence fun j => change (docs j)).isSome = true := by
      rw [sequence_isSome]
      intro j
      have found : (Json.obj keys unique (members keys.get docs)).get? (keys.get j) =
          some (docs j) := by
        rw [Json.get?, if_pos (List.get_mem keys j), members_name inj]
      have here := both.2 _ _ found
      rw [Change.into, Option.isSome_map] at here
      exact here
    rw [made] at all
    cases all
  | some docs' =>
    have value : ∀ j, Change.into change (members keys.get docs (keys.get j)) =
        some (some (docs' j)) := by
      intro j
      rw [members_name inj, Change.into, sequence_eq_some.mp made j]
      rfl
    rw [Json.edit_obj]
    · apply congrArg some
      apply Json.obj_congr
      · apply List.filter_eq_self.mpr
        intro k mem
        obtain ⟨j, rfl⟩ := List.get_of_mem mem
        rw [value]
        rfl
      · funext k
        by_cases mem : k ∈ keys
        · obtain ⟨j, rfl⟩ := List.get_of_mem mem
          rw [if_pos mem, value, members_name inj]
          rfl
        · have other : ∀ j, keys.get j ≠ k := fun j same => mem (same ▸ List.get_mem keys j)
          rw [if_neg mem, members_other other, members_other other]
    · intro k mem
      obtain ⟨j, rfl⟩ := List.get_of_mem mem
      rw [value]
      rfl

/-- A string field is written as it is. -/
def FieldTypes.PlainTexts (types : FieldTypes) : Prop :=
  ∀ {valid : String → Bool} (value : String) (isValid : valid value = true),
    types.toPrimitive (.text value isValid) = str value

namespace Place

open Value

/-- A change at a place is a change at that place in the primitive. -/
theorem toPrimitive_change (plain : types.PlainTexts) (keepsShape : KeepsShape f) {kind : Kind κ}
    (p : Place reg kind) (v : Value reg kind) :
    (p.change f v).map (Value.toPrimitive types) = p.changeDoc f (v.toPrimitive types) := by
  induction p with
  | pairs =>
    cases v with
    | keyValuePairs doc isDict =>
      show ((f doc).bind ofPairs).map _ = f doc
      cases made : f doc with
      | none => rfl
      | some doc' =>
        show (ofPairs doc').map _ = _
        rw [ofPairs_eq_some (keepsShape.dict doc doc' isDict made)]
        rfl
  | text =>
    cases v with
    | scalar value =>
      cases value with
      | text value isValid =>
        show ((f (str value)).bind ofText).map _ = f (types.toPrimitive (.text value isValid))
        rw [plain value isValid]
        cases made : f (str value) with
        | none => rfl
        | some doc' =>
          obtain ⟨value', rfl⟩ := keepsShape.text value doc' made
          show some (types.toPrimitive (.text value' rfl)) = _
          rw [plain value' rfl]
  | @attr cls isParams i inner ih =>
    show (onAttr i (inner.change f) v).map _ = Json.alter _ _ _
    rw [toPrimitive_object v]
    cases set : v.attr? i with
    | none =>
      rw [onAttr_unset set, Json.alter_absent rfl]
      · rw [Option.map_some, toPrimitive_object v]
      · rw [get?_objectDoc, set]
        rfl
    | some value =>
      have isDoc : (v.attr? i).map (Value.toPrimitive types) = some (value.toPrimitive types) := by
        rw [set]
        rfl
      rw [onAttr_set set, alter_objectDoc _ i _ isDoc]
      show _ = ((inner.changeDoc f (value.toPrimitive types)).map some).map _
      rw [← ih value]
      cases inner.change f value with
      | none => rfl
      | some changed =>
        apply congrArg some
        rw [toPrimitive_object, attr?_setAttr]
        apply congrArg
        funext j
        by_cases same : j = i
        · subst same
          rw [Function.update_self, Function.update_self]
          rfl
        · rw [Function.update_of_ne same, Function.update_of_ne same]
  | values inner ih =>
    cases v with
    | dict keys unique item =>
      show ((sequence fun j => inner.change f (item j)).map _).map _ = Json.edit _ (.obj _ _ _)
      rw [edit_members, ← funext fun j => ih (item j), sequence_map]
      cases sequence fun j => inner.change f (item j) <;> rfl

end Place

end Tacker.Fields
