import Tacker.Basis.Json
import Tacker.Basis.Sequence
import Mathlib.Data.List.Nodup
import Mathlib.Data.Fintype.Basic

/-!
# Declared fields

The data types of `objects` declare their attributes as fields of some kinds, which `objects/base.py`
converts to and from dictionaries. A value of a kind is built only with the attributes that its class
declares, each of its kind, and any of them may be unset.
-/

namespace Tacker.Fields

open Tacker.Basis

/-! ## Primitives -/

/-- The scalars of a JSON document. -/
inductive Atom where
  | str (value : String)
  | bool (value : Bool)
  | int (value : Int)
  | float (value : Rat)
deriving DecidableEq

/-- A dictionary, a list or a scalar, as they go to and come from JSON. -/
abbrev Json := Basis.Json String Atom

/-- A string. -/
abbrev str (value : String) : Json := .atom (.str value)

lemma Json.isDict_obj (keys : List String) (unique : keys.Nodup) (value : String → Json) :
    (Basis.Json.obj keys unique value).isDict = true := rfl

/-! ## Kinds -/

/-- The kinds of scalar fields: `StringField`, `UriField`, `VersionField`, `UUIDField`,
`MACAddressField` and the enumerations are texts, of which some are valid. -/
inductive ScalarKind where
  | text (valid : String → Bool)
  | boolean
  | integer (valid : Int → Bool)
  | float (valid : Rat → Bool)
  | ipAddress
  | dateTime

variable {κ : Type}

/-- The kinds of fields, over the names of the classes. The attributes of an object are those of its
class; the class of the parameters of an operation goes with the operation. -/
inductive Kind (κ : Type) where
  | scalar (kind : ScalarKind)
  | list (kind : Kind κ)
  | dict (kind : Kind κ)
  | keyValuePairs
  | object (cls : κ) (isParams : Bool)

namespace Kind

/-- `StringField`, and `UriField` and `VersionField`, which are the same. -/
def string : Kind κ := .scalar (.text fun _ => true)

/-- `BaseEnumField` and `EnumField`. -/
def enum (validValues : List String) : Kind κ := .scalar (.text fun s => s ∈ validValues)

/-- `ObjectField`. -/
def objectField (cls : κ) : Kind κ := .object cls false

/-- `ListOfObjectsField`. -/
def listOfObjects (cls : κ) : Kind κ := .list (objectField cls)

/-- `DictOfObjectsField`. -/
def dictOfObjects (cls : κ) : Kind κ := .dict (objectField cls)

/-- `OperationParamsField`, with the class of the operation. -/
def operationParams (cls : κ) : Kind κ := .object cls true

end Kind

/-- A declared field. -/
structure Field (κ : Type) where
  name : String
  kind : Kind κ

/-- `get_model_field`. -/
def getModelField (name : String) : String :=
  if name = "metadata" then name ++ "__" else name

/-- The fields of a class, of which no two have one column. -/
structure Class (κ : Type) where
  fields : List (Field κ)
  columns : (fields.map fun field => getModelField field.name).Nodup

/-- The classes by their names. -/
abbrev Registry (κ : Type) := κ → Class κ

namespace Class

/-- The number of fields. -/
abbrev size (cls : Class κ) : Nat := cls.fields.length

/-- The name of a field. -/
def name (cls : Class κ) (i : Fin cls.size) : String := (cls.fields.get i).name

/-- The column of a field. -/
def column (cls : Class κ) (i : Fin cls.size) : String := getModelField (cls.name i)

/-- The kind of a field. -/
def kind (cls : Class κ) (i : Fin cls.size) : Kind κ := (cls.fields.get i).kind

lemma column_injective (cls : Class κ) : Function.Injective cls.column := by
  intro i j same
  have unique := cls.columns
  rw [List.nodup_iff_injective_get] at unique
  have eq := @unique (i.cast (List.length_map ..).symm) (j.cast (List.length_map ..).symm)
    (by simpa [column, name] using same)
  exact Fin.ext (congrArg (fun k => k.val) eq)

lemma name_injective (cls : Class κ) : Function.Injective cls.name :=
  fun _ _ same => cls.column_injective (congrArg getModelField same)

end Class

/-! ## Values -/

/-- A point in time, in a time zone whose name is an offset as ISO 8601 has it. -/
structure DateTime where
  seconds : Int
  microsecond : Fin 1000000
deriving DecidableEq

/-- The value of a scalar field in memory. -/
inductive Scalar : ScalarKind → Type where
  | text {valid : String → Bool} (value : String) (isValid : valid value = true) :
    Scalar (.text valid)
  | boolean (value : Bool) : Scalar .boolean
  | integer {valid : Int → Bool} (value : Int) (isValid : valid value = true) :
    Scalar (.integer valid)
  | float {valid : Rat → Bool} (value : Rat) (isValid : valid value = true) : Scalar (.float valid)
  | ipAddress (version : Nat) (value : Nat) : Scalar .ipAddress
  | dateTime (value : DateTime) : Scalar .dateTime

/-- The value of a field in memory; in an object an attribute has a value if it is set. -/
inductive Value (reg : Registry κ) : Kind κ → Type where
  | scalar {kind : ScalarKind} (value : Scalar kind) : Value reg (.scalar kind)
  | list {kind : Kind κ} (size : Nat) (item : Fin size → Value reg kind) : Value reg (.list kind)
  | dict {kind : Kind κ} (keys : List String) (unique : keys.Nodup)
    (item : Fin keys.length → Value reg kind) : Value reg (.dict kind)
  | keyValuePairs (pairs : Json) (isDict : pairs.isDict = true) : Value reg .keyValuePairs
  | object {cls : κ} {isParams : Bool} (isSet : Fin (reg cls).size → Bool)
    (attr : ∀ i, isSet i = true → Value reg ((reg cls).kind i)) : Value reg (.object cls isParams)

namespace Value

variable {reg : Registry κ} {cls : κ} {isParams : Bool}

/-- An object, from the attributes that it may have. -/
def ofAttrs (attrs : ∀ i, Option (Value reg ((reg cls).kind i))) :
    Value reg (.object cls isParams) :=
  .object (fun i => (attrs i).isSome) fun i isSet => (attrs i).get isSet

/-- An attribute, if it is set. -/
def attr? : Value reg (.object cls isParams) → ∀ i, Option (Value reg ((reg cls).kind i))
  | .object isSet attr, i => if set : isSet i = true then some (attr i set) else none

@[simp] lemma attr?_ofAttrs (attrs : ∀ i, Option (Value reg ((reg cls).kind i))) :
    (ofAttrs attrs : Value reg (.object cls isParams)).attr? = attrs := by
  funext i
  show (if set : (attrs i).isSome = true then some ((attrs i).get set) else none) = attrs i
  by_cases set : (attrs i).isSome = true
  · rw [dif_pos set, Option.some_get]
  · rw [dif_neg set]
    exact (Option.not_isSome_iff_eq_none.mp set).symm

lemma attr?_object {isSet : Fin (reg cls).size → Bool}
    {attr : ∀ i, isSet i = true → Value reg ((reg cls).kind i)} (i : Fin (reg cls).size) :
    (Value.object isSet attr : Value reg (.object cls isParams)).attr? i =
      if set : isSet i = true then some (attr i set) else none := rfl

lemma isSome_attr? (isSet : Fin (reg cls).size → Bool)
    (attr : ∀ i, isSet i = true → Value reg ((reg cls).kind i)) (i : Fin (reg cls).size) :
    ((Value.object isSet attr : Value reg (.object cls isParams)).attr? i).isSome = isSet i := by
  rw [attr?_object]
  by_cases set : isSet i = true
  · rw [dif_pos set, set]
    rfl
  · rw [dif_neg set, Bool.eq_false_of_not_eq_true set]
    rfl

/-- An object is known by its attributes. -/
lemma attr?_injective {x y : Value reg (.object cls isParams)} (same : x.attr? = y.attr?) :
    x = y := by
  cases x with
  | object isSet attr =>
    cases y with
    | object isSet' attr' =>
      have sets : isSet = isSet' := by
        funext i
        rw [← isSome_attr? isSet attr, ← isSome_attr? isSet' attr', same]
      subst sets
      have attrs : attr = attr' := by
        funext i set
        have here := congrFun same i
        rw [attr?_object, attr?_object, dif_pos set, dif_pos set] at here
        exact Option.some.inj here
      rw [attrs]

/-- An object without attributes: `cls()`. -/
def new : Value reg (.object cls isParams) := ofAttrs fun _ => none

/-- `setattr`. -/
def setAttr (x : Value reg (.object cls isParams)) (i : Fin (reg cls).size)
    (value : Value reg ((reg cls).kind i)) : Value reg (.object cls isParams) :=
  ofAttrs (Function.update x.attr? i (some value))

lemma attr?_setAttr (x : Value reg (.object cls isParams)) (i : Fin (reg cls).size)
    (value : Value reg ((reg cls).kind i)) :
    (x.setAttr i value).attr? = Function.update x.attr? i (some value) :=
  attr?_ofAttrs _

@[simp] lemma ofAttrs_attr? (x : Value reg (.object cls isParams)) : ofAttrs x.attr? = x :=
  attr?_injective (attr?_ofAttrs x.attr?)

end Value

end Tacker.Fields
