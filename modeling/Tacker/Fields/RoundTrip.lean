import Tacker.Fields.Classes
import Tacker.Fields.Kinds

/-!
# Conversion of objects

`from_dict`, `to_dict`, `from_db_obj` and `to_db_obj` of `objects/base.py`. What the scalar fields
convert to and accept is what `oslo_versionedobjects` makes of them. The text of a JSON document in
a column is given by the document, which `jsonutils.dumps` writes and `jsonutils.loads` reads.
-/

namespace Tacker.Fields

open Tacker.Basis

section

/-! ## Scalar fields -/

/-- `to_primitive` of the scalar fields, and `from_primitive` with the coercion of the assignment;
`none` where it raises. -/
structure FieldTypes where
  toPrimitive : ∀ {kind : ScalarKind}, Scalar kind → Json
  fromPrimitive : ∀ kind : ScalarKind, Json → Option (Scalar kind)

/-- A point in time at a full second. -/
def DateTime.ofSeconds (seconds : Int) : DateTime where
  seconds := seconds
  microsecond := 0

/-- A point in time to the second. -/
def DateTime.whole (t : DateTime) : DateTime := .ofSeconds t.seconds

/-- A scalar as its primitive tells it. -/
def Scalar.whole {kind : ScalarKind} : Scalar kind → Scalar kind
  | .dateTime t => .dateTime t.whole
  | value => value

/-- What is documented of the scalar fields: the primitive of a value is read back, only that
`DateTimeField` writes `%Y-%m-%dT%H:%M:%S` and the time zone. -/
structure FieldTypes.Documented (types : FieldTypes) : Prop where
  readBack : ∀ {kind : ScalarKind} (value : Scalar kind),
    types.fromPrimitive kind (types.toPrimitive value) = some value.whole
  notNull : ∀ {kind : ScalarKind} (value : Scalar kind), (types.toPrimitive value).isNull = false

variable {κ : Type} {reg : Registry κ} (types : FieldTypes)

/-! ## Dictionaries -/

/-- The names of the attributes that are set. -/
def setNames (cls : Class κ) (isSet : Fin cls.size → Bool) : List String :=
  ((List.finRange cls.size).filter isSet).map cls.name

lemma nodup_setNames (cls : Class κ) (isSet : Fin cls.size → Bool) : (setNames cls isSet).Nodup :=
  ((List.nodup_finRange cls.size).filter _).map cls.name_injective

lemma mem_setNames {cls : Class κ} {isSet : Fin cls.size → Bool} {i : Fin cls.size} :
    cls.name i ∈ setNames cls isSet ↔ isSet i = true := by
  unfold setNames
  rw [List.mem_map]
  constructor
  · rintro ⟨j, mem, same⟩
    rw [← cls.name_injective same]
    exact (List.mem_filter.mp mem).2
  · intro set
    exact ⟨i, List.mem_filter.mpr ⟨List.mem_finRange i, set⟩, rfl⟩

/-- The members of a dictionary that is filled in a loop over keys. -/
def members {n : Nat} (name : Fin n → String) (value : Fin n → Json) (key : String) : Json :=
  match position name key with
  | some i => value i
  | none => .null

lemma members_name {n : Nat} {name : Fin n → String} (inj : Function.Injective name)
    (value : Fin n → Json) (i : Fin n) : members name value (name i) = value i := by
  rw [members, position_name inj]

/-- The primitive of a value; for an object that is `to_dict`. -/
def Value.toPrimitive : {kind : Kind κ} → Value reg kind → Json
  | _, .scalar value => types.toPrimitive value
  | _, .list size item => .arr size fun i => (item i).toPrimitive
  | _, .dict keys unique item =>
    .obj keys unique (members keys.get fun i => (item i).toPrimitive)
  | _, .keyValuePairs pairs _ => pairs
  | _, .object isSet attr =>
    .obj (setNames _ isSet) (nodup_setNames _ _) (members (Class.name _) fun i =>
      if set : isSet i = true then (attr i set).toPrimitive else .null)

/-- The value of a primitive; for an object that is `from_dict`. A member that is missing or `None`
leaves the attribute unset. -/
def Value.fromPrimitive : Json → (kind : Kind κ) → Option (Value reg kind)
  | .arr size item, .list kind =>
    (sequence fun i => fromPrimitive (item i) kind).map (.list size)
  | .obj keys unique value, .dict kind =>
    (sequence fun i => fromPrimitive (value (keys.get i)) kind).map (.dict keys unique)
  | .obj keys unique value, .keyValuePairs =>
    some (.keyValuePairs (.obj keys unique value) (Json.isDict_obj keys unique value))
  | .obj keys _ value, .object cls _ =>
    (sequence fun i : Fin (reg cls).size =>
      if (reg cls).name i ∈ keys ∧ (value ((reg cls).name i)).isNull = false then
        (fromPrimitive (value ((reg cls).name i)) ((reg cls).kind i)).map some
      else some none).map .ofAttrs
  | doc, .scalar kind => (types.fromPrimitive kind doc).map .scalar
  | _, _ => none

/-- `to_dict`. -/
def toDict {cls : κ} (x : Value reg (.object cls false)) : Json :=
  x.toPrimitive types

/-- `from_dict`. -/
def fromDict {cls : κ} (doc : Json) : Option (Value reg (.object cls false)) :=
  Value.fromPrimitive types doc _

/-! ## Database rows -/

/-- What a column holds: the text of a document, a point in time, or a primitive. -/
inductive Column where
  | text (doc : Json)
  | dateTime (value : DateTime)
  | primitive (doc : Json)

/-- A row, by the names of its columns. -/
abbrev Row := String → Option Column

/-- An `ObjectField`, a `ListOfObjectsField` or a `DictOfObjectsField`. -/
def Kind.isObjects : Kind κ → Bool
  | .object _ false => true
  | .list (.object _ false) => true
  | .dict (.object _ false) => true
  | _ => false

/-- An attribute in its column. -/
def toColumn {kind : Kind κ} : Value reg kind → Column
  | .scalar (.dateTime value) => .dateTime value
  | value =>
    if kind.isObjects then .text (value.toPrimitive types) else .primitive (value.toPrimitive types)

/-- An attribute from its column; `none` where it raises. -/
def fromColumn (kind : Kind κ) : Column → Option (Value reg kind)
  | .text doc => if kind.isObjects then Value.fromPrimitive types doc kind else none
  | .dateTime value =>
    match kind with
    | .scalar .dateTime => some (.scalar (.dateTime value))
    | _ => none
  | .primitive doc => if kind.isObjects then none else Value.fromPrimitive types doc kind

/-- `to_db_obj`. -/
def toDbObj {cls : κ} (x : Value reg (.object cls false)) : Row := fun column =>
  (position (reg cls).column column).bind fun i => (x.attr? i).map (toColumn types)

/-- An attribute from its column if that is not null. -/
def fromColumn? (kind : Kind κ) : Option Column → Option (Option (Value reg kind))
  | some column => (fromColumn types kind column).map some
  | none => some none

/-- `from_db_obj`, of a row as it is stored. -/
def fromDbObj {cls : κ} (row : Row) : Option (Value reg (.object cls false)) :=
  (sequence fun i : Fin (reg cls).size =>
    fromColumn? types ((reg cls).kind i) (row ((reg cls).column i))).map .ofAttrs

end

/-!
## Round trips of objects

An object is read back from its dictionary and from its row as it was, for every class: attributes
that are unset stay so, and empty and ordered lists and dictionaries too. Only of a point in time
that goes through a primitive no more than the second is kept.
-/

variable {κ : Type} {reg : Registry κ} {types : FieldTypes}

/-! ## Whole seconds -/

namespace Value

/-- A value with all its points in time to the second. -/
def whole : {kind : Kind κ} → Value reg kind → Value reg kind
  | _, .scalar value => .scalar value.whole
  | _, .list size item => .list size fun i => (item i).whole
  | _, .dict keys unique item => .dict keys unique fun i => (item i).whole
  | _, .keyValuePairs pairs isDict => .keyValuePairs pairs isDict
  | _, .object isSet attr => .object isSet fun i set => (attr i set).whole

/-- All points in time of a value are whole seconds. -/
def IsWhole : {kind : Kind κ} → Value reg kind → Prop
  | _, .scalar value => value.whole = value
  | _, .list _ item => ∀ i, (item i).IsWhole
  | _, .dict _ _ item => ∀ i, (item i).IsWhole
  | _, .keyValuePairs _ _ => True
  | _, .object _ attr => ∀ i set, (attr i set).IsWhole

lemma whole_eq_iff {kind : Kind κ} (value : Value reg kind) : value.whole = value ↔ value.IsWhole := by
  induction value with
  | scalar value =>
    show Value.scalar value.whole = .scalar value ↔ value.whole = value
    rw [Value.scalar.injEq]
  | list size item ih =>
    show Value.list size (fun i => (item i).whole) = .list size item ↔ ∀ i, (item i).IsWhole
    rw [Value.list.injEq]
    constructor
    · intro eq i
      exact (ih i).mp (congrFun (eq_of_heq eq.2) i)
    · intro each
      exact ⟨rfl, heq_of_eq (funext fun i => (ih i).mpr (each i))⟩
  | dict keys unique item ih =>
    show Value.dict keys unique (fun i => (item i).whole) = .dict keys unique item ↔ _
    rw [Value.dict.injEq]
    constructor
    · intro eq i
      exact (ih i).mp (congrFun (eq_of_heq eq.2) i)
    · intro each
      exact ⟨rfl, heq_of_eq (funext fun i => (ih i).mpr (each i))⟩
  | keyValuePairs pairs isDict => exact ⟨fun _ => trivial, fun _ => rfl⟩
  | object isSet attr ih =>
    show Value.object isSet (fun i set => (attr i set).whole) = .object isSet attr ↔ _
    rw [Value.object.injEq]
    constructor
    · intro eq i set
      exact (ih i set).mp (congrFun (congrFun (eq_of_heq eq.2) i) set)
    · intro each
      refine ⟨rfl, heq_of_eq ?_⟩
      funext i set
      exact (ih i set).mpr (each i set)

lemma isWhole_object {cls : κ} {isParams : Bool} (x : Value reg (.object cls isParams)) :
    x.IsWhole ↔ ∀ i value, x.attr? i = some value → value.IsWhole := by
  cases x with
  | object isSet attr =>
    constructor
    · intro whole i value found
      rw [attr?_object] at found
      by_cases set : isSet i = true
      · rw [dif_pos set] at found
        rw [← Option.some.inj found]
        exact whole i set
      · rw [dif_neg set] at found
        cases found
    · intro each i set
      exact each i _ (dif_pos set)

/-! ## Dictionaries -/

lemma isNull_toPrimitive (documented : types.Documented) {kind : Kind κ} (value : Value reg kind) :
    (value.toPrimitive types).isNull = false := by
  cases value with
  | scalar value => exact documented.notNull value
  | keyValuePairs pairs isDict =>
    show pairs.isNull = false
    cases pairs with
    | null => cases isDict
    | _ => rfl
  | _ => rfl

lemma fromPrimitive_scalar {kind : ScalarKind} (doc : Json) :
    fromPrimitive types doc (.scalar kind) =
      (types.fromPrimitive kind doc).map (fun value => (.scalar value : Value reg (.scalar kind))) := by
  cases doc <;> rfl

/-- An object is read from a dictionary whose members are those of its attributes. -/
lemma fromPrimitive_object {keys : List String} {unique : keys.Nodup} {value : String → Json}
    {cls : κ} {isParams : Bool} {attrs : ∀ i, Option (Value reg ((reg cls).kind i))}
    (each : ∀ i, ((reg cls).name i ∈ keys ∧ (value ((reg cls).name i)).isNull = false ∧
        ∃ attr, fromPrimitive types (value ((reg cls).name i)) ((reg cls).kind i) = some attr ∧
          attrs i = some attr) ∨
      ((reg cls).name i ∉ keys ∧ attrs i = none)) :
    fromPrimitive types (.obj keys unique value) (.object cls isParams) = some (ofAttrs attrs) := by
  show (sequence fun i : Fin (reg cls).size =>
    if (reg cls).name i ∈ keys ∧ (value ((reg cls).name i)).isNull = false then
      (fromPrimitive types (value ((reg cls).name i)) ((reg cls).kind i)).map some
    else some none).map ofAttrs = _
  suffices all : ∀ i, (if (reg cls).name i ∈ keys ∧ (value ((reg cls).name i)).isNull = false then
      (fromPrimitive types (value ((reg cls).name i)) ((reg cls).kind i)).map some
      else some none) = some (attrs i) by
    rw [sequence_eq_some.mpr all]
    rfl
  intro i
  rcases each i with ⟨mem, notNull, attr, read, isAttr⟩ | ⟨absent, isNone⟩
  · rw [if_pos ⟨mem, notNull⟩, read, isAttr]
    rfl
  · rw [if_neg fun both => absent both.1, isNone]

/-- A value is read back from its primitive to the second. -/
theorem fromPrimitive_toPrimitive (documented : types.Documented) {kind : Kind κ}
    (value : Value reg kind) :
    Value.fromPrimitive types (value.toPrimitive types) kind = some value.whole := by
  induction value with
  | scalar value =>
    show fromPrimitive types (types.toPrimitive value) (.scalar _) = some (.scalar _)
    rw [fromPrimitive_scalar, documented.readBack value]
    rfl
  | list size item ih =>
    show (sequence fun i => fromPrimitive types ((item i).toPrimitive types) _).map _ = _
    rw [sequence_eq_some.mpr ih]
    rfl
  | dict keys unique item ih =>
    show (sequence fun i => fromPrimitive types (members keys.get
      (fun i => (item i).toPrimitive types) (keys.get i)) _).map _ = _
    have items : ∀ i, fromPrimitive types (members keys.get
        (fun i => (item i).toPrimitive types) (keys.get i)) _ = some (item i).whole := by
      intro i
      rw [members_name (List.nodup_iff_injective_get.mp unique)]
      exact ih i
    rw [sequence_eq_some.mpr items]
    rfl
  | keyValuePairs pairs isDict =>
    cases pairs with
    | obj keys unique value => rfl
    | _ => cases isDict
  | @object cls isParams isSet attr ih =>
    let seconds : Value reg (.object cls isParams) := .object isSet fun i set => (attr i set).whole
    have read : fromPrimitive types
        ((Value.object isSet attr : Value reg (.object cls isParams)).toPrimitive types)
        (.object cls isParams) = some (ofAttrs seconds.attr?) := by
      apply fromPrimitive_object
      intro i
      rw [mem_setNames, members_name (reg cls).name_injective]
      by_cases set : isSet i = true
      · rw [dif_pos set]
        exact Or.inl ⟨set, isNull_toPrimitive documented _, _, ih i set, dif_pos set⟩
      · exact Or.inr ⟨set, dif_neg set⟩
    rw [read, ofAttrs_attr?]
    rfl

end Value

/-! ## Rows -/

/-- An attribute as its column keeps it: a point in time that is a column of its own is exact. -/
def storedWhole {kind : Kind κ} : Value reg kind → Value reg kind
  | .scalar (.dateTime value) => .scalar (.dateTime value)
  | value => value.whole

/-- All points in time of an attribute that are not columns of their own are whole seconds. -/
def IsStoredWhole {kind : Kind κ} : Value reg kind → Prop
  | .scalar (.dateTime _) => True
  | value => value.IsWhole

lemma storedWhole_eq_iff {kind : Kind κ} (value : Value reg kind) :
    storedWhole value = value ↔ IsStoredWhole value := by
  cases value with
  | scalar value =>
    cases value with
    | dateTime value => exact ⟨fun _ => trivial, fun _ => rfl⟩
    | _ => exact Value.whole_eq_iff (.scalar _)
  | _ => exact Value.whole_eq_iff _

/-- An attribute is read back from its column. -/
lemma fromColumn_toColumn (documented : types.Documented) {kind : Kind κ} (value : Value reg kind) :
    fromColumn types kind (toColumn types value) = some (storedWhole value) := by
  have others : fromColumn types kind (if kind.isObjects then .text (value.toPrimitive types)
      else .primitive (value.toPrimitive types)) = some value.whole := by
    have read := Value.fromPrimitive_toPrimitive documented value
    by_cases objects : kind.isObjects = true
    · rw [if_pos objects]
      show (if kind.isObjects = true then _ else none) = _
      rw [if_pos objects, read]
    · rw [if_neg objects]
      show (if kind.isObjects = true then none else _) = _
      rw [if_neg objects, read]
  cases value with
  | scalar value =>
    cases value with
    | dateTime value => rfl
    | _ => exact others
  | _ => exact others

/-- An object is read back from its row, each attribute as its column keeps it. -/
lemma fromDbObj_toDbObj (documented : types.Documented) {cls : κ}
    (x : Value reg (.object cls false)) :
    fromDbObj types (toDbObj types x) =
      some (Value.ofAttrs fun i => (x.attr? i).map storedWhole) := by
  have attrs : ∀ i : Fin (reg cls).size,
      fromColumn? types ((reg cls).kind i) (toDbObj types x ((reg cls).column i)) =
        some ((x.attr? i).map storedWhole) := by
    intro i
    rw [toDbObj, position_name (reg cls).column_injective]
    show fromColumn? types _ ((x.attr? i).map (toColumn types)) = _
    cases x.attr? i with
    | none => rfl
    | some value =>
      show (fromColumn types _ (toColumn types value)).map some = _
      rw [fromColumn_toColumn documented]
      rfl
  unfold fromDbObj
  rw [sequence_eq_some.mpr attrs]
  rfl

/-! ## Objects -/

/-- An object has no fractions of seconds in its dictionary. -/
def ExactDict {cls : κ} (x : Value reg (.object cls false)) : Prop :=
  x.IsWhole

/-- An object has no fractions of seconds in its row, other than in columns of their own. -/
def ExactRow {cls : κ} (x : Value reg (.object cls false)) : Prop :=
  ∀ i value, x.attr? i = some value → IsStoredWhole value

lemma fromDict_toDict_iff (documented : types.Documented) {cls : κ}
    (x : Value reg (.object cls false)) :
    fromDict types (toDict types x) = some x ↔ ExactDict x := by
  rw [fromDict, toDict, Value.fromPrimitive_toPrimitive documented, Option.some.injEq]
  exact x.whole_eq_iff

lemma fromDbObj_toDbObj_iff (documented : types.Documented) {cls : κ}
    (x : Value reg (.object cls false)) :
    fromDbObj types (toDbObj types x) = some x ↔ ExactRow x := by
  rw [fromDbObj_toDbObj documented, Option.some.injEq]
  constructor
  · intro eq i value found
    have here := congrFun (congrArg Value.attr? eq) i
    rw [Value.attr?_ofAttrs, found] at here
    exact (storedWhole_eq_iff value).mp (Option.some.inj here)
  · intro exact
    apply Value.attr?_injective
    rw [Value.attr?_ofAttrs]
    funext i
    cases found : x.attr? i with
    | none => rfl
    | some value => exact congrArg some ((storedWhole_eq_iff value).mpr (exact i value found))

/-- Objects are read back from their dictionaries and from their rows exactly if no point in time
that is not a column of its own has a fraction of a second. -/
theorem round_trip_iff (documented : types.Documented) {cls : κ}
    (x : Value reg (.object cls false)) :
    (fromDict types (toDict types x) = some x ↔ ExactDict x) ∧
      (fromDbObj types (toDbObj types x) = some x ↔ ExactRow x) :=
  ⟨fromDict_toDict_iff documented x, fromDbObj_toDbObj_iff documented x⟩

/-- What holds of the attributes of an object with one attribute. -/
lemma forall_attr_single {cls : κ} {isParams : Bool} {i : Fin (reg cls).size}
    {value : Value reg ((reg cls).kind i)} {P : ∀ {kind : Kind κ}, Value reg kind → Prop} :
    (∀ j value', (Value.new.setAttr i value : Value reg (.object cls isParams)).attr? j =
      some value' → P value') ↔ P value := by
  rw [Value.attr?_setAttr]
  constructor
  · intro each
    exact each i value (Function.update_self ..)
  · intro holds j value' found
    by_cases same : j = i
    · subst same
      rw [Function.update_self] at found
      rw [← Option.some.inj found]
      exact holds
    · rw [Function.update_of_ne same, Value.new, Value.attr?_ofAttrs] at found
      cases found

/-- Primitives of points in time: one is written as in ISO 8601, the others by their seconds. -/
def plainTime (t : DateTime) : Json :=
  if t.seconds = 1704067200 then str "2024-01-01T00:00:00Z" else .atom (.int t.seconds)

/-- The points in time of these scalars. -/
def timeOfAtom : Atom → Option DateTime
  | .str value => if value = "2024-01-01T00:00:00Z" then some (.ofSeconds 1704067200) else none
  | .int value => some (.ofSeconds value)
  | _ => none

/-- The points in time of these primitives. -/
def timeOf : Json → Option DateTime
  | .atom value => timeOfAtom value
  | _ => none

/-- Field types by which objects can be evaluated. -/
def plainTypes : FieldTypes where
  toPrimitive
    | .text value _ => str value
    | .boolean value => .atom (.bool value)
    | .integer value _ => .atom (.int value)
    | .float value _ => .atom (.float value)
    | .ipAddress version value => .arr 2 fun i =>
      .atom (.int (if i = 0 then (version : Int) else (value : Int)))
    | .dateTime value => plainTime value
  fromPrimitive
    | .text valid, .atom (.str value) =>
      if isValid : valid value = true then some (.text value isValid) else none
    | .boolean, .atom (.bool value) => some (.boolean value)
    | .integer valid, .atom (.int value) =>
      if isValid : valid value = true then some (.integer value isValid) else none
    | .float valid, .atom (.float value) =>
      if isValid : valid value = true then some (.float value isValid) else none
    | .ipAddress, .arr 2 item =>
      match item 0, item 1 with
      | .atom (.int version), .atom (.int value) => some (.ipAddress version.toNat value.toNat)
      | _, _ => none
    | .dateTime, doc => (timeOf doc).map .dateTime
    | _, _ => none

lemma timeOf_plainTime (t : DateTime) :
    timeOf (plainTime t) = some t.whole ∧ (plainTime t).isNull = false := by
  unfold plainTime
  by_cases isIt : t.seconds = 1704067200
  · rw [if_pos isIt]
    refine ⟨?_, rfl⟩
    rw [DateTime.whole, isIt]
    rfl
  · rw [if_neg isIt]
    exact ⟨rfl, rfl⟩

lemma plainTypes_documented : plainTypes.Documented where
  readBack value := by
    cases value with
    | text value isValid => exact dif_pos isValid
    | boolean value => rfl
    | integer value isValid => exact dif_pos isValid
    | float value isValid => exact dif_pos isValid
    | ipAddress version value => rfl
    | dateTime value =>
      show (timeOf (plainTime value)).map Scalar.dateTime = _
      rw [(timeOf_plainTime value).1]
      rfl
  notNull value := by
    cases value with
    | dateTime value => exact (timeOf_plainTime value).2
    | _ => rfl

/-- The index of `criteria`. -/
def criteriaField : Fin (registry .heal .pmJob).size := ⟨4, by decide⟩

/-- The index of `reportingBoundary`. -/
def reportingBoundaryField : Fin (registry .heal .vnfPmJobCriteria).size := ⟨4, by decide⟩

/-- Criteria with a reporting boundary. -/
def boundaryCriteria (boundary : DateTime) :
    Value (registry .heal) (.object .vnfPmJobCriteria false) :=
  Value.new.setAttr reportingBoundaryField (.scalar (.dateTime boundary))

/-- A PM job with a reporting boundary. -/
def boundaryJob (boundary : DateTime) : Value (registry .heal) (.object .pmJob false) :=
  Value.new.setAttr criteriaField (boundaryCriteria boundary)

lemma boundaryCriteria_whole {boundary : DateTime} :
    (boundaryCriteria boundary).IsWhole ↔ boundary.whole = boundary := by
  rw [Value.isWhole_object, boundaryCriteria]
  apply (forall_attr_single (P := Value.IsWhole)).trans
  show Scalar.dateTime boundary.whole = Scalar.dateTime boundary ↔ _
  rw [Scalar.dateTime.injEq]

lemma boundaryJob_exact {boundary : DateTime} :
    (ExactDict (boundaryJob boundary) ↔ boundary.whole = boundary) ∧
      (ExactRow (boundaryJob boundary) ↔ boundary.whole = boundary) := by
  constructor
  · rw [ExactDict, Value.isWhole_object, ← boundaryCriteria_whole]
    exact forall_attr_single (P := Value.IsWhole)
  · rw [← boundaryCriteria_whole]
    exact forall_attr_single (P := IsStoredWhole)

/-- `round_trip_iff` for a PM job whose reporting boundary is a whole second. -/
theorem round_trip_boundary :
    fromDict plainTypes (toDict plainTypes (boundaryJob ⟨1704067200, 0⟩)) =
        some (boundaryJob ⟨1704067200, 0⟩) ∧
      fromDbObj plainTypes (toDbObj plainTypes (boundaryJob ⟨1704067200, 0⟩)) =
        some (boundaryJob ⟨1704067200, 0⟩) := by
  have iff := round_trip_iff plainTypes_documented (boundaryJob ⟨1704067200, 0⟩)
  exact ⟨iff.1.mpr (boundaryJob_exact.1.mpr rfl), iff.2.mpr (boundaryJob_exact.2.mpr rfl)⟩

/-- Half a second of the reporting boundary of a PM job is lost when it is stored. -/
theorem fraction_lost :
    fromDict plainTypes (toDict plainTypes (boundaryJob ⟨1704067200, 500000⟩)) ≠
        some (boundaryJob ⟨1704067200, 500000⟩) ∧
      fromDbObj plainTypes (toDbObj plainTypes (boundaryJob ⟨1704067200, 500000⟩)) ≠
        some (boundaryJob ⟨1704067200, 500000⟩) := by
  have fraction : ¬ DateTime.whole ⟨1704067200, 500000⟩ = ⟨1704067200, 500000⟩ := by decide
  constructor
  · rw [Ne, fromDict_toDict_iff plainTypes_documented, boundaryJob_exact.1]
    exact fraction
  · rw [Ne, fromDbObj_toDbObj_iff plainTypes_documented, boundaryJob_exact.2]
    exact fraction

end Tacker.Fields
