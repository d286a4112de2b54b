import Tacker.Fields.Places

/-!
# Changes of rows

A hook on `to_db_obj` changes the document in a column of the row. Where the document is the
primitive of an attribute that is what a change of the attribute makes of the row. The classes in
which no point in time is nested are read back from their rows as they were.
-/

namespace Tacker.Fields

open Tacker.Basis

variable {κ : Type} {reg : Registry κ} {types : FieldTypes} {f g : Json → Option Json}

/-- The document in a column is changed. -/
def Column.onDoc (f : Json → Option Json) : Column → Option Column
  | .text doc => (f doc).map .text
  | .primitive doc => (f doc).map .primitive
  | .dateTime value => some (.dateTime value)

/-- The document in a column of a row is changed, if it is there. -/
def changeColumn (name : String) (f : Json → Option Json) (row : Row) : Option Row :=
  match row name with
  | some column => (column.onDoc f).map fun column' => Function.update row name (some column')
  | none => some row

/-- The row of an object whose attribute was set. -/
lemma toDbObj_setAttr {cls : κ} (x : Value reg (.object cls false)) (i : Fin (reg cls).size)
    (value : Value reg ((reg cls).kind i)) :
    toDbObj types (x.setAttr i value) =
      Function.update (toDbObj types x) ((reg cls).column i) (some (toColumn types value)) := by
  funext column
  by_cases same : column = (reg cls).column i
  · subst same
    rw [Function.update_self, toDbObj, position_name (reg cls).column_injective, Option.bind_some,
      Value.attr?_setAttr_self]
    rfl
  · rw [Function.update_of_ne same]
    unfold toDbObj
    cases found : position (reg cls).column column with
    | none => rfl
    | some j =>
      have ne : j ≠ i := by
        rintro rfl
        exact same (name_of_position found).symm
      show ((x.setAttr i value).attr? j).map _ = (x.attr? j).map _
      rw [Value.attr?_setAttr, Function.update_of_ne ne]

/-- The column of an attribute that is set. -/
lemma toDbObj_column {cls : κ} (x : Value reg (.object cls false)) (i : Fin (reg cls).size) :
    toDbObj types x ((reg cls).column i) = (x.attr? i).map (toColumn types) := by
  rw [toDbObj, position_name (reg cls).column_injective, Option.bind_some]

/-- The column of a value that is not a point in time holds its primitive. -/
def IsDocument {kind : Kind κ} (types : FieldTypes) (value : Value reg kind) : Prop :=
  toColumn types value =
    if kind.isObjects then .text (value.toPrimitive types) else .primitive (value.toPrimitive types)

lemma isDocument_object {cls : κ} {isParams : Bool} (value : Value reg (.object cls isParams)) :
    IsDocument types value := by
  cases value
  rfl

lemma isDocument_pairs (value : Value reg .keyValuePairs) : IsDocument types value := by
  cases value
  rfl

lemma isDocument_dict {kind : Kind κ} (value : Value reg (.dict kind)) :
    IsDocument types value := by
  cases value
  rfl

lemma onDoc_toColumn {kind : Kind κ} {value : Value reg kind}
    {change : Value reg kind → Option (Value reg kind)}
    (isDocument : ∀ v : Value reg kind, IsDocument types v)
    (made : (change value).map (Value.toPrimitive types) = f (value.toPrimitive types)) :
    (toColumn types value).onDoc f = (change value).map (toColumn types) := by
  rw [isDocument value, funext isDocument]
  by_cases objects : kind.isObjects = true
  · simp only [if_pos objects]
    show (f (value.toPrimitive types)).map _ = _
    rw [← made]
    cases change value <;> rfl
  · simp only [if_neg objects]
    show (f (value.toPrimitive types)).map _ = _
    rw [← made]
    cases change value <;> rfl

/-- A change of the primitive of an attribute in a row is a change of the attribute. -/
lemma changeColumn_toDbObj {cls : κ} {x : Value reg (.object cls false)} {i : Fin (reg cls).size}
    {change : Value reg ((reg cls).kind i) → Option (Value reg ((reg cls).kind i))}
    (isDocument : ∀ v : Value reg ((reg cls).kind i), IsDocument types v)
    (made : ∀ v, x.attr? i = some v →
      (change v).map (Value.toPrimitive types) = f (v.toPrimitive types)) :
    changeColumn ((reg cls).column i) f (toDbObj types x) =
      (Value.onAttr i change x).map (toDbObj types) := by
  unfold changeColumn
  rw [toDbObj_column]
  cases set : x.attr? i with
  | none =>
    rw [Value.onAttr_unset set]
    rfl
  | some value =>
    rw [Value.onAttr_set set]
    show ((toColumn types value).onDoc f).map _ = _
    rw [onDoc_toColumn isDocument (made value set)]
    cases change value with
    | none => rfl
    | some changed => exact congrArg some (toDbObj_setAttr x i changed).symm

/-! ## Classes without points in time -/

/-- A `DateTimeField`. -/
def Kind.isDateTime : Kind κ → Bool
  | .scalar .dateTime => true
  | _ => false

lemma eq_dateTime_of_isDateTime {kind : Kind κ} (isTime : kind.isDateTime = true) :
    kind = .scalar .dateTime := by
  cases kind with
  | scalar kind =>
    cases kind with
    | dateTime => rfl
    | _ => cases isTime
  | _ => cases isTime

/-- The values of the kind have no points in time if those of the classes have none. -/
def Kind.timeless (classes : κ → Bool) : Kind κ → Bool
  | .scalar .dateTime => false
  | .scalar _ => true
  | .list kind => kind.timeless classes
  | .dict kind => kind.timeless classes
  | .keyValuePairs => true
  | .object cls _ => classes cls

/-- A value of a kind without points in time is read back from its primitive as it was. -/
lemma isWhole_of_timeless {classes : κ → Bool}
    (closed : ∀ cls, classes cls = true → ∀ i, ((reg cls).kind i).timeless classes = true)
    {kind : Kind κ} (value : Value reg kind) (timeless : kind.timeless classes = true) :
    value.IsWhole := by
  induction value with
  | scalar value =>
    cases value with
    | dateTime value => cases timeless
    | _ => rfl
  | list size item ih => exact fun j => ih j timeless
  | dict keys unique item ih => exact fun j => ih j timeless
  | keyValuePairs pairs isDict => trivial
  | object isSet attr ih => exact fun i set => ih i set (closed _ timeless i)

lemma isStoredWhole_of_isWhole {kind : Kind κ} {value : Value reg kind} (whole : value.IsWhole) :
    IsStoredWhole value := by
  cases value with
  | scalar value =>
    cases value with
    | dateTime value => trivial
    | _ => exact whole
  | _ => exact whole

lemma isStoredWhole_dateTime {kind : Kind κ} (isTime : kind = .scalar .dateTime)
    (value : Value reg kind) : IsStoredWhole value := by
  subst isTime
  cases value with
  | scalar value =>
    cases value with
    | dateTime value => trivial

/-- An object whose points in time are columns of their own is read back from its row. -/
lemma exactRow_of_timeless {classes : κ → Bool}
    (closed : ∀ cls, classes cls = true → ∀ i, ((reg cls).kind i).timeless classes = true)
    {cls : κ} (columns : ∀ i, (reg cls).kind i = .scalar .dateTime ∨
      ((reg cls).kind i).timeless classes = true)
    (x : Value reg (.object cls false)) : ExactRow x := by
  intro i value _
  rcases columns i with isTime | timeless
  · exact isStoredWhole_dateTime isTime value
  · exact isStoredWhole_of_isWhole (isWhole_of_timeless closed value timeless)

/-- All classes but occurrences, PM jobs and what PM jobs are made of. -/
def timelessClass (cls : ClassName) : Bool :=
  cls ∉ [.vnfLcmOpOcc, .pmJob, .vnfPmJobCriteria, .vnfPmJobReports]

/-- The classes without points in time are made of such classes. -/
lemma timelessClass_closed (operation : Objects.LcmOperationType) (cls : ClassName)
    (timeless : timelessClass cls = true) (i : Fin (registry operation cls).size) :
    ((registry operation cls).kind i).timeless timelessClass = true := by
  have all : (fieldsOf operation cls).all (fun field => field.kind.timeless timelessClass) =
      true := by
    cases cls <;> first | rfl | cases timeless
  exact List.all_eq_true.mp all _ (List.get_mem _ _)

/-- An instance is read back from its row. -/
lemma vnfInstance_exactRow {operation : Objects.LcmOperationType}
    (x : Value (registry operation) (.object .vnfInstance false)) : ExactRow x :=
  exactRow_of_timeless (timelessClass_closed operation)
    (fun i => Or.inr (timelessClass_closed operation .vnfInstance rfl i)) x

/-- The points in time of an occurrence are columns of their own. -/
lemma vnfLcmOpOcc_exactRow {operation : Objects.LcmOperationType}
    (x : Value (registry operation) (.object .vnfLcmOpOcc false)) : ExactRow x := by
  apply exactRow_of_timeless (timelessClass_closed operation)
  intro i
  have all : (fieldsOf operation .vnfLcmOpOcc).all (fun field =>
      field.kind.isDateTime || field.kind.timeless timelessClass) = true := by
    cases operation <;> rfl
  have here := List.all_eq_true.mp all _ (List.get_mem _ i)
  rcases Bool.or_eq_true_iff.mp here with isTime | timeless
  · exact Or.inl (eq_dateTime_of_isDateTime isTime)
  · exact Or.inr timeless

end Tacker.Fields
