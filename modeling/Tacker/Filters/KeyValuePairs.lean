import Mathlib.Data.List.Infix
import Tacker.Filters.Expressions

/-!
# Filters on key-value pairs

`apply_filters` of `objects/common.py` adds the conditions of a filter to a query, and a resource is
found if a row that the query joins with it meets all of them. For a key-value attribute there are two
conditions, on the column of keys and on that of values, with the operator of the filter in both. How
the database compares texts is a parameter, as are the columns of its models; `in_` takes a list of
values and refuses a text.
-/

namespace Tacker.Filters

open Tacker.Basis

/-! ## Queries -/

/-- A row, read at its columns. -/
abbrev Row := String → String

/-- What queries depend on: the columns of a model, if there is such a model, and the comparison of
texts. -/
structure Database where
  columns : String → Option (List String)
  compare : String → String → Ordering

/-- What `apply_filters` raises. -/
inductive QueryError where
  | attributeError
  | typeError
  | argumentError
deriving DecidableEq

namespace Database

variable (db : Database)

/-- `getattr(model, field)`. -/
def columnAttr (model field : String) : Except QueryError (Row → String) :=
  match db.columns model with
  | none => .error .attributeError
  | some columns => if field ∈ columns then .ok fun row => row field else .error .attributeError

/-- The texts are equal. -/
def isEqual (x value : String) : Bool := (db.compare x value).isEq

/-- An operator on a column; the comparisons take one value, and `in_` a list. -/
def operate (op : SpecOp) (value : Operand) : Except QueryError (String → Bool) :=
  match op, value with
  | .in, .list values => .ok fun x => values.any fun value => db.isEqual x value
  | .notIn, .list values => .ok fun x => !(values.any fun value => db.isEqual x value)
  | .ne, .text value => .ok fun x => !db.isEqual x value
  | .gt, .text value => .ok fun x => (db.compare x value).isGT
  | .ge, .text value => .ok fun x => (db.compare x value).isGE
  | .lt, .text value => .ok fun x => (db.compare x value).isLT
  | .le, .text value => .ok fun x => (db.compare x value).isLE
  | .eq, .text value => .ok fun x => db.isEqual x value
  | _, _ => .error .argumentError

/-- `apply_filter`: an expression that is no condition has no model. -/
def applyFilter : Expression → Except QueryError (Row → Bool)
  | .one condition => do
    let columnAttr ← db.columnAttr condition.model condition.field
    let holds ← db.operate condition.op condition.value
    return fun row => holds (columnAttr row)
  | .and _ => .error .typeError

/-- `apply_filters`: the conditions that are added to the query. -/
def applyFilters : Expression → Except QueryError (List (Row → Bool))
  | .and members => members.mapM db.applyFilter
  | .one condition => return [← db.applyFilter (.one condition)]

/-- Whether the query finds a resource that is joined with the rows. -/
def finds (expression : Expression) (rows : List Row) : Except QueryError Bool := do
  let conditions ← db.applyFilters expression
  return rows.any fun row => conditions.all fun condition => condition row

end Database

/-! ## What a filter asks for -/

namespace Database

/-- The value satisfies the operator, with the values that the filter compares with. -/
def Satisfies (db : Database) (operator : Operator) (x : String) (values : List String) : Prop :=
  match operator with
  | .eq => ∃ value ∈ values, db.compare x value = .eq
  | .neq => ∀ value ∈ values, db.compare x value ≠ .eq
  | .gt => ∃ value ∈ values, db.compare x value = .gt
  | .lt => ∃ value ∈ values, db.compare x value = .lt
  | .gte => ∃ value ∈ values, db.compare x value ≠ .lt
  | .lte => ∃ value ∈ values, db.compare x value ≠ .gt
  | .in => ∃ value ∈ values, db.compare x value = .eq
  | .nin => ∀ value ∈ values, db.compare x value ≠ .eq
  | .cont => ∃ value ∈ values, value.toList <:+: x.toList
  | .ncont => ∀ value ∈ values, ¬ value.toList <:+: x.toList

/-- The model has both columns. -/
def HasColumns (db : Database) (columns : KeyValueColumns) : Prop :=
  ∃ fields, db.columns columns.model = some fields ∧ columns.keyColumn ∈ fields ∧
    columns.valueColumn ∈ fields

end Database

/-- A filter with the rows of a resource, the columns of the attribute and the values that are compared
with. -/
structure Selection where
  db : Database
  rule : Filter
  columns : KeyValueColumns
  values : List String
  rows : List Row

namespace Selection

/-- Some row whose value satisfies the operator has a key that compares so with that of the filter. -/
def SomeKey (s : Selection) (P : Ordering → Prop) : Prop :=
  ∃ row ∈ s.rows, s.db.Satisfies s.rule.operator (row s.columns.valueColumn) s.values ∧
    P (s.db.compare (row s.columns.keyColumn) s.rule.keyToken)

/-- The filter is mapped to a condition, the query returns, and the resource is found exactly if it
has a row with the key of the filter whose value satisfies the operator. -/
def Exact (s : Selection) (checks : ValueChecks) (target : Target) : Prop :=
  ∃ expression found, s.rule.call checks target = .ok expression ∧
    s.db.finds expression s.rows = .ok found ∧ (found = true ↔ s.SomeKey (· = .eq))

/-- The keys of the rows whose value satisfies the operator: with `eq` they do not matter; with `neq`
there are none, or the key of the filter and another one; with `gt` all are below the key of the
filter, or it is there and one above it; with `gte` one is above it only beside it; and a list is
compared with no key. -/
def KeysFit (s : Selection) : Prop :=
  match s.rule.operator with
  | .eq => True
  | .neq => ¬ s.SomeKey (fun _ => True) ∨ (s.SomeKey (· = .eq) ∧ s.SomeKey (· ≠ .eq))
  | .gt => ¬ s.SomeKey (· ≠ .lt) ∨ (s.SomeKey (· = .eq) ∧ s.SomeKey (· = .gt))
  | .lt => ¬ s.SomeKey (· ≠ .gt) ∨ (s.SomeKey (· = .eq) ∧ s.SomeKey (· = .lt))
  | .gte => s.SomeKey (· = .gt) → s.SomeKey (· = .eq)
  | .lte => s.SomeKey (· = .lt) → s.SomeKey (· = .eq)
  | .in => False
  | .nin => False
  | .cont => False
  | .ncont => False

end Selection

/-! ## The query of a filter -/

variable {db : Database} {rule : Filter} {columns : KeyValueColumns} {values : List String}
  {rows : List Row} {checks : ValueChecks} {target : Target} {mapped : String}

lemma columnAttr_ok {model field : String} {column : Row → String} :
    db.columnAttr model field = .ok column ↔
      ∃ fields, db.columns model = some fields ∧ field ∈ fields ∧ column = fun row => row field := by
  rw [Database.columnAttr]
  cases known : db.columns model with
  | none =>
    constructor
    · intro eq
      cases eq
    · rintro ⟨fields, eq, -⟩
      cases eq
  | some fields =>
    show (if field ∈ fields then Except.ok fun row => row field
      else .error QueryError.attributeError) = .ok column ↔ _
    by_cases isField : field ∈ fields
    · rw [if_pos isField]
      constructor
      · intro eq
        exact ⟨fields, rfl, isField, (Except.ok.inj eq).symm⟩
      · rintro ⟨fields', -, -, rfl⟩
        rfl
    · rw [if_neg isField]
      constructor
      · intro eq
        cases eq
      · rintro ⟨fields', eq, isField', -⟩
        cases eq
        exact absurd isField' isField

lemma applyFilter_ok {condition : Condition} {holds : Row → Bool} :
    db.applyFilter (.one condition) = .ok holds ↔
      ∃ fields ofColumn, db.columns condition.model = some fields ∧ condition.field ∈ fields ∧
        db.operate condition.op condition.value = .ok ofColumn ∧
        holds = fun row => ofColumn (row condition.field) := by
  constructor
  · intro eq
    obtain ⟨column, read, eq⟩ := bind_ok.mp eq
    obtain ⟨ofColumn, operated, eq⟩ := bind_ok.mp eq
    obtain ⟨fields, known, isField, rfl⟩ := columnAttr_ok.mp read
    exact ⟨fields, ofColumn, known, isField, operated, (pure_ok.mp eq).symm⟩
  · rintro ⟨fields, ofColumn, known, isField, operated, rfl⟩
    have read := columnAttr_ok.mpr ⟨fields, known, isField, rfl⟩
    exact bind_ok.mpr ⟨_, read, bind_ok.mpr ⟨ofColumn, operated, rfl⟩⟩

/-- The query of a filter on key-value pairs returns if the model has the columns and the operator
takes both values; the operator then holds for the key and for the value of one row. -/
lemma finds_ok {found : Bool} :
    db.finds (rule.generateExpression (.keyValuePair mapped columns) values) rows = .ok found ↔
      db.HasColumns columns ∧
        ∃ ofKey ofValue, db.operate (filterOperatorSpecMapping rule.operator)
            (.text rule.keyToken) = .ok ofKey ∧
          db.operate (filterOperatorSpecMapping rule.operator) (rule.operand values) = .ok ofValue ∧
          found = rows.any fun row =>
            ofKey (row columns.keyColumn) && ofValue (row columns.valueColumn) := by
  constructor
  · intro eq
    obtain ⟨conditions, applied, returned⟩ := bind_ok.mp eq
    obtain ⟨keyHolds, others, keyApplied, applied', eq'⟩ := mapM_cons_ok.mp applied
    obtain ⟨valueHolds, none, valueApplied, nothing, eq''⟩ := mapM_cons_ok.mp applied'
    rw [mapM_nil_ok.mp nothing] at eq''
    obtain ⟨fields, ofKey, known, isKey, keyOperated, rfl⟩ := applyFilter_ok.mp keyApplied
    obtain ⟨fields', ofValue, known', isValue, valueOperated, rfl⟩ := applyFilter_ok.mp valueApplied
    have same : fields = fields' := Option.some.inj (known.symm.trans known')
    refine ⟨⟨fields, known, isKey, same ▸ isValue⟩, ofKey, ofValue, keyOperated, valueOperated, ?_⟩
    rw [← pure_ok.mp returned, eq', eq'']
    apply congrArg (rows.any ·)
    funext row
    rw [List.all_cons, List.all_cons, List.all_nil, Bool.and_true]
  · rintro ⟨⟨fields, known, isKey, isValue⟩, ofKey, ofValue, keyOperated, valueOperated, rfl⟩
    have keyApplied : db.applyFilter (.one ⟨columns.keyColumn, columns.model, .text rule.keyToken,
        filterOperatorSpecMapping rule.operator⟩) = .ok fun row => ofKey (row columns.keyColumn) :=
      applyFilter_ok.mpr ⟨fields, ofKey, known, isKey, keyOperated, rfl⟩
    have valueApplied : db.applyFilter (.one ⟨columns.valueColumn, columns.model,
        rule.operand values, filterOperatorSpecMapping rule.operator⟩) =
          .ok fun row => ofValue (row columns.valueColumn) :=
      applyFilter_ok.mpr ⟨fields, ofValue, known, isValue, valueOperated, rfl⟩
    refine bind_ok.mpr ⟨_, mapM_cons_ok.mpr ⟨_, _, keyApplied,
      mapM_cons_ok.mpr ⟨_, [], valueApplied, mapM_nil_ok.mpr rfl, rfl⟩, rfl⟩, ?_⟩
    apply congrArg (fun found => Except.ok (rows.any found))
    funext row
    rw [List.all_cons, List.all_cons, List.all_nil, Bool.and_true]

/-- An accepted filter has one value for an operator that takes one. -/
lemma one_value (accepted : rule.accept checks target = .ok values)
    (isInfo : rule.attributeInfo target = some (.keyValuePair mapped columns))
    (isOne : rule.operator ∈ supportedOpOne) : ∃ value, values = [value] := by
  obtain ⟨_, operators, accepted⟩ := bind_ok.mp accepted
  obtain ⟨_, -, accepted⟩ := bind_ok.mp accepted
  obtain ⟨_, types, handled⟩ := bind_ok.mp accepted
  have atMost : ¬ 1 < rule.values.length := fun many => by
    rw [Filter.validateOperators, if_pos ⟨isOne, many⟩] at operators
    cases operators
  have nonempty : rule.values ≠ [] := fun none => by
    rw [Filter.validateDataType, if_pos none] at types
    cases types
  have mapped : rule.values.mapM rule.handleString = .ok values := by
    rw [Filter.handleValues, isInfo] at handled
    exact handled
  apply List.length_eq_one_iff.mp
  have some := List.length_pos_iff.mpr nonempty
  rw [mapM_ok_length mapped]
  omega

/-! ## Operators that take one value -/

/-- How a text stands to another one for an operator that takes one value. -/
def Operator.Relates : Operator → Ordering → Prop
  | eq, order => order = .eq
  | neq, order => order ≠ .eq
  | gt, order => order = .gt
  | lt, order => order = .lt
  | gte, order => order ≠ .lt
  | lte, order => order ≠ .gt
  | _, _ => False

lemma not_multi_of_one {operator : Operator} (isOne : operator ∈ supportedOpOne) :
    operator ∉ supportedOpMulti := by
  cases operator <;> revert isOne <;> decide

/-- A condition with one text holds where the operator relates. -/
lemma operate_text (db : Database) {operator : Operator} (isOne : operator ∈ supportedOpOne)
    (value : String) :
    ∃ holds, db.operate (filterOperatorSpecMapping operator) (.text value) = .ok holds ∧
      ∀ x, holds x = true ↔ operator.Relates (db.compare x value) := by
  cases operator with
  | eq =>
    refine ⟨_, rfl, fun x => ?_⟩
    show (db.compare x value).isEq = true ↔ db.compare x value = .eq
    cases db.compare x value <;> simp
  | neq =>
    refine ⟨_, rfl, fun x => ?_⟩
    show (!(db.compare x value).isEq) = true ↔ db.compare x value ≠ .eq
    cases db.compare x value <;> simp
  | gt =>
    refine ⟨_, rfl, fun x => ?_⟩
    show (db.compare x value).isGT = true ↔ db.compare x value = .gt
    cases db.compare x value <;> simp
  | lt =>
    refine ⟨_, rfl, fun x => ?_⟩
    show (db.compare x value).isLT = true ↔ db.compare x value = .lt
    cases db.compare x value <;> simp
  | gte =>
    refine ⟨_, rfl, fun x => ?_⟩
    show (db.compare x value).isGE = true ↔ db.compare x value ≠ .lt
    cases db.compare x value <;> simp
  | lte =>
    refine ⟨_, rfl, fun x => ?_⟩
    show (db.compare x value).isLE = true ↔ db.compare x value ≠ .gt
    cases db.compare x value <;> simp
  | _ => exact absurd isOne (by decide)

/-- A value satisfies such an operator where it relates. -/
lemma satisfies_one {operator : Operator} (isOne : operator ∈ supportedOpOne) (x value : String) :
    db.Satisfies operator x [value] ↔ operator.Relates (db.compare x value) := by
  have exists' (P : String → Prop) : (∃ v ∈ [value], P v) ↔ P value :=
    ⟨fun ⟨v, mem, holds⟩ => List.mem_singleton.mp mem ▸ holds,
      fun holds => ⟨value, List.mem_cons_self, holds⟩⟩
  cases operator with
  | neq =>
    constructor
    · intro all
      exact all value List.mem_cons_self
    · intro ne v mem
      exact List.mem_singleton.mp mem ▸ ne
  | eq => exact exists' _
  | gt => exact exists' _
  | lt => exact exists' _
  | gte => exact exists' _
  | lte => exact exists' _
  | _ => exact absurd isOne (by decide)

namespace Selection

variable {s : Selection} {P Q R : Ordering → Prop}

lemma someKey_split (parts : ∀ order, P order ↔ Q order ∨ R order) :
    s.SomeKey P ↔ s.SomeKey Q ∨ s.SomeKey R := by
  constructor
  · rintro ⟨row, mem, satisfies, holds⟩
    rcases (parts _).mp holds with holds | holds
    · exact .inl ⟨row, mem, satisfies, holds⟩
    · exact .inr ⟨row, mem, satisfies, holds⟩
  · rintro (⟨row, mem, satisfies, holds⟩ | ⟨row, mem, satisfies, holds⟩)
    · exact ⟨row, mem, satisfies, (parts _).mpr (.inl holds)⟩
    · exact ⟨row, mem, satisfies, (parts _).mpr (.inr holds)⟩

/-- An operator that takes one value finds a row by a key that it relates to the key of the filter. -/
lemma found_iff {value : String} (isOne : s.rule.operator ∈ supportedOpOne)
    (isValue : s.values = [value]) {ofKey ofValue : String → Bool}
    (keyOperated : s.db.operate (filterOperatorSpecMapping s.rule.operator)
      (.text s.rule.keyToken) = .ok ofKey)
    (valueOperated : s.db.operate (filterOperatorSpecMapping s.rule.operator)
      (s.rule.operand s.values) = .ok ofValue) :
    (s.rows.any fun row => ofKey (row s.columns.keyColumn) && ofValue (row s.columns.valueColumn)) =
      true ↔ s.SomeKey s.rule.operator.Relates := by
  obtain ⟨keyHolds, operated, relatesKey⟩ := operate_text s.db isOne s.rule.keyToken
  obtain rfl := Except.ok.inj (operated.symm.trans keyOperated)
  obtain ⟨valueHolds, operated', relatesValue⟩ := operate_text s.db isOne value
  have isText : s.rule.operand s.values = .text value := by
    rw [Filter.operand, if_neg (not_multi_of_one isOne), isValue]
    rfl
  rw [isText] at valueOperated
  obtain rfl := Except.ok.inj (operated'.symm.trans valueOperated)
  rw [List.any_eq_true]
  apply exists_congr
  intro row
  rw [Bool.and_eq_true, relatesKey, relatesValue, isValue, satisfies_one isOne]
  exact and_congr_right fun _ => and_comm

private lemma same_iff {p q : Prop} : (q ↔ p) ↔ ¬ (p ∨ q) ∨ (p ∧ q) := by
  rw [not_or, or_comm, iff_comm (a := q)]
  exact iff_iff_and_or_not_and_not

/-- The keys that are related are there with the key of the filter exactly if they fit. -/
lemma related_iff (isOne : s.rule.operator ∈ supportedOpOne) :
    (s.SomeKey s.rule.operator.Relates ↔ s.SomeKey (· = .eq)) ↔ s.KeysFit := by
  have all : s.SomeKey (fun _ => True) ↔ s.SomeKey (· = .eq) ∨ s.SomeKey (· ≠ .eq) :=
    someKey_split fun order => iff_of_true trivial (em _)
  have notLess : s.SomeKey (· ≠ .lt) ↔ s.SomeKey (· = .eq) ∨ s.SomeKey (· = .gt) :=
    someKey_split fun order => by cases order <;> simp
  have notGreater : s.SomeKey (· ≠ .gt) ↔ s.SomeKey (· = .eq) ∨ s.SomeKey (· = .lt) :=
    someKey_split fun order => by cases order <;> simp
  rw [KeysFit]
  cases op : s.rule.operator with
  | eq => exact iff_of_true Iff.rfl trivial
  | neq =>
    show (s.SomeKey (· ≠ .eq) ↔ s.SomeKey (· = .eq)) ↔ _ ∨ _
    rw [all]
    exact same_iff
  | gt =>
    show (s.SomeKey (· = .gt) ↔ s.SomeKey (· = .eq)) ↔ _ ∨ _
    rw [notLess]
    exact same_iff
  | lt =>
    show (s.SomeKey (· = .lt) ↔ s.SomeKey (· = .eq)) ↔ _ ∨ _
    rw [notGreater]
    exact same_iff
  | gte =>
    show (s.SomeKey (· ≠ .lt) ↔ s.SomeKey (· = .eq)) ↔ _
    rw [notLess]
    exact or_iff_left_iff_imp
  | lte =>
    show (s.SomeKey (· ≠ .gt) ↔ s.SomeKey (· = .eq)) ↔ _
    rw [notGreater]
    exact or_iff_left_iff_imp
  | _ =>
    rw [op] at isOne
    exact absurd isOne (by decide)

end Selection

/-- What an accepted filter on key-value pairs is mapped to. -/
lemma call_eq (isInfo : rule.attributeInfo target = some (.keyValuePair mapped columns))
    (accepted : rule.accept checks target = .ok values) :
    rule.call checks target = .ok (rule.generateExpression (.keyValuePair mapped columns) values) := by
  rw [Filter.call, accepted, isInfo]
  rfl

/-- A list of values is no operand for the key: the query is refused. -/
lemma finds_multi (isMulti : rule.operator ∈ supportedOpMulti) {found : Bool} :
    db.finds (rule.generateExpression (.keyValuePair mapped columns) values) rows ≠ .ok found := by
  intro eq
  obtain ⟨-, ofKey, ofValue, operated, -⟩ := finds_ok.mp eq
  cases op : rule.operator with
  | «in» =>
    rw [op] at operated
    cases operated
  | nin =>
    rw [op] at operated
    cases operated
  | cont =>
    rw [op] at operated
    cases operated
  | ncont =>
    rw [op] at operated
    cases operated
  | _ =>
    rw [op] at isMulti
    exact absurd isMulti (by decide)

/-- Combined with other filters a filter on key-value pairs is refused: what it is mapped to is no
single condition. -/
theorem combined_refused {rules : List Filter} {expression : Expression} {found : Bool}
    (mem : rule ∈ rules)
    (isInfo : rule.attributeInfo target = some (.keyValuePair mapped columns))
    (called : Filter.callAnd checks target rules = .ok expression) :
    db.finds expression rows ≠ .ok found := by
  intro finds
  obtain ⟨members, each, made⟩ := bind_ok.mp called
  obtain rfl := pure_ok.mp made
  obtain ⟨member, isMember, ofRule⟩ := result_of_mapM_ok each mem
  obtain ⟨conditions, applied, -⟩ := bind_ok.mp finds
  obtain ⟨condition, ofMember⟩ := mapM_ok_of_mem applied isMember
  obtain ⟨values, -, made⟩ := bind_ok.mp ofRule
  rw [isInfo] at made
  obtain rfl := pure_ok.mp made
  cases ofMember

/-- The filter finds exactly the resources with its key and a value that satisfies its operator, if
and only if its columns are there and the keys fit. -/
theorem found_exactly_iff (s : Selection) (checks : ValueChecks) (target : Target) {mapped : String}
    (isInfo : s.rule.attributeInfo target = some (.keyValuePair mapped s.columns))
    (accepted : s.rule.accept checks target = .ok s.values) :
    s.Exact checks target ↔ s.db.HasColumns s.columns ∧ s.KeysFit := by
  have called := call_eq isInfo accepted
  have oneOrMulti : s.rule.operator ∈ supportedOpOne ∨ s.rule.operator ∈ supportedOpMulti := by
    cases s.rule.operator <;> decide
  rcases oneOrMulti with isOne | isMulti
  · obtain ⟨value, isValue⟩ := one_value accepted isInfo isOne
    rw [← Selection.related_iff isOne]
    constructor
    · rintro ⟨expression, found, called', finds, exactly⟩
      obtain rfl := Except.ok.inj (called.symm.trans called')
      obtain ⟨hasColumns, ofKey, ofValue, keyOperated, valueOperated, rfl⟩ := finds_ok.mp finds
      rw [Selection.found_iff isOne isValue keyOperated valueOperated] at exactly
      exact ⟨hasColumns, exactly⟩
    · rintro ⟨hasColumns, related⟩
      have isText : s.rule.operand s.values = .text value := by
        rw [Filter.operand, if_neg (not_multi_of_one isOne), isValue]
        rfl
      obtain ⟨ofKey, keyOperated, -⟩ := operate_text s.db isOne s.rule.keyToken
      obtain ⟨ofValue, valueOperated, -⟩ := operate_text s.db isOne value
      rw [← isText] at valueOperated
      refine ⟨_, _, called, finds_ok.mpr ⟨hasColumns, ofKey, ofValue, keyOperated, valueOperated,
        rfl⟩, ?_⟩
      rw [Selection.found_iff isOne isValue keyOperated valueOperated, related]
  · constructor
    · rintro ⟨expression, found, called', finds, -⟩
      obtain rfl := Except.ok.inj (called.symm.trans called')
      exact absurd finds (finds_multi isMulti)
    · rintro ⟨-, fit⟩
      have never : ¬ s.KeysFit := by
        rw [Selection.KeysFit]
        cases op : s.rule.operator with
        | «in» => exact id
        | nin => exact id
        | cont => exact id
        | ncont => exact id
        | _ =>
          rw [op] at isMulti
          exact absurd isMulti (by decide)
      exact absurd fit never

/-! ## User-defined data of VNF packages -/

/-- Attributes of VNF packages, the user-defined data among them. -/
def packageAttributes : Target :=
  [("id", .plain "id" .uuid "VnfPackage"),
    ("vnfProvider", .plain "vnfd.vnf_provider" .string "VnfPackageVnfd"),
    ("userDefinedData/*", .keyValuePair "user_data" ⟨"key", "value", "VnfPackageUserData"⟩)]

/-- The filter of `userDefinedData/key1` with one value, for a package that has one pair. -/
def userData (operator : Operator) (value : String) (pair : String × String) : Selection where
  db :=
    { columns := fun model =>
        if model = "VnfPackageUserData" then some ["id", "package_uuid", "key", "value"] else none
      compare := compare }
  rule := ⟨operator, "userDefinedData/key1", [value]⟩
  columns := ⟨"key", "value", "VnfPackageUserData"⟩
  values := [value]
  rows := [fun column => if column = "key" then pair.1 else pair.2]

/-- No value has to be an integer, an identifier or a time. -/
def noChecks : ValueChecks := ⟨fun _ => false, fun _ => false, fun _ => false⟩

lemma userData_info (operator : Operator) (value : String) (pair : String × String) :
    (userData operator value pair).rule.attributeInfo packageAttributes =
      some (.keyValuePair "user_data" (userData operator value pair).columns) := by
  have special : (userData operator value pair).rule.attributeSpecialField packageAttributes =
      some "userDefinedData/*" := by
    show ((packageAttributes.map Prod.fst).filter fun name => '*' ∈ name.toList).find?
      (fun name => (Filter.fieldOf name).isPrefixOf "userDefinedData/key1".toList) = _
    decide +kernel
  rw [Filter.attributeInfo, special]
  rfl

/-- A filter with `eq` finds the package with the pair. -/
theorem userData_eq_exact :
    (userData .eq "value1" ("key1", "value1")).Exact noChecks packageAttributes :=
  (found_exactly_iff (userData .eq "value1" ("key1", "value1")) noChecks packageAttributes
    (userData_info _ _ _) rfl).mpr
      ⟨⟨["id", "package_uuid", "key", "value"], rfl, by decide, by decide⟩, trivial⟩

/-- A filter with `neq` misses the package whose value of the key is another one. -/
theorem userData_neq_missed :
    (userData .neq "value1" ("key1", "value2")).rule.accept noChecks packageAttributes =
        .ok ["value1"] ∧
      (userData .neq "value1" ("key1", "value2")).SomeKey (· = .eq) ∧
      ¬ (userData .neq "value1" ("key1", "value2")).Exact noChecks packageAttributes := by
  have accepted : (userData .neq "value1" ("key1", "value2")).rule.accept noChecks
      packageAttributes = .ok ["value1"] := rfl
  have there : (userData .neq "value1" ("key1", "value2")).SomeKey (· = .eq) := by
    refine ⟨_, List.mem_cons_self, fun value mem => ?_, by decide +kernel⟩
    rw [List.mem_singleton.mp mem]
    decide +kernel
  refine ⟨accepted, there, ?_⟩
  rintro ⟨expression, found, called, finds, exactly⟩
  obtain rfl := Except.ok.inj ((call_eq (userData_info _ _ _) accepted).symm.trans called)
  have missed : found = false := by
    obtain ⟨-, ofKey, ofValue, keyOperated, valueOperated, rfl⟩ := finds_ok.mp finds
    obtain rfl := Except.ok.inj keyOperated
    obtain rfl := Except.ok.inj valueOperated
    decide +kernel
  rw [missed] at exactly
  exact Bool.false_ne_true (exactly.mpr there)

end Tacker.Filters
