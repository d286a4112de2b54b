import Tacker.Basis.Attempt

/-!
# Filters of list requests

`Filter` and the classes made from it in `api/common/_filters.py`: a filter is checked against the
attributes of a resource and mapped to conditions on columns. `_parse_filter` gives a filter the
class of its operator, so that `_validate_operators` only has the number of values to look at.
-/

namespace Tacker.Filters

open Tacker.Basis

/-! ## Operators and attributes -/

/-- The operators of filters. -/
inductive Operator where
  | eq
  | neq
  | gt
  | lt
  | gte
  | lte
  | in
  | nin
  | cont
  | ncont
deriving DecidableEq

/-- The operator as it is written. -/
def Operator.name : Operator → String
  | eq => "eq"
  | neq => "neq"
  | gt => "gt"
  | lt => "lt"
  | gte => "gte"
  | lte => "lte"
  | .in => "in"
  | nin => "nin"
  | cont => "cont"
  | ncont => "ncont"

/-- `SUPPORTED_OP_ONE`. -/
def supportedOpOne : List Operator := [.eq, .neq, .gt, .lt, .gte, .lte]

/-- `SUPPORTED_OP_MULTI`. -/
def supportedOpMulti : List Operator := [.in, .nin, .cont, .ncont]

/-- The operators of conditions on columns. -/
inductive SpecOp where
  | eq
  | ne
  | in
  | notIn
  | gt
  | ge
  | lt
  | le
deriving DecidableEq

/-- `FILTER_OPERATOR_SPEC_MAPPING`. -/
def filterOperatorSpecMapping : Operator → SpecOp
  | .eq => .eq
  | .neq => .ne
  | .in => .in
  | .nin => .notIn
  | .gt => .gt
  | .gte => .ge
  | .lt => .lt
  | .lte => .le
  | .cont => .in
  | .ncont => .notIn

/-- The data types of attributes. -/
inductive DataType where
  | uuid
  | string
  | number
  | enum
  | boolean
  | datetime
  | keyValuePair
deriving DecidableEq

/-- The data type as it is written. -/
def DataType.name : DataType → String
  | uuid => "uuid"
  | string => "string"
  | number => "number"
  | enum => "enum"
  | boolean => "boolean"
  | datetime => "datetime"
  | keyValuePair => "key_value_pair"

/-- `OPERATOR_SUPPORTED_DATA_TYPES`. -/
def operatorSupportedDataTypes : Operator → List DataType
  | .eq => [.uuid, .string, .number, .enum, .boolean, .keyValuePair]
  | .neq => [.uuid, .string, .number, .enum, .boolean, .keyValuePair]
  | .in => [.uuid, .string, .number, .enum, .keyValuePair]
  | .nin => [.uuid, .string, .number, .enum, .keyValuePair]
  | .gt => [.uuid, .string, .number, .datetime, .keyValuePair]
  | .gte => [.uuid, .string, .number, .datetime, .keyValuePair]
  | .lt => [.uuid, .string, .number, .datetime, .keyValuePair]
  | .lte => [.uuid, .string, .number, .datetime, .keyValuePair]
  | .cont => [.uuid, .string, .keyValuePair]
  | .ncont => [.uuid, .string, .keyValuePair]

/-- The types of the attributes that are kept in a column of their own. -/
inductive PlainType where
  | uuid
  | string
  | number
  | enum (validValues : List String)
  | boolean
  | datetime

/-- Where key-value pairs are kept. -/
structure KeyValueColumns where
  keyColumn : String
  valueColumn : String
  model : String

/-- What is told of an attribute: the name it is mapped to, its type, and its model or columns. -/
inductive AttributeInfo where
  | plain (mapped : String) (type : PlainType) (model : String)
  | keyValuePair (mapped : String) (columns : KeyValueColumns)

/-- The data type of an attribute. -/
def AttributeInfo.type : AttributeInfo → DataType
  | plain _ .uuid _ => .uuid
  | plain _ .string _ => .string
  | plain _ .number _ => .number
  | plain _ (.enum _) _ => .enum
  | plain _ .boolean _ => .boolean
  | plain _ .datetime _ => .datetime
  | keyValuePair _ _ => .keyValuePair

/-- The attributes of a resource, in the order of the dictionary. -/
abbrev Target := List (String × AttributeInfo)

/-- `is_int_like`, `is_uuid_like` and whether `parse_isotime` returns. -/
structure ValueChecks where
  isIntLike : String → Bool
  isUuidLike : String → Bool
  isIsotime : String → Bool

/-- What a filter raises. -/
inductive FilterError where
  | validationError (msg : String)
  | indexError
  | typeError
deriving DecidableEq

/-! ## Conditions -/

/-- The value of a condition. -/
inductive Operand where
  | text (value : String)
  | list (values : List String)

/-- A condition on a column. -/
structure Condition where
  field : String
  model : String
  value : Operand
  op : SpecOp

/-- What filters are mapped to. -/
inductive Expression where
  | one (condition : Condition)
  | and (members : List Expression)

/-! ## Filters -/

/-- `Filter`. -/
structure Filter where
  operator : Operator
  attr : String
  values : List String

/-- The apostrophe. -/
def singleQuote : Char := Char.ofNat 39

/-- `value.replace` of two apostrophes by one. -/
def replacePairs : List Char → List Char
  | c :: d :: cs =>
    if c = singleQuote ∧ d = singleQuote then singleQuote :: replacePairs cs
    else c :: replacePairs (d :: cs)
  | cs => cs

/-- `value.strip` of apostrophes. -/
def stripQuotes (value : List Char) : List Char :=
  ((value.dropWhile (· == singleQuote)).reverse.dropWhile (· == singleQuote)).reverse

namespace Filter

variable (rule : Filter) (checks : ValueChecks) (target : Target)

/-- `__str__`. -/
def str : String :=
  rule.operator.name ++ "," ++ rule.attr ++ "," ++ ",".intercalate rule.values

/-- `ValidationError` of a rule. -/
def invalid (problem : String) : FilterError :=
  .validationError ("Rule '" ++ rule.str ++ "' " ++ problem)

/-- The text of a special attribute before the asterisk. -/
def fieldOf (special : String) : List Char :=
  special.toList.takeWhile (· != '*')

/-- `_attribute_special_field`. -/
def attributeSpecialField : Option String :=
  ((target.map Prod.fst).filter fun name => '*' ∈ name.toList).find? fun name =>
    (fieldOf name).isPrefixOf rule.attr.toList

/-- `attribute_info`. -/
def attributeInfo : Option AttributeInfo :=
  match rule.attributeSpecialField target with
  | some special => target.lookup special
  | none => target.lookup rule.attr

/-! ## Checks -/

/-- `_validate_operators`. -/
def validateOperators : Except FilterError Unit :=
  if rule.operator ∈ supportedOpOne ∧ 1 < rule.values.length then
    .error (rule.invalid ("contains operator '" ++ rule.operator.name ++
      "' which supports only one value, but multiple values '" ++ ",".intercalate rule.values ++
      "' are provided"))
  else .ok ()

/-- `_validate_attribute_name`. -/
def validateAttributeName : Except FilterError Unit :=
  if rule.attr = "" then .error (rule.invalid "doesn't contain attribute name")
  else if '*' ∈ rule.attr.toList ∨ (target ≠ [] ∧ rule.attr ∉ target.map Prod.fst ∧
      rule.attributeSpecialField target = none) then
    .error (rule.invalid ("contains invalid attribute name '" ++ rule.attr ++ "'"))
  else .ok ()

/-- The value is of the data type of a plain attribute. -/
def hasType (value : String) : PlainType → Bool
  | .number => checks.isIntLike value
  | .uuid => checks.isUuidLike value
  | .datetime => checks.isIsotime value
  | _ => true

/-- The checks of one value. -/
def checkValue (info : AttributeInfo) (value : String) : Except FilterError Unit := do
  match info with
  | .plain _ (.enum validValues) _ =>
    if value ∉ validValues then
      .error (rule.invalid ("contains data type 'enum' with invalid value. It should be one of " ++
        ",".intercalate validValues))
  | .plain _ type _ =>
    if hasType checks value type = false then
      .error (rule.invalid ("contains invalid data type for value '" ++ value ++
        "'. The data type should be '" ++ info.type.name ++ "'"))
  | .keyValuePair _ _ => pure ()
  if info.type ∉ operatorSupportedDataTypes rule.operator then
    .error (rule.invalid ("contains operator '" ++ rule.operator.name ++
      "' which doesn't support data type '" ++ info.type.name ++ "' for attribute '" ++ rule.attr ++
      "'"))

/-- `_validate_data_type`. -/
def validateDataType : Except FilterError Unit :=
  if rule.values = [] then .error (rule.invalid "contains empty value")
  else match rule.attributeInfo target with
    | none => .error .typeError
    | some info => rule.values.forM (rule.checkValue checks info)

/-- `_handle_string`. -/
def handleString (value : String) : Except FilterError String :=
  if value = "" then .error .indexError
  else if value.toList.head? = some singleQuote ∧ value.toList.getLast? = some singleQuote then
    let stripped := stripQuotes value.toList
    let replaced := replacePairs stripped
    if replaced.count singleQuote * 2 ≠ stripped.count singleQuote then
      .error (rule.invalid "value doesn't have single quotes in pairs")
    else .ok (String.ofList replaced)
  else if value.toList.any fun c => c ∈ [',', ')', singleQuote] then
    .error (rule.invalid ("value must be enclosed in single quotes when it contains either of " ++
      "comma, single quote, closing bracket"))
  else .ok value

/-- `_handle_values`: the values that are compared with. -/
def handleValues : Except FilterError (List String) :=
  match rule.attributeInfo target with
  | none => .error .typeError
  | some (.plain _ .string _) => rule.values.mapM rule.handleString
  | some (.plain _ _ _) => .ok rule.values
  | some (.keyValuePair _ _) => rule.values.mapM rule.handleString

/-! ## The generated condition -/

/-- `attribute.split('/')[-1]`. -/
def keyToken : String :=
  String.ofList (rule.attr.toList.reverse.takeWhile (· != '/')).reverse

/-- The last part of a mapped name. -/
def lastPart (mapped : String) : String :=
  String.ofList (mapped.toList.reverse.takeWhile (· != '.')).reverse

/-- The values as the condition has them. -/
def operand (values : List String) : Operand :=
  if rule.operator ∈ supportedOpMulti then .list values else .text (values.headD "")

/-- `generate_expression`. -/
def generateExpression (info : AttributeInfo) (values : List String) : Expression :=
  let op := filterOperatorSpecMapping rule.operator
  match info with
  | .keyValuePair _ columns =>
    .and [.one ⟨columns.keyColumn, columns.model, .text rule.keyToken, op⟩,
      .one ⟨columns.valueColumn, columns.model, rule.operand values, op⟩]
  | .plain mapped _ model => .one ⟨lastPart mapped, model, rule.operand values, op⟩

/-- What `__call__` does before the expression is made: the values that are compared with. -/
def accept : Except FilterError (List String) := do
  rule.validateOperators
  rule.validateAttributeName target
  rule.validateDataType checks target
  rule.handleValues target

/-- `__call__`. -/
def call : Except FilterError Expression := do
  let values ← rule.accept checks target
  match rule.attributeInfo target with
  | none => .error .typeError
  | some info => return rule.generateExpression info values

/-- `__call__` of `AndFilter`. -/
def callAnd (filterRules : List Filter) : Except FilterError Expression := do
  return .and (← filterRules.mapM fun rule => rule.call checks target)

end Filter

end Tacker.Filters
