import Tacker.Filters.Pieces

/-!
# Filter strings

Filters of texts are written as one string and parsed again. They come back if none of their values
has a semicolon and each list of values comes back, and a parse raises a ValidationError unless its
string is stray.
-/

namespace Tacker.Filters

open Tacker.Basis

variable {checks : ValueChecks} {target : Target}

/-! ## Writing filters -/

/-- A filter for an attribute of the type string, with as many values as its operator takes. The
name of the attribute has none of the characters that filters are made of. -/
structure StringFilter (target : Target) extends Filter where
  mapped : String
  model : String
  isString : toFilter.attributeInfo target = some (.plain mapped .string model)
  named : attr ≠ ""
  plain : ∀ c ∈ attr.toList, c ≠ ',' ∧ c ≠ ';' ∧ c ≠ '*'
  nonempty : values ≠ []
  single : operator ∈ supportedOpOne → values.length = 1

namespace StringFilter

variable (filter : StringFilter target)

/-- The filter between its parentheses. -/
def content : List Char :=
  filter.operator.name.toList ++ ',' :: (filter.attr.toList ++ ',' :: valuesText filter.values)

/-- The filter as it is written. -/
def text : List Char :=
  '(' :: (filter.content ++ [')'])

/-- What the filter means. -/
def expression : Expression :=
  filter.generateExpression (.plain filter.mapped .string filter.model) filter.values

/-- The filter that is read. -/
def read : Filter :=
  ⟨filter.operator, filter.attr, (piecesOf (valuesText filter.values)).map String.ofList⟩

end StringFilter

/-- The filters with semicolons between them. -/
def encode (filters : List (StringFilter target)) : String :=
  String.ofList ([';'].intercalate (filters.map StringFilter.text))

/-- One expression, or all of several. -/
def conjunction : List Expression → Expression
  | [expression] => expression
  | expressions => .and expressions

/-! ## Calls of the filters that are read -/

lemma mem_keys_of_lookup {key : String} {info : AttributeInfo}
    (found : target.lookup key = some info) : key ∈ target.map Prod.fst := by
  obtain ⟨before, after, rfl, -⟩ := List.lookup_eq_some_iff.mp found
  rw [List.map_append, List.map_cons]
  exact List.mem_append_right _ List.mem_cons_self

/-- Every operator supports texts. -/
lemma checkValue_string {rule : Filter} {mapped model value : String} :
    rule.checkValue checks (.plain mapped .string model) value = .ok () := by
  have supported : DataType.string ∈ operatorSupportedDataTypes rule.operator := by
    cases rule.operator <;> decide
  show (if DataType.string ∉ operatorSupportedDataTypes rule.operator then _ else pure ()) = _
  rw [if_neg (not_not.mpr supported)]
  rfl

namespace StringFilter

variable {filter : StringFilter target}

lemma read_info :
    filter.read.attributeInfo target = some (.plain filter.mapped .string filter.model) :=
  filter.isString

lemma read_nonempty : filter.read.values ≠ [] := by
  rw [read, piecesOf]
  split
  · exact List.cons_ne_nil _ _
  · intro nil
    exact List.splitOn_ne_nil _ _ (List.map_eq_nil_iff.mp nil)

lemma read_name : filter.read.validateAttributeName target = .ok () := by
  have noStar : '*' ∉ filter.read.attr.toList := fun mem => (filter.plain _ mem).2.2 rfl
  have known : ¬ (target ≠ [] ∧ filter.read.attr ∉ target.map Prod.fst ∧
      filter.read.attributeSpecialField target = none) := by
    rintro ⟨-, notKey, noField⟩
    have info := filter.read_info
    rw [Filter.attributeInfo, noField] at info
    exact notKey (mem_keys_of_lookup info)
  have named : filter.read.attr ≠ "" := filter.named
  rw [Filter.validateAttributeName, if_neg named, if_neg]
  rintro (star | unknown)
  · exact noStar star
  · exact known unknown

lemma read_types : filter.read.validateDataType checks target = .ok () := by
  rw [Filter.validateDataType, if_neg read_nonempty, read_info]
  cases checked : filter.read.values.forM (filter.read.checkValue checks
      (.plain filter.mapped .string filter.model)) with
  | ok _ => exact checked
  | error e =>
    obtain ⟨_, value, _, -, -, raised⟩ := firstRaises_iff.mp (forM_error_iff.mp checked)
    rw [checkValue_string] at raised
    cases raised

lemma read_handle : filter.read.handleValues target =
    filter.read.values.mapM filter.read.handleString := by
  rw [Filter.handleValues, read_info]

lemma one_or_multi (operator : Operator) :
    operator ∈ supportedOpOne ∨ operator ∈ supportedOpMulti := by
  cases operator <;> decide

/-- Two lists of values that are the same in a condition are the same list. -/
lemma values_of_expression {values : List String}
    (operators : filter.read.validateOperators = .ok ())
    (len : values.length = filter.read.values.length)
    (same : filter.read.generateExpression (.plain filter.mapped .string filter.model) values =
      filter.expression) : values = filter.values := by
  have operand : filter.toFilter.operand values = filter.toFilter.operand filter.values := by
    injection same with condition
    injection condition
  rw [Filter.operand, Filter.operand] at operand
  rcases one_or_multi filter.operator with isOne | isMulti
  · have notMulti : ¬ filter.operator ∈ supportedOpMulti := by
      revert isOne
      cases filter.operator <;> decide
    rw [if_neg notMulti, if_neg notMulti] at operand
    have atMost : ¬ 1 < filter.read.values.length := by
      intro many
      rw [Filter.validateOperators, if_pos ⟨isOne, many⟩] at operators
      cases operators
    have atLeast := List.length_pos_iff.mpr filter.read_nonempty
    obtain ⟨value, rfl⟩ := List.length_eq_one_iff.mp (show values.length = 1 by omega)
    obtain ⟨value', isValues⟩ := List.length_eq_one_iff.mp (filter.single isOne)
    rw [isValues] at operand ⊢
    injection operand with eq
    exact congrArg (fun value => [value]) eq
  · rw [if_pos isMulti, if_pos isMulti] at operand
    injection operand

/-- The filter that is read means what the filter means exactly if the values come back. -/
lemma call_read (checks : ValueChecks) :
    filter.read.call checks target = .ok filter.expression ↔ Kept filter.values := by
  rw [← handled_iff filter.read filter.nonempty]
  constructor
  · intro returned
    obtain ⟨values, accepted, made⟩ := bind_ok.mp returned
    obtain ⟨_, operators, accepted⟩ := bind_ok.mp accepted
    obtain ⟨_, -, accepted⟩ := bind_ok.mp accepted
    obtain ⟨_, -, handled⟩ := bind_ok.mp accepted
    rw [read_handle] at handled
    rw [read_info] at made
    have same := values_of_expression operators (mapM_ok_length handled) (pure_ok.mp made)
    rw [same] at handled
    exact handled
  · intro handled
    have len := mapM_ok_length handled
    have operators : filter.read.validateOperators = .ok () := by
      rw [Filter.validateOperators, if_neg]
      rintro ⟨isOne, many⟩
      have one := filter.single isOne
      have same : filter.read.values.length = filter.values.length := len.symm
      omega
    have accepted : filter.read.accept checks target = .ok filter.values :=
      bind_ok.mpr ⟨(), operators, bind_ok.mpr ⟨(), read_name, bind_ok.mpr ⟨(), read_types,
        read_handle.trans handled⟩⟩⟩
    refine bind_ok.mpr ⟨filter.values, accepted, ?_⟩
    rw [read_info]
    rfl

end StringFilter

/-! ## The tokens of filters -/

namespace StringFilter

variable (filter : StringFilter target)

/-- The tokens of a filter. -/
def group : List Token :=
  [.leftParen, .filter (.simple filter.read), .rightParen]

/-- A semicolon of a filter is one of its values. -/
lemma semicolon_of_mem (mem : ';' ∈ filter.content) :
    ∃ value ∈ filter.values, ';' ∈ value.toList := by
  rw [content, List.mem_append, List.mem_cons, List.mem_append, List.mem_cons] at mem
  rcases mem with inName | absurd | inAttr | absurd | inValues
  · have low := name_free filter.operator _ inName
    exact False.elim (by revert low; decide)
  · cases absurd
  · exact ((filter.plain _ inAttr).2.1 rfl).elim
  · cases absurd
  · rcases mem_intercalate inValues with absurd | ⟨piece, isPiece, inPiece⟩
    · cases absurd
    · obtain ⟨value, isValue, rfl⟩ := List.mem_map.mp isPiece
      exact ⟨value, isValue, (mem_quoteValue (by decide)).mp inPiece⟩

lemma valuesText_last {values : List String} (nonempty : values ≠ []) :
    ∃ w, valuesText values = w ++ [singleQuote] := by
  induction values with
  | nil => exact absurd rfl nonempty
  | cons value values ih =>
    cases values with
    | nil =>
      refine ⟨singleQuote :: doubled value.toList, ?_⟩
      rw [valuesText, List.map_singleton, List.intercalate_singleton]
      rfl
    | cons second rest =>
      obtain ⟨w, eq⟩ := ih (List.cons_ne_nil second rest)
      refine ⟨quoteValue value ++ ',' :: w, ?_⟩
      rw [valuesText, List.map_cons, List.map_cons, List.intercalate_cons_cons, ← List.map_cons,
        ← valuesText, eq]
      simp

lemma content_last : ∃ w, filter.content = w ++ [singleQuote] := by
  obtain ⟨w, eq⟩ := valuesText_last filter.nonempty
  refine ⟨filter.operator.name.toList ++ ',' :: (filter.attr.toList ++ ',' :: w), ?_⟩
  rw [content, eq]
  simp

lemma content_ne_nil : filter.content ≠ [] := by
  obtain ⟨w, eq⟩ := filter.content_last
  rw [eq]
  exact List.concat_ne_nil _ _

lemma content_head : ∃ c w, filter.content = c :: w ∧ 97 ≤ c.toNat := by
  cases name : filter.operator.name.toList with
  | nil => exact absurd name (by cases filter.operator <;> decide)
  | cons c w =>
    refine ⟨c, w ++ ',' :: (filter.attr.toList ++ ',' :: valuesText filter.values), ?_, ?_⟩
    · rw [content, name]
      rfl
    · exact name_free filter.operator c (name ▸ List.mem_cons_self)

lemma not_isAnd : isAnd filter.content = false := by
  apply decide_eq_false
  intro eq
  have comma : ',' ∈ filter.content := List.mem_append_right _ List.mem_cons_self
  have lowered : Char.toLower ',' ∈ filter.content.map Char.toLower := List.mem_map_of_mem comma
  rw [eq] at lowered
  exact absurd lowered (by decide)

lemma not_isQuoted : isQuoted (filter.content ++ [')']) = false := by
  have last : (filter.content ++ [')']).getLast? = some ')' := List.getLast?_concat ..
  rw [isQuoted, last]
  simp [doubleQuote, singleQuote]

lemma stripParens_content : stripParens (filter.content ++ [')']) = filter.content := by
  obtain ⟨w, eq⟩ := filter.content_last
  rw [stripParens, eq]
  simp [singleQuote]

/-- The tokens of a filter after its leading parenthesis. -/
lemma contentTokens_content : contentTokens (filter.content ++ [')']) =
    .ok [.filter (.simple filter.read), .rightParen] := by
  have noComma : ',' ∉ filter.attr.toList := fun mem => (filter.plain _ mem).1 rfl
  have parsed : parseFilter filter.content = .ok filter.read := by
    rw [content, parseFilter_text noComma, String.ofList_toList]
    rfl
  have closing : (filter.content ++ [')']).length - filter.content.length = 1 := by
    rw [List.length_append, Nat.add_sub_cancel_left]
    rfl
  rw [contentTokens, filter.stripParens_content, closing]
  simp only [filter.not_isAnd, filter.content_ne_nil, filter.not_isQuoted, parsed]
  rfl

lemma text_dropWhile : filter.text.dropWhile (· == '(') = filter.content ++ [')'] := by
  obtain ⟨c, w, eq, low⟩ := filter.content_head
  have ne : ¬ (c == '(') = true := by
    intro same
    rw [beq_iff_eq.mp same] at low
    revert low
    decide
  rw [text, List.dropWhile_cons_of_pos (by decide), eq, List.cons_append]
  exact List.dropWhile_cons_of_neg ne

/-- The turn of the tokenizer for a filter. -/
lemma tokensOf_text {total index : Nat} {mainTokens : List (List Char)} :
    tokensOf total index (filter.text :: mainTokens) =
      if index < total - 1 then do
        let more ← tokensOf total (index + 1) mainTokens
        return filter.group ++ .and ['a', 'n', 'd'] :: more
      else do
        let more ← tokensOf total index mainTokens
        return filter.group ++ more := by
  have notSpace : filter.text.all isSpace = false := by
    rw [text, List.all_cons]
    rfl
  have opening : filter.text.length - (filter.content ++ [')']).length = 1 := by
    rw [text, List.length_cons, Nat.add_sub_cancel_left]
  have notNil : filter.content ++ [')'] ≠ [] := List.concat_ne_nil _ _
  rw [tokensOf, if_neg (by rw [notSpace]; exact Bool.false_ne_true)]
  simp only [filter.text_dropWhile, opening, if_neg notNil, filter.contentTokens_content]
  rfl

end StringFilter

/-- The tokens of the filters, joined by `and`. -/
lemma tokensOf_texts (filter : StringFilter target) (filters : List (StringFilter target))
    {index : Nat} : tokensOf (index + filters.length + 1) index
      ((filter :: filters).map StringFilter.text) =
        .ok (filter.group ++ filters.flatMap fun filter => .and ['a', 'n', 'd'] :: filter.group) := by
  induction filters generalizing filter index with
  | nil =>
    rw [List.map_cons, StringFilter.tokensOf_text, if_neg (by simp)]
    rfl
  | cons second filters ih =>
    have total : index + (second :: filters).length + 1 = index + 1 + filters.length + 1 := by
      rw [List.length_cons]
      omega
    rw [List.map_cons, StringFilter.tokensOf_text, if_pos (by simp), total, ih second]
    rfl

/-- Without semicolons in the values a string has the tokens of its filters. -/
lemma parseTokenize_encode (filter : StringFilter target) (filters : List (StringFilter target))
    (free : ∀ filter' ∈ filter :: filters, ∀ value ∈ filter'.values, ';' ∉ value.toList) :
    parseTokenize (encode (filter :: filters)).toList =
      .ok (filter.group ++ filters.flatMap fun filter => .and ['a', 'n', 'd'] :: filter.group) := by
  have split : tokenizeSplit (encode (filter :: filters)).toList =
      (filter :: filters).map StringFilter.text := by
    rw [encode, String.toList_ofList]
    apply tokenizeSplit_intercalate
    · exact List.cons_ne_nil _ _
    · intro piece mem
      obtain ⟨filter', -, rfl⟩ := List.mem_map.mp mem
      exact List.cons_ne_nil _ _
    · intro piece mem inPiece
      obtain ⟨filter', isFilter, rfl⟩ := List.mem_map.mp mem
      rw [StringFilter.text, List.mem_cons, List.mem_append, List.mem_singleton] at inPiece
      rcases inPiece with absurd | inContent | absurd
      · revert absurd
        decide
      · obtain ⟨value, isValue, inValue⟩ := filter'.semicolon_of_mem inContent
        exact free filter' isFilter value isValue inValue
      · revert absurd
        decide
  have total : ((filter :: filters).map StringFilter.text).length = 0 + filters.length + 1 := by
    rw [List.length_map, List.length_cons, Nat.zero_add]
  rw [parseTokenize, split, total]
  exact tokensOf_texts filter filters

/-! ## The parse of filters -/

lemma stands_group (filter : StringFilter target) :
    Stands (.filter (.simple filter.read)) filter.group :=
  .wrap (.token _)

/-- A conjunction is extended by filters one after the other. -/
lemma stands_extended {rules : List Rule} {tokens : List Token}
    (stands : Stands (.andExpr rules) tokens) (filters : List (StringFilter target)) :
    Stands (.andExpr (rules ++ filters.map fun filter => .simple filter.read))
      (tokens ++ filters.flatMap fun filter => .and ['a', 'n', 'd'] :: filter.group) := by
  induction filters generalizing rules tokens with
  | nil =>
    rw [List.map_nil, List.append_nil, List.flatMap_nil, List.append_nil]
    exact stands
  | cons filter filters ih =>
    have one : Stands (.andExpr (rules ++ [.simple filter.read]))
        (tokens ++ .and ['a', 'n', 'd'] :: filter.group) := stands.extend (stands_group filter)
    rw [List.map_cons, List.flatMap_cons, List.append_cons, ← List.append_assoc]
    exact ih one

/-- What the filters that are read are reduced to. -/
def parsed : List (StringFilter target) → Token
  | [filter] => .filter (.simple filter.read)
  | filters => .andExpr (filters.map fun filter => .simple filter.read)

lemma stands_parsed (filter : StringFilter target) (filters : List (StringFilter target)) :
    Stands (parsed (filter :: filters))
      (filter.group ++ filters.flatMap fun filter => .and ['a', 'n', 'd'] :: filter.group) := by
  cases filters with
  | nil =>
    rw [List.flatMap_nil, List.append_nil]
    exact stands_group filter
  | cons second filters =>
    have two : Stands (.andExpr [.simple filter.read, .simple second.read])
        (filter.group ++ .and ['a', 'n', 'd'] :: second.group) :=
      (stands_group filter).make (stands_group second)
    rw [List.flatMap_cons, ← List.append_assoc]
    exact stands_extended two filters

lemma callAll_read (checks : ValueChecks) (filters : List (StringFilter target)) :
    Rule.callAll checks target (filters.map fun filter => .simple filter.read) =
      .ok (filters.map StringFilter.expression) ↔ ∀ filter ∈ filters, Kept filter.values := by
  induction filters with
  | nil =>
    rw [List.map_nil, List.map_nil, Rule.callAll]
    simp
  | cons filter filters ih =>
    rw [List.forall_mem_cons, ← ih, ← filter.call_read checks, List.map_cons, List.map_cons,
      Rule.callAll, Rule.call]
    constructor
    · intro returned
      obtain ⟨result, first, returned⟩ := bind_ok.mp returned
      obtain ⟨results, rest, made⟩ := bind_ok.mp returned
      obtain ⟨rfl, rfl⟩ := List.cons.inj (pure_ok.mp made)
      exact ⟨first, rest⟩
    · rintro ⟨first, rest⟩
      exact bind_ok.mpr ⟨_, first, bind_ok.mpr ⟨_, rest, rfl⟩⟩

/-- The call of the filters that are read. -/
lemma call_parsed (filter : StringFilter target) (filters : List (StringFilter target)) :
    (parsed (filter :: filters)).call checks target =
        .ok (conjunction ((filter :: filters).map StringFilter.expression)) ↔
      ∀ filter' ∈ filter :: filters, Kept filter'.values := by
  cases filters with
  | nil =>
    rw [List.forall_mem_singleton]
    exact filter.call_read checks
  | cons second filters =>
    rw [← callAll_read checks]
    show (Rule.and ((filter :: second :: filters).map fun filter => Rule.simple filter.read)).call
      checks target = .ok (.and ((filter :: second :: filters).map StringFilter.expression)) ↔ _
    rw [Rule.call]
    constructor
    · intro returned
      obtain ⟨results, all, made⟩ := bind_ok.mp returned
      injection pure_ok.mp made with same
      rw [all, same]
    · exact fun all => bind_ok.mpr ⟨_, all, rfl⟩

lemma mem_texts {filters : List (StringFilter target)} {filter : StringFilter target}
    {value : String} (isFilter : filter ∈ filters) (isValue : value ∈ filter.values) :
    value ∈ (conjunction (filters.map StringFilter.expression)).texts := by
  have own : value ∈ filter.expression.own := by
    show value ∈ (filter.toFilter.operand filter.values).texts
    rw [Filter.operand]
    rcases StringFilter.one_or_multi filter.operator with isOne | isMulti
    · obtain ⟨value', isValues⟩ := List.length_eq_one_iff.mp (filter.single isOne)
      rw [isValues] at isValue ⊢
      split
      · exact isValue
      · exact isValue
    · rw [if_pos isMulti]
      exact isValue
  have isMember : filter.expression ∈ filters.map StringFilter.expression :=
    List.mem_map_of_mem isFilter
  cases filters with
  | nil => cases isFilter
  | cons first rest =>
    cases rest with
    | nil =>
      obtain rfl := List.mem_singleton.mp isFilter
      exact own
    | cons second rest => exact List.mem_flatMap.mpr ⟨_, isMember, own⟩

/-- The filters come back exactly if no value has a semicolon and each list of values comes back. -/
theorem parse_encode (filter : StringFilter target) (filters : List (StringFilter target)) :
    parseFilterRule checks target (encode (filter :: filters)) =
        .ok (conjunction ((filter :: filters).map StringFilter.expression)) ↔
      ∀ filter' ∈ filter :: filters,
        (∀ value ∈ filter'.values, ';' ∉ value.toList) ∧ Kept filter'.values := by
  have called (free : ∀ filter' ∈ filter :: filters, ∀ value ∈ filter'.values, ';' ∉ value.toList) :
      parseFilterRule checks target (encode (filter :: filters)) =
        (parsed (filter :: filters)).call checks target := by
    have isRun := run_eq_singleton.mpr (stands_parsed filter filters)
    simp only [parseFilterRule, parseTokenize_encode filter filters free, bind, Except.bind, isRun]
  constructor
  · intro returned
    have free : ∀ filter' ∈ filter :: filters, ∀ value ∈ filter'.values, ';' ∉ value.toList :=
      fun filter' isFilter value isValue =>
        parseFilterRule_lacks returned value (mem_texts isFilter isValue)
    rw [called free, call_parsed] at returned
    exact fun filter' isFilter => ⟨free filter' isFilter, returned filter' isFilter⟩
  · intro kept
    rw [called fun filter' isFilter => (kept filter' isFilter).1, call_parsed]
    exact fun filter' isFilter => (kept filter' isFilter).2

/-- Filters come back from their string exactly if no value has a semicolon, none is split at a comma
or joined with others, and none begins or ends with an apostrophe. On every string the reductions
come to an end, and nothing but a ValidationError is raised exactly if the string is not stray. -/
theorem filter_strings_iff (checks : ValueChecks) (target : Target) :
    (∀ (filter : StringFilter target) (filters : List (StringFilter target)),
      parseFilterRule checks target (encode (filter :: filters)) =
          .ok (conjunction ((filter :: filters).map StringFilter.expression)) ↔
        ∀ filter' ∈ filter :: filters,
          (∀ value ∈ filter'.values, ';' ∉ value.toList) ∧ Kept filter'.values) ∧
    (∀ stack, reduction (parseState.reduce stack) = none) ∧
    ∀ filterRule,
      (∀ e, parseFilterRule checks target filterRule = .error e → e.isValidation = true) ↔
        ¬ Stray checks target filterRule := by
  refine ⟨parse_encode, parseState.step_reduce, fun filterRule => ?_⟩
  rw [← parseFilterRule_unanswered, not_exists]
  apply forall_congr'
  intro e
  rw [not_and, Bool.not_eq_false]

/-! ## A value with a semicolon -/

/-- A target with one attribute. -/
def oneName : Target :=
  [("vnfProductName", .plain "vnf_product_name" .string "VnfPackageVnfd")]

lemma oneName_info (operator : Operator) (values : List String) :
    (⟨operator, "vnfProductName", values⟩ : Filter).attributeInfo oneName =
      some (.plain "vnf_product_name" .string "VnfPackageVnfd") := by
  have noField :
      (⟨operator, "vnfProductName", values⟩ : Filter).attributeSpecialField oneName = none := by
    show ((oneName.map Prod.fst).filter fun name => '*' ∈ name.toList).find?
      (fun name => (Filter.fieldOf name).isPrefixOf "vnfProductName".toList) = _
    decide +kernel
  rw [Filter.attributeInfo, noField]
  rfl

/-- A filter for a name with a semicolon. -/
def semicolonName : StringFilter oneName where
  operator := .eq
  attr := "vnfProductName"
  values := ["a;b"]
  mapped := "vnf_product_name"
  model := "VnfPackageVnfd"
  isString := oneName_info _ _
  named := by decide
  plain := by
    have all : ("vnfProductName".toList.all fun c => c ≠ ',' ∧ c ≠ ';' ∧ c ≠ '*') = true := by
      decide +kernel
    exact fun c mem => of_decide_eq_true (List.all_eq_true.mp all c mem)
  nonempty := by decide
  single := fun _ => rfl

/-- Checks that pass. -/
def allPass : ValueChecks where
  isIntLike _ := true
  isUuidLike _ := true
  isIsotime _ := true

/-- A quoted semicolon ends the filter. -/
theorem semicolon_refused :
    parseFilterRule allPass oneName (encode [semicolonName]) ≠
      .ok (conjunction [semicolonName.expression]) := by
  intro returned
  have kept := (parse_encode semicolonName []).mp returned
  have isValue : "a;b" ∈ ["a;b"] := List.mem_singleton.mpr rfl
  exact (kept semicolonName List.mem_cons_self).1 "a;b" isValue (by decide +kernel)

end Tacker.Filters
