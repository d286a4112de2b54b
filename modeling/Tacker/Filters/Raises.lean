import Tacker.Filters.Grammar

/-!
# What calls of filters raise

A filter raises a ValidationError, unless it meets an empty value of a text or the attributes have
none of its name. A conjunction raises what the first of its filters raises that is not accepted.
-/

namespace Tacker.Filters

open Tacker.Basis

variable {checks : ValueChecks} {target : Target} {e : FilterError} {value : String}

/-! ## Calls of conjunctions -/

mutual

/-- A rule returns if each of its filters does. -/
lemma Rule.call_returns : ∀ rule : Rule, (∃ result, rule.call checks target = .ok result) ↔
    ∀ filter ∈ rule.filters, ∃ result, filter.call checks target = .ok result
  | .simple filter => by
    rw [Rule.call, Rule.filters]
    simp only [List.mem_singleton, forall_eq]
  | .and filterRules => by
    rw [Rule.filters, ← Rule.callAll_returns filterRules, Rule.call]
    constructor
    · rintro ⟨result, returned⟩
      obtain ⟨results, returned, -⟩ := bind_ok.mp returned
      exact ⟨results, returned⟩
    · rintro ⟨results, returned⟩
      exact ⟨.and results, bind_ok.mpr ⟨results, returned, rfl⟩⟩

/-- The loop returns if each of the filters does. -/
lemma Rule.callAll_returns : ∀ rules : List Rule,
    (∃ results, Rule.callAll checks target rules = .ok results) ↔
      ∀ filter ∈ Rule.filtersAll rules, ∃ result, filter.call checks target = .ok result
  | [] => by
    rw [Rule.callAll, Rule.filtersAll]
    simp
  | rule :: rules => by
    rw [Rule.filtersAll, List.forall_mem_append, ← Rule.call_returns rule,
      ← Rule.callAll_returns rules, Rule.callAll]
    constructor
    · rintro ⟨results, returned⟩
      obtain ⟨result, first, returned⟩ := bind_ok.mp returned
      obtain ⟨results, rest, -⟩ := bind_ok.mp returned
      exact ⟨⟨result, first⟩, ⟨results, rest⟩⟩
    · rintro ⟨⟨result, first⟩, ⟨results, rest⟩⟩
      exact ⟨result :: results, bind_ok.mpr ⟨result, first, bind_ok.mpr ⟨results, rest, rfl⟩⟩⟩

end

mutual

/-- A rule raises what is raised first by its filters. -/
lemma Rule.call_raises : ∀ rule : Rule, rule.call checks target = .error e ↔
    FirstRaises (fun filter => Filter.call filter checks target) e rule.filters
  | .simple filter => by
    rw [Rule.call, Rule.filters]
    constructor
    · exact fun raised => .here raised
    · intro first
      cases first with
      | here raised => exact raised
      | later _ rest => cases rest
  | .and filterRules => by
    rw [Rule.filters, ← Rule.callAll_raises filterRules, Rule.call, bind_error]
    constructor
    · rintro (raised | ⟨results, -, absurd⟩)
      · exact raised
      · cases absurd
    · exact .inl

/-- The loop raises what is raised first by the filters. -/
lemma Rule.callAll_raises : ∀ rules : List Rule, Rule.callAll checks target rules = .error e ↔
    FirstRaises (fun filter => Filter.call filter checks target) e (Rule.filtersAll rules)
  | [] => by
    rw [Rule.callAll, Rule.filtersAll]
    constructor
    · intro raised
      cases raised
    · intro first
      cases first
  | rule :: rules => by
    rw [Rule.filtersAll, firstRaises_append, ← Rule.call_raises rule, ← Rule.callAll_raises rules,
      ← Rule.call_returns rule, Rule.callAll, bind_error]
    apply or_congr_right
    constructor
    · rintro ⟨result, first, raised⟩
      rcases bind_error.mp raised with raised | ⟨results, -, absurd⟩
      · exact ⟨⟨result, first⟩, raised⟩
      · cases absurd
    · rintro ⟨⟨result, first⟩, raised⟩
      exact ⟨result, first, bind_error.mpr (.inl raised)⟩

end

/-! ## Errors that are not answered -/

/-- The error is a ValidationError. -/
def FilterError.isValidation : FilterError → Bool
  | .validationError _ => true
  | .indexError => false
  | .typeError => false

/-- Values of the attribute are read as texts. -/
def AttributeInfo.takesText : AttributeInfo → Bool
  | .plain _ .string _ => true
  | .plain _ _ _ => false
  | .keyValuePair _ _ => true

namespace Filter

variable {rule : Filter} {info : AttributeInfo}

lemma validateOperators_error (raised : rule.validateOperators = .error e) :
    e.isValidation = true := by
  rw [validateOperators] at raised
  split at raised
  · cases raised
    rfl
  · cases raised

lemma validateAttributeName_error (raised : rule.validateAttributeName target = .error e) :
    e.isValidation = true := by
  rw [validateAttributeName] at raised
  split at raised
  · cases raised
    rfl
  · split at raised
    · cases raised
      rfl
    · cases raised

lemma checkValue_error (raised : rule.checkValue checks info value = .error e) :
    e.isValidation = true := by
  have types {found : DataType} (raised : (if found ∉ operatorSupportedDataTypes rule.operator then
      .error (rule.invalid ("contains operator '" ++ rule.operator.name ++
        "' which doesn't support data type '" ++ found.name ++ "' for attribute '" ++ rule.attr ++
        "'")) else pure () : Except FilterError Unit) = .error e) : e.isValidation = true := by
    split at raised
    · cases raised
      rfl
    · cases raised
  have wrong {problem : String} {next : Unit → Except FilterError Unit}
      (raised : (.error (rule.invalid problem) >>= next) = .error e) : e.isValidation = true := by
    cases raised
    rfl
  unfold checkValue at raised
  cases info with
  | plain mapped type model =>
    cases type <;> (simp only at raised; split at raised)
    all_goals first | exact types raised | exact wrong raised
  | keyValuePair mapped columns => exact types raised

lemma handleString_error (raised : rule.handleString value = .error e) :
    e.isValidation = true ∨ value = "" ∧ e = .indexError := by
  rw [handleString] at raised
  split at raised
  next empty =>
    cases raised
    exact .inr ⟨empty, rfl⟩
  next =>
    apply Or.inl
    split at raised
    · simp only at raised
      split at raised
      · cases raised
        rfl
      · cases raised
    · split at raised
      · cases raised
        rfl
      · cases raised

/-- The checks pass, and an empty value of a text comes before a value that is refused, or the target
has nothing for the name. -/
inductive Unanswered (checks : ValueChecks) (target : Target) (rule : Filter) : Prop where
  | emptyValue {info : AttributeInfo} {before after : List String}
    (operators : rule.validateOperators = .ok ())
    (name : rule.validateAttributeName target = .ok ())
    (types : rule.validateDataType checks target = .ok ())
    (isInfo : rule.attributeInfo target = some info) (text : info.takesText = true)
    (values : rule.values = before ++ "" :: after)
    (read : ∀ value ∈ before, ∃ value', rule.handleString value = .ok value')
  | noInfo (operators : rule.validateOperators = .ok ())
    (name : rule.validateAttributeName target = .ok ()) (some : rule.values ≠ [])
    (noInfo : rule.attributeInfo target = none)

lemma handleValues_eq (isInfo : rule.attributeInfo target = some info) :
    rule.handleValues target =
      if info.takesText then rule.values.mapM rule.handleString else .ok rule.values := by
  rw [handleValues, isInfo]
  cases info with
  | plain mapped type model => cases type <;> rfl
  | keyValuePair mapped columns => rfl

lemma info_of_types (types : rule.validateDataType checks target = .ok ()) :
    ∃ info, rule.attributeInfo target = some info := by
  cases isInfo : rule.attributeInfo target with
  | none =>
    rw [validateDataType, isInfo] at types
    split at types <;> cases types
  | some info => exact ⟨info, rfl⟩

/-- The checks pass, and the values that are texts are read. -/
structure Accepted (checks : ValueChecks) (target : Target) (rule : Filter) : Prop where
  operators : rule.validateOperators = .ok ()
  name : rule.validateAttributeName target = .ok ()
  types : rule.validateDataType checks target = .ok ()
  read : ∀ info, rule.attributeInfo target = some info → info.takesText = true →
    ∀ value ∈ rule.values, ∃ value', rule.handleString value = .ok value'

/-- A filter returns if it is accepted. -/
lemma call_returns : (∃ result, rule.call checks target = .ok result) ↔
    rule.Accepted checks target := by
  constructor
  · rintro ⟨result, returned⟩
    obtain ⟨values, accepted, -⟩ := bind_ok.mp returned
    obtain ⟨_, operators, accepted⟩ := bind_ok.mp accepted
    obtain ⟨_, name, accepted⟩ := bind_ok.mp accepted
    obtain ⟨_, types, handled⟩ := bind_ok.mp accepted
    refine ⟨operators, name, types, fun info isInfo text => ?_⟩
    rw [handleValues_eq isInfo, if_pos text] at handled
    exact mapM_ok_total.mp ⟨values, handled⟩
  · intro accepted
    obtain ⟨info, isInfo⟩ := info_of_types accepted.types
    have handled : ∃ values, rule.handleValues target = .ok values := by
      rw [handleValues_eq isInfo]
      split
      next text => exact mapM_ok_total.mpr (accepted.read info isInfo text)
      next => exact ⟨_, rfl⟩
    obtain ⟨values, handled⟩ := handled
    have isAccepted : rule.accept checks target = .ok values := bind_ok.mpr
      ⟨_, accepted.operators, bind_ok.mpr ⟨_, accepted.name, bind_ok.mpr ⟨_, accepted.types, handled⟩⟩⟩
    refine ⟨rule.generateExpression info values, bind_ok.mpr ⟨values, isAccepted, ?_⟩⟩
    rw [isInfo]
    rfl

/-- What a filter raises besides a ValidationError, and when it does. -/
theorem call_unanswered :
    (∃ e, rule.call checks target = .error e ∧ e.isValidation = false) ↔
      rule.Unanswered checks target := by
  constructor
  · rintro ⟨e, raised, notValidation⟩
    have refuted : e.isValidation ≠ true := by
      rw [notValidation]
      exact Bool.false_ne_true
    rcases bind_error.mp raised with raised | ⟨values, accepted, raised⟩
    · rcases bind_error.mp raised with raised | ⟨_, operators, raised⟩
      · exact absurd (validateOperators_error raised) refuted
      rcases bind_error.mp raised with raised | ⟨_, name, raised⟩
      · exact absurd (validateAttributeName_error raised) refuted
      rcases bind_error.mp raised with raised | ⟨_, types, raised⟩
      · rw [validateDataType] at raised
        split at raised
        · cases raised
          cases notValidation
        next some =>
          cases isInfo : rule.attributeInfo target with
          | none => exact .noInfo operators name some isInfo
          | some info =>
            rw [isInfo] at raised
            obtain ⟨_, value, _, -, -, raised⟩ := firstRaises_iff.mp (forM_error_iff.mp raised)
            exact absurd (checkValue_error raised) refuted
      · obtain ⟨info, isInfo⟩ := info_of_types types
        rw [handleValues_eq isInfo] at raised
        split at raised
        next text =>
          obtain ⟨before, value, after, values, read, raised⟩ :=
            firstRaises_iff.mp (mapM_error_iff.mp raised)
          rcases handleString_error raised with validation | ⟨rfl, rfl⟩
          · exact absurd validation refuted
          · exact .emptyValue operators name types isInfo text values read
        next => cases raised
    · obtain ⟨_, -, accepted⟩ := bind_ok.mp accepted
      obtain ⟨_, -, accepted⟩ := bind_ok.mp accepted
      obtain ⟨_, types, -⟩ := bind_ok.mp accepted
      obtain ⟨info, isInfo⟩ := info_of_types types
      rw [isInfo] at raised
      cases raised
  · intro unanswered
    cases unanswered with
    | @emptyValue info before after operators name types isInfo text values read =>
      refine ⟨.indexError, ?_, rfl⟩
      apply bind_error.mpr
      apply Or.inl
      refine bind_error.mpr (.inr ⟨(), operators, ?_⟩)
      refine bind_error.mpr (.inr ⟨(), name, ?_⟩)
      refine bind_error.mpr (.inr ⟨(), types, ?_⟩)
      rw [handleValues_eq isInfo, if_pos text]
      apply mapM_error_iff.mpr
      exact firstRaises_iff.mpr ⟨before, "", after, values, read, rfl⟩
    | noInfo operators name some noInfo =>
      refine ⟨.typeError, ?_, rfl⟩
      apply bind_error.mpr
      apply Or.inl
      refine bind_error.mpr (.inr ⟨(), operators, ?_⟩)
      refine bind_error.mpr (.inr ⟨(), name, ?_⟩)
      refine bind_error.mpr (.inl ?_)
      rw [validateDataType, if_neg some, noInfo]

end Filter

/-! ## Errors of the tokenizer -/

lemma parseFilter_error {filterRule : List Char} (raised : parseFilter filterRule = .error e) :
    e.isValidation = true := by
  rw [parseFilter] at raised
  split at raised
  · simp only at raised
    split at raised <;> cases raised
    rfl
  · cases raised
    rfl

lemma contentTokens_error {tok : List Char} (raised : contentTokens tok = .error e) :
    e.isValidation = true := by
  rw [contentTokens] at raised
  split at raised
  · cases raised
  · split at raised
    · cases raised
    · split at raised
      · cases raised
      · rcases bind_error.mp raised with raised | ⟨_, -, absurd⟩
        · exact parseFilter_error raised
        · cases absurd

lemma tokensOf_error {total index : Nat} {mainTokens : List (List Char)}
    (raised : tokensOf total index mainTokens = .error e) : e.isValidation = true := by
  induction mainTokens generalizing index with
  | nil => cases raised
  | cons tok mainTokens ih =>
    rw [tokensOf] at raised
    simp only at raised
    split at raised
    · exact ih raised
    · split at raised
      · rcases bind_error.mp raised with raised | ⟨_, -, absurd⟩
        · exact ih raised
        · cases absurd
      · rcases bind_error.mp raised with raised | ⟨content, -, raised⟩
        · exact contentTokens_error raised
        · split at raised
          · rcases bind_error.mp raised with raised | ⟨_, -, absurd⟩
            · exact ih raised
            · cases absurd
          · rcases bind_error.mp raised with raised | ⟨_, -, absurd⟩
            · exact ih raised
            · cases absurd

/-! ## Errors of the parser -/

/-- The text is a single word, or a conjunction in which a filter is called that raises something
else than a ValidationError. -/
def Stray (checks : ValueChecks) (target : Target) (filterRule : String) : Prop :=
  ∃ tokens, parseTokenize filterRule.toList = .ok tokens ∧
    ((∃ word, tokens = [word] ∧ word.isText = true) ∨
      (∃ item, Stands item tokens) ∧ ∃ before filter after,
        tokens.flatMap Token.filters = before ++ filter :: after ∧
          (∀ filter' ∈ before, filter'.Accepted checks target) ∧ filter.Unanswered checks target)

/-- What is left of the tokens is called as a rule if it is none of the words. -/
lemma Token.rule_of_call {item : Token} (notText : item.isText = false) :
    ∃ rule : Rule, (∀ checks target, item.call checks target = rule.call checks target) ∧
      item.filters = rule.filters := by
  cases item with
  | filter rule => exact ⟨rule, fun _ _ => rfl, rfl⟩
  | andExpr rules => exact ⟨.and rules, fun _ _ => rfl, rfl⟩
  | leftParen => cases notText
  | rightParen => cases notText
  | and word => cases notText
  | string text => cases notText

lemma Token.call_text {item : Token} (text : item.isText = true) :
    item.call checks target = .error .typeError := by
  cases item with
  | filter rule => cases text
  | andExpr rules => cases text
  | leftParen => rfl
  | rightParen => rfl
  | and word => rfl
  | string text => rfl

/-- What a rule raises besides a ValidationError, and when it does. -/
lemma Rule.call_unanswered {rule : Rule} :
    (∃ e, rule.call checks target = .error e ∧ e.isValidation = false) ↔
      ∃ before filter after, rule.filters = before ++ filter :: after ∧
        (∀ filter' ∈ before, filter'.Accepted checks target) ∧ filter.Unanswered checks target := by
  simp only [Rule.call_raises, firstRaises_iff, Filter.call_returns]
  constructor
  · rintro ⟨e, ⟨before, filter, after, eq, accepted, raised⟩, notValidation⟩
    exact ⟨before, filter, after, eq, accepted,
      Filter.call_unanswered.mp ⟨e, raised, notValidation⟩⟩
  · rintro ⟨before, filter, after, eq, accepted, unanswered⟩
    obtain ⟨e, raised, notValidation⟩ := Filter.call_unanswered.mpr unanswered
    exact ⟨e, ⟨before, filter, after, eq, accepted, raised⟩, notValidation⟩

/-- The parser raises something else than a ValidationError exactly at stray texts. -/
theorem parseFilterRule_unanswered {filterRule : String} :
    (∃ e, parseFilterRule checks target filterRule = .error e ∧ e.isValidation = false) ↔
      Stray checks target filterRule := by
  constructor
  · rintro ⟨e, raised, notValidation⟩
    have refuted : e.isValidation ≠ true := by
      rw [notValidation]
      exact Bool.false_ne_true
    rcases bind_error.mp raised with raised | ⟨tokens, isTokens, raised⟩
    · exact absurd (tokensOf_error raised) refuted
    refine ⟨tokens, isTokens, ?_⟩
    split at raised
    next item isRun =>
      have stands := run_eq_singleton.mp isRun
      cases text : item.isText with
      | true => exact .inl ⟨item, stands.eq_of_text text, text⟩
      | false =>
        obtain ⟨rule, isCall, filters⟩ := Token.rule_of_call text
        rw [isCall] at raised
        refine .inr ⟨⟨item, stands⟩, ?_⟩
        rw [← stands.filters, filters]
        exact Rule.call_unanswered.mp ⟨e, raised, notValidation⟩
    next =>
      cases raised
      cases notValidation
  · rintro ⟨tokens, isTokens, ⟨word, rfl, text⟩ | ⟨⟨item, stands⟩, stray⟩⟩
    · refine ⟨.typeError, bind_error.mpr (.inr ⟨_, isTokens, ?_⟩), rfl⟩
      rw [run_eq_singleton.mpr (.token word)]
      exact Token.call_text text
    · rw [← stands.filters] at stray
      cases text : item.isText with
      | true =>
        obtain ⟨before, filter, after, eq, -, -⟩ := stray
        cases item <;> simp [Token.filters, Token.isText] at eq text
      | false =>
        obtain ⟨rule, isCall, filters⟩ := Token.rule_of_call text
        rw [filters] at stray
        obtain ⟨e, raised, notValidation⟩ := Rule.call_unanswered.mpr stray
        refine ⟨e, bind_error.mpr (.inr ⟨_, isTokens, ?_⟩), notValidation⟩
        rw [run_eq_singleton.mpr stands, ← raised]
        exact isCall checks target

end Tacker.Filters
