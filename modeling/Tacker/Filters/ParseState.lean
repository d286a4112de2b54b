import Tacker.Basis.ShiftReduce
import Tacker.Filters.Expressions

/-!
# Parsing filters

`api/common/attribute_filter.py`: the text of a filter is split at semicolons, the pieces are read as
tokens, and the tokens are shifted and reduced until a filter or a conjunction of filters is left.
The tokens are made before the first one is shifted. In the source they are shifted while they are
made, which makes no difference since a shift raises nothing.
-/

namespace Tacker.Filters

open Tacker.Basis

variable (checks : ValueChecks) (target : Target)

/-! ## Filters and conjunctions -/

/-- A filter, or an `AndFilter` of filters. -/
inductive Rule where
  | simple (filter : Filter)
  | and (filterRules : List Rule)

mutual

/-- `__call__`. -/
def Rule.call : Rule → Except FilterError Expression
  | .simple filter => filter.call checks target
  | .and filterRules => do return .and (← Rule.callAll filterRules)

/-- The loop of `__call__` of `AndFilter`. -/
def Rule.callAll : List Rule → Except FilterError (List Expression)
  | [] => .ok []
  | filterRule :: filterRules => do
    let result ← filterRule.call
    let results ← Rule.callAll filterRules
    return result :: results

end

/-! ## Reading a filter -/

/-- The quotation mark. -/
def doubleQuote : Char := Char.ofNat 34

/-- `ValidationError` of a text. -/
def notUnderstood (filterRule : List Char) : FilterError :=
  .validationError ("Failed to understand filter " ++ String.ofList filterRule)

/-- The operator of a name. -/
def operatorNamed (name : List Char) : Option Operator :=
  (supportedOpOne ++ supportedOpMulti).find? fun operator => operator.name.toList = name

/-- `tokens[2]` and the last token are the ends of a quoted JSON object. -/
def isJson (first last : List Char) : Bool :=
  [singleQuote, doubleQuote, '{'].isPrefixOf first && ['}', doubleQuote, singleQuote].isSuffixOf last

/-- `_parse_filter`. -/
def parseFilter (filterRule : List Char) : Except FilterError Filter :=
  match filterRule.splitOn ',' with
  | op :: attr :: first :: rest =>
    -- a JSON object is one value, whatever commas it has
    let values :=
      if isJson first ((first :: rest).getLastD []) then [[','].intercalate (first :: rest)]
      else first :: rest
    match operatorNamed op with
    | some operator => .ok ⟨operator, String.ofList attr, values.map String.ofList⟩
    | none => .error (notUnderstood filterRule)
  | _ => .error (notUnderstood filterRule)

/-! ## Tokens -/

/-- A token and its value. -/
inductive Token where
  | leftParen
  | rightParen
  | and (value : List Char)
  | string (value : List Char)
  | filter (rule : Rule)
  | andExpr (filterRules : List Rule)

/-- `_tokenize_re.split`. -/
def tokenizeSplit : List Char → List (List Char)
  | [] => [[]]
  | c :: cs =>
    if c = ';' then
      if cs.head? = some ';' then tokenizeSplit cs
      else [] :: tokenizeSplit cs
    else (tokenizeSplit cs).modifyHead (c :: ·)

/-- `isspace` of a character. -/
def isSpace (c : Char) : Bool :=
  let n := c.toNat
  (9 ≤ n && n ≤ 13) || (28 ≤ n && n ≤ 32) || n = 133 || n = 160 || n = 5760 ||
    (8192 ≤ n && n ≤ 8202) || n = 8232 || n = 8233 || n = 8239 || n = 8287 || n = 12288

/-- `clean.lower() == 'and'`. Of all characters only the capital letters have these letters as their
lower case. -/
def isAnd (clean : List Char) : Bool :=
  clean.map Char.toLower = ['a', 'n', 'd']

/-- The text is in quotes. -/
def isQuoted (tok : List Char) : Bool :=
  2 ≤ tok.length && ((tok.head? = some doubleQuote && tok.getLast? = some doubleQuote) ||
    (tok.head? = some singleQuote && tok.getLast? = some singleQuote))

/-- `tok.rstrip(')')`. -/
def stripParens (tok : List Char) : List Char :=
  (tok.reverse.dropWhile (· == ')')).reverse

/-- The tokens of a piece after its leading parentheses. -/
def contentTokens (tok : List Char) : Except FilterError (List Token) :=
  let clean := stripParens tok
  let closing := List.replicate (tok.length - clean.length) Token.rightParen
  if isAnd clean then .ok (.and clean :: closing)
  else if clean = [] then .ok closing
  else if isQuoted tok then .ok (.string (tok.tail.dropLast) :: closing)
  else do
    let filter ← parseFilter clean
    return .filter (.simple filter) :: closing

/-- The loop of `_parse_tokenize`, for the number of all pieces and the number of pieces so far that
were followed by `and`. -/
def tokensOf (total : Nat) : Nat → List (List Char) → Except FilterError (List Token)
  | _, [] => .ok []
  | index, tok :: mainTokens =>
    if tok.all isSpace then tokensOf total index mainTokens
    else
      let clean := tok.dropWhile (· == '(')
      let opening := List.replicate (tok.length - clean.length) Token.leftParen
      if clean = [] then do
        let more ← tokensOf total index mainTokens
        return opening ++ more
      else do
        let content ← contentTokens clean
        if index < total - 1 then do
          let more ← tokensOf total (index + 1) mainTokens
          return opening ++ content ++ .and ['a', 'n', 'd'] :: more
        else do
          let more ← tokensOf total index mainTokens
          return opening ++ content ++ more

/-- `_parse_tokenize`. -/
def parseTokenize (filterRule : List Char) : Except FilterError (List Token) :=
  tokensOf (tokenizeSplit filterRule).length 0 (tokenizeSplit filterRule)

/-! ## Shifting and reducing -/

/-- The reducers of `ParseState`, with the top of the stack first. -/
def reduction : List Token → Option (List Token)
  | .rightParen :: .filter rule :: .leftParen :: stack => some (.filter rule :: stack)
  | .rightParen :: .andExpr rules :: .leftParen :: stack => some (.filter (.and rules) :: stack)
  | .filter rule :: .and _ :: .filter rule' :: stack => some (.andExpr [rule', rule] :: stack)
  | .filter rule :: .and _ :: .andExpr rules :: stack => some (.andExpr (rules ++ [rule]) :: stack)
  | _ => none

/-- What a reduction puts in the place of which tokens. -/
inductive Reduces : List Token → List Token → Prop where
  | wrap {rule : Rule} {stack : List Token} :
    Reduces (.rightParen :: .filter rule :: .leftParen :: stack) (.filter rule :: stack)
  | wrapAnd {rules : List Rule} {stack : List Token} :
    Reduces (.rightParen :: .andExpr rules :: .leftParen :: stack) (.filter (.and rules) :: stack)
  | make {rule rule' : Rule} {word : List Char} {stack : List Token} :
    Reduces (.filter rule' :: .and word :: .filter rule :: stack) (.andExpr [rule, rule'] :: stack)
  | extend {rule : Rule} {rules : List Rule} {word : List Char} {stack : List Token} :
    Reduces (.filter rule :: .and word :: .andExpr rules :: stack)
      (.andExpr (rules ++ [rule]) :: stack)

lemma reduces_of_reduction {stack stack' : List Token} (step : reduction stack = some stack') :
    Reduces stack stack' := by
  revert step
  fun_cases reduction stack with
  | case1 rule stack => exact fun step => Option.some.inj step ▸ .wrap
  | case2 rules stack => exact fun step => Option.some.inj step ▸ .wrapAnd
  | case3 rule word rule' stack => exact fun step => Option.some.inj step ▸ .make
  | case4 rule word rules stack => exact fun step => Option.some.inj step ▸ .extend
  | case5 => exact fun step => absurd step (Option.some_ne_none _).symm

/-- `ParseState.reduce`. -/
def parseState : Reducer Token where
  step := reduction
  shorter := by
    intro stack stack' step
    cases reduces_of_reduction step <;> simp

/-- What is done with the result of the parse. -/
def Token.call : Token → Except FilterError Expression
  | .filter rule => rule.call checks target
  | .andExpr filterRules => (Rule.and filterRules).call checks target
  | .leftParen => .error .typeError
  | .rightParen => .error .typeError
  | .and _ => .error .typeError
  | .string _ => .error .typeError

/-- `parse_filter_rule`. -/
def parseFilterRule (filterRule : String) : Except FilterError Expression := do
  let tokens ← parseTokenize filterRule.toList
  match parseState.run [] tokens with
  | [result] => result.call checks target
  | _ => .error (notUnderstood filterRule.toList)

end Tacker.Filters
