import Tacker.Basis.Regex

/-!
# Parsing attribute filters

`BaseViewBuilder.parse_filter` of `controller/vnflcm_view.py`, which reads the `filter` parameter of
a list request into filter expressions. A Python string is the list of its characters; an index that
is out of range raises, as does everything that is not a filter.
-/

namespace Tacker.View

open Tacker.Basis

/-! ## Filter expressions -/

/-- The operators, `opOne` before `opMulti`. -/
inductive FilterOp where
  | eq
  | neq
  | gt
  | gte
  | lt
  | lte
  | in
  | nin
  | cont
  | ncont
deriving DecidableEq

/-- The operator as it is written. -/
def FilterOp.name : FilterOp → String
  | eq => "eq"
  | neq => "neq"
  | gt => "gt"
  | gte => "gte"
  | lt => "lt"
  | lte => "lte"
  | .in => "in"
  | nin => "nin"
  | cont => "cont"
  | ncont => "ncont"

/-- `opOne`. -/
def opOne : List FilterOp := [.eq, .neq, .gt, .gte, .lt, .lte]

/-- `opMulti`. -/
def opMulti : List FilterOp := [.in, .nin, .cont, .ncont]

/-- The operator a text is, if it is in `opOne` or `opMulti`. -/
def FilterOp.ofText (op : List Char) : Option FilterOp :=
  (opOne ++ opMulti).find? (fun known => known.name.toList = op)

/-- A part of an attribute name: the placeholder `KeyAttribute` for the keys of a dictionary, or a
name. -/
inductive AttrPart where
  | key
  | name (s : String)
deriving DecidableEq

/-- `FilterExpr`, as it is parsed. -/
structure FilterExpr where
  op : FilterOp
  attr : List AttrPart
  values : List String
deriving DecidableEq

/-- What can be raised. `outOfFuel` stands for a loop that was not given enough turns. -/
inductive Raised where
  | invalidAttributeFilter (solDetail : String)
  | indexError
  | outOfFuel
deriving DecidableEq

/-! ## The regular expressions -/

/-- The quotation mark of values. -/
def apostrophe : Char := Char.ofNat 39

/-- A character that is none of the given ones. -/
def noneOf (cs : List Char) : Regex := .char (fun c => !cs.contains c)

/-- A character from `a` to `z`. -/
def lower : Regex := .char (fun c => decide (97 ≤ c.toNat) && decide (c.toNat ≤ 122))

/-- A run of characters other than apostrophes, commas and closing parentheses. -/
def bareValue : Regex := .plus (noneOf [apostrophe, ',', ')'])

/-- A text between apostrophes. -/
def quotedPart : Regex :=
  .seq (.lit apostrophe) (.seq (.star (noneOf [apostrophe])) (.lit apostrophe))

/-- `value_regexp`, its groups numbered from the given one. -/
def valueRegexp (n : Nat) : Regex :=
  .group n (.alt bareValue (.plus (.group (n + 1) quotedPart)))

/-- `value_re`. -/
def valueRe : Regex := valueRegexp 1

/-- `simpleFilterExpr_re`. -/
def simpleFilterExprRe : Regex :=
  .seq (.lit '(') <| .seq (.group 1 (.plus lower)) <| .seq (.lit ',') <|
    .seq (.group 2 (.plus (noneOf [',']))) <|
      .seq (.plus (.group 3 (.seq (.lit ',') (valueRegexp 4)))) (.lit ')')

/-- `tildeEscape_re`. -/
def tildeEscapeRe : Regex :=
  .seq (.lit '~') (.group 1 (.char (fun c => ['1', 'a', 'b'].contains c)))

/-- The expression that matches two characters. -/
def pairRe (c d : Char) : Regex := .seq (.lit c) (.lit d)

/-! ## Parsing -/

/-- `repl` of `tilde_unescape`. -/
def repl (text : List Char) (m : Scan) : List Char :=
  match m.group text 1 with
  | ['1'] => ['/']
  | ['a'] => [',']
  | ['b'] => ['@']
  | _ => []

/-- `tilde_unescape`. -/
def tildeUnescape (string : List Char) : AttrPart :=
  if string = "@key".toList then
    .key
  else
    let s1 := tildeEscapeRe.sub repl string
    .name (String.ofList ((pairRe '~' '0').sub (fun _ _ => ['~']) s1))

/-- `parse_attr`. -/
def parseAttr (attr : List Char) : List AttrPart :=
  (attr.splitOn '/').map tildeUnescape

/-- The value a match of `value_re` is read as. -/
def readValue (matched : List Char) : List Char :=
  if matched.head? = some apostrophe then
    (pairRe apostrophe apostrophe).sub (fun _ _ => [apostrophe])
      (slice matched 1 (matched.length - 1))
  else
    matched

/-- `parse_values`: the turns of the loop from `loc` on, with the values found so far. -/
def parseValuesFrom (values : List Char) : Nat → Nat → List String → Except Raised (List String)
  | 0, _, _ => .error .outOfFuel
  | fuel + 1, loc, res =>
    if loc < values.length then
      match values[loc]? with
      | none => .error .indexError
      | some c =>
        if c ≠ ',' then
          .error (.invalidAttributeFilter
            ("value parse error. comma expected, " ++ String.ofList values))
        else
          let rest := values.drop (loc + 1)
          match valueRe.match? rest with
          | none => .error (.invalidAttributeFilter "value parse error")
          | some m =>
            let value := readValue (slice rest 0 m.pos)
            parseValuesFrom values fuel (loc + 1 + m.pos) (res ++ [String.ofList value])
    else
      .ok res

/-- `parse_values`. -/
def parseValues (values : List Char) : Except Raised (List String) :=
  parseValuesFrom values (values.length + 1) 0 []

/-- The filter expression a match of `simpleFilterExpr_re` at `loc` is read as. -/
def readExpr (filter : List Char) (loc : Nat) (m : Scan) : Except Raised FilterExpr :=
  let rest := filter.drop loc
  match FilterOp.ofText (m.group rest 1) with
  | none =>
    .error (.invalidAttributeFilter ("Invalid op " ++ String.ofList (m.group rest 1)))
  | some op =>
    match parseValues (slice filter (loc + (m.span 2).2) (loc + (m.span 3).2)) with
    | .error e => .error e
    | .ok values =>
      if values.length > 1 ∧ op ∉ opMulti then
        .error (.invalidAttributeFilter ("Only one value is allowed for op " ++ op.name))
      else
        .ok { op := op, attr := parseAttr (m.group rest 2), values := values }

/-- `parse_filter`: the turns of the loop from `loc` on, with the expressions found so far. -/
def parseFilterFrom (filter : List Char) :
    Nat → Nat → List FilterExpr → Except Raised (List FilterExpr)
  | 0, _, _ => .error .outOfFuel
  | fuel + 1, loc, res =>
    match simpleFilterExprRe.match? (filter.drop loc) with
    | none => .error (.invalidAttributeFilter "filter parse error")
    | some m =>
      match readExpr filter loc m with
      | .error e => .error e
      | .ok expr =>
        let loc := loc + m.pos
        if loc = filter.length then
          .ok (res ++ [expr])
        else
          match filter[loc]? with
          | none => .error .indexError
          | some c =>
            if c ≠ ';' then
              .error (.invalidAttributeFilter "filter parse error. semicolon expected.")
            else
              parseFilterFrom filter fuel (loc + 1) (res ++ [expr])

/-- `parse_filter`. -/
def parseFilter : Option String → Except Raised (List FilterExpr)
  | none => .ok []
  | some filter => parseFilterFrom filter.toList (filter.toList.length + 1) 0 []

/-!
## The grammar of attribute filters

What a filter string is, said without the regular expressions: a sequence of parenthesised
expressions, each with an operator, an attribute name and values. `parse_filter` reads just these,
and raises InvalidAttributeFilter at every other string.
-/

/-! ## Texts -/

/-- A text between apostrophes. -/
def quoted (part : List Char) : List Char :=
  apostrophe :: part ++ [apostrophe]

/-- A value: without apostrophes, commas and closing parentheses, or quoted, where a doubled
apostrophe closes one quotation and opens the next. -/
def IsValue (v : List Char) : Prop :=
  (v ≠ [] ∧ ∀ c ∈ v, c ≠ apostrophe ∧ c ≠ ',' ∧ c ≠ ')') ∨
    ∃ parts : List (List Char), parts ≠ [] ∧ (∀ part ∈ parts, apostrophe ∉ part) ∧
      v = parts.flatMap quoted

/-- The values, each after a comma. -/
def valuesText (values : List (List Char)) : List Char :=
  values.flatMap (',' :: ·)

lemma valuesText_cons (v : List Char) (values : List (List Char)) :
    valuesText (v :: values) = ',' :: (v ++ valuesText values) := rfl

/-- A parenthesised expression with some operator. -/
structure RawExpr where
  op : List Char
  attr : List Char
  values : List (List Char)
  opNonempty : op ≠ []
  opLower : ∀ c ∈ op, 97 ≤ c.toNat ∧ c.toNat ≤ 122
  attrNonempty : attr ≠ []
  attrNoComma : ',' ∉ attr
  valuesNonempty : values ≠ []
  valuesOk : ∀ v ∈ values, IsValue v

/-- The expression as it is written. -/
def RawExpr.text (e : RawExpr) : List Char :=
  '(' :: e.op ++ (',' :: e.attr ++ (valuesText e.values ++ [')']))

/-- The number of values is one the operator takes. -/
def FilterOp.Admits (op : FilterOp) (number : Nat) : Prop :=
  number = 1 ∨ (1 < number ∧ op ∈ opMulti)

/-- An expression with a known operator and an admitted number of values. -/
structure SimpleExpr extends RawExpr where
  known : FilterOp
  isKnown : op = known.name.toList
  admitted : known.Admits values.length

/-- The expressions, with a semicolon between two of them. -/
def filterText (es : List SimpleExpr) : List Char :=
  [';'].intercalate (es.map (·.text))

/-- A filter string. -/
def IsFilter (filter : String) (es : List SimpleExpr) : Prop :=
  es ≠ [] ∧ filter.toList = filterText es

/-- What an expression means. -/
def SimpleExpr.read (e : SimpleExpr) : FilterExpr where
  op := e.known
  attr := parseAttr e.attr
  values := e.values.map (fun v => String.ofList (readValue v))

/-! ## Reading in one way only -/

section unique

variable {w w' t t' v v' : List Char}

/-- A text without a character ends where the character comes. -/
lemma span_unique {c : Char} (none : c ∉ w) (none' : c ∉ w')
    (eq : w ++ c :: t = w' ++ c :: t') : w = w' ∧ t = t' := by
  induction w generalizing w' with
  | nil =>
    cases w' with
    | nil => exact ⟨rfl, (List.cons.inj eq).2⟩
    | cons d w' => exact absurd List.mem_cons_self ((List.cons.inj eq).1 ▸ none')
  | cons d w ih =>
    cases w' with
    | nil => exact absurd List.mem_cons_self ((List.cons.inj eq).1 ▸ none)
    | cons d' w' =>
      obtain ⟨rfl, eqTail⟩ := List.cons.inj eq
      obtain ⟨rfl, rfl⟩ := ih (fun mem => none (List.mem_cons_of_mem d mem))
        (fun mem => none' (List.mem_cons_of_mem d mem)) eqTail
      exact ⟨rfl, rfl⟩

/-- A character that ends a value. -/
def Ends (t : List Char) : Prop :=
  ∃ c rest, t = c :: rest ∧ (c = ',' ∨ c = ')')

lemma Ends.ne_apostrophe (ends : Ends t) (rest : List Char) : t ≠ apostrophe :: rest := by
  obtain ⟨c, more, rfl, rfl | rfl⟩ := ends <;>
    exact fun eq => absurd (List.cons.inj eq).1 (by decide)

lemma bare_unique (ok : ∀ c ∈ v, c ≠ apostrophe ∧ c ≠ ',' ∧ c ≠ ')')
    (ok' : ∀ c ∈ v', c ≠ apostrophe ∧ c ≠ ',' ∧ c ≠ ')') (ends : Ends t) (ends' : Ends t')
    (eq : v ++ t = v' ++ t') : v = v' ∧ t = t' := by
  induction v generalizing v' with
  | nil =>
    cases v' with
    | nil => exact ⟨rfl, eq⟩
    | cons d v' =>
      obtain ⟨c, rest, rfl, isEnd⟩ := ends
      have same := (List.cons.inj eq).1
      have := ok' d List.mem_cons_self
      rcases isEnd with rfl | rfl
      · exact absurd same.symm this.2.1
      · exact absurd same.symm this.2.2
  | cons d v ih =>
    cases v' with
    | nil =>
      obtain ⟨c, rest, rfl, isEnd⟩ := ends'
      have same := (List.cons.inj eq).1
      have := ok d List.mem_cons_self
      rcases isEnd with rfl | rfl
      · exact absurd same this.2.1
      · exact absurd same this.2.2
    | cons d' v' =>
      obtain ⟨rfl, eqTail⟩ := List.cons.inj eq
      obtain ⟨rfl, rfl⟩ := ih (fun c mem => ok c (List.mem_cons_of_mem d mem))
        (fun c mem => ok' c (List.mem_cons_of_mem d mem)) eqTail
      exact ⟨rfl, rfl⟩

lemma quoted_unique {parts parts' : List (List Char)} (ok : ∀ part ∈ parts, apostrophe ∉ part)
    (ok' : ∀ part ∈ parts', apostrophe ∉ part) (ends : Ends t) (ends' : Ends t')
    (eq : parts.flatMap quoted ++ t = parts'.flatMap quoted ++ t') :
    parts.flatMap quoted = parts'.flatMap quoted ∧ t = t' := by
  induction parts generalizing parts' with
  | nil =>
    cases parts' with
    | nil => exact ⟨rfl, eq⟩
    | cons part parts' => exact absurd eq (ends.ne_apostrophe _)
  | cons part parts ih =>
    cases parts' with
    | nil => exact absurd eq.symm (ends'.ne_apostrophe _)
    | cons part' parts' =>
      simp only [List.flatMap_cons, quoted, List.cons_append, List.append_assoc, List.nil_append,
        List.cons.injEq, true_and] at eq ⊢
      obtain ⟨rfl, eqRest⟩ :=
        span_unique (ok part List.mem_cons_self) (ok' part' List.mem_cons_self) eq
      obtain ⟨same, rfl⟩ := ih (fun other mem => ok other (List.mem_cons_of_mem part mem))
        (fun other mem => ok' other (List.mem_cons_of_mem part mem)) eqRest
      exact ⟨by rw [same], rfl⟩

/-- A value ends at the first comma or parenthesis outside quotation marks. -/
lemma value_unique (isValue : IsValue v) (isValue' : IsValue v') (ends : Ends t) (ends' : Ends t')
    (eq : v ++ t = v' ++ t') : v = v' ∧ t = t' := by
  rcases isValue with ⟨nonempty, ok⟩ | ⟨parts, nonempty, ok, rfl⟩ <;>
    rcases isValue' with ⟨nonempty', ok'⟩ | ⟨parts', nonempty', ok', rfl⟩
  · exact bare_unique ok ok' ends ends' eq
  · obtain ⟨c, rest, rfl⟩ := List.exists_cons_of_ne_nil nonempty
    obtain ⟨part, more, rfl⟩ := List.exists_cons_of_ne_nil nonempty'
    exact absurd (List.cons.inj eq).1 (ok c List.mem_cons_self).1
  · obtain ⟨c, rest, rfl⟩ := List.exists_cons_of_ne_nil nonempty'
    obtain ⟨part, more, rfl⟩ := List.exists_cons_of_ne_nil nonempty
    exact absurd (List.cons.inj eq).1.symm (ok' c List.mem_cons_self).1
  · exact quoted_unique ok ok' ends ends' eq

lemma ends_values (values : List (List Char)) (t : List Char) :
    Ends (valuesText values ++ ')' :: t) := by
  cases values with
  | nil => exact ⟨_, _, rfl, Or.inr rfl⟩
  | cons v values => exact ⟨_, _, rfl, Or.inl rfl⟩

lemma values_unique {values values' : List (List Char)} (ok : ∀ v ∈ values, IsValue v)
    (ok' : ∀ v ∈ values', IsValue v)
    (eq : valuesText values ++ ')' :: t = valuesText values' ++ ')' :: t') :
    values = values' ∧ t = t' := by
  induction values generalizing values' with
  | nil =>
    cases values' with
    | nil => exact ⟨rfl, (List.cons.inj eq).2⟩
    | cons v values' => exact absurd (List.cons.inj eq).1 (by decide)
  | cons v values ih =>
    cases values' with
    | nil => exact absurd (List.cons.inj eq).1 (by decide)
    | cons v' values' =>
      simp only [valuesText_cons, List.cons_append, List.append_assoc, List.cons.injEq,
        true_and] at eq
      obtain ⟨rfl, eqRest⟩ := value_unique (ok v List.mem_cons_self) (ok' v' List.mem_cons_self)
        (ends_values values t) (ends_values values' t') eq
      obtain ⟨rfl, rfl⟩ := ih (fun other mem => ok other (List.mem_cons_of_mem v mem))
        (fun other mem => ok' other (List.mem_cons_of_mem v mem)) eqRest
      exact ⟨rfl, rfl⟩

/-- The operator of an expression has no comma. -/
lemma RawExpr.opNoComma (e : RawExpr) : ',' ∉ e.op := fun mem =>
  absurd (e.opLower ',' mem).1 (by decide)

/-- A text begins with one expression at most. -/
lemma RawExpr.text_unique {e e' : RawExpr} (eq : e.text ++ t = e'.text ++ t') :
    e.op = e'.op ∧ e.attr = e'.attr ∧ e.values = e'.values ∧ t = t' := by
  simp only [RawExpr.text, List.cons_append, List.append_assoc, List.cons.injEq, true_and,
    List.nil_append] at eq
  obtain ⟨eqOp, eq⟩ := span_unique e.opNoComma e'.opNoComma eq
  obtain ⟨v, vs, eqValues⟩ := List.exists_cons_of_ne_nil e.valuesNonempty
  obtain ⟨v', vs', eqValues'⟩ := List.exists_cons_of_ne_nil e'.valuesNonempty
  have eqRest := eq
  rw [eqValues, eqValues'] at eqRest
  obtain ⟨eqAttr, -⟩ := span_unique e.attrNoComma e'.attrNoComma eqRest
  rw [eqAttr] at eq
  obtain ⟨eqVals, eqT⟩ := values_unique e.valuesOk e'.valuesOk (List.append_cancel_left eq)
  exact ⟨eqOp, eqAttr, eqVals, eqT⟩

end unique

end Tacker.View
