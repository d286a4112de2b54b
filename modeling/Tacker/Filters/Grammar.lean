import Tacker.Filters.ParseState

/-!
# The grammar of the parser

Which sequences of tokens are reduced to a single one: filters that are joined by `and` and grouped
by parentheses. What is left has the filters of the tokens, in their order.
-/

namespace Tacker.Filters

open Tacker.Basis

variable {rule rule' : Rule} {rules : List Rule} {item : Token} {stack tokens : List Token}
  {word : List Char}

/-! ## Filters of rules and of tokens -/

mutual

/-- The filters of a rule, in the order in which they are called. -/
def Rule.filters : Rule → List Filter
  | .simple filter => [filter]
  | .and filterRules => Rule.filtersAll filterRules

/-- The filters of the members of a conjunction. -/
def Rule.filtersAll : List Rule → List Filter
  | [] => []
  | filterRule :: filterRules => filterRule.filters ++ Rule.filtersAll filterRules

end

lemma Rule.filtersAll_append {rules' : List Rule} :
    Rule.filtersAll (rules ++ rules') = Rule.filtersAll rules ++ Rule.filtersAll rules' := by
  induction rules with
  | nil => rfl
  | cons rule rules ih =>
    rw [List.cons_append, Rule.filtersAll, ih, Rule.filtersAll, List.append_assoc]

/-- The filters of a token. -/
def Token.filters : Token → List Filter
  | .filter rule => rule.filters
  | .andExpr rules => Rule.filtersAll rules
  | .leftParen => []
  | .rightParen => []
  | .and _ => []
  | .string _ => []

/-! ## The grammar -/

/-- What a token stands for: itself, a group in parentheses, or filters that are joined. -/
inductive Stands : Token → List Token → Prop where
  | token (item : Token) : Stands item [item]
  | wrap {rule : Rule} {inner : List Token} (stands : Stands (.filter rule) inner) :
    Stands (.filter rule) (.leftParen :: inner ++ [.rightParen])
  | wrapAnd {rules : List Rule} {inner : List Token} (stands : Stands (.andExpr rules) inner) :
    Stands (.filter (.and rules)) (.leftParen :: inner ++ [.rightParen])
  | make {rule rule' : Rule} {word : List Char} {left right : List Token}
    (stands : Stands (.filter rule) left) (stands' : Stands (.filter rule') right) :
    Stands (.andExpr [rule, rule']) (left ++ .and word :: right)
  | extend {rule : Rule} {rules : List Rule} {word : List Char} {left right : List Token}
    (stands : Stands (.andExpr rules) left) (stands' : Stands (.filter rule) right) :
    Stands (.andExpr (rules ++ [rule])) (left ++ .and word :: right)

/-- A token has the filters of the tokens that it stands for. -/
lemma Stands.filters (stands : Stands item tokens) :
    item.filters = tokens.flatMap Token.filters := by
  induction stands with
  | token item => rw [List.flatMap_singleton]
  | wrap stands ih =>
    rw [List.cons_append, List.flatMap_cons, List.flatMap_append, ← ih, List.flatMap_singleton]
    exact (List.append_nil _).symm
  | wrapAnd stands ih =>
    rw [List.cons_append, List.flatMap_cons, List.flatMap_append, ← ih, List.flatMap_singleton]
    exact (List.append_nil _).symm
  | make stands stands' ih ih' =>
    rw [List.flatMap_append, List.flatMap_cons, ← ih, ← ih']
    exact congrArg _ (List.append_nil _)
  | extend stands stands' ih ih' =>
    rw [List.flatMap_append, List.flatMap_cons, ← ih, ← ih']
    exact Rule.filtersAll_append.trans (congrArg _ (List.append_nil _))

/-- The value of the token is a text. -/
def Token.isText : Token → Bool
  | .filter _ => false
  | .andExpr _ => false
  | .leftParen => true
  | .rightParen => true
  | .and _ => true
  | .string _ => true

/-- Texts stand for themselves only. -/
lemma Stands.eq_of_text (stands : Stands item tokens) (text : item.isText = true) :
    tokens = [item] := by
  cases stands with
  | token => rfl
  | wrap => cases text
  | wrapAnd => cases text
  | make => cases text
  | extend => cases text

/-! ## What the stack stands for -/

/-- The top of a stack stands for the last of the tokens. -/
lemma covers_cons (covers : Reducer.Covers Stands (item :: stack) tokens) :
    ∃ before segment, tokens = before ++ segment ∧ Stands item segment ∧
      Reducer.Covers Stands stack before := by
  cases covers with
  | cons stands below => exact ⟨_, _, rfl, stands, below⟩

/-- Every reduction follows the grammar. -/
lemma respects : parseState.Respects Stands := by
  intro stack stack' tokens step covers
  cases reduces_of_reduction step with
  | wrap =>
    obtain ⟨_, _, rfl, close, below⟩ := covers_cons covers
    obtain ⟨_, inner, rfl, stands, below'⟩ := covers_cons below
    obtain ⟨before, _, rfl, opens, rest⟩ := covers_cons below'
    obtain rfl := close.eq_of_text rfl
    obtain rfl := opens.eq_of_text rfl
    have wrapped := Reducer.Covers.cons stands.wrap rest
    simpa only [List.append_assoc, List.cons_append, List.nil_append] using wrapped
  | wrapAnd =>
    obtain ⟨_, _, rfl, close, below⟩ := covers_cons covers
    obtain ⟨_, inner, rfl, stands, below'⟩ := covers_cons below
    obtain ⟨before, _, rfl, opens, rest⟩ := covers_cons below'
    obtain rfl := close.eq_of_text rfl
    obtain rfl := opens.eq_of_text rfl
    have wrapped := Reducer.Covers.cons stands.wrapAnd rest
    simpa only [List.append_assoc, List.cons_append, List.nil_append] using wrapped
  | @make rule rule' word stack =>
    obtain ⟨_, right, rfl, stands', below⟩ := covers_cons covers
    obtain ⟨_, _, rfl, joint, below'⟩ := covers_cons below
    obtain ⟨before, left, rfl, stands, rest⟩ := covers_cons below'
    obtain rfl := joint.eq_of_text rfl
    have joined : Stands (.andExpr [rule, rule']) (left ++ .and word :: right) := stands.make stands'
    have made := Reducer.Covers.cons joined rest
    simpa only [List.append_assoc, List.cons_append, List.nil_append] using made
  | @extend rule rules word stack =>
    obtain ⟨_, right, rfl, stands', below⟩ := covers_cons covers
    obtain ⟨_, _, rfl, joint, below'⟩ := covers_cons below
    obtain ⟨before, left, rfl, stands, rest⟩ := covers_cons below'
    obtain rfl := joint.eq_of_text rfl
    have joined : Stands (.andExpr (rules ++ [rule])) (left ++ .and word :: right) :=
      stands.extend stands'
    have extended := Reducer.Covers.cons joined rest
    simpa only [List.append_assoc, List.cons_append, List.nil_append] using extended

/-! ## Derivations are followed -/

/-- A filter on top of the stack is not reduced with what is below. -/
def Fresh (stack : List Token) : Prop :=
  ∀ rule, reduction (.filter rule :: stack) = none

lemma fresh_nil : Fresh [] := fun _ => rfl

lemma fresh_leftParen : Fresh (.leftParen :: stack) := fun _ => rfl

lemma run_singleton : parseState.run stack [item] = parseState.reduce (item :: stack) := rfl

lemma shift_leftParen : parseState.shift stack .leftParen = .leftParen :: stack :=
  parseState.reduce_of_none rfl

lemma shift_and : parseState.shift stack (.and word) = .and word :: stack :=
  parseState.reduce_of_none rfl

lemma reduce_andExpr : parseState.reduce (.andExpr rules :: stack) = .andExpr rules :: stack :=
  parseState.reduce_of_none rfl

lemma Fresh.reduce (fresh : Fresh stack) :
    parseState.reduce (.filter rule :: stack) = .filter rule :: stack :=
  parseState.reduce_of_none (fresh rule)

/-- What the parser makes of the tokens that a token stands for. A filter is reduced with what is
below. -/
lemma Stands.run (stands : Stands item tokens) :
    (∀ stack, Fresh stack → parseState.run stack tokens = parseState.reduce (item :: stack)) ∧
      ∀ rule, item = .filter rule → ∀ stack,
        parseState.run stack tokens = parseState.reduce (item :: stack) := by
  induction stands with
  | token item => exact ⟨fun _ _ => run_singleton, fun _ _ _ => run_singleton⟩
  | @wrap rule inner stands ih =>
    have all : ∀ stack, parseState.run stack (.leftParen :: inner ++ [.rightParen]) =
        parseState.reduce (.filter rule :: stack) := by
      intro stack
      rw [List.cons_append, Reducer.run_cons, shift_leftParen, Reducer.run_append,
        ih.1 _ fresh_leftParen, fresh_leftParen.reduce, run_singleton]
      exact parseState.reduce_of_some rfl
    exact ⟨fun stack _ => all stack, fun _ _ => all⟩
  | @wrapAnd rules inner stands ih =>
    have all : ∀ stack, parseState.run stack (.leftParen :: inner ++ [.rightParen]) =
        parseState.reduce (.filter (.and rules) :: stack) := by
      intro stack
      rw [List.cons_append, Reducer.run_cons, shift_leftParen, Reducer.run_append,
        ih.1 _ fresh_leftParen, reduce_andExpr, run_singleton]
      exact parseState.reduce_of_some rfl
    exact ⟨fun stack _ => all stack, fun _ _ => all⟩
  | make stands stands' ih ih' =>
    refine ⟨fun stack fresh => ?_, fun rule eq => by cases eq⟩
    rw [Reducer.run_append, ih.1 _ fresh, fresh.reduce, Reducer.run_cons, shift_and,
      ih'.2 _ rfl]
    exact parseState.reduce_of_some rfl
  | extend stands stands' ih ih' =>
    refine ⟨fun stack fresh => ?_, fun rule eq => by cases eq⟩
    rw [Reducer.run_append, ih.1 _ fresh, reduce_andExpr, Reducer.run_cons, shift_and,
      ih'.2 _ rfl]
    exact parseState.reduce_of_some rfl

/-- The tokens are reduced to a single one exactly if it stands for them. -/
theorem run_eq_singleton : parseState.run [] tokens = [item] ↔ Stands item tokens := by
  constructor
  · intro eq
    have covers : Reducer.Covers Stands (parseState.run [] tokens) ([] ++ tokens) :=
      respects.run Stands.token .nil
    rw [eq, List.nil_append] at covers
    exact Reducer.Covers.singleton.mp covers
  · intro stands
    rw [stands.run.1 _ fresh_nil]
    apply parseState.reduce_of_none
    cases item <;> rfl

end Tacker.Filters
