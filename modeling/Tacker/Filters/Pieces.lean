import Tacker.Filters.QuotedValues
import Tacker.Filters.Raises

/-!
# Pieces of filter strings

A string is split at its semicolons, so that no filter and no expression that is made of it has one.
-/

namespace Tacker.Filters

open Tacker.Basis

variable {checks : ValueChecks} {target : Target} {c : Char} {text piece clean : List Char}
  {tokens : List Token} {filter : Filter} {value : String}

/-! ## Pieces between semicolons -/

lemma ne_semicolon_of_mem (mem : piece ∈ tokenizeSplit text) (inPiece : c ∈ piece) : c ≠ ';' := by
  induction text using tokenizeSplit.induct generalizing piece with
  | case1 =>
    obtain rfl := List.mem_singleton.mp mem
    cases inPiece
  | case2 text again ih =>
    rw [tokenizeSplit, if_pos rfl, if_pos again] at mem
    exact ih mem inPiece
  | case3 text again ih =>
    rw [tokenizeSplit, if_pos rfl, if_neg again] at mem
    rcases List.mem_cons.mp mem with rfl | mem
    · cases inPiece
    · exact ih mem inPiece
  | case4 d text isSep ih =>
    rw [tokenizeSplit, if_neg isSep] at mem
    cases split : tokenizeSplit text with
    | nil =>
      rw [split] at mem
      cases mem
    | cons first rest =>
      rw [split, List.modifyHead_cons] at mem
      rcases List.mem_cons.mp mem with rfl | mem
      · rcases List.mem_cons.mp inPiece with rfl | inFirst
        · exact isSep
        · exact ih (split ▸ List.mem_cons_self) inFirst
      · exact ih (split ▸ List.mem_cons_of_mem first mem) inPiece

lemma tokenizeSplit_append (text : List Char) (free : ';' ∉ piece) :
    tokenizeSplit (piece ++ text) = (tokenizeSplit text).modifyHead (piece ++ ·) := by
  induction piece with
  | nil =>
    show tokenizeSplit text = (tokenizeSplit text).modifyHead id
    rw [List.modifyHead_id]
    rfl
  | cons d piece ih =>
    have ne : d ≠ ';' := fun eq => free (eq ▸ List.mem_cons_self)
    rw [List.cons_append, tokenizeSplit, if_neg ne, ih fun mem => free (List.mem_cons_of_mem d mem),
      List.modifyHead_modifyHead]
    rfl

/-- Pieces that are joined by single semicolons come apart again. -/
lemma tokenizeSplit_intercalate {pieces : List (List Char)} (some : pieces ≠ [])
    (nonempty : ∀ piece ∈ pieces, piece ≠ []) (free : ∀ piece ∈ pieces, ';' ∉ piece) :
    tokenizeSplit ([';'].intercalate pieces) = pieces := by
  induction pieces with
  | nil => exact absurd rfl some
  | cons piece pieces ih =>
    cases pieces with
    | nil =>
      have alone := tokenizeSplit_append [] (free piece List.mem_cons_self)
      rw [List.append_nil] at alone
      rw [List.intercalate_singleton, alone, tokenizeSplit, List.modifyHead_cons, List.append_nil]
    | cons second rest =>
      have others := ih (List.cons_ne_nil second rest)
        (fun piece mem => nonempty piece (List.mem_cons_of_mem _ mem))
        (fun piece mem => free piece (List.mem_cons_of_mem _ mem))
      have secondMem : second ∈ piece :: second :: rest := List.mem_cons_of_mem _ List.mem_cons_self
      have notSep : ([';'].intercalate (second :: rest)).head? ≠ Option.some ';' := by
        cases chars : second with
        | nil => exact absurd chars (nonempty second secondMem)
        | cons d chars' =>
          have ne : d ≠ ';' := fun eq => free second secondMem (chars ▸ eq ▸ List.mem_cons_self)
          cases rest with
          | nil => simpa using ne
          | cons third rest => simpa using ne
      rw [List.intercalate_cons_cons, List.append_assoc, List.singleton_append,
        tokenizeSplit_append _ (free piece List.mem_cons_self), tokenizeSplit, if_pos rfl,
        if_neg notSep, others, List.modifyHead_cons, List.append_nil]

/-! ## Characters that a text lacks -/

/-- The character is neither in the attribute nor in a value. -/
structure Filter.Lacks (c : Char) (filter : Filter) : Prop where
  attr : c ∉ filter.attr.toList
  values : ∀ value ∈ filter.values, c ∉ value.toList

lemma parseFilter_lacks (free : c ∉ clean) (read : parseFilter clean = .ok filter) :
    filter.Lacks c := by
  rw [parseFilter] at read
  split at read
  next op attr first rest split =>
    have whole : [','].intercalate (clean.splitOn ',') = clean := List.intercalate_splitOn ','
    rw [split, List.intercalate_cons_cons, List.intercalate_cons_cons] at whole
    simp only at read
    split at read
    · cases read
      constructor
      · rw [String.toList_ofList]
        intro mem
        exact free (whole ▸ List.mem_append_right _ (List.mem_append_left _
          (List.mem_append_left _ mem)))
      · intro value mem
        obtain ⟨chars, isPiece, rfl⟩ := List.mem_map.mp mem
        rw [String.toList_ofList]
        intro inValue
        split at isPiece
        · obtain rfl := List.mem_singleton.mp isPiece
          exact free (whole ▸ List.mem_append_right _ (List.mem_append_right _ inValue))
        · have isSplit : chars ∈ clean.splitOn ',' :=
            split ▸ List.mem_cons_of_mem _ (List.mem_cons_of_mem _ isPiece)
          exact free (of_mem_splitOn isSplit inValue).1
    · cases read
  · cases read

lemma mem_stripParens (mem : c ∈ stripParens text) : c ∈ text := by
  rw [stripParens, List.mem_reverse] at mem
  exact List.mem_reverse.mp ((List.dropWhile_sublist _).subset mem)

lemma filters_replicate {n : Nat} {item : Token} (none : item.filters = []) :
    (List.replicate n item).flatMap Token.filters = [] := by
  apply List.flatMap_eq_nil_iff.mpr
  intro item' mem
  rw [List.eq_of_mem_replicate mem]
  exact none

lemma contentTokens_lacks (free : c ∉ text) (read : contentTokens text = .ok tokens)
    (mem : filter ∈ tokens.flatMap Token.filters) : filter.Lacks c := by
  have closing (n : Nat) : (List.replicate n Token.rightParen).flatMap Token.filters = [] :=
    filters_replicate rfl
  rw [contentTokens] at read
  split at read
  · cases read
    rw [List.flatMap_cons, closing] at mem
    cases mem
  · split at read
    · cases read
      rw [closing] at mem
      cases mem
    · split at read
      · cases read
        rw [List.flatMap_cons, closing] at mem
        cases mem
      · obtain ⟨filter', parsed, made⟩ := bind_ok.mp read
        obtain rfl := pure_ok.mp made
        rw [List.flatMap_cons, closing, List.append_nil] at mem
        obtain rfl := List.mem_singleton.mp mem
        exact parseFilter_lacks (fun inClean => free (mem_stripParens inClean)) parsed

lemma tokensOf_lacks {total index : Nat} {mainTokens : List (List Char)}
    (free : ∀ tok ∈ mainTokens, c ∉ tok) (read : tokensOf total index mainTokens = .ok tokens)
    (mem : filter ∈ tokens.flatMap Token.filters) : filter.Lacks c := by
  have opening (n : Nat) : (List.replicate n Token.leftParen).flatMap Token.filters = [] :=
    filters_replicate rfl
  induction mainTokens generalizing index tokens with
  | nil =>
    cases read
    cases mem
  | cons tok mainTokens ih =>
    obtain ⟨freeTok, free⟩ := List.forall_mem_cons.mp free
    have content {content : List Token} (isContent : contentTokens (tok.dropWhile (· == '(')) =
        .ok content) (mem : filter ∈ content.flatMap Token.filters) : filter.Lacks c :=
      contentTokens_lacks (fun inTok => freeTok ((List.dropWhile_sublist _).subset inTok))
        isContent mem
    rw [tokensOf] at read
    simp only at read
    split at read
    · exact ih free read mem
    · split at read
      · obtain ⟨more, isMore, made⟩ := bind_ok.mp read
        obtain rfl := pure_ok.mp made
        rw [List.flatMap_append, opening, List.nil_append] at mem
        exact ih free isMore mem
      · obtain ⟨inTok, isContent, read⟩ := bind_ok.mp read
        split at read
        · obtain ⟨more, isMore, made⟩ := bind_ok.mp read
          obtain rfl := pure_ok.mp made
          rw [List.append_assoc, List.flatMap_append, List.flatMap_append, opening,
            List.nil_append, List.mem_append, List.flatMap_cons] at mem
          rcases mem with here | later
          · exact content isContent here
          · exact ih free isMore later
        · obtain ⟨more, isMore, made⟩ := bind_ok.mp read
          obtain rfl := pure_ok.mp made
          rw [List.append_assoc, List.flatMap_append, List.flatMap_append, opening,
            List.nil_append, List.mem_append] at mem
          rcases mem with here | later
          · exact content isContent here
          · exact ih free isMore later

/-- A filter that is parsed has no semicolon. -/
lemma parseTokenize_lacks (read : parseTokenize text = .ok tokens)
    (mem : filter ∈ tokens.flatMap Token.filters) : filter.Lacks ';' :=
  tokensOf_lacks (fun _ isPiece inPiece => ne_semicolon_of_mem isPiece inPiece rfl) read mem

/-! ## Texts of expressions -/

/-- The texts of a value. -/
def Operand.texts : Operand → List String
  | .text value => [value]
  | .list values => values

/-- The texts of a condition. -/
def Expression.own : Expression → List String
  | .one condition => condition.value.texts
  | .and _ => []

/-- The texts of an expression and of its members. -/
def Expression.texts : Expression → List String
  | .one condition => condition.value.texts
  | .and members => members.flatMap Expression.own

variable {expression : Expression} {rule : Rule} {rules : List Rule} {values : List String}

lemma Expression.own_subset (mem : value ∈ expression.own) : value ∈ expression.texts := by
  cases expression with
  | one condition => exact mem
  | and members => cases mem

lemma keyToken_lacks (lacks : filter.Lacks c) : c ∉ filter.keyToken.toList := by
  rw [Filter.keyToken, String.toList_ofList, List.mem_reverse]
  intro mem
  exact lacks.attr (List.mem_reverse.mp ((List.takeWhile_sublist _).subset mem))

lemma operand_lacks (filter : Filter) (free : ∀ value ∈ values, c ∉ value.toList) :
    ∀ value ∈ (filter.operand values).texts, c ∉ value.toList := by
  rw [Filter.operand]
  split
  · exact free
  · intro value mem
    obtain rfl := List.mem_singleton.mp mem
    cases values with
    | nil => exact List.not_mem_nil
    | cons value values => exact free value List.mem_cons_self

lemma handleValues_lacks (lacks : filter.Lacks c)
    (handled : filter.handleValues target = .ok values) :
    ∀ value ∈ values, c ∉ value.toList := by
  cases isInfo : filter.attributeInfo target with
  | none =>
    rw [Filter.handleValues, isInfo] at handled
    cases handled
  | some info =>
    rw [Filter.handleValues_eq isInfo] at handled
    split at handled
    · intro value mem inValue
      obtain ⟨given, isGiven, read⟩ := (mem_of_mapM_ok handled).mp mem
      exact lacks.values given isGiven (mem_of_handleString read inValue)
    · cases handled
      exact lacks.values

/-- What a filter lacks is not in its expression. -/
lemma Filter.call_lacks (lacks : filter.Lacks c)
    (returned : filter.call checks target = .ok expression) :
    ∀ value ∈ expression.texts, c ∉ value.toList := by
  obtain ⟨values, accepted, made⟩ := bind_ok.mp returned
  obtain ⟨_, -, accepted⟩ := bind_ok.mp accepted
  obtain ⟨_, -, accepted⟩ := bind_ok.mp accepted
  obtain ⟨_, -, handled⟩ := bind_ok.mp accepted
  have operand := operand_lacks filter (handleValues_lacks lacks handled)
  split at made
  · cases made
  next info _ =>
    obtain rfl := pure_ok.mp made
    cases info with
    | plain mapped type model => exact operand
    | keyValuePair mapped columns =>
      intro value mem
      obtain ⟨member, isMember, mem⟩ := List.mem_flatMap.mp mem
      rcases List.mem_cons.mp isMember with rfl | isMember
      · obtain rfl := List.mem_singleton.mp mem
        exact keyToken_lacks lacks
      · obtain rfl := List.mem_singleton.mp isMember
        exact operand value mem

lemma Rule.callAll_lacks (lacks : ∀ filter ∈ Rule.filtersAll rules, filter.Lacks c)
    {members : List Expression} (returned : Rule.callAll checks target rules = .ok members) :
    ∀ member ∈ members, ∀ value ∈ member.own, c ∉ value.toList := by
  induction rules generalizing members with
  | nil =>
    cases returned
    exact fun _ mem => absurd mem List.not_mem_nil
  | cons rule rules ih =>
    rw [Rule.filtersAll, List.forall_mem_append] at lacks
    obtain ⟨first, isFirst, returned⟩ := bind_ok.mp returned
    obtain ⟨rest, isRest, made⟩ := bind_ok.mp returned
    obtain rfl := pure_ok.mp made
    refine List.forall_mem_cons.mpr ⟨fun value mem => ?_, ih lacks.2 isRest⟩
    cases rule with
    | simple filter =>
      exact Filter.call_lacks (lacks.1 filter List.mem_cons_self) isFirst value
        (Expression.own_subset mem)
    | and filterRules =>
      obtain ⟨results, -, made⟩ := bind_ok.mp isFirst
      obtain rfl := pure_ok.mp made
      cases mem

/-- What all the filters of a rule lack is not in its expression. -/
lemma Rule.call_lacks (lacks : ∀ filter ∈ rule.filters, filter.Lacks c)
    (returned : rule.call checks target = .ok expression) :
    ∀ value ∈ expression.texts, c ∉ value.toList := by
  cases rule with
  | simple filter => exact Filter.call_lacks (lacks filter List.mem_cons_self) returned
  | and filterRules =>
    obtain ⟨members, isMembers, made⟩ := bind_ok.mp returned
    obtain rfl := pure_ok.mp made
    intro value mem
    obtain ⟨member, isMember, mem⟩ := List.mem_flatMap.mp mem
    exact Rule.callAll_lacks lacks isMembers member isMember value mem

/-- An expression that is parsed has no semicolon. -/
lemma parseFilterRule_lacks {filterRule : String}
    (returned : parseFilterRule checks target filterRule = .ok expression) :
    ∀ value ∈ expression.texts, ';' ∉ value.toList := by
  obtain ⟨tokens, isTokens, returned⟩ := bind_ok.mp returned
  split at returned
  next item isRun =>
    have stands := run_eq_singleton.mp isRun
    cases text : item.isText with
    | true =>
      rw [Token.call_text text] at returned
      cases returned
    | false =>
      obtain ⟨rule, isCall, filters⟩ := Token.rule_of_call text
      rw [isCall] at returned
      refine Rule.call_lacks (fun filter mem => ?_) returned
      rw [← filters, stands.filters] at mem
      exact parseTokenize_lacks isTokens mem
  next => cases returned

end Tacker.Filters
