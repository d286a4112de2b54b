import Tacker.Basis.Splitting
import Tacker.Filters.ParseState

/-!
# Quoted values

A value is written between apostrophes, with each of its own apostrophes doubled. It is read back
without the apostrophes at its ends.
-/

namespace Tacker.Filters

open Tacker.Basis

variable {rule : Filter} {c : Char} {w piece : List Char} {value value' : String}
  {values pieces : List String}

/-! ## Writing values -/

/-- Each apostrophe twice. -/
def doubled (value : List Char) : List Char :=
  value.flatMap fun c => if c = singleQuote then [c, c] else [c]

/-- A value between apostrophes. -/
def quoteValue (value : String) : List Char :=
  singleQuote :: (doubled value.toList ++ [singleQuote])

/-- Values with commas between them. -/
def valuesText (values : List String) : List Char :=
  [','].intercalate (values.map quoteValue)

lemma doubled_cons_quote : doubled (singleQuote :: w) = singleQuote :: singleQuote :: doubled w := rfl

lemma doubled_cons (ne : c ≠ singleQuote) : doubled (c :: w) = c :: doubled w := by
  rw [doubled, List.flatMap_cons, if_neg ne]
  rfl

lemma doubled_append {w' : List Char} : doubled (w ++ w') = doubled w ++ doubled w' :=
  List.flatMap_append

lemma mem_doubled : c ∈ doubled w ↔ c ∈ w := by
  induction w with
  | nil => rfl
  | cons d w ih =>
    by_cases isQuote : d = singleQuote
    · subst isQuote
      rw [doubled_cons_quote, List.mem_cons, List.mem_cons, List.mem_cons, ih, or_self_left]
    · rw [doubled_cons isQuote, List.mem_cons, List.mem_cons, ih]

lemma count_doubled : (doubled w).count singleQuote = w.count singleQuote * 2 := by
  induction w with
  | nil => rfl
  | cons d w ih =>
    by_cases isQuote : d = singleQuote
    · subst isQuote
      rw [doubled_cons_quote, List.count_cons_self, List.count_cons_self, List.count_cons_self, ih]
      omega
    · rw [doubled_cons isQuote, List.count_cons_of_ne isQuote, List.count_cons_of_ne isQuote, ih]

lemma reverse_doubled : (doubled w).reverse = doubled w.reverse := by
  induction w with
  | nil => rfl
  | cons d w ih =>
    rw [List.reverse_cons, doubled_append, ← ih]
    by_cases isQuote : d = singleQuote
    · subst isQuote
      rw [doubled_cons_quote, List.reverse_cons, List.reverse_cons, List.append_assoc]
      rfl
    · rw [doubled_cons isQuote, List.reverse_cons, doubled_cons isQuote]
      rfl

lemma mem_quoteValue (ne : c ≠ singleQuote) : c ∈ quoteValue value ↔ c ∈ value.toList := by
  rw [quoteValue, List.mem_cons, List.mem_append, List.mem_singleton, mem_doubled]
  constructor
  · rintro (eq | mem | eq)
    · exact absurd eq ne
    · exact mem
    · exact absurd eq ne
  · exact fun mem => .inr (.inl mem)

/-! ## Reading values -/

lemma replacePairs_cons (ne : c ≠ singleQuote) :
    replacePairs (c :: w) = c :: replacePairs w := by
  cases w with
  | nil => rfl
  | cons d w => rw [replacePairs, if_neg fun both => ne both.1]

/-- Doubled apostrophes are replaced by single ones. -/
lemma replacePairs_doubled : replacePairs (doubled w) = w := by
  induction w with
  | nil => rfl
  | cons d w ih =>
    by_cases isQuote : d = singleQuote
    · subst isQuote
      rw [doubled_cons_quote, replacePairs, if_pos ⟨rfl, rfl⟩, ih]
    · rw [doubled_cons isQuote, replacePairs_cons isQuote, ih]

lemma mem_replacePairs (mem : c ∈ replacePairs w) : c ∈ w := by
  induction w using replacePairs.induct with
  | case1 a b w both ih =>
    rw [replacePairs, if_pos both] at mem
    rcases List.mem_cons.mp mem with rfl | mem
    · exact both.1 ▸ List.mem_cons_self
    · exact List.mem_cons_of_mem a (List.mem_cons_of_mem b (ih mem))
  | case2 a b w both ih =>
    rw [replacePairs, if_neg both] at mem
    rcases List.mem_cons.mp mem with rfl | mem
    · exact List.mem_cons_self
    · exact List.mem_cons_of_mem a (ih mem)
  | case3 w notPair =>
    rwa [replacePairs] at mem
    exact notPair

lemma mem_stripQuotes (mem : c ∈ stripQuotes w) : c ∈ w := by
  rw [stripQuotes, List.mem_reverse] at mem
  have inFirst := (List.dropWhile_sublist _).subset mem
  exact (List.dropWhile_sublist _).subset (List.mem_reverse.mp inFirst)

/-- Without the apostrophes at the beginning. -/
def dropQuotes (w : List Char) : List Char :=
  w.dropWhile (· == singleQuote)

lemma stripQuotes_eq : stripQuotes w = (dropQuotes (dropQuotes w).reverse).reverse := rfl

lemma dropQuotes_doubled : dropQuotes (doubled w) = doubled (dropQuotes w) := by
  induction w with
  | nil => rfl
  | cons d w ih =>
    by_cases isQuote : d = singleQuote
    · subst isQuote
      exact ih
    · have notQuote : (d == singleQuote) = false := beq_eq_false_iff_ne.mpr isQuote
      rw [doubled_cons isQuote, dropQuotes, dropQuotes,
        List.dropWhile_cons_of_neg (by simp [notQuote]), List.dropWhile_cons_of_neg (by simp [notQuote]), doubled_cons isQuote]

lemma doubled_eq_nil : doubled w = [] ↔ w = [] := by
  constructor
  · intro nil
    cases w with
    | nil => rfl
    | cons d w =>
      have mem : d ∈ doubled (d :: w) := mem_doubled.mpr List.mem_cons_self
      rw [nil] at mem
      cases mem
  · rintro rfl
    rfl

/-- The apostrophes of a quotation are stripped together with those at the ends of the value. -/
lemma stripQuotes_quote :
    stripQuotes (singleQuote :: (doubled w ++ [singleQuote])) = doubled (stripQuotes w) := by
  have begun : dropQuotes (singleQuote :: (doubled w ++ [singleQuote])) =
      if dropQuotes w = [] then [] else doubled (dropQuotes w) ++ [singleQuote] := by
    show dropQuotes (doubled w ++ [singleQuote]) = _
    rw [dropQuotes, List.dropWhile_append, ← dropQuotes, dropQuotes_doubled]
    simp only [List.isEmpty_iff, doubled_eq_nil]
    rfl
  rw [stripQuotes_eq, stripQuotes_eq, begun]
  by_cases none : dropQuotes w = []
  · rw [if_pos none, none]
    rfl
  · rw [if_neg none, List.reverse_append, reverse_doubled]
    show (dropQuotes (doubled (dropQuotes w).reverse)).reverse = _
    rw [dropQuotes_doubled, reverse_doubled]

/-- Of a quoted value its apostrophes at the ends are lost. -/
lemma handleString_quote :
    rule.handleString (String.ofList (quoteValue value)) =
      .ok (String.ofList (stripQuotes value.toList)) := by
  have nonempty : String.ofList (quoteValue value) ≠ "" := by
    intro empty
    have nil := congrArg String.toList empty
    rw [String.toList_ofList] at nil
    cases nil
  have last : (quoteValue value).getLast? = some singleQuote := by
    rw [quoteValue, ← List.cons_append]
    exact List.getLast?_concat ..
  rw [Filter.handleString, if_neg nonempty, String.toList_ofList, if_pos ⟨rfl, last⟩]
  simp only [quoteValue, stripQuotes_quote, replacePairs_doubled, count_doubled]
  rw [if_neg fun ne => ne rfl]

lemma mem_of_handleString (read : rule.handleString value = .ok value') (mem : c ∈ value'.toList) :
    c ∈ value.toList := by
  rw [Filter.handleString] at read
  split at read
  · cases read
  · split at read
    · simp only at read
      split at read
      · cases read
      · cases read
        rw [String.toList_ofList] at mem
        exact mem_stripQuotes (mem_replacePairs mem)
    · split at read
      · cases read
      · cases read
        exact mem

/-! ## Values without apostrophes at the ends -/

/-- The text neither begins nor ends with an apostrophe. -/
def BareEnds (w : List Char) : Prop :=
  w.head? ≠ some singleQuote ∧ w.getLast? ≠ some singleQuote

lemma dropQuotes_eq_self : dropQuotes w = w ↔ w.head? ≠ some singleQuote := by
  cases w with
  | nil => simp [dropQuotes]
  | cons d w =>
    rw [List.head?_cons, ne_eq, Option.some.injEq]
    constructor
    · rintro same rfl
      have shorter : (dropQuotes w).length ≤ w.length := (List.dropWhile_sublist _).length_le
      have len := congrArg List.length same
      rw [show dropQuotes (singleQuote :: w) = dropQuotes w from rfl, List.length_cons] at len
      omega
    · intro ne
      rw [dropQuotes, List.dropWhile_cons_of_neg (by simpa using ne)]

lemma stripQuotes_eq_self : stripQuotes w = w ↔ BareEnds w := by
  rw [BareEnds, ← List.head?_reverse, ← dropQuotes_eq_self, ← dropQuotes_eq_self, stripQuotes_eq]
  constructor
  · intro same
    have outer : (dropQuotes (dropQuotes w).reverse).length ≤ (dropQuotes w).reverse.length :=
      (List.dropWhile_sublist _).length_le
    have inner : dropQuotes w <:+ w := List.dropWhile_suffix _
    have len := congrArg List.length same
    rw [List.length_reverse] at len outer
    have begun : dropQuotes w = w := inner.eq_of_length_le (by omega)
    refine ⟨begun, ?_⟩
    rw [begun] at same
    rw [← List.reverse_inj, List.reverse_reverse]
    exact same
  · rintro ⟨begun, ended⟩
    rw [begun, ended, List.reverse_reverse]

/-! ## Lists of values -/

/-- The pieces that a text of values is read as. -/
def piecesOf (text : List Char) : List (List Char) :=
  if isJson text text then [text] else text.splitOn ','

lemma isJson_splitOn {text first : List Char} {rest : List (List Char)}
    (split : text.splitOn ',' = first :: rest) :
    isJson first ((first :: rest).getLastD []) = isJson text text := by
  rw [isJson, isJson]
  apply congrArg₂
  · apply Bool.eq_iff_iff.mpr
    rw [List.isPrefixOf_iff_prefix, List.isPrefixOf_iff_prefix]
    exact prefix_splitOn split (by decide)
  · apply Bool.eq_iff_iff.mpr
    rw [List.isSuffixOf_iff_suffix, List.isSuffixOf_iff_suffix, ← split]
    exact suffix_splitOn (by decide)

lemma operatorNamed_name (operator : Operator) :
    operatorNamed operator.name.toList = some operator := by
  cases operator <;> rfl

lemma name_free (operator : Operator) : ∀ c ∈ operator.name.toList, 97 ≤ c.toNat := by
  have all : (operator.name.toList.all fun c => 97 ≤ c.toNat) = true := by
    cases operator <;> decide +kernel
  exact fun c mem => of_decide_eq_true (List.all_eq_true.mp all c mem)

/-- A filter is read as its operator, its attribute and the pieces of its values. -/
lemma parseFilter_text {operator : Operator} {attr text : List Char} (free : ',' ∉ attr) :
    parseFilter (operator.name.toList ++ ',' :: (attr ++ ',' :: text)) =
      .ok ⟨operator, String.ofList attr, (piecesOf text).map String.ofList⟩ := by
  have noComma : ',' ∉ operator.name.toList := by
    intro mem
    have low := name_free operator _ mem
    revert low
    decide
  have split : (operator.name.toList ++ ',' :: (attr ++ ',' :: text)).splitOn ',' =
      operator.name.toList :: attr :: text.splitOn ',' := by
    rw [List.splitOn_append_cons_self_of_not_mem noComma,
      List.splitOn_append_cons_self_of_not_mem free]
  rw [parseFilter, split]
  cases pieces : text.splitOn ',' with
  | nil => exact absurd pieces (List.splitOn_ne_nil ',' text)
  | cons first rest =>
    simp only [operatorNamed_name, isJson_splitOn pieces, piecesOf]
    rw [← pieces, List.intercalate_splitOn]

/-- The values come back from their text. -/
structure Kept (values : List String) : Prop where
  together : isJson (valuesText values) (valuesText values) = true → values.length = 1
  apart : isJson (valuesText values) (valuesText values) = false →
    ∀ value ∈ values, ',' ∉ value.toList
  bare : ∀ value ∈ values, BareEnds value.toList

lemma mapM_quoted : ((values.map quoteValue).map String.ofList).mapM rule.handleString =
    .ok (values.map fun value => String.ofList (stripQuotes value.toList)) := by
  induction values with
  | nil => rfl
  | cons value values ih =>
    rw [List.map_cons, List.map_cons, List.mapM_cons, handleString_quote, ih]
    rfl

lemma map_stripped : (values.map fun value => String.ofList (stripQuotes value.toList)) = values ↔
    ∀ value ∈ values, BareEnds value.toList := by
  have same : (values.map fun value => String.ofList (stripQuotes value.toList)) = values.map id ↔
      ∀ value ∈ values, String.ofList (stripQuotes value.toList) = value := List.map_inj_left
  rw [List.map_id] at same
  rw [same]
  apply forall₂_congr
  intro value _
  rw [← stripQuotes_eq_self, ← String.toList_inj, String.toList_ofList]

/-- The values come back exactly if each of them does and none of them is split or joined. -/
theorem handled_iff (rule : Filter) (some : values ≠ []) :
    ((piecesOf (valuesText values)).map String.ofList).mapM rule.handleString = .ok values ↔
      Kept values := by
  rw [piecesOf]
  cases json : isJson (valuesText values) (valuesText values) with
  | true =>
    rw [if_pos rfl]
    have single (one : values.length = 1) :
        ([valuesText values].map String.ofList).mapM rule.handleString = .ok values ↔
          ∀ value ∈ values, BareEnds value.toList := by
      obtain ⟨value, rfl⟩ := List.length_eq_one_iff.mp one
      have text : [valuesText [value]] = [value].map quoteValue := by
        rw [valuesText, List.map_singleton, List.intercalate_singleton]
      rw [text, mapM_quoted, Except.ok.injEq, map_stripped]
    constructor
    · intro handled
      have one : values.length = 1 := mapM_ok_length handled
      exact ⟨fun _ => one, fun notJson => absurd (json.symm.trans notJson) (by decide),
        (single one).mp handled⟩
    · exact fun kept => (single (kept.together json)).mpr kept.bare
  | false =>
    rw [if_neg Bool.false_ne_true]
    have split (free : ∀ value ∈ values, ',' ∉ value.toList) :
        (((valuesText values).splitOn ',').map String.ofList).mapM rule.handleString = .ok values ↔
          ∀ value ∈ values, BareEnds value.toList := by
      have noComma : ∀ piece ∈ values.map quoteValue, ',' ∉ piece := by
        intro piece mem inPiece
        obtain ⟨value, isValue, rfl⟩ := List.mem_map.mp mem
        exact free value isValue ((mem_quoteValue (by decide)).mp inPiece)
      rw [valuesText, List.splitOn_intercalate ',' noComma (by simpa using some), mapM_quoted,
        Except.ok.injEq, map_stripped]
    constructor
    · intro handled
      have free : ∀ value ∈ values, ',' ∉ value.toList := by
        intro value mem inValue
        obtain ⟨piece, isPiece, read⟩ := (mem_of_mapM_ok handled).mp mem
        obtain ⟨chars, inSplit, rfl⟩ := List.mem_map.mp isPiece
        have inPiece := mem_of_handleString read inValue
        rw [String.toList_ofList] at inPiece
        exact (of_mem_splitOn inSplit inPiece).2 rfl
      exact ⟨fun isJson => absurd (json.symm.trans isJson) (by decide), fun _ => free,
        (split free).mp handled⟩
    · exact fun kept => (split (kept.apart json)).mpr kept.bare

end Tacker.Filters
