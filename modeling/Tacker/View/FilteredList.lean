import Tacker.View.FreshMatching

/-!
# Lists filtered object by object

A list is filtered with filter expressions that were parsed once. Where every object fits the
filters as they are when it is matched, the list has the objects that freshly parsed filters match,
and nothing but InvalidAttributeFilter is raised.
-/

namespace Tacker.View

open Tacker.Basis

/-! ## Filters that were used -/

/-- The values were converted before. -/
def Values.Converted : Values → Prop
  | texts _ => False
  | _ => True

/-- The filter is the parsed one, with its texts or with values that they were converted into. -/
structure Matcher.From (f : Matcher) (expr : FilterExpr) : Prop where
  op : f.op = expr.op
  attr : f.attr = expr.attr
  values : f.values = .texts expr.values ∨ f.values.Converted
  nonempty : expr.values ≠ []

/-- The object fits the filter: the attribute is set if it is there, the texts can be converted for
it and then be compared with it, and if they were converted before they compare as the texts do that
are converted now. -/
structure Matcher.Fits (parsers : Parsers) (f : Matcher) (expr : FilterExpr) (obj : Val) :
    Prop where
  loaded : obj.read expr.attr ≠ .error .notImplementedError
  convertible : ∀ val, obj.read expr.attr = .ok val → Convertible parsers expr.values val
  defined : ∀ val values, obj.read expr.attr = .ok val →
    (Values.texts expr.values).convert parsers val = .ok values →
      expr.op.DefinedVal values.toList val
  steady : f.values = .texts expr.values ∨ ∀ val, obj.read expr.attr = .ok val →
    ∃ values, (Values.texts expr.values).convert parsers val = .ok values ∧
      expr.op.matchVal f.values.toList val = expr.op.matchVal values.toList val

/-- Two matches have the same outcome, and nothing is raised but the exception for filters. -/
def Agrees {α β : Type} (now : Except MatchError (Bool × α)) (alone : Except MatchError (Bool × β)) :
    Prop :=
  now.map Prod.fst = alone.map Prod.fst ∧ ∀ e, alone = .error e → e.IsInvalid

variable {parsers : Parsers} {f : Matcher} {expr : FilterExpr} {obj val : Val}

lemma fresh_from (nonempty : expr.values ≠ []) : expr.fresh.From expr where
  op := rfl
  attr := rfl
  values := .inl rfl
  nonempty := nonempty

/-- The parsed filter, if its values are the texts. -/
lemma Matcher.From.eq_fresh (isFrom : f.From expr) (texts : f.values = .texts expr.values) :
    f = expr.fresh := by
  obtain ⟨op, attr, values⟩ := f
  obtain rfl : op = expr.op := isFrom.op
  obtain rfl : attr = expr.attr := isFrom.attr
  obtain rfl : values = _ := texts
  rfl

lemma convert_of_converted {values : Values} (converted : values.Converted) :
    values.convert parsers val = .ok values := by
  cases values with
  | texts values => cases converted
  | _ => rfl

/-- The outcome of a comparison, with values that were converted. -/
lemma compare_fst (parsers : Parsers) (f : Matcher) (val : Val) :
    (f.compare parsers val).map Prod.fst =
      f.values.convert parsers val >>= fun values => f.op.matchVal values.toList val := by
  unfold Matcher.compare
  cases f.values.convert parsers val with
  | error e => rfl
  | ok values =>
    show ((f.op.matchVal values.toList val >>= _) : Except MatchError (Bool × Matcher)).map _ =
      f.op.matchVal values.toList val
    cases f.op.matchVal values.toList val with
    | error e => rfl
    | ok b => rfl

lemma map_fst_error {α : Type} {x : Except MatchError (Bool × α)} {e : MatchError} :
    x.map Prod.fst = .error e ↔ x = .error e :=
  except_map_error

/-- Where the attribute is read, a used filter agrees with a fresh one exactly if the texts can be
converted and compared and the values of the used one compare in the same way. -/
lemma compare_agrees_iff (isFrom : f.From expr) :
    Agrees (f.compare parsers val) (expr.fresh.compare parsers val) ↔
      Convertible parsers expr.values val ∧
        (∀ values, (Values.texts expr.values).convert parsers val = .ok values →
          expr.op.DefinedVal values.toList val) ∧
        (f.values = .texts expr.values ∨
          ∃ values, (Values.texts expr.values).convert parsers val = .ok values ∧
            expr.op.matchVal f.values.toList val = expr.op.matchVal values.toList val) := by
  obtain ⟨first, rest, same⟩ := List.exists_cons_of_ne_nil isFrom.nonempty
  have aloneFst := compare_fst parsers expr.fresh val
  have alone : ∀ e, expr.fresh.compare parsers val = .error e ↔
      ((Values.texts expr.values).convert parsers val >>= fun values =>
        expr.op.matchVal values.toList val) = .error e := by
    intro e
    rw [← map_fst_error, aloneFst]
    exact Iff.rfl
  have conversion : (Values.texts expr.values).convert parsers val =
      convertTexts parsers first rest val := by rw [same]; rfl
  have canConvert := convertTexts_spec parsers first rest val
  rw [← same, ← conversion] at canConvert
  unfold Agrees
  rw [compare_fst, aloneFst, isFrom.op]
  show (_ = ((Values.texts expr.values).convert parsers val >>= _) ∧ _) ↔ _
  simp only [alone]
  cases converted : (Values.texts expr.values).convert parsers val with
  | error e =>
    rw [converted] at canConvert
    constructor
    · rintro ⟨agrees, invalid⟩
      have isInvalid := invalid e rfl
      refine ⟨canConvert.mpr fun e' raised => Except.error.inj raised ▸ isInvalid,
        fun values absurd => (by cases absurd), ?_⟩
      rcases isFrom.values with texts | isConverted
      · exact .inl texts
      · rw [convert_of_converted isConverted] at agrees
        exact absurd isInvalid (matchVal_error agrees)
    · rintro ⟨convertible, _, texts | ⟨values, absurd, _⟩⟩
      · rw [texts, converted]
        refine ⟨rfl, fun e' raised => ?_⟩
        rw [← Except.error.inj raised]
        exact canConvert.mp convertible e rfl
      · cases absurd
  | ok values =>
    have nonempty := toList_ne_nil_of_convert (conversion.symm.trans converted)
    have returns : (∀ e, expr.op.matchVal values.toList val = .error e → e.IsInvalid) ↔
        expr.op.DefinedVal values.toList val := by
      rw [← matchVal_ok expr.op nonempty]
      cases compared : expr.op.matchVal values.toList val with
      | error e =>
        refine ⟨fun invalid => absurd (invalid e rfl) (matchVal_error compared), ?_⟩
        rintro ⟨_, absurd⟩
        cases absurd
      | ok b => exact ⟨fun _ => ⟨b, rfl⟩, fun _ e absurd => (by cases absurd)⟩
    have outcome : ((f.values.convert parsers val >>= fun values' =>
        expr.op.matchVal values'.toList val) = expr.op.matchVal values.toList val) ↔
          (f.values = .texts expr.values ∨
            ∃ values', (Except.ok values : Except MatchError Values) = .ok values' ∧
              expr.op.matchVal f.values.toList val = expr.op.matchVal values'.toList val) := by
      rcases isFrom.values with texts | isConverted
      · rw [texts, converted]
        exact ⟨fun _ => .inl rfl, fun _ => rfl⟩
      · rw [convert_of_converted isConverted]
        constructor
        · exact fun agrees => .inr ⟨values, rfl, agrees⟩
        · rintro (texts | ⟨values', same', agrees⟩)
          · rw [texts] at isConverted
            cases isConverted
          · obtain rfl := Except.ok.inj same'
            exact agrees
    constructor
    · rintro ⟨agrees, invalid⟩
      refine ⟨canConvert.mpr fun e raised => ?_, fun values' made => ?_, outcome.mp agrees⟩
      · rw [converted] at raised
        cases raised
      · rw [← Except.ok.inj made]
        exact returns.mp invalid
    · rintro ⟨_, defined, steady⟩
      exact ⟨outcome.mpr steady, returns.mpr (defined values rfl)⟩

/-- A used filter agrees with a fresh one exactly if the object fits it. -/
lemma match_agrees_iff (isFrom : f.From expr) :
    Agrees (f.match parsers obj) (expr.fresh.match parsers obj) ↔ f.Fits parsers expr obj := by
  have attr : f.attr = expr.attr := isFrom.attr
  cases found : obj.read expr.attr with
  | ok val =>
    have now : f.match parsers obj = f.compare parsers val := by
      unfold Matcher.match
      rw [attr, found]
    have alone : expr.fresh.match parsers obj = expr.fresh.compare parsers val := by
      unfold Matcher.match
      rw [show expr.fresh.attr = expr.attr from rfl, found]
    rw [now, alone, compare_agrees_iff isFrom]
    constructor
    · rintro ⟨convertible, defined, steady⟩
      constructor
      · rw [found]
        exact fun absurd => (by cases absurd)
      · intro val' found'
        rw [← Except.ok.inj (found.symm.trans found')]
        exact convertible
      · intro val' values found'
        rw [← Except.ok.inj (found.symm.trans found')]
        exact defined values
      · refine steady.imp_right fun agrees val' found' => ?_
        rw [← Except.ok.inj (found.symm.trans found')]
        exact agrees
    · intro fits
      exact ⟨fits.convertible val found, fun values => fits.defined val values found,
        fits.steady.imp_right fun agrees => agrees val found⟩
  | error e =>
    have absent : ∀ val, obj.read expr.attr ≠ .ok val := by
      intro val found'
      rw [found] at found'
      cases found'
    have fits : f.Fits parsers expr obj ↔ e ≠ .notImplementedError := by
      constructor
      · rintro fits rfl
        exact fits.loaded found
      · intro loaded
        refine ⟨fun found' => loaded ?_, fun val found' => absurd found' (absent val),
          fun val _ found' => absurd found' (absent val),
          .inr fun val found' => absurd found' (absent val)⟩
        exact Except.error.inj (found.symm.trans found')
    rw [fits]
    unfold Matcher.match
    rw [attr, show expr.fresh.attr = expr.attr from rfl, found]
    rcases read_error found with rfl | rfl | rfl | rfl
    · exact ⟨fun _ absurd => (by cases absurd), fun _ => ⟨rfl, fun _ absurd => (by cases absurd)⟩⟩
    · exact ⟨fun _ absurd => (by cases absurd), fun _ => ⟨rfl, fun _ raised =>
        ⟨_, (Except.error.inj raised).symm⟩⟩⟩
    · exact ⟨fun _ absurd => (by cases absurd), fun _ => ⟨rfl, fun _ raised =>
        ⟨_, (Except.error.inj raised).symm⟩⟩⟩
    · refine ⟨fun agrees => ?_, fun absurd => (absurd rfl).elim⟩
      obtain ⟨_, absurd⟩ := agrees.2 _ rfl
      cases absurd

lemma converted_of_convertTexts {first : String} {rest : List String} {values : Values}
    (converted : convertTexts parsers first rest val = .ok values) :
    values = .texts (first :: rest) ∨ values.Converted := by
  cases val with
  | scalar x =>
    cases x with
    | datetime d =>
      obtain ⟨_, _, rfl⟩ := except_map_ok.mp converted
      exact .inr trivial
    | bool b =>
      obtain ⟨_, _, rfl⟩ := except_map_ok.mp converted
      exact .inr trivial
    | int n =>
      obtain ⟨_, _, rfl⟩ := except_map_ok.mp converted
      exact .inr trivial
    | float x =>
      obtain ⟨_, _, rfl⟩ := except_map_ok.mp converted
      exact .inr trivial
    | str s => exact .inl (Except.ok.inj converted).symm
  | _ => exact .inl (Except.ok.inj converted).symm

/-- A filter that is used stays one that comes from the parsed one. -/
lemma Matcher.From.match (isFrom : f.From expr) {b : Bool} {f' : Matcher}
    (matched : f.match parsers obj = .ok (b, f')) : f'.From expr := by
  unfold Matcher.match at matched
  cases found : obj.read f.attr with
  | error e =>
    rw [found] at matched
    rcases read_error found with rfl | rfl | rfl | rfl
    · obtain ⟨_, rfl⟩ := Prod.mk.inj (Except.ok.inj matched)
      exact isFrom
    · cases matched
    · cases matched
    · cases matched
  | ok val =>
    rw [found] at matched
    obtain ⟨values, converted, matched⟩ := bind_ok.mp matched
    obtain ⟨_, _, matched⟩ := bind_ok.mp matched
    obtain ⟨_, rfl⟩ := Prod.mk.inj (Except.ok.inj matched)
    refine ⟨isFrom.op, isFrom.attr, ?_, isFrom.nonempty⟩
    rcases isFrom.values with texts | isConverted
    · obtain ⟨first, rest, same⟩ := List.exists_cons_of_ne_nil isFrom.nonempty
      rw [texts, same] at converted
      rw [same]
      exact converted_of_convertTexts converted
    · rw [convert_of_converted isConverted] at converted
      rw [← Except.ok.inj converted]
      exact .inr isConverted

/-! ## Objects and lists -/

/-- The object fits the filters, up to the first that does not match it. -/
def FitsAll (parsers : Parsers) (obj : Val) : List FilterExpr → List Matcher → Prop
  | expr :: exprs, f :: filters => f.Fits parsers expr obj ∧
      ((expr.fresh.match parsers obj).map Prod.fst = .ok true → FitsAll parsers obj exprs filters)
  | _, _ => True

/-- Every object that is reached fits the filters as they are when it is matched. -/
def FitsEach (parsers : Parsers) (exprs : List FilterExpr) : List Matcher → List Val → Prop
  | _, [] => True
  | filters, obj :: objs => FitsAll parsers obj exprs filters ∧
      ∀ b filters', matchFilters parsers obj filters = .ok (b, filters') →
        FitsEach parsers exprs filters' objs

/-- The objects that freshly parsed filters match, each object alone. -/
def matchAlone (parsers : Parsers) (exprs : List FilterExpr) : List Val → Except MatchError (List Val)
  | [] => .ok []
  | obj :: objs => do
    let (found, _) ← matchFilters parsers obj (exprs.map FilterExpr.fresh)
    let rest ← matchAlone parsers exprs objs
    return if found then obj :: rest else rest

/-- The filters come from the parsed ones, one by one. -/
abbrev AllFrom (filters : List Matcher) (exprs : List FilterExpr) : Prop :=
  List.Forall₂ Matcher.From filters exprs

variable {filters : List Matcher} {exprs : List FilterExpr}

/-- What the rest of the filters make of an object that the first one matches. -/
lemma matchFilters_cons (f : Matcher) (filters : List Matcher) :
    (matchFilters parsers obj (f :: filters)).map Prod.fst =
      (f.match parsers obj).map Prod.fst >>= fun found =>
        if found then (matchFilters parsers obj filters).map Prod.fst else .ok false := by
  rw [matchFilters]
  cases f.match parsers obj with
  | error e => rfl
  | ok result =>
    obtain ⟨found, f'⟩ := result
    cases found with
    | false => rfl
    | true =>
      show ((matchFilters parsers obj filters >>= _) :
        Except MatchError (Bool × List Matcher)).map _ = (matchFilters parsers obj filters).map _
      cases matchFilters parsers obj filters with
      | error e => rfl
      | ok result => rfl

lemma matchFilters_agrees (isFrom : AllFrom filters exprs)
    (fits : FitsAll parsers obj exprs filters) :
    Agrees (matchFilters parsers obj filters)
      (matchFilters parsers obj (exprs.map FilterExpr.fresh)) := by
  induction isFrom with
  | nil => exact ⟨rfl, fun e absurd => (by cases absurd)⟩
  | @cons f expr filters exprs isFrom _ ih =>
    obtain ⟨fitsFirst, fitsRest⟩ := fits
    obtain ⟨same, invalid⟩ := (match_agrees_iff isFrom).mpr fitsFirst
    unfold Agrees
    rw [List.map_cons]
    simp only [← map_fst_error (α := List Matcher)]
    rw [matchFilters_cons, matchFilters_cons, same]
    cases alone : (expr.fresh.match parsers obj).map Prod.fst with
    | error e =>
      refine ⟨rfl, fun e' raised => ?_⟩
      rw [← Except.error.inj raised]
      exact invalid e (map_fst_error.mp alone)
    | ok found =>
      cases found with
      | false => exact ⟨rfl, fun e absurd => (by cases absurd)⟩
      | true =>
        obtain ⟨sameRest, invalidRest⟩ := ih (fitsRest alone)
        refine ⟨sameRest, fun e raised => invalidRest e (map_fst_error.mp raised)⟩

lemma AllFrom.matchFilters (isFrom : AllFrom filters exprs) {b : Bool} {filters' : List Matcher}
    (matched : View.matchFilters parsers obj filters = .ok (b, filters')) :
    AllFrom filters' exprs := by
  induction isFrom generalizing b filters' with
  | nil =>
    obtain ⟨_, rfl⟩ := Prod.mk.inj (Except.ok.inj matched)
    exact .nil
  | cons isFrom rest ih =>
    rw [View.matchFilters] at matched
    obtain ⟨⟨found, f'⟩, first, matched⟩ := bind_ok.mp matched
    cases found with
    | false =>
      obtain ⟨_, rfl⟩ := Prod.mk.inj (Except.ok.inj matched)
      exact .cons (isFrom.match first) rest
    | true =>
      obtain ⟨⟨all, filters''⟩, later, matched⟩ := bind_ok.mp matched
      obtain ⟨_, rfl⟩ := Prod.mk.inj (Except.ok.inj matched)
      exact .cons (isFrom.match first) (ih later)

/-- The run lemma: the used filters give the list of the fresh ones. -/
lemma matchList_eq (isFrom : AllFrom filters exprs) {objs : List Val}
    (fits : FitsEach parsers exprs filters objs) :
    matchList parsers filters objs = matchAlone parsers exprs objs ∧
      ∀ e, matchAlone parsers exprs objs = .error e → e.IsInvalid := by
  induction objs generalizing filters with
  | nil => exact ⟨rfl, fun e absurd => (by cases absurd)⟩
  | cons obj objs ih =>
    obtain ⟨fitsFirst, fitsRest⟩ := fits
    obtain ⟨same, invalid⟩ := matchFilters_agrees isFrom fitsFirst
    rw [matchList, matchAlone]
    cases now : matchFilters parsers obj filters with
    | error e =>
      rw [now] at same
      have alone := map_fst_error.mp same.symm
      rw [alone]
      refine ⟨rfl, fun e' raised => ?_⟩
      rw [← Except.error.inj raised]
      exact invalid e alone
    | ok result =>
      obtain ⟨found, filters'⟩ := result
      rw [now] at same
      obtain ⟨⟨found', fresh'⟩, alone, rfl⟩ := except_map_ok.mp same.symm
      rw [alone]
      obtain ⟨sameRest, invalidRest⟩ := ih (isFrom.matchFilters now) (fitsRest found' filters' now)
      show ((matchList parsers filters' objs >>= _) : Except MatchError (List Val)) =
          (matchAlone parsers exprs objs >>= _) ∧
        ∀ e, (matchAlone parsers exprs objs >>= _ : Except MatchError (List Val)) = .error e → _
      rw [sameRest]
      refine ⟨rfl, fun e raised => ?_⟩
      rcases bind_error.mp raised with raised | ⟨_, _, absurd⟩
      · exact invalidRest e raised
      · cases absurd

lemma values_ne_nil_of_parsed {text : Option String} (parses : parseFilter text = .ok exprs)
    {expr : FilterExpr} (mem : expr ∈ exprs) : expr.values ≠ [] := by
  cases text with
  | none =>
    obtain rfl := Except.ok.inj parses
    cases mem
  | some filter =>
    have parses : parseFilterFrom filter.toList (filter.toList.length + 1) 0 [] = .ok exprs := parses
    rcases parseFilterFrom_cases filter.toList (filter.toList.length + 1) 0 (by omega)
      (Nat.zero_le _) [] with ⟨es, nonempty, same⟩ | ⟨detail, raised⟩
    · have reads := parseFilterFrom_eq filter.toList es nonempty (filter.toList.length + 1) 0
        (by omega) (Nat.zero_le _) same []
      rw [reads] at parses
      obtain rfl := Except.ok.inj parses
      obtain ⟨e, _, rfl⟩ := List.mem_map.mp mem
      exact fun empty => e.valuesNonempty (List.map_eq_nil_iff.mp empty)
    · rw [raised] at parses
      cases parses

lemma allFrom_fresh (nonempty : ∀ expr ∈ exprs, expr.values ≠ []) :
    AllFrom (exprs.map FilterExpr.fresh) exprs := by
  induction exprs with
  | nil => exact .nil
  | cons expr exprs ih =>
    apply List.Forall₂.cons (fresh_from (nonempty expr List.mem_cons_self))
    exact ih fun expr' mem => nonempty expr' (List.mem_cons_of_mem expr mem)

/-- A single digit. -/
def digit (text : String) : Option Int :=
  match text.toList with
  | [c] => if c.isDigit then some (c.toNat - 48) else none
  | _ => none

/-- Conversions of single digits. -/
def digits : Parsers where
  isoparse _ := none
  int := digit
  float text := (digit text).map Number.ofInt

/-- The expression `(eq,a,5)`. -/
def isFive : FilterExpr where
  op := .eq
  attr := [.name "a"]
  values := ["5"]

lemma parse_isFive : parseFilter (some "(eq,a,5)") = .ok [isFive] := rfl

/-- Objects with a number and with a text. -/
def five : Val := .dict [("a", .scalar (.int 5))]

def fiveText : Val := .dict [("a", .scalar (.str "5"))]

lemma fits_five : FitsEach digits [isFive] [isFive.fresh] [five] := by
  refine ⟨⟨⟨fun absurd => ?_, fun val found => ?_, fun val values _ _ => ?_, .inl rfl⟩,
    fun _ => trivial⟩, fun _ _ _ => trivial⟩
  · cases absurd
  · obtain rfl := Except.ok.inj found
    rintro value mem
    obtain rfl := List.mem_singleton.mp mem
    rfl
  · cases val with
    | list items => exact fun _ _ _ _ _ => trivial
    | _ => trivial

end Tacker.View
