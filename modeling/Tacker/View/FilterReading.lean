import Tacker.View.ParseFilter

/-!
# Reading attribute filters

The regular expressions match the texts of the grammar, the loops of `parse_values` and
`parse_filter` go through them one by one, and what is written as a filter is read back.
-/

namespace Tacker.View

open Tacker.Basis Tacker.Basis.Regex

variable {w tail text : List Char} {c : Char} {n : Nat}

/-! ## The languages of the expressions -/

lemma not_contains {cs : List Char} : (!cs.contains c) = true ↔ c ∉ cs := by
  simp

lemma mem_lang_quotedPart : w ∈ quotedPart.lang ↔ ∃ part, apostrophe ∉ part ∧ w = quoted part := by
  unfold quotedPart noneOf
  constructor
  · intro mem
    obtain ⟨u, open_, v, rest, rfl⟩ := mem_lang_seq.mp mem
    obtain ⟨part, run, x, close, rfl⟩ := mem_lang_seq.mp rest
    obtain rfl := mem_lang_lit.mp open_
    obtain rfl := mem_lang_lit.mp close
    refine ⟨part, fun inPart => ?_, rfl⟩
    exact not_contains.mp (mem_lang_star_char.mp run _ inPart) List.mem_cons_self
  · rintro ⟨part, none, rfl⟩
    refine mem_lang_seq.mpr ⟨[apostrophe], mem_lang_lit.mpr rfl, part ++ [apostrophe],
      mem_lang_seq.mpr ⟨part, mem_lang_star_char.mpr (fun c mem => ?_), [apostrophe],
        mem_lang_lit.mpr rfl, rfl⟩, rfl⟩
    rw [not_contains, List.mem_singleton]
    rintro rfl
    exact none mem

lemma mem_lang_bareValue :
    w ∈ bareValue.lang ↔ w ≠ [] ∧ ∀ c ∈ w, c ≠ apostrophe ∧ c ≠ ',' ∧ c ≠ ')' := by
  unfold bareValue noneOf
  rw [mem_lang_plus_char]
  simp only [not_contains, List.mem_cons, List.not_mem_nil, or_false, not_or]

lemma mem_lang_value : w ∈ (valueRegexp n).lang ↔ IsValue w := by
  unfold valueRegexp IsValue
  change w ∈ bareValue.lang + (plus (group (n + 1) quotedPart)).lang ↔ _
  rw [Language.mem_add, mem_lang_bareValue]
  exact or_congr_right (mem_lang_plus_of (r := group (n + 1) quotedPart)
    (fun _ => mem_lang_quotedPart))

/-- The values of an expression, each with its comma. -/
def valuesRe : Regex :=
  .plus (.group 3 (.seq (.lit ',') (valueRegexp 4)))

lemma mem_lang_values :
    w ∈ valuesRe.lang ↔ ∃ values : List (List Char), values ≠ [] ∧ (∀ v ∈ values, IsValue v) ∧
      w = valuesText values := by
  refine mem_lang_plus_of (r := group 3 (.seq (.lit ',') (valueRegexp 4))) (fun w => ?_)
  constructor
  · intro mem
    obtain ⟨u, comma, v, value, rfl⟩ := mem_lang_seq.mp mem
    obtain rfl := mem_lang_lit.mp comma
    exact ⟨v, mem_lang_value.mp value, rfl⟩
  · rintro ⟨v, value, rfl⟩
    exact mem_lang_seq.mpr ⟨[','], mem_lang_lit.mpr rfl, v, mem_lang_value.mpr value, rfl⟩

/-! ## The match of one expression -/

/-- What a match of `simpleFilterExpr_re` says about an expression at the beginning of the text. -/
structure Matches (text : List Char) (m : Scan) (e : RawExpr) : Prop where
  text_eq : text = e.text ++ m.rest
  pos : m.pos = e.text.length
  op : m.group text 1 = e.op
  attr : m.group text 2 = e.attr
  values : slice text (m.span 2).2 (m.span 3).2 = valuesText e.values

/-- Every result of the expression is about an expression of the grammar. -/
lemma results_simpleFilterExpr {m : Scan}
    (mem : m ∈ simpleFilterExprRe.results ⟨0, text, fun _ => none⟩) :
    ∃ e, Matches text m e := by
  obtain ⟨s1, open_, mem⟩ := mem_results_seq.mp mem
  obtain ⟨s2, opMem, mem⟩ := mem_results_seq.mp mem
  obtain ⟨s3, comma, mem⟩ := mem_results_seq.mp mem
  obtain ⟨s4, attrMem, mem⟩ := mem_results_seq.mp mem
  obtain ⟨s5, valuesMem, close⟩ := mem_results_seq.mp mem
  obtain ⟨w1, is1, rest1, pos1⟩ := results_lang open_
  obtain ⟨op, isOp, rest2, pos2, group1⟩ := results_group opMem
  obtain ⟨w3, is3, rest3, pos3⟩ := results_lang comma
  obtain ⟨attr, isAttr, rest4, pos4, group2⟩ := results_group attrMem
  obtain ⟨w5, isValues, rest5, pos5⟩ := results_lang valuesMem
  obtain ⟨w6, is6, rest6, pos6⟩ := results_lang close
  obtain rfl := mem_lang_lit.mp is1
  obtain rfl := mem_lang_lit.mp is3
  obtain rfl := mem_lang_lit.mp is6
  obtain ⟨opNonempty, opLower⟩ := mem_lang_plus_char.mp isOp
  obtain ⟨attrNonempty, attrChars⟩ := mem_lang_plus_char.mp isAttr
  obtain ⟨values, valuesNonempty, valuesOk, rfl⟩ := mem_lang_values.mp isValues
  let e : RawExpr := {
    op := op
    attr := attr
    values := values
    opNonempty := opNonempty
    opLower := fun c mem => by simpa using opLower c mem
    attrNonempty := attrNonempty
    attrNoComma := fun mem => not_contains.mp (attrChars _ mem) List.mem_cons_self
    valuesNonempty := valuesNonempty
    valuesOk := valuesOk }
  -- the groups, as later parts leave them
  have span1 : m.span 1 = (s1.pos, s2.pos) := by
    have kept := (groups_of_not_mem close (n := 1) (by decide)).trans
      ((groups_of_not_mem valuesMem (by decide)).trans ((groups_of_not_mem attrMem (by decide)).trans
        (groups_of_not_mem comma (by decide))))
    rw [Scan.span, kept, group1]
    rfl
  have span2 : m.span 2 = (s3.pos, s4.pos) := by
    have kept := (groups_of_not_mem close (n := 2) (by decide)).trans
      (groups_of_not_mem valuesMem (by decide))
    rw [Scan.span, kept, group2]
    rfl
  obtain ⟨first, group3⟩ := groups_plus_group valuesMem
  have span3 : (m.span 3).2 = s5.pos := by
    rw [Scan.span, groups_of_not_mem close (by decide), group3]
    rfl
  have whole :
      text = ['('] ++ (op ++ ([','] ++ (attr ++ (valuesText values ++ ([')'] ++ m.rest))))) := by
    rw [show text = _ from rest1, rest2, rest3, rest4, rest5, rest6]
  simp only [List.length_singleton] at pos1 pos3 pos6
  refine ⟨e, ?_, ?_, ?_, ?_, ?_⟩
  · rw [whole]
    simp [RawExpr.text, e]
  · simp only [RawExpr.text, e, List.length_append, List.length_cons, List.length_nil]
    omega
  · exact slice_eq ['('] whole (by rw [span1]; simpa using pos1)
      (by rw [span1]; exact pos2)
  · have cut : text = (['('] ++ op ++ [',']) ++ (attr ++ (valuesText values ++ ([')'] ++ m.rest))) := by
      rw [whole]; simp
    exact slice_eq _ cut (by rw [span2]; simp; omega) (by rw [span2]; exact pos4)
  · have cut : text = (['('] ++ op ++ [','] ++ attr) ++ (valuesText values ++ ([')'] ++ m.rest)) := by
      rw [whole]; simp
    exact slice_eq _ cut (by rw [span2]; simp; omega) (by rw [span2, span3]; exact pos5)

/-- An expression at the beginning of the text is matched. -/
lemma exists_match (e : RawExpr) (tail : List Char) (eq : text = e.text ++ tail) :
    ∃ m, simpleFilterExprRe.match? text = some m ∧ Matches text m e ∧ m.rest = tail := by
  have inLang : e.text ∈ simpleFilterExprRe.lang := by
    refine mem_lang_seq.mpr ⟨['('], mem_lang_lit.mpr rfl, _, ?_, rfl⟩
    refine mem_lang_seq.mpr ⟨e.op, mem_lang_plus_char.mpr ⟨e.opNonempty, fun c mem => ?_⟩, _, ?_, rfl⟩
    · simpa using e.opLower c mem
    refine mem_lang_seq.mpr ⟨[','], mem_lang_lit.mpr rfl, _, ?_, rfl⟩
    refine mem_lang_seq.mpr ⟨e.attr, mem_lang_plus_char.mpr ⟨e.attrNonempty, fun c mem => ?_⟩, _, ?_,
      rfl⟩
    · rw [not_contains, List.mem_singleton]
      rintro rfl
      exact e.attrNoComma mem
    exact mem_lang_seq.mpr ⟨valuesText e.values,
      mem_lang_values.mpr ⟨e.values, e.valuesNonempty, e.valuesOk, rfl⟩, [')'], mem_lang_lit.mpr rfl,
      rfl⟩
  obtain ⟨st, mem, -⟩ := exists_results ⟨0, text, fun _ => none⟩ inLang eq
  cases first : simpleFilterExprRe.match? text with
  | none =>
    rw [match?, List.head?_eq_none_iff] at first
    rw [first] at mem
    cases mem
  | some m =>
    obtain ⟨e', ofE'⟩ := results_simpleFilterExpr (List.mem_of_head? first)
    obtain ⟨eqOp, eqAttr, eqValues, eqTail⟩ := RawExpr.text_unique (eq.symm.trans ofE'.text_eq)
    have eqText : e'.text = e.text := by rw [RawExpr.text, RawExpr.text, eqOp, eqAttr, eqValues]
    refine ⟨m, rfl, ⟨?_, ?_, ?_, ?_, ?_⟩, eqTail.symm⟩
    · rw [← eqText]; exact ofE'.text_eq
    · rw [← eqText]; exact ofE'.pos
    · rw [eqOp]; exact ofE'.op
    · rw [eqAttr]; exact ofE'.attr
    · rw [eqValues]; exact ofE'.values

/-! ## The values -/

lemma deterministic_quotedPart : Deterministic (group n quotedPart) :=
  (deterministic_char.seq (deterministic_run (by decide))).group

/-- A value at the beginning of the text, up to a comma or the end, is matched. -/
lemma valueRe_match {v : List Char} (isValue : IsValue v)
    (ends : tail = [] ∨ ∃ rest, tail = ',' :: rest) :
    ∃ m, valueRe.match? (v ++ tail) = some m ∧ m.pos = v.length := by
  suffices first : ∃ st', ((Regex.alt bareValue (.plus (.group 2 quotedPart))).results
      ⟨0, v ++ tail, fun _ => none⟩).head? = some st' ∧ st'.rest = tail by
    obtain ⟨st', head, rest⟩ := first
    obtain ⟨w, -, eq, pos⟩ := results_lang (List.mem_of_head? head)
    rw [rest] at eq
    refine ⟨{ st' with groups := Function.update st'.groups 1 (some (0, st'.pos)) }, ?_, ?_⟩
    · unfold valueRe valueRegexp match?
      rw [results, List.head?_map, head]
      rfl
    · rw [List.append_cancel_right eq]
      simpa using pos
  rw [results, List.head?_append]
  rcases isValue with ⟨nonempty, ok⟩ | ⟨parts, nonempty, ok, rfl⟩
  · have each (part : List Char) (mem : part ∈ v.map (fun c => [c])) :
        part ∈ (noneOf [apostrophe, ',', ')']).lang ∧ part ≠ [] := by
      obtain ⟨c, memC, rfl⟩ := List.mem_map.mp mem
      refine ⟨⟨c, not_contains.mpr ?_, rfl⟩, List.cons_ne_nil c []⟩
      simpa using ok c memC
    have stuck (st : Scan) (rest : st.rest = tail) :
        (noneOf [apostrophe, ',', ')']).results st = [] := by
      refine results_eq_nil (fun w inLang more eq => ?_)
      obtain ⟨c, out, rfl⟩ := inLang
      rw [rest] at eq
      rcases ends with rfl | ⟨t, rfl⟩
      · cases eq
      · have isComma : ',' = c := (List.cons.inj eq).1
        rw [← isComma] at out
        exact absurd out (by decide)
    obtain ⟨st', head, rest⟩ := head?_plus ⟨0, v ++ tail, fun _ => none⟩
      deterministic_char (by simpa using nonempty) each
      (by rw [← List.flatMap_def, List.flatMap_singleton']) stuck
    exact ⟨st', by rw [bareValue, noneOf, head]; rfl, rest⟩
  · have each (part : List Char) (mem : part ∈ parts.map quoted) :
        part ∈ (group 2 quotedPart).lang ∧ part ≠ [] := by
      obtain ⟨p, memP, rfl⟩ := List.mem_map.mp mem
      exact ⟨mem_lang_quotedPart.mpr ⟨p, ok p memP, rfl⟩, List.cons_ne_nil _ _⟩
    have stuck (st : Scan) (rest : st.rest = tail) : (group 2 quotedPart).results st = [] := by
      refine results_eq_nil (fun w inLang more eq => ?_)
      obtain ⟨part, -, rfl⟩ := mem_lang_quotedPart.mp inLang
      rw [rest] at eq
      rcases ends with rfl | ⟨t, rfl⟩
      · cases eq
      · exact absurd (List.cons.inj eq).1 (by decide)
    obtain ⟨st', head, rest⟩ := head?_plus ⟨0, parts.flatMap quoted ++ tail, fun _ => none⟩
      deterministic_quotedPart (by simpa using nonempty) each
      (by rw [List.flatMap_def]) stuck
    have notBare : bareValue.results ⟨0, parts.flatMap quoted ++ tail, fun _ => none⟩ = [] := by
      refine results_eq_nil (fun w inLang more eq => ?_)
      obtain ⟨part, parts, rfl⟩ := List.exists_cons_of_ne_nil nonempty
      obtain ⟨some, chars⟩ := mem_lang_bareValue.mp inLang
      obtain ⟨c, w, rfl⟩ := List.exists_cons_of_ne_nil some
      exact (chars c List.mem_cons_self).1 (List.cons.inj eq).1.symm
    exact ⟨st', by rw [notBare, head]; rfl, rest⟩

/-- The loop of `parse_values` reads the values that are left. -/
lemma parseValuesFrom_eq (values : List (List Char)) (ok : ∀ v ∈ values, IsValue v) (fuel loc : Nat)
    (enough : values.length < fuel) (done : text.drop loc = valuesText values)
    (within : loc ≤ text.length) (res : List String) :
    parseValuesFrom text fuel loc res =
      .ok (res ++ values.map (fun v => String.ofList (readValue v))) := by
  induction values generalizing fuel loc res with
  | nil =>
    obtain ⟨fuel, rfl⟩ := Nat.exists_eq_add_of_lt enough
    have finished : ¬ loc < text.length := by
      have length := congrArg List.length done
      rw [List.length_drop] at length
      simp [valuesText] at length
      omega
    rw [List.length_nil, Nat.zero_add, parseValuesFrom, if_neg finished]
    simp
  | cons v values ih =>
    cases fuel with
    | zero => exact absurd enough (Nat.not_lt_zero _)
    | succ fuel =>
      rw [valuesText_cons] at done
      have length := congrArg List.length done
      rw [List.length_drop, List.length_cons, List.length_append] at length
      have more : loc < text.length := by omega
      have char : text[loc]? = some ',' := by
        rw [← List.head?_drop, done]
        rfl
      have rest : text.drop (loc + 1) = v ++ valuesText values := by
        rw [← List.drop_drop, done]
        rfl
      have ends : valuesText values = [] ∨ ∃ rest, valuesText values = ',' :: rest := by
        cases values with
        | nil => exact Or.inl rfl
        | cons v' values => exact Or.inr ⟨_, rfl⟩
      obtain ⟨m, matched, pos⟩ := valueRe_match (ok v List.mem_cons_self) ends
      have value : slice (v ++ valuesText values) 0 m.pos = v :=
        slice_eq [] rfl rfl (by rw [pos, Nat.zero_add])
      have next : text.drop (loc + 1 + m.pos) = valuesText values := by
        rw [← List.drop_drop, rest, pos, List.drop_left]
      rw [parseValuesFrom, if_pos more, char]
      simp only [ne_eq, not_true, if_false, rest, matched, value]
      rw [ih (fun other mem => ok other (List.mem_cons_of_mem v mem)) fuel _ (by simpa using enough)
        next (by omega)]
      simp

lemma parseValues_eq {values : List (List Char)} (ok : ∀ v ∈ values, IsValue v) :
    parseValues (valuesText values) = .ok (values.map (fun v => String.ofList (readValue v))) := by
  have enough : values.length < (valuesText values).length + 1 := by
    induction values with
    | nil => exact Nat.one_pos
    | cons v values ih =>
      have := ih (fun other mem => ok other (List.mem_cons_of_mem v mem))
      rw [valuesText_cons, List.length_cons, List.length_cons, List.length_append]
      omega
  exact parseValuesFrom_eq values ok _ 0 enough rfl (Nat.zero_le _) []

/-! ## The expressions -/

/-- A known operator is found by its name. -/
lemma ofText_name (op : FilterOp) : FilterOp.ofText op.name.toList = some op := by
  cases op <;> decide

lemma name_of_ofText {op : FilterOp} (eq : FilterOp.ofText text = some op) :
    text = op.name.toList := by
  have found := List.find?_some eq
  exact (of_decide_eq_true found).symm

/-- What is read from a match, by the operator. -/
lemma readExpr_eq {filter : List Char} {loc : Nat} {m : Scan} {e : RawExpr}
    (matched : Matches (filter.drop loc) m e) :
    readExpr filter loc m =
      match FilterOp.ofText e.op with
      | none => .error (.invalidAttributeFilter ("Invalid op " ++ String.ofList e.op))
      | some op =>
        if 1 < e.values.length ∧ op ∉ opMulti then
          .error (.invalidAttributeFilter ("Only one value is allowed for op " ++ op.name))
        else
          .ok {
            op := op
            attr := parseAttr e.attr
            values := e.values.map (fun v => String.ofList (readValue v)) } := by
  have values : slice filter (loc + (m.span 2).2) (loc + (m.span 3).2) = valuesText e.values := by
    rw [← matched.values, slice, slice, List.drop_drop, Nat.add_sub_add_left]
  unfold readExpr
  dsimp only
  rw [matched.op, matched.attr, values, parseValues_eq e.valuesOk]
  cases FilterOp.ofText e.op with
  | none => rfl
  | some op =>
    dsimp only
    rw [List.length_map]

/-- A match of an expression with a known operator and an admitted number of values. -/
lemma readExpr_simple {filter : List Char} {loc : Nat} {m : Scan} {e : SimpleExpr}
    (matched : Matches (filter.drop loc) m e.toRawExpr) : readExpr filter loc m = .ok e.read := by
  have allowed : ¬ (1 < e.values.length ∧ e.known ∉ opMulti) := by
    rintro ⟨many, notMulti⟩
    rcases e.admitted with one | ⟨-, multi⟩
    · omega
    · exact notMulti multi
  rw [readExpr_eq matched, e.isKnown, ofText_name]
  simp only [if_neg allowed]
  rfl

/-- A match is read as an expression of the grammar, or is refused. -/
lemma readExpr_cases {filter : List Char} {loc : Nat} {m : Scan} {e : RawExpr}
    (matched : Matches (filter.drop loc) m e) :
    (∃ simple : SimpleExpr, simple.toRawExpr = e ∧ readExpr filter loc m = .ok simple.read) ∨
      ∃ detail, readExpr filter loc m = .error (.invalidAttributeFilter detail) := by
  cases known : FilterOp.ofText e.op with
  | none => exact Or.inr ⟨_, by rw [readExpr_eq matched, known]⟩
  | some op =>
    by_cases refused : 1 < e.values.length ∧ op ∉ opMulti
    · exact Or.inr ⟨_, by rw [readExpr_eq matched, known]; exact if_pos refused⟩
    · have some := List.length_pos_iff.mpr e.valuesNonempty
      have admitted : op.Admits e.values.length := by
        rw [not_and, not_not] at refused
        by_cases one : e.values.length = 1
        · exact Or.inl one
        · exact Or.inr ⟨by omega, refused (by omega)⟩
      let simple : SimpleExpr := { e with
        known := op
        isKnown := name_of_ofText known
        admitted := admitted }
      exact Or.inl ⟨simple, rfl, readExpr_simple (e := simple) matched⟩

lemma filterText_singleton (e : SimpleExpr) : filterText [e] = e.text :=
  List.intercalate_singleton

lemma filterText_cons (e e' : SimpleExpr) (es : List SimpleExpr) :
    filterText (e :: e' :: es) = e.text ++ ';' :: filterText (e' :: es) := by
  unfold filterText
  rw [List.map_cons, List.map_cons, List.intercalate_cons_cons, List.append_assoc]
  rfl

/-- What is left after a match. -/
lemma Matches.drop {filter : List Char} {loc : Nat} {m : Scan} {e : RawExpr}
    (matched : Matches (filter.drop loc) m e) : filter.drop (loc + m.pos) = m.rest := by
  rw [← List.drop_drop, matched.text_eq, matched.pos, List.drop_left]

lemma Matches.pos_lt {filter : List Char} {loc : Nat} {m : Scan} {e : RawExpr}
    (matched : Matches (filter.drop loc) m e) (within : loc ≤ filter.length) :
    0 < m.pos ∧ loc + m.pos + m.rest.length = filter.length := by
  have length := congrArg List.length matched.text_eq
  rw [List.length_drop, List.length_append, ← matched.pos] at length
  have some : 0 < m.pos := by
    rw [matched.pos, RawExpr.text]
    exact Nat.succ_pos _
  exact ⟨some, by omega⟩

/-- The loop of `parse_filter` reads the expressions that are left. -/
lemma parseFilterFrom_eq (filter : List Char) (es : List SimpleExpr) (nonempty : es ≠ [])
    (fuel loc : Nat) (enough : filter.length < loc + fuel) (within : loc ≤ filter.length)
    (left : filter.drop loc = filterText es) (res : List FilterExpr) :
    parseFilterFrom filter fuel loc res = .ok (res ++ es.map SimpleExpr.read) := by
  induction es generalizing fuel loc res with
  | nil => exact absurd rfl nonempty
  | cons e es ih =>
    cases fuel with
    | zero => omega
    | succ fuel =>
      cases es with
      | nil =>
        rw [filterText_singleton] at left
        obtain ⟨m, found, matched, rest⟩ := exists_match e.toRawExpr [] (by simpa using left)
        obtain ⟨-, ended⟩ := matched.pos_lt within
        rw [rest, List.length_nil, Nat.add_zero] at ended
        rw [parseFilterFrom, found]
        simp only [readExpr_simple matched, if_pos ended, List.map_cons, List.map_nil]
      | cons e' es =>
        rw [filterText_cons] at left
        obtain ⟨m, found, matched, rest⟩ := exists_match e.toRawExpr _ left
        obtain ⟨consumed, length⟩ := matched.pos_lt within
        rw [rest, List.length_cons] at length
        have goesOn : loc + m.pos ≠ filter.length := by omega
        have char : filter[loc + m.pos]? = some ';' := by
          rw [← List.head?_drop, matched.drop, rest]
          rfl
        have next : filter.drop (loc + m.pos + 1) = filterText (e' :: es) := by
          rw [← List.drop_drop, matched.drop, rest]
          rfl
        rw [parseFilterFrom, found]
        simp only [readExpr_simple matched, if_neg goesOn, char, ne_eq, not_true, if_false]
        rw [ih (List.cons_ne_nil e' es) fuel _ (by omega) (by omega) next]
        simp

/-- The loop of `parse_filter` ends: it has read expressions of the grammar to the end of the text,
or it has raised InvalidAttributeFilter. -/
lemma parseFilterFrom_cases (filter : List Char) (fuel loc : Nat)
    (enough : filter.length < loc + fuel) (within : loc ≤ filter.length) (res : List FilterExpr) :
    (∃ es : List SimpleExpr, es ≠ [] ∧ filter.drop loc = filterText es) ∨
      ∃ detail, parseFilterFrom filter fuel loc res = .error (.invalidAttributeFilter detail) := by
  induction fuel generalizing loc res with
  | zero => omega
  | succ fuel ih =>
    rw [parseFilterFrom]
    cases found : simpleFilterExprRe.match? (filter.drop loc) with
    | none => exact Or.inr ⟨_, rfl⟩
    | some m =>
      obtain ⟨e, matched⟩ := results_simpleFilterExpr (List.mem_of_head? found)
      obtain ⟨consumed, length⟩ := matched.pos_lt within
      rcases readExpr_cases matched with ⟨simple, rfl, read⟩ | ⟨detail, read⟩
      · simp only [read]
        split
        · case isTrue ended =>
            have nothing : m.rest = [] := List.length_eq_zero_iff.mp (by omega)
            refine Or.inl ⟨[simple], List.cons_ne_nil _ _, ?_⟩
            rw [filterText_singleton, matched.text_eq, nothing, List.append_nil]
        · case isFalse goesOn =>
            cases eqRest : m.rest with
            | nil => rw [eqRest] at length; exact absurd (by simpa using length) goesOn
            | cons c rest =>
              rw [eqRest, List.length_cons] at length
              have char : filter[loc + m.pos]? = some c := by
                rw [← List.head?_drop, matched.drop, eqRest]
                rfl
              have next : filter.drop (loc + m.pos + 1) = rest := by
                rw [← List.drop_drop, matched.drop, eqRest]
                rfl
              simp only [char]
              split
              · exact Or.inr ⟨_, rfl⟩
              · case isFalse semicolon =>
                  rw [ne_eq, not_not] at semicolon
                  refine (ih (loc + m.pos + 1) (by omega) (by omega) _).imp_left ?_
                  rintro ⟨es, nonempty, left⟩
                  obtain ⟨e', es, rfl⟩ := List.exists_cons_of_ne_nil nonempty
                  refine ⟨simple :: e' :: es, List.cons_ne_nil _ _, ?_⟩
                  rw [filterText_cons, ← left, next, ← semicolon, ← eqRest]
                  exact matched.text_eq
      · simp only [read]
        exact Or.inr ⟨_, rfl⟩

end Tacker.View
