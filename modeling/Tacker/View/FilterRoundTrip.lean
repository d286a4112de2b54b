import Tacker.View.FilterReading

/-!
# Filters are read back as written

An SOL013 filter string made from operators, attribute paths and values: the characters that
structure an attribute name are escaped with tildes, and every value is quoted.
-/

namespace Tacker.View

open Tacker.Basis Tacker.Basis.Regex

variable {fuel : Nat} {c : Char}

/-! ## Writing -/

/-- A filter expression as SOL013 admits it. -/
structure FilterTriple extends FilterExpr where
  attrNonempty : attr ≠ []
  partsNonempty : AttrPart.name "" ∉ attr
  admitted : op.Admits values.length

/-- The tilde escapes. -/
def escapeChar (c : Char) : List Char :=
  if c = '~' then ['~', '0']
  else if c = '/' then ['~', '1']
  else if c = ',' then ['~', 'a']
  else if c = '@' then ['~', 'b']
  else [c]

/-- A part of an attribute name. -/
def encodePart : AttrPart → List Char
  | .key => "@key".toList
  | .name s => s.toList.flatMap escapeChar

/-- An attribute name. -/
def encodeAttr (attr : List AttrPart) : List Char :=
  ['/'].intercalate (attr.map encodePart)

/-- Apostrophes are doubled. -/
def doubleApostrophe (c : Char) : List Char :=
  if c = apostrophe then [apostrophe, apostrophe] else [c]

/-- A quoted value. -/
def encodeValue (v : String) : List Char :=
  quoted (v.toList.flatMap doubleApostrophe)

/-- A parenthesised expression. -/
def encodeExpr (e : FilterExpr) : List Char :=
  '(' :: e.op.name.toList ++
    (',' :: encodeAttr e.attr ++ (e.values.flatMap (fun v => ',' :: encodeValue v) ++ [')']))

/-- The value of the `filter` parameter; without expressions the parameter is left out. -/
def encodeFilter (triples : List FilterTriple) : Option String :=
  if triples = [] then none
  else some (String.ofList ([';'].intercalate (triples.map (fun t => encodeExpr t.toFilterExpr))))

/-! ## Escapes -/

/-- What the first substitution of `tilde_unescape` leaves to do. -/
def escapeTilde (c : Char) : List Char :=
  if c = '~' then ['~', '0'] else [c]

lemma tildeEscapeRe_other (other : c ≠ '~') (t : List Char) :
    tildeEscapeRe.match? (c :: t) = none := by
  simp [tildeEscapeRe, match?, results, lit, other]

/-- A tilde escape is matched, and its code is the group. -/
lemma tildeEscapeRe_code {d : Char} (isCode : ['1', 'a', 'b'].contains d = true) (t : List Char) :
    ∃ m, tildeEscapeRe.match? ('~' :: d :: t) = some m ∧ m.rest = t ∧
      m.group ('~' :: d :: t) 1 = [d] := by
  refine ⟨⟨2, t, Function.update (fun _ => none) 1 (some (1, 2))⟩, ?_, rfl, rfl⟩
  simp only [tildeEscapeRe, match?, results, lit, beq_self_eq_true, if_true, isCode,
    List.flatMap_singleton, List.map_cons, List.map_nil, List.head?_cons]

lemma passes_code {d e : Char} (isCode : ['1', 'a', 'b'].contains d = true) (t : List Char)
    (code : ∀ text m, m.group text 1 = [d] → repl text m = [e]) :
    Passes tildeEscapeRe repl ('~' :: d :: t) [e] t := by
  obtain ⟨m, found, rfl, group⟩ := tildeEscapeRe_code isCode t
  have passes := Passes.replace repl found (Nat.le_succ _)
  rw [code _ m group] at passes
  exact passes

lemma pairRe_other {d e : Char} (other : c ≠ d) (t : List Char) :
    (pairRe d e).match? (c :: t) = none := by
  simp [pairRe, match?, results, lit, other]

lemma pairRe_same (d e : Char) (t : List Char) :
    ∃ m, (pairRe d e).match? (d :: e :: t) = some m ∧ m.rest = t := by
  simp [pairRe, match?, results, lit]

/-- The first substitution undoes the escapes of all characters but the tilde. -/
lemma passes_escapeChar (c : Char) (t : List Char) :
    Passes tildeEscapeRe repl (escapeChar c ++ t) (escapeTilde c) t := by
  by_cases tilde : c = '~'
  · subst tilde
    exact (Passes.copy (c := '~') (by rfl)).trans (Passes.copy (c := '0') (by rfl))
  have left : escapeTilde c = [c] := if_neg tilde
  rw [left, escapeChar, if_neg tilde]
  split
  · case isTrue slash =>
      subst slash
      exact passes_code rfl t (fun text m group => by rw [repl, group]; rfl)
  split
  · case isTrue comma =>
      subst comma
      exact passes_code rfl t (fun text m group => by rw [repl, group]; rfl)
  split
  · case isTrue monkey =>
      subst monkey
      exact passes_code rfl t (fun text m group => by rw [repl, group]; rfl)
  · exact Passes.copy (tildeEscapeRe_other tilde t)

/-- The second substitution undoes the escape of the tilde. -/
lemma passes_escapeTilde (c : Char) (t : List Char) :
    Passes (pairRe '~' '0') (fun _ _ => ['~']) (escapeTilde c ++ t) [c] t := by
  by_cases tilde : c = '~'
  · subst tilde
    obtain ⟨m, found, rfl⟩ := pairRe_same '~' '0' t
    exact Passes.replace _ found (Nat.le_succ _)
  · rw [escapeTilde, if_neg tilde]
    exact Passes.copy (pairRe_other tilde t)

lemma passes_doubleApostrophe (c : Char) (t : List Char) :
    Passes (pairRe apostrophe apostrophe) (fun _ _ => [apostrophe]) (doubleApostrophe c ++ t) [c]
      t := by
  by_cases same : c = apostrophe
  · subst same
    obtain ⟨m, found, rfl⟩ := pairRe_same apostrophe apostrophe t
    rw [doubleApostrophe, if_pos rfl]
    exact Passes.replace _ found (Nat.le_succ _)
  · rw [doubleApostrophe, if_neg same]
    exact Passes.copy (pairRe_other same t)

/-! ## Names -/

lemma not_mem_escapeChar {d : Char} (structural : d = '/' ∨ d = ',' ∨ d = '@') (c : Char) :
    d ∉ escapeChar c := by
  unfold escapeChar
  intro mem
  rcases structural with rfl | rfl | rfl <;> split_ifs at mem <;> simp_all [eq_comm]

lemma not_mem_encodePart {d : Char} (structural : d = '/' ∨ d = ',') (part : AttrPart) :
    d ∉ encodePart part := by
  cases part with
  | key => rcases structural with rfl | rfl <;> decide
  | name s =>
    intro mem
    obtain ⟨c, -, memC⟩ := List.mem_flatMap.mp mem
    exact not_mem_escapeChar (structural.imp_right Or.inl) c memC

/-- A part of an attribute name is read back. -/
lemma tildeUnescape_encodePart (part : AttrPart) : tildeUnescape (encodePart part) = part := by
  cases part with
  | key => rfl
  | name s =>
    have notKey : s.toList.flatMap escapeChar ≠ "@key".toList := by
      intro eq
      have mem : '@' ∈ s.toList.flatMap escapeChar := by rw [eq]; decide
      obtain ⟨c, -, memC⟩ := List.mem_flatMap.mp mem
      exact not_mem_escapeChar (Or.inr (Or.inr rfl)) c memC
    rw [tildeUnescape, encodePart, if_neg notKey]
    simp only [sub_flatMap _ passes_escapeChar, sub_flatMap _ passes_escapeTilde,
      List.flatMap_singleton', String.ofList_toList]

/-- An attribute name is read back. -/
lemma parseAttr_encodeAttr {attr : List AttrPart} (nonempty : attr ≠ []) :
    parseAttr (encodeAttr attr) = attr := by
  have parts : (encodeAttr attr).splitOn '/' = attr.map encodePart := by
    refine List.splitOn_intercalate '/' (fun text mem => ?_) (by simpa using nonempty)
    obtain ⟨part, -, rfl⟩ := List.mem_map.mp mem
    exact not_mem_encodePart (Or.inl rfl) part
  have each : tildeUnescape ∘ encodePart = id := funext tildeUnescape_encodePart
  rw [parseAttr, parts, List.map_map, each, List.map_id]

lemma encodePart_ne_nil (part : AttrPart) (nonempty : part ≠ .name "") : encodePart part ≠ [] := by
  cases part with
  | key => decide
  | name s =>
    intro none
    have empty : s.toList = [] := by
      refine List.eq_nil_iff_forall_not_mem.mpr (fun c mem => ?_)
      have escaped := List.flatMap_eq_nil_iff.mp none c mem
      unfold escapeChar at escaped
      split_ifs at escaped
    exact nonempty (congrArg AttrPart.name (String.toList_eq_nil_iff.mp empty))

lemma encodeAttr_ne_nil {attr : List AttrPart} (nonempty : attr ≠ [])
    (partsNonempty : AttrPart.name "" ∉ attr) : encodeAttr attr ≠ [] := by
  obtain ⟨part, attr, rfl⟩ := List.exists_cons_of_ne_nil nonempty
  have some := encodePart_ne_nil part (fun eq => partsNonempty (eq ▸ List.mem_cons_self))
  unfold encodeAttr
  cases attr with
  | nil => rwa [List.map_cons, List.map_nil, List.intercalate_singleton]
  | cons other attr =>
    rw [List.map_cons, List.map_cons, List.intercalate_cons_cons, List.append_assoc]
    exact List.append_ne_nil_of_left_ne_nil some _

lemma not_mem_encodeAttr (attr : List AttrPart) : ',' ∉ encodeAttr attr := by
  unfold encodeAttr
  induction attr with
  | nil => exact List.not_mem_nil
  | cons part attr ih =>
    have notPart := not_mem_encodePart (Or.inr rfl) part
    cases attr with
    | nil => rwa [List.map_cons, List.map_nil, List.intercalate_singleton]
    | cons other attr =>
      rw [List.map_cons, List.map_cons, List.intercalate_cons_cons, List.mem_append,
        List.mem_append, not_or, not_or]
      exact ⟨⟨notPart, by decide⟩, ih⟩

/-! ## Values -/

/-- A quoted value is a value of the grammar. -/
lemma isValue_encodeValue (v : String) : IsValue (encodeValue v) := by
  suffices parts : ∃ part parts, (∀ p ∈ part :: parts, apostrophe ∉ p) ∧
      encodeValue v = (part :: parts).flatMap quoted by
    obtain ⟨part, parts, ok, eq⟩ := parts
    exact Or.inr ⟨part :: parts, List.cons_ne_nil _ _, ok, eq⟩
  unfold encodeValue
  generalize v.toList = cs
  induction cs with
  | nil => exact ⟨[], [], by simp, rfl⟩
  | cons c cs ih =>
    obtain ⟨part, parts, ok, eq⟩ := ih
    rw [List.flatMap_cons] at eq ⊢
    by_cases same : c = apostrophe
    · -- a doubled apostrophe closes an empty part
      refine ⟨[], part :: parts, fun p mem => ?_, ?_⟩
      · rcases List.mem_cons.mp mem with rfl | mem
        · exact List.not_mem_nil
        · exact ok p mem
      · rw [doubleApostrophe, if_pos same, List.flatMap_cons, List.flatMap_cons, ← eq]
        rfl
    · refine ⟨c :: part, parts, fun p mem => ?_, ?_⟩
      · rcases List.mem_cons.mp mem with rfl | mem
        · rw [List.mem_cons, not_or]
          exact ⟨Ne.symm same, ok part List.mem_cons_self⟩
        · exact ok p (List.mem_cons_of_mem part mem)
      · have rest := (List.cons.inj eq).2
        rw [doubleApostrophe, if_neg same, List.flatMap_cons]
        exact congrArg (fun t => apostrophe :: c :: t) rest

/-- A value is read back. -/
lemma readValue_encodeValue (v : String) : readValue (encodeValue v) = v.toList := by
  have inner : slice (encodeValue v) 1 ((encodeValue v).length - 1) =
      v.toList.flatMap doubleApostrophe :=
    slice_eq [apostrophe] rfl rfl (by simp [encodeValue, quoted]; omega)
  have isQuoted : (encodeValue v).head? = some apostrophe := rfl
  rw [readValue, if_pos isQuoted, inner, sub_flatMap _ passes_doubleApostrophe, List.flatMap_singleton']

/-! ## Expressions -/

lemma FilterOp.name_lower (op : FilterOp) : ∀ c ∈ op.name.toList, 97 ≤ c.toNat ∧ c.toNat ≤ 122 := by
  have all : op.name.toList.all (fun c => decide (97 ≤ c.toNat ∧ c.toNat ≤ 122)) = true := by
    cases op <;> rfl
  intro c mem
  exact of_decide_eq_true (List.all_eq_true.mp all c mem)

/-- A triple, written as an expression of the grammar. -/
def FilterTriple.simple (t : FilterTriple) : SimpleExpr where
  op := t.op.name.toList
  attr := encodeAttr t.attr
  values := t.values.map encodeValue
  opNonempty := by cases t.op <;> decide
  opLower := t.op.name_lower
  attrNonempty := encodeAttr_ne_nil t.attrNonempty t.partsNonempty
  attrNoComma := not_mem_encodeAttr t.attr
  valuesNonempty := by
    have some : t.values.length ≠ 0 := by rcases t.admitted with one | ⟨many, -⟩ <;> omega
    exact fun none => some (by rw [List.map_eq_nil_iff.mp none, List.length_nil])
  valuesOk := by
    intro v mem
    obtain ⟨value, -, rfl⟩ := List.mem_map.mp mem
    exact isValue_encodeValue value
  known := t.op
  isKnown := rfl
  admitted := by rw [List.length_map]; exact t.admitted

lemma text_simple (t : FilterTriple) : t.simple.text = encodeExpr t.toFilterExpr := by
  simp only [RawExpr.text, FilterTriple.simple, valuesText, List.flatMap_map, encodeExpr]

lemma read_simple (t : FilterTriple) : t.simple.read = t.toFilterExpr := by
  have values : (t.values.map encodeValue).map (fun v => String.ofList (readValue v)) = t.values := by
    rw [List.map_map]
    refine (List.map_congr_left (g := id) (fun v _ => ?_)).trans (List.map_id _)
    rw [Function.comp, readValue_encodeValue, String.ofList_toList, id]
  simp only [SimpleExpr.read, FilterTriple.simple, values, parseAttr_encodeAttr t.attrNonempty]

/-- What is written as a filter is read back, and a string is read if it is a sequence of
expressions of the grammar; every other string raises InvalidAttributeFilter. -/
theorem parse_filter_exact :
    (∀ triples : List FilterTriple,
      parseFilter (encodeFilter triples) = .ok (triples.map FilterTriple.toFilterExpr)) ∧
    ∀ filter : String,
      (∃ es, IsFilter filter es ∧ parseFilter (some filter) = .ok (es.map SimpleExpr.read)) ∨
        ((¬ ∃ es, IsFilter filter es) ∧
          ∃ detail, parseFilter (some filter) = .error (.invalidAttributeFilter detail)) := by
  have reads {filter : String} {es : List SimpleExpr} (isFilter : IsFilter filter es) :
      parseFilter (some filter) = .ok (es.map SimpleExpr.read) :=
    parseFilterFrom_eq filter.toList es isFilter.1 (filter.toList.length + 1) 0
      (by omega) (Nat.zero_le _) isFilter.2 []
  constructor
  · intro triples
    by_cases none : triples = []
    · subst none
      rfl
    · have isFilter : IsFilter (String.ofList ([';'].intercalate
          (triples.map (fun t => encodeExpr t.toFilterExpr)))) (triples.map FilterTriple.simple) := by
        refine ⟨fun empty => none (List.map_eq_nil_iff.mp empty), ?_⟩
        rw [String.toList_ofList, filterText, List.map_map]
        exact congrArg _ (List.map_congr_left fun t _ => (text_simple t).symm)
      rw [encodeFilter, if_neg none, reads isFilter, List.map_map]
      exact congrArg _ (List.map_congr_left fun t _ => read_simple t)
  · intro filter
    rcases parseFilterFrom_cases filter.toList (filter.toList.length + 1) 0 (by omega)
      (Nat.zero_le _) [] with ⟨es, nonempty, eq⟩ | ⟨detail, raised⟩
    · exact Or.inl ⟨es, ⟨nonempty, eq⟩, reads ⟨nonempty, eq⟩⟩
    · refine Or.inr ⟨?_, detail, raised⟩
      rintro ⟨es, isFilter⟩
      cases (reads isFilter).symm.trans raised

end Tacker.View
