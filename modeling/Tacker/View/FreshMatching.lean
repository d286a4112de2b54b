import Tacker.Basis.Attempt
import Tacker.View.FilterReading
import Tacker.View.MatchFilter

/-!
# Matching with used filters

A filter that was used before keeps the values that it was converted to. It matches an object as a
fresh copy does, and raises nothing but InvalidAttributeFilter, exactly if the object fits it; a list
whose objects all fit the filters as they are by then is filtered object by object.
-/

namespace Tacker.View

open Tacker.Basis

/-! ## What can be compared -/

/-- The values can be put in order. -/
def Scalar.Alike (x y : Scalar) : Prop :=
  (x.number?.isSome = true ∧ y.number?.isSome = true) ∨ (∃ s t, x = .str s ∧ y = .str t) ∨
    ∃ d e, x = .datetime d ∧ y = .datetime e ∧ d.aware = e.aware

/-- What is found can be searched for the value. -/
def Val.Holds : Val → Scalar → Prop
  | .scalar x, v => ∃ s part, x = .str s ∧ v = .str part
  | .none, _ => False
  | _, _ => True

/-- What is found can be compared with the first value. -/
def Val.AlikeFirst (val : Val) (values : List Scalar) : Prop :=
  ∃ x v rest, val = .scalar x ∧ values = v :: rest ∧ x.Alike v

/-- What is found can be searched for the values, up to the first that is found. -/
def Val.HoldsAll (val : Val) (values : List Scalar) : Prop :=
  ∀ front v rest, values = front ++ v :: rest →
    (∀ w ∈ front, val.contains w = .ok false) → val.Holds v

/-- The operator is defined for what is found and the values. -/
def FilterOp.Defined : FilterOp → List Scalar → Val → Prop
  | gt, values, val => val.AlikeFirst values
  | gte, values, val => val.AlikeFirst values
  | lt, values, val => val.AlikeFirst values
  | lte, values, val => val.AlikeFirst values
  | cont, values, val => val.HoldsAll values
  | ncont, values, val => val.HoldsAll values
  | _, _, _ => True

/-- The operator is defined for the items of a list up to the first that matches. -/
def FilterOp.DefinedVal (op : FilterOp) (values : List Scalar) : Val → Prop
  | .list items => ∀ front item rest, items = front ++ item :: rest →
      (∀ x ∈ front, op.matchFn values x = .ok false) → op.Defined values item
  | val => op.Defined values val

lemma order_ok {x y : Scalar} : (∃ o, x.order y = .ok o) ↔ (∃ s t, x = .str s ∧ y = .str t) ∨
    ∃ d e, x = .datetime d ∧ y = .datetime e ∧ d.aware = e.aware := by
  constructor
  · rintro ⟨o, returned⟩
    cases x with
    | str s =>
      cases y with
      | str t => exact .inl ⟨s, t, rfl, rfl⟩
      | _ => cases returned
    | datetime d =>
      cases y with
      | datetime e =>
        by_cases same : d.aware = e.aware
        · exact .inr ⟨d, e, rfl, rfl, same⟩
        · have raises : (Scalar.datetime d).order (.datetime e) = .error .typeError := if_neg same
          rw [raises] at returned
          cases returned
      | _ => cases returned
    | _ => cases returned
  · rintro (⟨s, t, rfl, rfl⟩ | ⟨d, e, rfl, rfl, same⟩)
    · exact ⟨_, rfl⟩
    · exact ⟨_, if_pos same⟩

lemma scalar_compare_ok {x y : Scalar} : (∃ o, x.compare y = .ok o) ↔ x.Alike y := by
  unfold Scalar.compare Scalar.Alike
  cases first : x.number? with
  | none =>
    cases second : y.number? with
    | none =>
      rw [order_ok]
      simp
    | some n =>
      constructor
      · rintro ⟨_, absurd⟩
        cases absurd
      · rintro (⟨absurd, _⟩ | ⟨s, t, _, rfl⟩ | ⟨d, e, _, rfl, _⟩)
        · cases absurd
        · cases second
        · cases second
  | some m =>
    cases second : y.number? with
    | none =>
      constructor
      · rintro ⟨_, absurd⟩
        cases absurd
      · rintro (⟨_, absurd⟩ | ⟨s, t, rfl, _⟩ | ⟨d, e, rfl, _, _⟩)
        · cases absurd
        · cases first
        · cases first
    | some n => exact ⟨fun _ => .inl ⟨rfl, rfl⟩, fun _ => ⟨_, rfl⟩⟩

lemma matchOrder_ok {accepts : Ordering → Bool} {values : List Scalar} {val : Val} :
    (∃ b, matchOrder accepts values val = .ok b) ↔ val.AlikeFirst values := by
  unfold matchOrder
  constructor
  · rintro ⟨b, returned⟩
    obtain ⟨v, first, returned⟩ := bind_ok.mp returned
    obtain ⟨o, compared, _⟩ := bind_ok.mp returned
    cases values with
    | nil => cases first
    | cons v' rest =>
      obtain rfl := Except.ok.inj first
      cases val with
      | scalar x => exact ⟨x, v', rest, rfl, rfl, scalar_compare_ok.mp ⟨o, compared⟩⟩
      | _ => cases compared
  · rintro ⟨x, v, rest, rfl, rfl, alike⟩
    obtain ⟨o, compared⟩ := scalar_compare_ok.mpr alike
    exact ⟨_, bind_ok.mpr ⟨v, rfl, bind_ok.mpr ⟨o, compared, rfl⟩⟩⟩

lemma contains_ok {val : Val} {v : Scalar} : (∃ b, val.contains v = .ok b) ↔ val.Holds v := by
  cases val with
  | none => exact ⟨fun ⟨_, absurd⟩ => (by cases absurd), fun absurd => absurd.elim⟩
  | scalar x =>
    constructor
    · rintro ⟨b, returned⟩
      cases x with
      | str s =>
        cases v with
        | str part => exact ⟨s, part, rfl, rfl⟩
        | _ => cases returned
      | _ => cases returned
    · rintro ⟨s, part, rfl, rfl⟩
      exact ⟨_, rfl⟩
  | list items => exact ⟨fun _ => trivial, fun _ => ⟨_, rfl⟩⟩
  | dict members => exact ⟨fun _ => trivial, fun _ => ⟨_, rfl⟩⟩
  | object fields => exact ⟨fun _ => trivial, fun _ => ⟨_, rfl⟩⟩

lemma matchCont_ok {values : List Scalar} {val : Val} :
    (∃ b, matchCont values val = .ok b) ↔ val.HoldsAll values := by
  unfold matchCont Val.HoldsAll
  rw [anyM_ok_total]
  simp only [contains_ok]

lemma matchNcont_ok {values : List Scalar} {val : Val} :
    (∃ b, matchNcont values val = .ok b) ↔ val.HoldsAll values := by
  rw [← matchCont_ok]
  constructor
  · rintro ⟨b, returned⟩
    obtain ⟨b', found, _⟩ := bind_ok.mp returned
    exact ⟨b', found⟩
  · rintro ⟨b, found⟩
    exact ⟨!b, bind_ok.mpr ⟨b, found, rfl⟩⟩

/-- An operator returns exactly if it is defined. -/
lemma matchFn_ok (op : FilterOp) {values : List Scalar} (nonempty : values ≠ []) {val : Val} :
    (∃ b, op.matchFn values val = .ok b) ↔ op.Defined values val := by
  obtain ⟨v, rest, rfl⟩ := List.exists_cons_of_ne_nil nonempty
  cases op with
  | eq => exact ⟨fun _ => trivial, fun _ => ⟨_, rfl⟩⟩
  | neq => exact ⟨fun _ => trivial, fun _ => ⟨_, rfl⟩⟩
  | «in» => exact ⟨fun _ => trivial, fun _ => ⟨_, rfl⟩⟩
  | nin => exact ⟨fun _ => trivial, fun _ => ⟨_, rfl⟩⟩
  | gt => exact matchOrder_ok
  | gte => exact matchOrder_ok
  | lt => exact matchOrder_ok
  | lte => exact matchOrder_ok
  | cont => exact matchCont_ok
  | ncont => exact matchNcont_ok

/-- A comparison returns exactly if it is defined. -/
lemma matchVal_ok (op : FilterOp) {values : List Scalar} (nonempty : values ≠ []) {val : Val} :
    (∃ b, op.matchVal values val = .ok b) ↔ op.DefinedVal values val := by
  cases val with
  | list items =>
    apply anyM_ok_total.trans
    unfold FilterOp.DefinedVal
    simp only [matchFn_ok op nonempty]
  | none => exact matchFn_ok op nonempty
  | scalar x => exact matchFn_ok op nonempty
  | dict members => exact matchFn_ok op nonempty
  | object fields => exact matchFn_ok op nonempty

/-! ## What is raised -/

/-- The exception that a filter may raise. -/
def MatchError.IsInvalid (e : MatchError) : Prop :=
  ∃ detail, e = .invalidAttributeFilter detail

lemma order_error {x y : Scalar} {e : MatchError} (raised : x.order y = .error e) :
    ¬ e.IsInvalid := by
  rintro ⟨detail, rfl⟩
  cases x with
  | datetime d =>
    cases y with
    | datetime d' =>
      by_cases same : d.aware = d'.aware
      · have returns : (Scalar.datetime d).order (.datetime d') = .ok _ := if_pos same
        rw [returns] at raised
        cases raised
      · have raises : (Scalar.datetime d).order (.datetime d') = .error .typeError := if_neg same
        rw [raises] at raised
        cases raised
    | _ => cases raised
  | str s =>
    cases y with
    | _ => cases raised
  | _ => cases raised

lemma scalar_compare_error {x y : Scalar} {e : MatchError} (raised : x.compare y = .error e) :
    ¬ e.IsInvalid := by
  unfold Scalar.compare at raised
  cases first : x.number? with
  | none =>
    cases second : y.number? with
    | none =>
      rw [first, second] at raised
      exact order_error raised
    | some n =>
      rw [first, second] at raised
      rintro ⟨detail, rfl⟩
      cases raised
  | some m =>
    cases second : y.number? with
    | none =>
      rw [first, second] at raised
      rintro ⟨detail, rfl⟩
      cases raised
    | some n =>
      rw [first, second] at raised
      cases raised

lemma firstOf_error {values : List Scalar} {e : MatchError} (raised : firstOf values = .error e) :
    ¬ e.IsInvalid := by
  rintro ⟨detail, rfl⟩
  cases values with
  | nil => cases raised
  | cons v rest => cases raised

lemma matchOrder_error {accepts : Ordering → Bool} {values : List Scalar} {val : Val}
    {e : MatchError} (raised : matchOrder accepts values val = .error e) : ¬ e.IsInvalid := by
  rcases bind_error.mp raised with first | ⟨v, _, raised⟩
  · exact firstOf_error first
  · rcases bind_error.mp raised with compared | ⟨o, _, absurd⟩
    · cases val with
      | scalar x => exact scalar_compare_error compared
      | _ =>
        rintro ⟨detail, rfl⟩
        cases compared
    · cases absurd

lemma contains_error {val : Val} {v : Scalar} {e : MatchError}
    (raised : val.contains v = .error e) : ¬ e.IsInvalid := by
  rintro ⟨detail, rfl⟩
  cases val with
  | scalar x =>
    cases x with
    | str s =>
      cases v with
      | _ => cases raised
    | _ => cases raised
  | _ => cases raised

lemma matchCont_error {values : List Scalar} {val : Val} {e : MatchError}
    (raised : matchCont values val = .error e) : ¬ e.IsInvalid := by
  obtain ⟨v, _, raised⟩ := anyM_error raised
  exact contains_error raised

lemma matchFn_error {op : FilterOp} {values : List Scalar} {val : Val} {e : MatchError}
    (raised : op.matchFn values val = .error e) : ¬ e.IsInvalid := by
  cases op with
  | eq =>
    rcases bind_error.mp raised with first | ⟨_, _, absurd⟩
    · exact firstOf_error first
    · cases absurd
  | neq =>
    rcases bind_error.mp raised with first | ⟨_, _, absurd⟩
    · exact firstOf_error first
    · cases absurd
  | «in» => cases raised
  | nin => cases raised
  | gt => exact matchOrder_error raised
  | gte => exact matchOrder_error raised
  | lt => exact matchOrder_error raised
  | lte => exact matchOrder_error raised
  | cont => exact matchCont_error raised
  | ncont =>
    rcases bind_error.mp raised with found | ⟨_, _, absurd⟩
    · exact matchCont_error found
    · cases absurd

/-- A comparison never raises the exception for filters. -/
lemma matchVal_error {op : FilterOp} {values : List Scalar} {val : Val} {e : MatchError}
    (raised : op.matchVal values val = .error e) : ¬ e.IsInvalid := by
  cases val with
  | list items =>
    obtain ⟨item, _, raised⟩ := anyM_error raised
    exact matchFn_error raised
  | none => exact matchFn_error raised
  | scalar x => exact matchFn_error raised
  | dict members => exact matchFn_error raised
  | object fields => exact matchFn_error raised

lemma readPart_error {val : Val} {part : AttrPart} {e : MatchError}
    (raised : val.readPart part = .error e) :
    e = .keyError ∨ e = .attributeError ∨ e = .typeError ∨ e = .notImplementedError := by
  cases part with
  | key =>
    cases val with
    | dict members => cases raised
    | object fields => cases raised
    | _ => exact .inr (.inl (Except.error.inj raised).symm)
  | name a =>
    cases val with
    | dict members =>
      have raised : memberOf (members.lookup a) = .error e := raised
      cases found : members.lookup a with
      | none =>
        rw [found] at raised
        exact .inl (Except.error.inj raised).symm
      | some v =>
        rw [found] at raised
        cases raised
    | object fields =>
      have raised : attributeOf (fields.lookup a) = .error e := raised
      cases found : fields.lookup a with
      | none =>
        rw [found] at raised
        exact .inr (.inl (Except.error.inj raised).symm)
      | some v =>
        rw [found] at raised
        cases v with
        | none => exact .inr (.inr (.inr (Except.error.inj raised).symm))
        | some v => cases raised
    | _ => exact .inr (.inr (.inl (Except.error.inj raised).symm))

/-- What can be raised on the way to an attribute. -/
lemma read_error {attr : List AttrPart} {val : Val} {e : MatchError}
    (raised : val.read attr = .error e) :
    e = .keyError ∨ e = .attributeError ∨ e = .typeError ∨ e = .notImplementedError := by
  unfold Val.read at raised
  induction attr generalizing val with
  | nil => cases raised
  | cons part attr ih =>
    rw [List.foldlM_cons] at raised
    rcases bind_error.mp raised with here | ⟨next, _, later⟩
    · exact readPart_error here
    · exact ih later

/-! ## What can be converted -/

/-- The texts can be converted for what was found. -/
def Convertible (parsers : Parsers) (values : List String) : Val → Prop
  | .scalar (.datetime _) => ∀ first, values.head? = some first →
      (parsers.isoparse first).isSome = true
  | .scalar (.int _) => ∀ value ∈ values, (parsers.int value).isSome = true
  | .scalar (.float _) => ∀ value ∈ values, (parsers.float value).isSome = true
  | _ => True

lemma parsed_ok {α : Type} {parse : String → Option α} {text : String} :
    (∃ x, parsed parse text = .ok x) ↔ (parse text).isSome = true := by
  unfold parsed
  cases parse text with
  | none => exact ⟨fun ⟨_, absurd⟩ => (by cases absurd), fun absurd => (by cases absurd)⟩
  | some x => exact ⟨fun _ => rfl, fun _ => ⟨x, rfl⟩⟩

lemma parsed_error {α : Type} {parse : String → Option α} {text : String} {e : MatchError}
    (raised : parsed parse text = .error e) : ¬ e.IsInvalid := by
  rintro ⟨detail, rfl⟩
  unfold parsed at raised
  cases found : parse text with
  | none =>
    rw [found] at raised
    cases raised
  | some x =>
    rw [found] at raised
    cases raised

lemma except_map_error {α β : Type} {x : Except MatchError α} {f : α → β} {e : MatchError} :
    x.map f = .error e ↔ x = .error e := by
  cases x with
  | error e' => exact ⟨fun same => congrArg _ (Except.error.inj same), fun same =>
      congrArg _ (Except.error.inj same)⟩
  | ok a => exact ⟨fun absurd => (by cases absurd), fun absurd => (by cases absurd)⟩

/-- A conversion returns or raises the exception for filters exactly if the texts can be
converted. -/
lemma convertTexts_spec (parsers : Parsers) (first : String) (rest : List String) (val : Val) :
    Convertible parsers (first :: rest) val ↔
      ∀ e, convertTexts parsers first rest val = .error e → e.IsInvalid := by
  have total : ∀ {α : Type} {x : Except MatchError α} {f : α → Values},
      (∀ e, x = .error e → ¬ e.IsInvalid) →
        ((∃ a, x = .ok a) ↔ ∀ e, x.map f = .error e → e.IsInvalid) := by
    intro α x f foreign
    cases x with
    | error e =>
      refine ⟨fun ⟨_, absurd⟩ => (by cases absurd), fun each => ?_⟩
      exact absurd (each e rfl) (foreign e rfl)
    | ok a => exact ⟨fun _ _ absurd => (by cases absurd), fun _ => ⟨a, rfl⟩⟩
  have list : ∀ {α : Type} {parse : String → Option α} {f : List α → Values},
      (∀ value ∈ first :: rest, (parse value).isSome = true) ↔
        ∀ e, ((first :: rest).mapM (parsed parse)).map f = .error e → e.IsInvalid := by
    intro α parse f
    rw [← total fun e raised => ?_, mapM_ok_total]
    · simp only [parsed_ok]
    · obtain ⟨_, _, raised⟩ := mapM_error raised
      exact parsed_error raised
  have same : Convertible parsers (first :: rest) .none ↔
      ∀ e, (Except.ok (Values.texts (first :: rest)) : Except MatchError Values) = .error e →
        e.IsInvalid := ⟨fun _ e absurd => (by cases absurd), fun _ => trivial⟩
  cases val with
  | scalar x =>
    cases x with
    | datetime d =>
      apply Iff.trans ?_ (total fun e raised => parsed_error raised)
      rw [parsed_ok]
      exact ⟨fun each => each first rfl, fun isSome first' same => Option.some.inj same ▸ isSome⟩
    | bool b =>
      refine ⟨fun _ e raised => ?_, fun _ => trivial⟩
      have raised := except_map_error.mp raised
      unfold boolText at raised
      by_cases isTrue : first = "true"
      · rw [if_pos isTrue] at raised
        cases raised
      · rw [if_neg isTrue] at raised
        by_cases isFalse : first = "false"
        · rw [if_pos isFalse] at raised
          cases raised
        · rw [if_neg isFalse] at raised
          exact ⟨_, (Except.error.inj raised).symm⟩
    | int n => exact list
    | float x => exact list
    | str s => exact same
  | none => exact same
  | list items => exact same
  | dict members => exact same
  | object fields => exact same

lemma toList_ne_nil_of_convert {parsers : Parsers} {first : String} {rest : List String} {val : Val}
    {values : Values} (converted : convertTexts parsers first rest val = .ok values) :
    values.toList ≠ [] := by
  have list : ∀ {α : Type} {parse : String → Option α} {xs : List α} {f : α → Scalar},
      (first :: rest).mapM (parsed parse) = .ok xs → xs.map f ≠ [] := by
    intro α parse xs f returned empty
    have length := mapM_ok_length returned
    rw [List.map_eq_nil_iff.mp empty] at length
    cases length
  cases val with
  | scalar x =>
    cases x with
    | datetime d =>
      obtain ⟨_, _, rfl⟩ := except_map_ok.mp converted
      exact List.cons_ne_nil _ _
    | bool b =>
      obtain ⟨_, _, rfl⟩ := except_map_ok.mp converted
      exact List.cons_ne_nil _ _
    | int n =>
      obtain ⟨_, returned, rfl⟩ := except_map_ok.mp converted
      exact list returned
    | float x =>
      obtain ⟨_, returned, rfl⟩ := except_map_ok.mp converted
      exact list returned
    | str s =>
      obtain rfl := Except.ok.inj converted
      exact List.cons_ne_nil _ _
  | _ =>
    obtain rfl := Except.ok.inj converted
    exact List.cons_ne_nil _ _

end Tacker.View
