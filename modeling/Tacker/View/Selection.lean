import Tacker.View.SelectedFields

/-!
# What a request selects

The parameters of a request select attributes and fields of a resource by their names: the base
attributes and the named ones, or all but the excluded ones. The filter of the selector that is made
of the parameters leaves exactly these, if the dictionary has the shape that the loops over the
fields count on.
-/

namespace Tacker.View

open Tacker.Basis Tacker.Fields

/-! ## The selection of a request -/

/-- The attributes of a resource that its view knows: `_ALL`, `_MANDATORY` and
`_EXCLUDE_DEFAULT`. -/
structure ViewAttrs where
  all : List String
  mandatory : List String
  excludeDefault : List String
  nodup : all.Nodup

/-- `__init__`, for the attributes of a view. -/
def ViewAttrs.selector (view : ViewAttrs) (params : SelectorParams) : Option Selector :=
  Selector.ofParams view.all view.mandatory view.excludeDefault params

/-- The attributes and fields that a parameter names. -/
def named (param : Option String) : List (List String) := (param.map klists).getD []

/-- The attributes that are selected without being named. -/
def ViewAttrs.base (view : ViewAttrs) (params : SelectorParams) : List String :=
  if params.allFields || params.excludeFields.isSome then view.all
  else if params.fields.isSome && !params.excludeDefault then view.mandatory
  else view.all.filter fun attr => attr ∉ view.excludeDefault

/-- The attribute is selected with everything that is below it. What the view does not know, such as
the links it adds, stays, unless it was read for the filters only. -/
def ViewAttrs.Whole (view : ViewAttrs) (params : SelectorParams) (attrs : List String)
    (attr : String) : Prop :=
  attr ∈ view.base params ∨ [attr] ∈ named params.fields ∨ attr ∉ view.all ∧ attr ∉ attrs

/-- What is at the path is selected: nothing at the path or above it is excluded, and it is in an
attribute that is selected whole, at a named field or below, or on the way to a named field that is
there. -/
def ViewAttrs.Selected (view : ViewAttrs) (params : SelectorParams) (attrs : List String)
    (odict : Json) (path : Path) : Prop :=
  (∀ klist ∈ named params.excludeFields, ¬ Json.keyPath klist <+: path) ∧
    ((∀ attr, path.head? = some (.key attr) → view.Whole params attrs attr) ∨
      ∃ klist ∈ named params.fields, Json.keyPath klist <+: path ∨
        path <+: Json.keyPath klist ∧ (odict.reach (Json.keyPath klist)).isSome = true)

/-- The filter does not raise, and leaves exactly what is selected, unchanged. -/
def Selector.Selects (sel : Selector) (selected : Path → Prop) (odict : Json) : Prop :=
  ∃ odict', sel.filter odict = some odict' ∧ ∀ path,
    (selected path → odict'.node? path = odict.node? path) ∧
      (¬ selected path → odict'.reach path = none)

/-- Two selectors with the same sets, in whatever order these are gone through. -/
structure Selector.SameAs (sel sel' : Selector) : Prop where
  returnAttrs : ∀ attr, attr ∈ sel.returnAttrs ↔ attr ∈ sel'.returnAttrs
  excludeFields : ∀ klist, klist ∈ sel.excludeFields ↔ klist ∈ sel'.excludeFields
  fields : ∀ klist, klist ∈ sel.fields ↔ klist ∈ sel'.fields
  extraAttrs : ∀ attr, attr ∈ sel.extraAttrs ↔ attr ∈ sel'.extraAttrs

/-- The dictionary, after the extra attributes are deleted, has the shape that the filter counts on:
the fields can be read, only attributes of the selector were loaded, no field is `None` unless it is
below another one, and where fields are named in an attribute that is selected whole they are all
that is there. -/
structure ViewAttrs.Fits (view : ViewAttrs) (params : SelectorParams) (attrs : List String)
    (sel : Selector) (odict : Json) : Prop where
  readable : sel.PathsReadable odict
  loaded : ∀ attr, (odict.get? attr).isSome = true → attr ∈ sel.returnAttrs ∨ attr ∉ view.all
  notNull : ∀ klist ∈ sel.excludeFields ++ sel.fields,
    (odict.reach (Json.keyPath klist)).isSome = true →
      ∃ klist' ∈ sel.excludeFields ++ sel.fields, klist' <+: klist ∧
        odict.NonNull (Json.keyPath klist')
  whole : ∀ klist ∈ sel.fields, view.Whole params attrs (klist.headD "") →
    ∀ path, path.head? = some (.key (klist.headD "")) → (odict.reach path).isSome = true →
      AtFields sel.fields odict path

/-! ## Selectors that were made -/

lemma splitOnAux_ne_nil (s sep : String) (b i j : String.Pos.Raw) (r : List String) :
    s.splitOnAux sep b i j r ≠ [] := by
  fun_induction String.splitOnAux s sep b i j r with
  | case1 b i j r _ r' =>
    intro same
    exact List.cons_ne_nil _ _ (List.reverse_eq_nil_iff.mp same)
  | case2 _ _ _ _ _ _ _ _ _ ih => exact ih
  | case3 _ _ _ _ _ _ _ _ _ ih => exact ih
  | case4 _ _ _ _ _ _ ih => exact ih

/-- A text is split into one part at least. -/
lemma splitOn_ne_nil (s sep : String) : s.splitOn sep ≠ [] := by
  unfold String.splitOn
  by_cases empty : (sep == "") = true
  · rw [if_pos empty]
    exact List.cons_ne_nil _ _
  · rw [if_neg empty]
    exact splitOnAux_ne_nil s sep 0 0 0 []

lemma ne_nil_of_named {param : Option String} {klist : List String} (mem : klist ∈ named param) :
    klist ≠ [] := by
  cases param with
  | none => cases mem
  | some text =>
    obtain ⟨field, _, rfl⟩ := List.mem_map.mp (mem : klist ∈ klists text)
    exact splitOn_ne_nil field "/"

lemma mem_nestedOf {text : String} {klist : List String} :
    klist ∈ nestedOf text ↔ klist ∈ named (some text) ∧ 2 ≤ klist.length := by
  rw [nestedOf, List.mem_filter, decide_eq_true_iff]
  exact Iff.rfl

/-- A field without a slash is an attribute. -/
lemma named_cases {param : Option String} {klist : List String} (mem : klist ∈ named param) :
    (∃ attr, klist = [attr]) ∨ 2 ≤ klist.length := by
  have nonempty := ne_nil_of_named mem
  match klist with
  | [attr] => exact .inl ⟨attr, rfl⟩
  | _ :: _ :: rest => exact .inr (Nat.le_add_left 2 rest.length)

lemma removeAttr_eq {attrs attrs' klist : List String}
    (removed : (match klist with
      | [attr] => if attr ∈ attrs then some (attrs.erase attr) else none
      | _ => some attrs) = some attrs') :
    (∃ attr, klist = [attr] ∧ attr ∈ attrs ∧ attrs' = attrs.erase attr) ∨
      (∀ attr, klist ≠ [attr]) ∧ attrs' = attrs := by
  match klist with
  | [] => exact .inr ⟨fun attr same => (by cases same), (Option.some.inj removed).symm⟩
  | [attr] =>
    obtain ⟨mem, same⟩ := Option.ite_none_right_eq_some.mp removed
    exact .inl ⟨attr, rfl, mem, (Option.some.inj same).symm⟩
  | _ :: _ :: _ => exact .inr ⟨fun attr same => (by cases same), (Option.some.inj removed).symm⟩

/-- The attributes that stay are those that are not named, and only known ones are named. -/
lemma removeAttrs_spec {allAttrs attrs : List String} {text : String} (nodup : allAttrs.Nodup)
    (removed : removeAttrs allAttrs text = some attrs) :
    (∀ attr, attr ∈ attrs ↔ attr ∈ allAttrs ∧ [attr] ∉ klists text) ∧
      ∀ attr, [attr] ∈ klists text → attr ∈ allAttrs := by
  unfold removeAttrs at removed
  generalize klists text = fields at removed ⊢
  induction fields generalizing allAttrs with
  | nil =>
    obtain rfl := Option.some.inj removed
    exact ⟨fun attr => ⟨fun mem => ⟨mem, List.not_mem_nil⟩, And.left⟩,
      fun attr mem => absurd mem List.not_mem_nil⟩
  | cons klist fields ih =>
    obtain ⟨left, first, rest⟩ := Option.bind_eq_some_iff.mp removed
    rcases removeAttr_eq first with ⟨attr', rfl, known, rfl⟩ | ⟨other, rfl⟩
    · obtain ⟨stay, names⟩ := ih (nodup.erase attr') rest
      constructor
      · intro attr
        rw [stay, nodup.mem_erase_iff, List.mem_cons, List.singleton_inj]
        tauto
      · intro attr mem
        rcases List.mem_cons.mp mem with same | mem
        · rw [List.singleton_inj.mp same]
          exact known
        · exact List.mem_of_mem_erase (names attr mem)
    · obtain ⟨stay, names⟩ := ih nodup rest
      have skip : ∀ attr, [attr] ∈ klist :: fields ↔ [attr] ∈ fields := by
        intro attr
        rw [List.mem_cons, or_iff_right fun same => other attr same.symm]
      simp only [skip]
      exact ⟨stay, names⟩

/-- What a selector has that was made of parameters, and got attributes to read for the filters. -/
structure ViewAttrs.Made (view : ViewAttrs) (params : SelectorParams) (attrs : List String)
    (sel : Selector) : Prop where
  oneParam : named params.excludeFields = [] ∨ named params.fields = []
  returnAttrs : ∀ attr, attr ∈ sel.returnAttrs ↔
    attr ∈ view.base params ∧ [attr] ∉ named params.excludeFields ∨
      ∃ klist ∈ named params.fields, klist.head? = some attr
  excludeFields : ∀ klist, klist ∈ sel.excludeFields ↔
    klist ∈ named params.excludeFields ∧ 2 ≤ klist.length
  fields : ∀ klist, klist ∈ sel.fields ↔ klist ∈ named params.fields ∧ 2 ≤ klist.length
  extraAttrs : ∀ attr, attr ∈ sel.extraAttrs ↔ attr ∈ attrs ∧ attr ∉ sel.returnAttrs
  known : ∀ attr, [attr] ∈ named params.excludeFields → attr ∈ view.all

variable {view : ViewAttrs} {params : SelectorParams} {attrs : List String} {made sel : Selector}
  {odict : Json}

lemma no_fields {klist : List String} {p : Prop} : klist ∈ ([] : List (List String)) ↔
    klist ∈ named none ∧ p :=
  ⟨fun mem => absurd mem List.not_mem_nil, fun both => absurd both.1 List.not_mem_nil⟩

lemma mem_base_and {attr : String} {known : List String} : attr ∈ known ↔
    attr ∈ known ∧ [attr] ∉ named none ∨ ∃ klist ∈ named none, klist.head? = some attr := by
  constructor
  · exact fun mem => .inl ⟨mem, List.not_mem_nil⟩
  · rintro (⟨mem, _⟩ | ⟨_, mem, _⟩)
    · exact mem
    · exact absurd mem List.not_mem_nil

/-- What `__init__` makes. -/
lemma ViewAttrs.made_selector (accepted : view.selector params = some made) :
    view.Made params [] made := by
  obtain ⟨allFields, fields, excludeFields, excludeDefault⟩ := params
  have accepted : (if allFields then _ else _) = some made := accepted
  cases allFields with
  | true =>
    have accepted : (if fields.isSome || excludeFields.isSome || excludeDefault then none
      else some (Selector.ofAttrs view.all)) = some made := accepted
    obtain ⟨unset, same⟩ := Option.ite_none_left_eq_some.mp accepted
    obtain rfl := Option.some.inj same
    obtain ⟨⟨rfl, rfl⟩, _⟩ : (fields = none ∧ excludeFields = none) ∧ excludeDefault = false := by
      simpa using unset
    exact {
      oneParam := .inl rfl
      returnAttrs := fun _ => mem_base_and
      excludeFields := fun _ => no_fields
      fields := fun _ => no_fields
      extraAttrs := fun _ => ⟨fun mem => absurd mem List.not_mem_nil,
        fun both => absurd both.1 List.not_mem_nil⟩
      known := fun _ mem => absurd mem List.not_mem_nil }
  | false =>
    cases fields with
    | some fields =>
      cases excludeFields with
      | some _ => cases accepted
      | none =>
        obtain rfl := Option.some.inj accepted
        refine {
          oneParam := .inl rfl
          returnAttrs := fun attr => ?_
          excludeFields := fun _ => no_fields
          fields := fun _ => mem_nestedOf
          extraAttrs := fun _ => ⟨fun mem => absurd mem List.not_mem_nil,
            fun both => absurd both.1 List.not_mem_nil⟩
          known := fun _ mem => absurd mem List.not_mem_nil }
        have base : (if excludeDefault then view.all.filter fun attr => attr ∉ view.excludeDefault
            else view.mandatory) = view.base ⟨false, some fields, none, excludeDefault⟩ := by
          cases excludeDefault with
          | true => rfl
          | false => rfl
        apply List.mem_append.trans
        rw [base, List.mem_filterMap]
        constructor
        · rintro (mem | named)
          · exact .inl ⟨mem, List.not_mem_nil⟩
          · exact .inr named
        · rintro (⟨mem, _⟩ | named)
          · exact .inl mem
          · exact .inr named
    | none =>
      cases excludeFields with
      | none =>
        obtain rfl := Option.some.inj accepted
        exact {
          oneParam := .inl rfl
          returnAttrs := fun _ => mem_base_and
          excludeFields := fun _ => no_fields
          fields := fun _ => no_fields
          extraAttrs := fun _ => ⟨fun mem => absurd mem List.not_mem_nil,
            fun both => absurd both.1 List.not_mem_nil⟩
          known := fun _ mem => absurd mem List.not_mem_nil }
      | some excludeFields =>
        have accepted : (if excludeDefault then none else (removeAttrs view.all excludeFields).map
          fun attrs => Selector.ofExcludeFields attrs excludeFields) = some made := accepted
        obtain ⟨_, mapped⟩ := Option.ite_none_left_eq_some.mp accepted
        obtain ⟨attrs, removed, rfl⟩ := Option.map_eq_some_iff.mp mapped
        obtain ⟨stay, known⟩ := removeAttrs_spec view.nodup removed
        refine {
          oneParam := .inr rfl
          returnAttrs := fun attr => (stay attr).trans ⟨.inl, ?_⟩
          excludeFields := fun _ => mem_nestedOf
          fields := fun _ => no_fields
          extraAttrs := fun _ => ⟨fun mem => absurd mem List.not_mem_nil,
            fun both => absurd both.1 List.not_mem_nil⟩
          known := known }
        rintro (both | ⟨_, mem, _⟩)
        · exact both
        · exact absurd mem List.not_mem_nil

/-- The attributes of the filters are added. -/
lemma ViewAttrs.Made.addExtraAttrs (isMade : view.Made params [] made) (attrs : List String) :
    view.Made params attrs (made.addExtraAttrs attrs) where
  oneParam := isMade.oneParam
  returnAttrs := isMade.returnAttrs
  excludeFields := isMade.excludeFields
  fields := isMade.fields
  extraAttrs attr := by
    have before : attr ∉ made.extraAttrs := fun mem =>
      List.not_mem_nil ((isMade.extraAttrs attr).mp mem).1
    apply List.mem_append.trans
    rw [or_iff_right before, List.mem_filter, decide_eq_true_iff]
    exact Iff.rfl
  known := isMade.known

/-- The order of the sets does not matter. -/
lemma ViewAttrs.Made.sameAs (isMade : view.Made params attrs made) (same : sel.SameAs made) :
    view.Made params attrs sel where
  oneParam := isMade.oneParam
  returnAttrs attr := (same.returnAttrs attr).trans (isMade.returnAttrs attr)
  excludeFields klist := (same.excludeFields klist).trans (isMade.excludeFields klist)
  fields klist := (same.fields klist).trans (isMade.fields klist)
  extraAttrs attr := by
    rw [same.extraAttrs, isMade.extraAttrs, same.returnAttrs]
  known := isMade.known

end Tacker.View
