import Tacker.View.Selection

/-!
# Exactly what was selected

What is left by the filter of a selector is what the request selects, for the dictionaries that fit
the selector and for no others.
-/

namespace Tacker.View

open Tacker.Basis Tacker.Fields

/-! ## Paths that are there -/

lemma reach_dropExtra (attrs : List String) (odict : Json) (key : String) (path : Path) :
    (dropExtra attrs odict).reach (.key key :: path) =
      if key ∈ attrs then none else odict.reach (.key key :: path) := by
  rw [reach_key, get?_dropExtra, reach_key]
  by_cases mem : key ∈ attrs
  · rw [if_pos mem, if_pos mem]
    rfl
  · rw [if_neg mem, if_neg mem]

/-- What is at the front of a path that is there is there. -/
lemma reach_isSome_above {t : Json} {front path : Path} (isFront : front <+: path)
    (there : (t.reach path).isSome = true) : (t.reach front).isSome = true := by
  obtain ⟨rest, rfl⟩ := isFront
  rw [Json.reach_append] at there
  cases reached : t.reach front with
  | none =>
    rw [reached] at there
    cases there
  | some v => rfl

lemma isSome_of_reach_key {t : Json} {key : String} {path : Path}
    (there : (t.reach (.key key :: path)).isSome = true) : (t.get? key).isSome = true := by
  rw [reach_key] at there
  exact Option.isSome_of_isSome_bind there

/-- Something is below the path of a field, so that a dictionary is there. -/
lemma nonNull_above {t : Json} {front klist : List String} (isFront : front <+: klist)
    (notNull : t.NonNull (Json.keyPath klist)) : t.NonNull (Json.keyPath front) := by
  by_cases same : front = klist
  · rw [same]
    exact notNull
  · obtain ⟨v, reached, _⟩ := notNull
    obtain ⟨u, above⟩ := Option.isSome_iff_exists.mp
      (reach_isSome_above (keyPath_below.mpr isFront) (by rw [reached]; rfl))
    have isDict := Json.dictsAbove_of_reach reached front isFront same u above
    refine ⟨u, above, ?_⟩
    cases u with
    | obj keys unique value => rfl
    | _ => cases isDict

/-- A path of the dictionary starts with a key. -/
lemma key_of_reach {t : Json} (dict : t.isDict = true) {step : Json.Step String} {path : Path}
    (there : (t.reach (step :: path)).isSome = true) : ∃ attr, step = .key attr := by
  cases step with
  | key attr => exact ⟨attr, rfl⟩
  | index i =>
    rw [reach_index dict] at there
    cases there

lemma keyPath_single_above {attr : String} {path : Path} :
    Json.keyPath [attr] <+: path ↔ path.head? = some (.key attr) := by
  constructor
  · rintro ⟨rest, rfl⟩
    rfl
  · intro isHead
    cases path with
    | nil => cases isHead
    | cons step path =>
      obtain rfl := Option.some.inj isHead
      exact ⟨path, rfl⟩

/-- A path in an attribute at or above a field of it. -/
lemma head_of_above {klist : List String} {attr : String} {path : Path}
    (isFront : .key attr :: path <+: Json.keyPath klist) : klist.head? = some attr := by
  cases klist with
  | nil => cases List.prefix_nil.mp isFront
  | cons key rest =>
    obtain ⟨same, _⟩ := List.cons_prefix_cons.mp isFront
    rw [Json.Step.key.inj same]
    rfl

lemma head_of_below {klist : List String} {attr : String} {path : Path} (nonempty : klist ≠ [])
    (isFront : Json.keyPath klist <+: .key attr :: path) : klist.head? = some attr := by
  cases klist with
  | nil => exact absurd rfl nonempty
  | cons key rest =>
    obtain ⟨same, _⟩ := List.cons_prefix_cons.mp isFront
    rw [← Json.Step.key.inj same]
    rfl

lemma headD_of_head? {klist : List String} {attr : String} (isHead : klist.head? = some attr) :
    klist.headD "" = attr := by
  cases klist with
  | nil => cases isHead
  | cons key rest => exact Option.some.inj isHead

/-! ## What is left of a path -/

variable {view : ViewAttrs} {params : SelectorParams} {attrs : List String} {sel : Selector}
  {odict : Json}

/-- What is there after the extra attributes are deleted was there before. -/
lemma node?_dropExtra (dict : odict.isDict = true) {path : Path}
    (there : ((dropExtra attrs odict).reach path).isSome = true) :
    (dropExtra attrs odict).node? path = odict.node? path := by
  cases path with
  | nil =>
    show some _ = some _
    rw [Json.node_eq_dict.mpr dict, Json.node_eq_dict.mpr (isDict_dropExtra dict)]
  | cons step path =>
    obtain ⟨attr, rfl⟩ := key_of_reach (isDict_dropExtra dict) there
    rw [reach_dropExtra] at there
    rw [Json.node?, reach_dropExtra, Json.node?]
    by_cases mem : attr ∈ attrs
    · rw [if_pos mem] at there
      cases there
    · rw [if_neg mem]

lemma node?_isSome {t : Json} {path : Path} :
    (t.node? path).isSome = true ↔ (t.reach path).isSome = true := by
  rw [Json.node?, Option.isSome_map]

/-- The path is there for the filter and returned by it. -/
def Selector.Keeps (sel : Selector) (odict : Json) (path : Path) : Prop :=
  ((dropExtra sel.extraAttrs odict).reach path).isSome = true ∧
    sel.Returned (dropExtra sel.extraAttrs odict) path

lemma Selector.Keeps.there (dict : odict.isDict = true) {path : Path}
    (keeps : sel.Keeps odict path) : (odict.reach path).isSome = true := by
  rw [← node?_isSome, ← node?_dropExtra dict keeps.1, node?_isSome]
  exact keeps.1

/-- What the filter keeps is unchanged, and nothing else is left. -/
lemma filter_keeps (dict : odict.isDict = true) {odict' : Json}
    (made : sel.filter odict = some odict') (path : Path) :
    (sel.Keeps odict path → odict'.node? path = odict.node? path) ∧
      (¬ sel.Keeps odict path → odict'.reach path = none) := by
  have left := (filter_spec sel (isDict_dropExtra dict)).2 odict' made
  constructor
  · rintro ⟨there, returned⟩
    rw [left.same path returned, node?_dropExtra dict there]
  · intro notKept
    by_cases returned : sel.Returned (dropExtra sel.extraAttrs odict) path
    · apply Json.node?_eq_none.mp
      rw [left.same path returned]
      apply Json.node?_eq_none.mpr
      exact Option.not_isSome_iff_eq_none.mp fun there => notKept ⟨there, returned⟩
    · exact left.gone path returned

/-- The filter leaves what is selected exactly if the fields can be read and it keeps what is
selected, of the paths that are there. -/
lemma selects_iff {selected : Path → Prop} (dict : odict.isDict = true) :
    sel.Selects selected odict ↔ sel.PathsReadable (dropExtra sel.extraAttrs odict) ∧
      ∀ path, (odict.reach path).isSome = true → (sel.Keeps odict path ↔ selected path) := by
  have dict' : (dropExtra sel.extraAttrs odict).isDict = true := isDict_dropExtra dict
  have reads := (filter_spec sel dict').1
  constructor
  · rintro ⟨odict', made, exact'⟩
    refine ⟨reads.mp (by rw [made]; rfl), fun path there => ?_⟩
    obtain ⟨same, gone⟩ := filter_keeps dict made path
    rw [← node?_isSome] at there
    constructor
    · intro keeps
      by_contra notSelected
      rw [← same keeps, node?_isSome, (exact' path).2 notSelected] at there
      cases there
    · intro isSelected
      by_contra notKept
      rw [← (exact' path).1 isSelected, node?_isSome, gone notKept] at there
      cases there
  · rintro ⟨readable, exact'⟩
    obtain ⟨odict', made⟩ := Option.isSome_iff_exists.mp (reads.mpr readable)
    refine ⟨odict', made, fun path => ?_⟩
    obtain ⟨same, gone⟩ := filter_keeps dict made path
    constructor
    · intro isSelected
      by_cases there : (odict.reach path).isSome = true
      · exact same ((exact' path there).mpr isSelected)
      · rw [Json.node?_eq_none.mpr (gone fun keeps => there (keeps.there dict))]
        exact (Json.node?_eq_none.mpr (Option.not_isSome_iff_eq_none.mp there)).symm
    · intro notSelected
      exact gone fun keeps => notSelected ((exact' path (keeps.there dict)).mp keeps)

/-! ## The selection and the filter -/

lemma mem_exclude_or_fields {klist : List String} (isMade : view.Made params attrs sel) :
    klist ∈ sel.excludeFields ++ sel.fields ↔
      (klist ∈ named params.excludeFields ∨ klist ∈ named params.fields) ∧ 2 ≤ klist.length := by
  rw [List.mem_append, isMade.excludeFields, isMade.fields, or_and_right]

/-- An attribute that the selector was made for is there for the filter if it was loaded. -/
lemma ViewAttrs.Made.whole_or_named (isMade : view.Made params attrs sel) {attr : String}
    (kept : attr ∉ sel.extraAttrs) (loaded : attr ∈ sel.returnAttrs ∨ attr ∉ view.all) :
    [attr] ∉ named params.excludeFields ∧
      (view.Whole params attrs attr ∨ ∃ klist ∈ sel.fields, klist.head? = some attr) := by
  have fromReturn : attr ∈ sel.returnAttrs → [attr] ∉ named params.excludeFields ∧
      (view.Whole params attrs attr ∨ ∃ klist ∈ sel.fields, klist.head? = some attr) := by
    intro mem
    rcases (isMade.returnAttrs attr).mp mem with ⟨isBase, stays⟩ | ⟨klist, isNamed, isHead⟩
    · exact ⟨stays, .inl (.inl isBase)⟩
    · constructor
      · intro excluded
        rcases isMade.oneParam with none | none
        · rw [none] at excluded
          exact List.not_mem_nil excluded
        · rw [none] at isNamed
          exact List.not_mem_nil isNamed
      · rcases named_cases isNamed with ⟨attr', rfl⟩ | nested
        · obtain rfl := Option.some.inj isHead
          exact .inl (.inr (.inl isNamed))
        · exact .inr ⟨klist, (isMade.fields klist).mpr ⟨isNamed, nested⟩, isHead⟩
  rcases loaded with mem | unknown
  · exact fromReturn mem
  · by_cases mem : attr ∈ attrs
    · apply fromReturn
      by_contra notReturn
      exact kept ((isMade.extraAttrs attr).mpr ⟨mem, notReturn⟩)
    · exact ⟨fun excluded => unknown (isMade.known attr excluded), .inl (.inr (.inr ⟨unknown, mem⟩))⟩

/-- A selected attribute is returned, if the view knows it or a filter reads it. -/
lemma ViewAttrs.Made.returned_of_selected (isMade : view.Made params attrs sel) {attr : String}
    (known : attr ∈ view.all ∨ attr ∈ attrs) (selected : view.Selected params attrs odict [.key attr]) :
    attr ∈ sel.returnAttrs := by
  obtain ⟨stays, whole | ⟨klist, isNamed, below⟩⟩ := selected
  · rcases whole attr rfl with isBase | isNamed | ⟨unknown, unread⟩
    · refine (isMade.returnAttrs attr).mpr (.inl ⟨isBase, fun excluded => ?_⟩)
      exact stays [attr] excluded (List.prefix_refl _)
    · exact (isMade.returnAttrs attr).mpr (.inr ⟨[attr], isNamed, rfl⟩)
    · exact absurd known (not_or.mpr ⟨unknown, unread⟩)
  · refine (isMade.returnAttrs attr).mpr (.inr ⟨klist, isNamed, ?_⟩)
    rcases below with isFront | ⟨isFront, _⟩
    · exact head_of_below (ne_nil_of_named isNamed) isFront
    · exact head_of_above isFront

/-- The attribute of a path that is selected and there is selected. -/
lemma ViewAttrs.Selected.head {attr : String} {path : Path}
    (selected : view.Selected params attrs odict (.key attr :: path))
    (there : (odict.reach (.key attr :: path)).isSome = true) :
    view.Selected params attrs odict [.key attr] := by
  obtain ⟨stays, either⟩ := selected
  have isFront : [.key attr] <+: Json.Step.key attr :: path := ⟨path, rfl⟩
  refine ⟨fun klist excluded isFront' => stays klist excluded (isFront'.trans isFront), ?_⟩
  rcases either with whole | ⟨klist, isNamed, below | ⟨above, present⟩⟩
  · exact .inl whole
  · obtain ⟨rest, same⟩ : ∃ rest, klist = attr :: rest := by
      have isHead := head_of_below (ne_nil_of_named isNamed) below
      exact List.head?_eq_some_iff.mp isHead
    refine .inr ⟨klist, isNamed, .inr ⟨?_, reach_isSome_above below there⟩⟩
    rw [same]
    exact ⟨Json.keyPath rest, rfl⟩
  · exact .inr ⟨klist, isNamed, .inr ⟨isFront.trans above, present⟩⟩

lemma not_extra_of_there {attr : String} {path : Path}
    (there : ((dropExtra attrs odict).reach (.key attr :: path)).isSome = true) :
    attr ∉ attrs := by
  intro mem
  rw [reach_dropExtra, if_pos mem] at there
  cases there

/-- A field that is there, in an attribute of which it is named, is at a field that is kept. -/
lemma atFields_of_notNull {fields : List (List String)} {t : Json} {path : Path}
    {klist klist' : List String} (mem' : klist' ∈ fields) (isFront : klist' <+: klist)
    (notNull : t.NonNull (Json.keyPath klist'))
    (near : Json.keyPath klist <+: path ∨ path <+: Json.keyPath klist) : AtFields fields t path := by
  have isFront' := keyPath_below.mpr isFront
  rcases near with below | above
  · exact ⟨klist', mem', notNull, .inl (isFront'.trans below)⟩
  · exact ⟨klist', mem', notNull, List.prefix_or_prefix_of_prefix isFront' above⟩

section fit

variable (isMade : view.Made params attrs sel) (dict : odict.isDict = true)
include isMade dict

/-- With a dictionary that fits, what is kept is selected. -/
lemma ViewAttrs.Fits.selected
    (fits : view.Fits params attrs sel (dropExtra sel.extraAttrs odict)) {path : Path}
    (keeps : sel.Keeps odict path) : view.Selected params attrs odict path := by
  obtain ⟨there, returned⟩ := keeps
  cases path with
  | nil =>
    refine ⟨fun klist excluded isFront => ?_, .inl fun attr isHead => (by cases isHead)⟩
    exact ne_nil_of_named excluded (List.map_eq_nil_iff.mp (List.prefix_nil.mp isFront))
  | cons step path =>
    obtain ⟨attr, rfl⟩ := key_of_reach (isDict_dropExtra dict) there
    have kept := not_extra_of_there there
    have loaded : attr ∈ sel.returnAttrs ∨ attr ∉ view.all := by
      apply fits.loaded attr
      exact isSome_of_reach_key there
    obtain ⟨stays, either⟩ := isMade.whole_or_named kept loaded
    constructor
    · intro klist excluded isFront
      rcases named_cases excluded with ⟨attr', rfl⟩ | nested
      · obtain rfl := Json.Step.key.inj (Option.some.inj (keyPath_single_above.mp isFront))
        exact stays excluded
      · obtain ⟨klist', mem', isFront', notNull⟩ := fits.notNull klist
          ((mem_exclude_or_fields isMade).mpr ⟨.inl excluded, nested⟩)
          (reach_isSome_above isFront there)
        have excluded' : klist' ∈ sel.excludeFields := by
          rcases List.mem_append.mp mem' with mem' | mem'
          · exact mem'
          · rcases isMade.oneParam with none | none
            · rw [none] at excluded
              cases excluded
            · have isNamed := ((isMade.fields klist').mp mem').1
              rw [none] at isNamed
              cases isNamed
        exact returned.1 klist' excluded' ((keyPath_below.mpr isFront').trans isFront) notNull
    · rcases either with whole | ⟨klist, mem, isHead⟩
      · refine .inl fun attr' isHead => ?_
        obtain rfl := Json.Step.key.inj (Option.some.inj isHead)
        exact whole
      · have inHeads : InHeads sel.fields (.key attr :: path) := by
          refine ⟨klist, mem, ?_⟩
          rw [headD_of_head? isHead]
          rfl
        obtain ⟨klist', mem', ⟨v, reached, _⟩, near⟩ := returned.2 inHeads
        refine .inr ⟨klist', ((isMade.fields klist').mp mem').1, near.imp_right fun above => ?_⟩
        refine ⟨above, ?_⟩
        rw [← node?_isSome, ← node?_dropExtra dict (by rw [reached]; rfl), node?_isSome, reached]
        rfl

/-- With a dictionary that fits, what is selected and there is kept. -/
lemma ViewAttrs.Fits.keeps
    (fits : view.Fits params attrs sel (dropExtra sel.extraAttrs odict)) {path : Path}
    (there : (odict.reach path).isSome = true)
    (selected : view.Selected params attrs odict path) : sel.Keeps odict path := by
  have excludes : ∀ klist ∈ sel.excludeFields, ¬ Json.keyPath klist <+: path := fun klist mem =>
    selected.1 klist ((isMade.excludeFields klist).mp mem).1
  cases path with
  | nil =>
    refine ⟨rfl, fun klist mem isFront => absurd isFront (excludes klist mem), ?_⟩
    rintro ⟨_, _, absurd⟩
    cases absurd
  | cons step path =>
    obtain ⟨attr, rfl⟩ := key_of_reach dict there
    have kept : attr ∉ sel.extraAttrs := by
      intro mem
      obtain ⟨isRead, notReturn⟩ := (isMade.extraAttrs attr).mp mem
      exact notReturn (isMade.returned_of_selected (.inr isRead) (selected.head there))
    have same : (dropExtra sel.extraAttrs odict).reach (.key attr :: path) =
        odict.reach (.key attr :: path) := (reach_dropExtra ..).trans (if_neg kept)
    have there' : ((dropExtra sel.extraAttrs odict).reach (.key attr :: path)).isSome = true := by
      rw [same]
      exact there
    refine ⟨there', fun klist mem isFront => absurd isFront (excludes klist mem), ?_⟩
    rintro ⟨klist, mem, isHead⟩
    by_cases whole : view.Whole params attrs attr
    · have head : klist.headD "" = attr := (Json.Step.key.inj (Option.some.inj isHead)).symm
      exact fits.whole klist mem (head ▸ whole) _ isHead there'
    · rcases selected.2 with isWhole | ⟨klist', isNamed, near⟩
      · exact absurd (isWhole attr rfl) whole
      · have nested : 2 ≤ klist'.length := by
          rcases named_cases isNamed with ⟨attr', rfl⟩ | nested
          · have isHead' : [attr'].head? = some attr := by
              rcases near with below | ⟨above, _⟩
              · exact head_of_below (ne_nil_of_named isNamed) below
              · exact head_of_above above
            rw [Option.some.inj isHead'] at isNamed
            exact absurd (.inr (.inl isNamed)) whole
          · exact nested
        have present : ((dropExtra sel.extraAttrs odict).reach (Json.keyPath klist')).isSome =
            true := by
          rcases near with below | ⟨above, present⟩
          · exact reach_isSome_above below there'
          · obtain ⟨rest, same'⟩ := List.head?_eq_some_iff.mp (head_of_above above)
            rw [same', Json.keyPath_cons] at present ⊢
            rw [reach_dropExtra, if_neg kept]
            exact present
        obtain ⟨klist'', mem'', isFront, notNull⟩ := fits.notNull klist'
          ((mem_exclude_or_fields isMade).mpr ⟨.inr isNamed, nested⟩) present
        have mem'' : klist'' ∈ sel.fields := by
          rcases List.mem_append.mp mem'' with excluded | mem''
          · rcases isMade.oneParam with none | none
            · have excluded := ((isMade.excludeFields klist'').mp excluded).1
              rw [none] at excluded
              cases excluded
            · rw [none] at isNamed
              cases isNamed
          · exact mem''
        exact atFields_of_notNull mem'' isFront notNull (near.imp_right And.left)

/-- If exactly what is selected is kept, only attributes of the selector are there. -/
lemma loaded_of_exact
    (exact' : ∀ path, (odict.reach path).isSome = true →
      (sel.Keeps odict path ↔ view.Selected params attrs odict path)) (attr : String)
    (there : ((dropExtra sel.extraAttrs odict).get? attr).isSome = true) :
    attr ∈ sel.returnAttrs ∨ attr ∉ view.all := by
  by_contra neither
  obtain ⟨notReturn, known⟩ := not_or.mp neither
  have known := Classical.not_not.mp known
  have reached : ((dropExtra sel.extraAttrs odict).reach [.key attr]).isSome = true := by
    obtain ⟨v, found⟩ := Option.isSome_iff_exists.mp there
    rw [reach_key, found]
    rfl
  have keeps : sel.Keeps odict [.key attr] := by
    refine ⟨reached, fun klist mem isFront => ?_, ?_⟩
    · have nested := ((isMade.excludeFields klist).mp mem).2
      have short := isFront.length_le
      rw [Json.keyPath, List.length_map, List.length_singleton] at short
      omega
    · rintro ⟨klist, mem, isHead⟩
      obtain ⟨isNamed, nested⟩ := (isMade.fields klist).mp mem
      have head : klist.headD "" = attr := (Json.Step.key.inj (Option.some.inj isHead)).symm
      obtain ⟨rest, same, _⟩ := keyPath_nested nested
      refine absurd ((isMade.returnAttrs attr).mpr (.inr ⟨klist, isNamed, ?_⟩)) notReturn
      rw [same, head]
      rfl
  have selected := (exact' [.key attr] (keeps.there dict)).mp keeps
  exact notReturn (isMade.returned_of_selected (.inl known) selected)

lemma notNull_of_exact
    (exact' : ∀ path, (odict.reach path).isSome = true →
      (sel.Keeps odict path ↔ view.Selected params attrs odict path))
    {klist : List String} (mem : klist ∈ sel.excludeFields ++ sel.fields)
    (there : ((dropExtra sel.extraAttrs odict).reach (Json.keyPath klist)).isSome = true) :
    ∃ klist' ∈ sel.excludeFields ++ sel.fields, klist' <+: klist ∧
      (dropExtra sel.extraAttrs odict).NonNull (Json.keyPath klist') := by
  have present : (odict.reach (Json.keyPath klist)).isSome = true := by
    rw [← node?_isSome, ← node?_dropExtra dict there, node?_isSome]
    exact there
  have decides := exact' (Json.keyPath klist) present
  rcases List.mem_append.mp mem with excluded | isField
  · -- An excluded field is not kept, so that one of the excluded fields above it is deleted.
    have isNamed := ((isMade.excludeFields klist).mp excluded).1
    have notKept : ¬ sel.Keeps odict (Json.keyPath klist) := fun keeps =>
      (decides.mp keeps).1 klist isNamed (List.prefix_refl _)
    have noFields : ¬ InHeads sel.fields (Json.keyPath klist) := by
      rintro ⟨klist', mem', _⟩
      have isNamed' := ((isMade.fields klist').mp mem').1
      rcases isMade.oneParam with none | none
      · rw [none] at isNamed
        cases isNamed
      · rw [none] at isNamed'
        cases isNamed'
    by_contra noneAbove
    refine notKept ⟨there, fun klist' mem' isFront notNull => ?_, fun inHeads =>
      absurd inHeads noFields⟩
    exact noneAbove ⟨klist', List.mem_append_left _ mem', keyPath_below.mp isFront, notNull⟩
  · obtain ⟨isNamed, nested⟩ := (isMade.fields klist).mp isField
    have selected : view.Selected params attrs odict (Json.keyPath klist) := by
      refine ⟨fun klist' excluded => ?_, .inr ⟨klist, isNamed, .inl (List.prefix_refl _)⟩⟩
      rcases isMade.oneParam with none | none
      · rw [none] at excluded
        cases excluded
      · rw [none] at isNamed
        cases isNamed
    obtain ⟨_, _, returned⟩ := decides.mpr selected
    obtain ⟨rest, same, _⟩ := keyPath_nested nested
    have inHeads : InHeads sel.fields (Json.keyPath klist) := by
      refine ⟨klist, isField, ?_⟩
      rw [same]
      rfl
    obtain ⟨klist', mem', notNull, below | above⟩ := returned inHeads
    · exact ⟨klist', List.mem_append_right _ mem', keyPath_below.mp below, notNull⟩
    · exact ⟨klist, mem, List.prefix_refl _, nonNull_above (keyPath_below.mp above) notNull⟩

lemma whole_of_exact
    (exact' : ∀ path, (odict.reach path).isSome = true →
      (sel.Keeps odict path ↔ view.Selected params attrs odict path))
    {klist : List String} (mem : klist ∈ sel.fields)
    (whole : view.Whole params attrs (klist.headD "")) (path : Path)
    (isHead : path.head? = some (.key (klist.headD "")))
    (there : ((dropExtra sel.extraAttrs odict).reach path).isSome = true) :
    AtFields sel.fields (dropExtra sel.extraAttrs odict) path := by
  have present : (odict.reach path).isSome = true := by
    rw [← node?_isSome, ← node?_dropExtra dict there, node?_isSome]
    exact there
  have isNamed := ((isMade.fields klist).mp mem).1
  have selected : view.Selected params attrs odict path := by
    refine ⟨fun klist' excluded => ?_, .inl fun attr isHead' => ?_⟩
    · rcases isMade.oneParam with none | none
      · rw [none] at excluded
        cases excluded
      · rw [none] at isNamed
        cases isNamed
    · rw [isHead] at isHead'
      rw [← Json.Step.key.inj (Option.some.inj isHead')]
      exact whole
  exact ((exact' path present).mpr selected).2.2 ⟨klist, mem, isHead⟩

end fit

/-- For every request that is accepted and every dictionary, the filter does not raise and leaves
exactly what is selected, unchanged, if and only if the dictionary fits the selector. -/
theorem filter_selects_iff (view : ViewAttrs) {params : SelectorParams} (attrs : List String)
    {made sel : Selector} (accepted : view.selector params = some made)
    (same : sel.SameAs (made.addExtraAttrs attrs)) {odict : Json} (dict : odict.isDict = true) :
    sel.Selects (view.Selected params attrs odict) odict ↔
      view.Fits params attrs sel (dropExtra sel.extraAttrs odict) := by
  have isMade : view.Made params attrs sel :=
    ((ViewAttrs.made_selector accepted).addExtraAttrs attrs).sameAs same
  rw [selects_iff dict]
  constructor
  · rintro ⟨readable, exact'⟩
    exact {
      readable := readable
      loaded := loaded_of_exact isMade dict exact'
      notNull := fun klist mem there => notNull_of_exact isMade dict exact' mem there
      whole := fun klist mem => whole_of_exact isMade dict exact' mem }
  · intro fits
    exact ⟨fits.readable, fun path there =>
      ⟨fits.selected isMade dict, fits.keeps isMade dict there⟩⟩

/-! ## Attributes that are not there -/

/-- A resource with an identifier and a dictionary `a`. -/
def twoAttrs : ViewAttrs where
  all := ["id", "a"]
  mandatory := ["id"]
  excludeDefault := ["a"]
  nodup := by decide

/-- `fields=a/b`. -/
def oneField : SelectorParams where
  allFields := false
  fields := some "a/b"
  excludeFields := none
  excludeDefault := false

lemma klists_oneField : klists "a/b" = [["a", "b"]] := by
  have noComma : "a/b".splitOn "," = ["a/b"] := by
    unfold String.splitOn
    rw [if_neg (by decide), String.splitOnAux, if_neg (by decide), if_neg (by decide),
      String.splitOnAux, if_neg (by decide), if_neg (by decide),
      String.splitOnAux, if_neg (by decide), if_neg (by decide),
      String.splitOnAux, if_pos (by decide)]
    decide
  have slash : "a/b".splitOn "/" = ["a", "b"] := by
    unfold String.splitOn
    rw [if_neg (by decide), String.splitOnAux, if_neg (by decide), if_neg (by decide),
      String.splitOnAux, if_neg (by decide), if_pos (by decide), if_pos (by decide),
      String.splitOnAux, if_neg (by decide), if_neg (by decide),
      String.splitOnAux, if_pos (by decide)]
    decide
  show ("a/b".splitOn ",").map _ = _
  rw [noComma, List.map_singleton, slash]

lemma nestedOf_oneField : nestedOf "a/b" = [["a", "b"]] := by
  rw [nestedOf, klists_oneField]
  rfl

lemma selector_oneField :
    twoAttrs.selector oneField = some (Selector.ofFields ["id"] "a/b") := rfl

lemma sameAs_refl (sel : Selector) : sel.SameAs sel where
  returnAttrs _ := Iff.rfl
  excludeFields _ := Iff.rfl
  fields _ := Iff.rfl
  extraAttrs _ := Iff.rfl

/-- A resource that has the attribute. -/
def resource : Json :=
  (Json.empty.set "id" (str "1")).set "a" ((Json.empty.set "b" (str "x")).set "c" (str "y"))

lemma fits_oneField : twoAttrs.Fits oneField []
    ((Selector.ofFields ["id"] "a/b").addExtraAttrs []) resource where
  readable := by
    constructor
    · intro done klist rest same
      cases done <;> cases same
    · intro klist mem
      have mem : klist ∈ nestedOf "a/b" := mem
      rw [nestedOf_oneField] at mem
      obtain rfl := List.mem_singleton.mp mem
      exact ⟨Json.dictsAbove_of_reach (v := str "x") rfl, rfl⟩
  loaded attr there := by
    have mem : attr ∈ ["id", "a"] := Json.mem_keys_iff.mpr there
    left
    show attr ∈ ["id"] ++ (klists "a/b").filterMap List.head?
    rw [klists_oneField]
    exact mem
  notNull klist mem _ := by
    have mem' : klist ∈ nestedOf "a/b" := mem
    rw [nestedOf_oneField] at mem'
    obtain rfl := List.mem_singleton.mp mem'
    exact ⟨["a", "b"], mem, List.prefix_refl _, str "x", rfl, rfl⟩
  whole klist mem whole := by
    have mem : klist ∈ nestedOf "a/b" := mem
    rw [nestedOf_oneField] at mem
    obtain rfl := List.mem_singleton.mp mem
    rcases whole with isBase | isNamed | ⟨unknown, _⟩
    · have isBase : "a" ∈ ["id"] := isBase
      simp at isBase
    · have isNamed : ["a"] ∈ klists "a/b" := isNamed
      rw [klists_oneField] at isNamed
      simp at isNamed
    · exact absurd (List.mem_cons_of_mem _ List.mem_cons_self) unknown

/-- The named field of the attribute is selected. -/
theorem one_field_selected :
    ((Selector.ofFields ["id"] "a/b").addExtraAttrs []).Selects
      (twoAttrs.Selected oneField [] resource) resource :=
  (filter_selects_iff twoAttrs [] selector_oneField (sameAs_refl _) rfl).mpr fits_oneField

/-- A request for a field of an attribute that the resource does not have raises. -/
theorem absent_attr_raises :
    ¬ ∀ (view : ViewAttrs) (params : SelectorParams) (attrs : List String) (made sel : Selector),
      view.selector params = some made → sel.SameAs (made.addExtraAttrs attrs) →
        ∀ odict : Json, odict.isDict = true →
          sel.Selects (view.Selected params attrs odict) odict := by
  intro each
  obtain ⟨odict', made, _⟩ := each twoAttrs oneField [] _ _ selector_oneField (sameAs_refl _)
    (Json.empty.set "id" (str "1")) rfl
  have raises : ((Selector.ofFields ["id"] "a/b").addExtraAttrs []).filter
      (Json.empty.set "id" (str "1")) = none := by
    show selectAll (nestedOf "a/b") (Json.empty.set "id" (str "1")) = none
    rw [nestedOf_oneField]
    rfl
  rw [raises] at made
  cases made

end Tacker.View
