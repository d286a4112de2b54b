import Tacker.View.RedactedViews

/-!
# Resources shown and listed

Views of instances and occurrences tell what is selected without credentials, exactly if the selector
can be applied and what holds credentials can be walked through; an object that is shown stays as it
was unless its `vdu_params` have secrets.
-/

namespace Tacker.View

open Tacker.Basis Tacker.Fields Tacker.Objects Tacker.Crypt

variable {operation : LcmOperationType} {types : FieldTypes} {cipher : Cipher} {endpoint : String}

/-! ## Properties and conditions -/

/-- The dictionary with its links. -/
def withLinks (odict links : Json) : Json := odict.set "_links" links

/-- The dictionary of a row with its links, without the attributes that only filters need. -/
def Selector.odict (selector : Selector) (types : FieldTypes) (row : Row) (links : Json) : Json :=
  dropExtra selector.extraAttrs (withLinks (selector.rowDict types row) links)

/-- The members are texts. -/
def HasTexts (odict : Json) (keys : List String) : Prop :=
  ∀ key ∈ keys, (textAt odict key).isSome = true

/-- An instance is shown with all that it has but its credentials, and stays as it is. -/
def InstShown (types : FieldTypes) (endpoint : String) (inst : VnfInstance operation) : Prop :=
  ∃ links view, makeInstLinks endpoint (toDict types inst) = some links ∧
    instDetail types endpoint inst = some (view, inst) ∧
      Redacted instCredentials (withLinks (toDict types inst) links) (fun _ => True) view

/-- An occurrence is shown with all that it has but its credentials, and stays as it is. -/
def LcmoccShown (types : FieldTypes) (endpoint : String) (lcmocc : VnfLcmOpOcc operation) : Prop :=
  ∃ links view, makeLcmoccLinks endpoint (toDict types lcmocc) = some links ∧
    lcmoccDetail types endpoint lcmocc = some (view, lcmocc) ∧
      Redacted lcmoccCredentials (withLinks (toDict types lcmocc) links) (fun _ => True) view

/-- An instance is listed with what is selected of it but its credentials. -/
def InstListed (types : FieldTypes) (endpoint : String) (selector : Selector) (row : Row) : Prop :=
  ∃ links view, makeInstLinks endpoint (selector.rowDict types row) = some links ∧
    instListed types endpoint selector row = some view ∧
      Redacted instCredentials (selector.odict types row links)
        (selector.Returned (selector.odict types row links)) view

/-- An occurrence is listed with what is selected of it but its credentials. -/
def LcmoccListed (types : FieldTypes) (endpoint : String) (selector : Selector) (row : Row) :
    Prop :=
  ∃ links view, makeLcmoccLinks endpoint (selector.rowDict types row) = some links ∧
    lcmoccListed types endpoint selector row = some view ∧
      Redacted lcmoccCredentials (selector.odict types row links)
        (selector.Returned (selector.odict types row links)) view

/-- The `vdu_params` can be walked through and have no secret, and every VIM connection in
`changedInfo` has an `accessInfo`. -/
def LcmoccShowable (odict : Json) : Prop :=
  (∀ v, odict.reach vduParamsPath = some v → VduParamsShape (fun _ => False) v) ∧
    AccessAt odict changedVimInfosPath

/-- The selector asks for attributes of instances, with the id and the state, and its fields can be
read in the dictionary. -/
def InstListable (types : FieldTypes) (endpoint : String) (selector : Selector) (row : Row) :
    Prop :=
  selector.Known instAttrs ∧
    HasTexts (selector.rowDict types row) ["id", "instantiationState"] ∧
      ∀ links, makeInstLinks endpoint (selector.rowDict types row) = some links →
        selector.PathsReadable (selector.odict types row links)

/-- The selector asks for attributes of occurrences, with the ids, its fields can be read in the
dictionary, and what is returned of credentials can be walked through. -/
def LcmoccListable (types : FieldTypes) (endpoint : String) (selector : Selector) (row : Row) :
    Prop :=
  selector.Known lcmoccAttrs ∧
    HasTexts (selector.rowDict types row) ["id", "vnfInstanceId"] ∧
      ∀ links, makeLcmoccLinks endpoint (selector.rowDict types row) = some links →
        selector.PathsReadable (selector.odict types row links) ∧
          VduParamsReadable (selector.odict types row links)
            (selector.Returned (selector.odict types row links)) ∧
              AccessReturned (selector.odict types row links)
                (selector.Returned (selector.odict types row links))

/-! ## Links -/

lemma hasTexts_pair {odict : Json} {key key' : String} :
    HasTexts odict [key, key'] ↔
      (textAt odict key).isSome = true ∧ (textAt odict key').isSome = true := by
  constructor
  · exact fun each => ⟨each key List.mem_cons_self,
      each key' (List.mem_cons_of_mem _ List.mem_cons_self)⟩
  · rintro ⟨first, second⟩ key'' mem
    rcases List.mem_cons.mp mem with rfl | mem
    · exact first
    · rw [List.mem_singleton.mp mem]
      exact second

/-- Links that are made from two texts. -/
lemma links_isSome {odict : Json} {key key' : String} {f : String → String → Json} :
    ((textAt odict key).bind fun s => (textAt odict key').map (f s)).isSome = true ↔
      HasTexts odict [key, key'] := by
  rw [hasTexts_pair]
  cases textAt odict key with
  | none => exact ⟨fun isSome => (by cases isSome), fun both => (by cases both.1)⟩
  | some s =>
    rw [Option.bind_some, Option.isSome_map]
    exact ⟨fun isSome => ⟨rfl, isSome⟩, fun both => both.2⟩

lemma makeInstLinks_isSome (endpoint : String) {odict : Json} :
    (makeInstLinks endpoint odict).isSome = true ↔ HasTexts odict ["id", "instantiationState"] :=
  links_isSome

lemma makeLcmoccLinks_isSome (endpoint : String) {odict : Json} :
    (makeLcmoccLinks endpoint odict).isSome = true ↔ HasTexts odict ["id", "vnfInstanceId"] :=
  links_isSome

/-! ## Dictionaries of objects and rows -/

section Attributes

variable {cls : ClassName}

/-- The members of the dictionary, apart from the links, are attributes of the object. -/
def AttrsOf (types : FieldTypes) (odict : Json)
    (x : Value (registry operation) (.object cls false)) : Prop :=
  ∀ i, (registry operation cls).name i ≠ "_links" → ∀ doc,
    odict.get? ((registry operation cls).name i) = some doc →
      ∃ w, x.attr? i = some w ∧ w.toPrimitive types = doc

lemma attrsOf_toDict (types : FieldTypes) (x : Value (registry operation) (.object cls false)) :
    AttrsOf types (toDict types x) x :=
  fun i _ _ found => attr_of_get? i found

lemma columnDoc_toColumn {kind : Kind ClassName} (v : Value (registry operation) kind) :
    columnDoc types (toColumn types v) = v.toPrimitive types := by
  have either : ∀ (c : Bool) (doc : Json),
      columnDoc types (if c then .text doc else .primitive doc) = doc := by
    intro c doc
    cases c <;> rfl
  cases v with
  | scalar value =>
    cases value with
    | dateTime value => rfl
    | _ => rfl
  | list size item => exact either _ _
  | dict keys unique item => exact either _ _
  | keyValuePairs pairs isDict => rfl
  | object isSet attr => exact either _ _

lemma get?_rowDict (attrs : List String) (row : Row) (attr : String) :
    (rowDict types attrs row).get? attr =
      if attr ∈ attrs then rowValue types row attr else none := by
  rw [rowDict, Json.get?]
  by_cases mem : attr ∈ attrs
  · rw [if_pos mem]
    cases value : rowValue types row attr with
    | none =>
      apply if_neg
      intro mem'
      have isSome := (List.mem_filter.mp mem').2
      rw [value] at isSome
      cases isSome
    | some doc =>
      rw [if_pos]
      · rfl
      · rw [List.mem_filter, List.mem_dedup, value]
        exact ⟨mem, rfl⟩
  · rw [if_neg mem]
    apply if_neg
    intro mem'
    exact mem (List.mem_dedup.mp (List.mem_filter.mp mem').1)

lemma attrsOf_rowDict (attrs : List String) (x : Value (registry operation) (.object cls false)) :
    AttrsOf types (rowDict types attrs (Fields.toDbObj types x)) x := by
  intro i _ doc found
  rw [get?_rowDict] at found
  have value : rowValue types (Fields.toDbObj types x) ((registry operation cls).name i) =
      (x.attr? i).map (Value.toPrimitive types) := by
    show (Fields.toDbObj types x ((registry operation cls).column i)).map _ = _
    rw [toDbObj_column, Option.map_map]
    apply congrArg (fun f => (x.attr? i).map f)
    funext v
    exact columnDoc_toColumn v
  by_cases mem : (registry operation cls).name i ∈ attrs
  · rw [if_pos mem, value] at found
    exact Option.map_eq_some_iff.mp found
  · rw [if_neg mem] at found
    cases found

lemma attrsOf_withLinks {odict : Json} {x : Value (registry operation) (.object cls false)}
    (attrs : AttrsOf types odict x) (dict : odict.isDict = true) (links : Json) :
    AttrsOf types (withLinks odict links) x := by
  intro i other doc found
  rw [withLinks, Json.get?_set dict, if_neg other] at found
  exact attrs i other doc found

lemma attrsOf_dropExtra {odict : Json} {x : Value (registry operation) (.object cls false)}
    (attrs : AttrsOf types odict x) (extra : List String) :
    AttrsOf types (dropExtra extra odict) x := by
  intro i other doc found
  rw [get?_dropExtra] at found
  by_cases mem : (registry operation cls).name i ∈ extra
  · rw [if_pos mem] at found
    cases found
  · rw [if_neg mem] at found
    exact attrs i other doc found

end Attributes

lemma instShape_of_attrs {odict : Json} {inst : VnfInstance operation}
    (attrs : AttrsOf types odict inst) (dict : odict.isDict = true) : InstShape odict where
  dict := dict
  vimInfos := by
    apply vimInfosAt_of_value operation types
    intro doc found
    rw [reach_key_one] at found
    obtain ⟨w, _, rfl⟩ := attrs vimConnectionInfoField
      (show "vimConnectionInfo" ≠ "_links" by decide) doc found
    exact ⟨w, rfl⟩

lemma lcmoccShape_of_attrs {odict : Json} {lcmocc : VnfLcmOpOcc operation}
    (attrs : AttrsOf types odict lcmocc) (dict : odict.isDict = true) : LcmoccShape odict := by
  have params : ∀ doc, odict.get? "operationParams" = some doc →
      ∃ w : OperationParams operation, w.toPrimitive types = doc := by
    intro doc found
    obtain ⟨w, _, same⟩ := attrs operationParamsField
      (show "operationParams" ≠ "_links" by decide) doc found
    exact ⟨w, same⟩
  have changed : ∀ doc, odict.get? "changedInfo" = some doc →
      ∃ w : Value (registry operation) (.object .vnfInfoModifications false),
        w.toPrimitive types = doc := by
    intro doc found
    obtain ⟨w, _, same⟩ := attrs changedInfoField
      (show "changedInfo" ≠ "_links" by decide) doc found
    exact ⟨w, same⟩
  constructor
  · exact dict
  · intro doc found
    rw [reach_key_one] at found
    obtain ⟨w, rfl⟩ := params doc found
    exact isDict_objectValue w
  · apply vimInfosAt_of_value operation types
    intro doc reached
    rw [Json.keyPath_cons, reach_key] at reached
    obtain ⟨_, found, isVim⟩ := Option.bind_eq_some_iff.mp reached
    rw [reach_key_one] at isVim
    obtain ⟨w, rfl⟩ := params _ found
    exact params_vimInfos w isVim
  · intro doc reached
    rw [Json.keyPath_cons, reach_key] at reached
    obtain ⟨_, found, isAdditional⟩ := Option.bind_eq_some_iff.mp reached
    rw [reach_key_one] at isAdditional
    obtain ⟨w, rfl⟩ := params _ found
    obtain ⟨pairs, rfl⟩ := params_additional w isAdditional
    exact isDict_pairs pairs
  · intro doc found
    rw [reach_key_one] at found
    obtain ⟨w, rfl⟩ := changed doc found
    exact isDict_objectValue w
  · apply vimInfosAt_of_value operation types
    intro doc reached
    rw [changedVimInfosPath, Json.keyPath_cons, reach_key] at reached
    obtain ⟨_, found, isVim⟩ := Option.bind_eq_some_iff.mp reached
    rw [reach_key_one] at isVim
    obtain ⟨w, rfl⟩ := changed _ found
    obtain ⟨vims, _, same⟩ := attr_of_get? modifiedVimInfoField isVim
    exact ⟨vims, same.symm⟩

/-! ## Objects that are shown -/

lemma isDict_toDict {cls : ClassName} (x : Value (registry operation) (.object cls false)) :
    (toDict types x).isDict = true := isDict_objectValue x

lemma reach_withLinks {odict links : Json} (dict : odict.isDict = true) {key : String}
    (other : key ≠ "_links") (path : Path) :
    (withLinks odict links).reach (.key key :: path) = odict.reach (.key key :: path) :=
  reach_set_other dict other path

lemma instShown_iff (inst : VnfInstance operation) :
    InstShown types endpoint inst ↔ HasTexts (toDict types inst) ["id", "instantiationState"] := by
  constructor
  · rintro ⟨links, view, made, _⟩
    apply (makeInstLinks_isSome endpoint).mp
    rw [made]
    rfl
  · intro texts
    obtain ⟨links, made⟩ := Option.isSome_iff_exists.mp
      ((makeInstLinks_isSome endpoint).mpr texts)
    have dict : (withLinks (toDict types inst) links).isDict = true :=
      isDict_set (isDict_toDict inst) _ _
    have shape := instShape_of_attrs
      (attrsOf_withLinks (attrsOf_toDict types inst) (isDict_toDict inst) links) dict
    obtain ⟨view, popped⟩ := Option.isSome_iff_exists.mp (popInstCred_isSome shape)
    refine ⟨links, view, made, ?_, ?_⟩
    · rw [instDetail, instDetailDict, made]
      show (popInstCred (withLinks (toDict types inst) links)).map _ = _
      rw [popped]
      rfl
    · exact redacted_of_removes removes_popInstCred (leaves_all dict)
        (fun _ _ _ _ _ _ => Iff.rfl) popped

/-- The change that raises at every secret. -/
def raiseAct : Action := fun _ => none

lemma raiseAct_isSome (v : Json) : (raiseAct v).isSome = true ↔ False :=
  ⟨fun isSome => (by cases isSome), False.elim⟩

lemma both_raise : both raiseAct popAct = raiseAct := rfl

/-- Nothing is removed from additional parameters exactly if they have no secret. -/
lemma additionalParamsPass_eq_self {t : Json} :
    additionalParamsPass popAct t = some t ↔ AdditionalParamsShape (fun _ => False) t := by
  rw [← additionalParamsPass_isSome raiseAct_isSome]
  have keeps : Json.Keeping (additionalParamsPass raiseAct) :=
    keeping_additionalParamsPass fun _ _ made => (by cases made)
  constructor
  · intro same
    have twice : (additionalParamsPass popAct t).bind (additionalParamsPass raiseAct) =
        additionalParamsPass (both popAct raiseAct) t := additionalParamsPass_bind t
    rw [both_pop, same, Option.bind_some] at twice
    rw [twice]
    rfl
  · intro isSome
    have same := keeps.eq_self_iff.mpr isSome
    have twice : (additionalParamsPass raiseAct t).bind (additionalParamsPass popAct) =
        additionalParamsPass (both raiseAct popAct) t := additionalParamsPass_bind t
    rw [both_raise, same, Option.bind_some] at twice
    exact twice

lemma additionalShape_true {t : Json} (shape : AdditionalParamsShape (fun _ => False) t) :
    AdditionalParamsShape (fun _ => True) t := by
  have needs : ∀ v, (popAct v).isSome = true ↔ True := fun _ => ⟨fun _ => trivial, fun _ => rfl⟩
  apply (additionalParamsPass_isSome needs t).mp
  rw [additionalParamsPass_eq_self.mpr shape]
  rfl

/-- What the `vdu_params` of an occurrence satisfy, told by the dictionary and by the object. -/
lemma vduParams_iff (types : FieldTypes) {P : Json → Prop} (lcmocc : VnfLcmOpOcc operation) :
    (∀ v, (toDict types lcmocc).reach vduParamsPath = some v → VduParamsShape P v) ↔
      ∀ params, lcmocc.attr? operationParamsField = some params →
        EachAt (AdditionalParamsShape P) (paramsAdditional operation) params := by
  have get? : ∀ params : OperationParams operation, lcmocc.attr? operationParamsField = some params →
      (toDict types lcmocc).get? "operationParams" = some (params.toPrimitive types) := by
    intro params set
    rw [toDict, toPrimitive_object]
    apply (get?_objectDoc _ operationParamsField).trans
    rw [set]
    rfl
  constructor
  · intro shapes (params : OperationParams operation) set
    apply (eachAt_additional types params).mpr
    intro doc isAdditional
    obtain ⟨pairs, rfl⟩ := params_additional params isAdditional
    refine ⟨isDict_pairs pairs, fun v isVdu => shapes v ?_⟩
    rw [vduParamsPath, Json.keyPath_cons, reach_key, get? params set, Option.bind_some,
      Json.keyPath_cons, reach_key, isAdditional, Option.bind_some, reach_key_one]
    exact isVdu
  · intro each v reached
    rw [vduParamsPath, Json.keyPath_cons, reach_key] at reached
    obtain ⟨paramsDoc, found, reached⟩ := Option.bind_eq_some_iff.mp reached
    rw [Json.keyPath_cons, reach_key] at reached
    obtain ⟨additional, isAdditional, isVdu⟩ := Option.bind_eq_some_iff.mp reached
    rw [reach_key_one] at isVdu
    obtain ⟨params, set, rfl⟩ := attr_of_get? operationParamsField found
    have shape := (eachAt_additional types params).mp (each params set) additional
      isAdditional
    exact shape.2 v isVdu

/-- The object stays as it is if its `vdu_params` have no secret. -/
lemma changed_eq_self (lcmocc : VnfLcmOpOcc operation) :
    Value.onAttr operationParamsField
        (changeAt (additionalParamsPass popAct) (paramsAdditional operation)) lcmocc =
          some lcmocc ↔
      ∀ params, lcmocc.attr? operationParamsField = some params →
        EachAt (AdditionalParamsShape fun _ => False) (paramsAdditional operation) params := by
  have change : ∀ params : OperationParams operation,
      changeAt (additionalParamsPass popAct) (paramsAdditional operation) params = some params ↔
        EachAt (AdditionalParamsShape fun _ => False) (paramsAdditional operation) params := by
    intro params
    cases paramsAdditional operation with
    | none => exact ⟨fun _ p absent => (by cases absent), fun _ => rfl⟩
    | some place =>
      apply (place.change_eq_self params).trans
      rw [funext fun t => propext (additionalParamsPass_eq_self (t := t))]
      constructor
      · intro each p same
        rw [← Option.some.inj same]
        exact each
      · exact fun each => each place rfl
  cases set : lcmocc.attr? operationParamsField with
  | none =>
    rw [Value.onAttr_unset set]
    exact ⟨fun _ params absent => (by cases absent), fun _ => rfl⟩
  | some params =>
    rw [Value.onAttr_set set]
    constructor
    · intro same params' set'
      obtain rfl := Option.some.inj set'
      obtain ⟨params', made, same⟩ := Option.map_eq_some_iff.mp same
      rw [(Value.setAttr_eq_self set).mp same] at made
      exact (change params).mp made
    · intro each
      have same := (change params).mpr (each params rfl)
      apply (congrArg (Option.map (lcmocc.setAttr operationParamsField)) same).trans
      exact congrArg some ((Value.setAttr_eq_self set).mpr rfl)

lemma lcmoccShown_iff (lcmocc : VnfLcmOpOcc operation) :
    LcmoccShown types endpoint lcmocc ↔
      HasTexts (toDict types lcmocc) ["id", "vnfInstanceId"] ∧
        LcmoccShowable (toDict types lcmocc) := by
  have dict : ∀ links, (withLinks (toDict types lcmocc) links).isDict = true := fun links =>
    isDict_set (isDict_toDict lcmocc) _ _
  have shape : ∀ links, LcmoccShape (withLinks (toDict types lcmocc) links) := fun links =>
    lcmoccShape_of_attrs (attrsOf_withLinks (attrsOf_toDict types lcmocc)
      (isDict_toDict lcmocc) links) (dict links)
  have vduReach : ∀ links, (withLinks (toDict types lcmocc) links).reach vduParamsPath =
      (toDict types lcmocc).reach vduParamsPath := fun links =>
    reach_withLinks (isDict_toDict lcmocc) (by decide) _
  have accessAt : ∀ links, AccessAt (withLinks (toDict types lcmocc) links) changedVimInfosPath ↔
      AccessAt (toDict types lcmocc) changedVimInfosPath := by
    intro links
    unfold AccessAt
    simp only [changedVimInfosPath, Json.keyPath_cons, List.cons_append,
      reach_withLinks (isDict_toDict lcmocc) (show "changedInfo" ≠ "_links" by decide)]
  constructor
  · rintro ⟨links, view, made, detail, _⟩
    obtain ⟨view', redacted, after⟩ := Option.bind_eq_some_iff.mp detail
    obtain ⟨after', changed, same⟩ := Option.map_eq_some_iff.mp after
    have unchanged : after' = lcmocc := congrArg Prod.snd same
    rw [lcmoccDetailDict, made] at redacted
    have popped : popLcmoccCred (withLinks (toDict types lcmocc) links) = some view' := redacted
    have isSome : (popLcmoccCred (withLinks (toDict types lcmocc) links)).isSome = true := by
      rw [popped]
      rfl
    refine ⟨(makeLcmoccLinks_isSome endpoint).mp (by rw [made]; rfl), ?_,
      (accessAt links).mp ((popLcmoccCred_isSome (shape links)).mp isSome).2⟩
    rw [unchanged] at changed
    exact (vduParams_iff types lcmocc).mpr ((changed_eq_self lcmocc).mp changed)
  · rintro ⟨texts, shapes, access⟩
    obtain ⟨links, made⟩ := Option.isSome_iff_exists.mp
      ((makeLcmoccLinks_isSome endpoint).mpr texts)
    have each := (vduParams_iff types lcmocc).mp shapes
    have walked : ∀ v, (withLinks (toDict types lcmocc) links).reach vduParamsPath = some v →
        VduParamsShape (fun _ => True) v := by
      intro v reached
      rw [vduReach links] at reached
      apply (vduParams_iff types lcmocc).mpr _ v reached
      intro (params : OperationParams operation) set
      apply (eachAt_additional types params).mpr
      intro doc isAdditional
      exact additionalShape_true
        ((eachAt_additional types params).mp (each params set) doc isAdditional)
    obtain ⟨view, popped⟩ := Option.isSome_iff_exists.mp
      ((popLcmoccCred_isSome (shape links)).mpr ⟨walked, (accessAt links).mpr access⟩)
    refine ⟨links, view, made, ?_, ?_⟩
    · rw [lcmoccDetail, lcmoccDetailDict, made]
      show ((popLcmoccCred (withLinks (toDict types lcmocc) links)).bind _) = _
      rw [popped]
      show (Value.onAttr _ _ lcmocc).map _ = _
      rw [(changed_eq_self lcmocc).mpr each]
      rfl
    · exact redacted_of_removes removes_popLcmoccCred (leaves_all (dict links))
        (fun path v v' _ => stable_credentials (leaves_all (dict links)) path v v') popped

/-! ## Resources that are listed -/

lemma isDict_odict (types : FieldTypes) (selector : Selector) (row : Row) (links : Json) :
    (selector.odict types row links).isDict = true :=
  isDict_dropExtra (isDict_set rfl _ _)

lemma attrsOf_odict {cls : ClassName} (x : Value (registry operation) (.object cls false))
    (selector : Selector) (links : Json) :
    AttrsOf types (selector.odict types (Fields.toDbObj types x) links) x :=
  attrsOf_dropExtra (attrsOf_withLinks (attrsOf_rowDict _ x) rfl links) _

lemma instListed_iff (x : VnfInstance operation) (selector : Selector) :
    InstListed types endpoint selector (Fields.toDbObj types x) ↔
      InstListable types endpoint selector (Fields.toDbObj types x) := by
  have known : ∀ {view}, instListed types endpoint selector (Fields.toDbObj types x) = some view →
      selector.Known instAttrs := by
    intro view listed
    by_contra unknown
    rw [instListed, if_neg unknown] at listed
    cases listed
  have steps : ∀ links, selector.Known instAttrs →
      makeInstLinks endpoint (selector.rowDict types (Fields.toDbObj types x)) = some links →
        instListed types endpoint selector (Fields.toDbObj types x) =
          (selector.filter (withLinks (selector.rowDict types (Fields.toDbObj types x))
            links)).bind popInstCred := by
    intro links isKnown made
    rw [instListed, if_pos isKnown, instDetailDict, made]
    rfl
  constructor
  · rintro ⟨links, view, made, listed, _⟩
    refine ⟨known listed, (makeInstLinks_isSome endpoint).mp (by rw [made]; rfl),
      fun links' made' => ?_⟩
    obtain rfl := Option.some.inj (made.symm.trans made')
    rw [steps links (known listed) made] at listed
    obtain ⟨selected, filtered, _⟩ := Option.bind_eq_some_iff.mp listed
    apply (filter_spec selector (isDict_odict types selector _ links)).1.mp
    show (selector.filter _).isSome = true
    rw [filtered]
    rfl
  · rintro ⟨isKnown, texts, readable⟩
    obtain ⟨links, made⟩ := Option.isSome_iff_exists.mp
      ((makeInstLinks_isSome endpoint).mpr texts)
    obtain ⟨filters, leaves⟩ := filter_spec selector (isDict_odict types selector
      (Fields.toDbObj types x) links)
    obtain ⟨selected, filtered⟩ := Option.isSome_iff_exists.mp (filters.mpr (readable links made))
    have leaves := leaves selected filtered
    have shape := leaves.instShape (instShape_of_attrs (attrsOf_odict x selector links)
      (isDict_odict types selector _ links))
    obtain ⟨view, popped⟩ := Option.isSome_iff_exists.mp (popInstCred_isSome shape)
    refine ⟨links, view, made, ?_, ?_⟩
    · rw [steps links isKnown made, filtered]
      exact popped
    · exact redacted_of_removes removes_popInstCred leaves (fun _ _ _ _ _ _ => Iff.rfl) popped

lemma lcmoccListed_iff (x : VnfLcmOpOcc operation) (selector : Selector) :
    LcmoccListed types endpoint selector (Fields.toDbObj types x) ↔
      LcmoccListable types endpoint selector (Fields.toDbObj types x) := by
  have known : ∀ {view}, lcmoccListed types endpoint selector (Fields.toDbObj types x) =
      some view → selector.Known lcmoccAttrs := by
    intro view listed
    by_contra unknown
    rw [lcmoccListed, if_neg unknown] at listed
    cases listed
  have steps : ∀ links, selector.Known lcmoccAttrs →
      makeLcmoccLinks endpoint (selector.rowDict types (Fields.toDbObj types x)) = some links →
        lcmoccListed types endpoint selector (Fields.toDbObj types x) =
          (selector.filter (withLinks (selector.rowDict types (Fields.toDbObj types x))
            links)).bind popLcmoccCred := by
    intro links isKnown made
    rw [lcmoccListed, if_pos isKnown, lcmoccDetailDict, made]
    rfl
  have shape : ∀ links, LcmoccShape (selector.odict types (Fields.toDbObj types x) links) :=
    fun links => lcmoccShape_of_attrs (attrsOf_odict x selector links)
      (isDict_odict types selector _ links)
  constructor
  · rintro ⟨links, view, made, listed, _⟩
    refine ⟨known listed, (makeLcmoccLinks_isSome endpoint).mp (by rw [made]; rfl),
      fun links' made' => ?_⟩
    obtain rfl := Option.some.inj (made.symm.trans made')
    rw [steps links (known listed) made] at listed
    obtain ⟨selected, filtered, popped⟩ := Option.bind_eq_some_iff.mp listed
    obtain ⟨filters, leaves⟩ := filter_spec selector (isDict_odict types selector
      (Fields.toDbObj types x) links)
    have leaves := leaves selected filtered
    have isSome : (popLcmoccCred selected).isSome = true := by
      rw [popped]
      rfl
    obtain ⟨shapes, access⟩ := (popLcmoccCred_isSome (leaves.lcmoccShape (shape links))).mp isSome
    refine ⟨filters.mp ?_, leaves.vduParams_iff.mp shapes, leaves.accessAt_iff.mp access⟩
    show (selector.filter _).isSome = true
    rw [filtered]
    rfl
  · rintro ⟨isKnown, texts, each⟩
    obtain ⟨links, made⟩ := Option.isSome_iff_exists.mp
      ((makeLcmoccLinks_isSome endpoint).mpr texts)
    obtain ⟨readable, vdu, access⟩ := each links made
    obtain ⟨filters, leaves⟩ := filter_spec selector (isDict_odict types selector
      (Fields.toDbObj types x) links)
    obtain ⟨selected, filtered⟩ := Option.isSome_iff_exists.mp (filters.mpr readable)
    have leaves := leaves selected filtered
    obtain ⟨view, popped⟩ := Option.isSome_iff_exists.mp
      ((popLcmoccCred_isSome (leaves.lcmoccShape (shape links))).mpr
        ⟨leaves.vduParams_iff.mpr vdu, leaves.accessAt_iff.mpr access⟩)
    refine ⟨links, view, made, ?_, ?_⟩
    · rw [steps links isKnown made, filtered]
      exact popped
    · exact redacted_of_removes removes_popLcmoccCred leaves
        (fun path v v' _ => stable_credentials leaves path v v') popped

/-- An instance with its id and state. -/
def plainInst : VnfInstance .instantiate :=
  (Value.new.setAttr (⟨0, by decide⟩ : Fin (registry .instantiate .vnfInstance).size)
    (.scalar (.text "inst" rfl))).setAttr ⟨10, by decide⟩ (.scalar (.text "INSTANTIATED" rfl))

/-- The changes of VIM connections by a modification, of which one has no `accessInfo`. -/
def changedVims : Value (registry .modifyInfo) (.object .vnfInfoModifications false) :=
  Value.new.setAttr modifiedVimInfoField
    (.dict ["vim1"] (List.nodup_singleton "vim1") fun _ =>
      Value.new.setAttr (⟨0, by decide⟩ : Fin (registry .modifyInfo .vimConnectionInfo).size)
        (.scalar (.text "vim-id" rfl)))

/-- The occurrence of a modification, with these changes. -/
def vimModification : VnfLcmOpOcc .modifyInfo :=
  ((Value.new.setAttr (⟨0, by decide⟩ : Fin (registry .modifyInfo .vnfLcmOpOcc).size)
    (.scalar (.text "occ" rfl))).setAttr ⟨4, by decide⟩ (.scalar (.text "inst" rfl))).setAttr
      changedInfoField changedVims

end Tacker.View
