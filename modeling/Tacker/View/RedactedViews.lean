import Tacker.View.Redaction

/-!
# Views without credentials

When a resource can be shown and listed so that its view tells what is selected of it, apart from its
credentials, and the object stays as it was.
-/

namespace Tacker.View

open Tacker.Basis Tacker.Fields Tacker.Objects Tacker.Crypt

variable {operation : LcmOperationType} {types : FieldTypes} {endpoint : String}

/-! ## Redaction of what is selected -/

lemma leaves_all {odict : Json} (dict : odict.isDict = true) :
    Leaves odict odict fun _ => True where
  dict := dict
  gone _ no := absurd trivial no
  same _ _ := rfl
  intact _ _ _ reached _ := reached

variable {C : Json.Part String Atom} {odict selected view : Json} {returned : Path → Prop}

/-- What is selected and then redacted is a redacted view, if the parts are the same in what is
selected. -/
lemma redacted_of_removes {f : Json → Option Json} (removes : Json.Removes f C)
    (leaves : Leaves odict selected returned)
    (stable : ∀ path v v', returned path → odict.reach path = some v →
      selected.reach path = some v' → (C path v ↔ C path v'))
    (made : f selected = some view) : Redacted C odict returned view := by
  have below : ∀ {front rest : Path}, selected.reach front = none →
      selected.node? (front ++ rest) = none := by
    intro front rest absent
    rw [Json.node?, Json.reach_append, absent]
    rfl
  constructor
  · intro path covers
    by_cases here : Json.Covers C selected path
    · exact removes.gone made here
    · rw [removes.same made here]
      obtain ⟨front, rest, v, rfl, reached, isPart⟩ := covers
      cases found : selected.reach front with
      | none => exact below found
      | some v' =>
        have isReturned : returned front := by
          by_contra notReturned
          rw [leaves.gone front notReturned] at found
          cases found
        exact absurd ⟨front, rest, v', rfl, found,
          (stable front v v' isReturned reached found).mp isPart⟩ here
  · intro path notReturned
    have absent : selected.node? path = none :=
      Json.node?_eq_none.mpr (leaves.gone path notReturned)
    by_cases here : Json.Covers C selected path
    · exact removes.gone made here
    · rw [removes.same made here, absent]
  · intro path isReturned uncovered
    rw [removes.same made, leaves.same path isReturned]
    rintro ⟨front, rest, v', rfl, found, isPart⟩
    have frontReturned : returned front := by
      by_contra notReturned
      rw [leaves.gone front notReturned] at found
      cases found
    have node := leaves.same front frontReturned
    rw [Json.node?, found] at node
    obtain ⟨v, reached, _⟩ := Json.node?_eq_some.mp node.symm
    exact uncovered ⟨front, rest, v, rfl, reached,
      (stable front v v' frontReturned reached found).mpr isPart⟩

/-- What is below something returned that is no dictionary is returned as it is. -/
lemma Leaves.reach_below (leaves : Leaves odict selected returned) {front : Path} (rest : Path)
    {v : Json} (isReturned : returned front) (reached : odict.reach front = some v)
    (notDict : v.isDict = false) :
    selected.reach (front ++ rest) = odict.reach (front ++ rest) := by
  rw [Json.reach_append, Json.reach_append, leaves.intact front v isReturned reached notDict,
    reached]

/-- A list item is in something that is no dictionary. -/
lemma notDict_of_item {t v : Json} {i : Nat} (found : t.item? i = some v) : t.isDict = false := by
  cases t with
  | arr size item => rfl
  | _ => cases found

/-- A secret of a VDU that is selected is the one in the dictionary. -/
lemma stable_credentials (leaves : Leaves odict selected returned) (path : Path) (v v' : Json)
    (reached : odict.reach path = some v) (reached' : selected.reach path = some v') :
    lcmoccCredentials path v ↔ lcmoccCredentials path v' := by
  have same : IsVduPath vduParamsPath path → v = v' := by
    rintro ⟨i, side, _, secret, _, rfl⟩
    have here := reached
    rw [Json.reach_append] at reached reached'
    obtain ⟨vduParams, found, item⟩ := Option.bind_eq_some_iff.mp reached
    obtain ⟨_, found', _⟩ := Option.bind_eq_some_iff.mp reached'
    have isReturned : returned vduParamsPath := by
      by_contra notReturned
      rw [leaves.gone _ notReturned] at found'
      cases found'
    rw [Json.reach_cons] at item
    obtain ⟨_, isItem, _⟩ := Option.bind_eq_some_iff.mp item
    have below := leaves.reach_below (.index i :: .key side :: Json.keyPath secret)
      isReturned found (notDict_of_item isItem)
    rw [← Json.reach_append, below, here] at reached'
    exact Option.some.inj reached'
  unfold lcmoccCredentials
  apply or_congr Iff.rfl
  apply or_congr _ Iff.rfl
  apply and_congr_right
  intro isVdu
  rw [same isVdu]

/-! ## What the redaction needs -/

/-- What is at the path is a dictionary. -/
def DictAt (t : Json) (path : Path) : Prop :=
  ∀ v, t.reach path = some v → v.isDict = true

lemma Leaves.dictAt (leaves : Leaves odict selected returned) {path : Path}
    (dict : DictAt odict path) : DictAt selected path := by
  intro v' found
  by_cases isReturned : returned path
  · have node := leaves.same path isReturned
    rw [Json.node?, found] at node
    obtain ⟨v, reached, same⟩ := Json.node?_eq_some.mp node.symm
    apply Json.node_eq_dict.mp
    rw [← same]
    exact Json.node_eq_dict.mpr (dict v reached)
  · rw [leaves.gone path isReturned] at found
    cases found

/-- VIM connections, with their `accessInfo`, are dictionaries. -/
structure VimInfosAt (t : Json) (path : Path) : Prop where
  whole : DictAt t path
  each : ∀ vimKey, DictAt t (path ++ [.key vimKey])
  access : ∀ vimKey, DictAt t (path ++ [.key vimKey, .key "accessInfo"])

lemma Leaves.vimInfosAt (leaves : Leaves odict selected returned) {path : Path}
    (vimInfos : VimInfosAt odict path) : VimInfosAt selected path where
  whole := leaves.dictAt vimInfos.whole
  each vimKey := leaves.dictAt (vimInfos.each vimKey)
  access vimKey := leaves.dictAt (vimInfos.access vimKey)

lemma accessInfoPass_popAct_isSome {t : Json} :
    (accessInfoPass popAct t).isSome = true ↔ t.isDict = true := by
  rw [accessInfoPass_isSome (P := fun _ => True) fun _ => ⟨fun _ => trivial, fun _ => rfl⟩]
  exact and_iff_left fun _ _ _ _ => trivial

lemma accessInfo_isSome {vimInfo : Json} (dict : vimInfo.isDict = true)
    (access : ∀ a, vimInfo.get? "accessInfo" = some a → a.isDict = true) :
    (vimInfo.alter "accessInfo" (Change.into (accessInfoPass popAct))).isSome = true := by
  apply Json.alter_isSome.mpr
  refine ⟨dict, fun a found => into_isSome.mpr ?_⟩
  exact accessInfoPass_popAct_isSome.mpr (access a found)

lemma reach_one {t v : Json} {path : Path} (found : t.reach path = some v) (key : String) :
    t.reach (path ++ [.key key]) = v.get? key := by
  rw [Json.reach_append, found]
  exact Option.bind_fun_some _

lemma reach_two {t v : Json} {path : Path} (found : t.reach path = some v) (key key' : String) :
    t.reach (path ++ [.key key, .key key']) = (v.get? key).bind fun u => u.get? key' := by
  rw [Json.reach_append, found]
  show (v.get? key).bind (fun u => (u.get? key').bind some) = _
  simp only [Option.bind_fun_some]

lemma vimInfosPass_isSome {t v : Json} {path : Path} (vimInfos : VimInfosAt t path)
    (found : t.reach path = some v) : (vimInfosPass popAct v).isSome = true := by
  apply Json.edit_isSome.mpr
  refine ⟨vimInfos.whole v found, fun vimKey vimInfo isMember => into_isSome.mpr ?_⟩
  apply accessInfo_isSome
  · exact vimInfos.each vimKey vimInfo ((reach_one found vimKey).trans isMember)
  · intro a isAccess
    apply vimInfos.access vimKey a
    rw [reach_two found, isMember]
    exact isAccess

/-- The `accessInfo` of every VIM connection is there. -/
def AccessAt (t : Json) (path : Path) : Prop :=
  ∀ vimKey, (t.reach (path ++ [.key vimKey])).isSome = true →
    (t.reach (path ++ [.key vimKey, .key "accessInfo"])).isSome = true

lemma changedVimInfos_isSome {t v : Json} {path : Path} (vimInfos : VimInfosAt t path)
    (found : t.reach path = some v) :
    (v.edit fun _ => Change.into popChangedVimInfo).isSome = true ↔ AccessAt t path := by
  rw [Json.edit_isSome]
  constructor
  · rintro ⟨_, each⟩ vimKey isSome
    rw [reach_one found] at isSome
    obtain ⟨vimInfo, isMember⟩ := Option.isSome_iff_exists.mp isSome
    have popped := into_isSome.mp (each vimKey vimInfo isMember)
    rw [reach_two found, isMember, Option.bind_some]
    by_contra absent
    rw [popChangedVimInfo, if_neg absent] at popped
    cases popped
  · intro access
    refine ⟨vimInfos.whole v found, fun vimKey vimInfo isMember => into_isSome.mpr ?_⟩
    have isSome : (vimInfo.get? "accessInfo").isSome = true := by
      have here := access vimKey (by rw [reach_one found, isMember]; rfl)
      rw [reach_two found, isMember] at here
      exact here
    rw [popChangedVimInfo, if_pos isSome]
    apply accessInfo_isSome
    · exact vimInfos.each vimKey vimInfo ((reach_one found vimKey).trans isMember)
    · intro a isAccess
      apply vimInfos.access vimKey a
      rw [reach_two found, isMember]
      exact isAccess

/-- The documents of an instance in which credentials are looked for. -/
structure InstShape (t : Json) : Prop where
  dict : t.isDict = true
  vimInfos : VimInfosAt t (Json.keyPath ["vimConnectionInfo"])

/-- The documents of an occurrence in which credentials are looked for. -/
structure LcmoccShape (t : Json) : Prop where
  dict : t.isDict = true
  params : DictAt t (Json.keyPath ["operationParams"])
  vimInfos : VimInfosAt t (Json.keyPath ["operationParams", "vimConnectionInfo"])
  additional : DictAt t (Json.keyPath ["operationParams", "additionalParams"])
  changed : DictAt t (Json.keyPath ["changedInfo"])
  changedVimInfos : VimInfosAt t changedVimInfosPath

/-- The `vdu_params` can be walked through, and the secrets in it that count as true satisfy the
predicate. -/
def VduParamsShape (P : Json → Prop) (vduParams : Json) : Prop :=
  (vduParams.isList = true ∧ ∀ v ∈ vduParams.items, VduParamShape P v) ∨
    ((vduParams.isDict = true ∨ isString vduParams = true) ∧ truthy vduParams = false)

lemma reach_single {t : Json} (key : String) : t.reach [.key key] = t.get? key :=
  Option.bind_fun_some _

lemma reach_key_one {t : Json} (key : String) : t.reach (Json.keyPath [key]) = t.get? key :=
  Option.bind_fun_some _

lemma reach_key_two {t v : Json} {key : String} (found : t.get? key = some v) (key' : String) :
    t.reach (Json.keyPath [key, key']) = v.get? key' := by
  show (t.get? key).bind (fun u => (u.get? key').bind some) = _
  rw [found]
  exact Option.bind_fun_some _

lemma popInstCred_isSome {t : Json} (shape : InstShape t) : (popInstCred t).isSome = true := by
  apply Json.alter_isSome.mpr
  refine ⟨shape.dict, fun v found => into_isSome.mpr ?_⟩
  exact vimInfosPass_isSome shape.vimInfos ((reach_key_one _).trans found)

lemma popOperationParams_isSome {t params : Json} (shape : LcmoccShape t)
    (found : t.get? "operationParams" = some params) :
    (popOperationParams params).isSome = true ↔
      ∀ v, t.reach vduParamsPath = some v → VduParamsShape (fun _ => True) v := by
  have dict : params.isDict = true := shape.params params ((reach_key_one _).trans found)
  have additionalDict : ∀ ap, params.get? "additionalParams" = some ap → ap.isDict = true :=
    fun ap isAp => shape.additional ap ((reach_key_two found _).trans isAp)
  have reaches : t.reach vduParamsPath = (params.get? "additionalParams").bind fun ap =>
      ap.get? "vdu_params" := by
    show (t.get? "operationParams").bind (fun u => (u.get? "additionalParams").bind fun ap =>
      (ap.get? "vdu_params").bind some) = _
    rw [found]
    simp only [Option.bind_some, Option.bind_fun_some]
  have vims : ∀ v, params.get? "vimConnectionInfo" = some v →
      (Change.into (vimInfosPass popAct) v).isSome = true := fun v isVim =>
    into_isSome.mpr (vimInfosPass_isSome shape.vimInfos ((reach_key_two found _).trans isVim))
  unfold popOperationParams
  rw [Json.alter_bind_alter (by decide), Json.edit_isSome]
  constructor
  · rintro ⟨_, each⟩ v isVdu
    rw [reaches] at isVdu
    obtain ⟨ap, isAp, isVdu⟩ := Option.bind_eq_some_iff.mp isVdu
    have here := each "additionalParams" ap isAp
    rw [if_neg (by decide), if_pos rfl, into_isSome,
      additionalParamsPass_isSome (P := fun _ => True) fun _ => ⟨fun _ => trivial, fun _ => rfl⟩]
      at here
    exact here.2 v isVdu
  · intro shapes
    refine ⟨dict, fun key v isMember => ?_⟩
    by_cases isVim : key = "vimConnectionInfo"
    · rw [if_pos isVim]
      exact vims v (isVim ▸ isMember)
    · rw [if_neg isVim]
      by_cases isAp : key = "additionalParams"
      · rw [if_pos isAp, into_isSome,
          additionalParamsPass_isSome (P := fun _ => True) fun _ =>
            ⟨fun _ => trivial, fun _ => rfl⟩]
        subst isAp
        refine ⟨additionalDict v isMember, fun vduParams isVdu => shapes vduParams ?_⟩
        rw [reaches, isMember]
        exact isVdu
      · rw [if_neg isAp]
        rfl

lemma popLcmoccCred_isSome {t : Json} (shape : LcmoccShape t) :
    (popLcmoccCred t).isSome = true ↔
      (∀ v, t.reach vduParamsPath = some v → VduParamsShape (fun _ => True) v) ∧
        AccessAt t changedVimInfosPath := by
  unfold popLcmoccCred
  rw [Json.alter_bind_alter (by decide), Json.edit_isSome]
  have changed : ∀ info, t.get? "changedInfo" = some info →
      ((popChangedInfo info).isSome = true ↔ AccessAt t changedVimInfosPath) := by
    intro info found
    have dict : info.isDict = true := shape.changed info ((reach_key_one _).trans found)
    have reaches : t.reach changedVimInfosPath = info.get? "vimConnectionInfo" :=
      reach_key_two found _
    apply Json.alter_isSome.trans
    constructor
    · rintro ⟨_, each⟩
      cases isVim : info.get? "vimConnectionInfo" with
      | none =>
        intro vimKey isSome
        rw [Json.reach_append, reaches, isVim] at isSome
        cases isSome
      | some v =>
        exact (changedVimInfos_isSome shape.changedVimInfos (reaches.trans isVim)).mp
          (into_isSome.mp (each v isVim))
    · intro access
      refine ⟨dict, fun v isVim => into_isSome.mpr ?_⟩
      exact (changedVimInfos_isSome shape.changedVimInfos (reaches.trans isVim)).mpr access
  constructor
  · rintro ⟨_, each⟩
    constructor
    · intro v isVdu
      have reached : t.reach vduParamsPath = some v := isVdu
      rw [vduParamsPath, Json.keyPath_cons, reach_key] at reached
      obtain ⟨params, found, _⟩ := Option.bind_eq_some_iff.mp reached
      have here := each "operationParams" params found
      rw [if_pos rfl, into_isSome] at here
      exact (popOperationParams_isSome shape found).mp here v isVdu
    · cases found : t.get? "changedInfo" with
      | none =>
        intro vimKey isSome
        rw [changedVimInfosPath, Json.keyPath_cons, List.cons_append, reach_key, found] at isSome
        cases isSome
      | some info =>
        have here := each "changedInfo" info found
        rw [if_neg (by decide), if_pos rfl, into_isSome] at here
        exact (changed info found).mp here
  · rintro ⟨shapes, access⟩
    refine ⟨shape.dict, fun key v found => ?_⟩
    by_cases isParams : key = "operationParams"
    · rw [if_pos isParams, into_isSome]
      subst isParams
      exact (popOperationParams_isSome shape found).mpr shapes
    · rw [if_neg isParams]
      by_cases isChanged : key = "changedInfo"
      · rw [if_pos isChanged, into_isSome]
        subst isChanged
        exact (changed v found).mpr access
      · rw [if_neg isChanged]
        rfl

lemma Leaves.instShape (leaves : Leaves odict selected returned) (shape : InstShape odict) :
    InstShape selected where
  dict := leaves.dict
  vimInfos := leaves.vimInfosAt shape.vimInfos

lemma Leaves.lcmoccShape (leaves : Leaves odict selected returned) (shape : LcmoccShape odict) :
    LcmoccShape selected where
  dict := leaves.dict
  params := leaves.dictAt shape.params
  vimInfos := leaves.vimInfosAt shape.vimInfos
  additional := leaves.dictAt shape.additional
  changed := leaves.dictAt shape.changed
  changedVimInfos := leaves.vimInfosAt shape.changedVimInfos

/-! ## What is returned -/

lemma Leaves.isSome_iff (leaves : Leaves odict selected returned) (path : Path) :
    (selected.reach path).isSome = true ↔ returned path ∧ (odict.reach path).isSome = true := by
  have node : ∀ {t : Json}, (t.reach path).isSome = (t.node? path).isSome := fun {t} =>
    (Option.isSome_map ..).symm
  by_cases isReturned : returned path
  · rw [node, leaves.same path isReturned, ← node]
    exact ⟨fun isSome => ⟨isReturned, isSome⟩, fun both => both.2⟩
  · rw [leaves.gone path isReturned]
    exact ⟨fun isSome => (by cases isSome), fun both => absurd both.1 isReturned⟩

/-- The `vdu_params`, if it is returned, is a list of dictionaries with dictionaries around their
secrets, an empty text, or a dictionary of which nothing is returned. -/
def VduParamsReadable (odict : Json) (returned : Path → Prop) : Prop :=
  ∀ v, odict.reach vduParamsPath = some v → returned vduParamsPath →
    (v.isList = true ∧ ∀ item ∈ v.items, VduParamShape (fun _ => True) item) ∨
      (isString v = true ∧ truthy v = false) ∨
        (v.isDict = true ∧ ∀ key, (v.get? key).isSome = true →
          ¬ returned (vduParamsPath ++ [.key key]))

/-- Every VIM connection in `changedInfo` that is returned is returned with an `accessInfo`. -/
def AccessReturned (odict : Json) (returned : Path → Prop) : Prop :=
  ∀ vimKey, returned (changedVimInfosPath ++ [.key vimKey]) →
    (odict.reach (changedVimInfosPath ++ [.key vimKey])).isSome = true →
      returned (changedVimInfosPath ++ [.key vimKey, .key "accessInfo"]) ∧
        (odict.reach (changedVimInfosPath ++ [.key vimKey, .key "accessInfo"])).isSome = true

lemma Leaves.accessAt_iff (leaves : Leaves odict selected returned) :
    AccessAt selected changedVimInfosPath ↔ AccessReturned odict returned := by
  apply forall_congr'
  intro vimKey
  rw [leaves.isSome_iff, leaves.isSome_iff, and_imp]

/-- What has no members, among dictionaries, counts as false. -/
lemma truthy_dict {v : Json} (dict : v.isDict = true) :
    truthy v = false ↔ ∀ key, v.get? key = none := by
  constructor
  · intro isFalse
    exact get?_of_falsy (by rw [isFalse]; exact Bool.false_ne_true)
  · intro none
    cases v with
    | obj keys unique value =>
      have empty : keys = [] := by
        apply List.eq_nil_iff_forall_not_mem.mpr
        intro key mem
        have here := none key
        rw [Json.get?, if_pos mem] at here
        cases here
      subst empty
      rfl
    | _ => cases dict

lemma isString_notDict {v : Json} (isString : isString v = true) : v.isDict = false := by
  cases v with
  | obj keys unique value => cases isString
  | _ => rfl

lemma isList_notDict {v : Json} (isList : v.isList = true) : v.isDict = false := by
  cases v with
  | obj keys unique value => cases isList
  | _ => rfl

lemma Leaves.vduParams_iff (leaves : Leaves odict selected returned) :
    (∀ v, selected.reach vduParamsPath = some v → VduParamsShape (fun _ => True) v) ↔
      VduParamsReadable odict returned := by
  constructor
  · intro shapes v reached isReturned
    cases dict : v.isDict with
    | false =>
      rcases shapes v (leaves.intact _ v isReturned reached dict) with isList | ⟨either, isFalse⟩
      · exact .inl isList
      · rw [dict] at either
        exact .inr (.inl ⟨either.resolve_left Bool.false_ne_true, isFalse⟩)
    | true =>
      have isSome := (leaves.isSome_iff vduParamsPath).mpr
        ⟨isReturned, by rw [reached]; rfl⟩
      obtain ⟨v', found⟩ := Option.isSome_iff_exists.mp isSome
      have dict' : v'.isDict = true := by
        have node := leaves.same _ isReturned
        rw [Json.node?, Json.node?, found, reached] at node
        exact Json.node_eq_dict.mp
          ((Option.some.inj node).trans (Json.node_eq_dict.mpr dict))
      refine .inr (.inr ⟨rfl, fun key isMember isReturned' => ?_⟩)
      have isSome' := (leaves.isSome_iff (vduParamsPath ++ [.key key])).mpr
        ⟨isReturned', by rw [reach_one reached]; exact isMember⟩
      rw [reach_one found] at isSome'
      rcases shapes v' found with ⟨isList, _⟩ | ⟨_, isFalse⟩
      · rw [isList_notDict isList] at dict'
        cases dict'
      · rw [(truthy_dict dict').mp isFalse key] at isSome'
        cases isSome'
  · intro readable v' found
    have isReturned : returned vduParamsPath := by
      by_contra notReturned
      rw [leaves.gone _ notReturned] at found
      cases found
    have node := leaves.same _ isReturned
    rw [Json.node?, found] at node
    obtain ⟨v, reached, same⟩ := Json.node?_eq_some.mp node.symm
    have intact : v.isDict = false → v' = v := fun notDict =>
      Option.some.inj (found.symm.trans (leaves.intact _ v isReturned reached notDict))
    rcases readable v reached isReturned with isList | ⟨isText, isFalse⟩ | ⟨dict, none⟩
    · rw [intact (isList_notDict isList.1)]
      exact .inl isList
    · rw [intact (isString_notDict isText)]
      exact .inr ⟨.inr isText, isFalse⟩
    · have dict' : v'.isDict = true := by
        apply Json.node_eq_dict.mp
        rw [← same]
        exact Json.node_eq_dict.mpr dict
      refine .inr ⟨.inl dict', (truthy_dict dict').mpr fun key => ?_⟩
      rw [← reach_one found]
      apply Option.not_isSome_iff_eq_none.mp
      intro isSome
      obtain ⟨isReturned', isSome⟩ := (leaves.isSome_iff _).mp isSome
      rw [reach_one reached] at isSome
      exact none key isSome isReturned'

/-! ## Documents of objects and rows -/

section Documents

variable {cls : ClassName} {isParams : Bool}

lemma attr_of_get? {v : Value (registry operation) (.object cls isParams)}
    (i : Fin (registry operation cls).size) {doc : Json}
    (found : (v.toPrimitive types).get? ((registry operation cls).name i) = some doc) :
    ∃ w, v.attr? i = some w ∧ w.toPrimitive types = doc := by
  rw [toPrimitive_object, get?_objectDoc] at found
  exact Option.map_eq_some_iff.mp found

lemma isDict_objectValue (v : Value (registry operation) (.object cls isParams)) :
    (v.toPrimitive types).isDict = true := by
  cases v
  rfl

/-- The document of VIM connections is made of dictionaries. -/
lemma vimInfosAt_of_value (operation : LcmOperationType) (types : FieldTypes) {t : Json} {path : Path}
    (typed : ∀ doc, t.reach path = some doc →
      ∃ vims : Value (registry operation) (.dict (.object .vimConnectionInfo false)),
        doc = vims.toPrimitive types) : VimInfosAt t path := by
  have members : ∀ {doc : Json} {vimKey : String} {vimInfo : Json}, t.reach path = some doc →
      doc.get? vimKey = some vimInfo →
        ∃ vim : Value (registry operation) (.object .vimConnectionInfo false),
          vimInfo = vim.toPrimitive types := by
    intro doc vimKey vimInfo found isMember
    obtain ⟨vims, rfl⟩ := typed doc found
    cases vims with
    | dict keys unique item =>
      have inj : Function.Injective keys.get := List.nodup_iff_injective_get.mp unique
      have isMember : (if vimKey ∈ keys then
          some (members keys.get (fun j => (item j).toPrimitive types) vimKey) else none) =
            some vimInfo := isMember
      by_cases mem : vimKey ∈ keys
      · obtain ⟨j, rfl⟩ := List.get_of_mem mem
        rw [if_pos mem, members_name inj] at isMember
        exact ⟨item j, (Option.some.inj isMember).symm⟩
      · rw [if_neg mem] at isMember
        cases isMember
  constructor
  · intro doc found
    obtain ⟨vims, rfl⟩ := typed doc found
    exact isDict_dict vims
  · intro vimKey vimInfo reached
    rw [Json.reach_append] at reached
    obtain ⟨doc, found, isMember⟩ := Option.bind_eq_some_iff.mp reached
    rw [reach_single] at isMember
    obtain ⟨vim, rfl⟩ := members found isMember
    exact isDict_objectValue vim
  · intro vimKey a reached
    rw [Json.reach_append] at reached
    obtain ⟨doc, found, isMember⟩ := Option.bind_eq_some_iff.mp reached
    rw [reach_key] at isMember
    obtain ⟨vimInfo, isMember, isAccess⟩ := Option.bind_eq_some_iff.mp isMember
    rw [reach_single] at isAccess
    obtain ⟨vim, rfl⟩ := members found isMember
    obtain ⟨w, _, rfl⟩ := attr_of_get? accessInfoField isAccess
    exact isDict_pairs w

/-- A `vimConnectionInfo` of parameters is a dictionary of VIM connections. -/
lemma params_vimInfos (params : OperationParams operation) {doc : Json}
    (found : (params.toPrimitive types).get? "vimConnectionInfo" = some doc) :
    ∃ vims : Value (registry operation) (.dict (.object .vimConnectionInfo false)),
      doc = vims.toPrimitive types := by
  have absent : (∀ i, (registry operation (paramsClass operation)).name i ≠
      "vimConnectionInfo") → False := by
    intro other
    rw [toPrimitive_object, get?_objectDoc_other _ other] at found
    cases found
  cases operation with
  | instantiate =>
    obtain ⟨w, _, same⟩ := attr_of_get? (⟨4, by decide⟩ : Fin (registry .instantiate _).size) found
    exact ⟨w, same.symm⟩
  | changeExtConn =>
    obtain ⟨w, _, same⟩ := attr_of_get? (⟨1, by decide⟩ : Fin (registry .changeExtConn _).size) found
    exact ⟨w, same.symm⟩
  | modifyInfo =>
    obtain ⟨w, _, same⟩ := attr_of_get? (⟨6, by decide⟩ : Fin (registry .modifyInfo _).size) found
    exact ⟨w, same.symm⟩
  | changeVnfpkg =>
    obtain ⟨w, _, same⟩ := attr_of_get? (⟨3, by decide⟩ : Fin (registry .changeVnfpkg _).size) found
    exact ⟨w, same.symm⟩
  | scale => exact absurd (absent (by decide)) id
  | terminate => exact absurd (absent (by decide)) id
  | heal => exact absurd (absent (by decide)) id

/-- The `additionalParams` of parameters are key value pairs. -/
lemma params_additional (params : OperationParams operation) {doc : Json}
    (found : (params.toPrimitive types).get? "additionalParams" = some doc) :
    ∃ pairs : Value (registry operation) .keyValuePairs, doc = pairs.toPrimitive types := by
  cases operation with
  | modifyInfo =>
    rw [toPrimitive_object, get?_objectDoc_other _ (by decide)] at found
    cases found
  | instantiate =>
    obtain ⟨w, _, same⟩ := attr_of_get? (⟨6, by decide⟩ : Fin (registry .instantiate _).size) found
    exact ⟨w, same.symm⟩
  | scale =>
    obtain ⟨w, _, same⟩ := attr_of_get? (⟨3, by decide⟩ : Fin (registry .scale _).size) found
    exact ⟨w, same.symm⟩
  | terminate =>
    obtain ⟨w, _, same⟩ := attr_of_get? (⟨2, by decide⟩ : Fin (registry .terminate _).size) found
    exact ⟨w, same.symm⟩
  | heal =>
    obtain ⟨w, _, same⟩ := attr_of_get? (⟨1, by decide⟩ : Fin (registry .heal _).size) found
    exact ⟨w, same.symm⟩
  | changeExtConn =>
    obtain ⟨w, _, same⟩ := attr_of_get? (⟨2, by decide⟩ : Fin (registry .changeExtConn _).size) found
    exact ⟨w, same.symm⟩
  | changeVnfpkg =>
    obtain ⟨w, _, same⟩ := attr_of_get? (⟨4, by decide⟩ : Fin (registry .changeVnfpkg _).size) found
    exact ⟨w, same.symm⟩

/-- What is at an attribute satisfies a predicate, told by the document. -/
lemma each_attr {Q : Json → Prop} {i : Fin (registry operation cls).size}
    {inner : Place (registry operation) ((registry operation cls).kind i)}
    (whole : ∀ w, inner.Each Q w ↔ Q (w.toPrimitive types))
    (v : Value (registry operation) (.object cls isParams)) :
    EachAt Q (some (Place.attr i inner)) v ↔
      ∀ doc, (v.toPrimitive types).get? ((registry operation cls).name i) = some doc → Q doc := by
  constructor
  · intro each doc found
    obtain ⟨w, set, rfl⟩ := attr_of_get? i found
    exact (whole w).mp (each _ rfl w set)
  · intro each p same
    obtain rfl := Option.some.inj same
    intro w set
    apply (whole w).mpr
    apply each
    rw [toPrimitive_object, get?_objectDoc, set]
    rfl

lemma each_pairs {Q : Json → Prop} (w : Value (registry operation) .keyValuePairs) :
    (Place.pairs : Place (registry operation) .keyValuePairs).Each Q w ↔
      Q (w.toPrimitive types) := by
  cases w
  exact Iff.rfl

/-- What the additional parameters of an operation satisfy, told by the document. -/
lemma eachAt_additional (types : FieldTypes) {Q : Json → Prop} (params : OperationParams operation) :
    EachAt Q (paramsAdditional operation) params ↔
      ∀ doc, (params.toPrimitive types).get? "additionalParams" = some doc → Q doc := by
  cases operation with
  | modifyInfo =>
    refine ⟨fun _ doc found => ?_, fun _ p absent => (by cases absent)⟩
    rw [toPrimitive_object, get?_objectDoc_other _ (by decide)] at found
    cases found
  | instantiate => exact each_attr each_pairs params
  | scale => exact each_attr each_pairs params
  | terminate => exact each_attr each_pairs params
  | heal => exact each_attr each_pairs params
  | changeExtConn => exact each_attr each_pairs params
  | changeVnfpkg => exact each_attr each_pairs params

end Documents

end Tacker.View
