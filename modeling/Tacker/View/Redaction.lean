import Tacker.View.SelectedFields
import Tacker.Crypt.CredentialRoundTrip

/-!
# Redaction of credentials

`detail` and `detail_dict` of `InstanceViewBuilder` and `LcmOpOccViewBuilder`. The dictionary of a
resource gets its links, the selector is applied to it, and the credentials are removed. A resource
that is shown is converted from an object, whose key value pairs share what is nested in them with
the dictionary; resources that are listed are dictionaries from rows.
-/

namespace Tacker.View

open Tacker.Basis Tacker.Fields Tacker.Objects Tacker.Crypt

variable {operation : LcmOperationType} (types : FieldTypes) (endpoint : String)

/-! ## Links -/

/-- A text. -/
def asText : Json → Option String
  | .atom (.str s) => some s
  | _ => none

/-- The text of a member, as `odict[key]` with a format. -/
def textAt (odict : Json) (key : String) : Option String := (odict.get? key).bind asText

/-- `inst_href`. -/
def instHref (instId : String) : String := endpoint ++ "/vnflcm/v2/vnf_instances/" ++ instId

/-- `lcmocc_href`. -/
def lcmoccHref (lcmoccId : String) : String :=
  endpoint ++ "/vnflcm/v2/vnf_lcm_op_occs/" ++ lcmoccId

/-- A link. -/
def link (href : String) : Json := Json.dict [("href", str href)]

/-- The links of an instance in a state. -/
def instLinks (selfHref state : String) : Json :=
  if state = "NOT_INSTANTIATED" then
    Json.dict [("self", link selfHref), ("instantiate", link (selfHref ++ "/instantiate"))]
  else
    Json.dict [("self", link selfHref), ("terminate", link (selfHref ++ "/terminate")),
      ("scale", link (selfHref ++ "/scale")), ("heal", link (selfHref ++ "/heal")),
      ("changeExtConn", link (selfHref ++ "/change_ext_conn"))]

/-- `make_inst_links`. -/
def makeInstLinks (inst : Json) : Option Json :=
  (textAt inst "id").bind fun instId =>
    (textAt inst "instantiationState").map fun state => instLinks (instHref endpoint instId) state

/-- `make_lcmocc_links`. -/
def makeLcmoccLinks (lcmocc : Json) : Option Json :=
  (textAt lcmocc "id").bind fun lcmoccId =>
    (textAt lcmocc "vnfInstanceId").map fun instId =>
      Json.dict [("self", link (lcmoccHref endpoint lcmoccId)),
        ("vnfInstance", link (instHref endpoint instId)),
        ("retry", link (lcmoccHref endpoint lcmoccId ++ "/retry")),
        ("rollback", link (lcmoccHref endpoint lcmoccId ++ "/rollback")),
        ("fail", link (lcmoccHref endpoint lcmoccId ++ "/fail"))]

/-! ## Credentials -/

/-- The credentials of the `vimConnectionInfo` of an instance are removed. -/
def popInstCred : Json → Option Json :=
  Json.alter "vimConnectionInfo" (Change.into (vimInfosPass popAct))

/-- The credentials of a VIM connection in `changedInfo` are removed; its `accessInfo` is read
without a check. -/
def popChangedVimInfo (vimInfo : Json) : Option Json :=
  if (vimInfo.get? "accessInfo").isSome then
    vimInfo.alter "accessInfo" (Change.into (accessInfoPass popAct))
  else none

/-- The credentials of `operationParams` are removed. -/
def popOperationParams (params : Json) : Option Json :=
  (params.alter "vimConnectionInfo" (Change.into (vimInfosPass popAct))).bind
    (Json.alter "additionalParams" (Change.into (additionalParamsPass popAct)))

/-- The credentials of `changedInfo` are removed. -/
def popChangedInfo : Json → Option Json :=
  Json.alter "vimConnectionInfo" (Change.into (Json.edit fun _ => Change.into popChangedVimInfo))

/-- `_pop_cred`. -/
def popLcmoccCred (resp : Json) : Option Json :=
  (resp.alter "operationParams" (Change.into popOperationParams)).bind
    (Json.alter "changedInfo" (Change.into popChangedInfo))

/-! ## Views -/

/-- `selector.filter`, if there is a selector. -/
def filterIf (selector : Option Selector) (odict : Json) : Option Json :=
  match selector with
  | some selector => selector.filter odict
  | none => some odict

/-- `InstanceViewBuilder.detail_dict`. -/
def instDetailDict (inst : Json) (selector : Option Selector) : Option Json :=
  (makeInstLinks endpoint inst).bind fun links =>
    (filterIf selector (inst.set "_links" links)).bind popInstCred

/-- `LcmOpOccViewBuilder.detail_dict`. -/
def lcmoccDetailDict (lcmocc : Json) (selector : Option Selector) : Option Json :=
  (makeLcmoccLinks endpoint lcmocc).bind fun links =>
    (filterIf selector (lcmocc.set "_links" links)).bind popLcmoccCred

/-- `InstanceViewBuilder.detail`, and the object after it. -/
def instDetail (inst : VnfInstance operation) : Option (Json × VnfInstance operation) :=
  (instDetailDict endpoint (toDict types inst) none).map fun view => (view, inst)

/-- `LcmOpOccViewBuilder.detail`, and the object after it: what is removed from `vdu_params` is
removed from the additional parameters of the object as well. -/
def lcmoccDetail (lcmocc : VnfLcmOpOcc operation) : Option (Json × VnfLcmOpOcc operation) :=
  (lcmoccDetailDict endpoint (toDict types lcmocc) none).bind fun view =>
    (Value.onAttr operationParamsField
      (changeAt (additionalParamsPass popAct) (paramsAdditional operation)) lcmocc).map
        fun after => (view, after)

/-! ## Rows -/

/-- `_ALL` of instances. -/
def instAttrs : List String :=
  ["id", "vnfInstanceName", "vnfInstanceDescription", "vnfdId", "vnfProvider", "vnfProductName",
   "vnfSoftwareVersion", "vnfdVersion", "instantiationState", "vnfConfigurableProperties",
   "vimConnectionInfo", "instantiatedVnfInfo", "metadata", "extensions"]

/-- `_ALL` of occurrences. -/
def lcmoccAttrs : List String :=
  ["id", "operationState", "stateEnteredTime", "startTime", "vnfInstanceId", "grantId",
   "operation", "isAutomaticInvocation", "operationParams", "isCancelPending", "cancelMode",
   "error", "resourceChanges", "changedInfo", "changedExtConnectivity",
   "modificationsTriggeredByVnfPkgChange", "vnfSnapshotInfoId"]

/-- What a column holds as a member of a dictionary; a point in time, which has no members, is told
by its primitive. -/
def columnDoc : Column → Json
  | .text doc => doc
  | .dateTime value => types.toPrimitive (.dateTime value)
  | .primitive doc => doc

/-- An attribute in a row. -/
def rowValue (row : Row) (attr : String) : Option Json :=
  (row (getModelField attr)).map (columnDoc types)

/-- The dictionary of the attributes in a row that are not null. -/
def rowDict (attrs : List String) (row : Row) : Json :=
  .obj (attrs.dedup.filter fun attr => (rowValue types row attr).isSome)
    ((List.nodup_dedup attrs).filter _) fun attr => (rowValue types row attr).getD .null

/-- The dictionary of a row that `get_dict_all` returns for a selector. -/
def Selector.rowDict (selector : Selector) (row : Row) : Json :=
  View.rowDict types (selector.returnAttrs ++ selector.extraAttrs) row

/-- The attributes that the selector asks for are columns of the model. -/
def Selector.Known (selector : Selector) (allAttrs : List String) : Prop :=
  ∀ attr ∈ selector.returnAttrs ++ selector.extraAttrs, attr ∈ allAttrs

instance (selector : Selector) (allAttrs : List String) : Decidable (selector.Known allAttrs) :=
  inferInstanceAs (Decidable (∀ attr ∈ selector.returnAttrs ++ selector.extraAttrs,
    attr ∈ allAttrs))

/-- An instance as it is listed. -/
def instListed (selector : Selector) (row : Row) : Option Json :=
  if selector.Known instAttrs then
    instDetailDict endpoint (selector.rowDict types row) (some selector)
  else none

/-- An occurrence as it is listed. -/
def lcmoccListed (selector : Selector) (row : Row) : Option Json :=
  if selector.Known lcmoccAttrs then
    lcmoccDetailDict endpoint (selector.rowDict types row) (some selector)
  else none

/-! ## What a view may tell -/

/-- The path of a credential in the `accessInfo` of a VIM connection, which is in a dictionary at the
path. -/
def IsAccessPath (vimInfos path : Path) : Prop :=
  ∃ vimKey, ∃ key ∈ credData, path = vimInfos ++ [.key vimKey, .key "accessInfo", .key key]

/-- The paths of the secrets in an `old_vnfc_param` or `new_vnfc_param`. -/
def vnfcSecrets : List (List String) :=
  [["password"], ["authentication", "paramsBasic", "password"],
   ["authentication", "paramsOauth2ClientCredentials", "clientPassword"]]

/-- The path of a secret in an item of a list at the path. -/
def IsVduPath (vduParams path : Path) : Prop :=
  ∃ i, ∃ side ∈ ["old_vnfc_param", "new_vnfc_param"], ∃ secret ∈ vnfcSecrets,
    path = vduParams ++ .index i :: .key side :: Json.keyPath secret

/-- The path of `vdu_params`. -/
def vduParamsPath : Path := Json.keyPath ["operationParams", "additionalParams", "vdu_params"]

/-- The path of `vimConnectionInfo` in `changedInfo`. -/
def changedVimInfosPath : Path := Json.keyPath ["changedInfo", "vimConnectionInfo"]

/-- The credentials of an instance. -/
def instCredentials : Json.Part String Atom := fun path _ =>
  IsAccessPath (Json.keyPath ["vimConnectionInfo"]) path

/-- The credentials of an occurrence; an empty secret of a VDU is none. -/
def lcmoccCredentials : Json.Part String Atom := fun path v =>
  IsAccessPath (Json.keyPath ["operationParams", "vimConnectionInfo"]) path ∨
    (IsVduPath vduParamsPath path ∧ truthy v = true) ∨ IsAccessPath changedVimInfosPath path

/-- A view tells at every path what the dictionary has there, if that is returned and is not a
credential or below one, and nothing else. -/
structure Redacted (credentials : Json.Part String Atom) (odict : Json) (returned : Path → Prop)
    (view : Json) : Prop where
  credential : ∀ path, Json.Covers credentials odict path → view.node? path = none
  notReturned : ∀ path, ¬ returned path → view.node? path = none
  others : ∀ path, returned path → ¬ Json.Covers credentials odict path →
    view.node? path = odict.node? path

/-! ## Removed credentials -/

lemma changeRemoves_popAct :
    Json.ChangeRemoves popAct fun path _ => path = [] := by
  have drop : Json.ChangeRemoves popAct fun path _ => path = [] ∧ True :=
    Json.changeRemoves_drop (fun _ _ => rfl) fun _ no => absurd trivial no
  have same : (fun (path : Path) (_ : Json) => path = [] ∧ True) = fun path _ => path = [] := by
    funext path v
    rw [and_true]
  rw [same] at drop
  exact drop

/-- The part of the credentials in an `accessInfo`. -/
def accessPart : Json.Part String Atom := fun path _ => ∃ key ∈ credData, path = [.key key]

lemma removes_accessInfo : Json.Removes (accessInfoPass popAct) accessPart := by
  have parts : accessPart = Json.AtKeys fun key =>
      if key ∈ credData then fun path _ => path = [] else Json.nowhere := by
    funext path v
    apply propext
    constructor
    · rintro ⟨key, mem, rfl⟩
      refine ⟨key, [], rfl, ?_⟩
      show (if key ∈ credData then _ else _ : Json.Part String Atom) [] v
      rw [if_pos mem]
    · rintro ⟨key, rest, rfl, isPart⟩
      have isPart : (if key ∈ credData then fun path _ => path = [] else Json.nowhere :
        Json.Part String Atom) rest v := isPart
      by_cases mem : key ∈ credData
      · rw [if_pos mem] at isPart
        exact ⟨key, mem, by rw [isPart]⟩
      · rw [if_neg mem] at isPart
        exact absurd isPart id
  rw [funext (accessInfoPass_eq popAct), parts]
  apply Json.removes_edit
  intro key
  by_cases mem : key ∈ credData
  · rw [if_pos mem, if_pos mem]
    exact changeRemoves_popAct
  · rw [if_neg mem, if_neg mem]
    exact Json.changeRemoves_keep

/-- The part of the credentials in a `vimConnectionInfo`. -/
def vimInfosPart : Json.Part String Atom :=
  Json.AtKeys fun _ => Json.AtKey "accessInfo" accessPart

lemma removes_vimInfos : Json.Removes (vimInfosPass popAct) vimInfosPart :=
  Json.removes_edit fun _ => Json.changeRemoves_into
    (Json.removes_alter "accessInfo" (Json.changeRemoves_into removes_accessInfo))

lemma removes_changedVimInfos :
    Json.Removes (Json.edit fun _ => Change.into popChangedVimInfo) vimInfosPart := by
  apply Json.removes_edit
  intro _
  apply Json.changeRemoves_into
  apply (Json.removes_alter "accessInfo" (Json.changeRemoves_into removes_accessInfo)).restrict
  intro t t' made
  by_cases isThere : (t.get? "accessInfo").isSome = true
  · exact (if_pos isThere).symm.trans made
  · rw [popChangedVimInfo, if_neg isThere] at made
    cases made

/-- The part of a secret that counts as true. -/
def secretPart : Json.Part String Atom := fun path v => path = [] ∧ truthy v = true

lemma changeRemoves_secret : Json.ChangeRemoves (whenTruthy popAct) secretPart :=
  Json.changeRemoves_drop (fun _ isTrue => if_pos isTrue) fun _ isFalse => if_neg isFalse

/-- What counts as false has no members. -/
lemma get?_of_falsy {t : Json} (isFalse : ¬ truthy t = true) (key : String) :
    t.get? key = none := by
  cases t with
  | obj keys unique value =>
    apply if_neg
    intro mem
    apply isFalse
    show (!keys.isEmpty) = true
    rw [List.isEmpty_eq_false_iff.mpr (List.ne_nil_of_mem mem)]
    rfl
  | _ => rfl

lemma changeRemoves_whenTruthy {f : Json → Option Json} {D : String → Json.Part String Atom}
    (removes : Json.Removes f (Json.AtKeys D)) :
    Json.ChangeRemoves (whenTruthy (Change.into f)) (Json.AtKeys D) := by
  have into := Json.changeRemoves_into removes
  have none : ∀ {v : Json} {path : Path}, ¬ truthy v = true →
      ¬ Json.Covers (Json.AtKeys D) v path := by
    rintro v path isFalse ⟨front, rest, u, rfl, reached, key, front', rfl, _⟩
    rw [reach_key, get?_of_falsy isFalse] at reached
    cases reached
  constructor
  · intro v made
    by_cases isTrue : truthy v = true
    · exact into.whole ((if_pos isTrue).symm.trans made)
    · rw [whenTruthy_of_falsy isTrue] at made
      cases made
  · intro v w path made covers
    by_cases isTrue : truthy v = true
    · exact into.gone ((if_pos isTrue).symm.trans made) covers
    · exact absurd covers (none isTrue)
  · intro v w path made uncovered
    by_cases isTrue : truthy v = true
    · exact into.same ((if_pos isTrue).symm.trans made) uncovered
    · rw [whenTruthy_of_falsy isTrue] at made
      rw [Option.some.inj (Option.some.inj made)]
  · intro v w path u made reached uncovered
    by_cases isTrue : truthy v = true
    · exact into.intact ((if_pos isTrue).symm.trans made) reached uncovered
    · rw [whenTruthy_of_falsy isTrue] at made
      rw [← Option.some.inj (Option.some.inj made)]
      exact reached

/-- The part of the secrets of an `authentication`, by its keys. -/
def authenticationPart : String → Json.Part String Atom := fun key =>
  if key = "paramsBasic" then Json.AtKey "password" secretPart
  else if key = "paramsOauth2ClientCredentials" then Json.AtKey "clientPassword" secretPart
  else Json.nowhere

/-- The part of the secrets of an `old_vnfc_param` or `new_vnfc_param`, by its keys. -/
def vnfcParamPart : String → Json.Part String Atom := fun key =>
  if key = "password" then secretPart
  else if key = "authentication" then Json.AtKeys authenticationPart
  else Json.nowhere

/-- The part of the secrets of an item of `vdu_params`, by its keys. -/
def vduParamPart : String → Json.Part String Atom := fun key =>
  if key ∈ ["old_vnfc_param", "new_vnfc_param"] then Json.AtKeys vnfcParamPart
  else Json.nowhere

lemma changeRemoves_authentication (key : String) :
    Json.ChangeRemoves (authenticationEdit popAct key) (authenticationPart key) := by
  unfold authenticationEdit authenticationPart
  by_cases basic : key = "paramsBasic"
  · rw [if_pos basic, if_pos basic]
    exact Json.changeRemoves_into (Json.removes_alter _ changeRemoves_secret)
  · rw [if_neg basic, if_neg basic]
    by_cases oauth : key = "paramsOauth2ClientCredentials"
    · rw [if_pos oauth, if_pos oauth]
      exact Json.changeRemoves_into (Json.removes_alter _ changeRemoves_secret)
    · rw [if_neg oauth, if_neg oauth]
      exact Json.changeRemoves_keep

lemma changeRemoves_vnfcParam (key : String) :
    Json.ChangeRemoves (vnfcParamEdit popAct key) (vnfcParamPart key) := by
  unfold vnfcParamEdit vnfcParamPart
  by_cases password : key = "password"
  · rw [if_pos password, if_pos password]
    exact changeRemoves_secret
  · rw [if_neg password, if_neg password]
    by_cases auth : key = "authentication"
    · rw [if_pos auth, if_pos auth]
      exact Json.changeRemoves_into (Json.removes_edit changeRemoves_authentication)
    · rw [if_neg auth, if_neg auth]
      exact Json.changeRemoves_keep

lemma removes_vduParam : Json.Removes (vduParamPass popAct) (Json.AtKeys vduParamPart) := by
  rw [funext (vduParamPass_eq popAct)]
  apply Json.removes_edit
  intro key
  unfold vduParamEdit vduParamPart
  by_cases mem : key ∈ ["old_vnfc_param", "new_vnfc_param"]
  · rw [if_pos mem, if_pos mem]
    exact changeRemoves_whenTruthy (Json.removes_edit changeRemoves_vnfcParam)
  · rw [if_neg mem, if_neg mem]
    exact Json.changeRemoves_keep

lemma removes_eachDict {f : Json → Option Json} {C : Json.Part String Atom}
    (removes : Json.Removes f C) : Json.Removes (eachDict f) (Json.AtItems C) := by
  have items := Json.removes_editItems removes
  have either : ∀ {t t' : Json}, eachDict f t = some t' → Json.editItems f t = some t' ∨
      t' = t ∧ ∀ i, t.item? i = none := by
    intro t t' made
    cases t with
    | arr size item => exact .inl made
    | obj keys unique value =>
      by_cases isEmpty : keys.isEmpty = true
      · exact .inr ⟨(Option.some.inj ((if_pos isEmpty).symm.trans made)).symm, fun _ => rfl⟩
      · cases (if_neg isEmpty).symm.trans made
    | atom a =>
      cases a with
      | str s =>
        by_cases isEmpty : s.isEmpty = true
        · exact .inr ⟨(Option.some.inj ((if_pos isEmpty).symm.trans made)).symm, fun _ => rfl⟩
        · cases (if_neg isEmpty).symm.trans made
      | _ => cases made
    | null => cases made
  have none : ∀ {t : Json} {path : Path}, (∀ i, t.item? i = none) →
      ¬ Json.Covers (Json.AtItems C) t path := by
    rintro t path noItems ⟨front, rest, u, rfl, reached, i, front', rfl, _⟩
    have absent : t.child? (.index i) = .none := noItems i
    rw [Json.reach_cons, absent] at reached
    cases reached
  constructor
  · intro t t' path made covers
    rcases either made with edited | ⟨rfl, noItems⟩
    · exact items.gone edited covers
    · exact absurd covers (none noItems)
  · intro t t' path made uncovered
    rcases either made with edited | ⟨rfl, _⟩
    · exact items.same edited uncovered
    · rfl
  · intro t t' path v made reached uncovered
    rcases either made with edited | ⟨rfl, _⟩
    · exact items.intact edited reached uncovered
    · exact reached

lemma removes_additionalParams : Json.Removes (additionalParamsPass popAct)
    (Json.AtKey "vdu_params" (Json.AtItems (Json.AtKeys vduParamPart))) :=
  Json.removes_alter _ (Json.changeRemoves_into (removes_eachDict removes_vduParam))

/-! ## Credentials by their paths -/

lemma vimInfosPart_iff {path : Path} {v : Json} : vimInfosPart path v ↔
    ∃ vimKey, ∃ key ∈ credData, path = [.key vimKey, .key "accessInfo", .key key] := by
  constructor
  · rintro ⟨vimKey, _, rfl, _, rfl, key, mem, rfl⟩
    exact ⟨vimKey, key, mem, rfl⟩
  · rintro ⟨vimKey, key, mem, rfl⟩
    exact ⟨vimKey, _, rfl, _, rfl, key, mem, rfl⟩

lemma isAccessPath_cons {key : String} {front path : Path} :
    IsAccessPath (.key key :: front) path ↔
      ∃ rest, path = .key key :: rest ∧ IsAccessPath front rest := by
  constructor
  · rintro ⟨vimKey, cred, mem, rfl⟩
    exact ⟨_, rfl, vimKey, cred, mem, rfl⟩
  · rintro ⟨_, rfl, vimKey, cred, mem, rfl⟩
    exact ⟨vimKey, cred, mem, rfl⟩

lemma atKey_vimInfos {path : Path} {v : Json} :
    Json.AtKey "vimConnectionInfo" vimInfosPart path v ↔
      IsAccessPath (Json.keyPath ["vimConnectionInfo"]) path := by
  rw [Json.keyPath_cons, isAccessPath_cons]
  apply exists_congr
  intro rest
  apply and_congr_right
  intro _
  exact vimInfosPart_iff

lemma removes_popInstCred : Json.Removes popInstCred instCredentials := by
  have parts : instCredentials = Json.AtKey "vimConnectionInfo" vimInfosPart := by
    funext path v
    exact propext atKey_vimInfos.symm
  rw [parts]
  exact Json.removes_alter _ (Json.changeRemoves_into removes_vimInfos)

lemma ite_part {c : Prop} [Decidable c] {C D : Json.Part String Atom} {path : Path} {v : Json} :
    (if c then C else D) path v ↔ (c ∧ C path v) ∨ (¬ c ∧ D path v) := by
  by_cases isIt : c
  · rw [if_pos isIt]
    exact ⟨fun isPart => .inl ⟨isIt, isPart⟩,
      fun either => either.elim (fun both => both.2) fun both => absurd isIt both.1⟩
  · rw [if_neg isIt]
    exact ⟨fun isPart => .inr ⟨isIt, isPart⟩,
      fun either => either.elim (fun both => absurd both.1 isIt) fun both => both.2⟩

lemma authenticationPart_iff {path : Path} {v : Json} : Json.AtKeys authenticationPart path v ↔
    (path = Json.keyPath ["paramsBasic", "password"] ∨
      path = Json.keyPath ["paramsOauth2ClientCredentials", "clientPassword"]) ∧
        truthy v = true := by
  constructor
  · rintro ⟨key, rest, rfl, isPart⟩
    rcases ite_part.mp isPart with ⟨rfl, _, rfl, rfl, isTrue⟩ | ⟨_, isPart⟩
    · exact ⟨.inl rfl, isTrue⟩
    · rcases ite_part.mp isPart with ⟨rfl, _, rfl, rfl, isTrue⟩ | ⟨_, isPart⟩
      · exact ⟨.inr rfl, isTrue⟩
      · exact absurd isPart id
  · rintro ⟨rfl | rfl, isTrue⟩
    · exact ⟨_, _, rfl, ite_part.mpr (.inl ⟨rfl, _, rfl, rfl, isTrue⟩)⟩
    · refine ⟨_, _, rfl, ite_part.mpr (.inr ⟨?_, ite_part.mpr (.inl ⟨rfl, _, rfl, rfl, isTrue⟩)⟩)⟩
      decide

lemma vnfcParamPart_iff {path : Path} {v : Json} : Json.AtKeys vnfcParamPart path v ↔
    (∃ secret ∈ vnfcSecrets, path = Json.keyPath secret) ∧ truthy v = true := by
  constructor
  · rintro ⟨key, rest, rfl, isPart⟩
    rcases ite_part.mp isPart with ⟨rfl, rfl, isTrue⟩ | ⟨_, isPart⟩
    · exact ⟨⟨["password"], by decide, rfl⟩, isTrue⟩
    · rcases ite_part.mp isPart with ⟨rfl, isPart⟩ | ⟨_, isPart⟩
      · obtain ⟨rfl | rfl, isTrue⟩ := authenticationPart_iff.mp isPart
        · exact ⟨⟨["authentication", "paramsBasic", "password"], by decide, rfl⟩, isTrue⟩
        · exact ⟨⟨["authentication", "paramsOauth2ClientCredentials", "clientPassword"],
            by decide, rfl⟩, isTrue⟩
      · exact absurd isPart id
  · rintro ⟨⟨secret, mem, rfl⟩, isTrue⟩
    have auth : ∀ rest, (rest = Json.keyPath ["paramsBasic", "password"] ∨
        rest = Json.keyPath ["paramsOauth2ClientCredentials", "clientPassword"]) →
          Json.AtKeys vnfcParamPart (.key "authentication" :: rest) v := by
      intro rest isSecret
      refine ⟨_, _, rfl, ite_part.mpr (.inr ⟨by decide, ite_part.mpr (.inl ⟨rfl, ?_⟩)⟩)⟩
      exact authenticationPart_iff.mpr ⟨isSecret, isTrue⟩
    rcases List.mem_cons.mp mem with rfl | mem
    · exact ⟨_, _, rfl, ite_part.mpr (.inl ⟨rfl, rfl, isTrue⟩)⟩
    · rcases List.mem_cons.mp mem with rfl | mem
      · exact auth _ (.inl rfl)
      · rw [List.mem_singleton.mp mem]
        exact auth _ (.inr rfl)

lemma vduParamPart_iff {path : Path} {v : Json} :
    Json.AtItems (Json.AtKeys vduParamPart) path v ↔
      (∃ i, ∃ side ∈ ["old_vnfc_param", "new_vnfc_param"], ∃ secret ∈ vnfcSecrets,
        path = .index i :: .key side :: Json.keyPath secret) ∧ truthy v = true := by
  constructor
  · rintro ⟨i, _, rfl, side, _, rfl, isPart⟩
    rcases ite_part.mp isPart with ⟨mem, isPart⟩ | ⟨_, isPart⟩
    · obtain ⟨⟨secret, isSecret, rfl⟩, isTrue⟩ := vnfcParamPart_iff.mp isPart
      exact ⟨⟨i, side, mem, secret, isSecret, rfl⟩, isTrue⟩
    · exact absurd isPart id
  · rintro ⟨⟨i, side, mem, secret, isSecret, rfl⟩, isTrue⟩
    refine ⟨i, _, rfl, side, _, rfl, ite_part.mpr (.inl ⟨mem, ?_⟩)⟩
    exact vnfcParamPart_iff.mpr ⟨⟨secret, isSecret, rfl⟩, isTrue⟩

/-- The part of the credentials in `operationParams`. -/
def operationParamsPart : Json.Part String Atom := fun path v =>
  Json.AtKey "vimConnectionInfo" vimInfosPart path v ∨
    Json.AtKey "additionalParams"
      (Json.AtKey "vdu_params" (Json.AtItems (Json.AtKeys vduParamPart))) path v

lemma removes_popOperationParams : Json.Removes popOperationParams operationParamsPart :=
  Json.removes_alter_alter (by decide) (Json.changeRemoves_into removes_vimInfos)
    (Json.changeRemoves_into removes_additionalParams)

lemma operationParamsPart_iff {path : Path} {v : Json} :
    Json.AtKey "operationParams" operationParamsPart path v ↔
      IsAccessPath (Json.keyPath ["operationParams", "vimConnectionInfo"]) path ∨
        (IsVduPath vduParamsPath path ∧ truthy v = true) := by
  constructor
  · rintro ⟨_, rfl, isVim | ⟨_, rfl, _, rfl, isVdu⟩⟩
    · exact .inl (isAccessPath_cons.mpr ⟨_, rfl, atKey_vimInfos.mp isVim⟩)
    · obtain ⟨⟨i, side, mem, secret, isSecret, rfl⟩, isTrue⟩ := vduParamPart_iff.mp isVdu
      exact .inr ⟨⟨i, side, mem, secret, isSecret, rfl⟩, isTrue⟩
  · rintro (isVim | ⟨⟨i, side, mem, secret, isSecret, rfl⟩, isTrue⟩)
    · obtain ⟨rest, rfl, isVim'⟩ := isAccessPath_cons.mp isVim
      exact ⟨_, rfl, .inl (atKey_vimInfos.mpr isVim')⟩
    · refine ⟨_, rfl, .inr ⟨_, rfl, _, rfl, ?_⟩⟩
      exact vduParamPart_iff.mpr ⟨⟨i, side, mem, secret, isSecret, rfl⟩, isTrue⟩

lemma removes_popLcmoccCred : Json.Removes popLcmoccCred lcmoccCredentials := by
  have changed : Json.Removes popChangedInfo (Json.AtKey "vimConnectionInfo" vimInfosPart) :=
    Json.removes_alter _ (Json.changeRemoves_into removes_changedVimInfos)
  have parts : lcmoccCredentials = fun path v =>
      Json.AtKey "operationParams" operationParamsPart path v ∨
        Json.AtKey "changedInfo" (Json.AtKey "vimConnectionInfo" vimInfosPart) path v := by
    funext path v
    apply propext
    rw [operationParamsPart_iff, or_assoc]
    apply or_congr Iff.rfl
    apply or_congr Iff.rfl
    apply isAccessPath_cons.trans
    apply exists_congr
    intro rest
    apply and_congr_right
    intro _
    exact atKey_vimInfos.symm
  rw [parts]
  exact Json.removes_alter_alter (by decide) (Json.changeRemoves_into removes_popOperationParams)
    (Json.changeRemoves_into changed)

end Tacker.View
