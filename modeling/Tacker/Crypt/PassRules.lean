import Tacker.Crypt.CryptUtils

/-!
# Rules of passes

Two passes over the same credentials, one after the other, are one pass. A pass raises only where a
dictionary is missing on the way to a credential or where its action raises.
-/

namespace Tacker.Crypt

open Tacker.Basis Tacker.Fields

variable {cipher : Cipher} {act act' : Action}

/-! ## Two passes -/

/-- Both actions, the second on what counts as true. -/
def both (first second : Action) : Action := first.andThen (whenTruthy second)

lemma whenTruthy_of_truthy {v : Json} (isTrue : truthy v = true) : whenTruthy act v = act v :=
  if_pos isTrue

lemma whenTruthy_of_falsy {v : Json} (isFalse : ¬ truthy v = true) :
    whenTruthy act v = some (some v) :=
  if_neg isFalse

lemma whenTruthy_whenTruthy (first second : Action) :
    (whenTruthy first).andThen (whenTruthy second) = whenTruthy (both first second) := by
  funext v
  by_cases isTrue : truthy v = true
  · rw [whenTruthy_of_truthy isTrue, both]
    unfold Change.andThen
    rw [whenTruthy_of_truthy isTrue]
  · rw [whenTruthy_of_falsy isTrue, Change.andThen_changed (whenTruthy_of_falsy isTrue),
      whenTruthy_of_falsy isTrue]

/-- An edit leaves a dictionary without keys as it is. -/
lemma whenTruthy_edit_dict {h : String → Change String Atom} {t : Json} (dict : t.isDict = true) :
    whenTruthy (Change.into (Json.edit h)) t = Change.into (Json.edit h) t := by
  by_cases isTrue : truthy t = true
  · exact whenTruthy_of_truthy isTrue
  · rw [whenTruthy_of_falsy isTrue, Change.into, Json.edit_eq_self.mpr]
    · rfl
    · refine ⟨dict, fun k v found => ?_⟩
      cases t with
      | obj keys unique value =>
        cases keys with
        | nil => cases found
        | cons key keys => exact absurd rfl isTrue
      | _ => cases dict

lemma whenTruthy_edit_andThen (first second : String → Change String Atom) :
    (whenTruthy (Change.into (Json.edit first))).andThen
        (whenTruthy (Change.into (Json.edit second))) =
      whenTruthy (Change.into (Json.edit fun k => (first k).andThen (second k))) := by
  rw [whenTruthy_whenTruthy]
  apply congrArg
  funext t
  unfold both Change.into
  rw [← Json.edit_edit]
  cases edited : Json.edit first t with
  | none =>
    apply Change.andThen_eq_none
    rw [edited]
    rfl
  | some t' =>
    have changed : (Json.edit first t).map some = some (some t') := by
      rw [edited]
      rfl
    rw [Change.andThen_changed changed]
    exact whenTruthy_edit_dict (Json.isDict_edit edited).2

lemma authenticationEdit_andThen (key : String) :
    (authenticationEdit act key).andThen (authenticationEdit act' key) =
      authenticationEdit (both act act') key := by
  unfold authenticationEdit
  by_cases basic : key = "paramsBasic"
  · rw [if_pos basic, if_pos basic, if_pos basic, Change.into_andThen_into]
    simp only [Json.alter_alter, whenTruthy_whenTruthy]
  · rw [if_neg basic, if_neg basic, if_neg basic]
    by_cases oauth : key = "paramsOauth2ClientCredentials"
    · rw [if_pos oauth, if_pos oauth, if_pos oauth, Change.into_andThen_into]
      simp only [Json.alter_alter, whenTruthy_whenTruthy]
    · rw [if_neg oauth, if_neg oauth, if_neg oauth, Change.keep_andThen]

lemma vnfcParamEdit_andThen (key : String) :
    (vnfcParamEdit act key).andThen (vnfcParamEdit act' key) =
      vnfcParamEdit (both act act') key := by
  unfold vnfcParamEdit
  by_cases password : key = "password"
  · rw [if_pos password, if_pos password, if_pos password, whenTruthy_whenTruthy]
  · rw [if_neg password, if_neg password, if_neg password]
    by_cases auth : key = "authentication"
    · rw [if_pos auth, if_pos auth, if_pos auth, Change.into_andThen_into]
      simp only [Json.edit_edit, authenticationEdit_andThen]
    · rw [if_neg auth, if_neg auth, if_neg auth, Change.keep_andThen]

lemma vduParamEdit_andThen (key : String) :
    (vduParamEdit act key).andThen (vduParamEdit act' key) = vduParamEdit (both act act') key := by
  unfold vduParamEdit
  by_cases mem : key ∈ ["old_vnfc_param", "new_vnfc_param"]
  · rw [if_pos mem, if_pos mem, if_pos mem, whenTruthy_edit_andThen]
    simp only [vnfcParamEdit_andThen]
  · rw [if_neg mem, if_neg mem, if_neg mem, Change.keep_andThen]

lemma eachDict_bind (f g : Json → Option Json) (t : Json) :
    (eachDict f t).bind (eachDict g) = eachDict (fun v => (f v).bind g) t := by
  cases t with
  | null => rfl
  | atom a =>
    cases a with
    | str s =>
      by_cases empty : s.isEmpty = true
      · have kept : ∀ f, eachDict f (str s) = some (str s) := fun f => if_pos empty
        exact (congrArg (fun r => r.bind (eachDict g)) (kept f)).trans
          ((kept g).trans (kept fun v => (f v).bind g).symm)
      · have raises : ∀ f, eachDict f (str s) = none := fun f => if_neg empty
        exact (congrArg (fun r => r.bind (eachDict g)) (raises f)).trans (raises _).symm
    | _ => rfl
  | arr size item =>
    show (Json.editItems f (.arr size item)).bind (eachDict g) =
      Json.editItems (fun v => (f v).bind g) (.arr size item)
    rw [← Json.editItems_editItems]
    show ((sequence fun i => f (item i)).map _).bind _ =
      ((sequence fun i => f (item i)).map _).bind _
    cases sequence fun i => f (item i) <;> rfl
  | obj keys unique value =>
    by_cases empty : keys.isEmpty = true
    · have kept : ∀ f, eachDict f (.obj keys unique value) = some (.obj keys unique value) :=
        fun f => if_pos empty
      rw [kept, kept]
      exact kept g
    · have raises : ∀ f, eachDict f (.obj keys unique value) = none := fun f => if_neg empty
      rw [raises, raises]
      rfl

/-- Two passes over the secrets of VDUs are one. -/
lemma additionalParamsPass_bind (t : Json) :
    (additionalParamsPass act t).bind (additionalParamsPass act') =
      additionalParamsPass (both act act') t := by
  have items : (fun v => (vduParamPass act v).bind (vduParamPass act')) =
      vduParamPass (both act act') := by
    funext v
    rw [funext (vduParamPass_eq act'), vduParamPass_eq, vduParamPass_eq,
      Json.edit_edit]
    exact Json.edit_congr fun key v _ => congrFun (vduParamEdit_andThen key) v
  unfold additionalParamsPass
  rw [Json.alter_alter, Change.into_andThen_into]
  simp only [eachDict_bind, items]

/-- Two passes over the credentials of a VIM are one. -/
lemma accessInfoPass_bind (t : Json) :
    (accessInfoPass act t).bind (accessInfoPass act') = accessInfoPass (act.andThen act') t := by
  rw [funext (accessInfoPass_eq act'), accessInfoPass_eq, Json.edit_edit,
    accessInfoPass_eq]
  apply Json.edit_congr
  intro key v _
  by_cases mem : key ∈ credData
  · rw [if_pos mem, if_pos mem, if_pos mem]
  · rw [if_neg mem, if_neg mem, if_neg mem, Change.keep_andThen]

/-! ## What passes need -/

/-- The value is a string. -/
def isString : Json → Bool
  | .atom (.str _) => true
  | _ => false

variable (P : Json → Prop)

/-- The secrets of an `authentication` are at the ends of paths of dictionaries, and those that
count as true satisfy the predicate. -/
def AuthenticationShape (auth : Json) : Prop :=
  auth.isDict = true ∧
    (∀ basic, auth.get? "paramsBasic" = some basic → basic.isDict = true ∧
      ∀ v, basic.get? "password" = some v → truthy v = true → P v) ∧
    ∀ oauth, auth.get? "paramsOauth2ClientCredentials" = some oauth → oauth.isDict = true ∧
      ∀ v, oauth.get? "clientPassword" = some v → truthy v = true → P v

/-- The same of an `old_vnfc_param` or `new_vnfc_param`. -/
def VnfcParamShape (param : Json) : Prop :=
  param.isDict = true ∧
    (∀ v, param.get? "password" = some v → truthy v = true → P v) ∧
    ∀ auth, param.get? "authentication" = some auth → AuthenticationShape P auth

/-- The same of an item of `vdu_params`. -/
def VduParamShape (vduParam : Json) : Prop :=
  vduParam.isDict = true ∧ ∀ key ∈ ["old_vnfc_param", "new_vnfc_param"], ∀ param,
    vduParam.get? key = some param → truthy param = true → VnfcParamShape P param

/-- The same of `additionalParams`, in which `vdu_params` is a list or has no items at all. -/
def AdditionalParamsShape (params : Json) : Prop :=
  params.isDict = true ∧ ∀ vduParams, params.get? "vdu_params" = some vduParams →
    (vduParams.isList = true ∧ ∀ v ∈ vduParams.items, VduParamShape P v) ∨
      ((vduParams.isDict = true ∨ isString vduParams = true) ∧ truthy vduParams = false)

variable {P}

lemma whenTruthy_isSome {v : Json} :
    (whenTruthy act v).isSome = true ↔ (truthy v = true → (act v).isSome = true) := by
  by_cases isTrue : truthy v = true
  · rw [whenTruthy_of_truthy isTrue]
    exact ⟨fun isSome _ => isSome, fun isSome => isSome isTrue⟩
  · rw [whenTruthy_of_falsy isTrue]
    exact ⟨fun _ isTrue' => absurd isTrue' isTrue, fun _ => rfl⟩

lemma into_isSome {f : Json → Option Json} {v : Json} :
    (Change.into f v).isSome = true ↔ (f v).isSome = true := by
  rw [Change.into, Option.isSome_map]

lemma eachDict_isSome {f : Json → Option Json} {t : Json} :
    (eachDict f t).isSome = true ↔
      (t.isList = true ∧ ∀ v ∈ t.items, (f v).isSome = true) ∨
        ((t.isDict = true ∨ isString t = true) ∧ truthy t = false) := by
  have ofEmpty : ∀ {empty : Bool} {t' : Json},
      (if empty then some t' else none).isSome = true ↔ empty = true := by
    intro empty t'
    cases empty with
    | true => exact ⟨fun _ => rfl, fun _ => rfl⟩
    | false => exact ⟨fun isSome => (by cases isSome), fun empty => (by cases empty)⟩
  cases t with
  | null =>
    exact ⟨fun isSome => (by cases isSome), fun either => either.elim
      (fun list => (by cases list.1)) fun noItems => noItems.1.elim
        (fun dict => (by cases dict)) fun text => (by cases text)⟩
  | atom a =>
    cases a with
    | str s =>
      apply ofEmpty.trans
      constructor
      · intro empty
        refine Or.inr ⟨Or.inr rfl, ?_⟩
        show (!s.isEmpty) = false
        rw [empty]
        rfl
      · rintro (list | ⟨_, isFalse⟩)
        · cases list.1
        · simpa [truthy] using isFalse
    | _ =>
      exact ⟨fun isSome => (by cases isSome), fun either => either.elim
        (fun list => (by cases list.1)) fun noItems => noItems.1.elim
          (fun dict => (by cases dict)) fun text => (by cases text)⟩
  | arr size item =>
    apply (Json.editItems_isSome (f := f) (t := .arr size item)).trans
    constructor
    · exact Or.inl
    · rintro (list | ⟨dict | text, _⟩)
      · exact list
      · cases dict
      · cases text
  | obj keys unique value =>
    apply ofEmpty.trans
    constructor
    · intro empty
      refine Or.inr ⟨Or.inl rfl, ?_⟩
      show (!keys.isEmpty) = false
      rw [empty]
      rfl
    · rintro (list | ⟨_, isFalse⟩)
      · cases list.1
      · simpa [truthy] using isFalse

lemma authenticationEdit_isSome (needs : ∀ v, (act v).isSome = true ↔ P v) (auth : Json) :
    (Json.edit (authenticationEdit act) auth).isSome = true ↔ AuthenticationShape P auth := by
  rw [Json.edit_isSome]
  apply and_congr_right
  intro _
  constructor
  · intro each
    constructor
    · intro basic found
      obtain ⟨dict, secret⟩ := Json.alter_isSome.mp (into_isSome.mp (each "paramsBasic" basic found))
      exact ⟨dict, fun v isIt isTrue => (needs v).mp (whenTruthy_isSome.mp (secret v isIt) isTrue)⟩
    · intro oauth found
      obtain ⟨dict, secret⟩ := Json.alter_isSome.mp
        (into_isSome.mp (each "paramsOauth2ClientCredentials" oauth found))
      exact ⟨dict, fun v isIt isTrue => (needs v).mp (whenTruthy_isSome.mp (secret v isIt) isTrue)⟩
  · rintro ⟨basic, oauth⟩ key v found
    unfold authenticationEdit
    by_cases isBasic : key = "paramsBasic"
    · subst isBasic
      obtain ⟨dict, secret⟩ := basic v found
      rw [if_pos rfl, into_isSome, Json.alter_isSome]
      exact ⟨dict, fun w isIt => whenTruthy_isSome.mpr fun isTrue =>
        (needs w).mpr (secret w isIt isTrue)⟩
    · by_cases isOauth : key = "paramsOauth2ClientCredentials"
      · subst isOauth
        obtain ⟨dict, secret⟩ := oauth v found
        rw [if_neg isBasic, if_pos rfl, into_isSome, Json.alter_isSome]
        exact ⟨dict, fun w isIt => whenTruthy_isSome.mpr fun isTrue =>
          (needs w).mpr (secret w isIt isTrue)⟩
      · rw [if_neg isBasic, if_neg isOauth]
        rfl

lemma vnfcParamEdit_isSome (needs : ∀ v, (act v).isSome = true ↔ P v) (param : Json) :
    (Json.edit (vnfcParamEdit act) param).isSome = true ↔ VnfcParamShape P param := by
  rw [Json.edit_isSome]
  apply and_congr_right
  intro _
  constructor
  · intro each
    constructor
    · intro v found isTrue
      exact (needs v).mp (whenTruthy_isSome.mp (each "password" v found) isTrue)
    · intro auth found
      exact (authenticationEdit_isSome needs auth).mp
        (into_isSome.mp (each "authentication" auth found))
  · rintro ⟨password, authentication⟩ key v found
    unfold vnfcParamEdit
    by_cases isPassword : key = "password"
    · subst isPassword
      rw [if_pos rfl, whenTruthy_isSome]
      exact fun isTrue => (needs v).mpr (password v found isTrue)
    · by_cases isAuth : key = "authentication"
      · subst isAuth
        rw [if_neg isPassword, if_pos rfl, into_isSome]
        exact (authenticationEdit_isSome needs v).mpr (authentication v found)
      · rw [if_neg isPassword, if_neg isAuth]
        rfl

lemma vduParamPass_isSome (needs : ∀ v, (act v).isSome = true ↔ P v) (vduParam : Json) :
    (vduParamPass act vduParam).isSome = true ↔ VduParamShape P vduParam := by
  rw [vduParamPass_eq, Json.edit_isSome]
  apply and_congr_right
  intro _
  unfold vduParamEdit
  constructor
  · intro each key mem param found isTrue
    have here := each key param found
    rw [if_pos mem, whenTruthy_isSome] at here
    exact (vnfcParamEdit_isSome needs param).mp (into_isSome.mp (here isTrue))
  · intro shape key param found
    by_cases mem : key ∈ ["old_vnfc_param", "new_vnfc_param"]
    · rw [if_pos mem, whenTruthy_isSome]
      intro isTrue
      exact into_isSome.mpr ((vnfcParamEdit_isSome needs param).mpr (shape key mem param found isTrue))
    · rw [if_neg mem]
      rfl

/-- The pass over the secrets of VDUs is made if their shape lets it. -/
lemma additionalParamsPass_isSome (needs : ∀ v, (act v).isSome = true ↔ P v) (params : Json) :
    (additionalParamsPass act params).isSome = true ↔ AdditionalParamsShape P params := by
  rw [additionalParamsPass, Json.alter_isSome]
  apply and_congr_right
  intro _
  apply forall_congr'
  intro vduParams
  apply imp_congr_right
  intro _
  rw [into_isSome, eachDict_isSome]
  apply or_congr_left
  apply and_congr_right
  intro _
  exact forall_congr' fun v => imp_congr_right fun _ => vduParamPass_isSome needs v

/-- The pass over the credentials of a VIM is made if its action does not raise. -/
lemma accessInfoPass_isSome (needs : ∀ v, (act v).isSome = true ↔ P v) (accessInfo : Json) :
    (accessInfoPass act accessInfo).isSome = true ↔ accessInfo.isDict = true ∧
      ∀ key ∈ credData, ∀ v, accessInfo.get? key = some v → P v := by
  rw [accessInfoPass_eq, Json.edit_isSome]
  apply and_congr_right
  intro _
  constructor
  · intro each key mem v found
    have here := each key v found
    rw [if_pos mem] at here
    exact (needs v).mp here
  · intro each key v found
    by_cases mem : key ∈ credData
    · rw [if_pos mem]
      exact (needs v).mpr (each key mem v found)
    · rw [if_neg mem]
      rfl

/-! ## Passes that change nothing -/

/-- A string is kept, and anything else raises. -/
def checkString : Action
  | .atom (.str s) => some (some (str s))
  | _ => none

/-- A string that was encrypted is decrypted to itself. -/
lemma encrypt_andThen_decrypt (documented : cipher.Documented) :
    (encryptAct cipher).andThen (decryptAct cipher) = checkString := by
  funext v
  cases v with
  | atom a =>
    cases a with
    | str s =>
      show (cipher.decrypt (cipher.encrypt s)).map _ = _
      rw [documented.decrypt_encrypt]
      rfl
    | _ => rfl
  | _ => rfl

lemma truthy_encrypt (documented : cipher.Documented) (s : String) :
    truthy (str (cipher.encrypt s)) = true := by
  show (!(cipher.encrypt s).isEmpty) = true
  have notEmpty := documented.encrypt_ne_empty s
  rw [Bool.not_eq_true', String.isEmpty_eq_false_iff]
  exact notEmpty

lemma both_encrypt_decrypt (documented : cipher.Documented) :
    both (encryptAct cipher) (decryptAct cipher) = checkString := by
  rw [← encrypt_andThen_decrypt documented]
  funext v
  cases v with
  | atom a =>
    cases a with
    | str s => exact whenTruthy_of_truthy (truthy_encrypt documented s)
    | _ => rfl
  | _ => rfl

/-- What was removed is not decrypted. -/
lemma both_pop : both popAct act = popAct := rfl

lemma checkString_isSome (v : Json) : (checkString v).isSome = true ↔ isString v = true := by
  cases v with
  | atom a => cases a <;> rfl
  | _ => rfl

lemma keeping_checkString : Json.KeepingChange checkString := by
  intro v r checked
  cases v with
  | atom a =>
    cases a with
    | str s => exact (Option.some.inj checked).symm
    | _ => cases checked
  | _ => cases checked

lemma keeping_whenTruthy (keeping : Json.KeepingChange act) :
    Json.KeepingChange (whenTruthy act) := by
  intro v r made
  by_cases isTrue : truthy v = true
  · rw [whenTruthy_of_truthy isTrue] at made
    exact keeping v r made
  · rw [whenTruthy_of_falsy isTrue] at made
    exact (Option.some.inj made).symm

lemma keeping_eachDict {f : Json → Option Json} (keeping : Json.Keeping f) :
    Json.Keeping (eachDict f) := by
  have ofEmpty : ∀ {empty : Bool} {t t' : Json}, (if empty then some t else none) = some t' →
      t' = t := by
    intro empty t t' made
    cases empty with
    | true => exact (Option.some.inj made).symm
    | false => cases made
  intro t t' made
  cases t with
  | null => cases made
  | atom a =>
    cases a with
    | str s => exact ofEmpty made
    | _ => cases made
  | arr size item => exact Json.keeping_editItems keeping _ _ made
  | obj keys unique value => exact ofEmpty made

lemma keeping_accessInfoPass (keeping : Json.KeepingChange act) :
    Json.Keeping (accessInfoPass act) := by
  rw [funext (accessInfoPass_eq act)]
  apply Json.keeping_edit
  intro key
  by_cases mem : key ∈ credData
  · rw [if_pos mem]
    exact keeping
  · rw [if_neg mem]
    exact Json.keepingChange_keep

lemma keeping_authenticationEdit (keeping : Json.KeepingChange act) (key : String) :
    Json.KeepingChange (authenticationEdit act key) := by
  have secret : ∀ key, Json.KeepingChange (Change.into (Json.alter key (whenTruthy act))) :=
    fun key => Json.keepingChange_into (Json.keeping_alter (keeping_whenTruthy keeping))
  unfold authenticationEdit
  by_cases basic : key = "paramsBasic"
  · rw [if_pos basic]
    exact secret "password"
  · by_cases oauth : key = "paramsOauth2ClientCredentials"
    · rw [if_neg basic, if_pos oauth]
      exact secret "clientPassword"
    · rw [if_neg basic, if_neg oauth]
      exact Json.keepingChange_keep

lemma keeping_vnfcParamEdit (keeping : Json.KeepingChange act) (key : String) :
    Json.KeepingChange (vnfcParamEdit act key) := by
  unfold vnfcParamEdit
  by_cases password : key = "password"
  · rw [if_pos password]
    exact keeping_whenTruthy keeping
  · by_cases auth : key = "authentication"
    · rw [if_neg password, if_pos auth]
      exact Json.keepingChange_into (Json.keeping_edit (keeping_authenticationEdit keeping))
    · rw [if_neg password, if_neg auth]
      exact Json.keepingChange_keep

lemma keeping_vduParamPass (keeping : Json.KeepingChange act) :
    Json.Keeping (vduParamPass act) := by
  rw [funext (vduParamPass_eq act)]
  apply Json.keeping_edit
  intro key
  unfold vduParamEdit
  by_cases mem : key ∈ ["old_vnfc_param", "new_vnfc_param"]
  · rw [if_pos mem]
    exact keeping_whenTruthy
      (Json.keepingChange_into (Json.keeping_edit (keeping_vnfcParamEdit keeping)))
  · rw [if_neg mem]
    exact Json.keepingChange_keep

lemma keeping_additionalParamsPass (keeping : Json.KeepingChange act) :
    Json.Keeping (additionalParamsPass act) :=
  Json.keeping_alter (Json.keepingChange_into (keeping_eachDict (keeping_vduParamPass keeping)))

end Tacker.Crypt
