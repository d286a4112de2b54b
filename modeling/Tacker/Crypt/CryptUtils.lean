import Tacker.Fields.Places

/-!
# Passes over credentials

The functions of `crypt_utils.py` and the hooks on the conversion of occurrences walk through
documents and do the same to every credential that they meet: encrypt it, decrypt it or remove it. A
pass is told by what it does to a credential, and two passes, one after the other, are the pass that
does both.
-/

namespace Tacker.Crypt

open Tacker.Basis Tacker.Fields

/-! ## The cipher -/

/-- `CryptUtil.encrypt` and `CryptUtil.decrypt`; `none` where the token is invalid. -/
structure Cipher where
  encrypt : String → String
  decrypt : String → Option String

/-- What is documented of the cipher: a token is decrypted to what was encrypted, and the empty text
is no token. -/
structure Cipher.Documented (cipher : Cipher) : Prop where
  decrypt_encrypt : ∀ s, cipher.decrypt (cipher.encrypt s) = some s
  decrypt_empty : cipher.decrypt "" = none

lemma Cipher.Documented.encrypt_ne_empty {cipher : Cipher} (documented : cipher.Documented)
    (s : String) : cipher.encrypt s ≠ "" := by
  intro empty
  have read := documented.decrypt_encrypt s
  rw [empty, documented.decrypt_empty] at read
  cases read

/-- What is done to a credential. -/
abbrev Action := Change String Atom

variable {cipher : Cipher} {act act' : Action}

/-- `encrypt`; only a string is encoded. -/
def encryptAct (cipher : Cipher) : Action
  | .atom (.str s) => some (some (str (cipher.encrypt s)))
  | _ => none

/-- `decrypt`; only a string is encoded. -/
def decryptAct (cipher : Cipher) : Action
  | .atom (.str s) => (cipher.decrypt s).map fun text => some (str text)
  | _ => none

/-- `pop`. -/
def popAct : Action := fun _ => some none

/-! ## Truth values -/

/-- The truth value of a document. -/
def truthy : Json → Bool
  | .null => false
  | .atom (.str s) => !s.isEmpty
  | .atom (.bool b) => b
  | .atom (.int n) => n != 0
  | .atom (.float x) => x != 0
  | .arr size _ => size != 0
  | .obj keys _ _ => !keys.isEmpty

/-- The action on a value that counts as true. -/
def whenTruthy (act : Action) : Action := fun v => if truthy v then act v else some (some v)

/-- The function on a document that counts as true. -/
def ifTruthy (f : Json → Option Json) : Json → Option Json := fun t =>
  if truthy t then f t else some t

/-! ## VIM connections -/

/-- `cred_data`. -/
def credData : List String := ["password", "bearer_token", "client_secret"]

/-- The credentials of an `accessInfo`. -/
def accessInfoPass (act : Action) (accessInfo : Json) : Option Json :=
  credData.foldlM (fun t key => t.alter key act) accessInfo

/-- `encrypt_vim_infos_v2`, with and without `pop_cred`. -/
def vimInfosPass (act : Action) : Json → Option Json :=
  Json.edit fun _ => Change.into (Json.alter "accessInfo" (Change.into (accessInfoPass act)))

/-! ## Parameters of VDUs -/

/-- The action on the value at the end of a path of keys, if it is there and counts as true. -/
def secretAt (act : Action) : List String → Action
  | [] => whenTruthy act
  | key :: path => Change.into (Json.alter key (secretAt act path))

/-- The secrets of an `old_vnfc_param` or `new_vnfc_param`. -/
def vnfcParamPass (act : Action) (param : Json) : Option Json :=
  ((param.alter "password" (secretAt act [])).bind
    (Json.alter "authentication" (secretAt act ["paramsBasic", "password"]))).bind
    (Json.alter "authentication"
      (secretAt act ["paramsOauth2ClientCredentials", "clientPassword"]))

/-- The secrets of an item of `vdu_params`. -/
def vduParamPass (act : Action) (vduParam : Json) : Option Json :=
  ["old_vnfc_param", "new_vnfc_param"].foldlM
    (fun t key => t.alter key (whenTruthy (Change.into (vnfcParamPass act)))) vduParam

/-- A loop over something that should be a list of dictionaries. The items of a text and of a
dictionary are texts, which have no `get`, and others have no items. -/
def eachDict (f : Json → Option Json) : Json → Option Json
  | .arr size item => Json.editItems f (.arr size item)
  | .obj keys unique value => if keys.isEmpty then some (.obj keys unique value) else none
  | .atom (.str s) => if s.isEmpty then some (str s) else none
  | _ => none

/-- The secrets of `additionalParams`. -/
def additionalParamsPass (act : Action) : Json → Option Json :=
  Json.alter "vdu_params" (Change.into (eachDict (vduParamPass act)))

/-! ## Passes as edits -/

/-- The secrets of an `authentication`, by its keys. -/
def authenticationEdit (act : Action) : String → Change String Atom := fun key =>
  if key = "paramsBasic" then Change.into (Json.alter "password" (whenTruthy act))
  else if key = "paramsOauth2ClientCredentials" then
    Change.into (Json.alter "clientPassword" (whenTruthy act))
  else Change.keep

/-- The secrets of an `old_vnfc_param` or `new_vnfc_param`, by its keys. -/
def vnfcParamEdit (act : Action) : String → Change String Atom := fun key =>
  if key = "password" then whenTruthy act
  else if key = "authentication" then Change.into (Json.edit (authenticationEdit act))
  else Change.keep

lemma accessInfoPass_eq (act : Action) (accessInfo : Json) :
    accessInfoPass act accessInfo =
      Json.edit (fun key => if key ∈ credData then act else Change.keep) accessInfo :=
  Json.foldlM_alter act (by decide) accessInfo

lemma vnfcParamPass_eq (act : Action) (param : Json) :
    vnfcParamPass act param = Json.edit (vnfcParamEdit act) param := by
  have secrets : (secretAt act ["paramsBasic", "password"]).andThen
      (secretAt act ["paramsOauth2ClientCredentials", "clientPassword"]) =
        Change.into (Json.edit (authenticationEdit act)) := by
    apply (Change.into_andThen_into ..).trans
    apply congrArg
    funext t
    rw [Json.alter, Json.alter, Json.edit_edit]
    apply Json.edit_congr
    intro key v _
    unfold authenticationEdit
    by_cases basic : key = "paramsBasic"
    · subst basic
      rw [if_pos rfl, if_neg (by decide), if_pos rfl, Change.andThen_keep]
      rfl
    · by_cases oauth : key = "paramsOauth2ClientCredentials"
      · rw [if_neg basic, if_pos oauth, if_neg basic, if_pos oauth, Change.keep_andThen]
        rfl
      · rw [if_neg basic, if_neg oauth, if_neg basic, if_neg oauth, Change.keep_andThen]
  unfold vnfcParamPass
  rw [Option.bind_assoc]
  simp only [Json.alter_alter]
  rw [secrets, Json.alter]
  show (Json.edit _ param).bind (Json.edit _) = _
  rw [Json.edit_edit]
  apply Json.edit_congr
  intro key v _
  unfold vnfcParamEdit
  by_cases password : key = "password"
  · subst password
    rw [if_pos rfl, if_neg (by decide), if_pos rfl, Change.andThen_keep]
    rfl
  · rw [if_neg password, if_neg password, Change.keep_andThen]

/-- The secrets of an item of `vdu_params`, by its keys. -/
def vduParamEdit (act : Action) : String → Change String Atom := fun key =>
  if key ∈ ["old_vnfc_param", "new_vnfc_param"] then
    whenTruthy (Change.into (Json.edit (vnfcParamEdit act)))
  else Change.keep

lemma vduParamPass_eq (act : Action) (vduParam : Json) :
    vduParamPass act vduParam = Json.edit (vduParamEdit act) vduParam := by
  unfold vduParamPass
  rw [funext (vnfcParamPass_eq act)]
  exact Json.foldlM_alter _ (by decide) vduParam

end Tacker.Crypt
