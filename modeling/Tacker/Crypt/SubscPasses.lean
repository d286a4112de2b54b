import Tacker.Basis.Listing
import Tacker.Crypt.CredentialRoundTrip
import Tacker.Crypt.Hooks

/-!
# Hooks on the conversion of subscriptions, PM jobs and thresholds

`encrypt_subsc_auth_v2`, `decrypt_subsc_auth_v2`, `encrypt_monitoring_v2` and `decrypt_monitoring_v2`
of `crypt_utils.py`, and `to_db_obj` and `from_db_obj` of the classes that call them. Texts of
subscriptions are encrypted in documents and decrypted in memory; both sides of the monitoring
information build a new list of targets.
-/

namespace Tacker.Crypt

open Tacker.Basis Tacker.Fields Tacker.Objects

section

variable {operation : LcmOperationType} (types : FieldTypes) (cipher : Cipher)

/-! ## Authentication -/

/-- A `SubscriptionAuthentication`. -/
abbrev SubscAuth (operation : LcmOperationType) :=
  Value (registry operation) (.object .subscriptionAuthentication false)

/-- `encrypt_subsc_auth_v2`. -/
def encryptSubscAuth (auth : Json) : Option Json :=
  (auth.alter "paramsBasic" (secretAt (encryptAct cipher) ["password"])).bind
    (Json.alter "paramsOauth2ClientCredentials" (secretAt (encryptAct cipher) ["clientPassword"]))

/-- The index of `paramsBasic`. -/
def paramsBasicField : Fin (registry operation .subscriptionAuthentication).size :=
  ⟨1, show 1 < 4 by decide⟩

/-- The index of `paramsOauth2ClientCredentials`. -/
def paramsOauth2Field : Fin (registry operation .subscriptionAuthentication).size :=
  ⟨2, show 2 < 4 by decide⟩

/-- The `password` of `paramsBasic`. -/
def passwordPlace :
    Place (registry operation) (.object .subscriptionAuthenticationParamsBasic false) :=
  .attr ⟨1, show 1 < 2 by decide⟩ .text

/-- The `clientPassword` of `paramsOauth2ClientCredentials`. -/
def clientPasswordPlace :
    Place (registry operation) (.object .subscriptionAuthenticationParamsOauth2 false) :=
  .attr ⟨1, show 1 < 3 by decide⟩ .text

/-- What the action makes of a value that stays. -/
def changed (act : Action) (v : Json) : Option Json := (act v).join

/-- A change of both secrets of an authentication. -/
def subscAuthChange (f : Json → Option Json) (auth : SubscAuth operation) :
    Option (SubscAuth operation) :=
  (Value.onAttr paramsBasicField (passwordPlace.change f) auth).bind
    (Value.onAttr paramsOauth2Field (clientPasswordPlace.change f))

/-- `decrypt_subsc_auth_v2`. -/
def decryptSubscAuth : SubscAuth operation → Option (SubscAuth operation) :=
  subscAuthChange (changed (decryptAct cipher))

/-! ## Monitoring information -/

/-- `t.get(key, default)`. -/
def getOr (t : Json) (key : String) (default : Json) : Option Json :=
  if t.isDict then some ((t.get? key).getD default) else none

/-- What a loop over a value goes through. -/
def iterate : Json → Option (List Json)
  | .arr size item => some (Json.arr size item).items
  | .obj keys _ _ => some (keys.map str)
  | .atom (.str s) => some (s.toList.map fun c => str (String.singleton c))
  | _ => none

/-- A target that has an `ssh_password` is kept, with that encrypted or decrypted. -/
def targetPass (act : Action) (target : Json) : Option (List Json) := do
  let authInfo ← getOr target "authInfo" .null
  if truthy authInfo then
    let password ← getOr authInfo "ssh_password" .null
    if truthy password then
      let target ← target.alter "authInfo" (Change.into (Json.alter "ssh_password" act))
      return [target]
    else
      return []
  else
    return []

/-- `encrypt_monitoring_v2` and `decrypt_monitoring_v2`, which take different defaults for the
targets. -/
def monitoringPass (act : Action) (missing : Json) (metadata : Json) : Option Json := do
  let monitoring ← getOr metadata "monitoring" .empty
  let targetsInfo ← getOr monitoring "targetsInfo" missing
  let targets ← iterate targetsInfo
  let kept ← targets.mapM (targetPass act)
  if (metadata.get? "monitoring").isSome then
    return metadata.set "monitoring" (monitoring.set "targetsInfo" (Json.list kept.flatten))
  else
    none

/-- `encrypt_monitoring_v2`. -/
def encryptMonitoring : Json → Option Json := monitoringPass (encryptAct cipher) .empty

/-- `decrypt_monitoring_v2`. -/
def decryptMonitoring : Json → Option Json := monitoringPass (decryptAct cipher) .null

/-! ## Subscriptions -/

/-- A subscription to notifications on life cycle changes. -/
abbrev LccnSubscription (operation : LcmOperationType) :=
  Value (registry operation) (.object .lccnSubscription false)

/-- The index of `authentication` in such a subscription. -/
def lccnAuthField : Fin (registry operation .lccnSubscription).size := ⟨3, show 3 < 6 by decide⟩

/-- `LccnSubscriptionV2.to_db_obj`. -/
def lccnToDbObj (subsc : LccnSubscription operation) : Option Row :=
  changeColumn "authentication" (encryptSubscAuth cipher) (Fields.toDbObj types subsc)

/-- `LccnSubscriptionV2.from_db_obj`. -/
def lccnFromDbObj (row : Row) : Option (LccnSubscription operation) :=
  (Fields.fromDbObj types row).bind (Value.onAttr lccnAuthField (decryptSubscAuth cipher))

/-- A subscription to notifications on alarms. -/
abbrev FmSubscription (operation : LcmOperationType) :=
  Value (registry operation) (.object .fmSubscription false)

/-- The index of `authentication` in such a subscription. -/
def fmAuthField : Fin (registry operation .fmSubscription).size := ⟨3, show 3 < 4 + 1 by decide⟩

/-- `FmSubscriptionV1.to_db_obj`. -/
def fmToDbObj (subsc : FmSubscription operation) : Option Row :=
  changeColumn "authentication" (encryptSubscAuth cipher) (Fields.toDbObj types subsc)

/-- `FmSubscriptionV1.from_db_obj`. -/
def fmFromDbObj (row : Row) : Option (FmSubscription operation) :=
  (Fields.fromDbObj types row).bind (Value.onAttr fmAuthField (decryptSubscAuth cipher))

/-! ## PM jobs and thresholds -/

/-- A PM job. -/
abbrev PmJob (operation : LcmOperationType) := Value (registry operation) (.object .pmJob false)

/-- The index of `authentication` in a PM job. -/
def pmJobAuthField : Fin (registry operation .pmJob).size := ⟨8, show 8 < 10 by decide⟩

/-- The index of `metadata` in a PM job. -/
def pmJobMetadataField : Fin (registry operation .pmJob).size := ⟨9, show 9 < 10 by decide⟩

/-- `PmJobV2.to_db_obj`. -/
def pmJobToDbObj (pmJob : PmJob operation) : Option Row :=
  (changeColumn "authentication" (encryptSubscAuth cipher) (Fields.toDbObj types pmJob)).bind
    (changeColumn "metadata__" (ifTruthy (encryptMonitoring cipher)))

/-- `PmJobV2.from_db_obj`. -/
def pmJobFromDbObj (row : Row) : Option (PmJob operation) :=
  ((Fields.fromDbObj types row).bind
    (Value.onAttr pmJobAuthField (decryptSubscAuth cipher))).bind
    (Value.onAttr pmJobMetadataField (Place.pairs.change (decryptMonitoring cipher)))

/-- A threshold. -/
abbrev Threshold (operation : LcmOperationType) :=
  Value (registry operation) (.object .threshold false)

/-- The index of `authentication` in a threshold. -/
def thresholdAuthField : Fin (registry operation .threshold).size := ⟨7, show 7 < 9 by decide⟩

/-- The index of `metadata` in a threshold. -/
def thresholdMetadataField : Fin (registry operation .threshold).size := ⟨8, show 8 < 9 by decide⟩

/-- `ThresholdV2.to_db_obj`. -/
def thresholdToDbObj (threshold : Threshold operation) : Option Row :=
  (changeColumn "authentication" (encryptSubscAuth cipher) (Fields.toDbObj types threshold)).bind
    (changeColumn "metadata__" (ifTruthy (encryptMonitoring cipher)))

/-- `ThresholdV2.from_db_obj`. -/
def thresholdFromDbObj (row : Row) : Option (Threshold operation) :=
  ((Fields.fromDbObj types row).bind
    (Value.onAttr thresholdAuthField (decryptSubscAuth cipher))).bind
    (Value.onAttr thresholdMetadataField (Place.pairs.change (decryptMonitoring cipher)))

end

/-!
## Secrets of subscriptions and of monitoring targets

A secret of an authentication that is stored and loaded is as it was, unless it is empty. Monitoring
information that is stored and loaded is as it was if it has a list of targets, each of them with a
password.
-/

variable {operation : LcmOperationType} {types : FieldTypes} {cipher : Cipher} {act : Action}

/-! ## Authentication -/

/-- A secret is encrypted if it counts as true. -/
def encryptSecret (cipher : Cipher) : Json → Option Json := ifTruthy (changed (encryptAct cipher))

/-- A secret that is a string and not empty is kept, and anything else raises. -/
def checkSecret (v : Json) : Option Json :=
  if isString v && truthy v then some v else none

lemma into_encryptSecret : Change.into (encryptSecret cipher) = whenTruthy (encryptAct cipher) := by
  rw [encryptSecret, into_ifTruthy]
  apply congrArg
  funext v
  cases v with
  | atom a => cases a <;> rfl
  | _ => rfl

lemma keepsShape_encryptSecret : KeepsShape (encryptSecret cipher) where
  dict t t' dict made := by
    unfold encryptSecret ifTruthy at made
    by_cases isTrue : truthy t = true
    · rw [if_pos isTrue] at made
      cases t with
      | obj keys unique value => cases made
      | _ => cases dict
    · rw [if_neg isTrue] at made
      rw [← Option.some.inj made]
      exact dict
  text value t' made := by
    unfold encryptSecret ifTruthy at made
    by_cases isTrue : truthy (str value) = true
    · rw [if_pos isTrue] at made
      exact ⟨cipher.encrypt value, (Option.some.inj made).symm⟩
    · rw [if_neg isTrue] at made
      exact ⟨value, (Option.some.inj made).symm⟩

/-- A secret that was encrypted is decrypted to itself; an empty one was not encrypted. -/
lemma encryptSecret_bind (documented : cipher.Documented) (v : Json) :
    (encryptSecret cipher v).bind (changed (decryptAct cipher)) = checkSecret v := by
  unfold encryptSecret ifTruthy checkSecret
  by_cases isTrue : truthy v = true
  · rw [if_pos isTrue, isTrue, Bool.and_true]
    cases v with
    | atom a =>
      cases a with
      | str s =>
        show ((cipher.decrypt (cipher.encrypt s)).map _).join = _
        rw [documented.decrypt_encrypt]
        rfl
      | _ => rfl
    | _ => rfl
  · rw [if_neg isTrue, Bool.eq_false_of_not_eq_true isTrue, Bool.and_false]
    show changed (decryptAct cipher) v = none
    cases v with
    | atom a =>
      cases a with
      | str s =>
        have empty : s = "" := by
          simpa [truthy] using isTrue
        subst empty
        show ((cipher.decrypt "").map _).join = none
        rw [documented.decrypt_empty]
        rfl
      | _ => rfl
    | _ => rfl

lemma keeping_checkSecret : Json.Keeping checkSecret := by
  intro t t' made
  unfold checkSecret at made
  by_cases both : (isString t && truthy t) = true
  · rw [if_pos both] at made
    exact (Option.some.inj made).symm
  · rw [if_neg both] at made
    cases made

/-- A string that is not empty. -/
def IsSecret (v : Json) : Prop := isString v = true ∧ truthy v = true

lemma checkSecret_isSome (v : Json) : (checkSecret v).isSome = true ↔ IsSecret v := by
  unfold checkSecret IsSecret
  rw [← Bool.and_eq_true_iff]
  by_cases both : (isString v && truthy v) = true
  · rw [if_pos both]
    exact ⟨fun _ => both, fun _ => rfl⟩
  · rw [if_neg both]
    exact ⟨fun isSome => (by cases isSome), fun both' => absurd both' both⟩

/-- The secrets of an authentication that are set are not empty. -/
def AuthReadable (auth : SubscAuth operation) : Prop :=
  (∀ basic, auth.attr? paramsBasicField = some basic → passwordPlace.Each IsSecret basic) ∧
    ∀ oauth, auth.attr? paramsOauth2Field = some oauth → clientPasswordPlace.Each IsSecret oauth

lemma paramsFields_ne : (paramsBasicField : Fin (registry operation .subscriptionAuthentication).size)
    ≠ paramsOauth2Field := by
  intro same
  cases same

/-- Encryption in the document is encryption in memory. -/
lemma encryptSubscAuth_toPrimitive (plain : types.PlainTexts) (auth : SubscAuth operation) :
    (subscAuthChange (encryptSecret cipher) auth).map (Value.toPrimitive types) =
      encryptSubscAuth cipher (auth.toPrimitive types) := by
  have basic : ∀ auth : SubscAuth operation,
      Json.alter "paramsBasic" (secretAt (encryptAct cipher) ["password"])
          (auth.toPrimitive types) =
        (Value.onAttr paramsBasicField (passwordPlace.change (encryptSecret cipher)) auth).map
          (Value.toPrimitive types) := by
    intro auth
    rw [secretAt, secretAt, ← into_encryptSecret]
    exact (Place.toPrimitive_change plain keepsShape_encryptSecret
      (.attr paramsBasicField passwordPlace) auth).symm
  have oauth : ∀ auth : SubscAuth operation,
      Json.alter "paramsOauth2ClientCredentials" (secretAt (encryptAct cipher) ["clientPassword"])
          (auth.toPrimitive types) =
        (Value.onAttr paramsOauth2Field
          (clientPasswordPlace.change (encryptSecret cipher)) auth).map
            (Value.toPrimitive types) := by
    intro auth
    rw [secretAt, secretAt, ← into_encryptSecret]
    exact (Place.toPrimitive_change plain keepsShape_encryptSecret
      (.attr paramsOauth2Field clientPasswordPlace) auth).symm
  unfold encryptSubscAuth subscAuthChange
  rw [basic]
  cases Value.onAttr paramsBasicField (passwordPlace.change (encryptSecret cipher)) auth with
  | none => rfl
  | some auth' => exact (oauth auth').symm

/-- Secrets that were encrypted are decrypted. -/
lemma subscAuthChange_bind (documented : cipher.Documented) (auth : SubscAuth operation) :
    (subscAuthChange (encryptSecret cipher) auth).bind (decryptSubscAuth cipher) =
      subscAuthChange checkSecret auth := by
  have one : ∀ {kind : Kind ClassName} (place : Place (registry operation) kind) v,
      (place.change (encryptSecret cipher) v).bind
        (place.change (changed (decryptAct cipher))) = place.change checkSecret v := by
    intro kind place v
    rw [place.change_change keepsShape_encryptSecret, funext (encryptSecret_bind documented)]
  apply bind_bind_of_comm
  · intro v
    exact Value.onAttr_comm paramsFields_ne.symm
  · intro v
    apply Value.onAttr_bind.trans
    exact congrArg (fun change => Value.onAttr paramsBasicField change v) (funext (one passwordPlace))
  · intro v
    apply Value.onAttr_bind.trans
    exact congrArg (fun change => Value.onAttr paramsOauth2Field change v)
      (funext (one clientPasswordPlace))

lemma subscAuthChange_keeping (auth auth' : SubscAuth operation)
    (changed : subscAuthChange checkSecret auth = some auth') : auth' = auth := by
  obtain ⟨middle, first, second⟩ := Option.bind_eq_some_iff.mp changed
  rw [Value.onAttr_keeping (fun v v' made =>
      (clientPasswordPlace.change_keeping keeping_checkSecret v).1 v' made) second,
    Value.onAttr_keeping (fun v v' made =>
      (passwordPlace.change_keeping keeping_checkSecret v).1 v' made) first]

lemma subscAuthChange_isSome (auth : SubscAuth operation) :
    (subscAuthChange checkSecret auth).isSome = true ↔ AuthReadable auth := by
  have keepsShape : KeepsShape checkSecret := {
    dict := fun t t' dict made => keeping_checkSecret t t' made ▸ dict
    text := fun value t' made => ⟨value, keeping_checkSecret _ _ made⟩ }
  have one : ∀ {kind : Kind ClassName} (place : Place (registry operation) kind) v,
      (place.change checkSecret v).isSome = true ↔ place.Each IsSecret v := by
    intro kind place v
    rw [place.change_isSome keepsShape, funext fun t => propext (checkSecret_isSome t)]
  apply (Value.onAttr_bind_isSome paramsFields_ne).trans
  exact and_congr (forall_congr' fun basic => imp_congr_right fun _ => one passwordPlace basic)
    (forall_congr' fun oauth => imp_congr_right fun _ => one clientPasswordPlace oauth)

/-! ## Monitoring information -/

/-- The target has an `authInfo` with an `ssh_password` that is a string and not empty. -/
def TargetReadable (target : Json) : Prop :=
  ∃ authInfo, target.get? "authInfo" = some authInfo ∧
    ∃ password, authInfo.get? "ssh_password" = some password ∧ IsSecret password

/-- The metadata have a list of targets, each of them with a password. -/
def MonitoringReadable (metadata : Json) : Prop :=
  ∃ monitoring, metadata.get? "monitoring" = some monitoring ∧
    ∃ targetsInfo, monitoring.get? "targetsInfo" = some targetsInfo ∧ targetsInfo.isList = true ∧
      ∀ target ∈ targetsInfo.items, TargetReadable target

lemma truthy_of_get? {t v : Json} {key : String} (found : t.get? key = some v) :
    truthy t = true := by
  cases t with
  | obj keys unique value =>
    by_cases mem : key ∈ keys
    · show (!keys.isEmpty) = true
      rw [List.isEmpty_eq_false_iff.mpr (List.ne_nil_of_mem mem)]
      rfl
    · rw [Json.get?, if_neg mem] at found
      cases found
  | _ => cases found

lemma getOr_of_get? {t v default : Json} {key : String} (found : t.get? key = some v) :
    getOr t key default = some v := by
  rw [getOr, if_pos (Json.isDict_of_get? found), found]
  rfl

lemma get?_of_getOr {t v : Json} {key : String} (got : getOr t key .null = some v)
    (isTrue : truthy v = true) : t.get? key = some v := by
  unfold getOr at got
  by_cases dict : t.isDict = true
  · rw [if_pos dict] at got
    cases found : t.get? key with
    | none =>
      rw [found] at got
      rw [← Option.some.inj got] at isTrue
      cases isTrue
    | some w =>
      rw [found] at got
      exact got
  · rw [if_neg dict] at got
    cases got

/-- A target that was kept had a password, and has what the action made of it. -/
lemma targetPass_kept {target : Json} {l : List Json} (made : targetPass act target = some l)
    {target' : Json} (mem : target' ∈ l) :
    ∃ authInfo password, target.get? "authInfo" = some authInfo ∧
      authInfo.get? "ssh_password" = some password ∧ truthy password = true ∧
      (target'.get? "authInfo").bind (fun v => v.get? "ssh_password") = (act password).join := by
  obtain ⟨authInfo, gotAuth, made⟩ := Option.bind_eq_some_iff.mp made
  by_cases auth : truthy authInfo = true
  · rw [if_pos auth] at made
    obtain ⟨password, gotPassword, made⟩ := Option.bind_eq_some_iff.mp made
    by_cases isTrue : truthy password = true
    · rw [if_pos isTrue] at made
      obtain ⟨altered, isAltered, made⟩ := Option.bind_eq_some_iff.mp made
      have isIt : target' = altered := by
        rw [← Option.some.inj made] at mem
        exact List.mem_singleton.mp mem
      have found := get?_of_getOr gotAuth auth
      have foundPassword := get?_of_getOr gotPassword isTrue
      refine ⟨authInfo, password, found, foundPassword, isTrue, ?_⟩
      rw [isIt, Json.get?_alter isAltered, found]
      show (((Json.alter "ssh_password" act authInfo).map some).join).bind _ = _
      cases inner : Json.alter "ssh_password" act authInfo with
      | none =>
        have isSome := (Json.alter_isSome.mp (Option.isSome_iff_exists.mpr ⟨altered, isAltered⟩)).2
          authInfo found
        rw [Change.into, inner] at isSome
        cases isSome
      | some authInfo' =>
        show authInfo'.get? "ssh_password" = _
        rw [Json.get?_alter inner, foundPassword]
        rfl
    · rw [if_neg isTrue] at made
      rw [← Option.some.inj made] at mem
      cases mem
  · rw [if_neg auth] at made
    rw [← Option.some.inj made] at mem
    cases mem

/-- A target with a password is kept, if the action can be done. -/
lemma targetPass_of_password {target target' authInfo password : Json}
    (found : target.get? "authInfo" = some authInfo)
    (foundPassword : authInfo.get? "ssh_password" = some password)
    (isTrue : truthy password = true)
    (altered : target.alter "authInfo" (Change.into (Json.alter "ssh_password" act)) =
      some target') :
    targetPass act target = some [target'] := by
  unfold targetPass
  rw [getOr_of_get? found]
  show (if truthy authInfo = true then _ else _) = _
  rw [if_pos (truthy_of_get? foundPassword), getOr_of_get? foundPassword]
  show (if truthy password = true then _ else _) = _
  rw [if_pos isTrue, altered]
  rfl

/-- A target with a password is kept, and after both actions it is as it was. -/
lemma targetPass_readable (documented : cipher.Documented) {target : Json}
    (readable : TargetReadable target) :
    ∃ target', targetPass (encryptAct cipher) target = some [target'] ∧
      targetPass (decryptAct cipher) target' = some [target] := by
  obtain ⟨authInfo, found, password, foundPassword, text, isTrue⟩ := readable
  have encrypts : (target.alter "authInfo"
      (Change.into (Json.alter "ssh_password" (encryptAct cipher)))).isSome = true := by
    rw [Json.alter_isSome]
    refine ⟨Json.isDict_of_get? found, fun v isIt => ?_⟩
    rw [found] at isIt
    rw [← Option.some.inj isIt, into_isSome, Json.alter_isSome]
    refine ⟨Json.isDict_of_get? foundPassword, fun w isIt => ?_⟩
    rw [foundPassword] at isIt
    rw [← Option.some.inj isIt]
    cases password with
    | atom a =>
      cases a with
      | str s => rfl
      | _ => cases text
    | _ => cases text
  obtain ⟨target', altered⟩ := Option.isSome_iff_exists.mp encrypts
  have made := targetPass_of_password found foundPassword isTrue altered
  refine ⟨target', made, ?_⟩
  have decrypted : target'.alter "authInfo"
      (Change.into (Json.alter "ssh_password" (decryptAct cipher))) = some target := by
    have twice := Json.alter_alter "authInfo"
      (Change.into (Json.alter "ssh_password" (encryptAct cipher)))
      (Change.into (Json.alter "ssh_password" (decryptAct cipher))) target
    rw [altered, Option.bind_some] at twice
    rw [twice, Change.into_andThen_into]
    simp only [Json.alter_alter]
    rw [encrypt_andThen_decrypt documented, Json.alter_eq_self]
    refine ⟨Json.isDict_of_get? found, fun v isIt => ?_⟩
    rw [found] at isIt
    rw [← Option.some.inj isIt]
    have kept : authInfo.alter "ssh_password" checkString = some authInfo := by
      rw [(Json.keeping_alter keeping_checkString).eq_self_iff, Json.alter_isSome]
      refine ⟨Json.isDict_of_get? foundPassword, fun w isIt => ?_⟩
      rw [foundPassword] at isIt
      rw [← Option.some.inj isIt, checkString_isSome]
      exact text
    rw [Change.into, kept]
    rfl
  -- the password that was encrypted is there, and it is not empty
  have found' : ∃ authInfo', target'.get? "authInfo" = some authInfo' ∧
      ∃ s, authInfo'.get? "ssh_password" = some (str (cipher.encrypt s)) := by
    obtain ⟨authInfo₁, password₁, found₁, foundPassword₁, _, there⟩ :=
      targetPass_kept made List.mem_cons_self
    rw [found] at found₁
    rw [← Option.some.inj found₁, foundPassword] at foundPassword₁
    rw [← Option.some.inj foundPassword₁] at there
    cases password with
    | atom a =>
      cases a with
      | str s =>
        obtain ⟨authInfo', foundAuth, foundText⟩ := Option.bind_eq_some_iff.mp there
        exact ⟨authInfo', foundAuth, s, foundText⟩
      | _ => cases text
    | _ => cases text
  obtain ⟨authInfo', foundAuth, s, foundText⟩ := found'
  exact targetPass_of_password foundAuth foundText (truthy_encrypt documented s) decrypted

/-- What was decrypted after it was encrypted has a password. -/
lemma readable_of_targetPass (documented : cipher.Documented) {target target' target'' : Json}
    {l l' : List Json} (encrypted : targetPass (encryptAct cipher) target = some l)
    (mem : target' ∈ l) (decrypted : targetPass (decryptAct cipher) target' = some l')
    (mem' : target'' ∈ l') : TargetReadable target'' := by
  obtain ⟨authInfo, password, _, _, isTrue, there⟩ := targetPass_kept encrypted mem
  obtain ⟨authInfo', password', found', foundPassword', _, there'⟩ := targetPass_kept decrypted mem'
  rw [found', Option.bind_some, foundPassword'] at there
  cases password with
  | atom a =>
    cases a with
    | str s =>
      obtain rfl := Option.some.inj there
      have isIt : (decryptAct cipher (str (cipher.encrypt s))).join = some (str s) := by
        show ((cipher.decrypt (cipher.encrypt s)).map _).join = _
        rw [documented.decrypt_encrypt]
        rfl
      rw [isIt] at there'
      obtain ⟨authInfo'', found'', foundPassword''⟩ := Option.bind_eq_some_iff.mp there'
      exact ⟨authInfo'', found'', str s, foundPassword'', rfl, isTrue⟩
    | _ => cases there
  | _ => cases there

lemma monitoringPass_eq_some {missing metadata metadata' : Json} :
    monitoringPass act missing metadata = some metadata' ↔
      ∃ monitoring targets kept, metadata.get? "monitoring" = some monitoring ∧
        (getOr monitoring "targetsInfo" missing).bind iterate = some targets ∧
        targets.mapM (targetPass act) = some kept ∧
        metadata' = metadata.set "monitoring"
          (monitoring.set "targetsInfo" (Json.list kept.flatten)) := by
  constructor
  · intro made
    obtain ⟨monitoring, got, made⟩ := Option.bind_eq_some_iff.mp made
    obtain ⟨targetsInfo, gotTargets, made⟩ := Option.bind_eq_some_iff.mp made
    obtain ⟨targets, iterated, made⟩ := Option.bind_eq_some_iff.mp made
    obtain ⟨kept, passed, made⟩ := Option.bind_eq_some_iff.mp made
    cases found : metadata.get? "monitoring" with
    | none =>
      rw [found] at made
      cases made
    | some monitoring' =>
      rw [getOr_of_get? found] at got
      obtain rfl := Option.some.inj got
      rw [found] at made
      exact ⟨monitoring', targets, kept, rfl, by rw [gotTargets]; exact iterated, passed,
        (Option.some.inj made).symm⟩
  · rintro ⟨monitoring, targets, kept, found, iterated, passed, rfl⟩
    obtain ⟨targetsInfo, gotTargets, iterated⟩ := Option.bind_eq_some_iff.mp iterated
    unfold monitoringPass
    rw [getOr_of_get? found]
    show (getOr monitoring "targetsInfo" missing).bind _ = _
    rw [gotTargets]
    show (iterate targetsInfo).bind _ = _
    rw [iterated]
    show (targets.mapM (targetPass act)).bind _ = _
    rw [passed, found]
    rfl

/-- Targets with passwords are kept in both directions. -/
lemma mapM_targetPass (documented : cipher.Documented) (targets : List Json)
    (readable : ∀ target ∈ targets, TargetReadable target) :
    ∃ targets' : List Json, targets.mapM (targetPass (encryptAct cipher)) =
        some (targets'.map fun target => [target]) ∧
      targets'.mapM (targetPass (decryptAct cipher)) =
        some (targets.map fun target => [target]) := by
  induction targets with
  | nil => exact ⟨[], rfl, rfl⟩
  | cons target targets ih =>
    obtain ⟨targets', encrypted, decrypted⟩ :=
      ih fun target mem => readable target (List.mem_cons_of_mem _ mem)
    obtain ⟨target', first, second⟩ :=
      targetPass_readable documented (readable target List.mem_cons_self)
    refine ⟨target' :: targets', ?_, ?_⟩
    · rw [List.mapM_cons, first, encrypted]
      rfl
    · rw [List.mapM_cons, second, decrypted]
      rfl

lemma flatten_singletons (targets : List Json) :
    (targets.map fun target => [target]).flatten = targets := by
  induction targets with
  | nil => rfl
  | cons target targets ih => exact congrArg (target :: ·) ih

lemma isDict_of_getOr {t v default : Json} {key : String} (got : getOr t key default = some v) :
    t.isDict = true := by
  unfold getOr at got
  by_cases dict : t.isDict = true
  · exact dict
  · rw [if_neg dict] at got
    cases got

lemma iterate_isList {t : Json} (isList : t.isList = true) : iterate t = some t.items := by
  cases t with
  | arr size item => rfl
  | _ => cases isList

lemma get?_set_self {t : Json} (dict : t.isDict = true) (key : String) (v : Json) :
    (t.set key v).get? key = some v := by
  rw [Json.get?_set dict, if_pos rfl]

/-- Monitoring information is as it was after it was stored and loaded exactly if it is a list of
targets with passwords. -/
lemma monitoring_stored_iff (documented : cipher.Documented) (metadata : Json) :
    (ifTruthy (encryptMonitoring cipher) metadata).bind (decryptMonitoring cipher) =
      some metadata ↔ MonitoringReadable metadata := by
  constructor
  · intro stored
    obtain ⟨middle, encrypted, decrypted⟩ := Option.bind_eq_some_iff.mp stored
    obtain ⟨monitoring', targets', kept', found', iterated', passed', isIt⟩ :=
      monitoringPass_eq_some.mp decrypted
    obtain ⟨targetsInfo', got', iterated'⟩ := Option.bind_eq_some_iff.mp iterated'
    have isTrue : truthy metadata = true := by
      by_contra isFalse
      rw [ifTruthy, if_neg isFalse] at encrypted
      rw [← Option.some.inj encrypted] at found'
      exact isFalse (truthy_of_get? found')
    rw [ifTruthy, if_pos isTrue] at encrypted
    obtain ⟨monitoring, targets, kept, found, iterated, passed, rfl⟩ :=
      monitoringPass_eq_some.mp encrypted
    obtain ⟨targetsInfo, got, iterated⟩ := Option.bind_eq_some_iff.mp iterated
    have isTargets : targets' = kept.flatten := by
      rw [get?_set_self (Json.isDict_of_get? found)] at found'
      rw [← Option.some.inj found', getOr_of_get? (get?_set_self (isDict_of_getOr got) _ _)] at got'
      rw [← Option.some.inj got', iterate_isList rfl, Json.items_list] at iterated'
      exact (Option.some.inj iterated').symm
    refine ⟨monitoring'.set "targetsInfo" (Json.list kept'.flatten), ?_,
      Json.list kept'.flatten, ?_, rfl, fun target'' mem => ?_⟩
    · rw [isIt]
      exact get?_set_self (Json.isDict_of_get? found') _ _
    · exact get?_set_self (isDict_of_getOr got') _ _
    · rw [Json.items_list] at mem
      obtain ⟨l', memKept', mem⟩ := List.mem_flatten.mp mem
      obtain ⟨target', memTargets', second⟩ := mem_of_mapM_some passed' memKept'
      rw [isTargets] at memTargets'
      obtain ⟨l, memKept, mem'⟩ := List.mem_flatten.mp memTargets'
      obtain ⟨target, _, first⟩ := mem_of_mapM_some passed memKept
      exact readable_of_targetPass documented first mem' second mem
  · rintro ⟨monitoring, found, targetsInfo, foundTargets, isList, readable⟩
    obtain ⟨targets', encrypted, decrypted⟩ := mapM_targetPass documented targetsInfo.items readable
    have dict := Json.isDict_of_get? foundTargets
    have first : encryptMonitoring cipher metadata = some (metadata.set "monitoring"
        (monitoring.set "targetsInfo" (Json.list targets'))) := by
      apply monitoringPass_eq_some.mpr
      refine ⟨monitoring, targetsInfo.items, _, found, ?_, encrypted, ?_⟩
      · rw [getOr_of_get? foundTargets]
        exact iterate_isList isList
      · rw [flatten_singletons]
    rw [ifTruthy, if_pos (truthy_of_get? found), first]
    apply monitoringPass_eq_some.mpr
    refine ⟨_, targets', _, get?_set_self (Json.isDict_of_get? found) _ _, ?_, decrypted, ?_⟩
    · rw [getOr_of_get? (get?_set_self dict _ _), Option.bind_some, iterate_isList rfl,
        Json.items_list]
    · rw [flatten_singletons, Json.list_items isList, Json.set_set, Json.set_set,
        Json.set_self foundTargets, Json.set_self found]

end Tacker.Crypt
