import Tacker.Crypt.SubscPasses

/-!
# Stored subscriptions, PM jobs and thresholds

Subscriptions, PM jobs and thresholds with encryption of credentials are read back as they were if
the secrets that are set are not empty, the metadata, if they are set, have a list of monitoring
targets with passwords, and no point in time below a column has a fraction of a second.
-/

namespace Tacker.Crypt

open Tacker.Basis Tacker.Fields Tacker.Objects

variable {operation : LcmOperationType} {types : FieldTypes} {cipher : Cipher}

/-! ## Hooks of attributes -/

section Attributes

variable {cls : ClassName} {x : Value (registry operation) (.object cls false)}
  {i j : Fin (registry operation cls).size}

/-- An object as its row keeps it. -/
def storedObj (x : Value (registry operation) (.object cls false)) :
    Value (registry operation) (.object cls false) :=
  .ofAttrs fun i => (x.attr? i).map storedWhole

lemma storedObj_eq_self (documented : types.Documented)
    (x : Value (registry operation) (.object cls false)) : storedObj x = x ↔ ExactRow x := by
  rw [← fromDbObj_toDbObj_iff documented, fromDbObj_toDbObj documented, Option.some.injEq]
  rfl

lemma onAttr_storedObj
    {change : Value (registry operation) ((registry operation cls).kind i) →
      Option (Value (registry operation) ((registry operation cls).kind i))}
    (whole : ∀ v : Value (registry operation) ((registry operation cls).kind i), storedWhole v = v) :
    Value.onAttr i change (storedObj x) = (Value.onAttr i change x).map storedObj := by
  have attr : (storedObj x).attr? i = x.attr? i := by
    rw [storedObj, Value.attr?_ofAttrs]
    cases x.attr? i with
    | none => rfl
    | some v => exact congrArg some (whole v)
  cases set : x.attr? i with
  | none =>
    rw [Value.onAttr_unset (attr.trans set), Value.onAttr_unset set]
    rfl
  | some v =>
    rw [Value.onAttr_set (attr.trans set), Value.onAttr_set set, Option.map_map]
    apply congrFun (congrArg Option.map _)
    funext w
    apply Value.attr?_injective
    show ((storedObj x).setAttr i w).attr? = (storedObj (x.setAttr i w)).attr?
    rw [Value.attr?_setAttr, storedObj, storedObj, Value.attr?_ofAttrs, Value.attr?_ofAttrs,
      Value.attr?_setAttr]
    funext k
    by_cases same : k = i
    · subst same
      rw [Function.update_self, Function.update_self]
      exact congrArg some (whole w).symm
    · rw [Function.update_of_ne same, Function.update_of_ne same]

variable {encrypt decrypt : Value (registry operation) ((registry operation cls).kind i) →
    Option (Value (registry operation) ((registry operation cls).kind i))}
  {encrypt' decrypt' : Value (registry operation) ((registry operation cls).kind j) →
    Option (Value (registry operation) ((registry operation cls).kind j))}
  {f g : Fields.Json → Option Fields.Json}

/-- An object that is stored and loaded, with a hook on one attribute. -/
lemma stored_hook (documented : types.Documented)
    (isDocument : ∀ v : Value (registry operation) ((registry operation cls).kind i),
      IsDocument types v)
    (made : ∀ v, (encrypt v).map (Value.toPrimitive types) = f (v.toPrimitive types))
    (whole : ∀ v : Value (registry operation) ((registry operation cls).kind i), storedWhole v = v) :
    (changeColumn ((registry operation cls).column i) f (Fields.toDbObj types x)).bind (fun row =>
        (Fields.fromDbObj types row).bind (Value.onAttr i decrypt)) =
      (Value.onAttr i (fun v => (encrypt v).bind decrypt) x).map storedObj := by
  rw [changeColumn_toDbObj isDocument fun v _ => made v, ← Value.onAttr_bind]
  cases Value.onAttr i encrypt x with
  | none => rfl
  | some y =>
    show (Fields.fromDbObj types (Fields.toDbObj types y)).bind _ = (Value.onAttr i decrypt y).map _
    rw [fromDbObj_toDbObj documented]
    exact onAttr_storedObj whole

/-- The same with hooks on two attributes. -/
lemma stored_hooks (documented : types.Documented) (ne : i ≠ j)
    (isDocument : ∀ v : Value (registry operation) ((registry operation cls).kind i),
      IsDocument types v)
    (isDocument' : ∀ v : Value (registry operation) ((registry operation cls).kind j),
      IsDocument types v)
    (made : ∀ v, (encrypt v).map (Value.toPrimitive types) = f (v.toPrimitive types))
    (made' : ∀ v, (encrypt' v).map (Value.toPrimitive types) = g (v.toPrimitive types))
    (whole : ∀ v : Value (registry operation) ((registry operation cls).kind i), storedWhole v = v)
    (whole' : ∀ v : Value (registry operation) ((registry operation cls).kind j),
      storedWhole v = v) :
    ((changeColumn ((registry operation cls).column i) f (Fields.toDbObj types x)).bind
        (changeColumn ((registry operation cls).column j) g)).bind (fun row =>
          ((Fields.fromDbObj types row).bind (Value.onAttr i decrypt)).bind
            (Value.onAttr j decrypt')) =
      ((Value.onAttr i (fun v => (encrypt v).bind decrypt) x).bind
        (Value.onAttr j fun v => (encrypt' v).bind decrypt')).map storedObj := by
  have twice : ((Value.onAttr i encrypt x).bind (Value.onAttr j encrypt')).bind (fun y =>
      (Value.onAttr i decrypt y).bind (Value.onAttr j decrypt')) =
        (Value.onAttr i (fun v => (encrypt v).bind decrypt) x).bind
          (Value.onAttr j fun v => (encrypt' v).bind decrypt') :=
    bind_bind_of_comm (fun _ => Value.onAttr_comm ne.symm) (fun _ => Value.onAttr_bind)
      (fun _ => Value.onAttr_bind) x
  rw [changeColumn_toDbObj isDocument fun v _ => made v, ← twice]
  cases Value.onAttr i encrypt x with
  | none => rfl
  | some y =>
    show (changeColumn _ g (Fields.toDbObj types y)).bind _ =
      ((Value.onAttr j encrypt' y).bind _).map _
    rw [changeColumn_toDbObj isDocument' fun v _ => made' v]
    cases Value.onAttr j encrypt' y with
    | none => rfl
    | some z =>
      show ((Fields.fromDbObj types (Fields.toDbObj types z)).bind _).bind _ =
        ((Value.onAttr i decrypt z).bind _).map _
      rw [fromDbObj_toDbObj documented]
      show (Value.onAttr i decrypt (storedObj z)).bind _ = _
      rw [onAttr_storedObj whole]
      cases Value.onAttr i decrypt z with
      | none => rfl
      | some w => exact onAttr_storedObj whole'

variable {check : Value (registry operation) ((registry operation cls).kind i) →
    Option (Value (registry operation) ((registry operation cls).kind i))}
  {change : Value (registry operation) ((registry operation cls).kind j) →
    Option (Value (registry operation) ((registry operation cls).kind j))}

/-- A check of an attribute leaves the object as it was if the attribute passes it. -/
lemma onAttr_check (keeping : ∀ v v', check v = some v' → v' = v) :
    Value.onAttr i check x = some x ↔ ∀ v, x.attr? i = some v → (check v).isSome = true := by
  rw [← Value.onAttr_isSome]
  constructor
  · intro same
    rw [same]
    rfl
  · intro isSome
    obtain ⟨x', made⟩ := Option.isSome_iff_exists.mp isSome
    rw [made, Value.onAttr_keeping keeping made]

/-- An object whose attribute is checked is as it was exactly if the attribute passes the check and
its row keeps the rest. -/
lemma stored_check_iff (documented : types.Documented)
    (keeping : ∀ v v', check v = some v' → v' = v) :
    (Value.onAttr i check x).map storedObj = some x ↔
      (∀ v, x.attr? i = some v → (check v).isSome = true) ∧ ExactRow x := by
  rw [← onAttr_check keeping, ← storedObj_eq_self documented]
  constructor
  · intro stored
    obtain ⟨x', made, same⟩ := Option.map_eq_some_iff.mp stored
    obtain rfl := Value.onAttr_keeping keeping made
    exact ⟨made, same⟩
  · rintro ⟨made, same⟩
    rw [made]
    exact congrArg some same

/-- The same with a second attribute, which is changed. -/
lemma stored_change_iff (documented : types.Documented)
    (keeping : ∀ v v', check v = some v' → v' = v)
    (whole : ∀ v : Value (registry operation) ((registry operation cls).kind j),
      storedWhole v = v) :
    ((Value.onAttr i check x).bind (Value.onAttr j change)).map storedObj = some x ↔
      (∀ v, x.attr? i = some v → (check v).isSome = true) ∧
        (∀ v, x.attr? j = some v → change v = some v) ∧ ExactRow x := by
  rw [← onAttr_check keeping, ← storedObj_eq_self documented]
  constructor
  · intro stored
    obtain ⟨x', made, same⟩ := Option.map_eq_some_iff.mp stored
    obtain ⟨middle, first, second⟩ := Option.bind_eq_some_iff.mp made
    obtain rfl := Value.onAttr_keeping keeping first
    have attr : (x'.attr? j).map storedWhole = middle.attr? j := by
      rw [← congrFun (congrArg Value.attr? same) j, storedObj, Value.attr?_ofAttrs]
    cases set : middle.attr? j with
    | none =>
      rw [Value.onAttr_unset set] at second
      obtain rfl := Option.some.inj second
      exact ⟨first, fun v absent => (by cases absent), same⟩
    | some v =>
      rw [Value.onAttr_set set] at second
      obtain ⟨v', changed, rfl⟩ := Option.map_eq_some_iff.mp second
      rw [Value.attr?_setAttr_self, set, Option.map_some, whole] at attr
      obtain rfl := Option.some.inj attr
      have stays : middle.setAttr j v' = middle := (Value.setAttr_eq_self set).mpr rfl
      rw [stays] at same
      refine ⟨first, fun w isIt => ?_, same⟩
      rw [← Option.some.inj isIt]
      exact changed
  · rintro ⟨first, second, same⟩
    have made : Value.onAttr j change x = some x := by
      cases set : x.attr? j with
      | none => exact Value.onAttr_unset set
      | some v =>
        rw [Value.onAttr_set set, second v set]
        exact congrArg some ((Value.setAttr_eq_self set).mpr rfl)
    rw [first, Option.bind_some, made]
    exact congrArg some same

end Attributes

/-! ## Both hooks -/

lemma storedWhole_auth (auth : SubscAuth operation) : storedWhole auth = auth := by
  rw [storedWhole_eq_iff]
  exact isStoredWhole_of_isWhole (isWhole_of_timeless (timelessClass_closed operation) auth rfl)

lemma storedWhole_pairs (v : Value (registry operation) .keyValuePairs) : storedWhole v = v := by
  cases v
  rfl

lemma keepsShape_encryptMonitoring : KeepsShape (ifTruthy (encryptMonitoring cipher)) where
  dict t t' dict made := by
    unfold ifTruthy at made
    by_cases isTrue : truthy t = true
    · rw [if_pos isTrue] at made
      obtain ⟨monitoring, targets, kept, _, _, _, rfl⟩ := monitoringPass_eq_some.mp made
      rw [Json.isDict_set]
      exact dict
    · rw [if_neg isTrue] at made
      rw [← Option.some.inj made]
      exact dict
  text value t' made := by
    unfold ifTruthy at made
    by_cases isTrue : truthy (str value) = true
    · rw [if_pos isTrue] at made
      obtain ⟨monitoring, targets, kept, found, _⟩ := monitoringPass_eq_some.mp made
      cases found
    · rw [if_neg isTrue] at made
      exact ⟨value, (Option.some.inj made).symm⟩

/-- The metadata in memory after they were stored and loaded. -/
def metadataChange (cipher : Cipher) (metadata : Value (registry operation) .keyValuePairs) :
    Option (Value (registry operation) .keyValuePairs) :=
  (Place.pairs.change (ifTruthy (encryptMonitoring cipher)) metadata).bind
    (Place.pairs.change (decryptMonitoring cipher))

/-- The monitoring information in the metadata can be read back. -/
def MetadataReadable (metadata : Value (registry operation) .keyValuePairs) : Prop :=
  Place.pairs.Each MonitoringReadable metadata

lemma metadataChange_iff (documented : cipher.Documented)
    (metadata : Value (registry operation) .keyValuePairs) :
    metadataChange cipher metadata = some metadata ↔ MetadataReadable metadata := by
  rw [metadataChange, Place.change_change keepsShape_encryptMonitoring, Place.change_eq_self,
    funext fun t => propext (monitoring_stored_iff documented t)]
  rfl

lemma subscAuth_check (documented : cipher.Documented) :
    (fun auth : SubscAuth operation =>
      (subscAuthChange (encryptSecret cipher) auth).bind (decryptSubscAuth cipher)) =
        subscAuthChange checkSecret :=
  funext (subscAuthChange_bind documented)

/-! ## Storing and loading -/

lemma readable_iff {cls : ClassName} {i : Fin (registry operation cls).size}
    {x : Value (registry operation) (.object cls false)}
    {check : Value (registry operation) ((registry operation cls).kind i) →
      Option (Value (registry operation) ((registry operation cls).kind i))}
    {Readable : Value (registry operation) ((registry operation cls).kind i) → Prop}
    (each : ∀ v, (check v).isSome = true ↔ Readable v) :
    (∀ v, x.attr? i = some v → (check v).isSome = true) ↔
      ∀ v, x.attr? i = some v → Readable v :=
  forall_congr' fun v => imp_congr_right fun _ => each v

lemma lccn_stored_iff (documented : types.Documented) (plain : types.PlainTexts)
    (cipherDocumented : cipher.Documented) (subsc : LccnSubscription operation) :
    (lccnToDbObj types cipher subsc).bind (lccnFromDbObj types cipher) = some subsc ↔
      ∀ auth, subsc.attr? lccnAuthField = some auth → AuthReadable auth := by
  have stored : (lccnToDbObj types cipher subsc).bind (lccnFromDbObj types cipher) =
      (Value.onAttr lccnAuthField (subscAuthChange checkSecret) subsc).map storedObj := by
    rw [← subscAuth_check cipherDocumented]
    exact stored_hook (i := lccnAuthField) documented isDocument_object
      (encryptSubscAuth_toPrimitive plain) storedWhole_auth
  have whole : ExactRow subsc := exactRow_of_timeless (timelessClass_closed operation)
    (fun i => Or.inr (timelessClass_closed operation .lccnSubscription rfl i)) subsc
  rw [stored]
  apply (stored_check_iff (i := lccnAuthField) documented subscAuthChange_keeping).trans
  apply (and_iff_left whole).trans
  exact readable_iff subscAuthChange_isSome

lemma fm_stored_iff (documented : types.Documented) (plain : types.PlainTexts)
    (cipherDocumented : cipher.Documented) (subsc : FmSubscription operation) :
    (fmToDbObj types cipher subsc).bind (fmFromDbObj types cipher) = some subsc ↔
      ∀ auth, subsc.attr? fmAuthField = some auth → AuthReadable auth := by
  have stored : (fmToDbObj types cipher subsc).bind (fmFromDbObj types cipher) =
      (Value.onAttr fmAuthField (subscAuthChange checkSecret) subsc).map storedObj := by
    rw [← subscAuth_check cipherDocumented]
    exact stored_hook (i := fmAuthField) documented isDocument_object
      (encryptSubscAuth_toPrimitive plain) storedWhole_auth
  have whole : ExactRow subsc := exactRow_of_timeless (timelessClass_closed operation)
    (fun i => Or.inr (timelessClass_closed operation .fmSubscription rfl i)) subsc
  rw [stored]
  apply (stored_check_iff (i := fmAuthField) documented subscAuthChange_keeping).trans
  apply (and_iff_left whole).trans
  exact readable_iff subscAuthChange_isSome

lemma pmJob_stored_iff (documented : types.Documented) (plain : types.PlainTexts)
    (cipherDocumented : cipher.Documented) (pmJob : PmJob operation) :
    (pmJobToDbObj types cipher pmJob).bind (pmJobFromDbObj types cipher) = some pmJob ↔
      (∀ auth, pmJob.attr? pmJobAuthField = some auth → AuthReadable auth) ∧
        (∀ metadata, pmJob.attr? pmJobMetadataField = some metadata →
          MetadataReadable metadata) ∧ ExactRow pmJob := by
  have ne : (pmJobAuthField : Fin (registry operation .pmJob).size) ≠ pmJobMetadataField := by
    intro same
    cases same
  have stored : (pmJobToDbObj types cipher pmJob).bind (pmJobFromDbObj types cipher) =
      ((Value.onAttr pmJobAuthField (subscAuthChange checkSecret) pmJob).bind
        (Value.onAttr pmJobMetadataField (metadataChange cipher))).map storedObj := by
    rw [← subscAuth_check cipherDocumented]
    exact stored_hooks (i := pmJobAuthField) (j := pmJobMetadataField) (x := pmJob) documented ne
      isDocument_object isDocument_pairs
      (encryptSubscAuth_toPrimitive plain)
      (Place.toPrimitive_change plain keepsShape_encryptMonitoring .pairs)
      storedWhole_auth storedWhole_pairs
  rw [stored]
  apply (stored_change_iff documented subscAuthChange_keeping storedWhole_pairs).trans
  apply and_congr (readable_iff subscAuthChange_isSome)
  apply and_congr_left
  intro _
  exact forall_congr' fun metadata => imp_congr_right fun _ =>
    metadataChange_iff cipherDocumented metadata

lemma threshold_stored_iff (documented : types.Documented) (plain : types.PlainTexts)
    (cipherDocumented : cipher.Documented) (threshold : Threshold operation) :
    (thresholdToDbObj types cipher threshold).bind (thresholdFromDbObj types cipher) =
        some threshold ↔
      (∀ auth, threshold.attr? thresholdAuthField = some auth → AuthReadable auth) ∧
        ∀ metadata, threshold.attr? thresholdMetadataField = some metadata →
          MetadataReadable metadata := by
  have ne : (thresholdAuthField : Fin (registry operation .threshold).size) ≠
      thresholdMetadataField := by
    intro same
    cases same
  have stored : (thresholdToDbObj types cipher threshold).bind
      (thresholdFromDbObj types cipher) =
      ((Value.onAttr thresholdAuthField (subscAuthChange checkSecret) threshold).bind
        (Value.onAttr thresholdMetadataField (metadataChange cipher))).map storedObj := by
    rw [← subscAuth_check cipherDocumented]
    exact stored_hooks (i := thresholdAuthField) (j := thresholdMetadataField) (x := threshold)
      documented ne isDocument_object isDocument_pairs
      (encryptSubscAuth_toPrimitive plain)
      (Place.toPrimitive_change plain keepsShape_encryptMonitoring .pairs)
      storedWhole_auth storedWhole_pairs
  have whole : ExactRow threshold := exactRow_of_timeless (timelessClass_closed operation)
    (fun i => Or.inr (timelessClass_closed operation .threshold rfl i)) threshold
  rw [stored]
  apply (stored_change_iff documented subscAuthChange_keeping storedWhole_pairs).trans
  apply and_congr (readable_iff subscAuthChange_isSome)
  apply (and_iff_left whole).trans
  exact forall_congr' fun metadata => imp_congr_right fun _ =>
    metadataChange_iff cipherDocumented metadata

/-- Subscriptions, PM jobs and thresholds are stored and loaded as they were exactly if the secrets
of their authentication that are set are not empty; of PM jobs and thresholds also their metadata, if
they are set, must have a list of monitoring targets with passwords, and of PM jobs no point in time
may have a fraction of a second. -/
theorem stored_subscriptions_iff (documented : types.Documented) (plain : types.PlainTexts)
    (cipherDocumented : cipher.Documented) :
    (∀ subsc : LccnSubscription operation,
        (lccnToDbObj types cipher subsc).bind (lccnFromDbObj types cipher) = some subsc ↔
          ∀ auth, subsc.attr? lccnAuthField = some auth → AuthReadable auth) ∧
      (∀ subsc : FmSubscription operation,
        (fmToDbObj types cipher subsc).bind (fmFromDbObj types cipher) = some subsc ↔
          ∀ auth, subsc.attr? fmAuthField = some auth → AuthReadable auth) ∧
      (∀ pmJob : PmJob operation,
        (pmJobToDbObj types cipher pmJob).bind (pmJobFromDbObj types cipher) = some pmJob ↔
          (∀ auth, pmJob.attr? pmJobAuthField = some auth → AuthReadable auth) ∧
            (∀ metadata, pmJob.attr? pmJobMetadataField = some metadata →
              MetadataReadable metadata) ∧ ExactRow pmJob) ∧
      ∀ threshold : Threshold operation,
        (thresholdToDbObj types cipher threshold).bind (thresholdFromDbObj types cipher) =
            some threshold ↔
          (∀ auth, threshold.attr? thresholdAuthField = some auth → AuthReadable auth) ∧
            ∀ metadata, threshold.attr? thresholdMetadataField = some metadata →
              MetadataReadable metadata :=
  ⟨lccn_stored_iff documented plain cipherDocumented,
    fm_stored_iff documented plain cipherDocumented,
    pmJob_stored_iff documented plain cipherDocumented,
    threshold_stored_iff documented plain cipherDocumented⟩

/-! ## Examples -/

/-- A basic authentication. -/
def basicAuth (password : String) : SubscAuth .heal :=
  Value.new.setAttr paramsBasicField
    ((Value.new.setAttr (⟨1, by decide⟩ :
        Fin (registry .heal .subscriptionAuthenticationParamsBasic).size)
      (.scalar (.text password rfl)) :
        Value (registry .heal) (.object .subscriptionAuthenticationParamsBasic false)))

/-- A subscription with a basic authentication. -/
def basicSubscription (password : String) : LccnSubscription .heal :=
  Value.new.setAttr lccnAuthField (basicAuth password)

/-- `stored_subscriptions_iff` for a subscription with a password. -/
theorem password_stored :
    (lccnToDbObj plainTypes markCipher (basicSubscription "pw")).bind
      (lccnFromDbObj plainTypes markCipher) = some (basicSubscription "pw") := by
  apply ((stored_subscriptions_iff plainTypes_documented plainTypes_plainTexts
    markCipher_documented).1 (basicSubscription "pw")).mpr
  intro auth found
  have isIt : (basicSubscription "pw").attr? lccnAuthField = some (basicAuth "pw") := rfl
  rw [← Option.some.inj (isIt.symm.trans found)]
  exact (subscAuthChange_isSome (basicAuth "pw")).mp rfl

/-- A subscription whose password is empty is stored and cannot be loaded. -/
theorem empty_password_raises :
    (lccnToDbObj plainTypes markCipher (basicSubscription "")).isSome = true ∧
      (lccnToDbObj plainTypes markCipher (basicSubscription "")).bind
        (lccnFromDbObj plainTypes markCipher) = (none : Option (LccnSubscription .heal)) :=
  ⟨rfl, rfl⟩

end Tacker.Crypt
