import Tacker.Crypt.Hooks

/-!
# Stored credentials

An instance, and an occurrence that is not in a terminal state, is read back with its credentials as
they were, as long as its secrets can be encrypted; an occurrence in a terminal state is read back
without them.
-/

namespace Tacker.Crypt

open Tacker.Basis Tacker.Fields Tacker.Objects

variable {operation : LcmOperationType} {types : FieldTypes} {cipher : Cipher} {act act' : Action}

/-! ## Passes in memory -/

lemma keepsShape_edit (h : String → Change String Atom) : KeepsShape (Json.edit h) where
  dict _ _ _ edited := (Json.isDict_edit edited).2
  text _ _ edited := by cases edited

lemma keepsShape_accessInfoPass : KeepsShape (accessInfoPass act) := by
  rw [funext (accessInfoPass_eq act)]
  exact keepsShape_edit _

lemma keepsShape_additionalParamsPass : KeepsShape (additionalParamsPass act) :=
  keepsShape_edit _

lemma into_ifTruthy (f : Json → Option Json) :
    Change.into (ifTruthy f) = whenTruthy (Change.into f) := by
  funext t
  unfold Change.into ifTruthy
  by_cases isTrue : truthy t = true
  · rw [if_pos isTrue, whenTruthy_of_truthy isTrue]
  · rw [if_neg isTrue, whenTruthy_of_falsy isTrue]
    rfl

section Params

variable {cls : ClassName} {isParams : Bool}

/-- A pass over an attribute whose primitive is a dictionary, by the name of the attribute. -/
lemma alter_attr (plain : types.PlainTexts) {f : Json → Option Json} (keepsShape : KeepsShape f)
    (i : Fin (registry operation cls).size)
    {inner : Place (registry operation) ((registry operation cls).kind i)}
    {h : String → Change String Atom} (isEdit : inner.changeDoc f = Json.edit h)
    (dict : ∀ v : Value (registry operation) ((registry operation cls).kind i),
      (v.toPrimitive types).isDict = true)
    (v : Value (registry operation) (.object cls isParams)) :
    Json.alter ((registry operation cls).name i) (Change.into (ifTruthy (Json.edit h)))
        (v.toPrimitive types) =
      ((Place.attr i inner).change f v).map (Value.toPrimitive types) := by
  rw [Place.toPrimitive_change plain keepsShape]
  show Json.edit _ _ = Json.edit _ _
  apply Json.edit_congr
  intro key doc found
  by_cases same : key = (registry operation cls).name i
  · rw [if_pos same, if_pos same, isEdit, into_ifTruthy, whenTruthy_edit_dict]
    rw [same, toPrimitive_object, get?_objectDoc] at found
    obtain ⟨w, _, rfl⟩ := Option.map_eq_some_iff.mp found
    exact dict w
  · rw [if_neg same, if_neg same]

/-- A pass over an attribute that the class does not have. -/
lemma alter_noAttr {name : String} (other : ∀ i, (registry operation cls).name i ≠ name)
    (h : Change String Atom) (v : Value (registry operation) (.object cls isParams)) :
    Json.alter name h (v.toPrimitive types) = some (v.toPrimitive types) := by
  rw [toPrimitive_object]
  exact Json.alter_absent rfl (get?_objectDoc_other _ other)

end Params

lemma isDict_dict {kind : Kind ClassName} (v : Value (registry operation) (.dict kind)) :
    (v.toPrimitive types).isDict = true := by
  cases v
  rfl

lemma isDict_pairs (v : Value (registry operation) .keyValuePairs) :
    (v.toPrimitive types).isDict = true := by
  cases v with
  | keyValuePairs pairs isDict => exact isDict

/-- The pass over the VIM connections of parameters is the change of these in memory. -/
lemma alter_vimInfos (plain : types.PlainTexts) (v : OperationParams operation) :
    Json.alter "vimConnectionInfo" (Change.into (ifTruthy (vimInfosPass act)))
        (v.toPrimitive types) =
      (changeAt (accessInfoPass act) (paramsVimInfos operation) v).map
        (Value.toPrimitive types) := by
  cases operation with
  | instantiate => exact alter_attr plain keepsShape_accessInfoPass ⟨4, by decide⟩ rfl isDict_dict v
  | changeExtConn => exact alter_attr plain keepsShape_accessInfoPass ⟨1, by decide⟩ rfl isDict_dict v
  | modifyInfo => exact alter_attr plain keepsShape_accessInfoPass ⟨6, by decide⟩ rfl isDict_dict v
  | changeVnfpkg => exact alter_attr plain keepsShape_accessInfoPass ⟨3, by decide⟩ rfl isDict_dict v
  | scale => exact alter_noAttr (by decide) _ v
  | terminate => exact alter_noAttr (by decide) _ v
  | heal => exact alter_noAttr (by decide) _ v

/-- The pass over the additional parameters is the change of these in memory. -/
lemma alter_additionalParams (plain : types.PlainTexts) (v : OperationParams operation) :
    Json.alter "additionalParams" (Change.into (ifTruthy (additionalParamsPass act)))
        (v.toPrimitive types) =
      (changeAt (additionalParamsPass act) (paramsAdditional operation) v).map
        (Value.toPrimitive types) := by
  cases operation with
  | modifyInfo => exact alter_noAttr (by decide) _ v
  | instantiate =>
    exact alter_attr plain keepsShape_additionalParamsPass ⟨6, by decide⟩ rfl isDict_pairs v
  | scale =>
    exact alter_attr plain keepsShape_additionalParamsPass ⟨3, by decide⟩ rfl isDict_pairs v
  | terminate =>
    exact alter_attr plain keepsShape_additionalParamsPass ⟨2, by decide⟩ rfl isDict_pairs v
  | heal =>
    exact alter_attr plain keepsShape_additionalParamsPass ⟨1, by decide⟩ rfl isDict_pairs v
  | changeExtConn =>
    exact alter_attr plain keepsShape_additionalParamsPass ⟨2, by decide⟩ rfl isDict_pairs v
  | changeVnfpkg =>
    exact alter_attr plain keepsShape_additionalParamsPass ⟨4, by decide⟩ rfl isDict_pairs v

/-- The credentials of parameters in memory. -/
def paramsChange (act : Action) (v : OperationParams operation) :
    Option (OperationParams operation) :=
  (changeAt (accessInfoPass act) (paramsVimInfos operation) v).bind
    (changeAt (additionalParamsPass act) (paramsAdditional operation))

lemma operationParamsPass_toPrimitive (plain : types.PlainTexts) (v : OperationParams operation) :
    ifTruthy (operationParamsPass act) (v.toPrimitive types) =
      (paramsChange act v).map (Value.toPrimitive types) := by
  have made : operationParamsPass act (v.toPrimitive types) =
      (paramsChange act v).map (Value.toPrimitive types) := by
    unfold operationParamsPass paramsChange
    rw [alter_vimInfos plain]
    cases changeAt (accessInfoPass act) (paramsVimInfos operation) v with
    | none => rfl
    | some v' => exact alter_additionalParams plain v'
  rw [← made]
  by_cases isTrue : truthy (v.toPrimitive types) = true
  · exact if_pos isTrue
  · have absent : ∀ key, (v.toPrimitive types).get? key = none := by
      rw [toPrimitive_object] at isTrue ⊢
      intro key
      apply if_neg
      intro mem
      apply isTrue
      show (!List.isEmpty _) = true
      rw [List.isEmpty_eq_false_iff.mpr (List.ne_nil_of_mem mem)]
      rfl
    have dict : (v.toPrimitive types).isDict = true := by
      rw [toPrimitive_object]
      rfl
    rw [operationParamsPass, Json.alter_absent dict (absent _), Option.bind_some,
      Json.alter_absent dict (absent _)]
    exact if_neg isTrue

lemma changeAt_none_comm {kind : Kind ClassName} (f g : Json → Option Json)
    (place : Option (Place (registry operation) kind)) (v : Value (registry operation) kind) :
    (changeAt f none v).bind (changeAt g place) = (changeAt g place v).bind (changeAt f none) := by
  show changeAt g place v = _
  cases changeAt g place v <;> rfl

/-- What is done to VIM connections and to additional parameters can be done in any order. -/
lemma changeAt_comm (f g : Json → Option Json) (v : OperationParams operation) :
    (changeAt f (paramsVimInfos operation) v).bind (changeAt g (paramsAdditional operation)) =
      (changeAt g (paramsAdditional operation) v).bind
        (changeAt f (paramsVimInfos operation)) := by
  cases operation with
  | instantiate => exact Value.onAttr_comm (by decide)
  | changeExtConn => exact Value.onAttr_comm (by decide)
  | changeVnfpkg => exact Value.onAttr_comm (by decide)
  | modifyInfo => exact (changeAt_none_comm g f _ v).symm
  | scale => exact changeAt_none_comm f g _ v
  | terminate => exact changeAt_none_comm f g _ v
  | heal => exact changeAt_none_comm f g _ v

lemma changeAt_bind {kind : Kind ClassName} {f g h : Json → Option Json}
    (keepsShape : KeepsShape f) (one : ∀ t, (f t).bind g = h t)
    (place : Option (Place (registry operation) kind)) (v : Value (registry operation) kind) :
    (changeAt f place v).bind (changeAt g place) = changeAt h place v := by
  cases place with
  | none => rfl
  | some place =>
    show (place.change f v).bind (place.change g) = place.change h v
    rw [place.change_change keepsShape v, funext one]

/-- Two steps, and then the same two steps again, are each of them done twice. -/
lemma bind_bind_of_comm {α : Type} {a b a' b' c d : α → Option α}
    (comm : ∀ v, (b v).bind a' = (a' v).bind b) (first : ∀ v, (a v).bind a' = c v)
    (second : ∀ v, (b v).bind b' = d v) (v : α) :
    ((a v).bind b).bind (fun u => (a' u).bind b') = (c v).bind d := by
  rw [← first v]
  cases a v with
  | none => rfl
  | some w =>
    show (b w).bind (fun u => (a' u).bind b') = (a' w).bind d
    rw [← Option.bind_assoc, comm, Option.bind_assoc, funext second]

/-- Two passes over the credentials of parameters are one. -/
lemma paramsChange_bind {c : Action} (vims : act.andThen act' = c) (vdus : both act act' = c)
    (v : OperationParams operation) :
    (paramsChange act v).bind (paramsChange act') = paramsChange c v := by
  have vimsDone : ∀ v : OperationParams operation,
      (changeAt (accessInfoPass act) (paramsVimInfos operation) v).bind
        (changeAt (accessInfoPass act') (paramsVimInfos operation)) =
      changeAt (accessInfoPass c) (paramsVimInfos operation) v :=
    changeAt_bind keepsShape_accessInfoPass (fun t => by rw [accessInfoPass_bind, vims]) _
  have vdusDone : ∀ v : OperationParams operation,
      (changeAt (additionalParamsPass act) (paramsAdditional operation) v).bind
        (changeAt (additionalParamsPass act') (paramsAdditional operation)) =
      changeAt (additionalParamsPass c) (paramsAdditional operation) v :=
    changeAt_bind keepsShape_additionalParamsPass
      (fun t => by rw [additionalParamsPass_bind, vdus]) _
  exact bind_bind_of_comm (fun v => (changeAt_comm _ _ v).symm) vimsDone vdusDone v

/-! ## Hooks in memory -/

/-- The credentials of an occurrence in memory. -/
def lcmOpOccChange (act : Action) (lcmocc : VnfLcmOpOcc operation) :
    Option (VnfLcmOpOcc operation) :=
  (Value.onAttr operationParamsField (paramsChange act) lcmocc).bind
    (Value.onAttr changedInfoField (changedVimInfos.change (accessInfoPass act)))

/-- Two passes over the credentials of VIM connections are one. -/
lemma change_accessInfoPass_bind {kind : Kind ClassName} (place : Place (registry operation) kind)
    (v : Value (registry operation) kind) :
    (place.change (accessInfoPass act) v).bind (place.change (accessInfoPass act')) =
      place.change (accessInfoPass (act.andThen act')) v := by
  rw [place.change_change keepsShape_accessInfoPass, funext accessInfoPass_bind]

/-- Two passes over the credentials of an occurrence are one. -/
lemma lcmOpOccChange_bind {c : Action} (vims : act.andThen act' = c) (vdus : both act act' = c)
    (lcmocc : VnfLcmOpOcc operation) :
    (lcmOpOccChange act lcmocc).bind (lcmOpOccChange act') = lcmOpOccChange c lcmocc := by
  have ne : (changedInfoField : Fin (registry operation .vnfLcmOpOcc).size) ≠
      operationParamsField := by
    intro same
    cases same
  apply bind_bind_of_comm
  · intro v
    exact Value.onAttr_comm ne
  · intro v
    apply Value.onAttr_bind.trans
    exact congrArg (fun change => Value.onAttr operationParamsField change v)
      (funext (paramsChange_bind vims vdus))
  · intro v
    apply Value.onAttr_bind.trans
    apply congrArg (fun change => Value.onAttr changedInfoField change v)
    funext info
    exact (change_accessInfoPass_bind changedVimInfos info).trans (by rw [vims])

/-! ## Conversion -/

/-- The row of an instance is that of the instance with its credentials encrypted. -/
lemma instanceToDbObj_eq (plain : types.PlainTexts) (inst : VnfInstance operation) :
    instanceToDbObj types cipher inst =
      (Value.onAttr vimConnectionInfoField
        (vimInfosPlace.change (accessInfoPass (encryptAct cipher))) inst).map fun changed =>
          (Fields.toDbObj types changed, inst) := by
  have column : changeColumn "vimConnectionInfo" (vimInfosPass (encryptAct cipher))
      (Fields.toDbObj types inst) = (Value.onAttr vimConnectionInfoField
        (vimInfosPlace.change (accessInfoPass (encryptAct cipher))) inst).map
          (Fields.toDbObj types) :=
    changeColumn_toDbObj (i := vimConnectionInfoField) isDocument_dict fun v _ =>
      Place.toPrimitive_change plain keepsShape_accessInfoPass vimInfosPlace v
  rw [instanceToDbObj, column, Option.map_map]
  rfl

/-- An instance is read from its row with its credentials decrypted. -/
lemma instanceFromDbObj_toDbObj (documented : types.Documented) (inst : VnfInstance operation) :
    instanceFromDbObj types cipher (Fields.toDbObj types inst) =
      Value.onAttr vimConnectionInfoField
        (vimInfosPlace.change (accessInfoPass (decryptAct cipher))) inst := by
  rw [instanceFromDbObj, (fromDbObj_toDbObj_iff documented inst).mpr (vnfInstance_exactRow inst),
    Option.bind_some]

/-- What `to_db_obj` of an occurrence does with its credentials. -/
def popOrEncrypt (types : FieldTypes) (cipher : Cipher) (lcmocc : VnfLcmOpOcc operation) : Action :=
  if popCred (Fields.toDbObj types lcmocc) then popAct else encryptAct cipher

/-- The row of an occurrence is that of the occurrence with its credentials encrypted or removed. -/
lemma lcmOpOccToDbObj_eq (plain : types.PlainTexts) (lcmocc : VnfLcmOpOcc operation) :
    lcmOpOccToDbObj types cipher lcmocc =
      (lcmOpOccChange (popOrEncrypt types cipher lcmocc) lcmocc).map fun changed =>
        (Fields.toDbObj types changed, lcmocc) := by
  have params : ∀ act, changeColumn "operationParams" (ifTruthy (operationParamsPass act))
      (Fields.toDbObj types lcmocc) =
        (Value.onAttr operationParamsField (paramsChange act) lcmocc).map
          (Fields.toDbObj types) := fun act =>
    changeColumn_toDbObj (i := operationParamsField) isDocument_object fun v _ =>
      (operationParamsPass_toPrimitive plain v).symm
  have infos : ∀ act (changed : VnfLcmOpOcc operation),
      changeColumn "changedInfo" (changedInfoPass act) (Fields.toDbObj types changed) =
        (Value.onAttr changedInfoField (changedVimInfos.change (accessInfoPass act)) changed).map
          (Fields.toDbObj types) := fun act changed =>
    changeColumn_toDbObj (i := changedInfoField) isDocument_object fun v _ =>
      (alter_attr plain keepsShape_accessInfoPass modifiedVimInfoField rfl isDict_dict
        v).symm
  show ((changeColumn _ (ifTruthy (operationParamsPass (popOrEncrypt types cipher lcmocc))) _).bind
    (changeColumn _ (changedInfoPass (popOrEncrypt types cipher lcmocc)))).map _ = _
  rw [params, lcmOpOccChange]
  cases Value.onAttr operationParamsField (paramsChange (popOrEncrypt types cipher lcmocc))
      lcmocc with
  | none => rfl
  | some changed =>
    show (changeColumn _ _ (Fields.toDbObj types changed)).map _ = Option.map _ (Value.onAttr _ _ _)
    rw [infos, Option.map_map]
    rfl

/-- An occurrence is read from its row with its credentials decrypted. -/
lemma lcmOpOccFromDbObj_toDbObj (documented : types.Documented) (lcmocc : VnfLcmOpOcc operation) :
    lcmOpOccFromDbObj types cipher (Fields.toDbObj types lcmocc) =
      lcmOpOccChange (decryptAct cipher) lcmocc := by
  rw [lcmOpOccFromDbObj, (fromDbObj_toDbObj_iff documented lcmocc).mpr (vnfLcmOpOcc_exactRow lcmocc),
    Option.bind_some]
  apply congrArg fun r : Option (VnfLcmOpOcc operation) => r.bind _
  exact Value.onAttr_bind

/-! ## What the hooks need -/

/-- The credentials of an `accessInfo` satisfy the predicate. -/
def AccessInfoShape (P : Json → Prop) (accessInfo : Json) : Prop :=
  accessInfo.isDict = true ∧ ∀ key ∈ credData, ∀ v, accessInfo.get? key = some v → P v

/-- What is at the place satisfies the predicate, if there is the place. -/
def EachAt {kind : Kind ClassName} (P : Json → Prop)
    (place : Option (Place (registry operation) kind)) (v : Value (registry operation) kind) :
    Prop :=
  ∀ p, place = some p → p.Each P v

/-- The credentials of an occurrence can be reached and satisfy the predicate. -/
def CredentialsAre (P : Json → Prop) (lcmocc : VnfLcmOpOcc operation) : Prop :=
  (∀ params, lcmocc.attr? operationParamsField = some params →
    EachAt (AccessInfoShape P) (paramsVimInfos operation) params ∧
      EachAt (AdditionalParamsShape P) (paramsAdditional operation) params) ∧
    ∀ info, lcmocc.attr? changedInfoField = some info →
      changedVimInfos.Each (AccessInfoShape P) info

/-- The credentials of an instance satisfy the predicate. -/
def InstanceCredentialsAre (P : Json → Prop) (inst : VnfInstance operation) : Prop :=
  ∀ vimInfos, inst.attr? vimConnectionInfoField = some vimInfos →
    vimInfosPlace.Each (AccessInfoShape P) vimInfos

variable {P : Json → Prop}

lemma change_accessInfoPass_isSome (needs : ∀ v, (act v).isSome = true ↔ P v)
    {kind : Kind ClassName} (place : Place (registry operation) kind)
    (v : Value (registry operation) kind) :
    (place.change (accessInfoPass act) v).isSome = true ↔ place.Each (AccessInfoShape P) v := by
  rw [place.change_isSome keepsShape_accessInfoPass,
    funext fun t => propext (accessInfoPass_isSome needs t)]
  rfl

lemma changeAt_isSome {kind : Kind ClassName} {f : Json → Option Json} {Q : Json → Prop}
    (keepsShape : KeepsShape f) (needs : ∀ t, (f t).isSome = true ↔ Q t)
    (place : Option (Place (registry operation) kind)) (v : Value (registry operation) kind) :
    (changeAt f place v).isSome = true ↔ EachAt Q place v := by
  cases place with
  | none => exact ⟨fun _ p absent => (by cases absent), fun _ => rfl⟩
  | some place =>
    show (place.change f v).isSome = true ↔ _
    rw [place.change_isSome keepsShape, funext fun t => propext (needs t)]
    constructor
    · intro each p same
      rw [← Option.some.inj same]
      exact each
    · exact fun each => each place rfl

/-- Both changes of parameters are made if each of them is. -/
lemma changeAt_bind_isSome (f g : Json → Option Json) (v : OperationParams operation) :
    ((changeAt f (paramsVimInfos operation) v).bind
        (changeAt g (paramsAdditional operation))).isSome = true ↔
      (changeAt f (paramsVimInfos operation) v).isSome = true ∧
        (changeAt g (paramsAdditional operation) v).isSome = true := by
  have withoutVims : ∀ place : Option (Place (registry operation)
      (.object (paramsClass operation) true)),
      ((changeAt f none v).bind (changeAt g place)).isSome = true ↔
        (changeAt f (none : Option (Place (registry operation) _)) v).isSome = true ∧
          (changeAt g place v).isSome = true :=
    fun place => ⟨fun isSome => ⟨rfl, isSome⟩, fun both => both.2⟩
  have both : ∀ {i j : Fin (registry operation (paramsClass operation)).size} {p q}, i ≠ j →
      ((((Place.attr i p).change f v).bind ((Place.attr j q).change g)).isSome = true ↔
        ((Place.attr i p).change f v).isSome = true ∧
          ((Place.attr j q).change g v).isSome = true) := by
    intro i j p q ne
    exact (Value.onAttr_bind_isSome ne).trans
      (and_congr Value.onAttr_isSome.symm Value.onAttr_isSome.symm)
  cases operation with
  | instantiate => exact both (by decide)
  | changeExtConn => exact both (by decide)
  | changeVnfpkg => exact both (by decide)
  | modifyInfo =>
    show ((changeAt f (paramsVimInfos .modifyInfo) v).bind (changeAt g none)).isSome = true ↔ _
    cases changeAt f (paramsVimInfos .modifyInfo) v with
    | none => exact ⟨fun isSome => (by cases isSome), fun both => (by cases both.1)⟩
    | some w => exact ⟨fun _ => ⟨rfl, rfl⟩, fun _ => rfl⟩
  | scale => exact withoutVims _
  | terminate => exact withoutVims _
  | heal => exact withoutVims _

lemma paramsChange_isSome (needs : ∀ v, (act v).isSome = true ↔ P v)
    (v : OperationParams operation) :
    (paramsChange act v).isSome = true ↔
      EachAt (AccessInfoShape P) (paramsVimInfos operation) v ∧
        EachAt (AdditionalParamsShape P) (paramsAdditional operation) v := by
  unfold paramsChange
  rw [changeAt_bind_isSome, changeAt_isSome keepsShape_accessInfoPass (accessInfoPass_isSome needs),
    changeAt_isSome keepsShape_additionalParamsPass (additionalParamsPass_isSome needs)]
  rfl

/-- The pass over the credentials of an occurrence is made if they are as it needs them. -/
lemma lcmOpOccChange_isSome (needs : ∀ v, (act v).isSome = true ↔ P v)
    (lcmocc : VnfLcmOpOcc operation) :
    (lcmOpOccChange act lcmocc).isSome = true ↔ CredentialsAre P lcmocc := by
  have ne : (operationParamsField : Fin (registry operation .vnfLcmOpOcc).size) ≠
      changedInfoField := by
    intro same
    cases same
  apply (Value.onAttr_bind_isSome ne).trans
  apply and_congr
  · exact forall_congr' fun params => imp_congr_right fun _ => paramsChange_isSome needs params
  · exact forall_congr' fun info => imp_congr_right fun _ =>
      change_accessInfoPass_isSome needs changedVimInfos info

/-! ## Storing and loading -/

/-- An instance that is stored and loaded, and the one in memory after that. -/
def storedInstance (types : FieldTypes) (cipher : Cipher) (inst : VnfInstance operation) :
    Option (VnfInstance operation × VnfInstance operation) :=
  (instanceToDbObj types cipher inst).bind fun saved =>
    (instanceFromDbObj types cipher saved.1).map fun loaded => (loaded, saved.2)

/-- An occurrence that is stored and loaded, and the one in memory after that. -/
def storedLcmOpOcc (types : FieldTypes) (cipher : Cipher) (lcmocc : VnfLcmOpOcc operation) :
    Option (VnfLcmOpOcc operation × VnfLcmOpOcc operation) :=
  (lcmOpOccToDbObj types cipher lcmocc).bind fun saved =>
    (lcmOpOccFromDbObj types cipher saved.1).map fun loaded => (loaded, saved.2)

/-- The string in a text field. -/
def textOf {valid : String → Bool} : Value (registry operation) (.scalar (.text valid)) → String
  | .scalar (.text value _) => value

/-- The `operationState` of an occurrence. -/
def operationStateOf (lcmocc : VnfLcmOpOcc operation) : Option String :=
  (lcmocc.attr? operationStateField).map fun state => textOf
    (state : Value (registry operation) (.scalar (.text fun s => s ∈ operationStates)))

/-- An occurrence in a terminal state. -/
def IsTerminal (lcmocc : VnfLcmOpOcc operation) : Prop :=
  ∃ state ∈ terminalStates, operationStateOf lcmocc = some state

/-- The second occurrence is the first one with the credentials removed from its `operationParams`
and `changedInfo`. -/
def WithoutCredentials (lcmocc lcmocc' : VnfLcmOpOcc operation) : Prop :=
  lcmOpOccChange popAct lcmocc = some lcmocc'

lemma map_toColumn_text (plain : types.PlainTexts) {valid : String → Bool}
    (value? : Option (Value (registry operation) (.scalar (.text valid)))) :
    value?.map (toColumn types) = (value?.map textOf).map fun s => .primitive (str s) := by
  cases value? with
  | none => rfl
  | some value =>
    cases value with
    | scalar value =>
      cases value with
      | text value isValid =>
        show some (Column.primitive (types.toPrimitive (.text value isValid))) = _
        rw [plain value isValid]
        rfl

lemma popCred_iff (plain : types.PlainTexts) (lcmocc : VnfLcmOpOcc operation) :
    popCred (Fields.toDbObj types lcmocc) = true ↔ IsTerminal lcmocc := by
  have column : Fields.toDbObj types lcmocc "operationState" =
      (operationStateOf lcmocc).map fun state => .primitive (str state) := by
    apply (toDbObj_column lcmocc operationStateField).trans
    exact map_toColumn_text plain _
  unfold popCred IsTerminal
  rw [column]
  cases operationStateOf lcmocc with
  | none => exact ⟨fun isTrue => (by cases isTrue), fun ⟨_, _, isState⟩ => (by cases isState)⟩
  | some state =>
    show decide (state ∈ terminalStates) = true ↔ _
    rw [decide_eq_true_iff]
    constructor
    · exact fun mem => ⟨state, mem, rfl⟩
    · rintro ⟨state', mem, same⟩
      rw [Option.some.inj same]
      exact mem

/-- What is stored and loaded went through the hooks in memory. -/
lemma storedLcmOpOcc_eq (documented : types.Documented) (plain : types.PlainTexts) {c : Action}
    (lcmocc : VnfLcmOpOcc operation)
    (vims : (popOrEncrypt types cipher lcmocc).andThen (decryptAct cipher) = c)
    (vdus : both (popOrEncrypt types cipher lcmocc) (decryptAct cipher) = c) :
    storedLcmOpOcc types cipher lcmocc =
      (lcmOpOccChange c lcmocc).map fun loaded => (loaded, lcmocc) := by
  rw [storedLcmOpOcc, lcmOpOccToDbObj_eq plain, ← lcmOpOccChange_bind vims vdus]
  cases lcmOpOccChange (popOrEncrypt types cipher lcmocc) lcmocc with
  | none => rfl
  | some changed =>
    show (lcmOpOccFromDbObj types cipher (Fields.toDbObj types changed)).map _ = _
    rw [lcmOpOccFromDbObj_toDbObj documented]
    rfl

/-- A check of credentials changes nothing in an occurrence. -/
lemma lcmOpOccChange_keeping (lcmocc lcmocc' : VnfLcmOpOcc operation)
    (changed : lcmOpOccChange checkString lcmocc = some lcmocc') : lcmocc' = lcmocc := by
  have at? : ∀ {kind : Kind ClassName} {f : Json → Option Json}, Json.Keeping f →
      ∀ (place : Option (Place (registry operation) kind)) v v',
        changeAt f place v = some v' → v' = v := by
    intro kind f keeping place v v' changed
    cases place with
    | none => exact (Option.some.inj changed).symm
    | some place => exact (place.change_keeping keeping v).1 v' changed
  have params : ∀ v v' : OperationParams operation, paramsChange checkString v = some v' →
      v' = v := by
    intro v v' changed
    obtain ⟨w, first, second⟩ := Option.bind_eq_some_iff.mp changed
    rw [at? (keeping_additionalParamsPass keeping_checkString) _ w v' second,
      at? (keeping_accessInfoPass keeping_checkString) _ v w first]
  obtain ⟨middle, first, second⟩ := Option.bind_eq_some_iff.mp changed
  rw [Value.onAttr_keeping (fun v v' made =>
      (changedVimInfos.change_keeping (keeping_accessInfoPass keeping_checkString) v).1 v' made)
      second,
    Value.onAttr_keeping params first]

lemma storedLcmOpOcc_iff (documented : types.Documented) (plain : types.PlainTexts)
    (cipherDocumented : cipher.Documented) (lcmocc : VnfLcmOpOcc operation)
    (notTerminal : ¬ IsTerminal lcmocc) :
    storedLcmOpOcc types cipher lcmocc = some (lcmocc, lcmocc) ↔
      CredentialsAre (fun v => isString v = true) lcmocc := by
  have encrypts : popOrEncrypt types cipher lcmocc = encryptAct cipher :=
    if_neg fun pop => notTerminal ((popCred_iff plain lcmocc).mp pop)
  have stored := storedLcmOpOcc_eq (c := checkString) documented plain lcmocc
    (by rw [encrypts, encrypt_andThen_decrypt cipherDocumented])
    (by rw [encrypts, both_encrypt_decrypt cipherDocumented])
  rw [stored, ← lcmOpOccChange_isSome checkString_isSome]
  constructor
  · intro same
    obtain ⟨loaded, made, _⟩ := Option.map_eq_some_iff.mp same
    rw [made]
    rfl
  · intro isSome
    obtain ⟨loaded, made⟩ := Option.isSome_iff_exists.mp isSome
    rw [made, lcmOpOccChange_keeping lcmocc loaded made]
    rfl

lemma storedLcmOpOcc_terminal (documented : types.Documented) (plain : types.PlainTexts)
    (lcmocc : VnfLcmOpOcc operation) (terminal : IsTerminal lcmocc) :
    (∃ loaded, storedLcmOpOcc types cipher lcmocc = some (loaded, lcmocc) ∧
        WithoutCredentials lcmocc loaded) ↔
      CredentialsAre (fun _ => True) lcmocc := by
  have pops : popOrEncrypt types cipher lcmocc = popAct :=
    if_pos ((popCred_iff plain lcmocc).mpr terminal)
  have stored := storedLcmOpOcc_eq (c := popAct) documented plain lcmocc (by rw [pops]; rfl)
    (by rw [pops, both_pop])
  have needs : ∀ v, (popAct v).isSome = true ↔ True := fun _ => ⟨fun _ => trivial, fun _ => rfl⟩
  rw [stored, ← lcmOpOccChange_isSome needs]
  constructor
  · rintro ⟨loaded, _, removed⟩
    rw [removed]
    rfl
  · intro isSome
    obtain ⟨loaded, removed⟩ := Option.isSome_iff_exists.mp isSome
    exact ⟨loaded, by rw [removed]; rfl, removed⟩

lemma storedInstance_iff (documented : types.Documented) (plain : types.PlainTexts)
    (cipherDocumented : cipher.Documented) (inst : VnfInstance operation) :
    storedInstance types cipher inst = some (inst, inst) ↔
      InstanceCredentialsAre (fun v => isString v = true) inst := by
  have stored : storedInstance types cipher inst =
      (Value.onAttr vimConnectionInfoField
        (vimInfosPlace.change (accessInfoPass checkString)) inst).map fun loaded =>
          (loaded, inst) := by
    have twice : (Value.onAttr vimConnectionInfoField
        (vimInfosPlace.change (accessInfoPass (encryptAct cipher))) inst).bind
          (Value.onAttr vimConnectionInfoField
            (vimInfosPlace.change (accessInfoPass (decryptAct cipher)))) =
        Value.onAttr vimConnectionInfoField
          (vimInfosPlace.change (accessInfoPass checkString)) inst := by
      apply Value.onAttr_bind.trans
      apply congrArg (fun change => Value.onAttr vimConnectionInfoField change inst)
      funext vimInfos
      exact (change_accessInfoPass_bind vimInfosPlace vimInfos).trans
        (by rw [encrypt_andThen_decrypt cipherDocumented])
    rw [storedInstance, instanceToDbObj_eq plain, ← twice]
    cases Value.onAttr vimConnectionInfoField
        (vimInfosPlace.change (accessInfoPass (encryptAct cipher))) inst with
    | none => rfl
    | some changed =>
      show (instanceFromDbObj types cipher (Fields.toDbObj types changed)).map _ = _
      rw [instanceFromDbObj_toDbObj documented]
      rfl
  have isSome : (Value.onAttr vimConnectionInfoField
      (vimInfosPlace.change (accessInfoPass checkString)) inst).isSome = true ↔
        InstanceCredentialsAre (fun v => isString v = true) inst :=
    Value.onAttr_isSome.trans (forall_congr' fun vimInfos => imp_congr_right fun _ =>
      change_accessInfoPass_isSome checkString_isSome vimInfosPlace vimInfos)
  rw [stored, ← isSome]
  constructor
  · intro same
    obtain ⟨loaded, made, _⟩ := Option.map_eq_some_iff.mp same
    rw [made]
    rfl
  · intro isSome
    obtain ⟨loaded, made⟩ := Option.isSome_iff_exists.mp isSome
    rw [made, Value.onAttr_keeping (fun v v' made =>
      (vimInfosPlace.change_keeping (keeping_accessInfoPass keeping_checkString) v).1 v' made) made]
    rfl

/-- With encryption of credentials an instance and an occurrence that is not in a terminal state are
read back as they were exactly if their credentials are strings, where a secret of VDUs may also be
missing or empty; an occurrence in a terminal state is read back without its credentials exactly if
the dictionaries around the secrets of VDUs are dictionaries. The objects themselves stay as they
are. -/
theorem stored_credentials_iff (documented : types.Documented) (plain : types.PlainTexts)
    (cipherDocumented : cipher.Documented) :
    (∀ inst : VnfInstance operation, storedInstance types cipher inst = some (inst, inst) ↔
        InstanceCredentialsAre (fun v => isString v = true) inst) ∧
      (∀ lcmocc : VnfLcmOpOcc operation, ¬ IsTerminal lcmocc →
        (storedLcmOpOcc types cipher lcmocc = some (lcmocc, lcmocc) ↔
          CredentialsAre (fun v => isString v = true) lcmocc)) ∧
      ∀ lcmocc : VnfLcmOpOcc operation, IsTerminal lcmocc →
        ((∃ loaded, storedLcmOpOcc types cipher lcmocc = some (loaded, lcmocc) ∧
            WithoutCredentials lcmocc loaded) ↔
          CredentialsAre (fun _ => True) lcmocc) :=
  ⟨storedInstance_iff documented plain cipherDocumented,
    storedLcmOpOcc_iff documented plain cipherDocumented,
    storedLcmOpOcc_terminal documented plain⟩

/-! ## Examples -/

/-- The text after the mark of a token. -/
def unmarked : List Char → Option String
  | 'g' :: text => some (String.ofList text)
  | _ => none

/-- A cipher whose tokens are marked texts. -/
def markCipher : Cipher where
  encrypt s := String.ofList ('g' :: s.toList)
  decrypt token := unmarked token.toList

lemma markCipher_documented : markCipher.Documented where
  decrypt_encrypt s := by
    show unmarked (String.ofList ('g' :: s.toList)).toList = some s
    rw [String.toList_ofList]
    exact congrArg some String.ofList_toList
  decrypt_empty := rfl

lemma plainTypes_plainTexts : plainTypes.PlainTexts := fun _ _ => rfl

/-- Parameters of a healing with a secret of a VDU. -/
def healParams (secret : Fields.Json) : OperationParams .heal :=
  Value.new.setAttr (⟨1, by decide⟩ : Fin (registry .heal .healVnfRequest).size)
    (.keyValuePairs (Json.dict [("vdu_params", Json.list [Json.dict [("new_vnfc_param",
      Json.dict [("password", secret)])]])]) rfl)

/-- A healing in progress whose parameters have a secret of a VDU. -/
def healWithSecret (secret : Fields.Json) : VnfLcmOpOcc .heal :=
  (Value.new.setAttr operationStateField (.scalar (.text "PROCESSING" rfl))).setAttr
    operationParamsField (healParams secret)

lemma healWithSecret_not_terminal (secret : Fields.Json) : ¬ IsTerminal (healWithSecret secret) := by
  rintro ⟨state, terminal, isState⟩
  have processing : operationStateOf (healWithSecret secret) = some "PROCESSING" := rfl
  obtain rfl := Option.some.inj (processing.symm.trans isState)
  exact absurd terminal (by decide)

/-- `stored_credentials_iff` for a healing with a secret that is a string. -/
theorem string_secret_stored :
    storedLcmOpOcc plainTypes markCipher (healWithSecret (str "pw")) =
      some (healWithSecret (str "pw"), healWithSecret (str "pw")) :=
  ((stored_credentials_iff plainTypes_documented plainTypes_plainTexts markCipher_documented).2.1
    (healWithSecret (str "pw")) (healWithSecret_not_terminal _)).mpr
      ((lcmOpOccChange_isSome checkString_isSome _).mp rfl)

/-- A healing with a secret that is a number cannot be stored. -/
theorem number_secret_raises :
    ¬ IsTerminal (healWithSecret (.atom (.int 5))) ∧
      storedLcmOpOcc plainTypes markCipher (healWithSecret (.atom (.int 5))) = none :=
  ⟨healWithSecret_not_terminal _, rfl⟩

end Tacker.Crypt
