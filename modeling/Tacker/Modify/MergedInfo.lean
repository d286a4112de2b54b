import Tacker.Modify.ModifyInfo

/-!
# The modified instance is the merged one

Each attribute of the instance that `modify_info_process` leaves is the one of before with the patches
laid over it: those of the new VNFD, if the request has another one, then that of the request.
-/

namespace Tacker.Modify

open Tacker.Basis Tacker.Basis.Json
open Tacker.Fields (Atom Json str)

/-! ## What is expected -/

/-- The new VNFD, if the request has another one than the instance. -/
def newVnfd (getVnfd : String → Option NewVnfd) (req : VnfInfoModificationRequest)
    (old : VnfInstance) : Option NewVnfd :=
  req.vnfdId.bind fun vnfdId => if vnfdId = old.vnfdId then none else getVnfd vnfdId

/-- The values that a VNFD has for an attribute. -/
def valuesOf (prop : Pairs) : List Json :=
  if prop.doc.keys = [] then [] else [prop.doc]

/-- The patches of an attribute: the values of the new VNFD, then those of the request. -/
def attrPatches (vnfd : Option NewVnfd) (req : VnfInfoModificationRequest)
    (ofVnfd : NewVnfd → Pairs) (ofReq : VnfInfoModificationRequest → Option Pairs) : List Json :=
  ((vnfd.map fun vnfd => valuesOf (ofVnfd vnfd)).getD []) ++ ((ofReq req).map Pairs.doc).toList

/-- The patches of a VNFC in the request. -/
def vnfcPatches (req : VnfInfoModificationRequest) (id : String) : List Json :=
  ((req.vnfcInfoModifications.getD []).filter fun vnfcMod => vnfcMod.id = id).map
    fun vnfcMod => vnfcMod.vnfcConfigurableProperties.doc

/-- The VNFC of an identifier. -/
def vnfcOf (vnfcInfo : Option (Table VnfcInfo.id)) (id : String) : Option VnfcInfo :=
  vnfcInfo.bind fun infos => infos.get id

/-- What the package tells of an instance. -/
def described (inst : VnfInstance) : String × String × String × String :=
  (inst.vnfProvider, inst.vnfProductName, inst.vnfSoftwareVersion, inst.vnfdVersion)

/-- What the package of a VNFD tells. -/
def NewVnfd.description (vnfd : NewVnfd) : String × String × String × String :=
  (vnfd.vnfProvider, vnfd.vnfProductName, vnfd.vnfSoftwareVersion, vnfd.vnfdVersion)

/-- The new instance is the old one with the request merged into it. -/
structure IsModified (getVnfd : String → Option NewVnfd) (req : VnfInfoModificationRequest)
    (old new : VnfInstance) : Prop where
  vnfInstanceName : new.vnfInstanceName = req.vnfInstanceName.orElse fun _ => old.vnfInstanceName
  vnfInstanceDescription : new.vnfInstanceDescription =
    req.vnfInstanceDescription.orElse fun _ => old.vnfInstanceDescription
  vnfdId : new.vnfdId = req.vnfdId.getD old.vnfdId
  described : described new =
    ((newVnfd getVnfd req old).map NewVnfd.description).getD (described old)
  vnfConfigurableProperties : MergedAll (old.vnfConfigurableProperties.map Pairs.doc)
    (attrPatches (newVnfd getVnfd req old) req NewVnfd.vnfConfigurableProperties
      VnfInfoModificationRequest.vnfConfigurableProperties)
    (new.vnfConfigurableProperties.map Pairs.doc)
  metadata : MergedAll (old.metadata.map Pairs.doc)
    (attrPatches (newVnfd getVnfd req old) req NewVnfd.metadata
      VnfInfoModificationRequest.metadata)
    (new.metadata.map Pairs.doc)
  extensions : MergedAll (old.extensions.map Pairs.doc)
    (attrPatches (newVnfd getVnfd req old) req NewVnfd.extensions
      VnfInfoModificationRequest.extensions)
    (new.extensions.map Pairs.doc)
  vimConnectionInfo : ∃ doc, MergedAll (old.vimConnectionInfo.map VimInfos.toDict)
    (req.vimConnectionInfo.map VimInfos.toDict).toList doc ∧
      Option.Rel Same (new.vimConnectionInfo.map VimInfos.toDict) doc
  vnfcs : ∀ id, (vnfcOf new.vnfcInfo id).isSome = (vnfcOf old.vnfcInfo id).isSome
  properties : ∀ id info info', vnfcOf old.vnfcInfo id = some info →
    vnfcOf new.vnfcInfo id = some info' →
      MergedAll (info.vnfcConfigurableProperties.map Pairs.doc) (vnfcPatches req id)
        (info'.vnfcConfigurableProperties.map Pairs.doc)

/-! ## Dictionaries -/

variable {getVnfd : String → Option NewVnfd} {req : VnfInfoModificationRequest}
  {old new inst : VnfInstance} {vnfd : NewVnfd}

/-- Merging a dictionary is patching its place. -/
lemma doc_merge (attr : Option Pairs) (patch : Pairs) :
    some ((attr.getD .empty).merge patch).doc = patchAt (attr.map Pairs.doc) patch.doc := by
  obtain ⟨doc, dict⟩ := patch
  cases doc with
  | obj keys unique value =>
    cases attr with
    | none => rfl
    | some base => rfl
  | _ => cases dict

lemma doc_modifyFromReq (attr ofReq : Option Pairs) :
    (modifyFromReq attr ofReq).map Pairs.doc =
      patched (attr.map Pairs.doc) (ofReq.map Pairs.doc).toList := by
  cases ofReq with
  | none => rfl
  | some patch => exact doc_merge attr patch

lemma doc_modifyFromVnfdProp (attr : Option Pairs) (prop : Pairs) :
    (modifyFromVnfdProp attr prop).map Pairs.doc = patched (attr.map Pairs.doc) (valuesOf prop) := by
  unfold modifyFromVnfdProp valuesOf
  by_cases noValues : prop.doc.keys = []
  · rw [if_pos noValues, if_pos noValues]
    rfl
  · rw [if_neg noValues, if_neg noValues]
    exact doc_merge attr prop

/-- The attribute of a VNFD that may have changed, then the one of the request. -/
lemma doc_modified (attr ofReq : Option Pairs) (prop : Option Pairs) :
    (modifyFromReq ((prop.map fun prop => modifyFromVnfdProp attr prop).getD attr) ofReq).map
      Pairs.doc = patched (attr.map Pairs.doc)
        (((prop.map valuesOf).getD []) ++ (ofReq.map Pairs.doc).toList) := by
  rw [patched_append, doc_modifyFromReq]
  cases prop with
  | none => rfl
  | some prop =>
    show patched (Option.map Pairs.doc (modifyFromVnfdProp attr prop)) _ = _
    rw [doc_modifyFromVnfdProp]
    rfl

/-! ## VIM connections -/

namespace VimConnectionInfo

/-- A member of `to_dict` of a connection. -/
def Fits (name : String) (value : Json) : Prop :=
  (name = "vimId" ∨ name = "vimType") ∧ (∃ text, value = str text) ∨
    (name = "interfaceInfo" ∨ name = "accessInfo" ∨ name = "extra") ∧ value.isDict = true

/-- A dictionary of such members. -/
def Shaped (doc : Json) : Prop :=
  ∀ name value, doc.get? name = some value → Fits name value

variable {info : VimConnectionInfo} {name : String} {doc value : Json}

lemma fits_member (found : info.member name = some value) : Fits name value := by
  have isText : ∀ text : Option String, text.map str = some value → ∃ text, value = str text := by
    intro text eq
    obtain ⟨text, -, rfl⟩ := Option.map_eq_some_iff.mp eq
    exact ⟨text, rfl⟩
  have isPairs : ∀ pairs : Option Pairs, pairs.map Pairs.doc = some value →
      value.isDict = true := by
    intro pairs eq
    obtain ⟨pairs, -, rfl⟩ := Option.map_eq_some_iff.mp eq
    exact pairs.dict
  unfold member at found
  by_cases first : name = "vimId"
  · rw [if_pos first] at found
    exact .inl ⟨.inl first, isText _ found⟩
  rw [if_neg first] at found
  by_cases second : name = "vimType"
  · rw [if_pos second] at found
    exact .inl ⟨.inr second, isText _ found⟩
  rw [if_neg second] at found
  by_cases third : name = "interfaceInfo"
  · rw [if_pos third] at found
    exact .inr ⟨.inl third, isPairs _ found⟩
  rw [if_neg third] at found
  by_cases fourth : name = "accessInfo"
  · rw [if_pos fourth] at found
    exact .inr ⟨.inr (.inl fourth), isPairs _ found⟩
  rw [if_neg fourth] at found
  by_cases fifth : name = "extra"
  · rw [if_pos fifth] at found
    exact .inr ⟨.inr (.inr fifth), isPairs _ found⟩
  · rw [if_neg fifth] at found
    cases found

lemma Fits.name_mem (fits : Fits name value) : name ∈ fieldNames := by
  rcases fits with ⟨rfl | rfl, -⟩ | ⟨rfl | rfl | rfl, -⟩ <;> decide

@[simp] lemma get?_toDict : info.toDict.get? name = info.member name := by
  unfold toDict
  cases found : info.member name with
  | none =>
    have absent : name ∉ fieldNames.filter fun name => (info.member name).isSome := by
      intro mem
      have isSome := (List.mem_filter.mp mem).2
      rw [found] at isSome
      cases isSome
    simp [get?, absent]
  | some value =>
    have present : name ∈ fieldNames.filter fun name => (info.member name).isSome := by
      apply List.mem_filter.mpr
      rw [found]
      exact ⟨(fits_member found).name_mem, rfl⟩
    simp [get?, present, found]

lemma shaped_toDict : Shaped info.toDict := by
  intro name value found
  rw [get?_toDict] at found
  exact fits_member found

lemma readText_ok {o : Option Json} (isText : ∀ value, o = some value → ∃ text, value = str text) :
    ∃ text, readText o = some text ∧ text.map str = o := by
  cases o with
  | none => exact ⟨none, rfl, rfl⟩
  | some value =>
    obtain ⟨text, rfl⟩ := isText value rfl
    exact ⟨some text, rfl, rfl⟩

lemma readPairs_ok {o : Option Json} (isDict : ∀ value, o = some value → value.isDict = true) :
    ∃ pairs, readPairs o = some pairs ∧ pairs.map Pairs.doc = o := by
  cases o with
  | none => exact ⟨none, rfl, rfl⟩
  | some value =>
    cases value with
    | obj keys unique value' => exact ⟨some ⟨.obj keys unique value', rfl⟩, rfl, rfl⟩
    | _ => cases isDict _ rfl

/-- A dictionary of such members is the one of a connection. -/
lemma fromDict_of_shaped (shaped : Shaped doc) :
    ∃ info, fromDict doc = some info ∧ ∀ name, info.member name = doc.get? name := by
  have isText : ∀ name, (name = "vimId" ∨ name = "vimType") →
      ∀ value, doc.get? name = some value → ∃ text, value = str text := by
    intro name isName value found
    rcases shaped name value found with ⟨-, text⟩ | ⟨other, -⟩
    · exact text
    · rcases isName with rfl | rfl <;> simp at other
  have isDict : ∀ name, (name = "interfaceInfo" ∨ name = "accessInfo" ∨ name = "extra") →
      ∀ value, doc.get? name = some value → value.isDict = true := by
    intro name isName value found
    rcases shaped name value found with ⟨other, -⟩ | ⟨-, dict⟩
    · rcases isName with rfl | rfl | rfl <;> simp at other
    · exact dict
  obtain ⟨vimId, readId, isId⟩ := readText_ok (isText "vimId" (.inl rfl))
  obtain ⟨vimType, readType, isType⟩ := readText_ok (isText "vimType" (.inr rfl))
  obtain ⟨interfaceInfo, readInterface, isInterface⟩ :=
    readPairs_ok (isDict "interfaceInfo" (.inl rfl))
  obtain ⟨accessInfo, readAccess, isAccess⟩ := readPairs_ok (isDict "accessInfo" (.inr (.inl rfl)))
  obtain ⟨extra, readExtra, isExtra⟩ := readPairs_ok (isDict "extra" (.inr (.inr rfl)))
  refine ⟨⟨vimId, vimType, interfaceInfo, accessInfo, extra⟩, ?_, ?_⟩
  · unfold fromDict
    rw [readId, readType, readInterface, readAccess, readExtra]
    rfl
  · intro name
    unfold member
    split_ifs with first second third fourth fifth
    · rw [first, ← isId]
    · rw [second, ← isType]
    · rw [third, ← isInterface]
    · rw [fourth, ← isAccess]
    · rw [fifth, ← isExtra]
    · cases found : doc.get? name with
      | none => rfl
      | some value =>
        rcases shaped name value found with ⟨isName | isName, -⟩ | ⟨isName | isName | isName, -⟩
        · exact absurd isName first
        · exact absurd isName second
        · exact absurd isName third
        · exact absurd isName fourth
        · exact absurd isName fifth

/-- Merging keeps the shape. -/
lemma shaped_jsonMergePatch {target patch : Json} (dict : patch.isDict = true)
    (left : ∀ name value, target.get? name = some value → Fits name value) (right : Shaped patch) :
    Shaped (jsonMergePatch target patch) := by
  intro name value found
  rw [get?_jsonMergePatch dict] at found
  cases inPatch : patch.get? name with
  | none =>
    rw [inPatch, get?_asDict] at found
    exact left name value found
  | some value' =>
    have fits := right name value' inPatch
    rw [inPatch] at found
    rcases fits with ⟨isName, text, rfl⟩ | ⟨isName, isDict⟩
    · have isIt : str text = value := Option.some.inj found
      exact .inl ⟨isName, text, isIt.symm⟩
    · simp only [isNull_of_isDict isDict] at found
      have isIt := Option.some.inj found
      refine .inr ⟨isName, ?_⟩
      rw [← isIt, isDict_jsonMergePatch, isDict]

end VimConnectionInfo

/-- Dictionaries of the right shape are those of connections. -/
lemma fromDict_of_each {doc : Json} (dict : doc.isDict = true)
    (each : ∀ name value, doc.get? name = some value →
      value.isDict = true ∧ VimConnectionInfo.Shaped value) :
    ∃ infos, VimInfos.fromDict doc = some infos ∧ Same infos.toDict doc := by
  cases doc with
  | obj keys unique value =>
    have read : ∀ name ∈ keys, ∃ info, VimConnectionInfo.fromDict (value name) = some info ∧
        Same info.toDict (value name) := by
      intro name mem
      obtain ⟨isDict, shaped⟩ := each name (value name) (by simp [get?, mem])
      obtain ⟨info, read, member⟩ := VimConnectionInfo.fromDict_of_shaped shaped
      refine ⟨info, read, (same_iff rfl isDict).mpr fun key => ?_⟩
      rw [VimConnectionInfo.get?_toDict, member key]
      exact same_rel_refl _
    have all : (keys.all fun name => (VimConnectionInfo.fromDict (value name)).isSome) = true := by
      rw [List.all_eq_true]
      intro name mem
      obtain ⟨info, read, -⟩ := read name mem
      rw [read]
      rfl
    refine ⟨_, if_pos all, ?_⟩
    intro name
    refine ⟨Iff.rfl, fun mem => ?_⟩
    obtain ⟨info, read, same⟩ := read name mem
    show Same ((VimConnectionInfo.fromDict (value name)).getD {}).toDict (value name)
    rw [read]
    exact same
  | _ => cases dict

/-- Connections are merged as their dictionaries are. -/
lemma mergeVimConnectionInfo_ok (instViminfo reqViminfo : VimInfos) :
    ∃ infos, mergeVimConnectionInfo (some instViminfo) (some reqViminfo) = some infos ∧
      Same infos.toDict (jsonMergePatch instViminfo.toDict reqViminfo.toDict) := by
  have entry : ∀ (infos : VimInfos) name value, infos.toDict.get? name = some value →
      value = (infos.value name).toDict := by
    intro infos name value found
    by_cases mem : name ∈ infos.keys
    · simpa [VimInfos.toDict, get?, mem] using found.symm
    · simp [VimInfos.toDict, get?, mem] at found
  apply fromDict_of_each
  · rw [isDict_jsonMergePatch]
    rfl
  · intro name value found
    rw [get?_jsonMergePatch rfl] at found
    cases inReq : reqViminfo.toDict.get? name with
    | none =>
      rw [inReq, get?_asDict] at found
      rw [entry instViminfo name value found]
      exact ⟨rfl, VimConnectionInfo.shaped_toDict⟩
    | some value' =>
      have isIt := entry reqViminfo name value' inReq
      subst isIt
      rw [inReq] at found
      have isIt := Option.some.inj (found : some (jsonMergePatch _ _) = some value)
      rw [← isIt, isDict_jsonMergePatch]
      refine ⟨rfl, VimConnectionInfo.shaped_jsonMergePatch rfl ?_ VimConnectionInfo.shaped_toDict⟩
      intro key member inTarget
      rw [get?_asDict] at inTarget
      cases inInst : instViminfo.toDict.get? name with
      | none =>
        rw [inInst] at inTarget
        cases inTarget
      | some value'' =>
        rw [inInst, entry instViminfo name value'' inInst] at inTarget
        exact VimConnectionInfo.shaped_toDict key member inTarget

/-! ## VNFCs -/

/-- A turn of the loop over the VNFCs, read at one identifier. -/
lemma get_modifyVnfc (infos : Table VnfcInfo.id) (vnfcMod : VnfcInfoModifications) (id : String) :
    (modifyVnfc infos vnfcMod).get id = (infos.get id).map fun info =>
      if vnfcMod.id = id then
        { info with
          vnfcConfigurableProperties := some ((info.vnfcConfigurableProperties.getD .empty).merge
            vnfcMod.vnfcConfigurableProperties) }
      else info := by
  unfold modifyVnfc
  cases found : infos.get vnfcMod.id with
  | none =>
    by_cases same : vnfcMod.id = id
    · rw [same] at found
      show infos.get id = _
      rw [found]
      rfl
    · simp only [if_neg same]
      show infos.get id = _
      cases infos.get id <;> rfl
  | some info =>
    have isId : info.id = vnfcMod.id := Table.key_of_get found
    show (infos.put _).get id = _
    rw [Table.get_put]
    by_cases same : vnfcMod.id = id
    · rw [if_pos (isId.trans same)]
      rw [same] at found
      simp only [if_pos same]
      rw [found]
      rfl
    · rw [if_neg fun eq => same (isId.symm.trans eq)]
      simp only [if_neg same]
      cases infos.get id <;> rfl

/-- The loop over the VNFCs: a VNFC has its patches laid over its properties. -/
lemma get_modifyVnfcs (vnfcMods : List VnfcInfoModifications) (infos : Table VnfcInfo.id)
    (id : String) :
    ((vnfcMods.foldl modifyVnfc infos).get id).isSome = (infos.get id).isSome ∧
      ∀ info info', infos.get id = some info →
        (vnfcMods.foldl modifyVnfc infos).get id = some info' →
          info'.vnfcConfigurableProperties.map Pairs.doc =
            patched (info.vnfcConfigurableProperties.map Pairs.doc)
              ((vnfcMods.filter fun vnfcMod => vnfcMod.id = id).map
                fun vnfcMod => vnfcMod.vnfcConfigurableProperties.doc) := by
  induction vnfcMods generalizing infos with
  | nil =>
    refine ⟨rfl, fun info info' found found' => ?_⟩
    rw [Option.some.inj (found.symm.trans found')]
    rfl
  | cons vnfcMod vnfcMods ih =>
    obtain ⟨isSome, properties⟩ := ih (modifyVnfc infos vnfcMod)
    rw [List.foldl_cons, isSome, get_modifyVnfc, Option.isSome_map]
    refine ⟨rfl, fun info info' found found' => ?_⟩
    have next := properties _ info' (by rw [get_modifyVnfc, found]; rfl) found'
    by_cases same : vnfcMod.id = id
    · simp only [if_pos same] at next
      rw [next, List.filter_cons_of_pos (by simpa using same), List.map_cons, patched_cons,
        ← doc_merge]
      rfl
    · simp only [if_neg same] at next
      rw [next, List.filter_cons_of_neg (by simpa using same)]

/-! ## The process -/

/-- The instance after its VNFD may have changed. -/
lemma modifyVnfd_ok (modified : modifyVnfd getVnfd req old = some inst) :
    inst = (newVnfd getVnfd req old).elim { old with vnfdId := req.vnfdId.getD old.vnfdId }
      (modifyInstVnfdId { old with vnfdId := req.vnfdId.getD old.vnfdId }) := by
  unfold modifyVnfd at modified
  unfold newVnfd
  cases isId : req.vnfdId with
  | none =>
    rw [isId] at modified
    exact (Option.some.inj modified).symm
  | some vnfdId =>
    rw [isId] at modified
    simp only [Option.bind_some, Option.getD_some]
    by_cases same : vnfdId = old.vnfdId
    · simp only [if_pos same] at modified
      rw [if_pos same, ← Option.some.inj modified]
      subst same
      rfl
    · simp only [if_neg same] at modified
      obtain ⟨vnfd, found, rfl⟩ := Option.map_eq_some_iff.mp modified
      rw [if_neg same, found]
      rfl

/-- What the process makes of an instance, attribute by attribute. -/
structure IsPatched (getVnfd : String → Option NewVnfd) (req : VnfInfoModificationRequest)
    (old new : VnfInstance) : Prop where
  vnfInstanceName : new.vnfInstanceName = req.vnfInstanceName.orElse fun _ => old.vnfInstanceName
  vnfInstanceDescription : new.vnfInstanceDescription =
    req.vnfInstanceDescription.orElse fun _ => old.vnfInstanceDescription
  vnfdId : new.vnfdId = req.vnfdId.getD old.vnfdId
  described : described new =
    ((newVnfd getVnfd req old).map NewVnfd.description).getD (described old)
  vnfConfigurableProperties : new.vnfConfigurableProperties.map Pairs.doc =
    patched (old.vnfConfigurableProperties.map Pairs.doc)
      (attrPatches (newVnfd getVnfd req old) req NewVnfd.vnfConfigurableProperties
        VnfInfoModificationRequest.vnfConfigurableProperties)
  metadata : new.metadata.map Pairs.doc = patched (old.metadata.map Pairs.doc)
    (attrPatches (newVnfd getVnfd req old) req NewVnfd.metadata
      VnfInfoModificationRequest.metadata)
  extensions : new.extensions.map Pairs.doc = patched (old.extensions.map Pairs.doc)
    (attrPatches (newVnfd getVnfd req old) req NewVnfd.extensions
      VnfInfoModificationRequest.extensions)
  vimConnectionInfo : Option.Rel Same (new.vimConnectionInfo.map VimInfos.toDict)
    (patched (old.vimConnectionInfo.map VimInfos.toDict)
      (req.vimConnectionInfo.map VimInfos.toDict).toList)
  vnfcs : ∀ id, (vnfcOf new.vnfcInfo id).isSome = (vnfcOf old.vnfcInfo id).isSome
  properties : ∀ id info info', vnfcOf old.vnfcInfo id = some info →
    vnfcOf new.vnfcInfo id = some info' →
      info'.vnfcConfigurableProperties.map Pairs.doc =
        patched (info.vnfcConfigurableProperties.map Pairs.doc) (vnfcPatches req id)

/-- The connections after the process. -/
lemma vimConnectionInfo_ok {vimConnectionInfo : Option VimInfos}
    (ok : modifyVimConnectionInfo inst.vimConnectionInfo req.vimConnectionInfo =
      some vimConnectionInfo) :
    Option.Rel Same (vimConnectionInfo.map VimInfos.toDict)
      (patched (inst.vimConnectionInfo.map VimInfos.toDict)
        (req.vimConnectionInfo.map VimInfos.toDict).toList) := by
  cases ofReq : req.vimConnectionInfo with
  | none =>
    rw [ofReq] at ok
    rw [← Option.some.inj (ok : some inst.vimConnectionInfo = some vimConnectionInfo)]
    exact same_rel_refl _
  | some reqViminfo =>
    rw [ofReq] at ok
    have ok : (mergeVimConnectionInfo inst.vimConnectionInfo (some reqViminfo)).map some =
      some vimConnectionInfo := ok
    cases ofInst : inst.vimConnectionInfo with
    | none =>
      rw [ofInst] at ok
      cases ok
    | some instViminfo =>
      obtain ⟨infos, merged, same⟩ := mergeVimConnectionInfo_ok instViminfo reqViminfo
      rw [ofInst, merged] at ok
      rw [← Option.some.inj ok]
      exact .some same

/-- The VNFCs after the process. -/
lemma modifyVnfcs_ok {vnfcInfo vnfcInfo' : Option (Table VnfcInfo.id)}
    {vnfcMods : List VnfcInfoModifications} (ok : modifyVnfcs vnfcInfo vnfcMods = some vnfcInfo')
    (id : String) : (vnfcOf vnfcInfo' id).isSome = (vnfcOf vnfcInfo id).isSome ∧
      ∀ info info', vnfcOf vnfcInfo id = some info → vnfcOf vnfcInfo' id = some info' →
        info'.vnfcConfigurableProperties.map Pairs.doc =
          patched (info.vnfcConfigurableProperties.map Pairs.doc)
            ((vnfcMods.filter fun vnfcMod => vnfcMod.id = id).map
              fun vnfcMod => vnfcMod.vnfcConfigurableProperties.doc) := by
  cases vnfcMods with
  | nil =>
    rw [← Option.some.inj (ok : some vnfcInfo = some vnfcInfo')]
    refine ⟨rfl, fun info info' found found' => ?_⟩
    rw [Option.some.inj (found.symm.trans found')]
    rfl
  | cons vnfcMod vnfcMods =>
    cases vnfcInfo with
    | none => cases ok
    | some infos =>
      rw [← Option.some.inj (ok : some (some ((vnfcMod :: vnfcMods).foldl modifyVnfc infos)) = _)]
      exact get_modifyVnfcs (vnfcMod :: vnfcMods) infos id

/-- The process patches each attribute. -/
theorem isPatched_modifyInfoProcess (done : modifyInfoProcess getVnfd req old = some new) :
    IsPatched getVnfd req old new := by
  obtain ⟨inst, modified, done⟩ := Option.bind_eq_some_iff.mp done
  have isInst := modifyVnfd_ok modified
  replace done := (Option.ite_none_right_eq_some.mp done).2
  obtain ⟨vimConnectionInfo, vim, done⟩ := Option.bind_eq_some_iff.mp done
  obtain ⟨vnfcInfo, vnfcs, done⟩ := Option.bind_eq_some_iff.mp done
  obtain rfl := Option.some.inj done
  have sameVnfd : newVnfd getVnfd req (modifyNames req old) = newVnfd getVnfd req old := rfl
  rw [sameVnfd] at isInst
  cases isNew : newVnfd getVnfd req old with
  | none =>
    rw [isNew] at isInst
    subst isInst
    refine ⟨rfl, rfl, rfl, ?_, ?_, ?_, ?_, vimConnectionInfo_ok vim,
      fun id => (modifyVnfcs_ok vnfcs id).1, fun id => (modifyVnfcs_ok vnfcs id).2⟩
    · rw [isNew]
      rfl
    · rw [isNew]
      exact doc_modified old.vnfConfigurableProperties req.vnfConfigurableProperties none
    · rw [isNew]
      exact doc_modified old.metadata req.metadata none
    · rw [isNew]
      exact doc_modified old.extensions req.extensions none
  | some vnfd =>
    rw [isNew] at isInst
    subst isInst
    refine ⟨rfl, rfl, rfl, ?_, ?_, ?_, ?_, vimConnectionInfo_ok vim,
      fun id => (modifyVnfcs_ok vnfcs id).1, fun id => (modifyVnfcs_ok vnfcs id).2⟩
    · rw [isNew]
      rfl
    · rw [isNew]
      exact doc_modified old.vnfConfigurableProperties req.vnfConfigurableProperties
        (some vnfd.vnfConfigurableProperties)
    · rw [isNew]
      exact doc_modified old.metadata req.metadata (some vnfd.metadata)
    · rw [isNew]
      exact doc_modified old.extensions req.extensions (some vnfd.extensions)

/-- The instance that the process leaves is the merged one. -/
theorem IsPatched.isModified (patched : IsPatched getVnfd req old new) :
    IsModified getVnfd req old new where
  vnfInstanceName := patched.vnfInstanceName
  vnfInstanceDescription := patched.vnfInstanceDescription
  vnfdId := patched.vnfdId
  described := patched.described
  vnfConfigurableProperties := by
    rw [patched.vnfConfigurableProperties]
    exact mergedAll_patched _ _
  metadata := by
    rw [patched.metadata]
    exact mergedAll_patched _ _
  extensions := by
    rw [patched.extensions]
    exact mergedAll_patched _ _
  vimConnectionInfo := ⟨_, mergedAll_patched _ _, patched.vimConnectionInfo⟩
  vnfcs := patched.vnfcs
  properties id info info' found found' := by
    rw [patched.properties id info info' found found']
    exact mergedAll_patched _ _

end Tacker.Modify
