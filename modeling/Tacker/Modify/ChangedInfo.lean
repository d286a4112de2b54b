import Tacker.Basis.Run
import Tacker.Modify.MergedInfo
import Tacker.Objects.LcmOpOcc

/-!
# What a modification is recorded to have changed

`changedInfo` of an occurrence should list exactly the attributes that have another value in the new
instance than in the old one. Values are compared as Python does it, and for the properties of a VNFC
unset ones are read as empty.
-/

namespace Tacker.Modify

open Tacker.Basis Tacker.Basis.Json
open Tacker.Fields (Atom Json str)

/-! ## What is expected -/

/-- An attribute is listed, with its new value, exactly if that is another one than the old. -/
structure Listed {β : Type} (same : β → β → Prop) (old new listed : Option β) : Prop where
  unchanged : Option.Rel same old new → listed = none
  changed : ¬ Option.Rel same old new → listed = new

/-- The same dictionary. -/
def SamePairs (a b : Pairs) : Prop :=
  Same a.doc b.doc

/-- The same connections. -/
def SameVimInfos (a b : VimInfos) : Prop :=
  Same a.toDict b.toDict

/-- What is listed for a VNFC. -/
def listedFor (vnfcMods : Option (List VnfcInfoModifications)) (id : String) : Option Pairs :=
  ((vnfcMods.getD []).find? fun vnfcMod => vnfcMod.id = id).map
    VnfcInfoModifications.vnfcConfigurableProperties

/-- `changedInfo` is the difference of two instances. -/
structure Exact (old new : VnfInstance) (info : VnfInfoModifications) : Prop where
  vnfdId : Listed Eq (some old.vnfdId) (some new.vnfdId) info.vnfdId
  vnfProvider : Listed Eq (some old.vnfProvider) (some new.vnfProvider) info.vnfProvider
  vnfProductName : Listed Eq (some old.vnfProductName) (some new.vnfProductName) info.vnfProductName
  vnfSoftwareVersion : Listed Eq (some old.vnfSoftwareVersion) (some new.vnfSoftwareVersion)
    info.vnfSoftwareVersion
  vnfdVersion : Listed Eq (some old.vnfdVersion) (some new.vnfdVersion) info.vnfdVersion
  vnfInstanceName : Listed Eq old.vnfInstanceName new.vnfInstanceName info.vnfInstanceName
  vnfInstanceDescription : Listed Eq old.vnfInstanceDescription new.vnfInstanceDescription
    info.vnfInstanceDescription
  vnfConfigurableProperties : Listed SamePairs old.vnfConfigurableProperties
    new.vnfConfigurableProperties info.vnfConfigurableProperties
  metadata : Listed SamePairs old.metadata new.metadata info.metadata
  extensions : Listed SamePairs old.extensions new.extensions info.extensions
  vimConnectionInfo : Listed SameVimInfos old.vimConnectionInfo new.vimConnectionInfo
    info.vimConnectionInfo
  vnfcs : ∀ vnfcMod ∈ info.vnfcInfoModifications.getD [], (vnfcOf new.vnfcInfo vnfcMod.id).isSome
  properties : ∀ id vnfc vnfc', vnfcOf old.vnfcInfo id = some vnfc →
    vnfcOf new.vnfcInfo id = some vnfc' →
      Listed SamePairs vnfc.vnfcConfigurableProperties vnfc'.vnfcConfigurableProperties
        (listedFor info.vnfcInfoModifications id)

/-! ## The condition -/

/-- Python does not take the value that the patches make of a document for the one of before, unless
it is the same. -/
def ToldApart (o : Option Json) (patches : List Json) : Prop :=
  ∀ t t', o = some t → patched o patches = some t' → eqBy pyEq t t' = true → Same t t'

/-- The changes can be told: no scalar is replaced by one that Python takes for equal, and no VNFC
without properties is given empty ones. -/
structure Told (getVnfd : String → Option NewVnfd) (req : VnfInfoModificationRequest)
    (old : VnfInstance) : Prop where
  vnfConfigurableProperties : ToldApart (old.vnfConfigurableProperties.map Pairs.doc)
    (attrPatches (newVnfd getVnfd req old) req NewVnfd.vnfConfigurableProperties
      VnfInfoModificationRequest.vnfConfigurableProperties)
  metadata : ToldApart (old.metadata.map Pairs.doc)
    (attrPatches (newVnfd getVnfd req old) req NewVnfd.metadata
      VnfInfoModificationRequest.metadata)
  extensions : ToldApart (old.extensions.map Pairs.doc)
    (attrPatches (newVnfd getVnfd req old) req NewVnfd.extensions
      VnfInfoModificationRequest.extensions)
  vimConnectionInfo : ToldApart (old.vimConnectionInfo.map VimInfos.toDict)
    (req.vimConnectionInfo.map VimInfos.toDict).toList
  properties : ∀ id vnfc, vnfcOf old.vnfcInfo id = some vnfc →
    ToldApart (vnfc.vnfcConfigurableProperties.map Pairs.doc) (vnfcPatches req id)
  notEmpty : ∀ id vnfc, vnfcOf old.vnfcInfo id = some vnfc →
    vnfc.vnfcConfigurableProperties = none →
      ∀ t, patched none (vnfcPatches req id) = some t → t.keys ≠ []

/-! ## Attributes that are checked -/

section

variable {β : Type} {same : β → β → Prop} {eq : β → β → Bool} {old new : Option β}

/-- What is checked is listed exactly if the check tells values apart that are not the same. -/
lemma listed_checkModification (sound : ∀ a b, same a b → eq a b = true)
    (stays : new = none → old = none) : Listed same old new (checkModification eq old new) ↔
      ∀ a b, old = some a → new = some b → eq a b = true → same a b := by
  cases new with
  | none =>
    rw [stays rfl]
    constructor
    · intro _ a b none
      cases none
    · intro _
      exact ⟨fun _ => rfl, fun _ => rfl⟩
  | some b =>
    cases old with
    | none =>
      constructor
      · intro _ a b none
        cases none
      · intro _
        refine ⟨fun rel => ?_, fun _ => rfl⟩
        cases rel
    | some a =>
      show Listed same (some a) (some b) (if eq a b then none else some b) ↔ _
      constructor
      · intro listed a' b' isA isB equal
        obtain rfl := Option.some.inj isA
        obtain rfl := Option.some.inj isB
        by_contra different
        have changed := listed.changed fun rel => by
          cases rel with
          | some isSame => exact different isSame
        rw [if_pos equal] at changed
        cases changed
      · intro told
        constructor
        · intro rel
          cases rel with
          | some isSame => rw [if_pos (sound a b isSame)]
        · intro different
          by_cases equal : eq a b = true
          · exact absurd (.some (told a b rfl rfl equal)) different
          · rw [if_neg equal]

end

/-- A text that is there is never removed, and texts are compared as they are. -/
lemma listed_text {old new : Option String} (stays : new = none → old = none) :
    Listed Eq old new (checkModification (fun a b => decide (a = b)) old new) :=
  (listed_checkModification (fun _ _ same => decide_eq_true same) stays).mpr
    fun _ _ _ _ equal => of_decide_eq_true equal

/-- What the package tells is compared if the VNFD is another one. -/
lemma listed_described {old new : String} {other : Prop} [Decidable other]
    (unchanged : ¬ other → old = new) :
    Listed Eq (some old) (some new) (if other ∧ old ≠ new then some new else none) := by
  constructor
  · intro rel
    cases rel with
    | some equal => rw [if_neg fun both => both.2 equal]
  · intro different
    have ne : old ≠ new := fun equal => different (.some equal)
    have isOther : other := by
      by_contra same
      exact ne (unchanged same)
    rw [if_pos ⟨isOther, ne⟩]

lemma pyEq_refl (a : Atom) : pyEq a a = true :=
  decide_eq_true rfl

lemma pyEq_symm (a b : Atom) (equal : pyEq a b = true) : pyEq b a = true :=
  decide_eq_true (of_decide_eq_true equal).symm

lemma eqPairs_of_same (a b : Pairs) (same : SamePairs a b) : eqPairs a b = true :=
  eqBy_of_same pyEq_refl same

lemma eqVimInfos_of_same (a b : VimInfos) (same : SameVimInfos a b) : eqVimInfos a b = true :=
  eqBy_of_same pyEq_refl same

/-- A dictionary that is set stays set under patches that are dictionaries. -/
lemma isSome_patched {patches : List Json} (dicts : ∀ patch ∈ patches, patch.isDict = true)
    {o : Option Json} (isSome : o.isSome = true) : (patched o patches).isSome = true := by
  induction patches generalizing o with
  | nil => exact isSome
  | cons patch patches ih =>
    rw [patched_cons]
    apply ih (fun patch mem => dicts patch (List.mem_cons_of_mem _ mem))
    have value := isNull_of_isDict (dicts patch List.mem_cons_self)
    simp [patchAt, value]

lemma isDict_attrPatches {vnfd : Option NewVnfd} {req : VnfInfoModificationRequest}
    {ofVnfd : NewVnfd → Pairs} {ofReq : VnfInfoModificationRequest → Option Pairs} :
    ∀ patch ∈ attrPatches vnfd req ofVnfd ofReq, patch.isDict = true := by
  intro patch mem
  rcases List.mem_append.mp mem with mem | mem
  · cases vnfd with
    | none => cases mem
    | some vnfd =>
      have mem : patch ∈ valuesOf (ofVnfd vnfd) := mem
      unfold valuesOf at mem
      by_cases noValues : (ofVnfd vnfd).doc.keys = []
      · rw [if_pos noValues] at mem
        cases mem
      · rw [if_neg noValues] at mem
        rw [List.mem_singleton.mp mem]
        exact (ofVnfd vnfd).dict
  · obtain ⟨pairs, -, rfl⟩ := Option.map_eq_some_iff.mp (Option.mem_toList.mp mem)
    exact pairs.dict

/-- A dictionary with patches is listed exactly if Python tells the new value apart. -/
lemma listed_pairs {old new : Option Pairs} {patches : List Json}
    (dicts : ∀ patch ∈ patches, patch.isDict = true)
    (isPatched : new.map Pairs.doc = patched (old.map Pairs.doc) patches) :
    Listed SamePairs old new (checkModification eqPairs old new) ↔
      ToldApart (old.map Pairs.doc) patches := by
  have stays : new = none → old = none := by
    intro isNone
    cases old with
    | none => rfl
    | some pairs =>
      have isSome := isSome_patched dicts (o := (some pairs).map Pairs.doc) rfl
      rw [← isPatched, isNone] at isSome
      cases isSome
  rw [listed_checkModification eqPairs_of_same stays]
  constructor
  · intro told t t' isOld isNew equal
    obtain ⟨a, rfl, rfl⟩ := Option.map_eq_some_iff.mp isOld
    rw [← isPatched] at isNew
    obtain ⟨b, rfl, rfl⟩ := Option.map_eq_some_iff.mp isNew
    exact told a b rfl rfl equal
  · intro told a b isOld isNew equal
    apply told a.doc b.doc
    · rw [isOld]
      rfl
    · rw [← isPatched, isNew]
      rfl
    · exact equal

/-- The connections are listed exactly if Python tells the new ones apart. -/
lemma listed_vimInfos {old new : Option VimInfos} {patches : List Json}
    (dicts : ∀ patch ∈ patches, patch.isDict = true)
    (isPatched : Option.Rel Same (new.map VimInfos.toDict)
      (patched (old.map VimInfos.toDict) patches)) :
    Listed SameVimInfos old new (checkModification eqVimInfos old new) ↔
      ToldApart (old.map VimInfos.toDict) patches := by
  have stays : new = none → old = none := by
    intro isNone
    cases old with
    | none => rfl
    | some infos =>
      have isSome := isSome_patched dicts (o := (some infos).map VimInfos.toDict) rfl
      rw [isNone] at isPatched
      generalize patched ((some infos).map VimInfos.toDict) patches = o at isPatched isSome
      cases isPatched
      cases isSome
  rw [listed_checkModification eqVimInfos_of_same stays]
  constructor
  · intro told t t' isOld isNew equal
    obtain ⟨a, rfl, rfl⟩ := Option.map_eq_some_iff.mp isOld
    rw [isNew] at isPatched
    cases isB : new with
    | none =>
      rw [isB] at isPatched
      cases isPatched
    | some b =>
      rw [isB] at isPatched
      obtain same : Same b.toDict t' := by
        cases isPatched with
        | some same => exact same
      exact (told a b rfl isB (eqBy_same equal same.symm)).trans same
  · intro told a b isOld isNew equal
    rw [isNew] at isPatched
    cases merged : patched (old.map VimInfos.toDict) patches with
    | none =>
      rw [merged] at isPatched
      cases isPatched
    | some t' =>
      rw [merged] at isPatched
      obtain same : Same b.toDict t' := by
        cases isPatched with
        | some same => exact same
      exact (told a.toDict t' (by rw [isOld]; rfl) merged (eqBy_same equal same)).trans same.symm

/-! ## VNFCs -/

/-- What is listed for a VNFC: its properties, if they are others than before. -/
def listedProp (propSaved prop : Option Pairs) : Option Pairs :=
  if eqPairs (prop.getD .empty) (propSaved.getD .empty) then none else some (prop.getD .empty)

lemma mem_changedVnfcs {saved inst : Option (Table VnfcInfo.id)} {vnfcMod : VnfcInfoModifications} :
    vnfcMod ∈ changedVnfcs saved inst ↔ ∃ vnfc, vnfcOf inst vnfcMod.id = some vnfc ∧
      listedProp ((vnfcOf saved vnfcMod.id).bind VnfcInfo.vnfcConfigurableProperties)
        vnfc.vnfcConfigurableProperties = some vnfcMod.vnfcConfigurableProperties := by
  unfold changedVnfcs
  rw [List.mem_filterMap]
  cases inst with
  | none =>
    constructor
    · rintro ⟨vnfc, mem, -⟩
      cases mem
    · rintro ⟨vnfc, found, -⟩
      cases found
  | some infos =>
    constructor
    · rintro ⟨vnfc, mem, listed⟩
      simp only at listed
      by_cases equal : eqPairs (vnfc.vnfcConfigurableProperties.getD .empty)
          (((saved.bind fun saved => saved.get vnfc.id).bind
            VnfcInfo.vnfcConfigurableProperties).getD .empty) = true
      · rw [if_pos equal] at listed
        cases listed
      · rw [if_neg equal] at listed
        obtain rfl := Option.some.inj listed
        exact ⟨vnfc, Table.get_eq_some.mpr ⟨mem, rfl⟩, if_neg equal⟩
    · rintro ⟨vnfc, found, listed⟩
      obtain ⟨mem, isId⟩ := Table.get_eq_some.mp (found : infos.get vnfcMod.id = some vnfc)
      refine ⟨vnfc, mem, ?_⟩
      obtain ⟨id, prop⟩ := vnfcMod
      obtain rfl : vnfc.id = id := isId
      unfold listedProp at listed
      by_cases equal : eqPairs (vnfc.vnfcConfigurableProperties.getD .empty)
          (((vnfcOf saved vnfc.id).bind VnfcInfo.vnfcConfigurableProperties).getD .empty) = true
      · rw [if_pos equal] at listed
        cases listed
      · rw [if_neg equal] at listed
        obtain rfl : vnfc.vnfcConfigurableProperties.getD .empty = prop := Option.some.inj listed
        exact if_neg equal

/-- What `_change_vnf_info` sets of the changes of the VNFCs. -/
lemma getD_changedVnfcs (saved inst : VnfInstance) :
    (changeVnfInfo saved inst).vnfcInfoModifications.getD [] =
      changedVnfcs saved.vnfcInfo inst.vnfcInfo := by
  show (if changedVnfcs saved.vnfcInfo inst.vnfcInfo = [] then none else some _).getD [] = _
  by_cases none : changedVnfcs saved.vnfcInfo inst.vnfcInfo = []
  · rw [if_pos none, none]
    rfl
  · rw [if_neg none]
    rfl

/-- A VNFC is listed with its new properties if they are others than before. -/
lemma listedFor_changeVnfInfo {saved inst : VnfInstance} {id : String} {vnfc vnfc' : VnfcInfo}
    (before : vnfcOf saved.vnfcInfo id = some vnfc) (after : vnfcOf inst.vnfcInfo id = some vnfc') :
    listedFor (changeVnfInfo saved inst).vnfcInfoModifications id =
      listedProp vnfc.vnfcConfigurableProperties vnfc'.vnfcConfigurableProperties := by
  unfold listedFor
  rw [getD_changedVnfcs]
  cases found : (changedVnfcs saved.vnfcInfo inst.vnfcInfo).find? fun vnfcMod => vnfcMod.id = id with
  | none =>
    cases listed : listedProp vnfc.vnfcConfigurableProperties vnfc'.vnfcConfigurableProperties with
    | none => rfl
    | some prop =>
      have mem : ⟨id, prop⟩ ∈ changedVnfcs saved.vnfcInfo inst.vnfcInfo := by
        apply mem_changedVnfcs.mpr
        refine ⟨vnfc', after, ?_⟩
        rw [before]
        exact listed
      exact absurd (decide_eq_true rfl) (List.find?_eq_none.mp found _ mem)
  | some vnfcMod =>
    have isId : vnfcMod.id = id := of_decide_eq_true (List.find?_some found :)
    obtain ⟨vnfc'', isVnfc, listed⟩ := mem_changedVnfcs.mp (List.mem_of_find?_eq_some found)
    rw [isId] at isVnfc listed
    obtain rfl := Option.some.inj (after.symm.trans isVnfc)
    rw [before] at listed
    exact listed.symm

/-- The properties of a VNFC are listed exactly if Python tells the new ones apart, and if none that
were not set become empty. -/
lemma listed_listedProp {old new : Option Pairs} {patches : List Json}
    (dicts : ∀ patch ∈ patches, patch.isDict = true)
    (isPatched : new.map Pairs.doc = patched (old.map Pairs.doc) patches) :
    Listed SamePairs old new (listedProp old new) ↔
      ToldApart (old.map Pairs.doc) patches ∧
        (old = none → ∀ t, patched none patches = some t → t.keys ≠ []) := by
  have empty_iff : ∀ b : Pairs, eqPairs b .empty = true ↔ b.doc.keys = [] := by
    intro b
    obtain ⟨doc, dict⟩ := b
    cases doc with
    | obj keys unique value =>
      show eqBy pyEq (.obj keys unique value) .empty = true ↔ keys = []
      cases keys with
      | nil => simp [eqBy, empty]
      | cons key keys => simp [eqBy, empty]
    | _ => cases dict
  cases old with
  | none =>
    cases new with
    | none =>
      constructor
      · intro _
        refine ⟨fun t t' none => (by cases none), fun _ t isPatch => ?_⟩
        cases isPatched.trans isPatch
      · intro _
        exact ⟨fun _ => rfl, fun different => absurd .none different⟩
    | some b =>
      have isPatched : some b.doc = patched none patches := isPatched
      show Listed SamePairs none (some b) (if eqPairs b .empty then none else some b) ↔ _
      constructor
      · intro listed
        refine ⟨fun t t' none => (by cases none), fun _ t isPatch isEmpty => ?_⟩
        have changed := listed.changed fun rel => by cases rel
        obtain rfl := Option.some.inj (isPatched.trans isPatch)
        rw [if_pos ((empty_iff b).mpr isEmpty)] at changed
        cases changed
      · rintro ⟨-, notEmpty⟩
        have different : ¬ eqPairs b .empty = true := fun equal =>
          notEmpty rfl b.doc isPatched.symm ((empty_iff b).mp equal)
        constructor
        · intro rel
          cases rel
        · intro _
          exact if_neg different
  | some a =>
    have isSome := isSome_patched dicts (o := some a.doc) rfl
    cases new with
    | none =>
      have isPatched : none = patched (some a.doc) patches := isPatched
      rw [← isPatched] at isSome
      cases isSome
    | some b =>
      have isPatched : some b.doc = patched (some a.doc) patches := isPatched
      show Listed SamePairs (some a) (some b) (if eqPairs b a then none else some b) ↔ _
      constructor
      · intro listed
        refine ⟨fun t t' isOld isNew equal => ?_, fun none => (by cases none)⟩
        obtain rfl := Option.some.inj isOld
        obtain rfl := Option.some.inj (isPatched.trans isNew)
        by_contra other
        have changed := listed.changed fun rel => by
          cases rel with
          | some same => exact other same
        have taken : eqPairs b a = true := eqBy_symm pyEq_symm equal
        rw [if_pos taken] at changed
        cases changed
      · rintro ⟨told, -⟩
        constructor
        · intro rel
          cases rel with
          | some same => rw [if_pos (eqPairs_of_same b a same.symm)]
        · intro different
          by_cases equal : eqPairs b a = true
          · apply absurd _ different
            exact .some (told a.doc b.doc rfl isPatched.symm (eqBy_symm pyEq_symm equal))
          · rw [if_neg equal]

/-! ## All attributes -/

variable {getVnfd : String → Option NewVnfd} {req : VnfInfoModificationRequest}
  {old new : VnfInstance}

/-- The same VNFD is of the same package. -/
lemma described_of_same (isPatched : IsPatched getVnfd req old new)
    (same : ¬ old.vnfdId ≠ new.vnfdId) : described old = described new := by
  have noNew : newVnfd getVnfd req old = none := by
    have isId := isPatched.vnfdId
    unfold newVnfd
    cases ofReq : req.vnfdId with
    | none => rfl
    | some vnfdId =>
      rw [ofReq] at isId
      have isId : new.vnfdId = vnfdId := isId
      rw [Option.bind_some, if_pos ((not_ne_iff.mp same).trans isId).symm]
  rw [isPatched.described, noNew]
  rfl

/-- `changedInfo` is the difference exactly if the changes can be told. -/
theorem exact_changeVnfInfo_iff (isPatched : IsPatched getVnfd req old new) :
    Exact old new (changeVnfInfo old new) ↔ Told getVnfd req old := by
  have isDictVim : ∀ patch ∈ (req.vimConnectionInfo.map VimInfos.toDict).toList,
      patch.isDict = true := by
    intro patch mem
    obtain ⟨infos, -, rfl⟩ := Option.map_eq_some_iff.mp (Option.mem_toList.mp mem)
    rfl
  have isDictVnfc : ∀ id, ∀ patch ∈ vnfcPatches req id, patch.isDict = true := by
    intro id patch mem
    obtain ⟨vnfcMod, -, rfl⟩ := List.mem_map.mp mem
    exact vnfcMod.vnfcConfigurableProperties.dict
  have props : ∀ id vnfc vnfc', vnfcOf old.vnfcInfo id = some vnfc →
      vnfcOf new.vnfcInfo id = some vnfc' →
        (Listed SamePairs vnfc.vnfcConfigurableProperties vnfc'.vnfcConfigurableProperties
          (listedFor (changeVnfInfo old new).vnfcInfoModifications id) ↔
        ToldApart (vnfc.vnfcConfigurableProperties.map Pairs.doc) (vnfcPatches req id) ∧
          (vnfc.vnfcConfigurableProperties = none →
            ∀ t, patched none (vnfcPatches req id) = some t → t.keys ≠ [])) := by
    intro id vnfc vnfc' before after
    rw [listedFor_changeVnfInfo before after]
    exact listed_listedProp (isDictVnfc id) (isPatched.properties id vnfc vnfc' before after)
  have stays : ∀ id vnfc, vnfcOf old.vnfcInfo id = some vnfc →
      ∃ vnfc', vnfcOf new.vnfcInfo id = some vnfc' := by
    intro id vnfc before
    have isSome := isPatched.vnfcs id
    rw [before] at isSome
    exact Option.isSome_iff_exists.mp isSome
  constructor
  · intro isExact
    constructor
    · exact (listed_pairs isDict_attrPatches isPatched.vnfConfigurableProperties).mp
        isExact.vnfConfigurableProperties
    · exact (listed_pairs isDict_attrPatches isPatched.metadata).mp isExact.metadata
    · exact (listed_pairs isDict_attrPatches isPatched.extensions).mp isExact.extensions
    · exact (listed_vimInfos isDictVim isPatched.vimConnectionInfo).mp isExact.vimConnectionInfo
    · intro id vnfc before
      obtain ⟨vnfc', after⟩ := stays id vnfc before
      exact ((props id vnfc vnfc' before after).mp
        (isExact.properties id vnfc vnfc' before after)).1
    · intro id vnfc before
      obtain ⟨vnfc', after⟩ := stays id vnfc before
      exact ((props id vnfc vnfc' before after).mp
        (isExact.properties id vnfc vnfc' before after)).2
  · intro told
    have same := fun same => described_of_same isPatched same
    constructor
    · constructor
      · intro rel
        cases rel with
        | some equal => exact if_neg fun other => other equal
      · intro different
        exact if_pos fun equal => different (.some equal)
    · exact listed_described fun other => (Prod.mk.inj (same other)).1
    · exact listed_described fun other => (Prod.mk.inj (Prod.mk.inj (same other)).2).1
    · exact listed_described fun other =>
        (Prod.mk.inj (Prod.mk.inj (Prod.mk.inj (same other)).2).2).1
    · exact listed_described fun other =>
        (Prod.mk.inj (Prod.mk.inj (Prod.mk.inj (same other)).2).2).2
    · apply listed_text
      rw [isPatched.vnfInstanceName]
      cases req.vnfInstanceName with
      | none => exact id
      | some name =>
        intro isNone
        cases isNone
    · apply listed_text
      rw [isPatched.vnfInstanceDescription]
      cases req.vnfInstanceDescription with
      | none => exact id
      | some description =>
        intro isNone
        cases isNone
    · exact (listed_pairs isDict_attrPatches isPatched.vnfConfigurableProperties).mpr
        told.vnfConfigurableProperties
    · exact (listed_pairs isDict_attrPatches isPatched.metadata).mpr told.metadata
    · exact (listed_pairs isDict_attrPatches isPatched.extensions).mpr told.extensions
    · exact (listed_vimInfos isDictVim isPatched.vimConnectionInfo).mpr told.vimConnectionInfo
    · intro vnfcMod mem
      rw [getD_changedVnfcs] at mem
      obtain ⟨vnfc, found, -⟩ := mem_changedVnfcs.mp mem
      rw [found]
      rfl
    · intro id vnfc vnfc' before after
      exact (props id vnfc vnfc' before after).mpr
        ⟨told.properties id vnfc before, told.notEmpty id vnfc before⟩

end Tacker.Modify
