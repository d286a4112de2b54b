import Tacker.UserData.NewCps
import Tacker.UserData.History

/-!
# Parameters that a scale-out finds in the stack

The parameters of the VNFCs that a scale-out adds are laid over those that the stack has. Where the
request, the grant, the package and the instance give a parameter no value, the one that the stack
has under the same index stays, even if the VNFC it was for is gone.
-/

namespace Tacker.UserData

open Tacker.Basis

variable {csar : Csar} {req : Req} {inst : Inst} {grantReq : GrantReq} {grant : Grant}

/-! ## Filled dictionaries -/

/-- The members that are `None` are left out, the others are kept. -/
lemma get?_excludeNone {v : Value} (dict : v.isDict = true) :
    (excludeNone v).isDict = true ∧ ∀ key,
      (excludeNone v).get? key = (v.get? key).filter fun w => ! w.isNull := by
  have loop : ∀ (ks : List Key) (t : Value), t.isDict = true →
      (∀ key, t.get? key = v.get? key ∨ t.get? key = none ∧ ∀ w, v.get? key = some w → w = .null) →
      let t' := ks.foldl (fun t k => if ((v.get? k).getD .empty).isNull then t.del k else t) t
      t'.isDict = true ∧
        (∀ key, t'.get? key = v.get? key ∨
          t'.get? key = none ∧ ∀ w, v.get? key = some w → w = .null) ∧
        (∀ key, t.get? key = none → t'.get? key = none) ∧
        ∀ key ∈ ks, v.get? key = some .null → t'.get? key = none := by
    intro ks
    induction ks with
    | nil => exact fun t dict same => ⟨dict, same, fun _ gone => gone, by simp⟩
    | cons k ks ih =>
      intro t dict same
      by_cases isNull : ((v.get? k).getD .empty).isNull = true
      · have nullAt : ∀ w, v.get? k = some w → w = .null := by
          intro w found
          rw [found] at isNull
          exact Json.isNull_iff.mp isNull
        have step : ∀ key, (t.del k).get? key = v.get? key ∨
            (t.del k).get? key = none ∧ ∀ w, v.get? key = some w → w = .null := by
          intro key
          rw [Json.get?_del]
          by_cases eq : key = k
          · subst eq
            exact Or.inr ⟨if_pos rfl, nullAt⟩
          · rw [if_neg eq]
            exact same key
        obtain ⟨dict', same', stays, gone⟩ := ih (t.del k) (by rw [Json.isDict_del, dict]) step
        simp only [List.foldl_cons, isNull, if_true]
        refine ⟨dict', same', fun key absent => stays key ?_, fun key mem found => ?_⟩
        · rw [Json.get?_del, absent, ite_self]
        · rcases List.mem_cons.mp mem with rfl | mem
          · exact stays key (by rw [Json.get?_del, if_pos rfl])
          · exact gone key mem found
      · obtain ⟨dict', same', stays, gone⟩ := ih t dict same
        simp only [List.foldl_cons, isNull, Bool.false_eq_true, if_false]
        refine ⟨dict', same', stays, fun key mem found => ?_⟩
        rcases List.mem_cons.mp mem with rfl | mem
        · rw [found] at isNull
          exact absurd rfl isNull
        · exact gone key mem found
  obtain ⟨dict', same, -, gone⟩ := loop v.keys v dict fun key => Or.inl rfl
  refine ⟨dict', fun key => ?_⟩
  cases found : v.get? key with
  | none =>
    rcases same key with eq | ⟨eq, -⟩
    · rw [excludeNone, eq, found]
      rfl
    · exact eq
  | some w =>
    cases isNull : w.isNull with
    | true =>
      obtain rfl := Json.isNull_iff.mp isNull
      rw [excludeNone, gone key (by rw [Json.mem_keys_iff, found]; rfl) found]
      rfl
    | false =>
      rcases same key with eq | ⟨-, nullAt⟩
      · rw [excludeNone, eq, found, Option.filter_some]
        simp [isNull]
      · rw [nullAt w found] at isNull
        cases isNull

/-- A value of the dictionary is written if it is asked for. -/
def setAsked (v : Value) (key : Key) (value : Value) : Value :=
  if (v.get? key).isSome then v.set key value else v

lemma isDict_setAsked {v value : Value} {key : Key} : (setAsked v key value).isDict = v.isDict := by
  unfold setAsked
  split <;> simp

lemma get?_setAsked {v value : Value} {key key' : Key} (dict : v.isDict = true) :
    (setAsked v key value).get? key' =
      if key' = key then (v.get? key).map fun _ => value else v.get? key' := by
  unfold setAsked
  cases found : v.get? key with
  | none =>
    by_cases eq : key' = key
    · subst eq
      simp [found]
    · simp [eq]
  | some w =>
    by_cases eq : key' = key
    · subst eq
      simp [Json.get?_set dict]
    · simp [Json.get?_set dict, eq]

/-- What `fillVdu` writes. -/
lemma fillVdu_ok {vnfd : Vnfd} {flavourId : String} {added : List (ResourceDef × Nat)} {name : Key}
    {v v' : Value} (eq : fillVdu vnfd flavourId grant added name v = .ok v') :
    v.isDict = true ∧ ∃ nameIdx, name = .str nameIdx ∧ ∃ zone,
      ((v.get? "locationConstraints").isSome = true → zoneOf grant added nameIdx = .ok zone) ∧
      v' = setAsked (setAsked
        (setAsked v "computeFlavourId" (orNone (getParamFlavor (rmIdx nameIdx) flavourId vnfd grant)))
        "vcImageId" (orNone (getParamImage (rmIdx nameIdx) flavourId vnfd grant)))
        "locationConstraints" (orNone zone) := by
  cases name with
  | int n => cases eq
  | none => cases eq
  | other t => cases eq
  | str nameIdx =>
    obtain ⟨vduName, rm, eq⟩ := bind_ok.mp eq
    cases rm
    obtain ⟨asksFlavor, asked, eq⟩ := bind_ok.mp eq
    obtain ⟨dict, rfl⟩ := hasKey_ok.mp asked
    obtain ⟨asksImage, asked, eq⟩ := bind_ok.mp eq
    obtain ⟨-, rfl⟩ := hasKey_ok.mp asked
    obtain ⟨asksZone, asked, eq⟩ := bind_ok.mp eq
    obtain ⟨dict', rfl⟩ := hasKey_ok.mp asked
    change (setAsked _ _ _).isDict = true at dict'
    change (if (setAsked (setAsked v _ _) _ _ |>.get? "locationConstraints").isSome = true then _
      else _) = _ at eq
    have stays : (setAsked (setAsked v "computeFlavourId"
        (orNone (getParamFlavor (rmIdx nameIdx) flavourId vnfd grant))) "vcImageId"
        (orNone (getParamImage (rmIdx nameIdx) flavourId vnfd grant))).get? "locationConstraints" =
          v.get? "locationConstraints" := by
      rw [get?_setAsked (by rw [isDict_setAsked, dict]), if_neg (by simp), get?_setAsked dict,
        if_neg (by simp)]
    refine ⟨dict, nameIdx, rfl, ?_⟩
    cases asks : (v.get? "locationConstraints").isSome with
    | true =>
      rw [stays, asks, if_pos rfl] at eq
      obtain ⟨zone, found, eq⟩ := bind_ok.mp eq
      refine ⟨zone, fun _ => found, ?_⟩
      rw [setAsked, stays, asks, if_pos rfl]
      exact (pure_ok.mp eq).symm
    | false =>
      rw [stays, asks, if_neg Bool.false_ne_true] at eq
      refine ⟨none, fun asked => (by cases asked), ?_⟩
      rw [setAsked, stays, asks, if_neg Bool.false_ne_true]
      exact (pure_ok.mp eq).symm

/-- What `fillCp` writes; the fixed IPs are a list. -/
lemma fillCp_ok {network : String → Option String}
    {fixedIps : String → Except Raised (Option (List FixedIp))} {name : Key} {v v' : Value}
    (eq : fillCp network fixedIps name v = .ok v') :
    v.isDict = true ∧ ∃ nameIdx, name = .str nameIdx ∧ ∃ ips : Value,
      ips.isDict = false ∧ ips.isNull = false ∧
      v' = setAsked (setAsked v "network" (orNone (network (rmIdx nameIdx)))) "fixed_ips" ips := by
  cases name with
  | int n => cases eq
  | none => cases eq
  | other t => cases eq
  | str nameIdx =>
    obtain ⟨cpName, rm, eq⟩ := bind_ok.mp eq
    cases rm
    obtain ⟨asksNetwork, asked, eq⟩ := bind_ok.mp eq
    obtain ⟨dict, rfl⟩ := hasKey_ok.mp asked
    obtain ⟨asksIps, asked, eq⟩ := bind_ok.mp eq
    obtain ⟨-, rfl⟩ := hasKey_ok.mp asked
    change (if (setAsked v "network" _ |>.get? "fixed_ips").isSome = true then _ else _) = _ at eq
    refine ⟨dict, nameIdx, rfl, ?_⟩
    cases asks : (setAsked v "network" (orNone (network (rmIdx nameIdx))) |>.get?
        "fixed_ips").isSome with
    | true =>
      rw [asks, if_pos rfl] at eq
      obtain ⟨exts, -, eq⟩ := bind_ok.mp eq
      obtain ⟨ips, made, eq⟩ := bind_ok.mp eq
      obtain ⟨-, notDict, notNull⟩ := makeFixedIps_ok made
      refine ⟨ips, notDict, notNull, ?_⟩
      rw [setAsked.eq_1 (setAsked v _ _), asks, if_pos rfl]
      exact (pure_ok.mp eq).symm
    | false =>
      rw [asks, if_neg Bool.false_ne_true] at eq
      refine ⟨.list [], rfl, rfl, ?_⟩
      rw [setAsked.eq_1 (setAsked v _ _), asks, if_neg Bool.false_ne_true]
      exact (pure_ok.mp eq).symm

/-- A category of the dictionary is filled name by name, and the others are left alone. -/
lemma fillAt_ok {nfv nfv' : Value} {key : Key} {fill : Key → Value → Except Raised Value}
    (eq : fillAt nfv key fill = .ok nfv') :
    nfv.isDict = true ∧ nfv'.isDict = true ∧
      (∀ d, nfv.get? key = some d → ∃ d', nfv'.get? key = some d' ∧ d'.isDict = true ∧
        ∀ name v, d.get? name = some v → ∃ v', fill name v = .ok v' ∧ d'.get? name = some v') ∧
      ∀ key', key' ≠ key → nfv'.get? key' = nfv.get? key' := by
  obtain ⟨d, found, eq⟩ := bind_ok.mp eq
  obtain ⟨dict, rfl⟩ := getOrEmpty_ok.mp found
  obtain ⟨names, keys, eq⟩ := bind_ok.mp eq
  obtain ⟨inner, -⟩ := keysOf_ok.mp keys
  obtain ⟨d', filled, eq⟩ := bind_ok.mp eq
  obtain rfl := pure_ok.mp eq
  obtain ⟨dict', all, -⟩ := Json.mapValuesM_ok inner filled
  cases old : nfv.get? key with
  | none =>
    rw [if_neg (by simp)]
    exact ⟨dict, dict, fun d found => (by cases found), fun _ _ => rfl⟩
  | some d =>
    rw [old, Option.getD_some] at all
    rw [if_pos (by simp)]
    refine ⟨dict, by rw [Json.isDict_set, dict], fun d₀ eq => ?_, fun key' ne => ?_⟩
    · cases eq
      exact ⟨d', by rw [Json.get?_set dict, if_pos rfl], dict', all⟩
    · rw [Json.get?_set dict, if_neg ne]

/-! ## Parameters of created VNFCs -/

/-- The parameters of a VNFC that the user data class fills in. -/
inductive VnfcParam where
  | flavor
  | image
  | zone
  | network
  | fixedIps
deriving DecidableEq

namespace VnfcParam

/-- The part of the `nfv` dictionary that has the parameter. -/
def category : VnfcParam → Key
  | flavor | image | zone => "VDU"
  | network | fixedIps => "CP"

/-- The key of the parameter. -/
def key : VnfcParam → Key
  | flavor => "computeFlavourId"
  | image => "vcImageId"
  | zone => "locationConstraints"
  | network => "network"
  | fixedIps => "fixed_ips"

/-- The keys that lead to the parameter of a VDU or connection point. -/
def path (nameIdx : String) (param : VnfcParam) : List Key :=
  [param.category, nameIdx, param.key]

end VnfcParam

/-- The resource of a VDU index that the scale-out creates asks for the parameter. -/
def CreatedParam (csar : Csar) (inst : Inst) (grantReq : GrantReq) (nameIdx : String)
    (param : VnfcParam) : Prop :=
  ∃ hot, addedHot (csar inst.vnfdId) inst.flavourId (getCurrentCapacity · inst) grantReq =
      .ok (addedBy csar inst grantReq, hot) ∧
    ∃ res ∈ addedBy csar inst grantReq, ∃ vduRes,
      hot.at? ["resources", .str (addIdx res.1.resourceTemplateId res.2)] = some vduRes ∧
      Asks (getGetParam ((vduRes.get? "properties").getD .empty)) (param.path nameIdx)

/-- The grant, the package or the instance has a value for the parameter; fixed IPs are always
written, if only as an empty list. -/
def hasValue (csar : Csar) (inst : Inst) (grantReq : GrantReq) (grant : Grant)
    (nameIdx : String) : VnfcParam → Bool
  | .flavor => (getParamFlavor (rmIdx nameIdx) inst.flavourId (csar inst.vnfdId) grant).isSome
  | .image => (getParamImage (rmIdx nameIdx) inst.flavourId (csar inst.vnfdId) grant).isSome
  | .zone => ((zoneOf grant (addedBy csar inst grantReq) nameIdx).toOption.join).isSome
  | .network => (getParamNetworkFromInst (.str (rmIdx nameIdx)) inst).isSome
  | .fixedIps => true

/-- The dictionary of one parameter, with a mark in place of its value. -/
def marked (nameIdx : String) (param : VnfcParam) (valued : Bool) : Value :=
  Json.empty.set param.category (Json.empty.set nameIdx
    (if valued then Json.empty.set param.key (.atom (.bool true)) else .empty))

/-- What the grant, the package and the instance say of the parameter, and over it what the
additional parameters of the request and the grant say. -/
def givenParams (csar : Csar) (inst : Inst) (req : Req) (grantReq : GrantReq) (grant : Grant)
    (nameIdx : String) (param : VnfcParam) : Value :=
  mergeAdditionalParams
    (marked nameIdx param (hasValue csar inst grantReq grant nameIdx param)) req grant

/-- The parameter in a filled dictionary: there if it has a value, and left out if not. -/
structure FilledParam (nfv : Value) (nameIdx : String) (param : VnfcParam) (valued : Bool) :
    Prop where
  dict : nfv.isDict = true
  found : ∃ d v, nfv.get? param.category = some d ∧ d.isDict = true ∧
    d.get? nameIdx = some v ∧ v.isDict = true ∧
    if valued then ∃ w, v.get? param.key = some w ∧ w.isDict = false ∧ w.isNull = false
    else v.get? param.key = none

lemma alikeAlong_value {v w : Value} (left : v.isDict = false) (right : w.isDict = false)
    (path : List Key) : Json.AlikeAlong path v w := by
  have none : ∀ {t : Value} {key : Key}, t.isDict = false → t.get? key = none := by
    intro t key value
    cases found : t.get? key with
    | none => rfl
    | some v => simp [Json.isDict_of_get? found] at value
  cases path with
  | nil => trivial
  | cons key path =>
    refine ⟨by rw [left, right], by rw [none left, none right], fun v' w' found => ?_⟩
    rw [none left] at found
    cases found

/-- The dictionary of the marked parameter and the filled dictionary are alike along its keys. -/
lemma FilledParam.alike {nfv : Value} {nameIdx : String} {param : VnfcParam} {valued : Bool}
    (filled : FilledParam nfv nameIdx param valued) (rest : List Key) :
    Json.AlikeAlong (param.path nameIdx ++ rest) (marked nameIdx param valued) nfv := by
  obtain ⟨d, v, category, dDict, name, vDict, key⟩ := filled.found
  refine ⟨filled.dict.symm, by simp [marked, category], fun d₁ d₂ left right => ?_⟩
  rw [marked, Json.get?_single, if_pos rfl] at left
  rw [category] at right
  cases left
  cases right
  refine ⟨(Json.isNull_of_isDict dDict).symm, dDict.symm, by simp [name], ?_⟩
  intro v₁ v₂ left right
  rw [Json.get?_single, if_pos rfl] at left
  rw [name] at right
  cases left
  cases right
  cases valued with
  | false =>
    refine ⟨(Json.isNull_of_isDict vDict).symm, vDict.symm, ?_⟩
    rw [if_neg Bool.false_ne_true] at key
    refine ⟨by simp [key], fun w₁ w₂ left => ?_⟩
    cases left
  | true =>
    refine ⟨(Json.isNull_of_isDict vDict).symm, vDict.symm, ?_⟩
    rw [if_pos rfl] at key
    obtain ⟨w, found, notDict, notNull⟩ := key
    refine ⟨by simp [found], fun w₁ w₂ left right => ?_⟩
    rw [if_pos rfl, Json.get?_single, if_pos rfl] at left
    rw [found] at right
    cases left
    cases right
    exact ⟨notNull.symm, alikeAlong_value rfl notDict rest⟩

/-- A parameter that a resource of the template asks for is one of the template's. -/
lemma asks_of_resource {hot res : Value} {params : List Value} {name : Key} {path : List Key}
    (all : getParams hot = .ok params) (found : hot.at? ["resources", name] = some res)
    (asks : Asks (getGetParam ((res.get? "properties").getD .empty)) path) : Asks params path := by
  obtain ⟨resources, gotResources, eq⟩ := bind_ok.mp all
  obtain ⟨-, rfl⟩ := getOrEmpty_ok.mp gotResources
  obtain ⟨names, keys, eq⟩ := bind_ok.mp eq
  obtain ⟨-, rfl⟩ := keysOf_ok.mp keys
  obtain ⟨lists, each, eq⟩ := bind_ok.mp eq
  obtain rfl := pure_ok.mp eq
  rw [Json.at?_cons] at found
  obtain ⟨reses, gotReses, found⟩ := Option.bind_eq_some_iff.mp found
  rw [Json.at?_cons] at found
  obtain ⟨res', gotRes, found⟩ := Option.bind_eq_some_iff.mp found
  rw [Json.at?_nil] at found
  cases found
  rw [gotReses, Option.getD_some] at each
  have mem : name ∈ reses.keys := by rw [Json.mem_keys_iff, gotRes]; rfl
  obtain ⟨list, made⟩ := mapM_ok_of_mem each mem
  have inLists := (mem_of_mapM_ok each).mpr ⟨name, mem, made⟩
  obtain ⟨res', item, made⟩ := bind_ok.mp made
  rw [item_ok.mp item] at gotRes
  cases gotRes
  obtain ⟨properties, gotProperties, made⟩ := bind_ok.mp made
  obtain ⟨-, rfl⟩ := getOrEmpty_ok.mp gotProperties
  obtain rfl := pure_ok.mp made
  obtain ⟨param, isParam, ks, keys, isPrefix⟩ := asks
  exact ⟨param, List.mem_flatten.mpr ⟨_, inLists, isParam⟩, ks, keys, isPrefix⟩

/-- The value of a parameter in a VDU that was filled. -/
lemma fillVdu_param {vnfd : Vnfd} {flavourId nameIdx : String}
    {added : List (ResourceDef × Nat)} {v v' : Value}
    (eq : fillVdu vnfd flavourId grant added nameIdx v = .ok v') :
    v'.isDict = true ∧
      ((v.get? "computeFlavourId").isSome = true → v'.get? "computeFlavourId" =
        some (orNone (getParamFlavor (rmIdx nameIdx) flavourId vnfd grant))) ∧
      ((v.get? "vcImageId").isSome = true → v'.get? "vcImageId" =
        some (orNone (getParamImage (rmIdx nameIdx) flavourId vnfd grant))) ∧
      ((v.get? "locationConstraints").isSome = true → v'.get? "locationConstraints" =
        some (orNone (zoneOf grant added nameIdx).toOption.join)) := by
  obtain ⟨dict, nameIdx', nameEq, zone, zoneEq, rfl⟩ := fillVdu_ok eq
  cases nameEq
  refine ⟨by simp [isDict_setAsked, dict], fun asked => ?_, fun asked => ?_, fun asked => ?_⟩
  · obtain ⟨w, found⟩ := Option.isSome_iff_exists.mp asked
    simp [get?_setAsked, isDict_setAsked, dict, found]
  · obtain ⟨w, found⟩ := Option.isSome_iff_exists.mp asked
    simp [get?_setAsked, isDict_setAsked, dict, found]
  · rw [zoneEq asked]
    obtain ⟨w, found⟩ := Option.isSome_iff_exists.mp asked
    simp [get?_setAsked, isDict_setAsked, dict, found, Except.toOption]

/-- The value of a parameter in a connection point that was filled. -/
lemma fillCp_param {network : String → Option String}
    {fixedIps : String → Except Raised (Option (List FixedIp))} {nameIdx : String} {v v' : Value}
    (eq : fillCp network fixedIps nameIdx v = .ok v') :
    v'.isDict = true ∧
      ((v.get? "network").isSome = true → v'.get? "network" =
        some (orNone (network (rmIdx nameIdx)))) ∧
      ((v.get? "fixed_ips").isSome = true → ∃ ips, v'.get? "fixed_ips" = some ips ∧
        ips.isDict = false ∧ ips.isNull = false) := by
  obtain ⟨dict, nameIdx', nameEq, ips, notDict, notNull, rfl⟩ := fillCp_ok eq
  cases nameEq
  refine ⟨by simp [isDict_setAsked, dict], fun asked => ?_, fun asked => ?_⟩
  · obtain ⟨w, found⟩ := Option.isSome_iff_exists.mp asked
    simp [get?_setAsked, isDict_setAsked, dict, found]
  · obtain ⟨w, found⟩ := Option.isSome_iff_exists.mp asked
    refine ⟨ips, ?_, notDict, notNull⟩
    simp [get?_setAsked, isDict_setAsked, dict, found]

/-- What is left of a value that may be `None`. -/
lemma valued_orNone {v : Value} {key : Key} {value : Option String} (dict : v.isDict = true)
    (found : v.get? key = some (orNone value)) :
    if value.isSome then ∃ w, (excludeNone v).get? key = some w ∧ w.isDict = false ∧
      w.isNull = false else (excludeNone v).get? key = none := by
  rw [(get?_excludeNone dict).2 key, found]
  cases value with
  | none => rfl
  | some s => exact ⟨text s, rfl, rfl, rfl⟩

/-- The dictionary that a scale-out lays over the parameters: the additional parameters are merged
into one that has each created parameter exactly if there is a value for it. -/
lemma scaleOut_nfv {csar : Csar} {fields : Fields}
    (eq : StandardUserData.scaleOut csar req inst grantReq grant = .ok fields) :
    fields.full = false ∧ ∃ nfv, fields.nfv = some (mergeAdditionalParams nfv req grant) ∧
      ∀ nameIdx param, CreatedParam csar inst grantReq nameIdx param →
        FilledParam nfv nameIdx param (hasValue csar inst grantReq grant nameIdx param) := by
  rw [StandardUserData.scaleOut] at eq
  obtain ⟨⟨added, hot⟩, addedEq, eq⟩ := bind_ok.mp eq
  obtain ⟨asked, askedEq, eq⟩ := bind_ok.mp eq
  obtain ⟨vdus, vdusEq, eq⟩ := bind_ok.mp eq
  obtain ⟨cps, cpsEq, eq⟩ := bind_ok.mp eq
  obtain ⟨template, -, eq⟩ := bind_ok.mp eq
  obtain rfl := pure_ok.mp eq
  refine ⟨rfl, cps, rfl, fun nameIdx param created => ?_⟩
  obtain ⟨hot', addedEq', res, -, vduRes, found, asks⟩ := created
  rw [addedEq] at addedEq'
  cases addedEq'
  obtain ⟨params, all⟩ := getParams_of_initNfvDict askedEq
  obtain ⟨askedDict, vdusDict, vdusAt, vdusElse⟩ := fillAt_ok vdusEq
  obtain ⟨-, cpsDict, cpsAt, cpsElse⟩ := fillAt_ok cpsEq
  have present : asked.PresentAt (param.path nameIdx) :=
    ((initNfvDict_ok all askedEq).2 _ (by simp [VnfcParam.path]) (by simp [VnfcParam.path])).mpr
      (asks_of_resource all found asks)
  rw [VnfcParam.path, Json.presentAt_cons] at present
  obtain ⟨d, gotCategory, present⟩ := present
  obtain ⟨v, gotName, present⟩ := Json.presentAt_cons.mp present
  obtain ⟨w, gotKey, -⟩ := Json.presentAt_cons.mp present
  have asksKey : (v.get? param.key).isSome = true := by rw [gotKey]; rfl
  refine ⟨cpsDict, ?_⟩
  have vdu : param.category = .str "VDU" → ∃ d' v'', cps.get? param.category = some d' ∧
      d'.isDict = true ∧ d'.get? nameIdx = some (excludeNone v'') ∧ v''.isDict = true ∧
      fillVdu (csar inst.vnfdId) inst.flavourId grant (addedBy csar inst grantReq) nameIdx v =
        .ok v'' := by
    intro isVdu
    rw [isVdu] at gotCategory
    obtain ⟨d', got', dict', each⟩ := vdusAt d gotCategory
    obtain ⟨v', made, gotV'⟩ := each nameIdx v gotName
    obtain ⟨v'', filled, made⟩ := bind_ok.mp made
    obtain rfl := pure_ok.mp made
    refine ⟨d', v'', ?_, dict', gotV', (fillVdu_param filled).1, filled⟩
    rw [isVdu, cpsElse _ (by simp), got']
  have cp : param.category = .str "CP" → ∃ d' v'', cps.get? param.category = some d' ∧
      d'.isDict = true ∧ d'.get? nameIdx = some (excludeNone v'') ∧ v''.isDict = true ∧
      fillCp (fun cp => getParamNetworkFromInst (.str cp) inst)
        (fun cp => getParamFixedIpsFromInst (.str cp) inst) nameIdx v = .ok v'' := by
    intro isCp
    rw [isCp] at gotCategory
    rw [← vdusElse _ (by simp)] at gotCategory
    obtain ⟨d', got', dict', each⟩ := cpsAt d gotCategory
    obtain ⟨v', made, gotV'⟩ := each nameIdx v gotName
    obtain ⟨v'', filled, made⟩ := bind_ok.mp made
    obtain rfl := pure_ok.mp made
    exact ⟨d', v'', by rw [isCp, got'], dict', gotV', (fillCp_param filled).1, filled⟩
  cases param with
  | flavor =>
    obtain ⟨d', v'', got', dict', gotV', vDict, filled⟩ := vdu rfl
    refine ⟨d', _, got', dict', gotV', (get?_excludeNone vDict).1, ?_⟩
    exact valued_orNone vDict ((fillVdu_param filled).2.1 asksKey)
  | image =>
    obtain ⟨d', v'', got', dict', gotV', vDict, filled⟩ := vdu rfl
    refine ⟨d', _, got', dict', gotV', (get?_excludeNone vDict).1, ?_⟩
    exact valued_orNone vDict ((fillVdu_param filled).2.2.1 asksKey)
  | zone =>
    obtain ⟨d', v'', got', dict', gotV', vDict, filled⟩ := vdu rfl
    refine ⟨d', _, got', dict', gotV', (get?_excludeNone vDict).1, ?_⟩
    exact valued_orNone vDict ((fillVdu_param filled).2.2.2 asksKey)
  | network =>
    obtain ⟨d', v'', got', dict', gotV', vDict, filled⟩ := cp rfl
    refine ⟨d', _, got', dict', gotV', (get?_excludeNone vDict).1, ?_⟩
    exact valued_orNone vDict ((fillCp_param filled).2.1 asksKey)
  | fixedIps =>
    obtain ⟨d', v'', got', dict', gotV', vDict, filled⟩ := cp rfl
    refine ⟨d', _, got', dict', gotV', (get?_excludeNone vDict).1, ?_⟩
    obtain ⟨ips, gotIps, notDict, notNull⟩ := (fillCp_param filled).2.2 asksKey
    rw [hasValue, if_pos rfl]
    refine ⟨ips, ?_, notDict, notNull⟩
    show (excludeNone v'').get? "fixed_ips" = some ips
    rw [(get?_excludeNone vDict).2, gotIps, Option.filter_some]
    simp [notNull]

lemma alike_mergeNfv {path : List Key} {s t : Value} (alike : Json.AlikeAlong path s t)
    (additionalParams : Value) :
    Json.AlikeAlong path (mergeNfv s additionalParams) (mergeNfv t additionalParams) := by
  unfold mergeNfv
  cases additionalParams.get? "nfv" with
  | none => exact alike
  | some patch => exact alike.jsonMergePatch patch

/-- A created parameter becomes the same in two stacks exactly if these agree on all that is left of
it without a value. -/
lemma scaleOut_param_iff {csar : Csar} {fields : Fields} {s t : Stack}
    (eq : StandardUserData.scaleOut csar req inst grantReq grant = .ok fields) {nameIdx : String}
    {param : VnfcParam} (created : CreatedParam csar inst grantReq nameIdx param) :
    Option.Rel Json.Same ((updateFields s fields).nfv.at? (param.path nameIdx))
        ((updateFields t fields).nfv.at? (param.path nameIdx)) ↔
      ∀ rest, (givenParams csar inst req grantReq grant nameIdx param).word
          (param.path nameIdx ++ rest) = .silent →
        Option.Rel Json.Same (s.nfv.at? (param.path nameIdx ++ rest))
          (t.nfv.at? (param.path nameIdx ++ rest)) := by
  obtain ⟨notFull, nfv, nfvEq, filled⟩ := scaleOut_nfv eq
  have same : ∀ rest, (givenParams csar inst req grantReq grant nameIdx param).word
      (param.path nameIdx ++ rest) =
        (mergeAdditionalParams nfv req grant).word (param.path nameIdx ++ rest) := by
    intro rest
    apply Json.AlikeAlong.word
    apply alike_mergeNfv
    apply alike_mergeNfv
    exact (filled nameIdx param created).alike rest
  have after : ∀ u : Stack, (updateFields u fields).nfv =
      u.nfv.jsonMergePatch (mergeAdditionalParams nfv req grant) := by
    intro u
    simp [updateFields, updatePart, nfvEq, notFull]
  rw [after, after, Json.rel_at?_jsonMergePatch]
  simp only [same]

/-! ## Two histories -/

/-- The stack that the scale-out submits after a history. -/
def Reached.ScalesOutTo {csar : Csar} (h : Reached csar) (req : Req) (grantReq : GrantReq)
    (grant : Grant) (after : Stack) : Prop :=
  (Op.scaleOut req grantReq grant).updates csar h.state.inst h.state.stack = .ok [after]

lemma Reached.ScalesOutTo.fields {csar : Csar} {h : Reached csar} {after : Stack}
    (scaled : h.ScalesOutTo req grantReq grant after) :
    ∃ fields, StandardUserData.scaleOut csar req h.state.inst grantReq grant = .ok fields ∧
      after = updateFields h.state.stack fields := by
  obtain ⟨fields, eq, submitted⟩ := bind_ok.mp scaled
  refine ⟨fields, eq, ?_⟩
  have eq' := pure_ok.mp submitted
  exact (List.singleton_inj.mp eq').symm

/-- The parameters of the VDU indices that a scale-out creates are the same after two histories that
ended with the same instance exactly if the stacks agree on those that the request, the grant, the
package and the instance leave without a value. -/
theorem created_params_iff (csar : Csar) (h₁ h₂ : Reached csar)
    (sameInst : h₁.state.inst = h₂.state.inst) (req : Req) (grantReq : GrantReq) (grant : Grant)
    (after₁ after₂ : Stack) (scaled₁ : h₁.ScalesOutTo req grantReq grant after₁)
    (scaled₂ : h₂.ScalesOutTo req grantReq grant after₂) :
    (∀ nameIdx param, CreatedParam csar h₁.state.inst grantReq nameIdx param →
      Option.Rel Json.Same (after₁.nfv.at? (param.path nameIdx))
        (after₂.nfv.at? (param.path nameIdx))) ↔
    ∀ nameIdx param, CreatedParam csar h₁.state.inst grantReq nameIdx param →
      ∀ rest, (givenParams csar h₁.state.inst req grantReq grant nameIdx param).word
          (param.path nameIdx ++ rest) = .silent →
        Option.Rel Json.Same (h₁.state.stack.nfv.at? (param.path nameIdx ++ rest))
          (h₂.state.stack.nfv.at? (param.path nameIdx ++ rest)) := by
  obtain ⟨fields, eq, rfl⟩ := scaled₁.fields
  obtain ⟨fields', eq', rfl⟩ := scaled₂.fields
  rw [← sameInst, eq] at eq'
  cases eq'
  apply forall_congr'
  intro nameIdx
  apply forall_congr'
  intro param
  apply forall_congr'
  intro created
  exact scaleOut_param_iff eq created

/-! ### A zone of a VNFC that is gone -/

/-- A VNFC of the package to add. -/
def addVdu1 (id : String) : GrantReq where
  addResources := [⟨id, "COMPUTE", "VDU1", ""⟩]

/-- A grant that has a zone for the VNFC. -/
def grantZone (id : String) : Grant where
  zones := some [⟨"zone-1", "az-1"⟩]
  addResources := some [⟨id, some "zone-1"⟩]

/-- The instance of the package with one VNFC. -/
def instantiateVdu1 : Event where
  op := .instantiate "simple" {} (addVdu1 "def-0") {}
  ending := .completed
  listed := [⟨"VDU1", "OS::Nova::Server", "server-0", some "VDU1-0", 0⟩,
    ⟨"VDU1-0", "VDU1.yaml", "stack-0", none, 0⟩]

/-- A scale-out with a zone that reaches the stack, fails and is rolled back. -/
def rolledBackScaleOut : Event where
  op := .scaleOut {} (addVdu1 "def-1") (grantZone "def-1")
  ending := .rolledBack 1

/-- The instance with one VNFC. -/
def vdu1Once : Reached fun _ => vdu1Vnfd :=
  .of "vnfd" [instantiateVdu1] rfl

/-- The instance with one VNFC, after a scale-out that was rolled back. -/
def vdu1RolledBack : Reached fun _ => vdu1Vnfd :=
  .of "vnfd" [instantiateVdu1, rolledBackScaleOut] rfl

/-- The keys of the zone of the VNFC that is added. -/
def zonePath : List Key :=
  VnfcParam.zone.path "VDU1-1"

lemma vdu1Once_scales :
    ∃ after, vdu1Once.ScalesOutTo {} (addVdu1 "def-2") {} after ∧
      (after.nfv.at? zonePath).isSome = false :=
  exists_of_toOption (f := fun stack : Stack => (stack.nfv.at? zonePath).isSome) rfl

lemma vdu1RolledBack_scales :
    ∃ after, vdu1RolledBack.ScalesOutTo {} (addVdu1 "def-2") {} after ∧
      (after.nfv.at? zonePath).isSome = true :=
  exists_of_toOption (f := fun stack : Stack => (stack.nfv.at? zonePath).isSome) rfl

/-- `created_params_iff` for a scale-out without a zone after the two histories. -/
theorem created_params_vdu1 :
    ∃ after₁ after₂, vdu1Once.ScalesOutTo {} (addVdu1 "def-2") {} after₁ ∧
      vdu1RolledBack.ScalesOutTo {} (addVdu1 "def-2") {} after₂ ∧
      ((∀ nameIdx param,
        CreatedParam (fun _ => vdu1Vnfd) vdu1Once.state.inst (addVdu1 "def-2") nameIdx param →
        Option.Rel Json.Same (after₁.nfv.at? (param.path nameIdx))
          (after₂.nfv.at? (param.path nameIdx))) ↔
      ∀ nameIdx param,
        CreatedParam (fun _ => vdu1Vnfd) vdu1Once.state.inst (addVdu1 "def-2") nameIdx param →
        ∀ rest, (givenParams (fun _ => vdu1Vnfd) vdu1Once.state.inst {} (addVdu1 "def-2") {}
            nameIdx param).word (param.path nameIdx ++ rest) = .silent →
          Option.Rel Json.Same (vdu1Once.state.stack.nfv.at? (param.path nameIdx ++ rest))
            (vdu1RolledBack.state.stack.nfv.at? (param.path nameIdx ++ rest))) := by
  obtain ⟨after₁, scaled₁, -⟩ := vdu1Once_scales
  obtain ⟨after₂, scaled₂, -⟩ := vdu1RolledBack_scales
  exact ⟨after₁, after₂, scaled₁, scaled₂, created_params_iff _ vdu1Once vdu1RolledBack rfl {} _ {}
    after₁ after₂ scaled₁ scaled₂⟩

/-- The resource of the added VNFC asks for its zone. -/
lemma created_zone :
    CreatedParam (fun _ => vdu1Vnfd) vdu1Once.state.inst (addVdu1 "def-2") "VDU1-1" .zone := by
  have asked : (addedHot vdu1Vnfd vdu1Once.state.inst.flavourId
      (getCurrentCapacity · vdu1Once.state.inst) (addVdu1 "def-2")).toOption.map (fun added =>
        (added.1, (added.2.at? ["resources", "VDU1-1"]).map fun res =>
          (getGetParam ((res.get? "properties").getD .empty)).map fun param =>
            (nfvKeys param).toOption)) =
      some ([(⟨"def-2", "COMPUTE", "VDU1", ""⟩, 1)],
        some [some (some zonePath), some (some (VnfcParam.network.path "VDU1_CP1-1"))]) := rfl
  obtain ⟨⟨added, hot⟩, eq, asked⟩ := Option.map_eq_some_iff.mp asked
  obtain ⟨addedEq, asked⟩ := Prod.mk.inj asked
  obtain ⟨vduRes, found, asked⟩ := Option.map_eq_some_iff.mp asked
  obtain ⟨param, params, paramsEq, keys, -⟩ := List.map_eq_cons_iff.mp asked
  refine ⟨hot, ?_, (⟨"def-2", "COMPUTE", "VDU1", ""⟩, 1), List.mem_singleton_self _, vduRes, found,
    param, ?_, zonePath, toOption_eq_some.mp keys, List.prefix_rfl⟩
  · obtain rfl : added = addedBy (fun _ => vdu1Vnfd) vdu1Once.state.inst (addVdu1 "def-2") := addedEq
    exact toOption_eq_some.mp eq
  · rw [paramsEq]
    exact List.mem_cons_self

/-- The added VNFC gets the zone of the one that was rolled back. -/
theorem rolled_back_zone_returns :
    vdu1Once.state.inst = vdu1RolledBack.state.inst ∧
    ∃ after₁ after₂, vdu1Once.ScalesOutTo {} (addVdu1 "def-2") {} after₁ ∧
      vdu1RolledBack.ScalesOutTo {} (addVdu1 "def-2") {} after₂ ∧
      CreatedParam (fun _ => vdu1Vnfd) vdu1Once.state.inst (addVdu1 "def-2") "VDU1-1" .zone ∧
      ¬ Option.Rel Json.Same (after₁.nfv.at? (VnfcParam.zone.path "VDU1-1"))
        (after₂.nfv.at? (VnfcParam.zone.path "VDU1-1")) := by
  obtain ⟨after₁, scaled₁, absent⟩ := vdu1Once_scales
  obtain ⟨after₂, scaled₂, present⟩ := vdu1RolledBack_scales
  refine ⟨rfl, after₁, after₂, scaled₁, scaled₂, created_zone, fun rel => ?_⟩
  change Option.Rel Json.Same (after₁.nfv.at? zonePath) (after₂.nfv.at? zonePath) at rel
  generalize after₁.nfv.at? zonePath = zone₁, after₂.nfv.at? zonePath = zone₂ at rel absent present
  cases rel with
  | none => cases present
  | some same => cases absent

end Tacker.UserData
