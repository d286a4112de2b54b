import Tacker.UserData.NewCps
import Tacker.UserData.Default

/-!
# Rolling back a change of the external connectivity

The rollback is a merge patch over what the change left. For each user data class: exactly when the
parameters of the stack are then the stored ones again.
-/

namespace Tacker.UserData

open Tacker.Basis

variable {csar : Csar} {req : Req} {inst : Inst} {grant : Grant}

/-- The parameters of a stack that has the stored ones, after the change and its rollback. -/
def nfvAfterRollback (cls : UserDataClass) (csar : Csar) (req : Req) (inst : Inst)
    (grant : Grant) : Except Raised Value := do
  let forth ← cls.changeExtConn csar req inst grant
  let back ← cls.changeExtConnRollback csar inst
  let stack := updateFields ⟨.empty, inst.nfv⟩ forth
  return (updateFields stack back).nfv

/-- One of the links connects a connection point of that name. -/
def Connects (vls : List ExtVl) (cpName : Key) : Prop :=
  ∃ vl ∈ vls, ∃ extcp ∈ vl.extCps, .str extcp.cpdId = cpName

lemma findCp_isSome {vls : List ExtVl} {cpName : Key} :
    (findCp cpName vls).isSome = true ↔ Connects vls cpName := by
  simp [findCp, Connects, Option.isSome_iff_ne_none]

/-! ## The standard class -/

/-- The grant or the request connects the connection point that the name with an index is of. -/
def StandardConnects (req : Req) (grant : Grant) (cpNameIdx : Key) : Prop :=
  ∃ name : String, cpNameIdx = .str name ∧
    Connects (grant.extVirtualLinks ++ req.extVirtualLinks) (.str (rmIdx name))

lemma standardFind_isSome {cpNameIdx : Key} :
    (standardFind (grant.extVirtualLinks ++ req.extVirtualLinks) cpNameIdx).isSome = true ↔
      StandardConnects req grant cpNameIdx := by
  cases cpNameIdx with
  | str name =>
    show (findCp _ _).isSome = true ↔ _
    rw [findCp_isSome]
    simp [StandardConnects]
  | _ => simp [standardFind, rmIdxKey, StandardConnects]

/-- What the `nfv` part of `additionalParams` tells of a member. -/
def paramsWord (additionalParams : Value) (path : List Key) : Json.Word :=
  ((additionalParams.get? "nfv").map fun nfv => nfv.word path).getD .silent

lemma word_mergeNfv {nfvDict additionalParams : Value} {path : List Key} :
    (mergeNfv nfvDict additionalParams).word path = .sets ↔
      paramsWord additionalParams path = .sets ∨
        paramsWord additionalParams path = .silent ∧ nfvDict.word path = .sets := by
  cases found : additionalParams.get? "nfv" with
  | none => simp [mergeNfv, paramsWord, found]
  | some nfv => simp [mergeNfv, paramsWord, found, Json.word_jsonMergePatch]

/-- The change sets the member: `additionalParams` of the grant has the last word, that of the
request the word before, and else the connection points that the links connect are set. -/
def Introduces (csar : Csar) (req : Req) (inst : Inst) (grant : Grant) (path : List Key) : Prop :=
  paramsWord grant.additionalParams path = .sets ∨
    paramsWord grant.additionalParams path = .silent ∧
      (paramsWord req.additionalParams path = .sets ∨
        paramsWord req.additionalParams path = .silent ∧
          ∃ hot params, instHot (csar inst.vnfdId) inst = .ok hot ∧ getParams hot = .ok params ∧
            SetsCp params (StandardConnects req grant) path)

/-- Nothing stored is `None`, and the change sets no member that is not stored already, wherever
both have dictionaries. -/
structure StandardRestores (csar : Csar) (req : Req) (inst : Inst) (grant : Grant) : Prop where
  noNull : inst.nfv.NoNull
  known : ∀ path key, Introduces csar req inst grant (path ++ [key]) → inst.nfv.DictAt path →
    inst.nfv.PresentAt (path ++ [key])

lemma standard_word {fields : Fields}
    (eq : StandardUserData.changeExtConn csar req inst grant = .ok fields) :
    ∃ nfv, fields = { nfv := some nfv } ∧
      ∀ path, path ≠ [] → (nfv.word path = .sets ↔ Introduces csar req inst grant path) := by
  obtain ⟨hot, hotEq, eq⟩ := bind_ok.mp eq
  obtain ⟨nfvDict, nfvEq, eq⟩ := bind_ok.mp eq
  obtain ⟨cps, cpsEq, eq⟩ := bind_ok.mp eq
  obtain ⟨newCps, newEq, eq⟩ := bind_ok.mp eq
  obtain ⟨params, all⟩ := getParams_of_initNfvDict nfvEq
  refine ⟨_, (pure_ok.mp eq).symm, fun path ne => ?_⟩
  rw [mergeAdditionalParams, word_mergeNfv, word_mergeNfv,
    word_newCps all nfvEq cpsEq (standard_newCps newEq) ne]
  simp only [standardFind_isSome, Introduces]
  have known : (∃ hot params, instHot (csar inst.vnfdId) inst = .ok hot ∧
      getParams hot = .ok params ∧ SetsCp params (StandardConnects req grant) path) ↔
      SetsCp params (StandardConnects req grant) path := by
    refine ⟨?_, fun sets => ⟨hot, params, hotEq, all, sets⟩⟩
    rintro ⟨hot', params', hotEq', all', sets⟩
    rw [hotEq] at hotEq'
    cases hotEq'
    rw [all] at all'
    cases all'
    exact sets
  rw [known]

lemma standard_restores_iff {after : Value}
    (eq : nfvAfterRollback .standard csar req inst grant = .ok after) :
    after.Same inst.nfv ↔ StandardRestores csar req inst grant := by
  obtain ⟨forth, forthEq, eq⟩ := bind_ok.mp eq
  obtain ⟨nfv, rfl, word⟩ := standard_word forthEq
  obtain ⟨back, backEq, eq⟩ := bind_ok.mp eq
  obtain rfl := pure_ok.mp backEq
  obtain rfl := pure_ok.mp eq
  show ((inst.nfv.jsonMergePatch nfv).jsonMergePatch inst.nfv).Same inst.nfv ↔ _
  rw [Json.undo_iff, Json.covered_iff_paths]
  have sets : ∀ path key, nfv.word (path ++ [key]) = .sets ↔
      Introduces csar req inst grant (path ++ [key]) := fun path key => word _ (by simp)
  simp only [sets]
  constructor
  · rintro ⟨noNull, known⟩
    exact ⟨noNull, known⟩
  · rintro ⟨noNull, known⟩
    exact ⟨noNull, known⟩

/-! ## The default class -/

/-- What a connection point is connected to: by the links of the instance, or else by those of the
grant or the request. -/
def defaultFind (req : Req) (inst : Inst) (grant : Grant) (cpName : Key) :
    Option (String × ExtCp) :=
  (findCp cpName inst.extVirtualLinkInfo).or
    (findCp cpName (grant.extVirtualLinks ++ req.extVirtualLinks))

/-- The stored parameters of a connection point are those that the connection gives it. -/
structure Keeps (found : Option (String × ExtCp)) (cpValue stored : Value) : Prop where
  network : (cpValue.get? "network").isSome = true →
    Option.Rel Json.Same (some (orNone (found.map Prod.fst))) (stored.get? "network")
  fixedIps : (cpValue.get? "fixed_ips").isSome = true → ∀ exts ips, addresses found = .ok exts →
    makeFixedIps cpValue exts = .ok ips → Option.Rel Json.Same (some ips) (stored.get? "fixed_ips")

/-- The connection points of the template of the instance. -/
def templateCps (csar : Csar) (inst : Inst) : Except Raised Value := do
  let nfvDict ← baseNfvDict (csar inst.vnfdId) inst.flavourId
  cpsOf nfvDict

/-- Connection points are stored, and each that the instance or the change connects is stored with
the parameters of that connection. -/
def DefaultRestores (csar : Csar) (req : Req) (inst : Inst) (grant : Grant) : Prop :=
  ∃ stored, inst.nfv.get? "CP" = some stored ∧ stored.isDict = true ∧
    ∀ cps, templateCps csar inst = .ok cps → ∀ name cpValue, cps.get? name = some cpValue →
      asksCp cpValue = true → (defaultFind req inst grant name).isSome = true →
        ∃ old, stored.get? name = some old ∧ old.isDict = true ∧
          Keeps (defaultFind req inst grant name) cpValue old

/-- New values over a document that agrees with the old one everywhere else. -/
lemma same_overlay_iff {found : Option (String × ExtCp)} {cpValue new base old : Value}
    (newCp : NewCp found cpValue new) (connected : found.isSome = true) (dict : old.isDict = true)
    (else_ : ∀ key, new.get? key = none → base.asDict.get? key = old.get? key) :
    (base.jsonMergePatch new).Same old ↔ Keeps found cpValue old := by
  rw [Json.same_iff (by rw [Json.isDict_jsonMergePatch, newCp.dict]) dict]
  have merged : ∀ key, (base.jsonMergePatch new).get? key = (new.get? key).or (old.get? key) := by
    intro key
    cases got : new.get? key with
    | none => rw [Json.get?_jsonMergePatch_none newCp.dict got, else_ key got, Option.none_or]
    | some w =>
      obtain ⟨value, notNull⟩ := newCp.value connected got
      rw [Json.get?_jsonMergePatch_some newCp.dict got notNull, Json.jsonMergePatch_value value,
        Option.some_or]
  constructor
  · intro same
    constructor
    · intro asked
      have rel := same "network"
      rwa [merged, newCp.network, asked, if_pos rfl, Option.some_or] at rel
    · intro asked exts ips got filled
      have rel := same "fixed_ips"
      have new := newCp.fixedIps
      rw [asked, if_pos rfl] at new
      obtain ⟨exts', ips', got', filled', eq⟩ := new
      rw [got] at got'
      cases got'
      rw [filled] at filled'
      cases filled'
      rwa [merged, eq, Option.some_or] at rel
  · intro keeps key
    rw [merged]
    by_cases isNetwork : key = .str "network"
    · subst isNetwork
      rw [newCp.network]
      cases asked : (cpValue.get? "network").isSome with
      | true => exact keeps.network asked
      | false => exact Json.same_rel_refl _
    · by_cases isIps : key = .str "fixed_ips"
      · subst isIps
        have new := newCp.fixedIps
        cases asked : (cpValue.get? "fixed_ips").isSome with
        | true =>
          rw [asked, if_pos rfl] at new
          obtain ⟨exts, ips, got, filled, eq⟩ := new
          rw [eq]
          exact keeps.fixedIps asked exts ips got filled
        | false =>
          rw [asked, if_neg Bool.false_ne_true] at new
          rw [new]
          exact Json.same_rel_refl _
      · rw [newCp.others key isNetwork isIps]
        exact Json.same_rel_refl _

lemma rel_some_iff {new : Value} {stored : Option Value} (isDict : new.isDict = true) :
    Option.Rel Json.Same (some new) stored ↔
      ∃ old, stored = some old ∧ old.isDict = true ∧ new.Same old := by
  cases stored with
  | none => simp
  | some old =>
    simp only [Option.rel_some_some, Option.some.injEq, exists_eq_left']
    exact ⟨fun same => ⟨same.isDict ▸ isDict, same⟩, fun same => same.2⟩

/-- The connection points after both patches, name by name. -/
lemma same_newCps_iff {stored cps forth back : Value}
    {forthFind backFind : Key → Option (String × ExtCp)} (dict : stored.isDict = true)
    (forthNew : NewCps forthFind cps forth) (backNew : NewCps backFind cps back) :
    ((stored.jsonMergePatch forth).jsonMergePatch back).Same stored ↔
      ∀ name cpValue, cps.get? name = some cpValue → asksCp cpValue = true →
        ((backFind name).or (forthFind name)).isSome = true →
        ∃ old, stored.get? name = some old ∧ old.isDict = true ∧
          Keeps ((backFind name).or (forthFind name)) cpValue old := by
  have midDict : (stored.jsonMergePatch forth).isDict = true := by
    rw [Json.isDict_jsonMergePatch, forthNew.dict]
  rw [Json.same_iff (by rw [Json.isDict_jsonMergePatch, backNew.dict]) dict]
  apply forall_congr'
  intro name
  -- the entry that is written last decides, and it writes whatever the one before has written
  have entry : ∀ {find : Key → Option (String × ExtCp)} {cpValue v base : Value},
      cps.get? name = some cpValue → asksCp cpValue = true → (find name).isSome = true →
      NewCp (find name) cpValue v →
      (∀ old, stored.get? name = some old → old.isDict = true →
        ∀ key, v.get? key = none → base.asDict.get? key = old.get? key) →
      (Option.Rel Json.Same (some (base.jsonMergePatch v)) (stored.get? name) ↔
        ∀ cpValue, cps.get? name = some cpValue → asksCp cpValue = true →
          (find name).isSome = true → ∃ old, stored.get? name = some old ∧ old.isDict = true ∧
            Keeps (find name) cpValue old) := by
    intro find cpValue v base got asks connected new else_
    rw [rel_some_iff (by rw [Json.isDict_jsonMergePatch, new.dict])]
    constructor
    · rintro ⟨old, found, oldDict, same⟩ cpValue' got' _ _
      rw [got] at got'
      cases got'
      exact ⟨old, found, oldDict,
        (same_overlay_iff new connected oldDict (else_ old found oldDict)).mp same⟩
    · intro keeps
      obtain ⟨old, found, oldDict, keeps⟩ := keeps cpValue got asks connected
      exact ⟨old, found, oldDict,
        (same_overlay_iff new connected oldDict (else_ old found oldDict)).mpr keeps⟩
  cases last : back.get? name with
  | some w =>
    obtain ⟨cpValue, got, new⟩ := backNew.new name w last
    obtain ⟨cpValue', got', asks, connected⟩ := (backNew.some_iff name).mp (by rw [last]; rfl)
    rw [got] at got'
    cases got'
    rw [Json.get?_jsonMergePatch_some backNew.dict last (Json.isNull_of_isDict new.dict),
      Json.asDict_of_isDict midDict, Option.or_of_isSome connected]
    apply entry got asks connected new
    intro old found oldDict key absent
    cases first : forth.get? name with
    | none =>
      rw [Json.get?_jsonMergePatch_none forthNew.dict first, Json.asDict_of_isDict dict, found,
        Option.getD_some, Json.asDict_of_isDict oldDict]
    | some v =>
      obtain ⟨cpValue', got', forthCp⟩ := forthNew.new name v first
      rw [got] at got'
      cases got'
      have noneFirst : v.get? key = none := by
        rw [← Option.not_isSome_iff_eq_none] at absent ⊢
        rwa [forthCp.isSome_iff, ← new.isSome_iff]
      rw [Json.get?_jsonMergePatch_some forthNew.dict first (Json.isNull_of_isDict forthCp.dict),
        Json.asDict_of_isDict dict, found, Option.getD_some, Option.getD_some,
        Json.asDict_of_isDict (by rw [Json.isDict_jsonMergePatch, forthCp.dict]),
        Json.get?_jsonMergePatch_none forthCp.dict noneFirst, Json.asDict_of_isDict oldDict]
  | none =>
    rw [Json.get?_jsonMergePatch_none backNew.dict last, Json.asDict_of_isDict midDict]
    have notBack : ∀ cpValue, cps.get? name = some cpValue → asksCp cpValue = true →
        backFind name = none := by
      intro cpValue got asks
      cases connected : backFind name with
      | none => rfl
      | some found =>
        have isSome := (backNew.some_iff name).mpr ⟨cpValue, got, asks, by rw [connected]; rfl⟩
        rw [last] at isSome
        cases isSome
    cases first : forth.get? name with
    | some v =>
      obtain ⟨cpValue, got, new⟩ := forthNew.new name v first
      obtain ⟨cpValue', got', asks, connected⟩ := (forthNew.some_iff name).mp (by rw [first]; rfl)
      rw [got] at got'
      cases got'
      rw [notBack cpValue got asks, Option.none_or,
        Json.get?_jsonMergePatch_some forthNew.dict first (Json.isNull_of_isDict new.dict),
        Json.asDict_of_isDict dict]
      apply entry got asks connected new
      intro old found oldDict key _
      rw [found, Option.getD_some, Json.asDict_of_isDict oldDict]
    | none =>
      rw [Json.get?_jsonMergePatch_none forthNew.dict first, Json.asDict_of_isDict dict]
      refine ⟨fun _ cpValue got asks connected => ?_, fun _ => Json.same_rel_refl _⟩
      rw [notBack cpValue got asks, Option.none_or] at connected
      have isSome := (forthNew.some_iff name).mpr ⟨cpValue, got, asks, connected⟩
      rw [first] at isSome
      cases isSome

lemma default_restores_iff {after : Value}
    (eq : nfvAfterRollback .default csar req inst grant = .ok after) :
    after.Same inst.nfv ↔ DefaultRestores csar req inst grant := by
  rw [nfvAfterRollback, bind_ok] at eq
  obtain ⟨forthFields, forthEq, eq⟩ := eq
  rw [bind_ok] at eq
  obtain ⟨backFields, backEq, eq⟩ := eq
  rw [UserDataClass.changeExtConn, map_ok] at forthEq
  rw [UserDataClass.changeExtConnRollback, map_ok] at backEq
  obtain ⟨forthNfv, forthEq, rfl⟩ := forthEq
  obtain ⟨backNfv, backEq, rfl⟩ := backEq
  obtain rfl := pure_ok.mp eq
  obtain ⟨nfvDict, nfvEq, forthEq⟩ := bind_ok.mp forthEq
  obtain ⟨cps, cpsEq, forthEq⟩ := bind_ok.mp forthEq
  obtain ⟨forth, forthMade, pureEq⟩ := bind_ok.mp forthEq
  obtain rfl := pure_ok.mp pureEq
  obtain ⟨nfvDict', nfvEq', backEq⟩ := bind_ok.mp backEq
  rw [nfvEq] at nfvEq'
  cases nfvEq'
  obtain ⟨cps', cpsEq', backEq⟩ := bind_ok.mp backEq
  rw [cpsEq] at cpsEq'
  cases cpsEq'
  obtain ⟨back, backMade, pureEq⟩ := bind_ok.mp backEq
  obtain rfl := pure_ok.mp pureEq
  have forthNew := default_newCps
    (fun name => findCp name (grant.extVirtualLinks ++ req.extVirtualLinks)) forthMade
  have backNew := default_newCps (fun name => findCp name inst.extVirtualLinkInfo) backMade
  have templateEq : templateCps csar inst = .ok cps := bind_ok.mpr ⟨nfvDict, nfvEq, cpsEq⟩
  have inner : ∀ {stored : Value}, stored.isDict = true →
      (((stored.jsonMergePatch forth).jsonMergePatch back).Same stored ↔
        ∀ cps, templateCps csar inst = .ok cps → ∀ name cpValue, cps.get? name = some cpValue →
          asksCp cpValue = true → (defaultFind req inst grant name).isSome = true →
          ∃ old, stored.get? name = some old ∧ old.isDict = true ∧
            Keeps (defaultFind req inst grant name) cpValue old) := by
    intro stored dict
    rw [same_newCps_iff dict forthNew backNew]
    refine ⟨fun all cps' eq' => ?_, fun all => all cps templateEq⟩
    rw [templateEq] at eq'
    cases eq'
    exact all
  have forthNull := Json.isNull_of_isDict forthNew.dict
  have backNull := Json.isNull_of_isDict backNew.dict
  show ((inst.nfv.jsonMergePatch ((.empty : Value).set "CP" forth)).jsonMergePatch
    ((.empty : Value).set "CP" back)).Same inst.nfv ↔ _
  have midDict : (inst.nfv.jsonMergePatch ((.empty : Value).set "CP" forth)).isDict = true := by
    rw [Json.isDict_jsonMergePatch]
    rfl
  have afterDict : ((inst.nfv.jsonMergePatch ((.empty : Value).set "CP" forth)).jsonMergePatch
      ((.empty : Value).set "CP" back)).isDict = true := by
    rw [Json.isDict_jsonMergePatch]
    rfl
  constructor
  · intro same
    have dict : inst.nfv.isDict = true := same.isDict ▸ afterDict
    have rel := (Json.same_iff afterDict dict).mp same "CP"
    rw [Json.get?_jsonMergePatch_single backNull, if_pos rfl, Json.asDict_of_isDict midDict,
      Json.get?_jsonMergePatch_single forthNull, if_pos rfl, Json.asDict_of_isDict dict,
      Option.getD_some] at rel
    obtain ⟨stored, found, storedDict, same⟩ :=
      (rel_some_iff (by rw [Json.isDict_jsonMergePatch, backNew.dict])).mp rel
    rw [found, Option.getD_some] at same
    exact ⟨stored, found, storedDict, (inner storedDict).mp same⟩
  · rintro ⟨stored, found, storedDict, all⟩
    have dict := Json.isDict_of_get? found
    rw [Json.same_iff afterDict dict]
    intro key
    rw [Json.get?_jsonMergePatch_single backNull, Json.asDict_of_isDict midDict,
      Json.get?_jsonMergePatch_single forthNull, Json.get?_jsonMergePatch_single forthNull,
      if_pos rfl, Json.asDict_of_isDict dict]
    by_cases isCp : key = .str "CP"
    · subst isCp
      rw [if_pos rfl, found]
      exact .some ((inner storedDict).mpr all)
    · rw [if_neg isCp, if_neg isCp]
      exact Json.same_rel_refl _

/-! ## Both classes -/

/-- When the rollback of a change of the external connectivity restores the parameters. -/
def Restores (cls : UserDataClass) (csar : Csar) (req : Req) (inst : Inst) (grant : Grant) : Prop :=
  match cls with
  | .default => DefaultRestores csar req inst grant
  | .standard => StandardRestores csar req inst grant

/-- After the change and its rollback the parameters of the stack are the stored ones exactly if the
rollback of the class restores them. -/
theorem conn_rollback_iff (cls : UserDataClass) (csar : Csar) (req : Req) (inst : Inst)
    (grant : Grant) (after : Value) (eq : nfvAfterRollback cls csar req inst grant = .ok after) :
    after.Same inst.nfv ↔ Restores cls csar req inst grant := by
  cases cls with
  | default => exact default_restores_iff eq
  | standard => exact standard_restores_iff eq

/-- A request that connects the connection point of the package to another network. -/
def reconnect : Req where
  extVirtualLinks := [{ resourceId := "net-1", extCps := [{ cpdId := "VDU1_CP1" }] }]

lemma reconnect_returns :
    ∃ after, nfvAfterRollback .standard (fun _ => vdu1Vnfd) reconnect vdu1Inst {} = .ok after ∧
      after.at? ["VDU", "VDU1-0", "locationConstraints"] = none := by
  have returned : ((nfvAfterRollback .standard (fun _ => vdu1Vnfd) reconnect vdu1Inst {}).toOption.map
      fun after => (after.at? ["VDU", "VDU1-0", "locationConstraints"]).isSome) = some false := rfl
  cases eq : nfvAfterRollback .standard (fun _ => vdu1Vnfd) reconnect vdu1Inst {} with
  | error e => simp [eq, Except.toOption] at returned
  | ok after =>
    refine ⟨after, rfl, ?_⟩
    simpa [eq, Except.toOption, Option.isSome_eq_false_iff] using returned

/-- `conn_rollback_iff` for this request. -/
theorem conn_rollback_reconnect :
    ∃ after, nfvAfterRollback .standard (fun _ => vdu1Vnfd) reconnect vdu1Inst {} = .ok after ∧
      (after.Same vdu1Inst.nfv ↔
        Restores .standard (fun _ => vdu1Vnfd) reconnect vdu1Inst {}) := by
  obtain ⟨after, eq, -⟩ := reconnect_returns
  exact ⟨after, eq, conn_rollback_iff .standard _ reconnect vdu1Inst {} after eq⟩

/-- The rollback takes the zone that was never given out of the stored parameters. -/
theorem undefined_zone_lost :
    ∃ after, nfvAfterRollback .standard (fun _ => vdu1Vnfd) reconnect vdu1Inst {} = .ok after ∧
      ¬ after.Same vdu1Inst.nfv := by
  obtain ⟨after, eq, gone⟩ := reconnect_returns
  refine ⟨after, eq, fun same => ?_⟩
  have rel := same.at? ["VDU", "VDU1-0", "locationConstraints"]
  rw [gone] at rel
  have stored : (vdu1Inst.nfv.at? ["VDU", "VDU1-0", "locationConstraints"]).isSome = true := rfl
  cases found : vdu1Inst.nfv.at? ["VDU", "VDU1-0", "locationConstraints"] with
  | none => simp [found] at stored
  | some v =>
    rw [found] at rel
    cases rel

end Tacker.UserData
