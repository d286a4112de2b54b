import Tacker.UserData.CpValues
import Tacker.UserData.LinkEffects

/-!
# The calls that set connection points

The four calls of a user data class whose template reads parameters of connection points. If their
other steps return, they return, and a connection point that is mentioned has the values of its
mention; the parameters of the others stay as they are.
-/

namespace Tacker.UserData

open Tacker.Basis

/-! ## Calls -/

/-- The calls. -/
inductive CpCall where
  | instantiate
  | scaleOut
  | changeExtConn
  | changeVnfpkg
deriving DecidableEq

/-- What a call is given; the flavour is that of an instantiation request. -/
structure CallData where
  csar : Csar
  flavourId : String
  req : Req
  inst : Inst
  grantReq : GrantReq
  grant : Grant

namespace UserDataClass

/-- `instantiate` of the class. -/
def instantiate (cls : UserDataClass) (d : CallData) : Except Raised Fields :=
  match cls with
  | .default => DefaultUserData.instantiate d.csar d.flavourId d.req d.inst d.grantReq d.grant
  | .standard => StandardUserData.instantiate d.csar d.flavourId d.req d.inst d.grantReq d.grant

/-- `change_vnfpkg` of the class. -/
def changeVnfpkg (cls : UserDataClass) (d : CallData) : Except Raised Fields :=
  match cls with
  | .default => nfvField <$> DefaultUserData.changeVnfpkg d.csar d.req d.inst d.grantReq d.grant
  | .standard => StandardUserData.changeVnfpkg d.csar d.req d.inst d.grantReq d.grant

/-- A call of the class. -/
def call (cls : UserDataClass) (d : CallData) : CpCall → Except Raised Fields
  | .instantiate => cls.instantiate d
  | .scaleOut => cls.scaleOut d.csar d.req d.inst d.grantReq d.grant
  | .changeExtConn => cls.changeExtConn d.csar d.req d.inst d.grant
  | .changeVnfpkg => cls.changeVnfpkg d

end UserDataClass

/-! ## The other steps -/

/-- The steps of `instantiate` besides the connection points, and those of the template. -/
def instantiateSteps (cls : UserDataClass) (d : CallData) : Except Raised Value := do
  let vnfd := d.csar d.inst.vnfdId
  match cls with
  | .default => do
    let topHot ← orRaise (vnfd.baseHot d.flavourId) .keyError
    let nfvDict ← initNfvDict topHot
    let nfvDict ← fillAt nfvDict "VDU"
      (DefaultUserData.fillVdu vnfd d.flavourId d.inst d.grantReq d.grant)
    let _ ← applyExtManagedVlsFromReq topHot d.req d.grant
    cpsOf nfvDict
  | .standard => do
    let (added, topHot) ← addedHot vnfd d.flavourId (fun _ => 0) d.grantReq
    let nfvDict ← initNfvDict topHot
    let nfvDict ← fillAt nfvDict "VDU" (fillVdu vnfd d.flavourId d.grant added)
    let _ ← applyExtManagedVlsFromReq topHot d.req d.grant
    cpsOf nfvDict

/-- The steps of a scale-out besides the connection points, and those of the template. -/
def scaleOutSteps (cls : UserDataClass) (d : CallData) : Except Raised Value := do
  let vnfd := d.csar d.inst.vnfdId
  match cls with
  | .default => do
    let nfvDict ← baseNfvDict vnfd d.inst.flavourId
    let vdus ← getOrEmpty nfvDict "VDU"
    let _ ← DefaultUserData.newCapacities
      (fun vduName => getParamCapacity vduName d.inst d.grantReq) vdus
    cpsOf nfvDict
  | .standard => do
    let (added, topHot) ← addedHot vnfd d.inst.flavourId (getCurrentCapacity · d.inst) d.grantReq
    let nfvDict ← initNfvDict topHot
    let nfvDict ← fillAt nfvDict "VDU" fun key v => do
      let filled ← fillVdu vnfd d.inst.flavourId d.grant added key v
      return excludeNone filled
    let _ ← applyExtManagedVlsFromInst topHot d.inst
    cpsOf nfvDict

/-- The steps of `change_ext_conn` besides the connection points, and those of the template. -/
def changeExtConnSteps (cls : UserDataClass) (d : CallData) : Except Raised Value := do
  let vnfd := d.csar d.inst.vnfdId
  match cls with
  | .default => do
    let nfvDict ← baseNfvDict vnfd d.inst.flavourId
    cpsOf nfvDict
  | .standard => do
    let topHot ← instHot vnfd d.inst
    let nfvDict ← initNfvDict topHot
    cpsOf nfvDict

/-- What `change_vnfpkg` of the standard class makes before the new values of the connection points:
the VDUs, the connection points of the template and the stored ones. -/
structure VnfpkgSteps where
  vdus : Value
  cps : Value
  curCps : Value
  topHot : Value

/-- The steps of `change_vnfpkg` of the standard class besides the connection points. -/
def standardVnfpkgSteps (d : CallData) : Except Raised VnfpkgSteps := do
  let vnfd := d.csar d.grantReq.dstVnfdId
  let topHot ← instHot vnfd d.inst
  let targetVnfcResIds :=
    (d.grantReq.removeResources.filter fun res => res.type = "COMPUTE").map (·.resourceId)
  let isTarget := fun instVnfc : VnfcResourceInfo => instVnfc.resourceId ∈ targetVnfcResIds
  let curHot ← StandardUserData.hotOf topHot
    (d.inst.vnfcResourceInfo.filter fun instVnfc => ¬ isTarget instVnfc)
  let newHot ← StandardUserData.hotOf topHot
    (d.inst.vnfcResourceInfo.filter fun instVnfc => isTarget instVnfc)
  let curNfvDict ← initNfvDict curHot
  let newNfvDict ← initNfvDict newHot
  let newVdus ← getOrEmpty newNfvDict "VDU"
  let vdus ← getOrEmpty d.inst.nfv "VDU"
  let newNames ← keysOf newVdus
  let vdus ← newNames.foldlM
    (StandardUserData.changeVdu vnfd d.inst.flavourId d.grant newVdus) vdus
  let curCpsOfHot ← cpsOf curNfvDict
  let newCpsOfHot ← cpsOf newNfvDict
  let cps := newCpsOfHot.keys.foldl
    (fun t k => t.set k ((newCpsOfHot.get? k).getD .null)) curCpsOfHot
  let curCps ← cpsOf d.inst.nfv
  let topHot ← applyExtManagedVlsFromReq topHot d.req d.grant
  return ⟨vdus, cps, curCps, topHot⟩

/-- The steps of `change_vnfpkg` besides the connection points, and those of the template. -/
def changeVnfpkgSteps (cls : UserDataClass) (d : CallData) : Except Raised Value :=
  match cls with
  | .default => do
    let vnfd := d.csar d.grantReq.dstVnfdId
    let nfvDict ← baseNfvDict vnfd d.inst.flavourId
    let vdus ← getOrEmpty nfvDict "VDU"
    let names ← keysOf vdus
    let _ ← Json.buildDict (fun vduName => do
      let vduValue ← item vdus vduName
      DefaultUserData.newVdu vnfd d.inst.flavourId d.grant vduName vduValue) names
    cpsOf nfvDict
  | .standard => VnfpkgSteps.cps <$> standardVnfpkgSteps d

/-- The steps of a call besides the connection points, and those of the template. -/
def otherSteps (cls : UserDataClass) (d : CallData) : CpCall → Except Raised Value
  | .instantiate => instantiateSteps cls d
  | .scaleOut => scaleOutSteps cls d
  | .changeExtConn => changeExtConnSteps cls d
  | .changeVnfpkg => changeVnfpkgSteps cls d

/-! ## Mentions -/

/-- The mention that a call takes the values of a connection point from. A scale-out takes them from
the links that the instance has; that of the default class sets capacities only. -/
def mentionOf (cls : UserDataClass) (d : CallData) (call : CpCall) (name : Key) :
    Option (String × ExtCp) :=
  match cls, call with
  | .default, .scaleOut => none
  | .default, _ => mention d.req d.grant name
  | .standard, .scaleOut => standardFind d.inst.extVirtualLinkInfo name
  | .standard, _ =>
    (standardFind d.grant.extVirtualLinks name).or (standardFind d.req.extVirtualLinks name)

lemma getParamNetwork_mention {name : Key} {req : Req} {grant : Grant} :
    getParamNetwork name grant req = (mention req grant name).map Prod.fst := by
  rw [getParamNetwork, findCp_append]
  rfl

lemma getParamFixedIps_mention {name : Key} {req : Req} {grant : Grant} :
    getParamFixedIps name grant req = addresses (mention req grant name) := by
  rw [getParamFixedIps, findCp_append]
  rfl

lemma standardFind_append {vls vls' : List ExtVl} {name : Key} :
    standardFind (vls ++ vls') name = (standardFind vls name).or (standardFind vls' name) := by
  cases name with
  | str nameIdx => exact findCp_append
  | _ => rfl

/-! ## What a call needs and makes -/

/-- The call lays its parameters over the stored ones. -/
def CpCall.patches : CpCall → Bool
  | .instantiate | .scaleOut => false
  | .changeExtConn | .changeVnfpkg => true

/-- The template reads the parameters of the connection point one by one, and what it reads can be
made: the fixed IPs of a connection point that is not mentioned are asked for with its network, in a
call that only changes parameters, and the standard class finds its stored parameters. -/
structure CpReady (cls : UserDataClass) (d : CallData) (call : CpCall) (name : Key)
    (asked : Value) : Prop where
  named : cls = .standard → ∃ nameIdx, name = .str nameIdx
  dict : asked.isDict = true
  fixedIps : FixedIpsReady (mentionOf cls d call name) asked
  unmentioned : mentionOf cls d call name = none → (asked.get? "fixed_ips").isSome = true →
    call.patches = true ∧ (asked.get? "network").isSome = true
  stored : cls = .standard → call = .changeVnfpkg →
    mentionOf cls d call name = none ∨ asksCp asked = false → d.inst.nfv.PresentAt ["CP", name]

/-- All connection points of the template are ready; a scale-out of the default class does not read
them. -/
def CpsReady (cls : UserDataClass) (d : CallData) (call : CpCall) (cps : Value) : Prop :=
  cls = .default ∧ call = .scaleOut ∨ cps.isDict = true ∧
    ∀ name asked, cps.get? name = some asked → CpReady cls d call name asked

/-- The parameters with what the additional parameters of the request and the grant lay over them;
the default class does that at the instantiation only. -/
def withAdditionalParams (cls : UserDataClass) (d : CallData) (call : CpCall) (nfv : Value) : Value :=
  match cls, call with
  | .default, .scaleOut | .default, .changeExtConn | .default, .changeVnfpkg => nfv
  | .default, .instantiate | .standard, _ => mergeAdditionalParams nfv d.req d.grant

/-- What a call makes of the connection points of the template. -/
structure CpsSet (cls : UserDataClass) (d : CallData) (call : CpCall) (cps : Value)
    (fields : Fields) (nfv : Value) : Prop where
  laid : fields.nfv = some (withAdditionalParams cls d call nfv)
  /-- A connection point that is mentioned gets the values of its mention. -/
  mentioned : ∀ name asked f, cps.get? name = some asked → asksCp asked = true →
    mentionOf cls d call name = some f → CpGiven f asked ((nfv.at? ["CP", name]).getD .empty)
  /-- The parameters of one that is not mentioned stay. -/
  unmentioned : ∀ name asked, cps.get? name = some asked → mentionOf cls d call name = none →
    call ≠ .instantiate → ∀ current, (fields.full = true → current = d.inst.nfv) →
      ∀ param, IsCpParam param → (updatePart fields.full current (some nfv)).at?
        ["CP", name, param] = current.at? ["CP", name, param]
  /-- At the instantiation it has no network. -/
  without : ∀ name asked, cps.get? name = some asked → mentionOf cls d call name = none →
    call = .instantiate → nfv.at? ["CP", name, "network"] =
      (asked.get? "network").map fun _ => .null

/-! ## Dictionaries that are filled -/

variable {cls : UserDataClass} {d : CallData} {call : CpCall} {cps : Value}

/-- The loop over the connection points returns if it does for each of them. -/
lemma fillAt_cps {nfvDict : Value} {fill : Key → Value → Except Raised Value}
    (cpsEq : cpsOf nfvDict = .ok cps) (dict : cps.isDict = true)
    (each : ∀ name asked, cps.get? name = some asked → ∃ v, fill name asked = .ok v) :
    ∃ nfv, fillAt nfvDict "CP" fill = .ok nfv ∧ nfv.isDict = true ∧
      (∀ cps', nfv.get? "CP" = some cps' → cps'.isDict = true) ∧
      ∀ name asked, cps.get? name = some asked →
        ∃ v, fill name asked = .ok v ∧ nfv.at? ["CP", name] = some v := by
  obtain ⟨filled, made⟩ := Json.mapValuesM_total each
  have eq : fillAt nfvDict "CP" fill =
      .ok (if (nfvDict.get? "CP").isSome then nfvDict.set "CP" filled else nfvDict) := by
    apply bind_ok.mpr
    refine ⟨cps, cpsEq, ?_⟩
    apply bind_ok.mpr
    refine ⟨cps.keys, keysOf_ok.mpr ⟨dict, rfl⟩, ?_⟩
    exact bind_ok.mpr ⟨filled, made, rfl⟩
  obtain ⟨-, nfvDict', each', -⟩ := fillAt_ok eq
  obtain ⟨-, cpsIs⟩ := getOrEmpty_ok.mp cpsEq
  refine ⟨_, eq, nfvDict', ?_⟩
  cases old : nfvDict.get? "CP" with
  | none =>
    constructor
    · intro cps' got
      rw [Option.isSome_none, if_neg Bool.false_ne_true, old] at got
      cases got
    · intro name asked got
      rw [cpsIs, old] at got
      cases got
  | some cps₀ =>
    rw [old, Option.getD_some] at cpsIs
    obtain ⟨cps', got', dict', all⟩ := each' cps₀ old
    rw [old] at got'
    constructor
    · intro cps'' got
      rw [got'] at got
      cases got
      exact dict'
    · intro name asked got
      obtain ⟨v, filledV, there⟩ := all name asked (by rw [← cpsIs]; exact got)
      refine ⟨v, filledV, ?_⟩
      rw [Json.at?_cons, got', Option.bind_some, Json.at?_cons, there, Option.bind_some,
        Json.at?_nil]

lemma at?_param {nfv : Value} {name param : Key} :
    nfv.at? ["CP", name, param] = (nfv.at? ["CP", name]).bind fun v => v.get? param := by
  have split : nfv.at? ([Key.str "CP", name] ++ [param]) = _ := Json.at?_append
  simpa only [List.cons_append, List.nil_append, Json.at?_cons, Json.at?_nil,
    Option.bind_fun_some] using split

/-- A connection point that is ready can be filled in. -/
lemma CpReady.filled {name : Key} {asked : Value} (ready : CpReady cls d call name asked)
    (fills : call.patches = false) :
    ∃ v, fillCpValue ((mentionOf cls d call name).map Prod.fst)
        (addresses (mentionOf cls d call name)) asked = .ok v ∧ v.isDict = true ∧
      (∀ f, mentionOf cls d call name = some f → CpGiven f asked v) ∧
      (mentionOf cls d call name = none →
        v.get? "network" = ((asked.get? "network").map fun _ => .null) ∧
        v.get? "fixed_ips" = none) := by
  apply fillCpValue_filled ready.dict ready.fixedIps
  intro none
  cases asks : asked.get? "fixed_ips" with
  | none => rfl
  | some ips =>
    have patches := (ready.unmentioned none (by rw [asks]; rfl)).1
    rw [fills] at patches
    cases patches

/-- The default class fills in the values of the mention. -/
lemma default_fill {name : Key} {asked : Value} :
    fillCpValue (getParamNetwork name d.grant d.req) (getParamFixedIps name d.grant d.req) asked =
      fillCpValue ((mentionOf .default d .instantiate name).map Prod.fst)
        (addresses (mentionOf .default d .instantiate name)) asked := by
  rw [getParamNetwork_mention, getParamFixedIps_mention]
  rfl

/-- The standard class does under the name without its index. -/
lemma standard_fill {nameIdx : String} {asked : Value} :
    fillCp (fun cp => getParamNetwork (.str cp) d.grant d.req)
        (fun cp => getParamFixedIps (.str cp) d.grant d.req) (.str nameIdx) asked =
      fillCpValue ((mentionOf .standard d .instantiate (.str nameIdx)).map Prod.fst)
        (addresses (mentionOf .standard d .instantiate (.str nameIdx))) asked := by
  rw [fillCp_str, getParamNetwork_mention, getParamFixedIps_mention]
  rfl

/-! ## The instantiation -/

/-- The values that an instantiation fills in. -/
lemma set_of_filled {nfv : Value} {fields : Fields} {fill : Key → Value → Except Raised Value}
    (ready : CpsReady cls d .instantiate cps)
    (fills : ∀ name asked, cps.get? name = some asked → fill name asked =
      fillCpValue ((mentionOf cls d .instantiate name).map Prod.fst)
        (addresses (mentionOf cls d .instantiate name)) asked)
    (laid : fields.nfv = some (withAdditionalParams cls d .instantiate nfv))
    (filled : ∀ name asked, cps.get? name = some asked →
      ∃ v, fill name asked = .ok v ∧ nfv.at? ["CP", name] = some v) :
    CpsSet cls d .instantiate cps fields nfv := by
  obtain ⟨-, wrong⟩ | ⟨-, ready⟩ := ready
  · cases wrong
  constructor
  · exact laid
  · intro name asked f got _ mentioned
    obtain ⟨v, made, there⟩ := filled name asked got
    obtain ⟨v', made', -, given, -⟩ := (ready name asked got).filled rfl
    rw [fills name asked got, made'] at made
    cases made
    rw [there]
    exact given f mentioned
  · intro name asked _ _ other
    exact absurd rfl other
  · intro name asked got unmentioned _
    obtain ⟨v, made, there⟩ := filled name asked got
    obtain ⟨v', made', -, -, without⟩ := (ready name asked got).filled rfl
    rw [fills name asked got, made'] at made
    cases made
    rw [← (without unmentioned).1]
    rw [at?_param, there, Option.bind_some]

/-- An instantiation returns, with the values of the mentions. -/
lemma instantiate_set (others : instantiateSteps cls d = .ok cps)
    (ready : CpsReady cls d .instantiate cps) :
    ∃ fields nfv, cls.instantiate d = .ok fields ∧ CpsSet cls d .instantiate cps fields nfv := by
  have ready' := ready
  obtain ⟨-, wrong⟩ | ⟨dict, each⟩ := ready'
  · cases wrong
  cases cls with
  | default =>
    obtain ⟨topHot, hotEq, others⟩ := bind_ok.mp others
    obtain ⟨nfvDict, nfvEq, others⟩ := bind_ok.mp others
    obtain ⟨vdus, vdusEq, others⟩ := bind_ok.mp others
    obtain ⟨topHot', linksEq, cpsEq⟩ := bind_ok.mp others
    have fills (name : Key) (asked : Value) (got : cps.get? name = some asked) :
        ∃ v, fillCpValue (getParamNetwork name d.grant d.req)
          (getParamFixedIps name d.grant d.req) asked = .ok v := by
      obtain ⟨v, made, -⟩ := (each name asked got).filled rfl
      exact ⟨v, default_fill.trans made⟩
    obtain ⟨nfv, eq, -, -, filled⟩ := fillAt_cps cpsEq dict fills
    refine ⟨{ template := some topHot', nfv := some (mergeAdditionalParams nfv d.req d.grant) },
      nfv, ?_, set_of_filled ready (fun _ _ _ => default_fill) rfl filled⟩
    apply bind_ok.mpr
    refine ⟨topHot, hotEq, bind_ok.mpr ⟨nfvDict, nfvEq, bind_ok.mpr ⟨vdus, vdusEq, ?_⟩⟩⟩
    exact bind_ok.mpr ⟨nfv, eq, bind_ok.mpr ⟨topHot', linksEq, rfl⟩⟩
  | standard =>
    obtain ⟨⟨added, topHot⟩, addedEq, others⟩ := bind_ok.mp others
    obtain ⟨nfvDict, nfvEq, others⟩ := bind_ok.mp others
    obtain ⟨vdus, vdusEq, others⟩ := bind_ok.mp others
    obtain ⟨topHot', linksEq, cpsEq⟩ := bind_ok.mp others
    have same (name : Key) (asked : Value) (got : cps.get? name = some asked) :
        fillCp (fun cp => getParamNetwork (.str cp) d.grant d.req)
            (fun cp => getParamFixedIps (.str cp) d.grant d.req) name asked =
          fillCpValue ((mentionOf .standard d .instantiate name).map Prod.fst)
            (addresses (mentionOf .standard d .instantiate name)) asked := by
      obtain ⟨nameIdx, rfl⟩ := (each name asked got).named rfl
      exact standard_fill
    have fills (name : Key) (asked : Value) (got : cps.get? name = some asked) :
        ∃ v, fillCp (fun cp => getParamNetwork (.str cp) d.grant d.req)
          (fun cp => getParamFixedIps (.str cp) d.grant d.req) name asked = .ok v := by
      obtain ⟨v, made, -⟩ := (each name asked got).filled rfl
      exact ⟨v, (same name asked got).trans made⟩
    obtain ⟨nfv, eq, -, -, filled⟩ := fillAt_cps cpsEq dict fills
    refine ⟨{ template := some topHot', nfv := some (mergeAdditionalParams nfv d.req d.grant) },
      nfv, ?_, set_of_filled ready same rfl filled⟩
    apply bind_ok.mpr
    refine ⟨_, addedEq, bind_ok.mpr ⟨nfvDict, nfvEq, bind_ok.mpr ⟨vdus, vdusEq, ?_⟩⟩⟩
    exact bind_ok.mpr ⟨nfv, eq, bind_ok.mpr ⟨topHot', linksEq, rfl⟩⟩

/-! ## A scale-out -/

/-- A patch that is silent about a parameter leaves it. -/
lemma stays_of_silent {nfv current : Value} {fields : Fields} {name param : Key}
    (patch : fields.full = false) (silent : nfv.word ["CP", name, param] = .silent) :
    (updatePart fields.full current (some nfv)).at? ["CP", name, param] =
      current.at? ["CP", name, param] := by
  rw [patch]
  exact Json.at?_jsonMergePatch_silent silent

/-- The values that a scale-out of the standard class fills in: those that the recorded links have,
without those that are not there. -/
def scaleOutFill (d : CallData) (name : Key) (asked : Value) : Except Raised Value := do
  let filled ← fillCp (fun cp => getParamNetworkFromInst (.str cp) d.inst)
    (fun cp => getParamFixedIpsFromInst (.str cp) d.inst) name asked
  return excludeNone filled

/-- What is left of the values of a connection point. -/
lemma CpReady.scaledOut {name : Key} {asked : Value}
    (ready : CpReady .standard d .scaleOut name asked) :
    ∃ v, scaleOutFill d name asked = .ok v ∧ v.isDict = true ∧
      (∀ f, mentionOf .standard d .scaleOut name = some f → CpGiven f asked v) ∧
      (mentionOf .standard d .scaleOut name = none →
        ∀ param, IsCpParam param → v.get? param = none) := by
  obtain ⟨nameIdx, rfl⟩ := ready.named rfl
  obtain ⟨v, made, dict, given, without⟩ := ready.filled rfl
  obtain ⟨dict', kept⟩ := get?_excludeNone dict
  refine ⟨excludeNone v, ?_, dict', ?_, ?_⟩
  · exact bind_ok.mpr ⟨v, made, rfl⟩
  · intro f mentioned
    have cpGiven := given f mentioned
    constructor
    · rw [kept, cpGiven.network]
      cases asked.get? "network" <;> rfl
    · intro ips asks
      obtain ⟨filled, there, filledIps⟩ := cpGiven.fixedIps ips asks
      refine ⟨filled, ?_, filledIps⟩
      rw [kept, there]
      rfl
    · intro none
      rw [kept, cpGiven.noFixedIps none]
      rfl
  · intro unmentioned param isParam
    obtain ⟨network, fixedIps⟩ := without unmentioned
    rcases isParam with rfl | rfl
    · rw [kept, network]
      cases asked.get? "network" <;> rfl
    · rw [kept, fixedIps]
      rfl

/-- A dictionary without the parameter is silent about it. -/
lemma silent_of_filled {nfv v : Value} {name param : Key} (dict : nfv.isDict = true)
    (cpsDict : ∀ cps', nfv.get? "CP" = some cps' → cps'.isDict = true)
    (there : nfv.at? ["CP", name] = some v) (vDict : v.isDict = true)
    (absent : v.get? param = none) : nfv.word ["CP", name, param] = .silent := by
  rw [Json.at?_cons] at there
  obtain ⟨cps', got, there⟩ := Option.bind_eq_some_iff.mp there
  rw [Json.at?_cons] at there
  obtain ⟨v', got', there⟩ := Option.bind_eq_some_iff.mp there
  rw [Json.at?_nil] at there
  cases there
  have cpsDict' := cpsDict cps' got
  simp [Json.word_cons dict, got, Json.isNull_of_isDict cpsDict', Json.word_cons cpsDict', got',
    Json.isNull_of_isDict vDict, Json.word_cons vDict, absent]

/-- A scale-out returns, with the values of the recorded links. -/
lemma scaleOut_set (others : scaleOutSteps cls d = .ok cps)
    (ready : CpsReady cls d .scaleOut cps) :
    ∃ fields nfv, cls.scaleOut d.csar d.req d.inst d.grantReq d.grant = .ok fields ∧
      CpsSet cls d .scaleOut cps fields nfv := by
  cases cls with
  | default =>
    obtain ⟨nfvDict, nfvEq, others⟩ := bind_ok.mp others
    obtain ⟨vdus, vdusEq, others⟩ := bind_ok.mp others
    obtain ⟨newVdus, newEq, -⟩ := bind_ok.mp others
    refine ⟨nfvField ((.empty : Value).set "VDU" newVdus), (.empty : Value).set "VDU" newVdus, ?_,
      ⟨rfl, ?_, ?_, ?_⟩⟩
    · show nfvField <$> DefaultUserData.scale d.csar d.inst d.grantReq = _
      have scaled : DefaultUserData.scale d.csar d.inst d.grantReq =
          .ok ((.empty : Value).set "VDU" newVdus) := by
        apply bind_ok.mpr
        exact ⟨nfvDict, nfvEq, bind_ok.mpr ⟨vdus, vdusEq, bind_ok.mpr ⟨newVdus, newEq, rfl⟩⟩⟩
      rw [scaled]
      rfl
    · intro name asked f _ _ mentioned
      cases mentioned
    · intro name asked _ _ _ current _ param _
      apply stays_of_silent rfl
      rw [Json.word_cons rfl, Json.get?_single, if_neg (by simp)]
    · intro name asked _ _ wrong
      cases wrong
  | standard =>
    obtain ⟨wrong, -⟩ | ⟨dict, each⟩ := ready
    · cases wrong
    obtain ⟨⟨added, topHot⟩, addedEq, others⟩ := bind_ok.mp others
    obtain ⟨nfvDict, nfvEq, others⟩ := bind_ok.mp others
    obtain ⟨vdus, vdusEq, others⟩ := bind_ok.mp others
    obtain ⟨topHot', linksEq, cpsEq⟩ := bind_ok.mp others
    have fills (name : Key) (asked : Value) (got : cps.get? name = some asked) :
        ∃ v, scaleOutFill d name asked = .ok v := by
      obtain ⟨v, made, -⟩ := (each name asked got).scaledOut
      exact ⟨v, made⟩
    obtain ⟨nfv, eq, nfvDict', cpsDict, filled⟩ := fillAt_cps cpsEq dict fills
    refine ⟨{ template := some topHot', nfv := some (mergeAdditionalParams nfv d.req d.grant) },
      nfv, ?_, ⟨rfl, ?_, ?_, ?_⟩⟩
    · apply bind_ok.mpr
      refine ⟨_, addedEq, bind_ok.mpr ⟨nfvDict, nfvEq, bind_ok.mpr ⟨vdus, vdusEq, ?_⟩⟩⟩
      exact bind_ok.mpr ⟨nfv, eq, bind_ok.mpr ⟨topHot', linksEq, rfl⟩⟩
    · intro name asked f got _ mentioned
      obtain ⟨v, made, there⟩ := filled name asked got
      obtain ⟨v', made', -, given, -⟩ := (each name asked got).scaledOut
      rw [made'] at made
      cases made
      rw [there]
      exact given f mentioned
    · intro name asked got unmentioned _ current _ param isParam
      obtain ⟨v, made, there⟩ := filled name asked got
      obtain ⟨v', made', vDict, -, without⟩ := (each name asked got).scaledOut
      rw [made'] at made
      cases made
      apply stays_of_silent rfl
      exact silent_of_filled nfvDict' cpsDict there vDict (without unmentioned param isParam)
    · intro name asked _ _ wrong
      cases wrong

/-! ## Changes -/

/-- New values can be made for a connection point that is ready. -/
lemma CpReady.changed {name : Key} {asked : Value} (ready : CpReady cls d call name asked) :
    ∃ made, newCp ((mentionOf cls d call name).map Prod.fst)
      (addresses (mentionOf cls d call name)) asked = .ok made := by
  apply newCp_given ready.dict ready.fixedIps
  intro none asks
  exact (ready.unmentioned none asks).2

/-- `_get_new_cps_from_req` of the class. -/
def newCpsOf (cls : UserDataClass) (d : CallData) (cps : Value) : Except Raised Value :=
  match cls with
  | .default => DefaultUserData.getNewCpsFromReq cps d.req d.grant
  | .standard => StandardUserData.getNewCpsFromReq cps d.req d.grant

/-- The loop over the connection points returns if it does for each of them. -/
lemma buildDict_keysOf_total {make : Key → Except Raised (Option Value)} (dict : cps.isDict = true)
    (each : ∀ name asked, cps.get? name = some asked → ∃ made, make name = .ok made) :
    ∃ newCps, (do let names ← keysOf cps; Json.buildDict make names) = .ok newCps := by
  have total : ∃ newCps, Json.buildDict make cps.keys = .ok newCps := by
    apply Json.buildDict_total
    intro name mem
    obtain ⟨asked, got⟩ := Option.isSome_iff_exists.mp (Json.mem_keys_iff.mp mem)
    exact each name asked got
  obtain ⟨newCps, made⟩ := total
  exact ⟨newCps, bind_ok.mpr ⟨cps.keys, keysOf_ok.mpr ⟨dict, rfl⟩, made⟩⟩

/-- The loop returns the new values of the mentions. -/
lemma newCpsOf_made (patches : call.patches = true) (dict : cps.isDict = true)
    (each : ∀ name asked, cps.get? name = some asked → CpReady cls d call name asked) :
    ∃ newCps, newCpsOf cls d cps = .ok newCps ∧ NewCps (mentionOf cls d call) cps newCps := by
  cases cls with
  | default =>
    have mentioned : mentionOf .default d call = mention d.req d.grant := by
      cases call with
      | changeExtConn => rfl
      | changeVnfpkg => rfl
      | instantiate => cases patches
      | scaleOut => cases patches
    rw [mentioned]
    have same : newCpsOf .default d cps = DefaultUserData.getNewCps
        (fun name => (mention d.req d.grant name).map Prod.fst)
        (fun name => addresses (mention d.req d.grant name)) cps := by
      show DefaultUserData.getNewCps _ _ _ = _
      simp only [getParamNetwork_mention, getParamFixedIps_mention]
    have returns : ∃ newCps, newCpsOf .default d cps = .ok newCps := by
      rw [same]
      apply buildDict_keysOf_total dict
      intro name asked got
      obtain ⟨new, newEq⟩ := (each name asked got).changed
      rw [mentioned] at newEq
      exact ⟨new, bind_ok.mpr ⟨asked, item_ok.mpr got, newEq⟩⟩
    obtain ⟨newCps, eq⟩ := returns
    exact ⟨newCps, eq, default_newCps _ (same.symm.trans eq)⟩
  | standard =>
    have mentioned : mentionOf .standard d call =
        standardFind (d.grant.extVirtualLinks ++ d.req.extVirtualLinks) := by
      funext name
      rw [standardFind_append]
      cases call with
      | changeExtConn => rfl
      | changeVnfpkg => rfl
      | instantiate => cases patches
      | scaleOut => cases patches
    rw [mentioned]
    have returns : ∃ newCps, newCpsOf .standard d cps = .ok newCps := by
      apply buildDict_keysOf_total dict
      intro name asked got
      have ready := each name asked got
      obtain ⟨nameIdx, rfl⟩ := ready.named rfl
      obtain ⟨new, newEq⟩ := ready.changed
      rw [mentioned] at newEq
      refine ⟨new, bind_ok.mpr ⟨rmIdx nameIdx, rfl, bind_ok.mpr ⟨asked, item_ok.mpr got, ?_⟩⟩⟩
      exact newEq
    obtain ⟨newCps, eq⟩ := returns
    exact ⟨newCps, eq, standard_newCps eq⟩

/-- A connection point that is mentioned and asks for values has those of the mention. -/
lemma NewCps.mentioned {find : Key → Option (String × ExtCp)} {newCps asked : Value} {name : Key}
    {f : String × ExtCp} (new : NewCps find cps newCps) (got : cps.get? name = some asked)
    (asks : asksCp asked = true) (found : find name = some f)
    (ready : FixedIpsReady (some f) asked) :
    ∃ v, newCps.get? name = some v ∧ CpGiven f asked v := by
  have isSome := (new.some_iff name).mpr ⟨asked, got, asks, by rw [found]; rfl⟩
  obtain ⟨v, there⟩ := Option.isSome_iff_exists.mp isSome
  obtain ⟨asked', got', newCp⟩ := new.new name v there
  rw [got] at got'
  cases got'
  rw [found] at newCp
  exact ⟨v, there, newCp.given ready⟩

/-- One that is not mentioned is left out. -/
lemma NewCps.unmentioned {find : Key → Option (String × ExtCp)} {newCps : Value} {name : Key}
    (new : NewCps find cps newCps) (absent : find name = none) : newCps.get? name = none := by
  cases there : newCps.get? name with
  | none => rfl
  | some v =>
    obtain ⟨-, -, -, isSome⟩ := (new.some_iff name).mp (by rw [there]; rfl)
    rw [absent] at isSome
    cases isSome

/-- The patch of a change has the new connection points. -/
lemma set_of_new {nfv newCps : Value} {fields : Fields} (patches : call.patches = true)
    (each : ∀ name asked, cps.get? name = some asked → CpReady cls d call name asked)
    (new : NewCps (mentionOf cls d call) cps newCps) (dict : nfv.isDict = true)
    (there : nfv.get? "CP" = some newCps) (patch : fields.full = false)
    (laid : fields.nfv = some (withAdditionalParams cls d call nfv)) :
    CpsSet cls d call cps fields nfv := by
  constructor
  · exact laid
  · intro name asked f got asks found
    have ready := (each name asked got).fixedIps
    rw [found] at ready
    obtain ⟨v, there', given⟩ := new.mentioned got asks found ready
    have at' : nfv.at? ["CP", name] = some v := by
      rw [Json.at?_cons, there, Option.bind_some, Json.at?_cons, there', Option.bind_some,
        Json.at?_nil]
    rw [at']
    exact given
  · intro name asked _ absent _ current _ param _
    apply stays_of_silent patch
    simp [Json.word_cons dict, there, Json.isNull_of_isDict new.dict, Json.word_cons new.dict,
      new.unmentioned absent]
  · rintro name asked - - rfl
    cases patches

/-- A change of the external connectivity returns, with the values of the mentions. -/
lemma changeExtConn_set (others : changeExtConnSteps cls d = .ok cps)
    (ready : CpsReady cls d .changeExtConn cps) :
    ∃ fields nfv, cls.changeExtConn d.csar d.req d.inst d.grant = .ok fields ∧
      CpsSet cls d .changeExtConn cps fields nfv := by
  obtain ⟨-, wrong⟩ | ⟨dict, each⟩ := ready
  · cases wrong
  obtain ⟨newCps, made, new⟩ := newCpsOf_made rfl dict each
  cases cls with
  | default =>
    obtain ⟨nfvDict, nfvEq, cpsEq⟩ := bind_ok.mp others
    have eq : DefaultUserData.changeExtConn d.csar d.req d.inst d.grant =
        .ok ((.empty : Value).set "CP" newCps) := by
      apply bind_ok.mpr
      exact ⟨nfvDict, nfvEq, bind_ok.mpr ⟨cps, cpsEq, bind_ok.mpr ⟨newCps, made, rfl⟩⟩⟩
    refine ⟨nfvField ((.empty : Value).set "CP" newCps), (.empty : Value).set "CP" newCps, ?_, ?_⟩
    · show nfvField <$> DefaultUserData.changeExtConn d.csar d.req d.inst d.grant = _
      rw [eq]
      rfl
    · apply set_of_new rfl each new rfl (by rw [Json.get?_single, if_pos rfl]) rfl rfl
  | standard =>
    obtain ⟨topHot, hotEq, others⟩ := bind_ok.mp others
    obtain ⟨nfvDict, nfvEq, cpsEq⟩ := bind_ok.mp others
    refine ⟨{ nfv := some (mergeAdditionalParams ((.empty : Value).set "CP" newCps) d.req d.grant) },
      (.empty : Value).set "CP" newCps, ?_, ?_⟩
    · apply bind_ok.mpr
      refine ⟨topHot, hotEq, bind_ok.mpr ⟨nfvDict, nfvEq, bind_ok.mpr ⟨cps, cpsEq, ?_⟩⟩⟩
      exact bind_ok.mpr ⟨newCps, made, rfl⟩
    · apply set_of_new rfl each new rfl (by rw [Json.get?_single, if_pos rfl]) rfl rfl

/-- A change of the package of the default class returns, with the values of the mentions. -/
lemma default_changeVnfpkg_set (others : changeVnfpkgSteps .default d = .ok cps)
    (dict : cps.isDict = true)
    (each : ∀ name asked, cps.get? name = some asked → CpReady .default d .changeVnfpkg name asked) :
    ∃ fields nfv, UserDataClass.default.changeVnfpkg d = .ok fields ∧
      CpsSet .default d .changeVnfpkg cps fields nfv := by
  obtain ⟨newCps, made, new⟩ := newCpsOf_made rfl dict each
  obtain ⟨nfvDict, nfvEq, others⟩ := bind_ok.mp others
  obtain ⟨vdus, vdusEq, others⟩ := bind_ok.mp others
  obtain ⟨names, namesEq, others⟩ := bind_ok.mp others
  obtain ⟨newVdus, newEq, cpsEq⟩ := bind_ok.mp others
  have eq : DefaultUserData.changeVnfpkg d.csar d.req d.inst d.grantReq d.grant =
      .ok ((Json.empty.set (.str "VDU") newVdus).set (.str "CP") newCps) := by
    apply bind_ok.mpr
    refine ⟨nfvDict, nfvEq, bind_ok.mpr ⟨vdus, vdusEq, bind_ok.mpr ⟨names, namesEq, ?_⟩⟩⟩
    apply bind_ok.mpr
    exact ⟨newVdus, newEq, bind_ok.mpr ⟨cps, cpsEq, bind_ok.mpr ⟨newCps, made, rfl⟩⟩⟩
  refine ⟨nfvField ((Json.empty.set (.str "VDU") newVdus).set (.str "CP") newCps),
    (Json.empty.set (.str "VDU") newVdus).set (.str "CP") newCps, ?_, ?_⟩
  · show nfvField <$> DefaultUserData.changeVnfpkg d.csar d.req d.inst d.grantReq d.grant = _
    rw [eq]
    rfl
  · apply set_of_new rfl each new rfl _ rfl rfl
    rw [Json.get?_set rfl, if_pos rfl]

/-- What the standard class has for a connection point in `change_vnfpkg`: the new values, or else
the stored ones. -/
lemma changeCp_made {reqCps curCps asked : Value} {name : Key}
    (ready : CpReady .standard d .changeVnfpkg name asked)
    (new : NewCps (mentionOf .standard d .changeVnfpkg) cps reqCps)
    (got : cps.get? name = some asked) (curEq : cpsOf d.inst.nfv = .ok curCps) :
    ∃ v, StandardUserData.changeCp reqCps curCps name = .ok (some v) ∧
      (∀ f, mentionOf .standard d .changeVnfpkg name = some f → asksCp asked = true →
        CpGiven f asked v) ∧
      (mentionOf .standard d .changeVnfpkg name = none →
        d.inst.nfv.at? ["CP", name] = some v) := by
  have stored (absent : reqCps.get? name = none) (present : d.inst.nfv.PresentAt ["CP", name]) :
      ∃ v, StandardUserData.changeCp reqCps curCps name = .ok (some v) ∧
        d.inst.nfv.at? ["CP", name] = some v := by
    obtain ⟨v, there⟩ := present
    refine ⟨v, ?_, there⟩
    obtain ⟨-, rfl⟩ := getOrEmpty_ok.mp curEq
    rw [Json.at?_cons] at there
    obtain ⟨cur, gotCur, there⟩ := Option.bind_eq_some_iff.mp there
    rw [Json.at?_cons] at there
    obtain ⟨v', gotV, there⟩ := Option.bind_eq_some_iff.mp there
    rw [Json.at?_nil] at there
    cases there
    rw [StandardUserData.changeCp, absent, gotCur, Option.getD_some]
    show some <$> item cur name = _
    rw [item_ok.mpr gotV]
    rfl
  cases found : mentionOf .standard d .changeVnfpkg name with
  | none =>
    obtain ⟨v, made, there⟩ := stored (new.unmentioned found) (ready.stored rfl rfl (.inl found))
    refine ⟨v, made, ?_, fun _ => there⟩
    intro f wrong
    cases wrong
  | some f =>
    cases asks : asksCp asked with
    | true =>
      have fixedIps := ready.fixedIps
      rw [found] at fixedIps
      obtain ⟨v, there, given⟩ := new.mentioned got asks found fixedIps
      refine ⟨v, ?_, ?_, ?_⟩
      · rw [StandardUserData.changeCp, there]
      · rintro _ ⟨⟩ -
        exact given
      · intro wrong
        cases wrong
    | false =>
      have absent : reqCps.get? name = none := by
        cases there : reqCps.get? name with
        | none => rfl
        | some v =>
          obtain ⟨asked', got', asks', -⟩ := (new.some_iff name).mp (by rw [there]; rfl)
          rw [got] at got'
          cases got'
          rw [asks] at asks'
          cases asks'
      obtain ⟨v, made, -⟩ := stored absent (ready.stored rfl rfl (.inr asks))
      refine ⟨v, made, ?_, ?_⟩
      · intro _ _ wrong
        cases wrong
      · intro wrong
        cases wrong

/-- `change_vnfpkg` of the standard class returns what its steps make. -/
lemma standard_changeVnfpkg_steps {steps : VnfpkgSteps} (eq : standardVnfpkgSteps d = .ok steps) :
    cpsOf d.inst.nfv = .ok steps.curCps ∧ ∀ reqCps cps',
      StandardUserData.getNewCpsFromReq steps.cps d.req d.grant = .ok reqCps →
      Json.buildDict (StandardUserData.changeCp reqCps steps.curCps) steps.cps.keys = .ok cps' →
      StandardUserData.changeVnfpkg d.csar d.req d.inst d.grantReq d.grant =
        .ok { template := some steps.topHot
              nfv := some (mergeAdditionalParams
                ((Json.empty.set (.str "VDU") steps.vdus).set (.str "CP") cps') d.req d.grant)
              full := true } := by
  obtain ⟨topHot, hotEq, eq⟩ := bind_ok.mp eq
  obtain ⟨curHot, curHotEq, eq⟩ := bind_ok.mp eq
  obtain ⟨newHot, newHotEq, eq⟩ := bind_ok.mp eq
  obtain ⟨curNfvDict, curNfvEq, eq⟩ := bind_ok.mp eq
  obtain ⟨newNfvDict, newNfvEq, eq⟩ := bind_ok.mp eq
  obtain ⟨newVdus, newVdusEq, eq⟩ := bind_ok.mp eq
  obtain ⟨vdus, vdusEq, eq⟩ := bind_ok.mp eq
  obtain ⟨newNames, newNamesEq, eq⟩ := bind_ok.mp eq
  obtain ⟨vdus', vdusEq', eq⟩ := bind_ok.mp eq
  obtain ⟨curCpsOfHot, curCpsEq, eq⟩ := bind_ok.mp eq
  obtain ⟨newCpsOfHot, newCpsEq, eq⟩ := bind_ok.mp eq
  obtain ⟨curCps, curEq, eq⟩ := bind_ok.mp eq
  obtain ⟨topHot', linksEq, eq⟩ := bind_ok.mp eq
  obtain rfl := pure_ok.mp eq
  refine ⟨curEq, fun reqCps cps' newEq built => ?_⟩
  apply bind_ok.mpr
  refine ⟨topHot, hotEq, bind_ok.mpr ⟨curHot, curHotEq, bind_ok.mpr ⟨newHot, newHotEq, ?_⟩⟩⟩
  apply bind_ok.mpr
  refine ⟨curNfvDict, curNfvEq, bind_ok.mpr ⟨newNfvDict, newNfvEq, ?_⟩⟩
  apply bind_ok.mpr
  refine ⟨newVdus, newVdusEq, bind_ok.mpr ⟨vdus, vdusEq, bind_ok.mpr ⟨newNames, newNamesEq, ?_⟩⟩⟩
  apply bind_ok.mpr
  refine ⟨vdus', vdusEq', bind_ok.mpr ⟨curCpsOfHot, curCpsEq, ?_⟩⟩
  apply bind_ok.mpr
  refine ⟨newCpsOfHot, newCpsEq, bind_ok.mpr ⟨curCps, curEq, bind_ok.mpr ⟨reqCps, newEq, ?_⟩⟩⟩
  apply bind_ok.mpr
  exact ⟨cps', built, bind_ok.mpr ⟨topHot', linksEq, rfl⟩⟩

/-- A change of the package of the standard class returns, with the values of the mentions and the
stored ones of the others. -/
lemma standard_changeVnfpkg_set (others : changeVnfpkgSteps .standard d = .ok cps)
    (dict : cps.isDict = true)
    (each : ∀ name asked, cps.get? name = some asked →
      CpReady .standard d .changeVnfpkg name asked) :
    ∃ fields nfv, UserDataClass.standard.changeVnfpkg d = .ok fields ∧
      CpsSet .standard d .changeVnfpkg cps fields nfv := by
  obtain ⟨reqCps, newEq, new⟩ := newCpsOf_made rfl dict each
  obtain ⟨steps, stepsEq, rfl⟩ := map_ok.mp others
  obtain ⟨curEq, returns⟩ := standard_changeVnfpkg_steps stepsEq
  have total : ∃ cps', Json.buildDict (StandardUserData.changeCp reqCps steps.curCps)
      steps.cps.keys = .ok cps' := by
    apply Json.buildDict_total
    intro name mem
    obtain ⟨asked, got⟩ := Option.isSome_iff_exists.mp (Json.mem_keys_iff.mp mem)
    obtain ⟨v, made, -⟩ := changeCp_made (each name asked got) new got curEq
    exact ⟨some v, made⟩
  obtain ⟨cps', built⟩ := total
  obtain ⟨-, all, -⟩ := Json.buildDict_ok built
  have there (name : Key) (asked : Value) (got : steps.cps.get? name = some asked) :
      ∃ v, ((Json.empty.set (.str "VDU") steps.vdus).set (.str "CP") cps').at? ["CP", name] =
          some v ∧
        StandardUserData.changeCp reqCps steps.curCps name = .ok (some v) := by
    obtain ⟨v, made, -⟩ := changeCp_made (each name asked got) new got curEq
    have made' := all name (Json.mem_keys_iff.mpr (by rw [got]; rfl))
    rw [made] at made'
    refine ⟨v, ?_, made⟩
    rw [Json.at?_cons, Json.get?_set rfl, if_pos rfl, Option.bind_some, Json.at?_cons,
      ← Except.ok.inj made', Option.bind_some, Json.at?_nil]
  refine ⟨_, (Json.empty.set (.str "VDU") steps.vdus).set (.str "CP") cps',
    returns reqCps cps' newEq built, ?_⟩
  constructor
  · rfl
  · intro name asked f got asks found
    obtain ⟨v, at', made⟩ := there name asked got
    obtain ⟨v', made', given, -⟩ := changeCp_made (each name asked got) new got curEq
    rw [made] at made'
    cases made'
    rw [at']
    exact given f found asks
  · intro name asked got found _ current same param _
    obtain ⟨v, at', made⟩ := there name asked got
    obtain ⟨v', made', -, stored⟩ := changeCp_made (each name asked got) new got curEq
    rw [made] at made'
    cases made'
    have storedParam : d.inst.nfv.at? ["CP", name, param] = v.get? param := by
      rw [at?_param, stored found, Option.bind_some]
    rw [same rfl, storedParam]
    show ((Json.empty.set (.str "VDU") steps.vdus).set (.str "CP") cps').at? ["CP", name, param] = _
    rw [at?_param, at', Option.bind_some]
  · intro name asked _ _ wrong
    cases wrong

/-- A change of the package returns. -/
lemma changeVnfpkg_set (others : changeVnfpkgSteps cls d = .ok cps)
    (ready : CpsReady cls d .changeVnfpkg cps) :
    ∃ fields nfv, cls.changeVnfpkg d = .ok fields ∧ CpsSet cls d .changeVnfpkg cps fields nfv := by
  obtain ⟨-, wrong⟩ | ⟨dict, each⟩ := ready
  · cases wrong
  cases cls with
  | default => exact default_changeVnfpkg_set others dict each
  | standard => exact standard_changeVnfpkg_set others dict each

/-! ## All calls -/

/-- A call for the instance of the package with one VDU that adds a VNFC; the grant mentions the
connection point on another network than the instance has it on. -/
def regrantCall : CallData where
  csar _ := vdu1Vnfd
  flavourId := "simple"
  req := {}
  inst := vdu1Inst
  grantReq := { addResources := [⟨"def-1", "COMPUTE", "VDU1", ""⟩] }
  grant := { extVirtualLinks := [{ resourceId := "net-1", extCps := [{ cpdId := "VDU1_CP1" }] }] }

/-- The connection points of the template of the instance. -/
def regrantCps : Value :=
  (otherSteps .standard regrantCall .changeExtConn).toOption.getD .null

lemma regrant_steps : otherSteps .standard regrantCall .changeExtConn = .ok regrantCps := by
  have returned : (otherSteps .standard regrantCall .changeExtConn).toOption.isSome = true := rfl
  rw [regrantCps]
  cases eq : otherSteps .standard regrantCall .changeExtConn with
  | error e =>
    rw [eq] at returned
    cases returned
  | ok cps => rfl

/-- The template has one connection point, and asks for its network only. -/
lemma regrant_ready : CpsReady .standard regrantCall .changeExtConn regrantCps := by
  refine .inr ⟨rfl, fun name asked got => ?_⟩
  have mem : name ∈ regrantCps.keys := by
    rw [Json.mem_keys_iff, got]
    rfl
  have keys : regrantCps.keys = [Key.str "VDU1_CP1-0"] := rfl
  rw [keys, List.mem_singleton] at mem
  subst mem
  have asks : (regrantCps.get? "VDU1_CP1-0").map (fun asked =>
      (asked.isDict, (asked.get? "fixed_ips").isSome)) = some (true, false) := rfl
  rw [got] at asks
  simp only [Option.map_some, Option.some.injEq, Prod.mk.injEq, Option.isSome_eq_false_iff,
    Option.isNone_iff_eq_none] at asks
  obtain ⟨dict, noFixedIps⟩ := asks
  constructor
  · exact fun _ => ⟨_, rfl⟩
  · exact dict
  · rintro f found
    refine ⟨?_, ?_⟩
    · cases found
      intro ip mem
      cases mem
    · intro ips asksIps
      rw [noFixedIps] at asksIps
      cases asksIps
  · intro _ asksIps
    rw [noFixedIps] at asksIps
    cases asksIps
  · intro _ wrong
    cases wrong

end Tacker.UserData
