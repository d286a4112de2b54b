import Tacker.Kubernetes.Replicas

/-!
# Replicas over a run

Every operation that meets what is asked of it leaves the recorded replicas equal to the numbers of
VNFCs, so that the next one works with the numbers of VNFCs that there are.
-/

namespace Tacker.Kubernetes

open Tacker.Basis Tacker.Objects

/-! ## Steps -/

lemma synced_storing {s s' : State} {vnfdId : String} {change : InstInfo → Except Fault InstInfo}
    (eq : storing s vnfdId change = .ok s')
    (keep : ∀ info next, s.info = some info → change info = .ok next → Synced next) :
    s'.Synced := by
  unfold storing at eq
  cases recorded : s.info with
  | none =>
    rw [recorded] at eq
    cases eq
  | some info =>
    rw [recorded] at eq
    obtain ⟨next, changed, eq⟩ := bind_ok.mp eq
    obtain rfl := pure_ok.mp eq
    intro info' isNext
    cases isNext
    exact keep info next recorded changed

lemma nodup_scaled {resDefs : List ResourceDef} {f : String × Int → Int} :
    (((getVdusNum resDefs).map fun vdu => (vdu.1, f vdu)).map Prod.fst).Nodup := by
  rw [List.map_map]
  exact keys_nodup resDefs

/-- A scaling, with the level of its aspect. -/
lemma synced_scale {cluster : Cluster} {vdusNum : List (String × Int)} {aspectId : String}
    {numSteps : Int} {info next : InstInfo} (unique : (vdusNum.map Prod.fst).Nodup)
    (eq : (do
      let next ← scaleK8sResource cluster vdusNum info
      adjustLevel aspectId numSteps next) = .ok next)
    (meets : WriteMeets cluster Kind.scalable vdusNum info) (synced : Synced info) :
    Synced next := by
  obtain ⟨scaled, scaledEq, eq⟩ := bind_ok.mp eq
  apply synced_adjustLevel eq
  exact synced_scaleK8sResource unique scaledEq meets synced

lemma synced_stored {s s' : State} {e : Event} (meets : Meets (s, e)) (eq : s.stored e = .ok s')
    (synced : s.Synced) : s'.Synced := by
  obtain ⟨op, cluster⟩ := e
  cases op with
  | instantiate flavourId scaleStatus maxScaleLevels addResources manifests =>
    obtain ⟨info, made, eq⟩ := bind_ok.mp eq
    obtain rfl := pure_ok.mp eq
    intro info' isNext
    cases isNext
    exact synced_instantiate made meets
  | scaleOut aspectId numSteps addResources =>
    apply synced_storing eq
    intro info next recorded scaled
    exact synced_scale nodup_scaled scaled (meets info recorded) (synced info recorded)
  | scaleIn aspectId numSteps removeResources =>
    apply synced_storing eq
    intro info next recorded scaled
    exact synced_scale nodup_scaled scaled (meets info recorded) (synced info recorded)
  | scaleRollback addResources =>
    obtain rfl := Except.ok.inj eq
    exact synced
  | heal removeResources =>
    apply synced_storing eq
    intro info next recorded healed
    exact synced_heal healed (meets info recorded) (synced info recorded)
  | changeVnfpkg vnfdId addResources manifests =>
    apply synced_storing eq
    intro info next recorded changed
    have asked := meets info recorded
    apply synced_rollingUpdate changed asked.written
    intro vdu num res found other replicas
    obtain ⟨isNum, runs⟩ := asked.others vdu res num found other replicas
    rw [isNum, runs]
  | changeVnfpkgRollback addResources currentPods =>
    apply synced_storing eq
    intro info next recorded changed
    have asked := meets info recorded
    apply synced_rollingUpdate changed
    · intro vdu num res isAsked found
      exact asked.written vdu num res isAsked found rfl
    · intro vdu num res found other replicas
      exact asked.kept (synced info recorded) found (Or.inl other) replicas
  | syncDb report =>
    apply synced_storing eq
    intro info next recorded changed
    obtain ⟨stored, storedEq, isNext⟩ := bind_ok.mp changed
    obtain rfl := pure_ok.mp isNext
    apply synced_syncDb storedEq
    intro pods listed
    exact meets info pods recorded listed

lemma synced_step {s s' : State} {e : Event} (meets : Meets (s, e)) (st : OpStep s e s')
    (synced : s.Synced) : s'.Synced := by
  cases st with
  | inl eq => exact synced_stored meets eq synced
  | inr failed =>
    rw [failed.2]
    exact synced

/-! ## The next operation -/

lemma lookup_map {vdu : String} {num : Int} {vdusNum : List (String × Int)}
    {f : String × Int → Int}
    (found : lookup vdu (vdusNum.map fun item => (item.1, f item)) = some num) :
    ∃ n, lookup vdu vdusNum = some n ∧ num = f (vdu, n) := by
  induction vdusNum with
  | nil => cases found
  | cons item vdusNum ih =>
    rw [List.map_cons, lookup_cons] at found
    rw [lookup_cons]
    by_cases here : item.1 = vdu
    · rw [if_pos here] at found
      rw [if_pos here]
      refine ⟨item.2, rfl, ?_⟩
      rw [← here]
      exact (Option.some.inj found).symm
    · rw [if_neg here] at found
      rw [if_neg here]
      exact ih found

/-- A scaling asks for the recorded number of replicas changed by that of the grant request, and a
change of the package applies the manifests of the VDUs of the grant request only. -/
structure FromRecorded (info : InstInfo) (resDefs : List ResourceDef) : Prop where
  scaleOut : ∀ vdu num n, lookup vdu (scaleOutNums info resDefs) = some num →
    info.vduReses.replicas vdu = some n → num = n + (computeVdus resDefs).count vdu
  scaleIn : ∀ vdu num n, lookup vdu (scaleInNums info resDefs) = some num →
    info.vduReses.replicas vdu = some n → num = n - (computeVdus resDefs).count vdu
  changeVnfpkg : ∀ vduReses, ∀ item ∈ patched resDefs vduReses, item.1 ∈ computeVdus resDefs

lemma fromRecorded {info : InstInfo} (synced : Synced info) (resDefs : List ResourceDef) :
    FromRecorded info resDefs where
  scaleOut vdu num n found recorded := by
    obtain ⟨n', isNum, rfl⟩ := lookup_map found
    rw [synced vdu n recorded, (lookup_getVdusNum resDefs isNum).2]
  scaleIn vdu num n found recorded := by
    obtain ⟨n', isNum, rfl⟩ := lookup_map found
    rw [synced vdu n recorded, (lookup_getVdusNum resDefs isNum).2]
  changeVnfpkg vduReses item mem := by
    obtain ⟨vdu, isVdu, patch⟩ := List.mem_filterMap.mp mem
    obtain ⟨res, -, rfl⟩ := Option.map_eq_some_iff.mp patch
    have key : vdu.1 ∈ (getVdusNum resDefs).map Prod.fst := List.mem_map_of_mem isVdu
    cases found : lookup vdu.1 (getVdusNum resDefs) with
    | none => exact absurd key (lookup_eq_none.mp found)
    | some num => exact (lookup_getVdusNum resDefs found).1

/-! ## Runs -/

/-- In every run whose steps meet what is asked of them the recorded replicas are the numbers of the
VNFCs. -/
theorem replicas_recorded (vnfdId : String) {tr : List (State × Event)} {s : State}
    (run : Run OpStep ⟨vnfdId, none⟩ tr s) (meets : Guarded Meets tr) :
    s.Synced ∧ ∀ info, s.info = some info → ∀ resDefs, FromRecorded info resDefs := by
  have synced : s.Synced := by
    apply run.invariant (fun asked st synced => synced_step asked st synced) meets
    intro info recorded
    cases recorded
  exact ⟨synced, fun info recorded resDefs => fromRecorded (synced info recorded) resDefs⟩

/-- Manifests of two deployments, each with one replica. -/
def twoVdus : Manifests where
  k8sReses := [⟨.deployment, "vdu1", some 1⟩, ⟨.deployment, "vdu2", some 1⟩]
  vduIds name := if name = "vdu1" then some "VDU1" else if name = "vdu2" then some "VDU2" else none

/-- A grant request for VNFCs. -/
def computes (vdus : List String) : List ResourceDef :=
  vdus.map fun vdu => { type := "COMPUTE", resourceTemplateId := vdu, resourceId := vdu }

/-- A cluster that does what it is told: `VDU1` is waited for, with some pods. -/
def obeying (waited others : List String) : Cluster where
  accepts := true
  ready := true
  existing := []
  waited _ := waited.map fun name => { name := name }
  status _ := ⟨waited.length, waited.length, true⟩
  allPods := waited ++ others

/-- An instantiation with one VNFC of `VDU1` and two of `VDU2`. -/
def instantiateTwo : Event where
  op := .instantiate "simple" (some [⟨"vdu1_aspect", 0⟩]) none (computes ["VDU1", "VDU2", "VDU2"])
    twoVdus
  cluster := obeying ["vdu1-5f9c-x2k7q"] ["vdu2-6c8d-a3b4c", "vdu2-6c8d-z9y8x"]

/-- A scale-out of `VDU1` after it. -/
def scaleOutOne : Event where
  op := .scaleOut "vdu1_aspect" 1 (computes ["VDU1"])
  cluster := obeying ["vdu1-5f9c-x2k7q", "vdu1-5f9c-p0q1r"] ["vdu2-6c8d-a3b4c", "vdu2-6c8d-z9y8x"]

/-- A change of the package of `VDU1` after the instantiation. -/
def changeOne : Event where
  op := .changeVnfpkg "vnfd2" (computes ["VDU1"]) twoVdus
  cluster := obeying ["vdu1-7e0a-m4n5b"] ["vdu2-6c8d-a3b4c", "vdu2-6c8d-z9y8x"]

/-- What is recorded by the instantiation. -/
def twoInfo : InstInfo where
  flavourId := "simple"
  scaleStatus := some [⟨"vdu1_aspect", 0⟩]
  maxScaleLevels := none
  vduReses :=
    { items := [("VDU1", ⟨.deployment, "vdu1", some 1⟩), ("VDU2", ⟨.deployment, "vdu2", some 2⟩)]
      unique := by decide }
  vnfcResourceInfo := [⟨"vdu1-5f9c-x2k7q", "VDU1", .deployment⟩,
    ⟨"vdu2-6c8d-a3b4c", "VDU2", .deployment⟩, ⟨"vdu2-6c8d-z9y8x", "VDU2", .deployment⟩]

lemma instantiateTwo_step : OpStep ⟨"vnfd", none⟩ instantiateTwo ⟨"vnfd", some twoInfo⟩ :=
  Or.inl rfl

/-- `replicas_recorded` for a scale-out after the instantiation of two VDUs. -/
theorem replicas_recorded_two : ∃ s info, Run OpStep ⟨"vnfd", none⟩
      [(⟨"vnfd", none⟩, instantiateTwo), (⟨"vnfd", some twoInfo⟩, scaleOutOne)] s ∧
    s.info = some info ∧ Synced info ∧ getCurrentVduNum info "VDU1" = 2 := by
  have scaled : OpStep ⟨"vnfd", some twoInfo⟩ scaleOutOne _ := Or.inl rfl
  have run := (Run.single instantiateTwo_step).trans (Run.single scaled)
  refine ⟨_, _, run, rfl, ?_, rfl⟩
  have meets : Guarded Meets
      [(⟨"vnfd", none⟩, instantiateTwo), (⟨"vnfd", some twoInfo⟩, scaleOutOne)] := by
    intro step mem
    rcases List.mem_cons.mp mem with rfl | mem
    · intro vdu res num found replicas
      have item := VduReses.mem_of_get? found
      rcases List.mem_cons.mp item with same | item
      · cases same
        exact (Option.some.inj replicas).symm
      · cases List.mem_singleton.mp item
        exact (Option.some.inj replicas).symm
    · obtain rfl := List.mem_singleton.mp mem
      intro info recorded
      cases recorded
      constructor
      · intro vdu num res asked found _
        have item := VduReses.mem_of_get? found
        rcases List.mem_cons.mp item with same | item
        · cases same
          cases asked
          exact ⟨rfl, rfl⟩
        · cases List.mem_singleton.mp item
          cases asked
      · intro vdu res found other
        have item := VduReses.mem_of_get? found
        rcases List.mem_cons.mp item with same | item
        · cases same
          cases other with
          | inl none => cases none
          | inr none => cases none
        · cases List.mem_singleton.mp item
          rfl
  exact (replicas_recorded "vnfd" run meets).1 _ rfl

/-- A change of the package of one VDU records the replicas of the package for the other one, which
has two VNFCs. -/
theorem other_vdu_reset : ∃ s info, Run OpStep ⟨"vnfd", none⟩
      [(⟨"vnfd", none⟩, instantiateTwo), (⟨"vnfd", some twoInfo⟩, changeOne)] s ∧
    s.info = some info ∧ info.vduReses.replicas "VDU2" = some 1 ∧
    getCurrentVduNum info "VDU2" = 2 ∧ ¬ s.Synced := by
  have changed : OpStep ⟨"vnfd", some twoInfo⟩ changeOne _ := Or.inl rfl
  have run := (Run.single instantiateTwo_step).trans (Run.single changed)
  refine ⟨_, _, run, rfl, rfl, rfl, fun synced => ?_⟩
  have two : (1 : Int) = 2 := synced _ rfl "VDU2" 1 rfl
  cases two

end Tacker.Kubernetes
