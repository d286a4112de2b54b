import Tacker.Kubernetes.Renewed
import Tacker.Kubernetes.ReplicaRun
import Tacker.Vnfc.Infos

/-!
# The configurable properties of VNFCs that stay

The drivers make `vnfcInfo` anew with every operation. The OpenStack driver takes over the entry of
the same server, since configurable properties may be set in it; the Kubernetes driver takes over
nothing. An operation should leave the properties and the VDU of each VNFC that has its identifier
before and after.
-/

namespace Tacker.Vnfc

open Tacker.Basis

variable {P : Type}

/-- A VNFC that is there before and after has the same properties and the same VDU. -/
def Kept (old new : List (VnfcInfo P)) : Prop :=
  ∀ info ∈ old, ∀ info' ∈ new, info'.id = info.id →
    info'.vnfcConfigurableProperties = info.vnfcConfigurableProperties ∧ info'.vduId = info.vduId

/-! ## Operations -/

/-- `vnfcInfo` as `_update_vnfc_info` makes it of the VNFCs that it found. -/
def vnfcInfosOf (vnfcs : List Kubernetes.VnfcResourceInfo) : List (VnfcInfo P) :=
  vnfcs.map fun vnfc =>
    { id := vnfc.vduId ++ "-" ++ vnfc.id, vduId := vnfc.vduId, vnfcResourceInfoId := vnfc.id }

/-- A completed operation: the stack and the mapping when OpenStack ends a scale, a heal, a change of
the external connectivity or of the package, or an operation of Kubernetes on the record. -/
inductive Operation where
  | openstack (mapping : Option Mapping) (flavour : Flavour) (heatReses : List HeatRes)
  | kubernetes (vnfdId : String) (info : Kubernetes.InstInfo) (e : Kubernetes.Event)
      (rebuilds : e.op.rebuilds = true)

/-- `vnfcInfo` after the operation, if it completes. -/
def Operation.vnfcInfo (old : List (VnfcInfo P)) : Operation → Option (List (VnfcInfo P))
  | .openstack mapping flavour heatReses =>
    (sortedVnfcResInfos flavour heatReses).toOption.map (makeVnfcInfos mapping old)
  | .kubernetes vnfdId info e _ =>
    (Kubernetes.State.stored ⟨vnfdId, some info⟩ e).toOption.bind fun s =>
      s.info.map fun info => vnfcInfosOf info.vnfcResourceInfo

/-! ## The condition -/

/-- What the entry of a server had before: its properties and its VDU, which for a new one are none
and that of the server. -/
def formerly (old : List (VnfcInfo P)) (vnfc : VnfcResourceInfo) : Option P × String :=
  match old.find? fun info => info.vnfcResourceInfoId = vnfc.id with
  | some info => (info.vnfcConfigurableProperties, info.vduId)
  | none => (none, vnfc.vduId)

/-- OpenStack: a server that gets the identifier of a VNFC had the same properties and the same VDU as
this one, as the VNFC's own server does. Kubernetes: no VNFC with properties is found again, and what
is found is of the same VDU. -/
def Operation.Spares (old : List (VnfcInfo P)) : Operation → Prop
  | .openstack mapping flavour heatReses =>
    ∀ vnfcs, sortedVnfcResInfos flavour heatReses = .ok vnfcs →
      ∀ vnfc ∈ vnfcs, ∀ info ∈ old, makeVnfcInfoId mapping vnfc = info.id →
        formerly old vnfc = (info.vnfcConfigurableProperties, info.vduId)
  | .kubernetes _ info e _ =>
    ∀ podName ∈ e.pods, ∀ res ∈ e.op.named info,
      Kubernetes.isMatchPodNaming res.2.1 res.2.2 podName = true →
        ∀ vnfcInfo ∈ old, res.1 ++ "-" ++ podName = vnfcInfo.id →
          vnfcInfo.vnfcConfigurableProperties = none ∧ res.1 = vnfcInfo.vduId

variable {old new : List (VnfcInfo P)} {mapping : Option Mapping} {vnfcs : List VnfcResourceInfo}
  {vnfc : VnfcResourceInfo} {info : VnfcInfo P}

/-! ## OpenStack -/

lemma makeVnfcInfo_formerly (mapping : Option Mapping) :
    ((makeVnfcInfo mapping old vnfc).vnfcConfigurableProperties,
      (makeVnfcInfo mapping old vnfc).vduId) = formerly old vnfc := by
  unfold makeVnfcInfo formerly
  cases old.find? fun info => info.vnfcResourceInfoId = vnfc.id with
  | none => rfl
  | some info => rfl

lemma kept_makeVnfcInfos : Kept old (makeVnfcInfos mapping old vnfcs) ↔
    ∀ vnfc ∈ vnfcs, ∀ info ∈ old, makeVnfcInfoId mapping vnfc = info.id →
      formerly old vnfc = (info.vnfcConfigurableProperties, info.vduId) := by
  constructor
  · intro kept vnfc there info mem same
    obtain ⟨props, vdu⟩ := kept info mem (makeVnfcInfo mapping old vnfc)
      (List.mem_map.mpr ⟨vnfc, there, rfl⟩) (id_makeVnfcInfo.trans same)
    rw [← makeVnfcInfo_formerly mapping, props, vdu]
  · intro spares info mem info' mem' same
    obtain ⟨vnfc, there, rfl⟩ := List.mem_map.mp mem'
    have eq := spares vnfc there info mem (id_makeVnfcInfo.symm.trans same)
    rw [← makeVnfcInfo_formerly mapping] at eq
    exact Prod.mk.inj eq

/-! ## Kubernetes -/

lemma kept_vnfcInfosOf {pods : List String} {named : List (String × Kubernetes.Kind × String)} :
    Kept old (vnfcInfosOf (Kubernetes.matchedVnfcs pods named)) ↔
      ∀ podName ∈ pods, ∀ res ∈ named,
        Kubernetes.isMatchPodNaming res.2.1 res.2.2 podName = true →
          ∀ vnfcInfo ∈ old, res.1 ++ "-" ++ podName = vnfcInfo.id →
            vnfcInfo.vnfcConfigurableProperties = none ∧ res.1 = vnfcInfo.vduId := by
  constructor
  · intro kept podName running res mem isMatch info isOld same
    have found : (⟨podName, res.1, res.2.1⟩ : Kubernetes.VnfcResourceInfo) ∈
        Kubernetes.matchedVnfcs pods named :=
      Kubernetes.mem_matchedVnfcs.mpr ⟨podName, running, res, mem, isMatch, rfl⟩
    obtain ⟨props, vdu⟩ := kept info isOld _ (List.mem_map.mpr ⟨_, found, rfl⟩) same
    exact ⟨props.symm, vdu⟩
  · intro spares info isOld info' mem same
    obtain ⟨vnfc, found, rfl⟩ := List.mem_map.mp mem
    obtain ⟨podName, running, res, isRes, isMatch, rfl⟩ := Kubernetes.mem_matchedVnfcs.mp found
    obtain ⟨props, vdu⟩ := spares podName running res isRes isMatch info isOld same
    exact ⟨props.symm, vdu⟩

/-! ## Main results -/

/-- The VNFCs of an instance with two VDUs; those of the first have the properties. -/
def twoVnfcInfos (props : Option String) : List (VnfcInfo String) :=
  [ { id := "VDU1-vdu1-5f9c-x2k7q", vduId := "VDU1", vnfcResourceInfoId := "vdu1-5f9c-x2k7q"
      vnfcConfigurableProperties := props },
    { id := "VDU2-vdu2-6c8d-a3b4c", vduId := "VDU2", vnfcResourceInfoId := "vdu2-6c8d-a3b4c" },
    { id := "VDU2-vdu2-6c8d-z9y8x", vduId := "VDU2", vnfcResourceInfoId := "vdu2-6c8d-z9y8x" } ]

/-- A second VNFC is added to the first VDU. -/
def scaleOutFirst : Operation :=
  .kubernetes "vnfd" Kubernetes.twoInfo Kubernetes.scaleOutOne rfl

/-- The VNFCs afterwards. -/
def threeVnfcInfos : List (VnfcInfo String) :=
  { id := "VDU1-vdu1-5f9c-x2k7q", vduId := "VDU1", vnfcResourceInfoId := "vdu1-5f9c-x2k7q" } ::
    { id := "VDU1-vdu1-5f9c-p0q1r", vduId := "VDU1", vnfcResourceInfoId := "vdu1-5f9c-p0q1r" } ::
      (twoVnfcInfos none).tail

lemma scaleOutFirst_vnfcInfo (props : Option String) :
    scaleOutFirst.vnfcInfo (twoVnfcInfos props) = some threeVnfcInfos := rfl

end Tacker.Vnfc
