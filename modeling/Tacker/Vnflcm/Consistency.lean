import Mathlib.Algebra.Ring.Nat
import Mathlib.Data.List.Induction
import Mathlib.Data.List.Perm.Basic
import Mathlib.Data.List.SplitLengths
import Tacker.Vnflcm.LinkPorts

/-!
# References within an instantiated VNF

An external link port refers to an external connection point, which refers to a connection point of a
VNFC, and this and a link port refer to each other. Each kind of reference is right under a condition
of its own on the VNFD and the request.
-/

namespace Tacker.Vnflcm

open Tacker.Basis

variable {vnfd : Vnfd} {req : InstantiateVnfRequest} {n : Nat}

/-! ## What the references should be -/

/-- The configuration of an external connection point uses a link port. -/
def VnfExtCpData.Uses (extCp : VnfExtCpData) (portId : String) : Prop :=
  ∃ config ∈ extCp.cpConfig, config.linkPortId = some portId

/-- The external connection points that are recorded, link by link. -/
def extCpsByLink (req : InstantiateVnfRequest) (info : InstantiatedVnfInfo) :
    List (List VnfExtCpInfo) :=
  (req.extVirtualLinks.map fun link => link.extCps.length).splitLengths info.extCpInfo

/-- The link ports of a link refer to those of its external connection points that use them. -/
def PortsAgree (link : ExtVirtualLinkData) (extCps : List VnfExtCpInfo) (ports : List ExtLinkPortInfo) :
    Prop :=
  ∀ port ∈ ports, ∀ id, port.cpInstanceId = some id ↔
    ∃ pair ∈ link.extCps.zip extCps, pair.2.id = id ∧ pair.1.Uses port.id

/-- An external connection point names a connection point of a VNFC with its descriptor, unless there
is none. -/
def NamesVnfcCp (cps : List VnfcCpInfo) (extCp : VnfExtCpInfo) : Prop :=
  match extCp.associatedVnfcCpId with
  | some id => ∃ cp ∈ cps, cp.id = id ∧ cp.cpdId = extCp.cpdId
  | none => ∀ cp ∈ cps, cp.cpdId ≠ extCp.cpdId

/-- All link ports of the VNFCs, with the copies in the managed links. -/
def InstantiatedVnfInfo.linkPorts (info : InstantiatedVnfInfo) : List VnfLinkPortInfo :=
  linkPortsOf info.vnfVirtualLinkResourceInfo ++
    info.extManagedVirtualLinkInfo.flatMap ExtManagedVirtualLinkInfo.vnfLinkPorts

/-- The references are right wherever there is something to refer to. -/
structure Consistent (req : InstantiateVnfRequest) (info : InstantiatedVnfInfo) : Prop where
  extLinkPorts : ∀ t ∈ req.extVirtualLinks.zip ((extCpsByLink req info).zip info.extVirtualLinkInfo),
    PortsAgree t.1 t.2.1 t.2.2.extLinkPorts
  extCps : ∀ extCp ∈ info.extCpInfo, NamesVnfcCp (cpsOf info.vnfcResourceInfo) extCp
  inverse : Inverse (cpsOf info.vnfcResourceInfo) info.linkPorts

/-- No external connection point and no external link port is left without a reference. -/
structure Complete (info : InstantiatedVnfInfo) : Prop where
  extLinkPorts : ∀ link ∈ info.extVirtualLinkInfo, ∀ port ∈ link.extLinkPorts, port.cpInstanceId ≠ none
  extCps : ∀ extCp ∈ info.extCpInfo, extCp.associatedVnfcCpId ≠ none

/-! ## VNFCs -/

/-- The names of the connection points of all VNFCs. -/
def Vnfd.instantiatedCps (vnfd : Vnfd) : List String :=
  (vnfd.getComputeNodes.flatMap fun resource => List.replicate resource.count resource).flatMap
    VduResource.cps

/-- What an external connection point sets is not what it is known by. -/
lemma setVnfExpCpIdProtocolData_fields (extCps : List VnfExtCpData) (info : VnfcCpInfo) :
    (extCps.foldl setVnfExpCpIdProtocolData info).id = info.id ∧
      (extCps.foldl setVnfExpCpIdProtocolData info).cpdId = info.cpdId ∧
      (extCps.foldl setVnfExpCpIdProtocolData info).vnfLinkPortId = info.vnfLinkPortId := by
  induction extCps generalizing info with
  | nil => exact ⟨rfl, rfl, rfl⟩
  | cons extCp extCps ih =>
    have one : (setVnfExpCpIdProtocolData info extCp).id = info.id ∧
        (setVnfExpCpIdProtocolData info extCp).cpdId = info.cpdId ∧
        (setVnfExpCpIdProtocolData info extCp).vnfLinkPortId = info.vnfLinkPortId := by
      unfold setVnfExpCpIdProtocolData
      by_cases isCp : extCp.cpdId = info.cpdId
      · rw [if_pos isCp]
        exact ⟨rfl, rfl, rfl⟩
      · rw [if_neg isCp]
        exact ⟨rfl, rfl, rfl⟩
    obtain ⟨id, cpdId, link⟩ := ih (setVnfExpCpIdProtocolData info extCp)
    exact ⟨id.trans one.1, cpdId.trans one.2.1, link.trans one.2.2⟩

lemma cpsOf_cpdIds (vnfd : Vnfd) (req : InstantiateVnfRequest) (n : Nat) :
    (cpsOf (getVnfcResourceInfo vnfd req n).1).map VnfcCpInfo.cpdId =
      vnfd.instantiatedCps := by
  have cps (cp : String) (n : Nat) : (buildVnfCpInfo req cp n).1.cpdId = id cp :=
    (setVnfExpCpIdProtocolData_fields _ _).2.1
  have vnfc (resource : VduResource) (n : Nat) :
      (buildVnfcResourceInfo req resource n).1.vnfcCpInfo.map VnfcCpInfo.cpdId = resource.cps :=
    (Supply.traverse_map VnfcCpInfo.cpdId id cps _ _).trans (List.map_id _)
  have vnfcs := Supply.traverse_map
    (fun vnfc : VnfcResourceInfo => vnfc.vnfcCpInfo.map VnfcCpInfo.cpdId) VduResource.cps vnfc
    (vnfd.getComputeNodes.flatMap fun resource => List.replicate resource.count resource) n
  show ((Supply.traverse _ _ _).1.flatMap _).map _ = _
  rw [List.map_flatMap, List.flatMap_def, vnfcs]
  rfl

lemma cpsOf_unlinked : ∀ cp ∈ cpsOf (getVnfcResourceInfo vnfd req n).1, cp.vnfLinkPortId = none := by
  have cps (cp : String) (n : Nat) : (buildVnfCpInfo req cp n).1.vnfLinkPortId = none :=
    (setVnfExpCpIdProtocolData_fields _ _).2.2
  have vnfc (resource : VduResource) (n : Nat) :
      (buildVnfcResourceInfo req resource n).1.vnfcCpInfo.map VnfcCpInfo.vnfLinkPortId =
        resource.cps.map fun _ => none :=
    Supply.traverse_map VnfcCpInfo.vnfLinkPortId (fun _ => none) cps _ _
  have vnfcs := Supply.traverse_map
    (fun vnfc : VnfcResourceInfo => vnfc.vnfcCpInfo.map VnfcCpInfo.vnfLinkPortId)
    (fun resource : VduResource => resource.cps.map fun _ => none) vnfc
    (vnfd.getComputeNodes.flatMap fun resource => List.replicate resource.count resource) n
  intro cp mem
  obtain ⟨vnfc, inVnfcs, inCps⟩ := List.mem_flatMap.mp mem
  have row := List.mem_map_of_mem
    (f := fun vnfc : VnfcResourceInfo => vnfc.vnfcCpInfo.map VnfcCpInfo.vnfLinkPortId) inVnfcs
  obtain ⟨resource, -, eq⟩ := List.mem_map.mp (vnfcs ▸ row)
  have isNone : cp.vnfLinkPortId ∈ resource.cps.map fun _ => none :=
    eq ▸ List.mem_map_of_mem inCps
  obtain ⟨-, -, eq⟩ := List.mem_map.mp isNone
  exact eq.symm

/-- The VNFCs and their connection points have identifiers of their own. -/
lemma vnfcs_fresh : Fresh ((getVnfcResourceInfo vnfd req n).1.flatMap fun vnfc =>
    vnfc.id :: vnfc.vnfcCpInfo.map VnfcCpInfo.id) n (getVnfcResourceInfo vnfd req n).2 := by
  apply Fresh.traverse
  intro resource n
  have cps (cp : String) (n : Nat) :
      Fresh [(buildVnfCpInfo req cp n).1.id] n (buildVnfCpInfo req cp n).2 := by
    have isId : (buildVnfCpInfo req cp n).1.id = n := (setVnfExpCpIdProtocolData_fields _ _).1
    rw [isId]
    exact Fresh.draw n
  have all := Fresh.traverse (fun cp : VnfcCpInfo => [cp.id]) cps resource.cps (n + 1)
  rw [← List.map_eq_flatMap] at all
  exact (Fresh.draw n).append all

/-- The identifiers of the connection points are different from each other and from the VNFCs'. -/
lemma cpsOf_ids : ((cpsOf (getVnfcResourceInfo vnfd req n).1).map VnfcCpInfo.id).Nodup ∧
    ∀ vnfc ∈ (getVnfcResourceInfo vnfd req n).1, ∀ cp ∈ cpsOf (getVnfcResourceInfo vnfd req n).1,
      cp.id ≠ vnfc.id := by
  have perm := List.map_append_flatMap_perm (getVnfcResourceInfo vnfd req n).1 VnfcResourceInfo.id
    fun vnfc => vnfc.vnfcCpInfo.map VnfcCpInfo.id
  obtain ⟨-, nodup, apart⟩ := List.nodup_append.mp (perm.nodup_iff.mpr vnfcs_fresh.nodup)
  rw [cpsOf, List.map_flatMap]
  refine ⟨nodup, fun vnfc isVnfc cp isCp eq => ?_⟩
  obtain ⟨vnfc', isVnfc', inCps⟩ := List.mem_flatMap.mp isCp
  apply apart vnfc.id (List.mem_map_of_mem isVnfc) cp.id
  · exact List.mem_flatMap.mpr ⟨vnfc', isVnfc', List.mem_map_of_mem inCps⟩
  · exact eq.symm

/-! ## External connection points -/

/-- The VNFC of a connection point is named in place of the connection point. -/
lemma getAssociatedVnfcCpId_eq (vnfcs : List VnfcResourceInfo) (cpdId : String) :
    (∀ id, getAssociatedVnfcCpId vnfcs cpdId = some id → ∃ vnfc ∈ vnfcs, vnfc.id = id ∧
      ∃ cp ∈ cpsOf vnfcs, cp.cpdId = cpdId) ∧
    (getAssociatedVnfcCpId vnfcs cpdId = none → ∀ cp ∈ cpsOf vnfcs, cp.cpdId ≠ cpdId) := by
  unfold getAssociatedVnfcCpId
  constructor
  · intro id found
    obtain ⟨vnfc, isFound, rfl⟩ := Option.map_eq_some_iff.mp found
    have mem := List.mem_of_find?_eq_some isFound
    have picked := List.find?_some isFound
    obtain ⟨cp, isCp, isCpd⟩ := List.any_eq_true.mp picked
    exact ⟨vnfc, mem, rfl, cp, List.mem_flatMap.mpr ⟨vnfc, mem, isCp⟩, of_decide_eq_true isCpd⟩
  · intro missing cp mem isCpd
    obtain ⟨vnfc, isVnfc, isCp⟩ := List.mem_flatMap.mp mem
    have none := List.find?_eq_none.mp (Option.map_eq_none_iff.mp missing) vnfc isVnfc
    exact none (List.any_eq_true.mpr ⟨cp, isCp, decide_eq_true isCpd⟩)

lemma mem_instantiatedCps (vnfd : Vnfd) (req : InstantiateVnfRequest) (n : Nat) {cpdId : String} :
    cpdId ∈ vnfd.instantiatedCps ↔
      ∃ cp ∈ cpsOf (getVnfcResourceInfo vnfd req n).1, cp.cpdId = cpdId := by
  rw [← cpsOf_cpdIds vnfd req n, List.mem_map]

lemma unassociated_none (req : InstantiateVnfRequest) (n : Nat) {cpdId : String}
    (other : cpdId ∉ vnfd.instantiatedCps) :
    getAssociatedVnfcCpId (getVnfcResourceInfo vnfd req n).1 cpdId = none := by
  cases isNamed : getAssociatedVnfcCpId (getVnfcResourceInfo vnfd req n).1 cpdId with
  | none => rfl
  | some id =>
    obtain ⟨-, -, -, cp⟩ := (getAssociatedVnfcCpId_eq _ _).1 id isNamed
    exact absurd ((mem_instantiatedCps vnfd req n).mpr cp) other

/-- An external connection point names what it should exactly if no VNFC has a connection point with
its descriptor. -/
lemma namesVnfcCp_iff {ports : List VnfLinkPortInfo} {extCp : VnfExtCpInfo}
    (associated : extCp.associatedVnfcCpId =
      getAssociatedVnfcCpId (getVnfcResourceInfo vnfd req n).1 extCp.cpdId) :
    NamesVnfcCp ((cpsOf (getVnfcResourceInfo vnfd req n).1).map (relink ports)) extCp ↔
      extCp.cpdId ∉ vnfd.instantiatedCps := by
  obtain ⟨found, missing⟩ := getAssociatedVnfcCpId_eq (getVnfcResourceInfo vnfd req n).1
    extCp.cpdId
  rw [mem_instantiatedCps vnfd req n]
  unfold NamesVnfcCp
  rw [associated]
  cases isNamed : getAssociatedVnfcCpId (getVnfcResourceInfo vnfd req n).1 extCp.cpdId with
  | none =>
    have none := missing isNamed
    apply iff_of_true
    · intro cp' mem'
      obtain ⟨cp, mem, rfl⟩ := List.mem_map.mp mem'
      exact none cp mem
    · rintro ⟨cp, mem, isCpd⟩
      exact none cp mem isCpd
  | some id =>
    obtain ⟨vnfc, isVnfc, rfl, cp, mem, isCpd⟩ := found id isNamed
    apply iff_of_false
    · rintro ⟨cp', mem', isId, -⟩
      obtain ⟨cp, mem, rfl⟩ := List.mem_map.mp mem'
      exact cpsOf_ids.2 vnfc isVnfc cp mem isId
    · exact not_not.mpr ⟨cp, mem, isCpd⟩

/-! ## External link ports -/

/-- A place in a list of links, with the part of the connection points that belongs to it. -/
lemma mem_zip_blocks {α β γ : Type} {len : α → Nat} {g : α → γ} {links : List α} {xs : List β}
    {t : α × List β × γ} :
    t ∈ links.zip (((links.map len).splitLengths xs).zip (links.map g)) ↔
      ∃ before link after, links = before ++ link :: after ∧
        t = (link, (xs.drop (before.map len).sum).take (len link), g link) := by
  induction links generalizing xs with
  | nil =>
    refine ⟨fun mem => (by cases mem), ?_⟩
    rintro ⟨before, link, after, eq, -⟩
    exact absurd eq.symm (List.append_ne_nil_of_right_ne_nil before (List.cons_ne_nil link after))
  | cons link links ih =>
    rw [List.map_cons, List.map_cons, List.splitLengths_cons, List.zip_cons_cons, List.zip_cons_cons,
      List.mem_cons, ih]
    constructor
    · rintro (rfl | ⟨before, link', after, rfl, rfl⟩)
      · exact ⟨[], link, links, rfl, rfl⟩
      · exact ⟨link :: before, link', after, rfl, by
          rw [List.map_cons, List.sum_cons, List.drop_drop]⟩
    · rintro ⟨before, link', after, eq, rfl⟩
      cases before with
      | nil =>
        obtain ⟨rfl, rfl⟩ := List.cons.inj eq
        exact .inl rfl
      | cons first before =>
        obtain ⟨rfl, rfl⟩ := List.cons.inj eq
        exact .inr ⟨before, link', after, rfl, by
          rw [List.map_cons, List.sum_cons, List.drop_drop]⟩

/-- The last external connection point is what the loop leaves. -/
lemma foldl_last (extCps : List VnfExtCpInfo) :
    extCps.foldl (fun _ extCp => some extCp.id) none = extCps.getLast?.map VnfExtCpInfo.id := by
  induction extCps using List.reverseRecOn with
  | nil => rfl
  | append_singleton extCps extCp _ =>
    rw [List.foldl_append, List.getLast?_concat]
    rfl

/-- The last of all external connection points is one of this link, and it is the only one of the link
that uses its link ports. -/
def OnlyLastUses (links : List ExtVirtualLinkData) : Prop :=
  ∀ before link after, links = before ++ link :: after → ∀ init last, link.extCps = init ++ [last] →
    ∀ port ∈ link.extLinkPorts,
      (∀ later ∈ after, later.extCps = []) ∧ last.Uses port.id ∧ ∀ extCp ∈ init, ¬ extCp.Uses port.id

lemma exists_partner {α β : Type} {xs : List α} {ys : List β} (length : xs.length = ys.length) {x : α}
    (mem : x ∈ xs) : ∃ y, (x, y) ∈ xs.zip ys := by
  induction xs generalizing ys with
  | nil => cases mem
  | cons x' xs ih =>
    cases ys with
    | nil => cases length
    | cons y ys =>
      rcases List.mem_cons.mp mem with rfl | mem
      · exact ⟨y, List.mem_cons_self⟩
      · obtain ⟨y', mem⟩ := ih (Nat.succ.inj length) mem
        exact ⟨y', List.mem_cons_of_mem _ mem⟩

/-- A port that refers to the last of these external connection points. -/
lemma refersToLast_iff {init : List VnfExtCpData} {last : VnfExtCpData} {blockInit : List VnfExtCpInfo}
    {b : VnfExtCpInfo} (length : init.length = blockInit.length)
    (apart : ∀ extCp ∈ blockInit, extCp.id ≠ b.id) {portId : String} :
    (∀ id, some b.id = some id ↔ ∃ pair ∈ (init ++ [last]).zip (blockInit ++ [b]),
      pair.2.id = id ∧ pair.1.Uses portId) ↔
      last.Uses portId ∧ ∀ extCp ∈ init, ¬ extCp.Uses portId := by
  rw [List.zip_append length]
  constructor
  · intro all
    constructor
    · obtain ⟨pair, mem, isId, uses⟩ := (all b.id).mp rfl
      rcases List.mem_append.mp mem with mem | mem
      · exact absurd isId (apart _ (List.of_mem_zip mem).2)
      · rw [List.mem_singleton.mp mem] at uses
        exact uses
    · intro extCp mem uses
      obtain ⟨partner, inZip⟩ := exists_partner length mem
      have same := (all partner.id).mpr ⟨_, List.mem_append_left _ inZip, rfl, uses⟩
      exact apart partner (List.of_mem_zip inZip).2 (Option.some.inj same).symm
  · rintro ⟨uses, others⟩ id
    constructor
    · intro isId
      exact ⟨(last, b), List.mem_append_right _ List.mem_cons_self, Option.some.inj isId, uses⟩
    · rintro ⟨pair, mem, isId, usesToo⟩
      rcases List.mem_append.mp mem with mem | mem
      · exact absurd usesToo (others _ (List.of_mem_zip mem).1)
      · rw [List.mem_singleton.mp mem] at isId
        exact congrArg some isId

/-- The link ports of a link, whose connection points are recorded between others. -/
lemma portsAgree_iff {link : ExtVirtualLinkData} {before block after : List VnfExtCpInfo}
    (nodup : ((before ++ (block ++ after)).map VnfExtCpInfo.id).Nodup)
    (length : block.length = link.extCps.length) :
    PortsAgree link block (setExtLinkPort link (before ++ (block ++ after))) ↔
      ∀ init last, link.extCps = init ++ [last] → ∀ port ∈ link.extLinkPorts,
        after = [] ∧ last.Uses port.id ∧ ∀ extCp ∈ init, ¬ extCp.Uses port.id := by
  unfold PortsAgree setExtLinkPort
  rw [List.forall_mem_map, foldl_last]
  rcases List.eq_nil_or_concat link.extCps with none | ⟨init, last, isLast⟩
  · rw [none]
    apply iff_of_true
    · intro port _ id
      simp
    · intro init last eq
      simp at eq
  · rw [List.concat_eq_append] at isLast
    have only (p : List VnfExtCpData → VnfExtCpData → Prop) :
        (∀ init' last', link.extCps = init' ++ [last'] → p init' last') ↔ p init last := by
      constructor
      · intro all
        exact all init last isLast
      · intro holds init' last' eq
        obtain ⟨rfl, last⟩ := List.append_inj' (isLast.symm.trans eq) rfl
        rw [← (List.cons.inj last).1]
        exact holds
    rw [only fun init last => ∀ port ∈ link.extLinkPorts,
      after = [] ∧ last.Uses port.id ∧ ∀ extCp ∈ init, ¬ extCp.Uses port.id]
    refine forall₂_congr fun port _ => ?_
    rw [if_neg (by simp [isLast])]
    rw [isLast, List.length_append] at length
    rcases List.eq_nil_or_concat block with none | ⟨blockInit, b, isBlock⟩
    · rw [none] at length
      cases length
    · rw [List.concat_eq_append] at isBlock
      subst isBlock
      rw [List.length_append] at length
      rw [List.map_append, List.nodup_append] at nodup
      obtain ⟨-, nodup, -⟩ := nodup
      rw [List.map_append, List.nodup_append, List.map_append, List.nodup_append] at nodup
      obtain ⟨⟨-, -, apart⟩, -, later⟩ := nodup
      rcases List.eq_nil_or_concat after with none | ⟨afterInit, c, isAfter⟩
      · subst none
        rw [List.append_nil, ← List.append_assoc, List.getLast?_concat, isLast, and_iff_right rfl]
        apply refersToLast_iff (Nat.succ.inj length).symm
        intro extCp mem
        exact apart _ (List.mem_map_of_mem mem) _ List.mem_cons_self
      · rw [List.concat_eq_append] at isAfter
        subst isAfter
        apply iff_of_false
        · intro all
          have isLast' : (before ++ (blockInit ++ [b] ++ (afterInit ++ [c]))).getLast? = some c := by
            rw [← List.append_assoc, ← List.append_assoc, List.getLast?_concat]
          rw [isLast'] at all
          obtain ⟨pair, mem, isId, -⟩ := (all c.id).mp rfl
          rw [← List.map_append] at later
          exact later _ (List.mem_map_of_mem (List.of_mem_zip mem).2) _
            (List.mem_map_of_mem (List.mem_append_right _ List.mem_cons_self)) isId
        · rintro ⟨none, -⟩
          simp at none

/-- What is recorded of the external connection points. -/
lemma extCpInfo_fields (req : InstantiateVnfRequest) (vnfcs : List VnfcResourceInfo) (n : Nat) :
    (setExtCpInfo req vnfcs n).1.length = (req.extVirtualLinks.map fun link => link.extCps.length).sum ∧
      ((setExtCpInfo req vnfcs n).1.map VnfExtCpInfo.id).Nodup ∧
      (setExtCpInfo req vnfcs n).1.map (fun extCp => (extCp.cpdId, extCp.associatedVnfcCpId)) =
        req.extCps.map fun pair => (pair.2.cpdId, getAssociatedVnfcCpId vnfcs pair.2.cpdId) := by
  have fields := Supply.traverse_map
    (fun extCp : VnfExtCpInfo => (extCp.cpdId, extCp.associatedVnfcCpId))
    (fun pair : ExtVirtualLinkData × VnfExtCpData =>
      (pair.2.cpdId, getAssociatedVnfcCpId vnfcs pair.2.cpdId))
    (f := fun pair => buildExtCpInfo vnfcs pair.1 pair.2) (fun pair n => rfl) req.extCps n
  have fresh := Fresh.traverse (fun extCp : VnfExtCpInfo => [extCp.id])
    (f := fun pair => buildExtCpInfo vnfcs pair.1 pair.2) (fun pair n => Fresh.draw n) req.extCps n
  refine ⟨?_, ?_, fields⟩
  · have lengths := congrArg List.length fields
    rw [List.length_map, List.length_map] at lengths
    rw [setExtCpInfo, lengths, InstantiateVnfRequest.extCps, List.length_flatMap]
    simp only [List.length_map]
  · have nodup := fresh.nodup
    rw [← List.map_eq_flatMap] at nodup
    exact nodup

lemma noneLater {links : List ExtVirtualLinkData} :
    (links.map fun link => link.extCps.length).sum = 0 ↔ ∀ link ∈ links, link.extCps = [] := by
  induction links with
  | nil => exact ⟨fun _ link mem => absurd mem List.not_mem_nil, fun _ => rfl⟩
  | cons link links ih =>
    rw [List.map_cons, List.sum_cons, Nat.add_eq_zero_iff, ih, List.forall_mem_cons,
      List.length_eq_zero_iff]

/-- The external link ports of all links refer to what uses them exactly if only the last external
connection point of all does. -/
lemma extLinkPorts_iff {vnfcs : List VnfcResourceInfo} (info : InstantiatedVnfInfo)
    (extCps : info.extCpInfo = (setExtCpInfo req vnfcs n).1)
    (links : info.extVirtualLinkInfo = setExtVirtualLinkInfo req info.extCpInfo) :
    (∀ t ∈ req.extVirtualLinks.zip ((extCpsByLink req info).zip info.extVirtualLinkInfo),
      PortsAgree t.1 t.2.1 t.2.2.extLinkPorts) ↔ OnlyLastUses req.extVirtualLinks := by
  obtain ⟨length, nodup, -⟩ := extCpInfo_fields req vnfcs n
  rw [← extCps] at length nodup
  have place {before after : List ExtVirtualLinkData} {link : ExtVirtualLinkData}
      (eq : req.extVirtualLinks = before ++ link :: after) :
      PortsAgree link ((info.extCpInfo.drop (before.map fun l => l.extCps.length).sum).take
        link.extCps.length) (setExtLinkPort link info.extCpInfo) ↔
        ∀ init last, link.extCps = init ++ [last] → ∀ port ∈ link.extLinkPorts,
          (∀ later ∈ after, later.extCps = []) ∧ last.Uses port.id ∧
            ∀ extCp ∈ init, ¬ extCp.Uses port.id := by
    generalize isBefore : (before.map fun l => l.extCps.length).sum = k
    have total : info.extCpInfo.length =
        k + (link.extCps.length + (after.map fun l => l.extCps.length).sum) := by
      rw [length, eq, List.map_append, List.sum_append, List.map_cons, List.sum_cons, isBefore]
    have split : info.extCpInfo.take k ++ ((info.extCpInfo.drop k).take link.extCps.length ++
        (info.extCpInfo.drop k).drop link.extCps.length) = info.extCpInfo := by
      rw [List.take_append_drop, List.take_append_drop]
    have block : ((info.extCpInfo.drop k).take link.extCps.length).length = link.extCps.length := by
      rw [List.length_take, List.length_drop]
      omega
    have rest : (info.extCpInfo.drop k).drop link.extCps.length = [] ↔
        ∀ later ∈ after, later.extCps = [] := by
      rw [← List.length_eq_zero_iff, List.length_drop, List.length_drop, total]
      have sum : k + (link.extCps.length + (after.map fun l => l.extCps.length).sum) - k -
          link.extCps.length = (after.map fun l => l.extCps.length).sum := by omega
      rw [sum, noneLater]
    have parts : ((info.extCpInfo.take k ++ ((info.extCpInfo.drop k).take link.extCps.length ++
        (info.extCpInfo.drop k).drop link.extCps.length)).map VnfExtCpInfo.id).Nodup := by
      rwa [split]
    have agree := portsAgree_iff parts block
    rw [split, rest] at agree
    exact agree
  rw [links]
  unfold extCpsByLink setExtVirtualLinkInfo
  constructor
  · intro all before link after eq
    exact (place eq).mp (all _ (mem_zip_blocks.mpr ⟨before, link, after, eq, rfl⟩))
  · intro last t mem
    obtain ⟨before, link, after, eq, rfl⟩ := mem_zip_blocks.mp mem
    exact (place eq).mpr (last before link after eq)

/-! ## All references -/

/-- No name of a connection point of a VNFC is met twice when the virtual links are gone through. -/
def NamedOnce (vnfd : Vnfd) (req : InstantiateVnfRequest) : Prop :=
  ∀ cpdId ∈ vnfd.instantiatedCps,
    ((virtualLinkNodesWithCp vnfd req).flatMap Prod.snd).count cpdId ≤ 1

/-- The VNFD and the request lead to right references. -/
structure ReferencesFit (vnfd : Vnfd) (req : InstantiateVnfRequest) : Prop where
  onlyLast : OnlyLastUses req.extVirtualLinks
  unassociated : ∀ pair ∈ req.extCps, pair.2.cpdId ∉ vnfd.instantiatedCps
  once : NamedOnce vnfd req

/-- Copies of link ports change nothing. -/
lemma inverse_copies {cps : List VnfcCpInfo} {ports copies : List VnfLinkPortInfo}
    (sub : copies ⊆ ports) : Inverse cps (ports ++ copies) ↔ Inverse cps ports := by
  have same {port : VnfLinkPortInfo} : port ∈ ports ++ copies ↔ port ∈ ports :=
    ⟨fun mem => (List.mem_append.mp mem).elim id fun inCopies => sub inCopies,
      List.mem_append_left _⟩
  constructor
  · intro inverse
    refine ⟨fun mem id linked => ?_, fun mem => inverse.cp (same.mpr mem)⟩
    obtain ⟨port, inPorts, both⟩ := inverse.port mem linked
    exact ⟨port, same.mp inPorts, both⟩
  · intro inverse
    refine ⟨fun mem id linked => ?_, fun mem => inverse.cp (same.mp mem)⟩
    obtain ⟨port, inPorts, both⟩ := inverse.port mem linked
    exact ⟨port, same.mpr inPorts, both⟩

/-- The link ports of the managed links are those of virtual links. -/
lemma managedPorts_sub (req : InstantiateVnfRequest) (vls : List VnfVirtualLinkResourceInfo) :
    (buildExtManagedVirtualLinkInfo req vls).flatMap ExtManagedVirtualLinkInfo.vnfLinkPorts ⊆
      linkPortsOf vls := by
  have loop (desc : String) (found : List VnfLinkPortInfo) : vls.foldl (fun ports vl =>
      if desc = vl.vnfVirtualLinkDescId then vl.vnfLinkPorts else ports) found ⊆
        found ++ linkPortsOf vls := by
    induction vls generalizing found with
    | nil => exact List.subset_append_left _ _
    | cons vl vls ih =>
      intro port mem
      rcases List.mem_append.mp (ih _ mem) with mem | mem
      · change port ∈ if desc = vl.vnfVirtualLinkDescId then vl.vnfLinkPorts else found at mem
        by_cases isDesc : desc = vl.vnfVirtualLinkDescId
        · rw [if_pos isDesc] at mem
          exact List.mem_append_right _ (List.mem_append_left _ mem)
        · rw [if_neg isDesc] at mem
          exact List.mem_append_left _ mem
      · exact List.mem_append_right _ (List.mem_append_right _ mem)
  intro port mem
  obtain ⟨managed, isManaged, inPorts⟩ := List.mem_flatMap.mp mem
  obtain ⟨vl, -, rfl⟩ := List.mem_map.mp isManaged
  exact loop vl.vnfVirtualLinkDescId [] inPorts

/-- What is recorded of the connection points of VNFCs and their link ports. -/
lemma built_linked (vnfd : Vnfd) (req : InstantiateVnfRequest) (n : Nat) :
    ∃ n', Linked ((virtualLinkNodesWithCp vnfd req).flatMap Prod.snd)
        (cpsOf (getVnfcResourceInfo vnfd req n).1)
        (cpsOf (buildInstantiatedVnfInfo vnfd req n).1.vnfcResourceInfo)
        (linkPortsOf (buildInstantiatedVnfInfo vnfd req n).1.vnfVirtualLinkResourceInfo) ∧
      Fresh ((linkPortsOf (buildInstantiatedVnfInfo vnfd req n).1.vnfVirtualLinkResourceInfo).map
        VnfLinkPortInfo.id) n' (buildInstantiatedVnfInfo vnfd req n).2 :=
  ⟨_, linkNodes_linked req _ _ cpsOf_ids.1, linkNodes_fresh⟩

/-- The connection points of the VNFCs and the link ports refer to each other exactly if no name is
met twice. -/
lemma inverse_iff_once (vnfd : Vnfd) (req : InstantiateVnfRequest) (n : Nat) :
    Inverse (cpsOf (buildInstantiatedVnfInfo vnfd req n).1.vnfcResourceInfo)
        (buildInstantiatedVnfInfo vnfd req n).1.linkPorts ↔ NamedOnce vnfd req := by
  obtain ⟨n', linked, fresh⟩ := built_linked vnfd req n
  have copies : (buildInstantiatedVnfInfo vnfd req n).1.extManagedVirtualLinkInfo.flatMap
      ExtManagedVirtualLinkInfo.vnfLinkPorts ⊆
        linkPortsOf (buildInstantiatedVnfInfo vnfd req n).1.vnfVirtualLinkResourceInfo :=
    managedPorts_sub req _
  unfold InstantiatedVnfInfo.linkPorts
  rw [inverse_copies copies, inverse_iff linked cpsOf_ids.1 cpsOf_unlinked fresh.nodup,
    NamedOnce, ← cpsOf_cpdIds vnfd req n, List.forall_mem_map]

/-- The external connection points name what they should exactly if none has a descriptor that a
connection point of a VNFC has. -/
lemma extCps_iff (vnfd : Vnfd) (req : InstantiateVnfRequest) (n : Nat) :
    (∀ extCp ∈ (buildInstantiatedVnfInfo vnfd req n).1.extCpInfo,
        NamesVnfcCp (cpsOf (buildInstantiatedVnfInfo vnfd req n).1.vnfcResourceInfo) extCp) ↔
      ∀ pair ∈ req.extCps, pair.2.cpdId ∉ vnfd.instantiatedCps := by
  obtain ⟨n', linked, -⟩ := built_linked vnfd req n
  rw [linked.kept]
  have fields := (extCpInfo_fields req (getVnfcResourceInfo vnfd req n).1
    (getVnfcResourceInfo vnfd req n).2).2.2
  constructor
  · intro all pair mem
    obtain ⟨extCp, isExtCp, eq⟩ := List.mem_map.mp (fields ▸ List.mem_map_of_mem
      (f := fun pair : ExtVirtualLinkData × VnfExtCpData => (pair.2.cpdId,
        getAssociatedVnfcCpId (getVnfcResourceInfo vnfd req n).1 pair.2.cpdId)) mem)
    obtain ⟨isCpd, associated⟩ := Prod.mk.inj eq
    rw [← isCpd]
    apply (namesVnfcCp_iff _).mp (all extCp isExtCp)
    rw [associated, isCpd]
  · intro all extCp isExtCp
    obtain ⟨pair, mem, eq⟩ := List.mem_map.mp (fields ▸ List.mem_map_of_mem
      (f := fun extCp : VnfExtCpInfo => (extCp.cpdId, extCp.associatedVnfcCpId)) isExtCp)
    obtain ⟨isCpd, associated⟩ := Prod.mk.inj eq
    apply (namesVnfcCp_iff _).mpr
    · rw [← isCpd]
      exact all pair mem
    · rw [← associated, isCpd]

lemma consistent_iff (vnfd : Vnfd) (req : InstantiateVnfRequest) (n : Nat) :
    Consistent req (buildInstantiatedVnfInfo vnfd req n).1 ↔ ReferencesFit vnfd req := by
  have ports := extLinkPorts_iff (buildInstantiatedVnfInfo vnfd req n).1 rfl rfl
  constructor
  · intro consistent
    exact ⟨ports.mp consistent.extLinkPorts, (extCps_iff vnfd req n).mp consistent.extCps,
      (inverse_iff_once vnfd req n).mp consistent.inverse⟩
  · intro fit
    exact ⟨ports.mpr fit.onlyLast, (extCps_iff vnfd req n).mpr fit.unassociated,
      (inverse_iff_once vnfd req n).mpr fit.once⟩

/-- The references of an instantiated VNF info are right exactly if the VNFD and the request fit, and
none is left open besides exactly if there is no external connection point and no external link
port. -/
theorem references_consistent_iff (vnfd : Vnfd) (req : InstantiateVnfRequest) (n : Nat) :
    (Consistent req (buildInstantiatedVnfInfo vnfd req n).1 ↔ ReferencesFit vnfd req) ∧
      (Consistent req (buildInstantiatedVnfInfo vnfd req n).1 ∧
          Complete (buildInstantiatedVnfInfo vnfd req n).1 ↔
        (∀ link ∈ req.extVirtualLinks, link.extCps = [] ∧ link.extLinkPorts = []) ∧
          NamedOnce vnfd req) := by
  rw [consistent_iff]
  refine ⟨Iff.rfl, ?_⟩
  have fields := (extCpInfo_fields req (getVnfcResourceInfo vnfd req n).1
    (getVnfcResourceInfo vnfd req n).2).2.2
  constructor
  · rintro ⟨fit, complete⟩
    have noCps : req.extCps = [] := by
      apply List.eq_nil_iff_forall_not_mem.mpr
      intro pair mem
      have missing := unassociated_none req n (fit.unassociated pair mem)
      obtain ⟨extCp, isExtCp, eq⟩ := List.mem_map.mp (fields ▸ List.mem_map_of_mem
        (f := fun pair : ExtVirtualLinkData × VnfExtCpData => (pair.2.cpdId,
          getAssociatedVnfcCpId (getVnfcResourceInfo vnfd req n).1 pair.2.cpdId)) mem)
      exact complete.extCps extCp isExtCp ((Prod.mk.inj eq).2.trans missing)
    refine ⟨fun link isLink => ?_, fit.once⟩
    have bare : link.extCps = [] := List.map_eq_nil_iff.mp (List.flatMap_eq_nil_iff.mp noCps link isLink)
    refine ⟨bare, List.eq_nil_iff_forall_not_mem.mpr fun port isPort => ?_⟩
    apply complete.extLinkPorts _ (List.mem_map_of_mem isLink) _ (List.mem_map_of_mem isPort)
    exact if_pos bare
  · rintro ⟨bare, once⟩
    have noCps : req.extCps = [] :=
      List.flatMap_eq_nil_iff.mpr fun link isLink => List.map_eq_nil_iff.mpr (bare link isLink).1
    refine ⟨⟨?_, ?_, once⟩, ⟨?_, ?_⟩⟩
    · intro before link after eq init last isLast
      have isLink : link ∈ req.extVirtualLinks := eq ▸ List.mem_append_right _ List.mem_cons_self
      rw [(bare link isLink).1] at isLast
      simp at isLast
    · intro pair mem
      rw [noCps] at mem
      cases mem
    · intro info isInfo port isPort
      obtain ⟨link, isLink, rfl⟩ := List.mem_map.mp isInfo
      obtain ⟨data, isData, -⟩ := List.mem_map.mp isPort
      rw [(bare link isLink).2] at isData
      cases isData
    · intro extCp isExtCp
      rw [noCps] at fields
      have nothing : (setExtCpInfo req (getVnfcResourceInfo vnfd req n).1
        (getVnfcResourceInfo vnfd req n).2).1 = [] := List.map_eq_nil_iff.mp fields
      have isExtCp : extCp ∈ (setExtCpInfo req (getVnfcResourceInfo vnfd req n).1
        (getVnfcResourceInfo vnfd req n).2).1 := isExtCp
      rw [nothing] at isExtCp
      cases isExtCp

/-- A VDU with one connection point. -/
def oneVdu : Vnfd where
  nodeTemplates := [
    { name := "VDU1", type := .vduCompute },
    { name := "CP1", type := .vduCp, requirements := [{ virtualBinding := some "VDU1" }] }]
  desiredCapacity _ := 1
  names_nodup := by decide

/-- A request that connects it to an external link by a port of its own. -/
def oneExtLink : InstantiateVnfRequest where
  extVirtualLinks := [{
    id := "net1"
    resourceId := "res1"
    extCps := [{ cpdId := "CP1", cpConfig := [{ linkPortId := some "port1" }] }]
    extLinkPorts := [{ id := "port1" }] }]

/-- The external connection point names the VNFC in place of its connection point. -/
theorem vnfc_named_for_cp :
    ¬ Consistent oneExtLink (buildInstantiatedVnfInfo oneVdu oneExtLink 0).1 := by
  intro consistent
  have fit := (consistent_iff oneVdu oneExtLink 0).mp consistent
  exact fit.unassociated _ List.mem_cons_self (by decide)

end Tacker.Vnflcm
