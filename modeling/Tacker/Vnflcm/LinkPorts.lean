import Tacker.Vnflcm.InstantiatedInfo

/-!
# Link ports of VNFCs

A link port is made for a connection point of a VNFC each time its name is met, and the connection
point keeps the last of them only. What the loops over the links, the names and the VNFCs do is said
in one relation, which is put together along the names and along the connection points.
-/

namespace Tacker.Vnflcm

open Tacker.Basis

/-! ## Ports of a connection point -/

/-- The link ports that refer to a connection point, in the order in which they were made. -/
def portsOf (ports : List VnfLinkPortInfo) (id : Uuid) : List VnfLinkPortInfo :=
  ports.filter fun port => port.cpInstanceId = id

/-- A connection point after it got these link ports. -/
def relink (ports : List VnfLinkPortInfo) (cp : VnfcCpInfo) : VnfcCpInfo :=
  { cp with
    vnfLinkPortId := ((portsOf ports cp.id).getLast?.map VnfLinkPortInfo.id).or cp.vnfLinkPortId }

/-- What is made of connection points when these names are met. -/
structure Linked (names : List String) (cps cps' : List VnfcCpInfo) (ports : List VnfLinkPortInfo) :
    Prop where
  kept : cps' = cps.map (relink ports)
  counted {cp : VnfcCpInfo} (mem : cp ∈ cps) :
    (portsOf ports cp.id).length = names.count cp.cpdId
  owned {port : VnfLinkPortInfo} (mem : port ∈ ports) : ∃ cp ∈ cps, cp.id = port.cpInstanceId

variable {names names' : List String} {cps cps' cps'' more more' : List VnfcCpInfo}
  {ports ports' : List VnfLinkPortInfo} {cp : VnfcCpInfo} {req : InstantiateVnfRequest}

@[simp] lemma relink_id : (relink ports cp).id = cp.id := rfl

@[simp] lemma relink_cpdId : (relink ports cp).cpdId = cp.cpdId := rfl

lemma portsOf_append {id : Uuid} :
    portsOf (ports ++ ports') id = portsOf ports id ++ portsOf ports' id :=
  List.filter_append ..

lemma portsOf_eq_nil {id : Uuid} : portsOf ports id = [] ↔ ∀ port ∈ ports, port.cpInstanceId ≠ id := by
  rw [portsOf, List.filter_eq_nil_iff]
  simp

lemma relink_nil (cp : VnfcCpInfo) : relink [] cp = cp := rfl

lemma relink_relink : relink ports' (relink ports cp) = relink (ports ++ ports') cp := by
  show VnfcCpInfo.mk _ _ _ _ _ = VnfcCpInfo.mk _ _ _ _ _
  rw [portsOf_append, List.getLast?_append, Option.map_or, Option.or_assoc]
  rfl

/-- Ports of others change nothing. -/
lemma relink_append_left (others : portsOf ports' cp.id = []) :
    relink (ports ++ ports') cp = relink ports cp := by
  unfold relink
  rw [portsOf_append, others, List.append_nil]

lemma relink_append_right (others : portsOf ports cp.id = []) :
    relink (ports ++ ports') cp = relink ports' cp := by
  unfold relink
  rw [portsOf_append, others, List.nil_append]

namespace Linked

lemma ids (linked : Linked names cps cps' ports) : cps'.map VnfcCpInfo.id = cps.map VnfcCpInfo.id := by
  rw [linked.kept, List.map_map]
  rfl

lemma nil (cps : List VnfcCpInfo) : Linked [] cps cps [] where
  kept := by
    rw [List.map_congr_left fun cp _ => relink_nil cp]
    exact (List.map_id cps).symm
  counted _ := rfl
  owned mem := by cases mem

/-- Further names are met. -/
lemma trans (first : Linked names cps cps' ports) (second : Linked names' cps' cps'' ports') :
    Linked (names ++ names') cps cps'' (ports ++ ports') where
  kept := by
    rw [second.kept, first.kept, List.map_map]
    exact List.map_congr_left fun cp _ => relink_relink
  counted := by
    intro cp mem
    have mem' : relink ports cp ∈ cps' := first.kept ▸ List.mem_map_of_mem mem
    have later := second.counted mem'
    rw [relink_id, relink_cpdId] at later
    rw [portsOf_append, List.length_append, List.count_append, first.counted mem, later]
  owned := by
    intro port mem
    rcases List.mem_append.mp mem with mem | mem
    · exact first.owned mem
    · obtain ⟨cp', mem', eq⟩ := second.owned mem
      rw [first.kept] at mem'
      obtain ⟨cp, mem, rfl⟩ := List.mem_map.mp mem'
      exact ⟨cp, mem, eq⟩

/-- No port is made for a connection point that is not gone through. -/
lemma others (linked : Linked names more more' ports)
    (apart : ∀ cp ∈ cps, ∀ cp' ∈ more, cp.id ≠ cp'.id) (mem : cp ∈ cps) : portsOf ports cp.id = [] := by
  apply portsOf_eq_nil.mpr
  intro port inPorts eq
  obtain ⟨cp', mem', owner⟩ := linked.owned inPorts
  exact apart cp mem cp' mem' (eq.symm.trans owner.symm)

/-- Other connection points are gone through. -/
lemma append (first : Linked names cps cps' ports) (second : Linked names more more' ports')
    (apart : ∀ cp ∈ cps, ∀ cp' ∈ more, cp.id ≠ cp'.id) :
    Linked names (cps ++ more) (cps' ++ more') (ports ++ ports') where
  kept := by
    rw [List.map_append, first.kept, second.kept]
    apply congrArg₂ (· ++ ·)
    · exact List.map_congr_left fun cp mem => (relink_append_left (second.others apart mem)).symm
    · exact List.map_congr_left fun cp mem =>
        (relink_append_right
          (first.others (fun cp mem cp' mem' => (apart cp' mem' cp mem).symm) mem)).symm
  counted := by
    intro cp mem
    rw [portsOf_append, List.length_append]
    rcases List.mem_append.mp mem with mem | mem
    · rw [first.counted mem, second.others apart mem]
      rfl
    · rw [second.counted mem, first.others (fun cp mem cp' mem' => (apart cp' mem' cp mem).symm) mem]
      exact Nat.zero_add _
  owned := by
    intro port mem
    rcases List.mem_append.mp mem with mem | mem
    · obtain ⟨cp, mem, eq⟩ := first.owned mem
      exact ⟨cp, List.mem_append_left _ mem, eq⟩
    · obtain ⟨cp, mem, eq⟩ := second.owned mem
      exact ⟨cp, List.mem_append_right _ mem, eq⟩

end Linked

/-! ## The loops -/

/-- All connection points of VNFCs. -/
def cpsOf (vnfcs : List VnfcResourceInfo) : List VnfcCpInfo :=
  vnfcs.flatMap VnfcResourceInfo.vnfcCpInfo

/-- The link ports of all virtual links. -/
def linkPortsOf (vls : List VnfVirtualLinkResourceInfo) : List VnfLinkPortInfo :=
  vls.flatMap VnfVirtualLinkResourceInfo.vnfLinkPorts

section Loops

variable {name : String} {info : VnfcCpInfo} {vnfc : VnfcResourceInfo} {vnfcs : List VnfcResourceInfo}
  {n : Nat}

lemma linkCp_linked :
    Linked [name] [info] [(linkCp req name info n).1.1] (linkCp req name info n).1.2 := by
  unfold linkCp
  by_cases isName : info.cpdId = name
  · rw [if_pos isName]
    have own : portsOf [(getVnfLinkPortInfo req name info.id n).1] info.id =
        [(getVnfLinkPortInfo req name info.id n).1] :=
      List.filter_cons_of_pos (decide_eq_true rfl)
    constructor
    · show [_] = [relink _ info]
      unfold relink
      rw [own]
      rfl
    · intro cp mem
      rw [List.mem_singleton.mp mem, own, isName]
      simp
    · intro port mem
      rw [List.mem_singleton.mp mem]
      exact ⟨info, List.mem_cons_self, rfl⟩
  · rw [if_neg isName]
    constructor
    · rfl
    · intro cp mem
      rw [List.mem_singleton.mp mem, List.count_singleton, if_neg (by simpa using Ne.symm isName)]
      rfl
    · intro port mem
      cases mem

lemma linkCp_fresh : Fresh ((linkCp req name info n).1.2.map VnfLinkPortInfo.id) n
    (linkCp req name info n).2 := by
  unfold linkCp
  by_cases isName : info.cpdId = name
  · rw [if_pos isName]
    exact Fresh.draw n
  · rw [if_neg isName]
    exact Fresh.nil n

/-- The connection points of a list are gone through for one name. -/
lemma linkCps_linked (nodup : (cps.map VnfcCpInfo.id).Nodup) :
    Linked [name] cps ((Supply.traverse (linkCp req name) cps n).1.map Prod.fst)
      ((Supply.traverse (linkCp req name) cps n).1.flatMap Prod.snd) := by
  induction cps generalizing n with
  | nil =>
    refine ⟨rfl, ?_, ?_⟩
    · intro cp mem
      cases mem
    · intro port mem
      cases mem
  | cons info cps ih =>
    obtain ⟨notIn, nodup⟩ := List.nodup_cons.mp nodup
    apply linkCp_linked.append (ih nodup)
    rintro cp mem cp' mem' eq
    rw [List.mem_singleton.mp mem] at eq
    exact notIn (eq ▸ List.mem_map_of_mem mem')

/-- The VNFCs of a list are gone through for one name. -/
lemma linkVnfcs_linked (req : InstantiateVnfRequest) (name : String) (n : Nat)
    (nodup : ((cpsOf vnfcs).map VnfcCpInfo.id).Nodup) :
    Linked [name] (cpsOf vnfcs)
      (cpsOf ((Supply.traverse (linkVnfc req name) vnfcs n).1.map Prod.fst))
      ((Supply.traverse (linkVnfc req name) vnfcs n).1.flatMap Prod.snd) := by
  induction vnfcs generalizing n with
  | nil =>
    refine ⟨rfl, ?_, ?_⟩
    · intro cp mem
      cases mem
    · intro port mem
      cases mem
  | cons vnfc vnfcs ih =>
    have parts : ((vnfc.vnfcCpInfo ++ cpsOf vnfcs).map VnfcCpInfo.id).Nodup := nodup
    rw [List.map_append, List.nodup_append] at parts
    obtain ⟨own, rest, apart⟩ := parts
    apply (linkCps_linked own).append (ih _ rest)
    intro cp mem cp' mem'
    exact apart _ (List.mem_map_of_mem mem) _ (List.mem_map_of_mem mem')

/-- The names of a list are met one after the other. -/
lemma linkNames_linked (req : InstantiateVnfRequest) (names : List String) (n : Nat)
    (nodup : ((cpsOf vnfcs).map VnfcCpInfo.id).Nodup) :
    Linked names (cpsOf vnfcs) (cpsOf (linkNames req names vnfcs n).1.1)
      (linkNames req names vnfcs n).1.2 := by
  induction names generalizing vnfcs n with
  | nil => exact Linked.nil _
  | cons name names ih =>
    have first := linkVnfcs_linked req name n nodup
    exact first.trans (ih _ (first.ids ▸ nodup))

/-- The virtual links are gone through one after the other. -/
lemma linkNodes_linked (req : InstantiateVnfRequest) (nodes : List (String × List String)) (n : Nat)
    (nodup : ((cpsOf vnfcs).map VnfcCpInfo.id).Nodup) :
    Linked (nodes.flatMap Prod.snd) (cpsOf vnfcs) (cpsOf (linkNodes req nodes vnfcs n).1.1)
      (linkPortsOf (linkNodes req nodes vnfcs n).1.2) := by
  induction nodes generalizing vnfcs n with
  | nil => exact Linked.nil _
  | cons node nodes ih =>
    have first := linkNames_linked req node.2 (n + 1) nodup
    exact first.trans (ih _ (first.ids ▸ nodup))

/-- The link ports that are made for names have identifiers of their own. -/
lemma linkNames_fresh : Fresh ((linkNames req names vnfcs n).1.2.map VnfLinkPortInfo.id) n
    (linkNames req names vnfcs n).2 := by
  have cps (name : String) (vnfc : VnfcResourceInfo) (n : Nat) :
      Fresh ((linkVnfc req name vnfc n).1.2.map VnfLinkPortInfo.id) n (linkVnfc req name vnfc n).2 := by
    show Fresh (((Supply.traverse (linkCp req name) vnfc.vnfcCpInfo n).1.flatMap _).map _) _ _
    rw [List.map_flatMap]
    exact Fresh.traverse _ (fun _ _ => linkCp_fresh) _ n
  induction names generalizing vnfcs n with
  | nil => exact Fresh.nil n
  | cons name names ih =>
    show Fresh (((Supply.traverse (linkVnfc req name) vnfcs n).1.flatMap Prod.snd ++ _).map _) _ _
    rw [List.map_append, List.map_flatMap]
    exact (Fresh.traverse _ (cps name) vnfcs n).append ih

lemma linkNodes_fresh {nodes : List (String × List String)} :
    Fresh ((linkPortsOf (linkNodes req nodes vnfcs n).1.2).map VnfLinkPortInfo.id) n
      (linkNodes req nodes vnfcs n).2 := by
  induction nodes generalizing vnfcs n with
  | nil => exact Fresh.nil n
  | cons node nodes ih =>
    show Fresh (((linkNames req node.2 vnfcs (n + 1)).1.2 ++ linkPortsOf _).map _) _ _
    rw [List.map_append]
    exact linkNames_fresh.skip.append ih

end Loops

/-! ## Inverse references -/

/-- The connection points and the link ports refer to each other. -/
structure Inverse (cps : List VnfcCpInfo) (ports : List VnfLinkPortInfo) : Prop where
  port {cp : VnfcCpInfo} (mem : cp ∈ cps) {id : Uuid} (linked : cp.vnfLinkPortId = some id) :
    ∃ port ∈ ports, port.id = id ∧ port.cpInstanceId = cp.id
  cp {port : VnfLinkPortInfo} (mem : port ∈ ports) :
    ∃ cp ∈ cps, cp.id = port.cpInstanceId ∧ cp.vnfLinkPortId = some port.id

/-- They do exactly if no name of a connection point is met twice. -/
theorem inverse_iff (linked : Linked names cps cps' ports) (ids : (cps.map VnfcCpInfo.id).Nodup)
    (unlinked : ∀ cp ∈ cps, cp.vnfLinkPortId = none)
    (portIds : (ports.map VnfLinkPortInfo.id).Nodup) :
    Inverse cps' ports ↔ ∀ cp ∈ cps, names.count cp.cpdId ≤ 1 := by
  rw [linked.kept]
  constructor
  · intro inverse cp mem
    rw [← linked.counted mem]
    by_contra many
    obtain ⟨port, port', rest, isPorts⟩ : ∃ port port' rest,
        portsOf ports cp.id = port :: port' :: rest := by
      match isPorts : portsOf ports cp.id with
      | [] => simp [isPorts] at many
      | [port] => simp [isPorts] at many
      | port :: port' :: rest => exact ⟨port, port', rest, rfl⟩
    have same {p : VnfLinkPortInfo} (inPorts : p ∈ portsOf ports cp.id) :
        (relink ports cp).vnfLinkPortId = some p.id := by
      obtain ⟨inPorts, owner⟩ := List.mem_filter.mp inPorts
      obtain ⟨cp', mem', isOwner, link⟩ := inverse.cp inPorts
      obtain ⟨cp'', mem'', rfl⟩ := List.mem_map.mp mem'
      have eq : cp'' = cp := List.inj_on_of_nodup_map ids mem'' mem
        (isOwner.trans (of_decide_eq_true owner))
      rw [← eq]
      exact link
    have first := same (isPorts ▸ List.mem_cons_self)
    have second := same (isPorts ▸ List.mem_cons_of_mem port List.mem_cons_self)
    have nodup : ((portsOf ports cp.id).map VnfLinkPortInfo.id).Nodup :=
      portIds.sublist (List.filter_sublist.map _)
    rw [isPorts] at nodup
    apply (List.nodup_cons.mp nodup).1
    rw [Option.some.inj (first.symm.trans second)]
    exact List.mem_cons_self
  · intro once
    constructor
    · intro cp inRelinked id link
      obtain ⟨cp, mem, rfl⟩ := List.mem_map.mp inRelinked
      change ((portsOf ports cp.id).getLast?.map VnfLinkPortInfo.id).or cp.vnfLinkPortId =
        some id at link
      rw [unlinked cp mem, Option.or_none] at link
      obtain ⟨port, isLast, rfl⟩ := Option.map_eq_some_iff.mp link
      obtain ⟨inPorts, owner⟩ := List.mem_filter.mp (List.mem_of_getLast? isLast)
      exact ⟨port, inPorts, rfl, of_decide_eq_true owner⟩
    · intro port inPorts
      obtain ⟨cp, mem, owner⟩ := linked.owned inPorts
      refine ⟨relink ports cp, List.mem_map_of_mem mem, owner, ?_⟩
      have own : port ∈ portsOf ports cp.id :=
        List.mem_filter.mpr ⟨inPorts, decide_eq_true owner.symm⟩
      have single : portsOf ports cp.id = [port] := by
        have short : (portsOf ports cp.id).length ≤ 1 := linked.counted mem ▸ once cp mem
        obtain ⟨port', isPorts⟩ := List.length_eq_one_iff.mp
          (Nat.le_antisymm short (List.length_pos_of_mem own))
        rw [isPorts] at own ⊢
        rw [List.mem_singleton.mp own]
      show ((portsOf ports cp.id).getLast?.map VnfLinkPortInfo.id).or cp.vnfLinkPortId = some port.id
      rw [single]
      rfl

end Tacker.Vnflcm
