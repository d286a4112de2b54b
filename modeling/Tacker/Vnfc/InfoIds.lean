import Tacker.Basis.Run
import Tacker.Vnfc.Infos

/-!
# The identifiers of VNFCs over runs

Users choose identifiers in `metadata['VDU_VNFc_mapping']`, which `MODIFY_INFO` may change, and the
operations that build the VNFCs anew hand them out. The identifiers of an instance are those of the
mapping at the time that its VNFCs were last built.
-/

namespace Tacker.Vnfc

open Tacker.Basis

variable {P : Type}

/-! ## Instances -/

/-- An instance: the mapping in its metadata and its VNFCs. The mapping that the identifiers were
given by is not stored; it is there to speak about. -/
structure Inst (P : Type) where
  mapping : Option Mapping
  vnfcs : List VnfcResourceInfo := []
  infos : List (VnfcInfo P) := []
  made : Option Mapping := none

/-- What happens to an instance. `MODIFY_INFO` leaves another mapping and edits the properties of
VNFCs, every other operation that succeeds finds resources in the stack, or terminates. -/
inductive Event (P : Type) where
  | modifyInfo (mapping : Option Mapping) (edit : VnfcInfo P → Option P)
  | build (flavour : Flavour) (heatReses : List HeatRes)
  | terminate

/-- The instance after an event. -/
def Inst.step (s : Inst P) : Event P → Option (Inst P)
  | .modifyInfo mapping edit =>
    if mapping.all checkMetadataFormat then
      some { s with
        mapping := mapping
        infos := s.infos.map fun info => { info with vnfcConfigurableProperties := edit info } }
    else none
  | .build flavour heatReses =>
    match sortedVnfcResInfos flavour heatReses with
    | .ok vnfcs =>
      some { s with
        vnfcs := vnfcs
        infos := makeVnfcInfos s.mapping s.infos vnfcs
        made := s.mapping }
    | .error _ => none
  | .terminate => some { s with vnfcs := [], infos := [], made := s.mapping }

/-! ## What is expected -/

/-- The identifiers of the VNFCs are different, and one of the mapping is used for its VDU only. -/
structure IdsHold (mapping : Option Mapping) (infos : List (VnfcInfo P)) : Prop where
  distinct : (infos.map VnfcInfo.id).Nodup
  mapped : ∀ m ∈ mapping, ∀ entry ∈ m.entries, ∀ info ∈ infos, info.id ∈ entry.2 →
    info.vduId = entry.1

/-- A VNFC that is there before and after keeps its identifier. -/
def IdsKept (s s' : Inst P) : Prop :=
  ∀ info ∈ s.infos, ∀ info' ∈ s'.infos, info'.vnfcResourceInfoId = info.vnfcResourceInfoId →
    info'.id = info.id

/-- A VNFC that is there before and after keeps its identifier unless the mapping has another one
for it than when it was given. -/
def IdsKeptByMapping (s s' : Inst P) : Prop :=
  ∀ info ∈ s.infos, ∀ info' ∈ s'.infos, info'.vnfcResourceInfoId = info.vnfcResourceInfoId →
    ∀ vnfc ∈ s'.vnfcs, vnfc.id = info.vnfcResourceInfoId →
      mappedId s'.made vnfc = mappedId s.made vnfc → info'.id = info.id

/-- What OpenStack is known to do, and what the users do: servers have UUIDs and stay in their VDU and
group, the indexed servers of a VDU have different indices, and no identifier of the mapping is that
of a server by default. -/
structure Usual (s : Inst P) (vnfcs : List VnfcResourceInfo) : Prop where
  uuids : ∀ vnfc ∈ vnfcs, vnfc.id.length = 36
  stays : ∀ vnfc ∈ vnfcs, ∀ vnfc' ∈ s.vnfcs, vnfc.id = vnfc'.id →
    vnfc.vduId = vnfc'.vduId ∧ vnfc.vduIdx = vnfc'.vduIdx
  indices : ∀ vnfc ∈ vnfcs, ∀ vnfc' ∈ vnfcs, vnfc.vduId = vnfc'.vduId → ∀ idx,
    vnfc.vduIdx = some idx → vnfc'.vduIdx = some idx → vnfc.id = vnfc'.id
  apart : ∀ m ∈ s.mapping, ∀ vnfc ∈ vnfcs, defaultId vnfc ∉ m.allVnfcInfoIds

/-- The VNFCs are built from usual resources. -/
def UsualEvent (p : Inst P × Event P) : Prop :=
  match p.2 with
  | .build flavour heatReses => ∀ vnfcs, sortedVnfcResInfos flavour heatReses = .ok vnfcs →
    Usual p.1 vnfcs
  | _ => True

/-! ## Identifiers of the VNFCs of one time -/

/-- The VNFCs of an instance, with the mapping that their identifiers are given by. -/
structure Given (mapping : Option Mapping) (vnfcs : List VnfcResourceInfo) : Prop where
  accepted : ∀ m ∈ mapping, m.allVnfcInfoIds.Nodup
  unique : (vnfcs.map VnfcResourceInfo.id).Nodup
  nonneg : ∀ vnfc ∈ vnfcs, ∀ idx, vnfc.vduIdx = some idx → 0 ≤ idx
  uuids : ∀ vnfc ∈ vnfcs, vnfc.id.length = 36
  indices : ∀ vnfc ∈ vnfcs, ∀ vnfc' ∈ vnfcs, vnfc.vduId = vnfc'.vduId → ∀ idx,
    vnfc.vduIdx = some idx → vnfc'.vduIdx = some idx → vnfc.id = vnfc'.id
  apart : ∀ m ∈ mapping, ∀ vnfc ∈ vnfcs, defaultId vnfc ∉ m.allVnfcInfoIds

variable {mapping : Option Mapping} {vnfcs : List VnfcResourceInfo} {vnfc vnfc' : VnfcResourceInfo}
  {infos : List (VnfcInfo P)} {s s' : Inst P} {e : Event P}

/-- The default identifier tells the server. -/
lemma defaultId_inj (length : vnfc.id.length = vnfc'.id.length)
    (eq : defaultId vnfc = defaultId vnfc') : vnfc.id = vnfc'.id := by
  have chars := congrArg String.toList eq
  unfold defaultId at chars
  rw [String.toList_append, String.toList_append] at chars
  rw [String.toList_append, String.toList_append] at chars
  exact String.toList_inj.mp (List.append_inj' chars length).2

/-- An identifier of the mapping is there at the place of the VNFC. -/
lemma mem_of_mappedId {id : String} (eq : mappedId mapping vnfc = some id) :
    ∃ m ids idx, mapping = some m ∧ (vnfc.vduId, ids) ∈ m.entries ∧ vnfc.vduIdx = some idx ∧
      ids[idx.toNat]? = some id := by
  obtain ⟨idx, m, ids, isIdx, isMapping, found, -, here⟩ := mappedId_eq_some.mp eq
  exact ⟨m, ids, idx, isMapping, Mapping.mem_of_get? found, isIdx, here⟩

lemma mem_allVnfcInfoIds {m : Mapping} {entry : String × List String} {id : String}
    (mem : entry ∈ m.entries) (inEntry : id ∈ entry.2) : id ∈ m.allVnfcInfoIds :=
  List.mem_flatMap.mpr ⟨entry, mem, inEntry⟩

/-- Two VNFCs with one identifier are the same server. -/
lemma Given.inj (given : Given mapping vnfcs) (mem : vnfc ∈ vnfcs) (mem' : vnfc' ∈ vnfcs)
    (eq : makeVnfcInfoId mapping vnfc = makeVnfcInfoId mapping vnfc') : vnfc.id = vnfc'.id := by
  unfold makeVnfcInfoId at eq
  cases here : mappedId mapping vnfc with
  | none =>
    cases here' : mappedId mapping vnfc' with
    | none =>
      rw [here, here'] at eq
      exact defaultId_inj ((given.uuids vnfc mem).trans (given.uuids vnfc' mem').symm) eq
    | some id =>
      rw [here, here'] at eq
      obtain ⟨m, ids, idx, isMapping, inMapping, -, there⟩ := mem_of_mappedId here'
      have isDefault : defaultId vnfc = id := eq
      apply absurd _ (given.apart m isMapping vnfc mem)
      rw [isDefault]
      exact mem_allVnfcInfoIds inMapping (List.mem_of_getElem? there)
  | some id =>
    obtain ⟨m, ids, idx, isMapping, inMapping, isIdx, there⟩ := mem_of_mappedId here
    cases here' : mappedId mapping vnfc' with
    | none =>
      rw [here, here'] at eq
      have isDefault : id = defaultId vnfc' := eq
      apply absurd _ (given.apart m isMapping vnfc' mem')
      rw [← isDefault]
      exact mem_allVnfcInfoIds inMapping (List.mem_of_getElem? there)
    | some id' =>
      rw [here, here'] at eq
      have same : id = id' := eq
      obtain ⟨m', ids', idx', isMapping', inMapping', isIdx', there'⟩ := mem_of_mappedId here'
      rw [isMapping] at isMapping'
      obtain rfl := Option.some.inj isMapping'
      rw [← same] at there'
      obtain ⟨vdus, places⟩ :=
        same_place (given.accepted m isMapping) inMapping inMapping' there there'
      have indices : idx = idx' := by
        have pos := given.nonneg vnfc mem idx isIdx
        have pos' := given.nonneg vnfc' mem' idx' isIdx'
        omega
      exact given.indices vnfc mem vnfc' mem' vdus idx isIdx (indices ▸ isIdx')

/-- The VNFC infos of an instance are those of its VNFCs. -/
structure Built (mapping : Option Mapping) (vnfcs : List VnfcResourceInfo)
    (infos : List (VnfcInfo P)) : Prop where
  given : Given mapping vnfcs
  ids : infos.map VnfcInfo.vnfcResourceInfoId = vnfcs.map VnfcResourceInfo.id
  each : ∀ info ∈ infos, ∃ vnfc ∈ vnfcs, info.vnfcResourceInfoId = vnfc.id ∧
    info.vduId = vnfc.vduId ∧ info.id = makeVnfcInfoId mapping vnfc

/-- They have the identifiers that are expected. -/
lemma Built.idsHold (built : Built mapping vnfcs infos) : IdsHold mapping infos := by
  have unique : (infos.map VnfcInfo.vnfcResourceInfoId).Nodup := by
    rw [built.ids]
    exact built.given.unique
  constructor
  · apply List.Nodup.map_on _ (List.Nodup.of_map _ unique)
    intro info mem info' mem' eq
    obtain ⟨vnfc, there, resource, -, id⟩ := built.each info mem
    obtain ⟨vnfc', there', resource', -, id'⟩ := built.each info' mem'
    apply List.inj_on_of_nodup_map unique mem mem'
    rw [resource, resource']
    exact built.given.inj there there' (by rw [← id, ← id', eq])
  · intro m isMapping entry inMapping info mem inEntry
    obtain ⟨vnfc, there, -, vduId, id⟩ := built.each info mem
    rw [vduId]
    unfold makeVnfcInfoId at id
    cases here : mappedId mapping vnfc with
    | none =>
      rw [here] at id
      have isDefault : info.id = defaultId vnfc := id
      rw [isDefault] at inEntry
      exact absurd (mem_allVnfcInfoIds inMapping inEntry) (built.given.apart m isMapping vnfc there)
    | some id' =>
      rw [here] at id
      have same : info.id = id' := id
      obtain ⟨m', ids, idx, isMapping', inMapping', -, atPlace⟩ := mem_of_mappedId here
      rw [isMapping] at isMapping'
      obtain rfl := Option.some.inj isMapping'
      rw [same] at inEntry
      obtain ⟨j, atPlace'⟩ := List.mem_iff_getElem?.mp inEntry
      exact (same_place (built.given.accepted m isMapping) inMapping' inMapping atPlace atPlace').1

/-! ## What each event does -/

/-- The three ways an instance changes. -/
lemma Inst.step_cases (st : s.step e = some s') :
    (∃ mapping edit, e = .modifyInfo mapping edit ∧ mapping.all checkMetadataFormat = true ∧
      s' = { s with
        mapping := mapping
        infos := s.infos.map fun info => { info with vnfcConfigurableProperties := edit info } }) ∨
    (∃ flavour heatReses vnfcs, e = .build flavour heatReses ∧
      sortedVnfcResInfos flavour heatReses = .ok vnfcs ∧
      s' = { s with
        vnfcs := vnfcs
        infos := makeVnfcInfos s.mapping s.infos vnfcs
        made := s.mapping }) ∨
    e = .terminate ∧ s' = { s with vnfcs := [], infos := [], made := s.mapping } := by
  cases e with
  | modifyInfo mapping edit =>
    simp only [Inst.step] at st
    by_cases ok : mapping.all checkMetadataFormat = true
    · rw [if_pos ok] at st
      exact .inl ⟨mapping, edit, rfl, ok, (Option.some.inj st).symm⟩
    · rw [if_neg ok] at st
      cases st
  | build flavour heatReses =>
    simp only [Inst.step] at st
    cases result : sortedVnfcResInfos flavour heatReses with
    | error raised =>
      rw [result] at st
      cases st
    | ok vnfcs =>
      rw [result] at st
      exact .inr (.inl ⟨flavour, heatReses, vnfcs, rfl, result, (Option.some.inj st).symm⟩)
  | terminate => exact .inr (.inr ⟨rfl, (Option.some.inj st).symm⟩)

/-- An instance that was reached: its mapping is accepted, and its VNFCs are built. -/
structure Reached (s : Inst P) : Prop where
  accepted : ∀ m ∈ s.mapping, m.allVnfcInfoIds.Nodup
  built : Built s.made s.vnfcs s.infos

lemma given_nil (accepted : ∀ m ∈ mapping, m.allVnfcInfoIds.Nodup) : Given mapping [] := by
  refine ⟨accepted, List.nodup_nil, ?_, ?_, ?_, ?_⟩
  · intro vnfc mem
    cases mem
  · intro vnfc mem
    cases mem
  · intro vnfc mem
    cases mem
  · intro m _ vnfc mem
    cases mem

lemma built_nil (accepted : ∀ m ∈ mapping, m.allVnfcInfoIds.Nodup) :
    Built mapping [] ([] : List (VnfcInfo P)) := by
  refine ⟨given_nil accepted, rfl, ?_⟩
  intro info mem
  cases mem

/-- Usual resources are given identifiers. -/
lemma given_of_usual {flavour : Flavour} {heatReses : List HeatRes}
    (accepted : ∀ m ∈ s.mapping, m.allVnfcInfoIds.Nodup)
    (ok : sortedVnfcResInfos flavour heatReses = .ok vnfcs) (usual : Usual s vnfcs) :
    Given s.mapping vnfcs := by
  obtain ⟨made, eq, sorted⟩ := bind_ok.mp ok
  refine ⟨accepted, (inOrder_of_sorted eq sorted).once, ?_, usual.uuids, usual.indices, usual.apart⟩
  intro vnfc mem idx isIdx
  obtain ⟨serverRes, -, eq'⟩ := (mem_of_mapM_ok eq).mp ((sortDesc_perm sorted).mem_iff.mp mem)
  exact vduIdx_nonneg (madeOf eq') isIdx

/-- The entries that are made of VNFCs are built, where the servers stay in their VDUs. -/
lemma built_makeVnfcInfos {old : List (VnfcInfo P)} {oldVnfcs : List VnfcResourceInfo}
    {oldMapping : Option Mapping} (built : Built oldMapping oldVnfcs old) (given : Given mapping vnfcs)
    (stays : ∀ vnfc ∈ vnfcs, ∀ vnfc' ∈ oldVnfcs, vnfc.id = vnfc'.id → vnfc.vduId = vnfc'.vduId) :
    Built mapping vnfcs (makeVnfcInfos mapping old vnfcs) := by
  refine ⟨given, ?_, ?_⟩
  · unfold makeVnfcInfos
    rw [List.map_map]
    apply List.map_congr_left
    intro vnfc _
    exact vnfcResourceInfoId_makeVnfcInfo
  · intro info mem
    obtain ⟨vnfc, there, rfl⟩ := List.mem_map.mp mem
    refine ⟨vnfc, there, vnfcResourceInfoId_makeVnfcInfo, ?_, id_makeVnfcInfo⟩
    unfold makeVnfcInfo
    cases found : old.find? fun info => info.vnfcResourceInfoId = vnfc.id with
    | none => rfl
    | some info =>
      have resource : info.vnfcResourceInfoId = vnfc.id :=
        of_decide_eq_true (List.find?_some found :)
      obtain ⟨vnfc', there', resource', vduId, -⟩ := built.each info (List.mem_of_find?_eq_some found)
      show info.vduId = vnfc.vduId
      rw [vduId]
      exact (stays vnfc there vnfc' there' (resource.symm.trans resource')).symm

/-- Every usual event keeps the instance as it is expected. -/
lemma Reached.step (reached : Reached s) (usual : UsualEvent (s, e)) (st : s.step e = some s') :
    Reached s' := by
  rcases Inst.step_cases st with ⟨mapping, edit, rfl, ok, rfl⟩ |
    ⟨flavour, heatReses, vnfcs, rfl, result, rfl⟩ | ⟨rfl, rfl⟩
  · refine ⟨fun m isMapping => ?_, reached.built.given, ?_, ?_⟩
    · have isMapping : mapping = some m := isMapping
      rw [isMapping] at ok
      exact checkMetadataFormat_iff.mp ok
    · rw [← reached.built.ids, List.map_map]
      rfl
    · intro info mem
      obtain ⟨before, there, rfl⟩ := List.mem_map.mp mem
      exact reached.built.each before there
  · have usual := usual vnfcs result
    refine ⟨reached.accepted, ?_⟩
    apply built_makeVnfcInfos reached.built (given_of_usual reached.accepted result usual)
    intro vnfc mem vnfc' mem' same
    exact (usual.stays vnfc mem vnfc' mem' same).1
  · exact ⟨reached.accepted, built_nil reached.accepted⟩

/-- What the identifier of a VNFC depends on. -/
lemma makeVnfcInfoId_congr {mapping' : Option Mapping} (id : vnfc.id = vnfc'.id)
    (vduId : vnfc.vduId = vnfc'.vduId) (mapped : mappedId mapping vnfc = mappedId mapping' vnfc') :
    makeVnfcInfoId mapping vnfc = makeVnfcInfoId mapping' vnfc' := by
  unfold makeVnfcInfoId defaultId
  rw [id, vduId, mapped]

lemma mappedId_congr (vduId : vnfc.vduId = vnfc'.vduId) (vduIdx : vnfc.vduIdx = vnfc'.vduIdx) :
    mappedId mapping vnfc = mappedId mapping vnfc' := by
  unfold mappedId
  rw [vduId, vduIdx]

/-- A usual event keeps the identifiers as the mapping does. -/
lemma Reached.kept (reached : Reached s) (usual : UsualEvent (s, e)) (st : s.step e = some s') :
    IdsKeptByMapping s s' := by
  intro info mem info' mem' same vnfc there isVnfc unchanged
  rcases Inst.step_cases st with ⟨mapping, edit, rfl, -, rfl⟩ |
    ⟨flavour, heatReses, vnfcs, rfl, result, rfl⟩ | ⟨rfl, rfl⟩
  · obtain ⟨before, isBefore, rfl⟩ := List.mem_map.mp mem'
    have unique : (s.infos.map VnfcInfo.vnfcResourceInfoId).Nodup := by
      rw [reached.built.ids]
      exact reached.built.given.unique
    rw [List.inj_on_of_nodup_map unique isBefore mem same]
  · have usual := usual vnfcs result
    obtain ⟨made, isMade, rfl⟩ := List.mem_map.mp mem'
    rw [vnfcResourceInfoId_makeVnfcInfo] at same
    obtain ⟨old, isOld, resource, -, id⟩ := reached.built.each info mem
    have isSame : made = vnfc := by
      apply List.inj_on_of_nodup_map (given_of_usual reached.accepted result usual).unique isMade there
      rw [same, isVnfc]
    subst isSame
    obtain ⟨vduId, vduIdx⟩ := usual.stays made isMade old isOld (same.trans resource)
    have unchanged : mappedId s.mapping made = mappedId s.made made := unchanged
    rw [id_makeVnfcInfo, id]
    apply makeVnfcInfoId_congr (same.trans resource) vduId
    rw [unchanged, mappedId_congr vduId vduIdx]
  · cases mem'

/-! ## Main results -/

/-- One VDU. -/
def oneVdu : Flavour := ⟨[("VDU1", [])], []⟩

/-- Its server, in a group with an index. -/
def oneServer : List HeatRes :=
  [ { resourceName := "VDU1", resourceType := "OS::Nova::Server"
      physicalResourceId := "6b89f9c9-ebd8-49ca-8e2c-c01838daeb95"
      parentResource := some "VDU1-0" },
    { resourceName := "VDU1-0", resourceType := "VDU1.yaml", physicalResourceId := "stack-1" } ]

/-- The VNFC of the server. -/
def oneVnfc : VnfcResourceInfo :=
  { id := "6b89f9c9-ebd8-49ca-8e2c-c01838daeb95", vduId := "VDU1"
    metadata := { creationTime := 0, stackId := none, vduIdx := some (some 0) } }

/-- An identifier that a user chose. -/
def chosen : Mapping := ⟨[("VDU1", ["a"])], List.nodup_singleton "VDU1"⟩

lemma sorted_oneServer : sortedVnfcResInfos oneVdu oneServer = .ok [oneVnfc] := by decide

/-- The server is usual as long as nobody chooses its identifier. -/
lemma usual_oneServer (before : ∀ vnfc ∈ s.vnfcs, vnfc = oneVnfc)
    (apart : ∀ m ∈ s.mapping, defaultId oneVnfc ∉ m.allVnfcInfoIds) :
    UsualEvent (s, .build oneVdu oneServer) := by
  intro vnfcs result
  obtain rfl := Except.ok.inj (sorted_oneServer.symm.trans result)
  have isIt : ∀ vnfc ∈ [oneVnfc], vnfc = oneVnfc := fun vnfc mem => List.mem_singleton.mp mem
  constructor
  · intro vnfc mem
    rw [isIt vnfc mem]
    decide
  · intro vnfc mem vnfc' mem' _
    rw [isIt vnfc mem, before vnfc' mem']
    exact ⟨rfl, rfl⟩
  · intro vnfc mem vnfc' mem' _ _ _ _
    rw [isIt vnfc mem, isIt vnfc' mem']
  · intro m isMapping vnfc mem
    rw [isIt vnfc mem]
    exact apart m isMapping

/-- The instance after its server was found. -/
def oneBuilt (mapping : Option Mapping) (infos : List (VnfcInfo Unit)) : Inst Unit :=
  { mapping := mapping, vnfcs := [oneVnfc], infos := makeVnfcInfos mapping infos [oneVnfc]
    made := mapping }

lemma step_oneServer {s : Inst Unit} :
    s.step (.build oneVdu oneServer) = some (oneBuilt s.mapping s.infos) := by
  simp only [Inst.step, sorted_oneServer]
  rfl

end Tacker.Vnfc
