import Tacker.OpOcc.UpdateLcmocc
import Mathlib.Data.Finset.Sort
import Mathlib.Data.String.Basic

/-!
# The recorded changes are the exact difference

What the saved and the updated information of an instance differ in, resource by resource, and that
`update_lcmocc` records just that. A report is known by the identifier of the resource and its
change type.
-/

namespace Tacker.OpOcc

open Tacker.Objects Tacker.Basis

variable {α : Type} {ident : α → String} {order : SetOrder} {op : LcmOperationType}
variable {saved info : InstantiatedVnfInfo} {id : String}

/-! ## The difference -/

/-- An object of the list has the identifier. -/
def Has (ident : α → String) (objs : Option (List α)) (id : String) : Prop :=
  ∃ obj ∈ objs.getD [], ident obj = id

/-- A virtual link of the list with the identifier has the port. -/
def HasPort (vls : Option (List VnfVirtualLinkResourceInfo)) (id port : String) : Prop :=
  ∃ vl ∈ vls.getD [], vl.id = id ∧ Has (·.id) vl.vnfLinkPorts port

/-- Which objects are there on one side only. -/
def OneSided (removedType addedType : ChangeType) (ident : α → String)
    (saved objs : Option (List α)) (report : String × ChangeType) : Prop :=
  (report.2 = removedType ∧ Has ident saved report.1 ∧ ¬ Has ident objs report.1) ∨
    (report.2 = addedType ∧ Has ident objs report.1 ∧ ¬ Has ident saved report.1)

/-- A VNFC is there on both sides and its metadata differs. -/
def MetadataChanged (saved info : InstantiatedVnfInfo) (id : String) : Prop :=
  ∃ vnfcSaved ∈ saved.vnfcResourceInfo.getD [], ∃ vnfc ∈ info.vnfcResourceInfo.getD [],
    vnfcSaved.id = id ∧ vnfc.id = id ∧ vnfc.metadata ≠ vnfcSaved.metadata

/-- What the VNFCs differ in. -/
def VnfcDifference (op : LcmOperationType) (saved info : InstantiatedVnfInfo)
    (report : String × ChangeType) : Prop :=
  OneSided .removed .added (·.id) saved.vnfcResourceInfo info.vnfcResourceInfo report ∨
    (report.2 = .modified ∧ op = .changeVnfpkg ∧ MetadataChanged saved info report.1)

/-- What the ports of the links differ in that are there on both sides. -/
def PortDifference (vlsSaved vls : Option (List VnfVirtualLinkResourceInfo))
    (report : String × ChangeType) : Prop :=
  Has (·.id) vlsSaved report.1 ∧ Has (·.id) vls report.1 ∧
    ((report.2 = .linkPortAdded ∧
        ∃ port, HasPort vls report.1 port ∧ ¬ HasPort vlsSaved report.1 port) ∨
      (report.2 = .linkPortRemoved ∧
        ∃ port, HasPort vlsSaved report.1 port ∧ ¬ HasPort vls report.1 port))

/-- A report of a link that is there on both sides names the ports it got or those it lost. -/
structure NamesPorts (vlsSaved vls : Option (List VnfVirtualLinkResourceInfo))
    (report : AffectedVirtualLink) : Prop where
  added (both : Has (·.id) vlsSaved report.id ∧ Has (·.id) vls report.id)
    (type : report.changeType = .linkPortAdded) :
    ∃ ports, report.vnfLinkPortIds = some ports ∧
      Exactly ports (fun port => HasPort vls report.id port ∧ ¬ HasPort vlsSaved report.id port)
  removed (both : Has (·.id) vlsSaved report.id ∧ Has (·.id) vls report.id)
    (type : report.changeType = .linkPortRemoved) :
    ∃ ports, report.vnfLinkPortIds = some ports ∧
      Exactly ports (fun port => HasPort vlsSaved report.id port ∧ ¬ HasPort vls report.id port)

/-- The reports of links are the difference. -/
structure VlsExact (removedType addedType : ChangeType)
    (vlsSaved vls : Option (List VnfVirtualLinkResourceInfo)) (reports : List AffectedVirtualLink) :
    Prop where
  once : Exactly (reports.map fun report => (report.id, report.changeType)) fun report =>
    OneSided removedType addedType (·.id) vlsSaved vls report ∨ PortDifference vlsSaved vls report
  ports (report : AffectedVirtualLink) (mem : report ∈ reports) : NamesPorts vlsSaved vls report

/-- A link port is reported as often as the list of its side has it; the other change types are not
used. -/
structure ExtLinkPortsExact (saved ports : List ExtLinkPortInfo)
    (reports : List AffectedExtLinkPort) : Prop where
  added (id : String) :
    (reports.map fun report => (report.id, report.changeType)).count (id, .added) =
      if id ∈ saved.map (·.id) then 0 else (ports.map (·.id)).count id
  removed (id : String) :
    (reports.map fun report => (report.id, report.changeType)).count (id, .removed) =
      if id ∈ ports.map (·.id) then 0 else (saved.map (·.id)).count id
  only (report : AffectedExtLinkPort) (mem : report ∈ reports) :
    report.changeType = .added ∨ report.changeType = .removed

/-- The recorded lists are the difference of the saved and the updated information. -/
structure ExactDifference (op : LcmOperationType) (saved info : InstantiatedVnfInfo)
    (found : Affected) : Prop where
  vnfcs : Exactly (found.vnfcs.map fun report => (report.id, report.changeType))
    (VnfcDifference op saved info)
  strgs : Exactly (found.strgs.map fun report => (report.id, report.changeType))
    (OneSided .removed .added (·.id) saved.virtualStorageResourceInfo
      info.virtualStorageResourceInfo)
  internalVls : VlsExact .removed .added saved.vnfVirtualLinkResourceInfo
    info.vnfVirtualLinkResourceInfo found.internalVls
  managedVls : VlsExact .linkPortRemoved .linkPortAdded saved.extManagedVirtualLinkInfo
    info.extManagedVirtualLinkInfo found.managedVls
  extLinkPorts : ExtLinkPortsExact (extPorts saved.extVirtualLinkInfo)
    (extPorts info.extVirtualLinkInfo) found.extLinkPorts

/-! ## What is asked of the information -/

/-- No two objects of a list have one identifier. -/
structure UniqueIds (info : InstantiatedVnfInfo) : Prop where
  vnfcs : ((info.vnfcResourceInfo.getD []).map (·.id)).Nodup
  strgs : ((info.virtualStorageResourceInfo.getD []).map (·.id)).Nodup
  internalVls : ((info.vnfVirtualLinkResourceInfo.getD []).map (·.id)).Nodup
  managedVls : ((info.extManagedVirtualLinkInfo.getD []).map (·.id)).Nodup

/-- The attributes that are read without a check are there. -/
structure Comparable (saved info : InstantiatedVnfInfo) : Prop where
  savedUnique : UniqueIds saved
  infoUnique : UniqueIds info
  savedCps : ∀ port ∈ extPorts saved.extVirtualLinkInfo, port.cpInstanceId ≠ none
  infoCps : ∀ port ∈ extPorts info.extVirtualLinkInfo, port.cpInstanceId ≠ none
  savedMetadata : ∀ vnfc ∈ saved.vnfcResourceInfo.getD [], vnfc.metadata ≠ none
  infoMetadata : ∀ vnfc ∈ info.vnfcResourceInfo.getD [], vnfc.metadata ≠ none
  storages : ∀ vnfcSaved ∈ saved.vnfcResourceInfo.getD [],
    ∀ vnfc ∈ info.vnfcResourceInfo.getD [], vnfcSaved.id = vnfc.id →
      (vnfcSaved.storageResourceIds = none ↔ vnfc.storageResourceIds = none)

/-! ## Sets of identifiers -/

@[simp] lemma mem_idSet {objs : Option (List α)} : id ∈ idSet ident objs ↔ Has ident objs id := by
  simp [idSet, Has]

lemma mem_map_ident {objs : Option (List α)} :
    id ∈ (objs.getD []).map ident ↔ Has ident objs id := by
  simp [Has]

section calcDiff

variable {savedObjs objs : Option (List α)}

@[simp] lemma mem_removed :
    id ∈ (calcDiff ident savedObjs objs).removed ↔ Has ident savedObjs id ∧ ¬ Has ident objs id := by
  simp [calcDiff]

@[simp] lemma mem_added :
    id ∈ (calcDiff ident savedObjs objs).added ↔ Has ident objs id ∧ ¬ Has ident savedObjs id := by
  simp [calcDiff]

@[simp] lemma mem_common :
    id ∈ (calcDiff ident savedObjs objs).common ↔ Has ident savedObjs id ∧ Has ident objs id := by
  simp [calcDiff]

end calcDiff

/-- Both one-sided parts of a report list, made in the same way. -/
lemma oneSided_exact {β : Type} {saved objs : Option (List α)} (ident : α → String)
    (savedNodup : ((saved.getD []).map ident).Nodup) (nodup : ((objs.getD []).map ident).Nodup)
    (makeRemoved makeAdded : α → β) (key : β → String × ChangeType) {removedType addedType}
    (keyRemoved : ∀ x, key (makeRemoved x) = (ident x, removedType))
    (keyAdded : ∀ x, key (makeAdded x) = (ident x, addedType)) :
    Exactly (((withIds ident saved (calcDiff ident saved objs).removed).map makeRemoved ++
        (withIds ident objs (calcDiff ident saved objs).added).map makeAdded).map key)
      (OneSided removedType addedType ident saved objs) := by
  have removedPart := Exactly.tagged savedNodup (s := (calcDiff ident saved objs).removed)
    (fun k mem => mem_map_ident.mpr (mem_removed.mp mem).1) removedType
  have addedPart := Exactly.tagged nodup (s := (calcDiff ident saved objs).added)
    (fun k mem => mem_map_ident.mpr (mem_added.mp mem).1) addedType
  have both := removedPart.append addedPart (by
    rintro ⟨k, t⟩ ⟨-, inRemoved⟩ ⟨-, inAdded⟩
    exact (mem_removed.mp inRemoved).2 (mem_added.mp inAdded).1)
  have removedKeys : key ∘ makeRemoved = fun x => (ident x, removedType) := funext keyRemoved
  have addedKeys : key ∘ makeAdded = fun x => (ident x, addedType) := funext keyAdded
  rw [List.map_append, List.map_map, List.map_map, removedKeys, addedKeys]
  refine both.congr (fun report => ?_)
  simp only [mem_removed, mem_added, OneSided]

/-- With unique identifiers the search finds the object. -/
lemma getById_eq {objs : Option (List α)} (nodup : ((objs.getD []).map ident).Nodup) {obj : α}
    (mem : obj ∈ objs.getD []) (eqId : ident obj = id) : getById ident objs id = some obj := by
  subst eqId
  unfold getById
  generalize objs.getD [] = xs at nodup mem
  induction xs with
  | nil => cases mem
  | cons x xs ih =>
    rw [List.map_cons, List.nodup_cons] at nodup
    rcases List.mem_cons.mp mem with rfl | mem
    · simp
    · have ne : ident x ≠ ident obj := fun eq => nodup.1 (eq ▸ List.mem_map_of_mem mem)
      rw [List.find?_cons_of_neg (by simpa using ne)]
      exact ih nodup.2 mem

/-! ## Storages -/

lemma affectedStrgs_exact (savedUnique : UniqueIds saved) (unique : UniqueIds info) :
    Exactly ((affectedStrgs saved info).map fun report => (report.id, report.changeType))
      (OneSided .removed .added (·.id) saved.virtualStorageResourceInfo
        info.virtualStorageResourceInfo) :=
  oneSided_exact _ savedUnique.strgs unique.strgs _ _ _ (fun _ => rfl) (fun _ => rfl)

/-! ## VNFCs -/

/-- The report of a modified VNFC, if its storages can be compared. -/
lemma makeAffectedVnfcModified_spec (order : SetOrder) {vnfc vnfcSaved : VnfcResourceInfo}
    (metadata : vnfc.metadata ≠ none)
    (storages : vnfcSaved.storageResourceIds = none ↔ vnfc.storageResourceIds = none) :
    ∃ report, makeAffectedVnfcModified order vnfc vnfcSaved = some report ∧ report.id = vnfc.id ∧
      report.changeType = .modified := by
  obtain ⟨m, eqM⟩ := Option.ne_none_iff_exists'.mp metadata
  unfold makeAffectedVnfcModified
  rw [eqM]
  cases eqIds : vnfc.storageResourceIds with
  | none => exact ⟨_, rfl, rfl, rfl⟩
  | some ids =>
    have set : vnfcSaved.storageResourceIds ≠ none := fun unset => by
      rw [storages.mp unset] at eqIds; cases eqIds
    obtain ⟨idsSaved, eqSaved⟩ := Option.ne_none_iff_exists'.mp set
    rw [eqSaved]
    exact ⟨_, rfl, rfl, rfl⟩

/-- A VNFC that is there on both sides is reported if its metadata changed. -/
lemma compareVnfc_spec (order : SetOrder) (ok : Comparable saved info)
    (both : Has (·.id) saved.vnfcResourceInfo id ∧ Has (·.id) info.vnfcResourceInfo id) :
    ∃ reports, compareVnfc order saved info id = some reports ∧
      Exactly (reports.map fun report => (report.id, report.changeType))
        (fun report => report = (id, .modified) ∧ MetadataChanged saved info id) := by
  obtain ⟨⟨vnfcSaved, memSaved, eqIdSaved⟩, vnfc, mem, eqId⟩ := both
  have foundSaved := getById_eq ok.savedUnique.vnfcs memSaved eqIdSaved
  have found := getById_eq ok.infoUnique.vnfcs mem eqId
  obtain ⟨m, eqM⟩ := Option.ne_none_iff_exists'.mp (ok.infoMetadata vnfc mem)
  obtain ⟨mSaved, eqSaved⟩ := Option.ne_none_iff_exists'.mp (ok.savedMetadata vnfcSaved memSaved)
  have changed : MetadataChanged saved info id ↔ m ≠ mSaved := by
    constructor
    · rintro ⟨x, memX, y, memY, eqX, eqY, ne⟩
      have isX := getById_eq ok.savedUnique.vnfcs memX eqX
      have isY := getById_eq ok.infoUnique.vnfcs memY eqY
      cases foundSaved.symm.trans isX
      cases found.symm.trans isY
      rw [eqM, eqSaved] at ne
      exact fun eq => ne (congrArg some eq)
    · intro ne
      refine ⟨vnfcSaved, memSaved, vnfc, mem, eqIdSaved, eqId, ?_⟩
      rw [eqM, eqSaved]
      exact fun eq => ne (Option.some.inj eq)
  have run : compareVnfc order saved info id =
      if m ≠ mSaved then (makeAffectedVnfcModified order vnfc vnfcSaved).map (fun a => [a])
      else some [] := by
    unfold compareVnfc
    rw [found, foundSaved]
    simp only [Option.bind_eq_bind, Option.bind_some, eqM, eqSaved]
    cases makeAffectedVnfcModified order vnfc vnfcSaved <;> rfl
  rw [run]
  split
  · case isTrue ne =>
      obtain ⟨report, eq, eqRep, type⟩ := makeAffectedVnfcModified_spec order
        (ok.infoMetadata vnfc mem) (ok.storages vnfcSaved memSaved vnfc mem (eqIdSaved.trans eqId.symm))
      refine ⟨[report], by rw [eq]; rfl, ?_⟩
      refine (Exactly.singleton (report.id, report.changeType)).congr (fun key => ?_)
      rw [eqRep, type, show vnfc.id = id from eqId]
      exact ⟨fun eq => ⟨eq, changed.mpr ne⟩, fun h => h.1⟩
  · case isFalse same =>
      exact ⟨[], rfl, Exactly.nil (fun key h => same (changed.mp h.2))⟩

/-- The reports of VNFCs are the difference. -/
lemma affectedVnfcs_exact (order : SetOrder) (op : LcmOperationType)
    (ok : Comparable saved info) :
    ∃ reports, affectedVnfcs order op saved info = some reports ∧
      Exactly (reports.map fun report => (report.id, report.changeType))
        (VnfcDifference op saved info) := by
  have oneSided := oneSided_exact (·.id) ok.savedUnique.vnfcs ok.infoUnique.vnfcs
    (makeAffectedVnfc .removed (calcDiff (·.id) saved.virtualStorageResourceInfo
      info.virtualStorageResourceInfo).removed)
    (makeAffectedVnfc .added (calcDiff (·.id) saved.virtualStorageResourceInfo
      info.virtualStorageResourceInfo).added)
    (fun report => (report.id, report.changeType)) (fun _ => rfl) (fun _ => rfl)
  by_cases changePkg : op = .changeVnfpkg
  · have common := (order.exact (calcDiff (·.id) saved.vnfcResourceInfo
      info.vnfcResourceInfo).common).congr (fun _ => mem_common)
    obtain ⟨yss, run, exact, -⟩ := common.mapM (fun report : AffectedVnfc =>
      (report.id, report.changeType)) (fun id both => compareVnfc_spec order ok both)
      (fun x x' k _ _ h h' => congrArg Prod.fst (h.1.symm.trans h'.1))
    have whole := oneSided.append exact (by
      rintro ⟨k, t⟩ side ⟨x, both, eq, -⟩
      cases eq
      rcases side with ⟨type, -⟩ | ⟨type, -⟩ <;> cases type)
    rw [← List.map_append] at whole
    refine ⟨_, ?_, whole.congr (fun key => or_congr_right ?_)⟩
    · unfold affectedVnfcs
      simp only [Option.bind_eq_bind, if_pos changePkg, run, Option.bind_some]
    · constructor
      · rintro ⟨x, both, rfl, changed⟩
        exact ⟨rfl, changePkg, changed⟩
      · obtain ⟨k, t⟩ := key
        rintro ⟨rfl, -, changed⟩
        obtain ⟨x, memX, y, memY, eqX, eqY, ne⟩ := changed
        exact ⟨k, ⟨⟨x, memX, eqX⟩, ⟨y, memY, eqY⟩⟩, rfl, ⟨x, memX, y, memY, eqX, eqY, ne⟩⟩
  · refine ⟨_, ?_, oneSided.congr (fun key => ?_)⟩
    · unfold affectedVnfcs
      simp only [Option.bind_eq_bind, if_neg changePkg, Option.bind_some, List.flatten_nil,
        List.append_nil]
    · simp [VnfcDifference, changePkg]

/-! ## Virtual links -/

section vls

variable {vlsSaved vls : Option (List VnfVirtualLinkResourceInfo)}
variable {vl : VnfVirtualLinkResourceInfo}

lemma foldl_searchVl_of_not_mem (xs : List VnfVirtualLinkResourceInfo)
    (found : Option VnfVirtualLinkResourceInfo × Finset String) (other : id ∉ xs.map (·.id)) :
    xs.foldl (searchVl id) found = found := by
  induction xs with
  | nil => rfl
  | cons x xs ih =>
    rw [List.map_cons, List.mem_cons, not_or] at other
    rw [List.foldl_cons, searchVl, if_neg (Ne.symm other.1)]
    exact ih other.2

/-- With unique identifiers the search finds the link and its ports. -/
lemma vlAndPorts_eq (nodup : ((vls.getD []).map (·.id)).Nodup) (mem : vl ∈ vls.getD [])
    (eqId : vl.id = id) : vlAndPorts id vls = (some vl, idSet (·.id) vl.vnfLinkPorts) := by
  subst eqId
  unfold vlAndPorts
  generalize vls.getD [] = xs at nodup mem
  induction xs with
  | nil => cases mem
  | cons x xs ih =>
    rw [List.map_cons, List.nodup_cons] at nodup
    rw [List.foldl_cons]
    rcases List.mem_cons.mp mem with rfl | mem
    · rw [foldl_searchVl_of_not_mem xs _ nodup.1, searchVl, if_pos rfl]
      cases vl.vnfLinkPorts <;> rfl
    · have ne : x.id ≠ vl.id := fun eq => nodup.1 (eq ▸ List.mem_map_of_mem mem)
      rw [searchVl, if_neg ne]
      exact ih nodup.2 mem

lemma hasPort_iff (port : String) (nodup : ((vls.getD []).map (·.id)).Nodup)
    (mem : vl ∈ vls.getD []) (eqId : vl.id = id) :
    HasPort vls id port ↔ port ∈ idSet (·.id) vl.vnfLinkPorts := by
  rw [mem_idSet]
  constructor
  · rintro ⟨other, memOther, eqOther, has⟩
    have same := List.inj_on_of_nodup_map nodup memOther mem (eqOther.trans eqId.symm)
    exact same ▸ has
  · exact fun has => ⟨vl, mem, eqId, has⟩

/-- The report of the ports a link got or lost. -/
lemma reportPorts_spec (order : SetOrder) (vl : VnfVirtualLinkResourceInfo) (changeType : ChangeType)
    (ports : Finset String) :
    ∃ reports, reportPorts order changeType (some vl) ports = some reports ∧
      Exactly (reports.map fun report => (report.id, report.changeType))
        (fun report => report = (vl.id, changeType) ∧ ∃ port, port ∈ ports) ∧
      ∀ report ∈ reports, report.id = vl.id ∧ report.changeType = changeType ∧
        report.vnfLinkPortIds = some (order.iter ports) := by
  unfold reportPorts
  split
  · case isTrue none =>
      subst none
      refine ⟨[], rfl, Exactly.nil (fun key h => ?_), fun report mem => by cases mem⟩
      obtain ⟨port, mem⟩ := h.2
      exact Finset.notMem_empty port mem
  · case isFalse some =>
      have any : ∃ port, port ∈ ports := Finset.nonempty_iff_ne_empty.mpr some
      refine ⟨_, rfl, ?_, fun report mem => ?_⟩
      · exact (Exactly.singleton (vl.id, changeType)).congr
          (fun key => ⟨fun eq => ⟨eq, any⟩, fun h => h.1⟩)
      · obtain rfl := List.mem_singleton.mp mem
        exact ⟨rfl, rfl, rfl⟩

/-- A link that is there on both sides is reported with the ports it got and those it lost. -/
lemma compareVl_spec (order : SetOrder) (savedNodup : ((vlsSaved.getD []).map (·.id)).Nodup)
    (nodup : ((vls.getD []).map (·.id)).Nodup)
    (both : Has (·.id) vlsSaved id ∧ Has (·.id) vls id) :
    ∃ reports, compareVl order vlsSaved vls id = some reports ∧
      Exactly (reports.map fun report => (report.id, report.changeType))
        (fun report => report.1 = id ∧ PortDifference vlsSaved vls report) ∧
      ∀ report ∈ reports, NamesPorts vlsSaved vls report := by
  have both' := both
  obtain ⟨⟨oldVl, memOld, eqOld⟩, newVl, memNew, eqNew⟩ := both'
  obtain ⟨added, runAdded, exactAdded, portsAdded⟩ := reportPorts_spec order newVl .linkPortAdded
    (idSet (·.id) newVl.vnfLinkPorts \ idSet (·.id) oldVl.vnfLinkPorts)
  obtain ⟨removed, runRemoved, exactRemoved, portsRemoved⟩ := reportPorts_spec order oldVl
    .linkPortRemoved (idSet (·.id) oldVl.vnfLinkPorts \ idSet (·.id) newVl.vnfLinkPorts)
  have oldPort (port : String) := hasPort_iff port savedNodup memOld eqOld
  have newPort (port : String) := hasPort_iff port nodup memNew eqNew
  refine ⟨added ++ removed, ?_, ?_, fun report mem => ?_⟩
  · unfold compareVl
    rw [vlAndPorts_eq savedNodup memOld eqOld, vlAndPorts_eq nodup memNew eqNew]
    simp only [Option.bind_eq_bind, runAdded, runRemoved, Option.bind_some]
  · have parts := exactAdded.append exactRemoved (fun key ofAdded ofRemoved => by
      cases congrArg Prod.snd (ofAdded.1.symm.trans ofRemoved.1))
    rw [← List.map_append] at parts
    refine parts.congr (fun key => ?_)
    obtain ⟨k, t⟩ := key
    have eqOld : oldVl.id = id := eqOld
    have eqNew : newVl.id = id := eqNew
    simp only [Prod.mk.injEq, Finset.mem_sdiff, ← oldPort, ← newPort, eqOld, eqNew, PortDifference]
    constructor
    · rintro (⟨⟨rfl, rfl⟩, port⟩ | ⟨⟨rfl, rfl⟩, port⟩)
      · exact ⟨rfl, both.1, both.2, Or.inl ⟨rfl, port⟩⟩
      · exact ⟨rfl, both.1, both.2, Or.inr ⟨rfl, port⟩⟩
    · rintro ⟨rfl, -, -, ⟨rfl, port⟩ | ⟨rfl, port⟩⟩
      · exact Or.inl ⟨⟨rfl, rfl⟩, port⟩
      · exact Or.inr ⟨⟨rfl, rfl⟩, port⟩
  · rcases List.mem_append.mp mem with mem | mem
    · obtain ⟨eqId, type, names⟩ := portsAdded report mem
      have eqId : report.id = id := eqId.trans eqNew
      refine ⟨fun _ _ => ⟨_, names, (order.exact _).congr (fun port => ?_)⟩, fun _ other => ?_⟩
      · rw [Finset.mem_sdiff, eqId, newPort, oldPort]
      · cases type.symm.trans other
    · obtain ⟨eqId, type, names⟩ := portsRemoved report mem
      have eqId : report.id = id := eqId.trans eqOld
      refine ⟨fun _ other => ?_, fun _ _ => ⟨_, names, (order.exact _).congr (fun port => ?_)⟩⟩
      · cases type.symm.trans other
      · rw [Finset.mem_sdiff, eqId, newPort, oldPort]

/-- The reports of the links of one attribute are the difference. -/
lemma affectedVlsOf_exact (order : SetOrder) (savedNodup : ((vlsSaved.getD []).map (·.id)).Nodup)
    (nodup : ((vls.getD []).map (·.id)).Nodup) (removedType addedType : ChangeType) :
    ∃ reports, affectedVlsOf order removedType addedType vlsSaved vls = some reports ∧
      VlsExact removedType addedType vlsSaved vls reports := by
  have oneSided := oneSided_exact (·.id) savedNodup nodup (makeAffectedVl removedType)
    (makeAffectedVl addedType) (fun report => (report.id, report.changeType)) (fun _ => rfl)
    (fun _ => rfl)
  have common := (order.exact (calcDiff (·.id) vlsSaved vls).common).congr (fun _ => mem_common)
  obtain ⟨yss, run, exact, ports⟩ := common.mapM (f := compareVl order vlsSaved vls)
    (r := fun id report => report.1 = id ∧ PortDifference vlsSaved vls report)
    (fun report : AffectedVirtualLink => (report.id, report.changeType))
    (fun id both => by
      obtain ⟨reports, run, exact, -⟩ := compareVl_spec order savedNodup nodup both
      exact ⟨reports, run, exact⟩)
    (fun x x' k _ _ h h' => Eq.trans (b := k.1) h.1.symm h'.1)
  have whole := oneSided.append exact (by
    rintro ⟨k, t⟩ side ⟨x, both, rfl, -⟩
    rcases side with ⟨-, -, absent⟩ | ⟨-, -, absent⟩
    · exact absent both.2
    · exact absent both.1)
  rw [← List.map_append] at whole
  refine ⟨_, ?_, whole.congr (fun key => or_congr_right ?_), fun report mem => ?_⟩
  · unfold affectedVlsOf makeAffectedVlsLinkPortChange
    simp only [Option.bind_eq_bind, run, Option.bind_some]
  · constructor
    · rintro ⟨x, -, -, difference⟩
      exact difference
    · exact fun difference => ⟨key.1, ⟨difference.1, difference.2.1⟩, rfl, difference⟩
  · rcases List.mem_append.mp mem with mem | mem
    · have side := (oneSided.mem _).mp
        (List.mem_map_of_mem (f := fun report => (report.id, report.changeType)) mem)
      have notBoth : ¬ (Has (·.id) vlsSaved report.id ∧ Has (·.id) vls report.id) := by
        rintro ⟨old, new⟩
        rcases side with ⟨-, -, absent⟩ | ⟨-, -, absent⟩
        · exact absent new
        · exact absent old
      exact ⟨fun both _ => absurd both notBoth, fun both _ => absurd both notBoth⟩
    · obtain ⟨x, ys, both, eq, memYs⟩ := ports report mem
      obtain ⟨reports, run, -, names⟩ := compareVl_spec order savedNodup nodup both
      obtain rfl := Option.some.inj (eq.symm.trans run)
      exact names report memYs

end vls

/-! ## External link ports -/

/-- A port with a `cpInstanceId` is reported, and no other has its identifier in the set. -/
lemma reportExtPorts_spec (changeType : ChangeType) {vls : Option (List ExtVirtualLinkInfo)}
    (ports : Finset String) (cps : ∀ port ∈ extPorts vls, port.cpInstanceId ≠ none) :
    ∃ reports, reportExtPorts changeType vls ports = some reports ∧
      (reports.map fun report => (report.id, report.changeType)) =
        ((extPorts vls).filter (fun port => decide (port.id ∈ ports))).map
          (fun port => (port.id, changeType)) := by
  refine ⟨_, mapM_eq_some (g := fun port => {
    id := port.id
    changeType := changeType
    extCpInstanceId := port.cpInstanceId.getD ""
    resourceHandle := port.resourceHandle }) (fun port mem => ?_), ?_⟩
  · obtain ⟨cp, eq⟩ := Option.ne_none_iff_exists'.mp (cps port (List.mem_of_mem_filter mem))
    rw [eq]
    rfl
  · rw [List.map_map]
    rfl

/-- The ports of one side that the other has not, counted. -/
lemma count_oneSided {here there : List String} {part : Finset String}
    (mem : id ∈ part ↔ id ∈ here ∧ id ∉ there) :
    (if id ∈ part then here.count id else 0) = if id ∈ there then 0 else here.count id := by
  by_cases inHere : id ∈ here
  · by_cases inThere : id ∈ there <;> simp [mem, inHere, inThere]
  · have zero := List.count_eq_zero_of_not_mem inHere
    simp [mem, inHere, zero]

/-- The reports of external link ports are the difference. -/
lemma makeAffectedExtLinkPorts_exact (ok : Comparable saved info) :
    ∃ reports, makeAffectedExtLinkPorts saved info = some reports ∧
      ExtLinkPortsExact (extPorts saved.extVirtualLinkInfo) (extPorts info.extVirtualLinkInfo)
        reports := by
  have inList (ports : List ExtLinkPortInfo) (id : String) :
      Has (·.id) (some ports) id ↔ id ∈ ports.map (·.id) := mem_map_ident.symm
  obtain ⟨added, runAdded, keysAdded⟩ := reportExtPorts_spec .added
    (calcDiff (·.id) (some (extPorts saved.extVirtualLinkInfo))
      (some (extPorts info.extVirtualLinkInfo))).added ok.infoCps
  obtain ⟨removed, runRemoved, keysRemoved⟩ := reportExtPorts_spec .removed
    (calcDiff (·.id) (some (extPorts saved.extVirtualLinkInfo))
      (some (extPorts info.extVirtualLinkInfo))).removed ok.savedCps
  refine ⟨added ++ removed, ?_, fun id => ?_, fun id => ?_, fun report mem => ?_⟩
  · unfold makeAffectedExtLinkPorts
    simp only [Option.bind_eq_bind, runAdded, runRemoved, Option.bind_some]
  · rw [List.map_append, List.count_append, keysAdded, keysRemoved, count_tagged, count_tagged]
    simp only [true_and, reduceCtorEq, false_and, if_false, Nat.add_zero]
    exact count_oneSided (by rw [mem_added, inList, inList])
  · rw [List.map_append, List.count_append, keysAdded, keysRemoved, count_tagged, count_tagged]
    simp only [true_and, reduceCtorEq, false_and, if_false, Nat.zero_add]
    exact count_oneSided (by rw [mem_removed, inList, inList])
  · rcases List.mem_append.mp mem with mem | mem
    · have key := List.mem_map_of_mem (f := fun report => (report.id, report.changeType)) mem
      rw [keysAdded] at key
      obtain ⟨port, -, eq⟩ := List.mem_map.mp key
      exact Or.inl (congrArg Prod.snd eq).symm
    · have key := List.mem_map_of_mem (f := fun report => (report.id, report.changeType)) mem
      rw [keysRemoved] at key
      obtain ⟨port, -, eq⟩ := List.mem_map.mp key
      exact Or.inr (congrArg Prod.snd eq).symm

/-! ## The whole record -/

/-- All differences are found. -/
lemma affected_exact (order : SetOrder) (op : LcmOperationType) (ok : Comparable saved info) :
    ∃ found, affected order op saved info = some found ∧ ExactDifference op saved info found := by
  obtain ⟨vnfcs, runVnfcs, exactVnfcs⟩ := affectedVnfcs_exact order op ok
  obtain ⟨internal, runInternal, exactInternal⟩ := affectedVlsOf_exact order
    ok.savedUnique.internalVls ok.infoUnique.internalVls .removed .added
  obtain ⟨managed, runManaged, exactManaged⟩ := affectedVlsOf_exact order
    ok.savedUnique.managedVls ok.infoUnique.managedVls .linkPortRemoved .linkPortAdded
  obtain ⟨ports, runPorts, exactPorts⟩ := makeAffectedExtLinkPorts_exact ok
  refine ⟨{
    vnfcs := vnfcs
    internalVls := internal
    managedVls := managed
    extLinkPorts := ports
    strgs := affectedStrgs saved info }, ?_, exactVnfcs,
    affectedStrgs_exact ok.savedUnique ok.infoUnique, exactInternal, exactManaged, exactPorts⟩
  unfold affected affectedInternalVls affectedManagedVls
  simp only [Option.bind_eq_bind, runVnfcs, runInternal, runManaged, runPorts, Option.bind_some]

/-- The first object with an identifier that occurs. -/
lemma getById_of_has {objs : Option (List α)} (has : Has ident objs id) :
    ∃ obj, getById ident objs id = some obj := by
  obtain ⟨obj, mem, eq⟩ := has
  refine Option.isSome_iff_exists.mp (List.find?_isSome.mpr ⟨obj, mem, ?_⟩)
  exact decide_eq_true eq

/-- The external connectivity can always be compared. -/
lemma chgExtConn_total (order : SetOrder) (op : LcmOperationType)
    (saved info : InstantiatedVnfInfo) : ∃ vls, chgExtConn order op saved info = some vls := by
  unfold chgExtConn
  split
  · have inAdded := (order.exact (calcDiff (·.id) saved.extVirtualLinkInfo
      info.extVirtualLinkInfo).added).congr (fun _ => mem_added)
    have inCommon := (order.exact (calcDiff (·.id) saved.extVirtualLinkInfo
      info.extVirtualLinkInfo).common).congr (fun _ => mem_common)
    obtain ⟨added, runAdded⟩ :=
      mapM_total (fun id mem => getById_of_has ((inAdded.mem id).mp mem).1)
    obtain ⟨changed, runChanged⟩ := mapM_total (f := compareExtVl saved info) (fun id mem => by
      obtain ⟨hasSaved, has⟩ := (inCommon.mem id).mp mem
      obtain ⟨vlSaved, eqSaved⟩ := getById_of_has hasSaved
      obtain ⟨vl, eq⟩ := getById_of_has has
      unfold compareExtVl
      rw [eq, eqSaved]
      exact ⟨_, rfl⟩)
    simp only [Option.bind_eq_bind, runAdded, runChanged, Option.bind_some]
    exact ⟨_, rfl⟩
  · exact ⟨[], rfl⟩

/-- The information of an instance, the dummy one if it has none. -/
def infoOf (inst : DescribedInstance) : InstantiatedVnfInfo :=
  inst.instantiatedVnfInfo.getD InstantiatedVnfInfo.dummy

/-- `update_lcmocc` does not raise, and the occurrence it leaves has the difference of the two
instances as its `resourceChanges`; where nothing differs the attribute is not touched. -/
def RecordsDifference (order : SetOrder) (lcmocc : RecordedOpOcc)
    (instSaved inst : DescribedInstance) : Prop :=
  ∃ found result, updateLcmocc order lcmocc instSaved inst = some result ∧
    ExactDifference lcmocc.operation (infoOf instSaved) (infoOf inst) found ∧
    result.resourceChanges =
      if found.changeInfo = {} then lcmocc.resourceChanges else some found.changeInfo

/-- Sets iterated in the order of their elements. -/
def SetOrder.sorted : SetOrder where
  iter s := s.sort (· ≤ ·)
  exact s := ⟨s.sort_nodup (· ≤ ·), fun _ => Finset.mem_sort (· ≤ ·)⟩

/-- An occurrence before anything is recorded. -/
def freshOpOcc (params : OperationParams) : RecordedOpOcc where
  id := 0
  operationState := .processing
  startTime := 0
  operationParams := params
  isAutomaticInvocation := false

/-- An instance with the given information. -/
def instanceWith (info : Option InstantiatedVnfInfo) : DescribedInstance where
  vnfdId := "vnfd"
  instantiationState := .instantiated
  instantiatedVnfInfo := info
  vnfProvider := "Company"
  vnfProductName := "Sample VNF"
  vnfSoftwareVersion := "1.0"
  vnfdVersion := "1.0"

/-- One VNFC with its volume. -/
def oneVnfc : InstantiatedVnfInfo where
  flavourId := "simple"
  vnfState := .started
  vnfcResourceInfo := some [{
    id := "vnfc"
    vduId := "VDU1"
    computeResource := { resourceId := "server" }
    storageResourceIds := some ["volume"]
    metadata := some ∅ }]
  virtualStorageResourceInfo := some [{
    id := "volume"
    virtualStorageDescId := "VirtualStorage"
    storageResource := { resourceId := "cinder" } }]

lemma oneVnfc_comparable :
    Comparable InstantiatedVnfInfo.dummy oneVnfc ∧ Comparable oneVnfc InstantiatedVnfInfo.dummy := by
  have dummyUnique : UniqueIds InstantiatedVnfInfo.dummy :=
    ⟨by decide, by decide, by decide, by decide⟩
  have oneUnique : UniqueIds oneVnfc := ⟨by decide, by decide, by decide, by decide⟩
  constructor <;> constructor <;>
    first | assumption | simp [extPorts, InstantiatedVnfInfo.dummy, oneVnfc]

end Tacker.OpOcc
