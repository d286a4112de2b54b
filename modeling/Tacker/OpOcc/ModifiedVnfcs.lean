import Tacker.OpOcc.ExactDifference

/-!
# The storages of modified VNFCs

After CHANGE_VNFPKG a VNFC that is there before and after, and whose metadata changed, is reported
with the storages it got and lost. Two attributes that may be unset are read without a check, and
the storages are compared only if the updated VNFC has the attribute.
-/

namespace Tacker.OpOcc

open Tacker.Objects Tacker.Basis

variable {order : SetOrder} {saved info : InstantiatedVnfInfo} {id : String}
  {vnfc vnfcSaved : VnfcResourceInfo} {report : AffectedVnfc}

/-- The storages of a VNFC; an attribute that is not set counts as the empty list. -/
def storageIds (vnfc : VnfcResourceInfo) : List String :=
  vnfc.storageResourceIds.getD []

/-- The VNFC of the updated information and that of the saved one, of one identifier. -/
structure Common (saved info : InstantiatedVnfInfo) (id : String)
    (vnfc vnfcSaved : VnfcResourceInfo) : Prop where
  found : getById (·.id) info.vnfcResourceInfo id = some vnfc
  foundSaved : getById (·.id) saved.vnfcResourceInfo id = some vnfcSaved

/-- The report lists exactly the storages that the VNFC got and those that it lost. -/
structure ListsStorages (vnfc vnfcSaved : VnfcResourceInfo) (report : AffectedVnfc) : Prop where
  added : Exactly (report.addedStorageResourceIds.getD [])
    fun strg => strg ∈ storageIds vnfc ∧ strg ∉ storageIds vnfcSaved
  removed : Exactly (report.removedStorageResourceIds.getD [])
    fun strg => strg ∈ storageIds vnfcSaved ∧ strg ∉ storageIds vnfc

/-- The reports of CHANGE_VNFPKG are made, each modified VNFC has one, and the report of a modified
VNFC lists its storages. -/
def StoragesReported (order : SetOrder) (saved info : InstantiatedVnfInfo) : Prop :=
  ∃ reports, affectedVnfcs order .changeVnfpkg saved info = some reports ∧
    (∀ id vnfc vnfcSaved, Common saved info id vnfc vnfcSaved →
      vnfc.metadata ≠ vnfcSaved.metadata →
        ∃ report ∈ reports, report.id = id ∧ report.changeType = .modified) ∧
    ∀ report ∈ reports, report.changeType = .modified →
      ∃ vnfc vnfcSaved, Common saved info report.id vnfc vnfcSaved ∧
        ListsStorages vnfc vnfcSaved report

/-- The storages of the VNFC can be compared: both sides have metadata, and if that changed, an
updated VNFC with storages has a saved one with the attribute, and one without the attribute had no
storages. -/
structure Listable (vnfc vnfcSaved : VnfcResourceInfo) : Prop where
  metadata : vnfc.metadata ≠ none
  metadataSaved : vnfcSaved.metadata ≠ none
  storages : vnfc.metadata ≠ vnfcSaved.metadata → vnfc.storageResourceIds ≠ none →
    vnfcSaved.storageResourceIds ≠ none
  noStorages : vnfc.metadata ≠ vnfcSaved.metadata → vnfc.storageResourceIds = none →
    storageIds vnfcSaved = []

/-! ## One VNFC -/

lemma getD_setIfAny {α : Type} (xs : List α) : (setIfAny xs).getD [] = xs := by
  cases xs with
  | nil => rfl
  | cons x xs => rfl

/-- A set difference is listed exactly. -/
lemma exactly_sdiff (order : SetOrder) (ids ids' : List String) :
    Exactly ((setIfAny (order.iter (ids.toFinset \ ids'.toFinset))).getD [])
      fun strg => strg ∈ ids ∧ strg ∉ ids' := by
  rw [getD_setIfAny]
  apply (order.exact _).congr
  intro strg
  rw [Finset.mem_sdiff, List.mem_toFinset, List.mem_toFinset]

/-- Nothing is listed exactly if there is nothing to list. -/
lemma exactly_none_iff {p : String → Prop} :
    Exactly ((none : Option (List String)).getD []) p ↔ ∀ strg, ¬ p strg := by
  constructor
  · intro exact strg holds
    exact absurd ((exact.mem strg).mpr holds) List.not_mem_nil
  · exact Exactly.nil

/-- The report of a modified VNFC is made and lists its storages exactly if these can be
compared. -/
lemma makeAffectedVnfcModified_iff (changed : vnfc.metadata ≠ vnfcSaved.metadata)
    (metadataSaved : vnfcSaved.metadata ≠ none) :
    (∃ report, makeAffectedVnfcModified order vnfc vnfcSaved = some report ∧
        ListsStorages vnfc vnfcSaved report) ↔ Listable vnfc vnfcSaved := by
  cases metadata : vnfc.metadata with
  | none =>
    constructor
    · rintro ⟨report, made, -⟩
      rw [makeAffectedVnfcModified, metadata] at made
      cases made
    · intro listable
      exact absurd metadata listable.metadata
  | some m =>
    have set : vnfc.metadata ≠ none := by
      rw [metadata]
      exact Option.some_ne_none m
    cases storages : vnfc.storageResourceIds with
    | none =>
      have made : makeAffectedVnfcModified order vnfc vnfcSaved = some {
          id := vnfc.id
          vduId := vnfc.vduId
          changeType := .modified
          computeResource := vnfc.computeResource
          metadata := m
          affectedVnfcCpIds := vnfc.vnfcCpInfo.map (·.map (·.id)) } := by
        rw [makeAffectedVnfcModified, metadata, storages]
        rfl
      have empty : storageIds vnfc = [] := by
        rw [storageIds, storages]
        rfl
      rw [made]
      constructor
      · rintro ⟨report, eq, lists⟩
        obtain rfl := Option.some.inj eq
        refine ⟨set, metadataSaved, fun _ wrong => absurd storages wrong, fun _ _ => ?_⟩
        have none := exactly_none_iff.mp lists.removed
        rw [empty] at none
        exact List.eq_nil_iff_forall_not_mem.mpr fun strg mem =>
          none strg ⟨mem, List.not_mem_nil⟩
      · intro listable
        refine ⟨_, rfl, ?_⟩
        constructor
        · apply exactly_none_iff.mpr
          rw [empty]
          exact fun strg both => absurd both.1 List.not_mem_nil
        · apply exactly_none_iff.mpr
          rw [listable.noStorages changed storages]
          exact fun strg both => absurd both.1 List.not_mem_nil
    | some ids =>
      cases storagesSaved : vnfcSaved.storageResourceIds with
      | none =>
        constructor
        · rintro ⟨report, made, -⟩
          rw [makeAffectedVnfcModified, metadata, storages] at made
          simp [storagesSaved] at made
        · intro listable
          have wrong := listable.storages changed (by rw [storages]; exact Option.some_ne_none ids)
          exact absurd storagesSaved wrong
      | some idsSaved =>
        have is : storageIds vnfc = ids := by rw [storageIds, storages]; rfl
        have isSaved : storageIds vnfcSaved = idsSaved := by rw [storageIds, storagesSaved]; rfl
        constructor
        · intro _
          refine ⟨set, metadataSaved, fun _ _ => ?_, fun _ unset => ?_⟩
          · rw [storagesSaved]
            exact Option.some_ne_none idsSaved
          · rw [storages] at unset
            cases unset
        · intro _
          have made : makeAffectedVnfcModified order vnfc vnfcSaved = some {
              id := vnfc.id
              vduId := vnfc.vduId
              changeType := .modified
              computeResource := vnfc.computeResource
              metadata := m
              affectedVnfcCpIds := vnfc.vnfcCpInfo.map (·.map (·.id))
              addedStorageResourceIds :=
                setIfAny (order.iter (ids.toFinset \ idsSaved.toFinset))
              removedStorageResourceIds :=
                setIfAny (order.iter (idsSaved.toFinset \ ids.toFinset)) } := by
            rw [makeAffectedVnfcModified, metadata, storages]
            simp only [Option.bind_eq_bind, Option.bind_some, storagesSaved]
          refine ⟨_, made, ?_⟩
          constructor
          · rw [is, isSaved]
            exact exactly_sdiff order ids idsSaved
          · rw [is, isSaved]
            exact exactly_sdiff order idsSaved ids

lemma makeAffectedVnfcModified_some
    (made : makeAffectedVnfcModified order vnfc vnfcSaved = some report) :
    report.id = vnfc.id ∧ report.changeType = .modified := by
  unfold makeAffectedVnfcModified at made
  obtain ⟨m, -, made⟩ := Option.bind_eq_some_iff.mp made
  cases storages : vnfc.storageResourceIds with
  | none =>
    rw [storages] at made
    cases made
    exact ⟨rfl, rfl⟩
  | some ids =>
    rw [storages] at made
    obtain ⟨idsSaved, -, made⟩ := Option.bind_eq_some_iff.mp made
    cases made
    exact ⟨rfl, rfl⟩

/-! ## All VNFCs -/

lemma getById_id {α : Type} {ident : α → String} {objs : Option (List α)} {obj : α}
    (found : getById ident objs id = some obj) : ident obj = id :=
  of_decide_eq_true (List.find?_some (p := fun obj => decide (ident obj = id)) found)

lemma has_of_getById {α : Type} {ident : α → String} {objs : Option (List α)} {obj : α}
    (found : getById ident objs id = some obj) : Has ident objs id :=
  ⟨obj, List.mem_of_find?_eq_some found, getById_id found⟩

/-- The VNFCs that are compared. -/
lemma mem_compared : id ∈ order.iter (calcDiff (·.id) saved.vnfcResourceInfo
    info.vnfcResourceInfo).common ↔ ∃ vnfc vnfcSaved, Common saved info id vnfc vnfcSaved := by
  rw [(order.exact _).mem, mem_common]
  constructor
  · rintro ⟨hasSaved, has⟩
    obtain ⟨vnfcSaved, foundSaved⟩ := getById_of_has hasSaved
    obtain ⟨vnfc, found⟩ := getById_of_has has
    exact ⟨vnfc, vnfcSaved, found, foundSaved⟩
  · rintro ⟨vnfc, vnfcSaved, found, foundSaved⟩
    exact ⟨has_of_getById foundSaved, has_of_getById found⟩

/-- What the comparison of a VNFC is. -/
lemma compareVnfc_some (common : Common saved info id vnfc vnfcSaved) {reports : List AffectedVnfc} :
    compareVnfc order saved info id = some reports ↔
      vnfc.metadata ≠ none ∧ vnfcSaved.metadata ≠ none ∧
        (vnfc.metadata ≠ vnfcSaved.metadata → ∃ report,
          makeAffectedVnfcModified order vnfc vnfcSaved = some report ∧ reports = [report]) ∧
        (vnfc.metadata = vnfcSaved.metadata → reports = []) := by
  unfold compareVnfc
  rw [common.found, common.foundSaved]
  simp only [Option.bind_eq_bind, Option.bind_some]
  cases metadata : vnfc.metadata with
  | none => simp
  | some m =>
    cases metadataSaved : vnfcSaved.metadata with
    | none => simp
    | some mSaved =>
      by_cases same : m = mSaved
      · subst same
        simp [eq_comm]
      · simp only [Option.bind_some, ne_eq, Option.some.injEq, same, not_false_eq_true, if_true,
          reduceCtorEq, true_and, forall_const, false_implies, and_true]
        rw [Option.bind_eq_some_iff]
        simp only [Option.some.injEq, eq_comm]

/-- The reports of the VNFCs that are there on one side only. -/
def oneSidedVnfcs (saved info : InstantiatedVnfInfo) : List AffectedVnfc :=
  let strgs := calcDiff (·.id) saved.virtualStorageResourceInfo info.virtualStorageResourceInfo
  let vnfcs := calcDiff (·.id) saved.vnfcResourceInfo info.vnfcResourceInfo
  (withIds (·.id) saved.vnfcResourceInfo vnfcs.removed).map
      (makeAffectedVnfc .removed strgs.removed) ++
    (withIds (·.id) info.vnfcResourceInfo vnfcs.added).map (makeAffectedVnfc .added strgs.added)

lemma changeType_oneSidedVnfcs (mem : report ∈ oneSidedVnfcs saved info) :
    report.changeType ≠ .modified := by
  rcases List.mem_append.mp mem with mem | mem
  · obtain ⟨vnfc, -, rfl⟩ := List.mem_map.mp mem
    exact fun wrong => by cases wrong
  · obtain ⟨vnfc, -, rfl⟩ := List.mem_map.mp mem
    exact fun wrong => by cases wrong

/-- The reports of the modified VNFCs. -/
def modifiedVnfcs (order : SetOrder) (saved info : InstantiatedVnfInfo) : List AffectedVnfc :=
  ((order.iter (calcDiff (·.id) saved.vnfcResourceInfo info.vnfcResourceInfo).common).filterMap
    (compareVnfc order saved info)).flatten

lemma affectedVnfcs_some {reports : List AffectedVnfc} :
    affectedVnfcs order .changeVnfpkg saved info = some reports ↔
      (∀ id vnfc vnfcSaved, Common saved info id vnfc vnfcSaved →
        (compareVnfc order saved info id).isSome = true) ∧
      reports = oneSidedVnfcs saved info ++ modifiedVnfcs order saved info := by
  unfold affectedVnfcs
  simp only [Option.bind_eq_bind, if_true, Option.bind_eq_some_iff, mapM_some_iff,
    Option.some.injEq]
  constructor
  · rintro ⟨found, ⟨each, rfl⟩, rfl⟩
    refine ⟨fun id vnfc vnfcSaved common => ?_, rfl⟩
    exact each id (mem_compared.mpr ⟨vnfc, vnfcSaved, common⟩)
  · rintro ⟨each, rfl⟩
    refine ⟨_, ⟨fun id mem => ?_, rfl⟩, rfl⟩
    obtain ⟨vnfc, vnfcSaved, common⟩ := mem_compared.mp mem
    exact each id vnfc vnfcSaved common

/-- A VNFC is reported as modified if its metadata changed. -/
lemma mem_modifiedVnfcs : report ∈ modifiedVnfcs order saved info ↔
    ∃ id vnfc vnfcSaved, Common saved info id vnfc vnfcSaved ∧ vnfc.metadata ≠ none ∧
      vnfcSaved.metadata ≠ none ∧ vnfc.metadata ≠ vnfcSaved.metadata ∧
      makeAffectedVnfcModified order vnfc vnfcSaved = some report := by
  unfold modifiedVnfcs
  rw [List.mem_flatten]
  constructor
  · rintro ⟨reports, mem, memReport⟩
    obtain ⟨id, memId, compared⟩ := List.mem_filterMap.mp mem
    obtain ⟨vnfc, vnfcSaved, common⟩ := mem_compared.mp memId
    obtain ⟨metadata, metadataSaved, changed, same⟩ := (compareVnfc_some common).mp compared
    by_cases isSame : vnfc.metadata = vnfcSaved.metadata
    · rw [same isSame] at memReport
      cases memReport
    · obtain ⟨report', made, rfl⟩ := changed isSame
      obtain rfl := List.mem_singleton.mp memReport
      exact ⟨id, vnfc, vnfcSaved, common, metadata, metadataSaved, isSame, made⟩
  · rintro ⟨id, vnfc, vnfcSaved, common, metadata, metadataSaved, changed, made⟩
    refine ⟨[report], List.mem_filterMap.mpr ⟨id, ?_, ?_⟩, List.mem_singleton_self report⟩
    · exact mem_compared.mpr ⟨vnfc, vnfcSaved, common⟩
    · apply (compareVnfc_some common).mpr
      exact ⟨metadata, metadataSaved, fun _ => ⟨report, made, rfl⟩, fun same => absurd same changed⟩

/-- If the storages are reported, those of a VNFC that is there before and after can be compared. -/
lemma listable_of_reported (reported : StoragesReported order saved info)
    (common : Common saved info id vnfc vnfcSaved) : Listable vnfc vnfcSaved := by
  obtain ⟨reports, made, all, lists⟩ := reported
  obtain ⟨each, rfl⟩ := affectedVnfcs_some.mp made
  obtain ⟨found, compared⟩ := Option.isSome_iff_exists.mp (each id vnfc vnfcSaved common)
  obtain ⟨metadata, metadataSaved, changed, -⟩ := (compareVnfc_some common).mp compared
  by_cases same : vnfc.metadata = vnfcSaved.metadata
  · exact ⟨metadata, metadataSaved, fun wrong => absurd same wrong,
      fun wrong => absurd same wrong⟩
  · obtain ⟨report, made, -⟩ := changed same
    obtain ⟨isId, isModified⟩ := makeAffectedVnfcModified_some made
    have mem : report ∈ modifiedVnfcs order saved info :=
      mem_modifiedVnfcs.mpr ⟨id, vnfc, vnfcSaved, common, metadata, metadataSaved, same, made⟩
    obtain ⟨vnfc', vnfcSaved', common', listed⟩ :=
      lists report (List.mem_append_right _ mem) isModified
    rw [isId, show vnfc.id = id from getById_id common.found] at common'
    obtain rfl := Option.some.inj (common.found.symm.trans common'.found)
    obtain rfl := Option.some.inj (common.foundSaved.symm.trans common'.foundSaved)
    exact (makeAffectedVnfcModified_iff same metadataSaved).mp ⟨report, made, listed⟩

/-- The storages of modified VNFCs are reported exactly if those of every VNFC that is there before
and after can be compared. -/
theorem storages_reported_iff (order : SetOrder) (saved info : InstantiatedVnfInfo) :
    StoragesReported order saved info ↔
      ∀ id vnfc vnfcSaved, Common saved info id vnfc vnfcSaved → Listable vnfc vnfcSaved := by
  constructor
  · intro reported id vnfc vnfcSaved common
    exact listable_of_reported reported common
  · intro listable
    refine ⟨_, affectedVnfcs_some.mpr ⟨fun id vnfc vnfcSaved common => ?_, rfl⟩, ?_, ?_⟩
    · have here := listable id vnfc vnfcSaved common
      by_cases same : vnfc.metadata = vnfcSaved.metadata
      · have compared : compareVnfc order saved info id = some [] :=
          (compareVnfc_some common).mpr ⟨here.metadata, here.metadataSaved,
            fun wrong => absurd same wrong, fun _ => rfl⟩
        rw [compared]
        rfl
      · obtain ⟨report, made, -⟩ := (makeAffectedVnfcModified_iff same here.metadataSaved).mpr here
        have compared : compareVnfc order saved info id = some [report] :=
          (compareVnfc_some common).mpr ⟨here.metadata, here.metadataSaved,
            fun _ => ⟨report, made, rfl⟩, fun wrong => absurd wrong same⟩
        rw [compared]
        rfl
    · intro id vnfc vnfcSaved common changed
      have here := listable id vnfc vnfcSaved common
      obtain ⟨report, made, -⟩ := (makeAffectedVnfcModified_iff changed here.metadataSaved).mpr here
      obtain ⟨isId, isModified⟩ := makeAffectedVnfcModified_some made
      refine ⟨report, List.mem_append_right _ ?_, ?_, isModified⟩
      · exact mem_modifiedVnfcs.mpr ⟨id, vnfc, vnfcSaved, common, here.metadata,
          here.metadataSaved, changed, made⟩
      · rw [isId]
        exact getById_id common.found
    · intro report mem isModified
      rcases List.mem_append.mp mem with mem | mem
      · exact absurd isModified (changeType_oneSidedVnfcs mem)
      · obtain ⟨id, vnfc, vnfcSaved, common, -, metadataSaved, changed, made⟩ :=
          mem_modifiedVnfcs.mp mem
        have here := listable id vnfc vnfcSaved common
        have listed : ∃ report', makeAffectedVnfcModified order vnfc vnfcSaved = some report' ∧
            ListsStorages vnfc vnfcSaved report' :=
          (makeAffectedVnfcModified_iff changed metadataSaved).mpr here
        obtain ⟨report', made', lists⟩ := listed
        obtain rfl := Option.some.inj (made.symm.trans made')
        obtain ⟨isId, -⟩ := makeAffectedVnfcModified_some made
        refine ⟨vnfc, vnfcSaved, ?_, lists⟩
        rw [isId, show vnfc.id = id from getById_id common.found]
        exact common

/-- A VNFC whose metadata changed to the given one; it has the given storages. -/
def changedVnfc (storages : Option (List String)) (metadata : KeyValuePairs) :
    InstantiatedVnfInfo where
  flavourId := "simple"
  vnfState := .started
  vnfcResourceInfo := some [{
    id := "vnfc"
    vduId := "VDU1"
    computeResource := { resourceId := "server" }
    storageResourceIds := storages
    metadata := some metadata }]

/-- The storage of a VNFC that has no attribute for storages any more is not reported as removed. -/
theorem lost_storage_unreported :
    ¬ StoragesReported .sorted (changedVnfc (some ["volume"]) ∅)
      (changedVnfc none (Finmap.singleton "k" "1")) := by
  intro reported
  have common : Common (changedVnfc (some ["volume"]) ∅)
      (changedVnfc none (Finmap.singleton "k" "1")) "vnfc" _ _ := ⟨rfl, rfl⟩
  have listable := listable_of_reported reported common
  have none := listable.noStorages (by decide) rfl
  cases none

end Tacker.OpOcc
