import Tacker.Migration.Database

/-!
# The records of an instance

What the calls of the migration do to a database, in terms of the v1 records of one instance, which
are all that a call reads of v1 and all that it marks.
-/

namespace Tacker.Migration

open Tacker.Basis Tacker.Basis.Action

variable {δ ε : Type} {conv : Conversions δ ε} {saved : SaveCommit} {command : Command ε}
  {s t u : Database δ} {id : String} {now : Time}

/-! ## The records of an instance -/

/-- The v1 records of an instance. -/
structure Records (δ : Type) where
  vnfInstance : Option (VnfInstance δ)
  infos : List (VnfInstantiatedInfo δ)
  vnf : Option (Vnf δ)
  attributes : List VnfAttribute
  occs : List (VnfLcmOpOccs δ)

/-- The v1 records of the instance of the given id. -/
def Database.recordsOf (db : Database δ) (id : String) : Records δ where
  vnfInstance := db.vnfInstances.get id
  infos := db.vnfInstantiatedInfos.filter fun info => info.vnfInstanceId = id
  vnf := db.vnfs.get id
  attributes := db.attributesOf id
  occs := db.occsOf id

namespace Records

/-- The records, marked deleted. -/
def marked (records : Records δ) (now : Time) (id : String) : Records δ where
  vnfInstance := records.vnfInstance.map (·.marked now id)
  infos := records.infos.map (·.marked now id)
  vnf := records.vnf.map (·.marked now id)
  attributes := []
  occs := records.occs.map (·.marked now id)

/-- The instance is there and not marked deleted. -/
def Live (records : Records δ) : Prop :=
  ∃ vnfInstance, records.vnfInstance = some vnfInstance ∧ vnfInstance.deletedAt = none

/-- The occurrences that are not marked deleted. -/
def liveOccs (records : Records δ) : List (VnfLcmOpOccs δ) :=
  undeletedOccs records.occs

/-- The instance is live, and its records are converted to the columns of a v2 instance. -/
def Converts (conv : Conversions δ ε) (records : Records δ) (columns : δ) : Prop :=
  ∃ vnfInstance vnf, records.vnfInstance = some vnfInstance ∧ vnfInstance.deletedAt = none ∧
    records.vnf = some vnf ∧
    conv.vnfInstanceV2 vnfInstance (records.infos.find? fun info => info.deletedAt.isNone) vnf
      records.attributes records.liveOccs = .ok columns

lemma Converts.live {records : Records δ} {columns : δ} (converts : records.Converts conv columns) :
    records.Live := by
  obtain ⟨vnfInstance, vnf, found, live, -⟩ := converts
  exact ⟨vnfInstance, found, live⟩

lemma Converts.unique {records : Records δ} {columns columns' : δ}
    (converts : records.Converts conv columns) (converts' : records.Converts conv columns') :
    columns = columns' := by
  obtain ⟨vnfInstance, vnf, found, -, foundVnf, made⟩ := converts
  obtain ⟨_, _, found', -, foundVnf', made'⟩ := converts'
  cases found.symm.trans found'
  cases foundVnf.symm.trans foundVnf'
  exact Except.ok.inj (made.symm.trans made')

/-- What is marked deleted is not live. -/
lemma not_live_marked (db : Database δ) (now : Time) (id : String) :
    ¬ ((db.recordsOf id).marked now id).Live := by
  rintro ⟨vnfInstance, found, live⟩
  obtain ⟨row, row_found, rfl⟩ := Option.map_eq_some_iff.mp found
  have same : row.id = id := Table.key_of_get row_found
  rw [VnfInstance.marked, if_pos same] at live
  cases live

end Records

lemma mem_occsOf {occ : VnfLcmOpOccs δ} :
    occ ∈ s.occsOf id ↔ s.vnfLcmOpOccs.get occ.id = some occ ∧ occ.vnfInstanceId = id := by
  rw [Database.occsOf, Table.mem_select, decide_eq_true_eq]

lemma mem_liveOccs {occ : VnfLcmOpOccs δ} : occ ∈ (s.recordsOf id).liveOccs ↔
    s.vnfLcmOpOccs.get occ.id = some occ ∧ occ.vnfInstanceId = id ∧ occ.deletedAt = none := by
  show occ ∈ List.filter _ (s.occsOf id) ↔ _
  rw [List.mem_filter, mem_occsOf, Option.isNone_iff_eq_none, and_assoc]

lemma mem_migratedOccs {occ : VnfLcmOpOccs δ} :
    occ ∈ s.migratedOccs id ↔ occ ∈ (s.recordsOf id).liveOccs :=
  List.mem_mergeSort

/-! ## The calls -/

lemma attempt_returns {call : Call} {action : Action (Database δ) (Raised ε)} :
    Returns (command.attempt call action) s t ↔ command.fault call = none ∧ Returns action s t := by
  unfold Command.attempt
  cases command.fault call with
  | none => simp
  | some e => simp [Returns, fail]

lemma createVnfInstanceV2_returns : Returns (createVnfInstanceV2 conv id) s t ↔
    ∃ columns vnfInstancesV2, (s.recordsOf id).Converts conv columns ∧
      s.vnfInstancesV2.insert ⟨id, columns⟩ = some vnfInstancesV2 ∧
      t = { s with vnfInstancesV2 } := by
  have readInfo : s.infoOf id = (s.recordsOf id).infos.find? fun info => info.deletedAt.isNone := rfl
  have readOccs : undeletedOccs (s.occsOf id) = (s.recordsOf id).liveOccs := rfl
  unfold Returns createVnfInstanceV2
  constructor
  · intro returned
    cases found : s.vnfInstances.get id with
    | none => simp [found] at returned
    | some vnfInstance =>
      cases live : vnfInstance.deletedAt with
      | some time => simp [found, live] at returned
      | none =>
        cases foundVnf : s.vnfs.get id with
        | none => simp [found, live, foundVnf] at returned
        | some vnf =>
          simp only [found, live, foundVnf, Option.isSome_none, Bool.false_eq_true, ite_false,
            readInfo, readOccs] at returned
          split at returned
          · cases returned
          · case h_2 columns made =>
            split at returned
            · cases returned
            · case h_2 vnfInstancesV2 inserted =>
              cases returned
              exact ⟨columns, vnfInstancesV2, ⟨vnfInstance, vnf, found, live, foundVnf, made⟩,
                inserted, rfl⟩
  · rintro ⟨columns, vnfInstancesV2, ⟨vnfInstance, vnf, found, live, foundVnf, made⟩, inserted, rfl⟩
    have found : s.vnfInstances.get id = some vnfInstance := found
    have foundVnf : s.vnfs.get id = some vnf := foundVnf
    have made : conv.vnfInstanceV2 vnfInstance (s.infoOf id) vnf (s.attributesOf id)
      (undeletedOccs (s.occsOf id)) = .ok columns := made
    simp [found, live, foundVnf, made, inserted]

lemma createVnfLcmOpOccV2_returns {occ : VnfLcmOpOccs δ} :
    Returns (createVnfLcmOpOccV2 conv occ) s t ↔ ∃ instV2 columns vnfLcmOpOccsV2,
      s.vnfInstancesV2.get occ.vnfInstanceId = some instV2 ∧
      conv.vnfLcmOpOccV2 instV2 occ = .ok columns ∧
      s.vnfLcmOpOccsV2.insert ⟨occ.id, occ.vnfInstanceId, columns⟩ = some vnfLcmOpOccsV2 ∧
      t = { s with vnfLcmOpOccsV2 } := by
  unfold Returns createVnfLcmOpOccV2
  constructor
  · intro returned
    cases found : s.vnfInstancesV2.get occ.vnfInstanceId with
    | none => simp [found] at returned
    | some instV2 =>
      cases made : conv.vnfLcmOpOccV2 instV2 occ with
      | error e => simp [found, made] at returned
      | ok columns =>
        cases inserted : s.vnfLcmOpOccsV2.insert ⟨occ.id, occ.vnfInstanceId, columns⟩ with
        | none => simp [found, made, inserted] at returned
        | some vnfLcmOpOccsV2 =>
          simp only [found, made, inserted, Prod.mk.injEq, and_true] at returned
          exact ⟨instV2, columns, vnfLcmOpOccsV2, rfl, made, inserted, returned.symm⟩
  · rintro ⟨instV2, columns, vnfLcmOpOccsV2, found, made, inserted, rfl⟩
    simp [found, made, inserted]

/-- The creation of the occurrences returns if each is created and nothing fails in the end. -/
lemma createVnfLcmOpOccsV2_returns : Returns (createVnfLcmOpOccsV2 conv saved command id) s t ↔
    command.fault (.createVnfLcmOpOccsV2 id) = none ∧
      Returns (forEach (fun occ => command.attempt (.createVnfLcmOpOccV2 occ.id)
        (createVnfLcmOpOccV2 conv occ)) (s.migratedOccs id)) s t := by
  have commits : ∀ {m : Database δ}, Returns (command.attempt (.createVnfLcmOpOccsV2 id)
      fun db => (db, none)) m t ↔ command.fault (.createVnfLcmOpOccsV2 id) = none ∧ m = t := by
    intro m
    rw [attempt_returns, Returns, Prod.mk.injEq, and_iff_left rfl]
  cases saved with
  | savepoint =>
    show Returns (transaction (seq _ _)) s t ↔ _
    rw [transaction_returns, seq_returns]
    constructor
    · rintro ⟨m, looped, committed⟩
      obtain ⟨quiet, rfl⟩ := commits.mp committed
      exact ⟨quiet, looped⟩
    · rintro ⟨quiet, looped⟩
      exact ⟨t, looped, commits.mpr ⟨quiet, rfl⟩⟩
  | whole =>
    show Returns (seq _ _) s t ↔ _
    rw [seq_returns]
    constructor
    · rintro ⟨m, looped, committed⟩
      obtain ⟨quiet, rfl⟩ := commits.mp committed
      exact ⟨quiet, (forEach_returns_congr (fun _ _ _ => transaction_returns) _ _ _).mp looped⟩
    · rintro ⟨quiet, looped⟩
      refine ⟨t, ?_, commits.mpr ⟨quiet, rfl⟩⟩
      exact (forEach_returns_congr (fun _ _ _ => transaction_returns) _ _ _).mpr looped

/-! ## Marks -/

lemma VnfInstance.marked_of_ne {row : VnfInstance δ} (other : row.id ≠ id) :
    row.marked now id = row :=
  if_neg other

lemma VnfInstantiatedInfo.marked_of_ne {row : VnfInstantiatedInfo δ} (other : row.vnfInstanceId ≠ id) :
    row.marked now id = row :=
  if_neg other

lemma Vnf.marked_of_ne {row : Vnf δ} (other : row.id ≠ id) : row.marked now id = row :=
  if_neg other

lemma VnfLcmOpOccs.marked_of_ne {row : VnfLcmOpOccs δ} (other : row.vnfInstanceId ≠ id) :
    row.marked now id = row :=
  if_neg other

lemma VnfLcmOpOccs.vnfInstanceId_marked (now : Time) (vnfId : String) (row : VnfLcmOpOccs δ) :
    (row.marked now vnfId).vnfInstanceId = row.vnfInstanceId := by
  unfold VnfLcmOpOccs.marked
  split <;> rfl

/-- Rows chosen by what a change leaves are changed, whether before or after the choice. -/
lemma filter_map_same {ρ : Type} {f : ρ → ρ} {p : ρ → Bool} (same : ∀ r, p (f r) = p r)
    (rows : List ρ) : (rows.map f).filter p = (rows.filter p).map f := by
  rw [List.filter_map]
  apply congrArg (List.map f)
  exact List.filter_congr fun r _ => same r

lemma map_eq_self {ρ : Type} {f : ρ → ρ} {rows : List ρ} (same : ∀ r ∈ rows, f r = r) :
    rows.map f = rows := by
  rw [List.map_congr_left same, List.map_id']

/-- The tables of v1 with the marks of `mark_delete_v1`. -/
def Database.markedV1 (db : Database δ) (now : Time) (id : String) : Database δ :=
  { destroyVnfInstance now id db with
    vnfAttributes := db.vnfAttributes.filter fun attr => attr.vnfId ≠ id
    vnfs := db.vnfs.mapRows (·.marked now id) (Vnf.id_marked now id)
    vnfLcmOpOccs := db.vnfLcmOpOccs.mapRows (·.marked now id) (VnfLcmOpOccs.id_marked now id) }

lemma vnfInstances_markedV1 (db : Database δ) (now : Time) (id other : String) :
    (db.markedV1 now id).vnfInstances.get other =
      (db.vnfInstances.get other).map (·.marked now id) :=
  Table.get_mapRows (VnfInstance.id_marked now id)

lemma vnfs_markedV1 (db : Database δ) (now : Time) (id other : String) :
    (db.markedV1 now id).vnfs.get other = (db.vnfs.get other).map (·.marked now id) :=
  Table.get_mapRows (Vnf.id_marked now id)

lemma infos_markedV1 (db : Database δ) (now : Time) (id other : String) :
    ((db.markedV1 now id).recordsOf other).infos =
      (db.recordsOf other).infos.map (·.marked now id) := by
  apply filter_map_same
  intro info
  rw [VnfInstantiatedInfo.vnfInstanceId_marked]

lemma occs_markedV1 (db : Database δ) (now : Time) (id other : String) :
    ((db.markedV1 now id).recordsOf other).occs =
      (db.recordsOf other).occs.map (·.marked now id) := by
  apply filter_map_same
  intro occ
  rw [VnfLcmOpOccs.vnfInstanceId_marked]

/-- The records of the instance are marked. -/
lemma recordsOf_markedV1 (db : Database δ) (now : Time) (id : String) :
    (db.markedV1 now id).recordsOf id = (db.recordsOf id).marked now id := by
  have noAttributes : ((db.markedV1 now id).recordsOf id).attributes = [] := by
    show List.filter _ (List.filter _ _) = []
    rw [List.filter_filter, List.filter_eq_nil_iff]
    intro attr _
    simp
  rw [Records.mk.injEq]
  exact ⟨vnfInstances_markedV1 db now id id, infos_markedV1 db now id id,
    vnfs_markedV1 db now id id, noAttributes, occs_markedV1 db now id id⟩

/-- Those of other instances are not. -/
lemma recordsOf_markedV1_of_ne (db : Database δ) (now : Time) {id other : String} (ne : other ≠ id) :
    (db.markedV1 now id).recordsOf other = db.recordsOf other := by
  have vnfInstance : ((db.markedV1 now id).recordsOf other).vnfInstance =
      (db.recordsOf other).vnfInstance := by
    show (db.markedV1 now id).vnfInstances.get other = db.vnfInstances.get other
    rw [vnfInstances_markedV1]
    cases found : db.vnfInstances.get other with
    | none => rfl
    | some row => exact congrArg some (VnfInstance.marked_of_ne (Table.key_of_get found ▸ ne))
  have vnf : ((db.markedV1 now id).recordsOf other).vnf = (db.recordsOf other).vnf := by
    show (db.markedV1 now id).vnfs.get other = db.vnfs.get other
    rw [vnfs_markedV1]
    cases found : db.vnfs.get other with
    | none => rfl
    | some row => exact congrArg some (Vnf.marked_of_ne (Table.key_of_get found ▸ ne))
  have infos : ((db.markedV1 now id).recordsOf other).infos = (db.recordsOf other).infos := by
    rw [infos_markedV1]
    apply map_eq_self
    intro info mem
    have same : info.vnfInstanceId = other := of_decide_eq_true (List.mem_filter.mp mem).2
    exact VnfInstantiatedInfo.marked_of_ne (same ▸ ne)
  have occs : ((db.markedV1 now id).recordsOf other).occs = (db.recordsOf other).occs := by
    rw [occs_markedV1]
    apply map_eq_self
    intro occ mem
    have same : occ.vnfInstanceId = other := (mem_occsOf.mp mem).2
    exact VnfLcmOpOccs.marked_of_ne (same ▸ ne)
  have attributes : ((db.markedV1 now id).recordsOf other).attributes =
      (db.recordsOf other).attributes := by
    show List.filter _ (List.filter _ _) = List.filter _ _
    rw [List.filter_filter]
    apply List.filter_congr
    intro attr _
    by_cases same : attr.vnfId = other
    · simp [same, ne]
    · simp [same]
  rw [Records.mk.injEq]
  exact ⟨vnfInstance, infos, vnf, attributes, occs⟩

lemma markDeleteV1_returns : Returns (σ := Database δ) (ε := Raised ε) (markDeleteV1 now id) s t ↔
    s.vnfInstances.get id ≠ none ∧ t = s.markedV1 now id := by
  have found : (destroyVnfInstance now id s).vnfInstances.get id =
      (s.vnfInstances.get id).map (·.marked now id) := vnfInstances_markedV1 s now id id
  unfold Returns markDeleteV1
  cases stored : s.vnfInstances.get id with
  | none =>
    rw [stored] at found
    simp [found]
  | some row =>
    rw [stored] at found
    simp only [found, Option.map_some, Prod.mk.injEq, and_true, ne_eq, reduceCtorEq,
      not_false_eq_true, true_and]
    exact eq_comm

end Tacker.Migration
