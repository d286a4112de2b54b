import Tacker.Migration.Rerun

/-!
# Instances that were left half-way

An instance whose migration failed after the v2 instance was created, or whose v1 records were kept,
ends every later run over all instances; deleting its v2 records is what brings it back.
-/

namespace Tacker.Migration

open Tacker.Basis Tacker.Basis.Action

variable {δ ε : Type} {conv : Conversions δ ε} {saved : SaveCommit} {command : Command ε}
  {s t u : Database δ} {id : String}

/-- Every live instance can be migrated and no v2 record is one of a live instance. -/
def Clean (conv : Conversions δ ε) (db : Database δ) : Prop :=
  ∀ id, (db.recordsOf id).Live → Migratable conv db id ∧
    ∀ row ∈ db.vnfLcmOpOccsV2.rows, row.vnfInstanceId ≠ id

/-- The command deletes the v2 records of the instance, without failures of other reasons. -/
structure Command.Purges (command : Command ε) (id : String) : Prop where
  options : command.options =
    { allFlag := false, apiVer := some "v2", keepOrig := false, markDelete := true, vnfId := some id }
  named : id ≠ ""
  faultless : command.Faultless

/-! ## Deleting the v2 records -/

/-- What the deletion of the v2 records of an instance leaves. -/
structure Purged (id : String) (s t : Database δ) : Prop where
  records : ∀ id', t.recordsOf id' = s.recordsOf id'
  instances : ∀ id', t.vnfInstancesV2.get id' = if id = id' then none else s.vnfInstancesV2.get id'
  occs : ∀ occId row, t.vnfLcmOpOccsV2.get occId = some row ↔
    s.vnfLcmOpOccsV2.get occId = some row ∧ row.vnfInstanceId ≠ id

lemma forEach_deletes (faultless : command.Faultless) (list : List (VnfLcmOpOccV2 δ)) (s : Database δ) :
    Returns (forEach (fun occ => command.attempt (.deleteVnfLcmOpOccV2 occ.id)
      fun db : Database δ => ({ db with vnfLcmOpOccsV2 := db.vnfLcmOpOccsV2.erase occ.id }, none))
      list) s { s with vnfLcmOpOccsV2 := list.foldl (fun occs occ => occs.erase occ.id) s.vnfLcmOpOccsV2 } := by
  induction list generalizing s with
  | nil => rfl
  | cons occ list ih =>
    refine forEach_cons_returns.mpr ⟨_, attempt_returns.mpr ⟨faultless _, rfl⟩, ?_⟩
    exact ih { s with vnfLcmOpOccsV2 := s.vnfLcmOpOccsV2.erase occ.id }

lemma get_foldl_erase {occs : Table (VnfLcmOpOccV2.id (δ := δ))} {list : List (VnfLcmOpOccV2 δ)}
    {occId : String} {row : VnfLcmOpOccV2 δ} :
    (list.foldl (fun occs occ => occs.erase occ.id) occs).get occId = some row ↔
      occs.get occId = some row ∧ ∀ occ ∈ list, occ.id ≠ occId := by
  induction list generalizing occs with
  | nil => simp
  | cons occ list ih =>
    rw [List.foldl_cons, ih, List.forall_mem_cons, Table.get_erase, ← and_assoc]
    apply and_congr_left
    intro _
    by_cases same : occ.id = occId
    · simp [same]
    · simp [same]

/-- A purge of an instance with a v2 record returns, and leaves just the other v2 records. -/
lemma purged (conv : Conversions δ ε) (saved : SaveCommit) (purges : command.Purges id)
    (there : s.vnfInstancesV2.get id ≠ none) :
    ∃ t, Returns (migrateToV2Tables conv saved command) s t ∧ Purged id s t := by
  have valid : optionErrorCheck command.options = none := by
    rw [purges.options]
    simp [optionErrorCheck, isGiven, purges.named]
  have run : migrateToV2Tables conv saved command s = markDeleteV2 command id s := by
    unfold migrateToV2Tables
    rw [valid, purges.options]
    rfl
  obtain ⟨row, found⟩ := Option.ne_none_iff_exists'.mp there
  set rows := s.vnfLcmOpOccsV2.select (fun occ => occ.vnfInstanceId = id) with rowsEq
  refine ⟨{ s with
    vnfInstancesV2 := s.vnfInstancesV2.erase id
    vnfLcmOpOccsV2 := rows.foldl (fun occs occ => occs.erase occ.id) s.vnfLcmOpOccsV2 }, ?_, ?_⟩
  · show migrateToV2Tables conv saved command s = _
    rw [run]
    refine seq_returns.mpr ⟨{ s with vnfInstancesV2 := s.vnfInstancesV2.erase id },
      attempt_returns.mpr ⟨purges.faultless _, ?_⟩, ?_⟩
    · simp [Returns, found]
    · exact forEach_deletes purges.faultless rows { s with vnfInstancesV2 := s.vnfInstancesV2.erase id }
  · refine ⟨fun _ => rfl, fun _ => Table.get_erase, ?_⟩
    intro occId row
    show Table.get (rows.foldl (fun occs occ => occs.erase occ.id) s.vnfLcmOpOccsV2) occId = some row ↔ _
    rw [get_foldl_erase]
    apply and_congr_right
    intro stored
    have named := Table.key_of_get stored
    constructor
    · intro others mine
      apply others row _ named
      rw [rowsEq, Table.mem_select]
      exact ⟨named ▸ stored, decide_eq_true mine⟩
    · rintro others occ mem rfl
      obtain ⟨stored', mine⟩ := Table.mem_select.mp (rowsEq ▸ mem)
      cases stored.symm.trans stored'
      exact others (of_decide_eq_true mine)

/-- A purge takes back part of what the migration of a clean database did. -/
lemma Purged.progress (clean : Clean conv s) (progress : Progress conv s t) (half : HalfWay t id)
    (purged : Purged id t u) : Progress conv s u := by
  have live : (s.recordsOf id).Live := by
    rw [← progress.records_of_live half.1]
    exact half.1
  obtain ⟨⟨-, -, fresh, -⟩, unlike⟩ := clean id live
  have occ_stays : ∀ {occ : VnfLcmOpOccs δ} {instV2 : VnfInstanceV2 δ}, occ.vnfInstanceId ≠ id →
      OccMigrated conv instV2 occ t → OccMigrated conv instV2 occ u := by
    rintro occ instV2 other ⟨columns, made, found⟩
    exact ⟨columns, made, (purged.occs _ _).mpr ⟨found, other⟩⟩
  have instance_stays : ∀ {other : String} {row : VnfInstanceV2 δ}, other ≠ id →
      t.vnfInstancesV2.get other = some row → u.vnfInstancesV2.get other = some row := by
    intro other row ne found
    rw [purged.instances, if_neg (Ne.symm ne)]
    exact found
  refine ⟨?_, ?_, ?_⟩
  · intro other
    rw [purged.records]
    rcases progress.records other with same | retired
    · exact .inl same
    · have ne : other ≠ id := by
        rintro rfl
        obtain ⟨now, marked⟩ := retired.marked
        exact Records.not_live_marked s now other (marked ▸ half.1)
      obtain ⟨columns, converts, found, each⟩ := retired.migrated
      refine .inr ⟨retired.live, retired.fresh, ⟨columns, converts, instance_stays ne found, ?_⟩, ?_⟩
      · intro occ mem
        exact occ_stays ((mem_liveOccs.mp mem).2.1 ▸ ne) (each occ mem)
      · rw [purged.records]
        exact retired.marked
  · intro other
    by_cases same : id = other
    · subst same
      apply Or.inl
      rw [purged.instances, if_pos rfl, fresh]
    · unfold InstanceAdded
      rw [purged.instances, if_neg same]
      exact progress.instances other
  · intro occId
    rcases progress.occs occId with same | ⟨none, other, occ, columns, mem, rfl, converts, found, made⟩
    · apply Or.inl
      apply Option.ext
      intro row
      rw [purged.occs, same, and_iff_left_of_imp]
      intro stored
      exact unlike row (Table.get_eq_some.mp stored).1
    · have belongs := (mem_liveOccs.mp mem).2.1
      by_cases ne : other = id
      · subst ne
        apply Or.inl
        rw [none, Option.eq_none_iff_forall_ne_some]
        intro row stored
        obtain ⟨stored, unlike⟩ := (purged.occs _ _).mp stored
        obtain ⟨columns', -, found'⟩ := made
        cases stored.symm.trans found'
        exact unlike belongs
      · exact .inr ⟨none, other, occ, columns, mem, rfl, converts, instance_stays ne found,
          occ_stays (belongs.symm ▸ ne) made⟩

/-! ## What becomes of an instance left half-way -/

/-- In a migration of a clean database a live instance can be migrated unless it is half-way. -/
lemma Progress.migratable_iff (clean : Clean conv s) (progress : Progress conv s t)
    (live : (t.recordsOf id).Live) : Migratable conv t id ↔ ¬ HalfWay t id := by
  have same := progress.records_of_live live
  constructor
  · rintro ⟨-, -, fresh, -⟩ ⟨-, taken⟩
    exact taken fresh
  · intro notHalf
    have fresh : t.vnfInstancesV2.get id = none := by
      by_contra taken
      exact notHalf ⟨live, taken⟩
    obtain ⟨⟨columns, converts, -, each⟩, -⟩ := clean id (same ▸ live)
    refine ⟨columns, same ▸ converts, fresh, ?_⟩
    rw [same]
    intro occ mem
    refine ⟨(each occ mem).1, ?_⟩
    rcases progress.occs occ.id with kept | ⟨-, other, occ', columns', mem', named, -, found, -⟩
    · rw [kept]
      exact (each occ mem).2
    · obtain ⟨-, rfl⟩ := eq_of_occ_id mem mem' named
      cases fresh.symm.trans found

/-- Migrations leave an instance half-way. -/
lemma HalfWay.stays (half : HalfWay s id) (progress : Progress conv s t) : HalfWay t id := by
  obtain ⟨live, taken⟩ := half
  obtain ⟨row, found⟩ := Option.ne_none_iff_exists'.mp taken
  have same : t.recordsOf id = s.recordsOf id := by
    rcases progress.records id with same | retired
    · exact same
    · exact absurd retired.fresh taken
  refine ⟨same ▸ live, ?_⟩
  rw [progress.instance_stays found]
  exact Option.some_ne_none row

lemma HalfWay.migrateInstance_raises (half : HalfWay s id) :
    (migrateInstance conv saved command id s).2 ≠ none := by
  intro quiet
  obtain ⟨m, first, -⟩ := seq_returns.mp (returns_iff.mpr ⟨quiet, rfl⟩)
  obtain ⟨-, first⟩ := attempt_returns.mp (transaction_returns.mp first)
  obtain ⟨columns, created⟩ := createVnfInstanceV2_created first
  exact half.2 created.fresh

/-- Every run over all instances raises, whatever else fails in it. -/
lemma HalfWay.all_raises (half : HalfWay s id) (allFlag : command.options.allFlag = true)
    (migrates : command.Migrates) : (migrateToV2Tables conv saved command s).2 ≠ none := by
  unfold migrateToV2Tables
  cases optionErrorCheck command.options with
  | some errorMessage => exact Option.some_ne_none _
  | none =>
    simp only [show command.options.markDelete = false from migrates, allFlag, Bool.false_eq_true,
      ite_false, ite_true]
    unfold Command.attempt
    cases command.fault .getAllVnfs with
    | some e => exact Option.some_ne_none _
    | none =>
      refine forEach_raises (J := fun m => HalfWay m id) _ ?_ ⟨id, ?_, ?_⟩ s half
      · intro other _ m half
        exact half.stays (migrateInstance_progress conv saved command other m)
      · exact (command.perm _).mem_iff.mpr (mem_getAllVnfs.mpr half.1)
      · intro m half
        exact half.migrateInstance_raises

/-! ## Runs with failures and deletions -/

/-- The command migrates, or deletes the v2 records of an instance that is half-way. -/
def Allowed (p : Database δ × Command ε) : Prop :=
  p.2.Migrates ∨ ∃ id, p.2.Purges id ∧ HalfWay p.1 id

lemma progress_of_allowed (clean : Clean conv s) {tr : List (Database δ × Command ε)}
    (run : Run (Step conv saved) s tr t) (allowed : Guarded Allowed tr) : Progress conv s t := by
  refine run.invariant ?_ allowed (Progress.refl s)
  intro m command m' allowed step progress
  rcases allowed with migrates | ⟨id, purges, half⟩
  · exact progress.trans (Step.progress step migrates)
  · obtain ⟨m'', returned, purged⟩ := purged conv saved purges half.2
    obtain rfl : m' = m'' := Eq.trans step (returns_iff.mp returned).2
    exact purged.progress clean progress half

/-- From a clean database, after any commands that migrate, with any failures in them, and any
deletions of the v2 records of instances left half-way: a run over all instances returns just if no
instance is half-way, and then it has left what it leaves when nothing came before it. -/
theorem rerun_iff (clean : Clean conv s) {tr : List (Database δ × Command ε)}
    (run : Run (Step conv saved) s tr t) (allowed : Guarded Allowed tr) (again : Command ε)
    (all : again.MigratesAll) (faultless : again.Faultless) :
    ((migrateToV2Tables conv saved again t).2 = none ↔ ∀ id, ¬ HalfWay t id) ∧
    ((migrateToV2Tables conv saved again t).2 = none →
      (migrateToV2Tables conv saved again s).2 = none ∧
      SameResult s (migrateToV2Tables conv saved again t).1
        (migrateToV2Tables conv saved again s).1) := by
  have progress := progress_of_allowed clean run allowed
  have returns_at : ∀ {m}, Progress conv s m →
      ((migrateToV2Tables conv saved again m).2 = none ↔ ∀ id, ¬ HalfWay m id) := by
    intro m progress
    rw [all_returns all faultless]
    apply forall_congr'
    intro id
    constructor
    · intro each half
      exact (progress.migratable_iff clean half.1).mp (each half.1) half
    · intro notHalf live
      exact (progress.migratable_iff clean live).mpr notHalf
  have undisturbed : (migrateToV2Tables conv saved again s).2 = none :=
    (all_returns all faultless).mpr fun id live => (clean id live).1
  refine ⟨returns_at progress, fun quiet => ⟨undisturbed, ?_⟩⟩
  exact same_of_completed (progress.trans (Step.progress rfl all.markDelete))
    (all_marked all faultless quiet) (Step.progress rfl all.markDelete)
    (all_marked all faultless undisturbed)

/-- An instance left half-way stays so in every run of migrations, of which none over all instances
returns; deleting its v2 records returns and makes it the only one that is not half-way any more. -/
theorem half_way_until_purged (conv : Conversions δ ε) (saved : SaveCommit) (half : HalfWay s id) :
    (∀ (tr : List (Database δ × Command ε)) (t : Database δ), Run (Step conv saved) s tr t →
      Guarded (fun p => p.2.Migrates) tr → HalfWay t id ∧ ∀ command : Command ε,
        command.options.allFlag = true → command.Migrates →
          (migrateToV2Tables conv saved command t).2 ≠ none) ∧
    ∀ command : Command ε, command.Purges id → ∃ t,
      Returns (migrateToV2Tables conv saved command) s t ∧
        ∀ other, HalfWay t other ↔ HalfWay s other ∧ other ≠ id := by
  constructor
  · intro tr t run migrating
    have later := half.stays (progress_of_run run migrating)
    exact ⟨later, fun command allFlag migrates => later.all_raises allFlag migrates⟩
  · intro command purges
    obtain ⟨t, returned, purged⟩ := purged conv saved purges half.2
    refine ⟨t, returned, fun other => ?_⟩
    unfold HalfWay
    rw [purged.records, purged.instances]
    by_cases same : id = other
    · simp [same]
    · simp [same, Ne.symm same]

/-! ## A failure in the migration of one instance -/

/-- `--mark-delete --api-ver v2 --vnf-id`. -/
def purgeOf (id : String) : Command Unit :=
  commandOf { allFlag := false, apiVer := some "v2", keepOrig := false, markDelete := true, vnfId := some id }
    fun _ => none

/-- The marks of v1 fail. -/
def marksFail : Call → Option Unit
  | .markDeleteV1 _ => some ()
  | _ => none

/-- The database that the failure leaves. -/
def leftHalfWay : Database Unit :=
  (migrateToV2Tables plainConversions .savepoint (migrateAllOf marksFail) oneInstance).1

/-- The database after the deletion of what the failure left. -/
def purgedAgain : Database Unit :=
  (migrateToV2Tables plainConversions .savepoint (purgeOf "inst-1") leftHalfWay).1

lemma halfWay_leftHalfWay : HalfWay leftHalfWay "inst-1" := by
  have there : leftHalfWay.vnfInstances.get "inst-1" = some ⟨"inst-1", none, ()⟩ := by decide +kernel
  exact ⟨⟨_, there, rfl⟩, by decide +kernel⟩

lemma purgeOf_purges : (purgeOf "inst-1").Purges "inst-1" where
  options := rfl
  named := by decide
  faultless _ := rfl

lemma migrateAllOf_all (fault : Call → Option Unit) : (migrateAllOf fault).MigratesAll where
  allFlag := rfl
  markDelete := rfl
  keepOrig := rfl
  valid := rfl

lemma live_oneInstance (live : (oneInstance.recordsOf id).Live) : id = "inst-1" := by
  obtain ⟨row, found, -⟩ := live
  obtain ⟨mem, named⟩ := Table.get_eq_some.mp (show oneInstance.vnfInstances.get id = some row from found)
  rw [← named, List.mem_singleton.mp mem]

lemma clean_oneInstance : Clean plainConversions oneInstance := by
  intro id live
  obtain rfl := live_oneInstance live
  refine ⟨⟨(), ⟨⟨"inst-1", none, ()⟩, ⟨"inst-1", "ACTIVE", none, ()⟩, by rfl, rfl, by rfl, rfl⟩,
    rfl, fun occ _ => ⟨⟨(), rfl⟩, rfl⟩⟩, ?_⟩
  intro row mem
  cases mem

/-- A run that failed, a deletion of what it left, and a run over all instances. -/
theorem rerun_oneInstance : SameResult oneInstance
    (migrateToV2Tables plainConversions .savepoint (migrateAllOf fun _ => none) purgedAgain).1
    (migrateToV2Tables plainConversions .savepoint (migrateAllOf fun _ => none) oneInstance).1 := by
  have run : Run (Step plainConversions .savepoint) oneInstance
      [(oneInstance, migrateAllOf marksFail), (leftHalfWay, purgeOf "inst-1")] purgedAgain :=
    .cons rfl (.single rfl)
  have allowed : Guarded Allowed
      [(oneInstance, migrateAllOf marksFail), (leftHalfWay, purgeOf "inst-1")] := by
    intro p mem
    rcases List.mem_pair.mp mem with rfl | rfl
    · exact .inl rfl
    · exact .inr ⟨"inst-1", purgeOf_purges, halfWay_leftHalfWay⟩
  exact ((rerun_iff clean_oneInstance run allowed (migrateAllOf fun _ => none) (migrateAllOf_all _)
    fun _ => rfl).2 (by decide +kernel)).2

/-- The failed run is not repaired by running it again. -/
theorem half_way_oneInstance :
    (migrateToV2Tables plainConversions .savepoint (migrateAllOf fun _ => none) leftHalfWay).2 ≠ none :=
  ((half_way_until_purged plainConversions .savepoint halfWay_leftHalfWay).1 [] leftHalfWay .nil
    .nil).2 (migrateAllOf fun _ => none) rfl rfl

end Tacker.Migration
