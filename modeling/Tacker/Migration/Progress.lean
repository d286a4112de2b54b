import Tacker.Basis.Run
import Tacker.Migration.Records

/-!
# What the migration may change

Each call of the migration, and so each command, keeps the database within one relation: v2 records
are only added, as the conversions make them from the v1 records of an instance, and v1 records are
marked deleted only when all v2 records of the instance are there.
-/

namespace Tacker.Migration

open Tacker.Basis Tacker.Basis.Action

variable {δ ε : Type} {conv : Conversions δ ε} {saved : SaveCommit} {command : Command ε}
  {s t u : Database δ} {id : String} {now : Time}

/-! ## Migrated records -/

/-- The v2 record of an occurrence is there, as converted. -/
def OccMigrated (conv : Conversions δ ε) (instV2 : VnfInstanceV2 δ) (occ : VnfLcmOpOccs δ)
    (db : Database δ) : Prop :=
  ∃ columns, conv.vnfLcmOpOccV2 instV2 occ = .ok columns ∧
    db.vnfLcmOpOccsV2.get occ.id = some ⟨occ.id, occ.vnfInstanceId, columns⟩

/-- The v2 records of an instance are all there, as converted from the v1 records. -/
def Migrated (conv : Conversions δ ε) (id : String) (records : Records δ) (db : Database δ) : Prop :=
  ∃ columns, records.Converts conv columns ∧ db.vnfInstancesV2.get id = some ⟨id, columns⟩ ∧
    ∀ occ ∈ records.liveOccs, OccMigrated conv ⟨id, columns⟩ occ db

/-- The v2 instance is one that was added. -/
def InstanceAdded (conv : Conversions δ ε) (id : String) (s t : Database δ) : Prop :=
  s.vnfInstancesV2.get id = none ∧ ∃ columns, (s.recordsOf id).Converts conv columns ∧
    t.vnfInstancesV2.get id = some ⟨id, columns⟩

/-- The v2 occurrence is one that was added, of an instance whose v2 record is there. -/
def OccAdded (conv : Conversions δ ε) (occId : String) (s t : Database δ) : Prop :=
  s.vnfLcmOpOccsV2.get occId = none ∧ ∃ id occ columns, occ ∈ (s.recordsOf id).liveOccs ∧
    occ.id = occId ∧ (s.recordsOf id).Converts conv columns ∧
    t.vnfInstancesV2.get id = some ⟨id, columns⟩ ∧ OccMigrated conv ⟨id, columns⟩ occ t

/-- The instance was migrated from the start, and its v1 records are marked. -/
structure Retired (conv : Conversions δ ε) (id : String) (s t : Database δ) : Prop where
  live : (s.recordsOf id).Live
  fresh : s.vnfInstancesV2.get id = none
  migrated : Migrated conv id (s.recordsOf id) t
  marked : ∃ now, t.recordsOf id = (s.recordsOf id).marked now id

/-- What the migration may do between two states. -/
structure Progress (conv : Conversions δ ε) (s t : Database δ) : Prop where
  records : ∀ id, t.recordsOf id = s.recordsOf id ∨ Retired conv id s t
  instances : ∀ id, t.vnfInstancesV2.get id = s.vnfInstancesV2.get id ∨ InstanceAdded conv id s t
  occs : ∀ occId, t.vnfLcmOpOccsV2.get occId = s.vnfLcmOpOccsV2.get occId ∨
    OccAdded conv occId s t

namespace Progress

/-- A v2 instance that is there stays. -/
lemma instance_stays (progress : Progress conv s t) {row : VnfInstanceV2 δ}
    (found : s.vnfInstancesV2.get id = some row) : t.vnfInstancesV2.get id = some row := by
  rcases progress.instances id with same | ⟨none, -⟩
  · rw [same, found]
  · cases found.symm.trans none

lemma occ_stays (progress : Progress conv s t) {occId : String} {row : VnfLcmOpOccV2 δ}
    (found : s.vnfLcmOpOccsV2.get occId = some row) : t.vnfLcmOpOccsV2.get occId = some row := by
  rcases progress.occs occId with same | ⟨none, -⟩
  · rw [same, found]
  · cases found.symm.trans none

lemma occMigrated_stays (progress : Progress conv s t) {instV2 : VnfInstanceV2 δ}
    {occ : VnfLcmOpOccs δ} (migrated : OccMigrated conv instV2 occ s) :
    OccMigrated conv instV2 occ t := by
  obtain ⟨columns, made, found⟩ := migrated
  exact ⟨columns, made, progress.occ_stays found⟩

lemma migrated_stays (progress : Progress conv s t) {records : Records δ}
    (migrated : Migrated conv id records s) : Migrated conv id records t := by
  obtain ⟨columns, converts, found, each⟩ := migrated
  refine ⟨columns, converts, progress.instance_stays found, ?_⟩
  intro occ mem
  exact progress.occMigrated_stays (each occ mem)

/-- What is live at the end was so from the start, with the same records. -/
lemma records_of_live (progress : Progress conv s t) (live : (t.recordsOf id).Live) :
    t.recordsOf id = s.recordsOf id := by
  rcases progress.records id with same | retired
  · exact same
  · obtain ⟨now, marked⟩ := retired.marked
    rw [marked] at live
    exact absurd live (Records.not_live_marked s now id)

lemma refl (s : Database δ) : Progress conv s s where
  records _ := .inl rfl
  instances _ := .inl rfl
  occs _ := .inl rfl

lemma trans (first : Progress conv s t) (second : Progress conv t u) : Progress conv s u where
  records := by
    intro id
    rcases second.records id with same | ⟨live, fresh, migrated, marked⟩
    · rcases first.records id with same' | ⟨live, fresh, migrated, now, marked⟩
      · exact .inl (same.trans same')
      · exact .inr ⟨live, fresh, second.migrated_stays migrated, now, same.trans marked⟩
    · have same := first.records_of_live live
      rw [same] at live migrated marked
      refine .inr ⟨live, ?_, migrated, marked⟩
      rcases first.instances id with same | ⟨none, -⟩
      · exact same.symm.trans fresh
      · exact none
  instances := by
    intro id
    rcases second.instances id with same | ⟨none, columns, converts, found⟩
    · rcases first.instances id with same' | ⟨none, columns, converts, found⟩
      · exact .inl (same.trans same')
      · exact .inr ⟨none, columns, converts, same.trans found⟩
    · rw [first.records_of_live converts.live] at converts
      refine .inr ⟨?_, columns, converts, found⟩
      rcases first.instances id with same | ⟨none', -⟩
      · exact same.symm.trans none
      · exact none'
  occs := by
    intro occId
    rcases second.occs occId with same | ⟨none, id, occ, columns, mem, named, converts, rest⟩
    · rcases first.occs occId with same' | ⟨none, id, occ, columns, mem, named, converts, found, made⟩
      · exact .inl (same.trans same')
      · exact .inr ⟨none, id, occ, columns, mem, named, converts, second.instance_stays found,
          second.occMigrated_stays made⟩
    · have same := first.records_of_live converts.live
      rw [same] at mem converts
      refine .inr ⟨?_, id, occ, columns, mem, named, converts, rest⟩
      rcases first.occs occId with same | ⟨none', -⟩
      · exact same.symm.trans none
      · exact none'

end Progress

/-! ## The v2 instance -/

/-- What the first call leaves when it returns. -/
structure Created (conv : Conversions δ ε) (id : String) (columns : δ) (s t : Database δ) : Prop where
  fresh : s.vnfInstancesV2.get id = none
  converts : (s.recordsOf id).Converts conv columns
  added : ∀ id', t.vnfInstancesV2.get id' =
    if id = id' then some ⟨id, columns⟩ else s.vnfInstancesV2.get id'
  records : ∀ id', t.recordsOf id' = s.recordsOf id'
  occs : t.vnfLcmOpOccsV2 = s.vnfLcmOpOccsV2

lemma createVnfInstanceV2_created (returned : Returns (createVnfInstanceV2 conv id) s t) :
    ∃ columns, Created conv id columns s t := by
  obtain ⟨columns, vnfInstancesV2, converts, inserted, rfl⟩ := createVnfInstanceV2_returns.mp returned
  exact ⟨columns, Table.fresh_of_insert inserted, converts, fun _ => Table.get_insert inserted,
    fun _ => rfl, rfl⟩

lemma Created.progress {columns : δ} (created : Created conv id columns s t) :
    Progress conv s t where
  records id' := .inl (created.records id')
  instances := by
    intro id'
    by_cases same : id = id'
    · subst same
      exact .inr ⟨created.fresh, columns, created.converts, by rw [created.added, if_pos rfl]⟩
    · exact .inl (by rw [created.added, if_neg same])
  occs _ := .inl (by rw [created.occs])

/-! ## The v2 occurrences -/

/-- What the second call may do, given the v2 instance: occurrences of a list are added. -/
structure OccsCreated (conv : Conversions δ ε) (instV2 : VnfInstanceV2 δ)
    (list : List (VnfLcmOpOccs δ)) (s t : Database δ) : Prop where
  instances : t.vnfInstancesV2 = s.vnfInstancesV2
  records : ∀ id, t.recordsOf id = s.recordsOf id
  occs : ∀ occId, t.vnfLcmOpOccsV2.get occId = s.vnfLcmOpOccsV2.get occId ∨
    s.vnfLcmOpOccsV2.get occId = none ∧ ∃ occ ∈ list, occ.id = occId ∧ OccMigrated conv instV2 occ t

namespace OccsCreated

variable {instV2 : VnfInstanceV2 δ} {list : List (VnfLcmOpOccs δ)}

lemma refl (s : Database δ) : OccsCreated conv instV2 list s s where
  instances := rfl
  records _ := rfl
  occs _ := .inl rfl

lemma occMigrated_stays (created : OccsCreated conv instV2 list s t) {occ : VnfLcmOpOccs δ}
    (migrated : OccMigrated conv instV2 occ s) : OccMigrated conv instV2 occ t := by
  obtain ⟨columns, made, found⟩ := migrated
  refine ⟨columns, made, ?_⟩
  rcases created.occs occ.id with same | ⟨none, -⟩
  · rw [same, found]
  · cases found.symm.trans none

lemma trans (first : OccsCreated conv instV2 list s t) (second : OccsCreated conv instV2 list t u) :
    OccsCreated conv instV2 list s u where
  instances := second.instances.trans first.instances
  records id := (second.records id).trans (first.records id)
  occs := by
    intro occId
    rcases second.occs occId with same | ⟨none, occ, mem, named, migrated⟩
    · rcases first.occs occId with same' | ⟨none, occ, mem, named, migrated⟩
      · exact .inl (same.trans same')
      · exact .inr ⟨none, occ, mem, named, second.occMigrated_stays migrated⟩
    · refine .inr ⟨?_, occ, mem, named, migrated⟩
      rcases first.occs occId with same | ⟨none', -⟩
      · exact same.symm.trans none
      · exact none'

end OccsCreated

/-- One occurrence is created. -/
lemma createVnfLcmOpOccV2_created {instV2 : VnfInstanceV2 δ} {occ : VnfLcmOpOccs δ}
    {list : List (VnfLcmOpOccs δ)} (mem : occ ∈ list)
    (found : s.vnfInstancesV2.get occ.vnfInstanceId = some instV2)
    (returned : Returns (createVnfLcmOpOccV2 conv occ) s t) :
    OccsCreated conv instV2 list s t ∧ OccMigrated conv instV2 occ t := by
  obtain ⟨instV2', columns, vnfLcmOpOccsV2, found', made, inserted, rfl⟩ :=
    createVnfLcmOpOccV2_returns.mp returned
  obtain rfl := Option.some.inj (found.symm.trans found')
  have migrated : OccMigrated conv instV2 occ { s with vnfLcmOpOccsV2 } := by
    refine ⟨columns, made, ?_⟩
    show vnfLcmOpOccsV2.get occ.id = _
    rw [Table.get_insert inserted, if_pos rfl]
  refine ⟨⟨rfl, fun _ => rfl, ?_⟩, migrated⟩
  intro occId
  by_cases same : occ.id = occId
  · subst same
    exact .inr ⟨Table.fresh_of_insert inserted, occ, mem, rfl, migrated⟩
  · apply Or.inl
    show vnfLcmOpOccsV2.get occId = _
    rw [Table.get_insert inserted, if_neg same]

/-- The turns of the loop: the v2 instance stays, and occurrences of the list are added. -/
lemma createVnfLcmOpOccV2_turn {instV2 : VnfInstanceV2 δ} {list : List (VnfLcmOpOccs δ)}
    (belongs : ∀ occ ∈ list, occ.vnfInstanceId = id) {occ : VnfLcmOpOccs δ} (mem : occ ∈ list)
    (before : t.vnfInstancesV2.get id = some instV2 ∧ OccsCreated conv instV2 list s t)
    (returned : Returns (command.attempt (.createVnfLcmOpOccV2 occ.id) (createVnfLcmOpOccV2 conv occ))
      t u) :
    (u.vnfInstancesV2.get id = some instV2 ∧ OccsCreated conv instV2 list s u) ∧
      OccMigrated conv instV2 occ u ∧ OccsCreated conv instV2 list t u := by
  obtain ⟨found, created⟩ := before
  obtain ⟨-, returned⟩ := attempt_returns.mp returned
  obtain ⟨step, migrated⟩ := createVnfLcmOpOccV2_created mem ((belongs occ mem).symm ▸ found) returned
  refine ⟨⟨?_, created.trans step⟩, migrated, step⟩
  rw [step.instances]
  exact found

lemma belongs_migratedOccs (s : Database δ) (id : String) :
    ∀ occ ∈ s.migratedOccs id, occ.vnfInstanceId = id :=
  fun _ mem => (mem_liveOccs.mp (mem_migratedOccs.mp mem)).2.1

/-- When the second call returns, occurrences are added only, and all of them are there. -/
lemma createVnfLcmOpOccsV2_created {instV2 : VnfInstanceV2 δ}
    (found : s.vnfInstancesV2.get id = some instV2)
    (returned : Returns (createVnfLcmOpOccsV2 conv saved command id) s t) :
    OccsCreated conv instV2 (s.migratedOccs id) s t ∧
      ∀ occ ∈ s.migratedOccs id, OccMigrated conv instV2 occ t := by
  obtain ⟨-, looped⟩ := createVnfLcmOpOccsV2_returns.mp returned
  have belongs := belongs_migratedOccs s id
  have last := forEach_returns
    (J := fun m => m.vnfInstancesV2.get id = some instV2 ∧
      OccsCreated conv instV2 (s.migratedOccs id) s m)
    (P := OccMigrated conv instV2)
    (fun occ mem m m' before turn =>
      ⟨(createVnfLcmOpOccV2_turn belongs mem before turn).1,
        (createVnfLcmOpOccV2_turn belongs mem before turn).2.1⟩)
    (fun occ occ' mem m m' before turn migrated =>
      (createVnfLcmOpOccV2_turn belongs mem before turn).2.2.occMigrated_stays migrated)
    ⟨found, OccsCreated.refl s⟩ looped
  exact ⟨last.1.2, last.2⟩

/-- Whether or not it returns, it adds occurrences only. -/
lemma createVnfLcmOpOccsV2_keeps {instV2 : VnfInstanceV2 δ}
    (found : s.vnfInstancesV2.get id = some instV2) :
    OccsCreated conv instV2 (s.migratedOccs id) s
      (createVnfLcmOpOccsV2 conv saved command id s).1 := by
  have belongs := belongs_migratedOccs s id
  cases saved with
  | savepoint =>
    rcases transaction_cases (seq (forEach _ (s.migratedOccs id)) _) s with same | returned
    · unfold createVnfLcmOpOccsV2
      rw [same]
      exact OccsCreated.refl s
    · have returned : Returns (createVnfLcmOpOccsV2 conv .savepoint command id) s _ :=
        transaction_returns.mpr returned
      exact (createVnfLcmOpOccsV2_created found returned).1
  | whole =>
    have loop : Keeps (fun m => m.vnfInstancesV2.get id = some instV2 ∧
        OccsCreated conv instV2 (s.migratedOccs id) s m)
        (forEach (fun occ => transaction (command.attempt (.createVnfLcmOpOccV2 occ.id)
          (createVnfLcmOpOccV2 conv occ))) (s.migratedOccs id)) :=
      keeps_forEach fun occ mem => keeps_transaction fun m m' before turn =>
        (createVnfLcmOpOccV2_turn belongs mem before turn).1
    have commit : Keeps (fun m => m.vnfInstancesV2.get id = some instV2 ∧
        OccsCreated conv instV2 (s.migratedOccs id) s m)
        (command.attempt (.createVnfLcmOpOccsV2 id) fun db => (db, none)) := by
      unfold Command.attempt
      cases command.fault (.createVnfLcmOpOccsV2 id) with
      | none => exact fun _ holds => holds
      | some e => exact keeps_fail
    exact (keeps_seq loop commit s ⟨found, OccsCreated.refl s⟩).2

/-! ## The migration of an instance -/

/-- The v2 instance, and then some of its occurrences. -/
lemma Created.progress_occs {columns : δ} (created : Created conv id columns s t)
    (added : OccsCreated conv ⟨id, columns⟩ (t.migratedOccs id) t u) : Progress conv s u where
  records id' := .inl ((added.records id').trans (created.records id'))
  instances := by
    intro id'
    unfold InstanceAdded
    rw [added.instances]
    exact created.progress.instances id'
  occs := by
    intro occId
    rcases added.occs occId with same | ⟨none, occ, mem, named, migrated⟩
    · exact .inl (by rw [same, created.occs])
    · rw [created.occs] at none
      have live := mem_migratedOccs.mp mem
      rw [created.records] at live
      refine .inr ⟨none, id, occ, columns, live, named, created.converts, ?_, migrated⟩
      rw [added.instances, created.added, if_pos rfl]

/-- When the second call has returned, the instance is migrated. -/
lemma Created.migrated {columns : δ} (created : Created conv id columns s t)
    (added : OccsCreated conv ⟨id, columns⟩ (t.migratedOccs id) t u)
    (all : ∀ occ ∈ t.migratedOccs id, OccMigrated conv ⟨id, columns⟩ occ u) :
    Migrated conv id (s.recordsOf id) u := by
  refine ⟨columns, created.converts, ?_, ?_⟩
  · rw [added.instances, created.added, if_pos rfl]
  · intro occ mem
    apply all occ
    rw [mem_migratedOccs, created.records]
    exact mem

/-- Then its v1 records may be marked. -/
lemma Progress.mark (progress : Progress conv s t) (same : t.recordsOf id = s.recordsOf id)
    (live : (s.recordsOf id).Live) (fresh : s.vnfInstancesV2.get id = none)
    (migrated : Migrated conv id (s.recordsOf id) t) (now : Time) :
    Progress conv s (t.markedV1 now id) where
  records := by
    intro id'
    by_cases other : id' = id
    · subst other
      refine .inr ⟨live, fresh, migrated, now, ?_⟩
      rw [recordsOf_markedV1, same]
    · have kept := recordsOf_markedV1_of_ne t now other
      rcases progress.records id' with same | ⟨live, fresh, migrated, time, marked⟩
      · exact .inl (kept.trans same)
      · exact .inr ⟨live, fresh, migrated, time, kept.trans marked⟩
  instances := progress.instances
  occs := progress.occs

/-- The v2 instance is created and the other calls are made in the state that leaves, or nothing
changes. -/
lemma migrateInstance_progress (conv : Conversions δ ε) (saved : SaveCommit) (command : Command ε)
    (id : String) (s : Database δ) : Progress conv s (migrateInstance conv saved command id s).1 := by
  unfold migrateInstance
  rcases returns_or_raises (transaction (command.attempt (.createVnfInstanceV2 id)
    (createVnfInstanceV2 conv id))) s with ⟨m, returned⟩ | ⟨e, raised⟩
  · rw [seq_of_returns returned]
    obtain ⟨-, returned⟩ := attempt_returns.mp (transaction_returns.mp returned)
    obtain ⟨columns, created⟩ := createVnfInstanceV2_created returned
    have found : m.vnfInstancesV2.get id = some ⟨id, columns⟩ := by
      rw [created.added, if_pos rfl]
    rcases returns_or_raises (createVnfLcmOpOccsV2 conv saved command id) m with
      ⟨m', returned'⟩ | ⟨e, raised'⟩
    · rw [seq_of_returns returned']
      obtain ⟨added, all⟩ := createVnfLcmOpOccsV2_created found returned'
      have progress := created.progress_occs added
      split
      · exact progress
      · rcases transaction_cases (command.attempt (.markDeleteV1 id)
          (markDeleteV1 command.now id)) m' with same | marked
        · rw [same]
          exact progress
        · obtain ⟨-, marked⟩ := attempt_returns.mp marked
          rw [(markDeleteV1_returns.mp marked).2]
          apply progress.mark ((added.records id).trans (created.records id)) created.converts.live
            created.fresh
          exact created.migrated added all
    · rw [seq_of_raises raised']
      exact created.progress_occs (createVnfLcmOpOccsV2_keeps found)
  · rw [seq_of_raises raised, transaction_raised raised]
    exact Progress.refl s

/-! ## Runs -/

/-- The command migrates and does not delete only. -/
def Command.Migrates (command : Command ε) : Prop :=
  command.options.markDelete = false

instance {command : Command ε} : Decidable command.Migrates :=
  inferInstanceAs (Decidable (_ = _))

/-- Whatever fails, the state after a command. -/
def Step (conv : Conversions δ ε) (saved : SaveCommit) (s : Database δ) (command : Command ε)
    (t : Database δ) : Prop :=
  t = (migrateToV2Tables conv saved command s).1

lemma migrateAll_progress (conv : Conversions δ ε) (saved : SaveCommit) (command : Command ε)
    (ids : List String) (s : Database δ) :
    Progress conv s (forEach (migrateInstance conv saved command) ids s).1 := by
  have kept : Keeps (Progress conv s) (forEach (migrateInstance conv saved command) ids) :=
    keeps_forEach fun id _ m progress => progress.trans (migrateInstance_progress conv saved command id m)
  exact kept s (Progress.refl s)

/-- A command that migrates keeps to the relation. -/
lemma Step.progress (step : Step conv saved s command t) (migrates : command.Migrates) :
    Progress conv s t := by
  rw [show t = _ from step]
  unfold migrateToV2Tables
  cases optionErrorCheck command.options with
  | some errorMessage => exact Progress.refl s
  | none =>
    simp only [show command.options.markDelete = false from migrates, Bool.false_eq_true, ite_false]
    split
    · unfold Command.attempt
      cases command.fault .getAllVnfs with
      | none => exact migrateAll_progress conv saved command _ s
      | some e => exact Progress.refl s
    · exact migrateAll_progress conv saved command _ s

lemma progress_of_run {tr : List (Database δ × Command ε)} (run : Run (Step conv saved) s tr t)
    (migrating : Guarded (fun p => p.2.Migrates) tr) : Progress conv s t := by
  refine run.invariant ?_ migrating (Progress.refl s)
  intro m command m' migrates step progress
  exact progress.trans (Step.progress step migrates)

/-- An occurrence of v1 is there at the end with its mark, or as it was. -/
lemma Progress.occ_marked (progress : Progress conv s t) {occ occ' : VnfLcmOpOccs δ}
    (found : s.vnfLcmOpOccs.get occ.id = some occ) (found' : t.vnfLcmOpOccs.get occ.id = some occ')
    (changed : occ' ≠ occ) : Retired conv occ.vnfInstanceId s t := by
  rcases progress.records occ.vnfInstanceId with same | retired
  · have mem : occ ∈ (s.recordsOf occ.vnfInstanceId).occs := mem_occsOf.mpr ⟨found, rfl⟩
    rw [← same] at mem
    cases (mem_occsOf.mp mem).1.symm.trans found'
    exact absurd rfl changed
  · exact retired

/-- Whatever fails in a run of migrations, and wherever: a v1 instance or occurrence is marked deleted
only if the v2 instance and all v2 occurrences are there as the conversions make them; what is not
marked is as it was; v2 records are never changed or lost, and none are added but those. -/
theorem deleted_once_migrated (conv : Conversions δ ε) (saved : SaveCommit)
    {tr : List (Database δ × Command ε)} (run : Run (Step conv saved) s tr t)
    (migrating : Guarded (fun p => p.2.Migrates) tr) :
    (∀ id, (s.recordsOf id).Live → ¬ (t.recordsOf id).Live → Migrated conv id (s.recordsOf id) t) ∧
    (∀ occ occ', s.vnfLcmOpOccs.get occ.id = some occ → t.vnfLcmOpOccs.get occ.id = some occ' →
      occ' ≠ occ → Migrated conv occ.vnfInstanceId (s.recordsOf occ.vnfInstanceId) t) ∧
    (∀ id, (t.recordsOf id).Live → t.recordsOf id = s.recordsOf id) ∧
    (∀ id row, s.vnfInstancesV2.get id = some row → t.vnfInstancesV2.get id = some row) ∧
    (∀ occId row, s.vnfLcmOpOccsV2.get occId = some row → t.vnfLcmOpOccsV2.get occId = some row) ∧
    (∀ id, t.vnfInstancesV2.get id ≠ s.vnfInstancesV2.get id → InstanceAdded conv id s t) ∧
    (∀ occId, t.vnfLcmOpOccsV2.get occId ≠ s.vnfLcmOpOccsV2.get occId → OccAdded conv occId s t) := by
  have progress := progress_of_run run migrating
  refine ⟨?_, ?_, fun id live => progress.records_of_live live, fun id row => progress.instance_stays,
    fun occId row => progress.occ_stays, fun id changed => ?_, fun occId changed => ?_⟩
  · intro id live dead
    rcases progress.records id with same | retired
    · rw [same] at dead
      exact absurd live dead
    · exact retired.migrated
  · intro occ occ' found found' changed
    exact (progress.occ_marked found found' changed).migrated
  · exact (progress.instances id).resolve_left changed
  · exact (progress.occs occId).resolve_left changed

/-! ## A database with one instance -/

/-- The conversions that keep the columns. -/
def plainConversions : Conversions Unit Unit where
  vnfInstanceV2 _ _ _ _ _ := .ok ()
  vnfLcmOpOccV2 _ _ := .ok ()

/-- An instance with one occurrence. -/
def oneInstance : Database Unit where
  vnfInstances := { rows := [⟨"inst-1", none, ()⟩], nodup := by decide }
  vnfInstantiatedInfos := []
  vnfs := { rows := [⟨"inst-1", "ACTIVE", none, ()⟩], nodup := by decide }
  vnfAttributes := []
  vnfLcmOpOccs := { rows := [⟨"occ-1", "inst-1", 0, none, ()⟩], nodup := by decide }
  vnfInstancesV2 := ∅
  vnfLcmOpOccsV2 := ∅

/-- The command with the given options in which the given calls fail. -/
def commandOf (options : Options) (fault : Call → Option Unit) : Command Unit where
  options := options
  now := 0
  fault := fault
  arrange ids := ids
  perm _ := .refl _

/-- `--all`. -/
def migrateAllOf (fault : Call → Option Unit) : Command Unit :=
  commandOf { allFlag := true, apiVer := none, keepOrig := false, markDelete := false, vnfId := none }
    fault

/-- The instance is marked at the end, and so it is migrated. -/
theorem deleted_once_migrated_oneInstance :
    Migrated plainConversions "inst-1" (oneInstance.recordsOf "inst-1")
      (migrateToV2Tables plainConversions .savepoint (migrateAllOf fun _ => none) oneInstance).1 := by
  have run : Run (Step plainConversions .savepoint) oneInstance
      [(oneInstance, migrateAllOf fun _ => none)] _ := .single rfl
  apply (deleted_once_migrated plainConversions .savepoint run (by decide)).1 "inst-1"
  · exact ⟨⟨"inst-1", none, ()⟩, by rfl, rfl⟩
  · rintro ⟨row, found, live⟩
    have marked : ((migrateToV2Tables plainConversions .savepoint (migrateAllOf fun _ => none)
        oneInstance).1.vnfInstances.get "inst-1") = some ⟨"inst-1", some 0, ()⟩ := by decide +kernel
    cases marked.symm.trans found
    cases live

end Tacker.Migration
