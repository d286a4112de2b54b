import Tacker.Migration.Progress

/-!
# Running the migration again

When an instance can be migrated, what a run that returns has done, and what becomes of a migration
that failed: run again, it does what it would have done undisturbed unless an instance was left with
its v2 record and without the marks of v1. Such an instance stays so, and ends every run over all
instances, until its v2 records are deleted.
-/

namespace Tacker.Migration

open Tacker.Basis Tacker.Basis.Action

variable {δ ε : Type} {conv : Conversions δ ε} {saved : SaveCommit} {command : Command ε}
  {s t u : Database δ} {id : String} {now : Time}

/-- The instance is live and converted, and none of its v2 records is there. -/
def Migratable (conv : Conversions δ ε) (db : Database δ) (id : String) : Prop :=
  ∃ columns, (db.recordsOf id).Converts conv columns ∧ db.vnfInstancesV2.get id = none ∧
    ∀ occ ∈ (db.recordsOf id).liveOccs, (∃ columns', conv.vnfLcmOpOccV2 ⟨id, columns⟩ occ = .ok columns') ∧
      db.vnfLcmOpOccsV2.get occ.id = none

/-- The instance has a v2 record and is not marked in v1. -/
def HalfWay (db : Database δ) (id : String) : Prop :=
  (db.recordsOf id).Live ∧ db.vnfInstancesV2.get id ≠ none

/-- No call of the command fails for a reason of its own. -/
def Command.Faultless (command : Command ε) : Prop :=
  ∀ call, command.fault call = none

/-! ## When an instance is migrated -/

lemma nodup_migratedOccs (db : Database δ) (id : String) :
    ((db.migratedOccs id).map (·.id)).Nodup := by
  have perm : (db.migratedOccs id).Perm (undeletedOccs (db.occsOf id)) := List.mergeSort_perm _ _
  rw [(perm.map _).nodup_iff]
  have part : (undeletedOccs (db.occsOf id)).Sublist db.vnfLcmOpOccs.rows :=
    List.filter_sublist.trans List.filter_sublist
  exact (part.map _).nodup db.vnfLcmOpOccs.nodup

/-- An occurrence that is added is none of others with other ids. -/
lemma get_of_inserted {row : VnfLcmOpOccV2 δ} {vnfLcmOpOccsV2 : Table (VnfLcmOpOccV2.id (δ := δ))}
    (inserted : s.vnfLcmOpOccsV2.insert row = some vnfLcmOpOccsV2) {list : List (VnfLcmOpOccs δ)}
    (unlike : row.id ∉ list.map (·.id)) {occ : VnfLcmOpOccs δ} (mem : occ ∈ list) :
    vnfLcmOpOccsV2.get occ.id = s.vnfLcmOpOccsV2.get occ.id := by
  rw [Table.get_insert inserted, if_neg]
  intro same
  apply unlike
  rw [same]
  exact List.mem_map_of_mem (f := VnfLcmOpOccs.id) mem

/-- Occurrences with different ids are all created if each of them can be. -/
lemma createOccs_returns (faultless : command.Faultless) {instV2 : VnfInstanceV2 δ}
    {list : List (VnfLcmOpOccs δ)} (nodup : (list.map (·.id)).Nodup)
    (belongs : ∀ occ ∈ list, occ.vnfInstanceId = id)
    (found : s.vnfInstancesV2.get id = some instV2) :
    (∃ t, Returns (forEach (fun occ => command.attempt (.createVnfLcmOpOccV2 occ.id)
      (createVnfLcmOpOccV2 conv occ)) list) s t) ↔
      ∀ occ ∈ list, (∃ columns, conv.vnfLcmOpOccV2 instV2 occ = .ok columns) ∧
        s.vnfLcmOpOccsV2.get occ.id = none := by
  induction list generalizing s with
  | nil => simp [forEach_nil_returns]
  | cons occ list ih =>
    obtain ⟨unlike, nodup⟩ := List.nodup_cons.mp nodup
    obtain ⟨here, belongs⟩ := List.forall_mem_cons.mp belongs
    rw [List.forall_mem_cons]
    constructor
    · rintro ⟨t, returned⟩
      obtain ⟨m, first, rest⟩ := forEach_cons_returns.mp returned
      obtain ⟨-, first⟩ := attempt_returns.mp first
      obtain ⟨instV2', columns, vnfLcmOpOccsV2, found', made, inserted, rfl⟩ :=
        createVnfLcmOpOccV2_returns.mp first
      rw [here] at found'
      obtain rfl := Option.some.inj (found.symm.trans found')
      refine ⟨⟨⟨columns, made⟩, Table.fresh_of_insert inserted⟩, ?_⟩
      intro occ' mem
      obtain ⟨converts, none⟩ :=
        (ih (s := { s with vnfLcmOpOccsV2 }) nodup belongs found).mp ⟨t, rest⟩ occ' mem
      exact ⟨converts, (get_of_inserted inserted unlike mem).symm.trans none⟩
    · rintro ⟨⟨⟨columns, made⟩, none⟩, rest⟩
      cases inserted : s.vnfLcmOpOccsV2.insert ⟨occ.id, occ.vnfInstanceId, columns⟩ with
      | none => exact absurd none (Table.insert_eq_none.mp inserted)
      | some vnfLcmOpOccsV2 =>
        have first : Returns (command.attempt (.createVnfLcmOpOccV2 occ.id)
            (createVnfLcmOpOccV2 conv occ)) s { s with vnfLcmOpOccsV2 } :=
          attempt_returns.mpr ⟨faultless _, createVnfLcmOpOccV2_returns.mpr
            ⟨instV2, columns, vnfLcmOpOccsV2, here ▸ found, made, inserted, rfl⟩⟩
        have later : ∀ occ' ∈ list, (∃ columns, conv.vnfLcmOpOccV2 instV2 occ' = .ok columns) ∧
            vnfLcmOpOccsV2.get occ'.id = Option.none := by
          intro occ' mem
          exact ⟨(rest occ' mem).1, (get_of_inserted inserted unlike mem).trans (rest occ' mem).2⟩
        obtain ⟨t, looped⟩ :=
          (ih (s := { s with vnfLcmOpOccsV2 }) nodup belongs found).mpr later
        exact ⟨t, forEach_cons_returns.mpr ⟨_, first, looped⟩⟩

/-- What the migration of an instance has done when it returns. -/
structure InstanceMigrated (conv : Conversions δ ε) (keepOrig : Bool) (id : String)
    (s t : Database δ) : Prop where
  migrated : Migrated conv id (s.recordsOf id) t
  marked : ∃ now, t.recordsOf id = if keepOrig then s.recordsOf id else (s.recordsOf id).marked now id
  records : ∀ other, other ≠ id → t.recordsOf other = s.recordsOf other
  instances : ∀ other, other ≠ id → t.vnfInstancesV2.get other = s.vnfInstancesV2.get other
  occs : ∀ occId, (∀ occ ∈ (s.recordsOf id).liveOccs, occ.id ≠ occId) →
    t.vnfLcmOpOccsV2.get occId = s.vnfLcmOpOccsV2.get occId

lemma migrateInstance_migrated
    (returned : Returns (migrateInstance conv saved command id) s t) :
    InstanceMigrated conv command.options.keepOrig id s t := by
  obtain ⟨m, first, rest⟩ := seq_returns.mp returned
  obtain ⟨m', second, third⟩ := seq_returns.mp rest
  obtain ⟨-, first⟩ := attempt_returns.mp (transaction_returns.mp first)
  obtain ⟨columns, created⟩ := createVnfInstanceV2_created first
  have found : m.vnfInstancesV2.get id = some ⟨id, columns⟩ := by
    rw [created.added, if_pos rfl]
  obtain ⟨added, all⟩ := createVnfLcmOpOccsV2_created found second
  have migrated := created.migrated added all
  have instances : ∀ other, other ≠ id →
      m'.vnfInstancesV2.get other = s.vnfInstancesV2.get other := by
    intro other ne
    rw [added.instances, created.added, if_neg (Ne.symm ne)]
  have occs : ∀ occId, (∀ occ ∈ (s.recordsOf id).liveOccs, occ.id ≠ occId) →
      m'.vnfLcmOpOccsV2.get occId = s.vnfLcmOpOccsV2.get occId := by
    intro occId unlike
    rcases added.occs occId with same | ⟨-, occ, mem, named, -⟩
    · rw [same, created.occs]
    · have live := mem_migratedOccs.mp mem
      rw [created.records] at live
      exact absurd named (unlike occ live)
  have records := fun other => (added.records other).trans (created.records other)
  cases keep : command.options.keepOrig with
  | true =>
    rw [keep] at third
    cases third
    exact ⟨migrated, ⟨0, records id⟩, fun other _ => records other, instances, occs⟩
  | false =>
    rw [keep] at third
    obtain ⟨-, marks⟩ := attempt_returns.mp (transaction_returns.mp third)
    obtain ⟨-, rfl⟩ := markDeleteV1_returns.mp marks
    refine ⟨migrated, ⟨command.now, ?_⟩, ?_, instances, occs⟩
    · show (m'.markedV1 command.now id).recordsOf id = _
      rw [recordsOf_markedV1, records]
      rfl
    · intro other ne
      rw [recordsOf_markedV1_of_ne m' command.now ne, records]

/-- Where nothing fails for reasons of its own, an instance is migrated if it can be. -/
lemma migrateInstance_returns (faultless : command.Faultless) :
    (∃ t, Returns (migrateInstance conv saved command id) s t) ↔ Migratable conv s id := by
  constructor
  · rintro ⟨t, returned⟩
    obtain ⟨m, first, rest⟩ := seq_returns.mp returned
    obtain ⟨m', second, -⟩ := seq_returns.mp rest
    obtain ⟨-, first⟩ := attempt_returns.mp (transaction_returns.mp first)
    obtain ⟨columns, created⟩ := createVnfInstanceV2_created first
    have found : m.vnfInstancesV2.get id = some ⟨id, columns⟩ := by
      rw [created.added, if_pos rfl]
    obtain ⟨-, looped⟩ := createVnfLcmOpOccsV2_returns.mp second
    have each := (createOccs_returns faultless (nodup_migratedOccs m id)
      (belongs_migratedOccs m id) found).mp
      ⟨m', looped⟩
    refine ⟨columns, created.converts, created.fresh, ?_⟩
    intro occ mem
    rw [← created.occs]
    apply each occ
    rw [mem_migratedOccs, created.records]
    exact mem
  · rintro ⟨columns, converts, fresh, each⟩
    cases inserted : s.vnfInstancesV2.insert ⟨id, columns⟩ with
    | none => exact absurd fresh (Table.insert_eq_none.mp inserted)
    | some vnfInstancesV2 =>
      have first : Returns (createVnfInstanceV2 conv id) s { s with vnfInstancesV2 } :=
        createVnfInstanceV2_returns.mpr ⟨columns, vnfInstancesV2, converts, inserted, rfl⟩
      have found : vnfInstancesV2.get id = some ⟨id, columns⟩ := by
        rw [Table.get_insert inserted, if_pos rfl]
      obtain ⟨m, looped⟩ := (createOccs_returns (s := { s with vnfInstancesV2 }) faultless
        (nodup_migratedOccs _ id) (belongs_migratedOccs _ id) found).mpr
        (fun occ mem => each occ (mem_migratedOccs.mp mem))
      have second : Returns (createVnfLcmOpOccsV2 conv saved command id) { s with vnfInstancesV2 } m :=
        createVnfLcmOpOccsV2_returns.mpr ⟨faultless _, looped⟩
      have start := transaction_returns.mpr
        (attempt_returns.mpr ⟨faultless (.createVnfInstanceV2 id), first⟩)
      cases keep : command.options.keepOrig with
      | true =>
        refine ⟨m, seq_returns.mpr ⟨_, start, seq_returns.mpr ⟨m, second, ?_⟩⟩⟩
        rw [keep]
        rfl
      | false =>
        refine ⟨m.markedV1 command.now id,
          seq_returns.mpr ⟨_, start, seq_returns.mpr ⟨m, second, ?_⟩⟩⟩
        rw [keep]
        apply transaction_returns.mpr
        apply attempt_returns.mpr
        refine ⟨faultless _, markDeleteV1_returns.mpr ⟨?_, rfl⟩⟩
        obtain ⟨added, -⟩ := createVnfLcmOpOccsV2_created found second
        have same : (m.recordsOf id).vnfInstance = (s.recordsOf id).vnfInstance :=
          congrArg Records.vnfInstance (added.records id)
        obtain ⟨vnfInstance, stored, -⟩ := converts.live
        intro none
        exact absurd (stored.symm.trans (same.symm.trans none)) (Option.some_ne_none _)

/-! ## All instances -/

lemma mem_getAllVnfs : id ∈ s.getAllVnfs ↔ (s.recordsOf id).Live := by
  rw [Database.getAllVnfs, List.mem_map]
  constructor
  · rintro ⟨row, mem, rfl⟩
    obtain ⟨found, live⟩ := Table.mem_select.mp mem
    exact ⟨row, found, Option.isNone_iff_eq_none.mp live⟩
  · rintro ⟨row, found, live⟩
    have found : s.vnfInstances.get id = some row := found
    have same := Table.key_of_get found
    refine ⟨row, Table.mem_select.mpr ⟨same ▸ found, ?_⟩, same⟩
    rw [live]
    rfl

lemma nodup_getAllVnfs (db : Database δ) : db.getAllVnfs.Nodup :=
  (List.Sublist.map _ List.filter_sublist).nodup db.vnfInstances.nodup

/-- The occurrences of two instances have different ids. -/
lemma eq_of_occ_id {id' : String} {occ occ' : VnfLcmOpOccs δ} (mem : occ ∈ (s.recordsOf id).liveOccs)
    (mem' : occ' ∈ (s.recordsOf id').liveOccs) (same : occ'.id = occ.id) : occ' = occ ∧ id' = id := by
  obtain ⟨found, belongs, -⟩ := mem_liveOccs.mp mem
  obtain ⟨found', belongs', -⟩ := mem_liveOccs.mp mem'
  rw [same] at found'
  obtain rfl := Option.some.inj (found'.symm.trans found)
  exact ⟨rfl, belongs'.symm.trans belongs⟩

/-- Migrating one instance leaves whether another one can be migrated. -/
lemma InstanceMigrated.migratable_other {keepOrig : Bool}
    (done : InstanceMigrated conv keepOrig id s t) {other : String} (ne : other ≠ id) :
    Migratable conv t other ↔ Migratable conv s other := by
  unfold Migratable
  rw [done.records other ne, done.instances other ne]
  apply exists_congr
  intro columns
  apply and_congr_right
  intro _
  apply and_congr_right
  intro _
  apply forall₂_congr
  intro occ mem
  rw [done.occs occ.id]
  intro occ' mem' same
  exact ne (eq_of_occ_id mem mem' same).2.symm

/-- The loop returns if every instance can be migrated. -/
lemma migrateAll_returns (faultless : command.Faultless) {ids : List String} (nodup : ids.Nodup) :
    (∃ t, Returns (forEach (migrateInstance conv saved command) ids) s t) ↔
      ∀ id ∈ ids, Migratable conv s id := by
  induction ids generalizing s with
  | nil => simp [forEach_nil_returns]
  | cons id ids ih =>
    obtain ⟨unlike, nodup⟩ := List.nodup_cons.mp nodup
    have others : ∀ {m}, Returns (migrateInstance conv saved command id) s m →
        ((∀ other ∈ ids, Migratable conv m other) ↔ ∀ other ∈ ids, Migratable conv s other) := by
      intro m first
      apply forall₂_congr
      intro other mem
      exact (migrateInstance_migrated first).migratable_other fun same => unlike (same ▸ mem)
    rw [List.forall_mem_cons, ← migrateInstance_returns faultless]
    constructor
    · rintro ⟨t, returned⟩
      obtain ⟨m, first, rest⟩ := forEach_cons_returns.mp returned
      exact ⟨⟨m, first⟩, (others first).mp ((ih nodup).mp ⟨t, rest⟩)⟩
    · rintro ⟨⟨m, first⟩, each⟩
      obtain ⟨t, rest⟩ := (ih nodup).mpr ((others first).mpr each)
      exact ⟨t, forEach_cons_returns.mpr ⟨m, first, rest⟩⟩

/-- After a loop that returns no instance of it is live, unless the v1 records were to be kept. -/
lemma migrateAll_marked (marks : command.options.keepOrig = false) {ids : List String}
    (returned : Returns (forEach (migrateInstance conv saved command) ids) s t) :
    ∀ id ∈ ids, ¬ (t.recordsOf id).Live := by
  refine (forEach_returns (J := fun _ => True) (P := fun id m => ¬ (m.recordsOf id).Live) ?_ ?_
    trivial returned).2
  · intro id _ m m' _ turn
    obtain ⟨now, marked⟩ := (migrateInstance_migrated turn).marked
    rw [marks] at marked
    refine ⟨trivial, ?_⟩
    rw [show m'.recordsOf id = (m.recordsOf id).marked now id from marked]
    exact Records.not_live_marked m now id
  · intro id other _ m m' _ turn dead live
    have progress := migrateInstance_progress conv saved command other m
    rw [turn] at progress
    rw [progress.records_of_live live] at live
    exact dead live

/-- The command is `--all`, and v1 records are to be marked. -/
structure Command.MigratesAll (command : Command ε) : Prop where
  allFlag : command.options.allFlag = true
  markDelete : command.options.markDelete = false
  keepOrig : command.options.keepOrig = false
  valid : optionErrorCheck command.options = none

lemma migrateToV2Tables_all (all : command.MigratesAll) (faultless : command.Faultless) :
    migrateToV2Tables conv saved command s =
      forEach (migrateInstance conv saved command) (command.arrange s.getAllVnfs) s := by
  unfold migrateToV2Tables Command.attempt
  rw [all.valid, faultless]
  simp [all.allFlag, all.markDelete]

/-- Without failures of other reasons, `--all` returns if every live instance can be migrated. -/
lemma all_returns (all : command.MigratesAll) (faultless : command.Faultless) :
    (migrateToV2Tables conv saved command s).2 = none ↔
      ∀ id, (s.recordsOf id).Live → Migratable conv s id := by
  have perm := command.perm s.getAllVnfs
  have nodup := perm.nodup_iff.mpr (nodup_getAllVnfs s)
  rw [migrateToV2Tables_all all faultless]
  constructor
  · intro quiet id live
    have returned := returns_iff.mpr ⟨quiet, rfl⟩
    exact (migrateAll_returns faultless nodup).mp ⟨_, returned⟩ id
      (perm.mem_iff.mpr (mem_getAllVnfs.mpr live))
  · intro each
    have returns : ∃ t, Returns (forEach (migrateInstance conv saved command)
        (command.arrange s.getAllVnfs)) s t :=
      (migrateAll_returns faultless nodup).mpr fun id mem =>
        each id (mem_getAllVnfs.mp (perm.mem_iff.mp mem))
    obtain ⟨t, returned⟩ := returns
    exact (returns_iff.mp returned).1

/-- Then none is live any more. -/
lemma all_marked (all : command.MigratesAll) (faultless : command.Faultless)
    (quiet : (migrateToV2Tables conv saved command s).2 = none) :
    ∀ id, ¬ ((migrateToV2Tables conv saved command s).1.recordsOf id).Live := by
  have progress : Progress conv s (migrateToV2Tables conv saved command s).1 :=
    Step.progress rfl all.markDelete
  intro id live
  have before := live
  rw [progress.records_of_live live] at before
  rw [migrateToV2Tables_all all faultless] at quiet live
  apply migrateAll_marked all.keepOrig (returns_iff.mpr ⟨quiet, rfl⟩) id _ live
  exact (command.perm _).mem_iff.mpr (mem_getAllVnfs.mpr before)

/-! ## The same result -/

/-- Two migrations of a database left the same, but for the time of the marks. -/
structure SameResult (s t t' : Database δ) : Prop where
  instances : ∀ id, t.vnfInstancesV2.get id = t'.vnfInstancesV2.get id
  occs : ∀ occId, t.vnfLcmOpOccsV2.get occId = t'.vnfLcmOpOccsV2.get occId
  records : ∀ id, t.recordsOf id = t'.recordsOf id ∨ ∃ now now',
    t.recordsOf id = (s.recordsOf id).marked now id ∧ t'.recordsOf id = (s.recordsOf id).marked now' id

/-- A live instance that is not live at the end is migrated. -/
lemma Progress.retired (progress : Progress conv s t) (live : (s.recordsOf id).Live)
    (dead : ¬ (t.recordsOf id).Live) : Retired conv id s t := by
  rcases progress.records id with same | retired
  · rw [same] at dead
    exact absurd live dead
  · exact retired

/-- An occurrence that was added is the one that another migration adds. -/
lemma OccAdded.same {occId : String} (added : OccAdded conv occId s t)
    (progress : Progress conv s u) (none : ∀ id, ¬ (u.recordsOf id).Live) :
    t.vnfLcmOpOccsV2.get occId = u.vnfLcmOpOccsV2.get occId := by
  obtain ⟨-, id, occ, columns, mem, rfl, converts, -, made, converted, found⟩ := added
  obtain ⟨columns', converts', -, each⟩ := (progress.retired converts.live (none id)).migrated
  obtain rfl := converts.unique converts'
  obtain ⟨made', converted', found'⟩ := each occ mem
  cases converted.symm.trans converted'
  rw [found, found']

lemma same_of_completed (progress : Progress conv s t) (none : ∀ id, ¬ (t.recordsOf id).Live)
    (progress' : Progress conv s u) (none' : ∀ id, ¬ (u.recordsOf id).Live) : SameResult s t u where
  instances := by
    intro id
    by_cases live : (s.recordsOf id).Live
    · obtain ⟨columns, converts, found, -⟩ := (progress.retired live (none id)).migrated
      obtain ⟨columns', converts', found', -⟩ := (progress'.retired live (none' id)).migrated
      rw [found, found', converts.unique converts']
    · have notAdded : ∀ {t}, ¬ InstanceAdded conv id s t := by
        rintro t ⟨-, columns, converts, -⟩
        exact live converts.live
      rw [(progress.instances id).resolve_right notAdded, (progress'.instances id).resolve_right notAdded]
  occs := by
    intro occId
    rcases progress.occs occId with same | added
    · rcases progress'.occs occId with same' | added
      · rw [same, same']
      · exact (added.same progress none).symm
    · exact added.same progress' none'
  records := by
    intro id
    by_cases live : (s.recordsOf id).Live
    · obtain ⟨now, marked⟩ := (progress.retired live (none id)).marked
      obtain ⟨now', marked'⟩ := (progress'.retired live (none' id)).marked
      exact .inr ⟨now, now', marked, marked'⟩
    · apply Or.inl
      have notRetired : ∀ {t}, ¬ Retired conv id s t := fun retired => live retired.live
      rw [(progress.records id).resolve_right notRetired, (progress'.records id).resolve_right notRetired]

end Tacker.Migration
