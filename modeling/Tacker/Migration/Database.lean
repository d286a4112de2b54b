import Tacker.Basis.Table
import Tacker.Basis.Transaction

/-!
# The migration of v1 records

The commands of `tacker/db/migration/migrate_to_v2.py` and the tables they work on. The columns that
no command reads for itself are those from which a v2 record is made, by conversions that may raise.
-/

namespace Tacker.Migration

open Tacker.Basis Tacker.Basis.Action

/-- The time of the clock. -/
abbrev Time := Nat

/-! ## Tables -/

/-- A row of `vnf_instances`; `deleted` and `deleted_at` are written together. -/
structure VnfInstance (δ : Type) where
  id : String
  deletedAt : Option Time
  columns : δ
deriving DecidableEq

/-- A row of `vnf_instantiated_info`. -/
structure VnfInstantiatedInfo (δ : Type) where
  vnfInstanceId : String
  deletedAt : Option Time
  columns : δ

/-- A row of `vnf`. -/
structure Vnf (δ : Type) where
  id : String
  status : String
  deletedAt : Option Time
  columns : δ

/-- A row of `vnf_attribute`. -/
structure VnfAttribute where
  vnfId : String
  key : String
  value : String

/-- A row of `vnf_lcm_op_occs`. -/
structure VnfLcmOpOccs (δ : Type) where
  id : String
  vnfInstanceId : String
  startTime : Time
  deletedAt : Option Time
  columns : δ

/-- A row of `VnfInstanceV2`. -/
structure VnfInstanceV2 (δ : Type) where
  id : String
  columns : δ

/-- A row of `VnfLcmOpOccV2`. -/
structure VnfLcmOpOccV2 (δ : Type) where
  id : String
  vnfInstanceId : String
  columns : δ

/-- The tables of v1 and of v2. -/
structure Database (δ : Type) where
  vnfInstances : Table (VnfInstance.id (δ := δ))
  vnfInstantiatedInfos : List (VnfInstantiatedInfo δ)
  vnfs : Table (Vnf.id (δ := δ))
  vnfAttributes : List VnfAttribute
  vnfLcmOpOccs : Table (VnfLcmOpOccs.id (δ := δ))
  vnfInstancesV2 : Table (VnfInstanceV2.id (δ := δ))
  vnfLcmOpOccsV2 : Table (VnfLcmOpOccV2.id (δ := δ))

/-- What `create_vnf_instance_v2` and `_create_vnf_lcm_op_occ_v2` make of v1 rows: the columns of the
v2 rows, unless a conversion raises. -/
structure Conversions (δ ε : Type) where
  vnfInstanceV2 : VnfInstance δ → Option (VnfInstantiatedInfo δ) → Vnf δ → List VnfAttribute →
    List (VnfLcmOpOccs δ) → Except ε δ
  vnfLcmOpOccV2 : VnfInstanceV2 δ → VnfLcmOpOccs δ → Except ε δ

/-- What a command raises. -/
inductive Raised (ε : Type) where
  | invalidInput (errorMessage : String)
  | vnfInstanceNotFound (id : String)
  | attributeError
  | solVnfInstanceNotFound (instId : String)
  | duplicateEntry
  | other (e : ε)

variable {δ ε : Type}

/-! ## The options of a command -/

/-- The options of `migrate-to-v2`. -/
structure Options where
  allFlag : Bool
  apiVer : Option String
  keepOrig : Bool
  markDelete : Bool
  vnfId : Option String

/-- A text is given and not empty. -/
def isGiven : Option String → Bool
  | some text => text ≠ ""
  | none => false

/-- `option_error_check`: the message of `InvalidInput`, if it is raised. -/
def optionErrorCheck (options : Options) : Option String :=
  if options.allFlag && (isGiven options.apiVer || options.markDelete || isGiven options.vnfId) then
    some "--all cannot be used with --api-ver, --mark-delete or --vnf-id"
  else if !options.allFlag && !isGiven options.vnfId then
    some "either --all or --vnf-id must be used"
  else if isGiven options.apiVer && !options.markDelete then
    some "--api-ver must be used with --mark-delete"
  else if isGiven options.apiVer && options.apiVer ≠ some "v1" && options.apiVer ≠ some "v2" then
    some "v1 or v2 must be specified for --api-ver"
  else if options.markDelete && !isGiven options.apiVer then
    some "--mark-delete must be used with --api-ver"
  else if options.markDelete && options.keepOrig then
    some "--mark-delete cannot be used with --keep-orig"
  else
    none

/-- What works on the database in one go, and can fail there for reasons of its own. -/
inductive Call where
  | getAllVnfs
  | createVnfInstanceV2 (vnfId : String)
  | createVnfLcmOpOccV2 (occId : String)
  | createVnfLcmOpOccsV2 (vnfId : String)
  | markDeleteV1 (vnfId : String)
  | deleteVnfInstanceV2 (vnfId : String)
  | deleteVnfLcmOpOccV2 (occId : String)

/-- A command: its options, the time, the calls that fail for reasons of their own, and the order in
which the database returns what is asked for without one. -/
structure Command (ε : Type) where
  options : Options
  now : Time
  fault : Call → Option ε
  arrange : List String → List String
  perm (ids : List String) : (arrange ids).Perm ids

/-- Whether the `commit` of a record that is saved within a transaction ends its savepoint only, or
the whole transaction; this depends on the release of the library. -/
inductive SaveCommit where
  | savepoint
  | whole

/-- The call, unless it fails for a reason of its own. -/
def Command.attempt (command : Command ε) (call : Call) (action : Action (Database δ) (Raised ε)) :
    Action (Database δ) (Raised ε) :=
  match command.fault call with
  | none => action
  | some e => fail (.other e)

/-! ## The records of v2 -/

/-- The rows that are not marked deleted. -/
def undeletedOccs (occs : List (VnfLcmOpOccs δ)) : List (VnfLcmOpOccs δ) :=
  occs.filter fun occ => occ.deletedAt.isNone

/-- The occurrences of an instance. -/
def Database.occsOf (db : Database δ) (vnfId : String) : List (VnfLcmOpOccs δ) :=
  db.vnfLcmOpOccs.select fun occ => occ.vnfInstanceId = vnfId

/-- The row of `instantiated_vnf_info`, which the relationship reads where `deleted` is not set. -/
def Database.infoOf (db : Database δ) (vnfId : String) : Option (VnfInstantiatedInfo δ) :=
  (db.vnfInstantiatedInfos.filter fun info => info.vnfInstanceId = vnfId).find?
    fun info => info.deletedAt.isNone

/-- The attributes of a VNF. -/
def Database.attributesOf (db : Database δ) (vnfId : String) : List VnfAttribute :=
  db.vnfAttributes.filter fun attr => attr.vnfId = vnfId

/-- `create_vnf_instance_v2`, up to the transaction. -/
def createVnfInstanceV2 (conv : Conversions δ ε) (vnfId : String) :
    Action (Database δ) (Raised ε) := fun db =>
  match db.vnfInstances.get vnfId with
  | none => (db, some (.vnfInstanceNotFound vnfId))
  | some vnfInstance =>
    if vnfInstance.deletedAt.isSome then (db, some (.vnfInstanceNotFound vnfId))
    else
      match db.vnfs.get vnfId with
      | none => (db, some .attributeError)
      | some vnf =>
        match conv.vnfInstanceV2 vnfInstance (db.infoOf vnfId) vnf (db.attributesOf vnfId)
            (undeletedOccs (db.occsOf vnfId)) with
        | .error e => (db, some (.other e))
        | .ok columns =>
          match db.vnfInstancesV2.insert ⟨vnfId, columns⟩ with
          | none => (db, some .duplicateEntry)
          | some vnfInstancesV2 => ({ db with vnfInstancesV2 }, none)

/-- `_create_vnf_lcm_op_occ_v2`. -/
def createVnfLcmOpOccV2 (conv : Conversions δ ε) (occ : VnfLcmOpOccs δ) :
    Action (Database δ) (Raised ε) := fun db =>
  match db.vnfInstancesV2.get occ.vnfInstanceId with
  | none => (db, some (.solVnfInstanceNotFound occ.vnfInstanceId))
  | some instV2 =>
    match conv.vnfLcmOpOccV2 instV2 occ with
    | .error e => (db, some (.other e))
    | .ok columns =>
      match db.vnfLcmOpOccsV2.insert ⟨occ.id, occ.vnfInstanceId, columns⟩ with
      | none => (db, some .duplicateEntry)
      | some vnfLcmOpOccsV2 => ({ db with vnfLcmOpOccsV2 }, none)

/-- The occurrences that `create_vnf_lcm_op_occs_v2` reads. -/
def Database.migratedOccs (db : Database δ) (vnfId : String) : List (VnfLcmOpOccs δ) :=
  (undeletedOccs (db.occsOf vnfId)).mergeSort fun occ occ' => occ.startTime ≤ occ'.startTime

/-- `create_vnf_lcm_op_occs_v2`, with its transaction. -/
def createVnfLcmOpOccsV2 (conv : Conversions δ ε) (saved : SaveCommit) (command : Command ε)
    (vnfId : String) : Action (Database δ) (Raised ε) := fun db =>
  let create := fun occ : VnfLcmOpOccs δ =>
    command.attempt (.createVnfLcmOpOccV2 occ.id) (createVnfLcmOpOccV2 conv occ)
  let commit := command.attempt (.createVnfLcmOpOccsV2 vnfId) fun db => (db, none)
  match saved with
  | .savepoint => transaction (seq (forEach create (db.migratedOccs vnfId)) commit) db
  | .whole => seq (forEach (fun occ => transaction (create occ)) (db.migratedOccs vnfId)) commit db

/-! ## Deletion marks -/

/-- A v1 row is marked deleted, again if it was before. -/
def VnfInstance.marked (now : Time) (vnfId : String) (row : VnfInstance δ) : VnfInstance δ :=
  if row.id = vnfId then { row with deletedAt := some now } else row

def VnfInstantiatedInfo.marked (now : Time) (vnfId : String) (row : VnfInstantiatedInfo δ) :
    VnfInstantiatedInfo δ :=
  if row.vnfInstanceId = vnfId then { row with deletedAt := some now } else row

def Vnf.marked (now : Time) (vnfId : String) (row : Vnf δ) : Vnf δ :=
  if row.id = vnfId then { row with deletedAt := some now, status := "PENDING_DELETE" } else row

def VnfLcmOpOccs.marked (now : Time) (vnfId : String) (row : VnfLcmOpOccs δ) : VnfLcmOpOccs δ :=
  if row.vnfInstanceId = vnfId then { row with deletedAt := some now } else row

lemma VnfInstance.id_marked (now : Time) (vnfId : String) (row : VnfInstance δ) :
    (row.marked now vnfId).id = row.id := by
  unfold VnfInstance.marked
  split <;> rfl

lemma VnfInstantiatedInfo.vnfInstanceId_marked (now : Time) (vnfId : String)
    (row : VnfInstantiatedInfo δ) : (row.marked now vnfId).vnfInstanceId = row.vnfInstanceId := by
  unfold VnfInstantiatedInfo.marked
  split <;> rfl

lemma Vnf.id_marked (now : Time) (vnfId : String) (row : Vnf δ) :
    (row.marked now vnfId).id = row.id := by
  unfold Vnf.marked
  split <;> rfl

lemma VnfLcmOpOccs.id_marked (now : Time) (vnfId : String) (row : VnfLcmOpOccs δ) :
    (row.marked now vnfId).id = row.id := by
  unfold VnfLcmOpOccs.marked
  split <;> rfl

/-- `_destroy_vnf_instance`. -/
def destroyVnfInstance (now : Time) (vnfId : String) (db : Database δ) : Database δ :=
  { db with
    vnfInstantiatedInfos := db.vnfInstantiatedInfos.map (·.marked now vnfId)
    vnfInstances := db.vnfInstances.mapRows (·.marked now vnfId) (VnfInstance.id_marked now vnfId) }

/-- `mark_delete_v1`, up to the transaction. -/
def markDeleteV1 (now : Time) (vnfId : String) : Action (Database δ) (Raised ε) := fun db =>
  let destroyed := destroyVnfInstance now vnfId db
  match destroyed.vnfInstances.get vnfId with
  | none => (destroyed, some (.vnfInstanceNotFound vnfId))
  | some _ =>
    ({ destroyed with
        vnfAttributes := destroyed.vnfAttributes.filter fun attr => attr.vnfId ≠ vnfId
        vnfs := destroyed.vnfs.mapRows (·.marked now vnfId) (Vnf.id_marked now vnfId)
        vnfLcmOpOccs :=
          destroyed.vnfLcmOpOccs.mapRows (·.marked now vnfId) (VnfLcmOpOccs.id_marked now vnfId) },
      none)

/-- `mark_delete_v2`: every record is deleted and committed on its own. -/
def markDeleteV2 (command : Command ε) (vnfId : String) : Action (Database δ) (Raised ε) :=
  let deleteInstance := fun db : Database δ =>
    match db.vnfInstancesV2.get vnfId with
    | none => (db, some .attributeError)
    | some _ => ({ db with vnfInstancesV2 := db.vnfInstancesV2.erase vnfId }, none)
  let deleteOcc := fun occ : VnfLcmOpOccV2 δ => fun db : Database δ =>
    ({ db with vnfLcmOpOccsV2 := db.vnfLcmOpOccsV2.erase occ.id }, none)
  seq (command.attempt (.deleteVnfInstanceV2 vnfId) deleteInstance) fun db =>
    forEach (fun occ => command.attempt (.deleteVnfLcmOpOccV2 occ.id) (deleteOcc occ))
      (db.vnfLcmOpOccsV2.select fun occ => occ.vnfInstanceId = vnfId) db

/-! ## A command -/

/-- `get_all_vnfs`. -/
def Database.getAllVnfs (db : Database δ) : List String :=
  (db.vnfInstances.select fun row => row.deletedAt.isNone).map (·.id)

/-- The body of the loop of `migrate_to_v2_tables`. -/
def migrateInstance (conv : Conversions δ ε) (saved : SaveCommit) (command : Command ε)
    (vnfId : String) : Action (Database δ) (Raised ε) :=
  seq (transaction (command.attempt (.createVnfInstanceV2 vnfId) (createVnfInstanceV2 conv vnfId)))
    (seq (createVnfLcmOpOccsV2 conv saved command vnfId)
      (if command.options.keepOrig then fun db => (db, none)
      else transaction (command.attempt (.markDeleteV1 vnfId) (markDeleteV1 command.now vnfId))))

/-- `migrate_to_v2_tables`. -/
def migrateToV2Tables (conv : Conversions δ ε) (saved : SaveCommit) (command : Command ε) :
    Action (Database δ) (Raised ε) := fun db =>
  match optionErrorCheck command.options with
  | some errorMessage => (db, some (.invalidInput errorMessage))
  | none =>
    let vnfId := command.options.vnfId.getD ""
    if command.options.markDelete then
      if command.options.apiVer = some "v1" then
        transaction (command.attempt (.markDeleteV1 vnfId) (markDeleteV1 command.now vnfId)) db
      else if command.options.apiVer = some "v2" then
        markDeleteV2 command vnfId db
      else (db, none)
    else if command.options.allFlag then
      command.attempt .getAllVnfs (fun db =>
        forEach (migrateInstance conv saved command) (command.arrange db.getAllVnfs) db) db
    else
      forEach (migrateInstance conv saved command) [vnfId] db

end Tacker.Migration
