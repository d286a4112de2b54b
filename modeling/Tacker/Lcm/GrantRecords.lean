import Tacker.Lcm.Sequential

/-!
# The grant records

`start_lcm_op` stores the grant request and the grant with the occurrence, and the handlers that
end the operation delete them. Between the two the occurrence owns exactly one record of each kind,
and no record is without an owner. This needs only that copies are current; sequential runs are
such.
-/

namespace Tacker.Lcm
open Tacker.Basis Tacker.Objects

/-- The occurrence is in a state in which its grant is needed. -/
def needsGrant (occ : LcmOpOcc) : Bool :=
  occ.operation ≠ .modifyInfo ∧
    (occ.operationState = .processing ∨ occ.operationState = .failedTemp ∨
      occ.operationState = .rollingBack)

/-- The occurrence needs its grant, and this is it. -/
def Owns (db : Db) (id gid : Uuid) : Prop :=
  ∃ row, db.lcmoccs.get id = some row ∧ needsGrant row = true ∧ row.grantId = some gid

/-- The stored grant requests and grants are those that are owned. -/
structure GrantRecords (db : Db) : Prop where
  granted : ∀ id row, db.lcmoccs.get id = some row → needsGrant row = true → row.grantId ≠ none
  reqs : ∀ id, db.grantReqs.get id ≠ none ↔ ∃ gid, Owns db id gid
  grants : ∀ gid, db.grants.get gid ≠ none ↔ ∃ id, Owns db id gid
  distinct : ∀ id id' gid, Owns db id gid → Owns db id' gid → id = id'

variable {vnfd : String → Vnfd} {inst : VnfInstance} {s s' : State} {e : Event}
  {tr : List (State × Event)} {db db' : Db} {row occ occ' : LcmOpOcc}
  {src : LcmOperationState}

lemma GrantRecords.init : GrantRecords { inst := inst } where
  granted _ _ get := by simp at get
  reqs id := by simp [Owns]
  grants gid := by simp [Owns]
  distinct _ _ _ own := by simp [Owns] at own

/-! ## Transactions -/

/-- A change of the occurrences that leaves owners and records as they are. -/
lemma GrantRecords.congr (recs : GrantRecords db) (reqs : db'.grantReqs = db.grantReqs)
    (grants : db'.grants = db.grants)
    (rows : ∀ id row', db'.lcmoccs.get id = some row' → needsGrant row' = true →
      ∃ row, db.lcmoccs.get id = some row ∧ needsGrant row = true ∧ row'.grantId = row.grantId)
    (rows' : ∀ id row, db.lcmoccs.get id = some row → needsGrant row = true →
      ∃ row', db'.lcmoccs.get id = some row' ∧ needsGrant row' = true ∧
        row'.grantId = row.grantId) : GrantRecords db' := by
  have owns (id gid) : Owns db' id gid ↔ Owns db id gid := by
    constructor
    · rintro ⟨row', get', need', grantId'⟩
      obtain ⟨row, get, need, same⟩ := rows id row' get' need'
      exact ⟨row, get, need, same ▸ grantId'⟩
    · rintro ⟨row, get, need, grantId⟩
      obtain ⟨row', get', need', same⟩ := rows' id row get need
      exact ⟨row', get', need', same.trans grantId⟩
  constructor
  · intro id row' get' need'
    obtain ⟨row, get, need, same⟩ := rows id row' get' need'
    rw [same]
    exact recs.granted id row get need
  · simpa only [reqs, owns] using recs.reqs
  · simpa only [grants, owns] using recs.grants
  · simpa only [owns] using recs.distinct

/-- The creation of an occurrence concerns no record. -/
lemma GrantRecords.create (recs : GrantRecords db) (eq : db.createLcmocc occ = some db')
    (state : occ.operationState = initialState occ.operation) : GrantRecords db' := by
  obtain ⟨fresh, -, reqs, grants, get'⟩ := Db.createLcmocc_inv eq
  have new : needsGrant occ = false := by
    unfold needsGrant
    rw [state, initialState]
    split <;> simp_all
  refine recs.congr reqs grants (fun id row' get need => ?_) (fun id row get need => ?_)
  · rw [get'] at get
    split at get
    · cases get
      rw [new] at need
      cases need
    · exact ⟨row', get, need, rfl⟩
  · refine ⟨row, ?_, need, rfl⟩
    rw [get', if_neg]
    · exact get
    · rintro rfl
      simp [fresh] at get

/-- A move of the occurrence concerns no record. -/
lemma GrantRecords.move (recs : GrantRecords db) (rw : Rewrites True db row occ src)
    (mv : Move src occ.operationState) : GrantRecords (db.updateLcmocc occ) := by
  have op : (occ.mergeInto row).operation = row.operation :=
    congrArg OperationParams.operation rw.params
  have need : needsGrant (occ.mergeInto row) = needsGrant row := by
    have state := rw.source trivial
    have state' : (occ.mergeInto row).operationState = occ.operationState := rfl
    unfold needsGrant
    rw [op, state, state']
    generalize occ.operationState = dst at mv
    cases mv <;> simp
  have grantId (needs : needsGrant row = true) :
      (occ.mergeInto row).grantId = row.grantId := by
    have ne : src ≠ .starting := by
      rintro rfl
      simp [needsGrant, rw.source trivial] at needs
    simp [LcmOpOcc.mergeInto, rw.grantId trivial ne]
  refine recs.congr rfl rfl (fun id row' get needs => ?_) (fun id row₀ get needs => ?_)
  · rw [Db.get_updateLcmocc rw.get] at get
    split at get
    · case isTrue same =>
      subst same
      cases get
      exact ⟨row, rw.get, need ▸ needs, grantId (need ▸ needs)⟩
    · exact ⟨row', get, needs, rfl⟩
  · rw [Db.get_updateLcmocc rw.get]
    split
    · case isTrue same =>
      subst same
      obtain rfl := Option.some.inj (get.symm.trans rw.get)
      exact ⟨_, rfl, need.trans needs, grantId needs⟩
    · exact ⟨row₀, get, needs, rfl⟩

/-- The transaction of `start_lcm_op` makes the occurrence an owner. -/
lemma GrantRecords.save (recs : GrantRecords db) {grantReq : GrantRequest} {grant : Grant}
    (rw : Rewrites True db row occ .starting) (state : occ.operationState = .processing)
    (own : GrantsOf occ (some (grantReq, grant)))
    (eq : db.saveGrants occ grantReq grant = some db') : GrantRecords db' := by
  obtain ⟨op, req, grantId⟩ := own
  obtain ⟨-, lcmoccs, insReq, insGrant⟩ := Db.saveGrants_inv eq
  have get' (id) : db'.lcmoccs.get id =
      if occ.id = id then some (occ.mergeInto row) else db.lcmoccs.get id := by
    rw [lcmoccs, Db.get_updateLcmocc rw.get]
  have need : needsGrant (occ.mergeInto row) = true := by
    have op' : (occ.mergeInto row).operation ≠ .modifyInfo := op
    have state' : (occ.mergeInto row).operationState = .processing := state
    simp [needsGrant, op', state']
  have grantId' : (occ.mergeInto row).grantId = some grant.id := by
    simp [LcmOpOcc.mergeInto, grantId]
  have owns (id gid) :
      Owns db' id gid ↔ (occ.id = id ∧ grant.id = gid) ∨ (occ.id ≠ id ∧ Owns db id gid) := by
    unfold Owns
    rw [get']
    by_cases same : occ.id = id
    · simp [same, need, grantId']
    · simp [same]
  have noOwner (gid) : ¬ Owns db occ.id gid := by
    rintro ⟨row₀, get, needs, -⟩
    obtain rfl := Option.some.inj (get.symm.trans rw.get)
    simp [needsGrant, rw.source trivial] at needs
  have noGrant (id) : ¬ Owns db id grant.id := fun owns =>
    (recs.grants grant.id).mpr ⟨id, owns⟩ (Table.fresh_of_insert insGrant)
  constructor
  · intro id row' get needs
    rw [get'] at get
    split at get
    · cases get
      simp [grantId']
    · exact recs.granted id row' get needs
  · intro id
    rw [Table.get_insert insReq, req]
    by_cases same : occ.id = id
    · simp [owns, same]
    · simp [owns, same, recs.reqs]
  · intro gid
    rw [Table.get_insert insGrant]
    by_cases same : grant.id = gid
    · simp only [if_pos same, ne_eq, reduceCtorEq, not_false_eq_true, true_iff]
      exact ⟨occ.id, (owns _ _).mpr (.inl ⟨rfl, same⟩)⟩
    · rw [if_neg same, recs.grants]
      refine exists_congr fun id => ?_
      rw [owns]
      constructor
      · intro own
        refine .inr ⟨?_, own⟩
        rintro rfl
        exact noOwner gid own
      · rintro (⟨-, eq⟩ | ⟨-, own⟩)
        · exact absurd eq same
        · exact own
  · intro id id' gid own own'
    rw [owns] at own own'
    rcases own with ⟨rfl, rfl⟩ | ⟨-, own⟩
    · rcases own' with ⟨rfl, -⟩ | ⟨-, own'⟩
      · rfl
      · exact absurd own' (noGrant id')
    · rcases own' with ⟨-, rfl⟩ | ⟨-, own'⟩
      · exact absurd own (noGrant id)
      · exact recs.distinct id id' gid own own'

/-- The transaction that ends an operation takes the occurrence its records, and no other. -/
lemma GrantRecords.finish (recs : GrantRecords db) {inst : Option VnfInstance}
    {g : Option (GrantRequest × Grant)} (rw : Rewrites True db row occ src)
    (needed : src = .processing ∨ src = .failedTemp ∨ src = .rollingBack)
    (ended : isActive occ.operationState = false) (own : GrantsOf occ g) :
    GrantRecords (db.finish inst occ g) := by
  have state := rw.source trivial
  have get' (id) : (db.finish inst occ g).lcmoccs.get id =
      if occ.id = id then some (occ.mergeInto row) else db.lcmoccs.get id := by
    rw [Db.finish_lcmoccs, Db.get_updateLcmocc rw.get]
  have done : needsGrant (occ.mergeInto row) = false := by
    have state' : (occ.mergeInto row).operationState = occ.operationState := rfl
    cases st : occ.operationState <;> simp_all [needsGrant, isActive]
  have owns (id gid) : Owns (db.finish inst occ g) id gid ↔ occ.id ≠ id ∧ Owns db id gid := by
    unfold Owns
    rw [get']
    by_cases same : occ.id = id
    · simp [same, done]
    · simp [same]
  have opEq : row.operation = occ.operation :=
    (congrArg OperationParams.operation rw.params).symm
  obtain ⟨reqs', grants'⟩ : (db.finish inst occ g).grantReqs = (db.deleteGrants g).grantReqs ∧
      (db.finish inst occ g).grants = (db.deleteGrants g).grants := Db.finish_grants
  constructor
  · intro id row' get needs
    rw [get'] at get
    split at get
    · cases get
      rw [done] at needs
      cases needs
    · exact recs.granted id row' get needs
  · intro id
    simp only [owns, exists_and_left, ← recs.reqs, reqs']
    cases g with
    | none =>
      have noOwner : db.grantReqs.get occ.id = none := by
        by_contra some
        obtain ⟨gid, row₀, get, needs, -⟩ := (recs.reqs occ.id).mp some
        obtain rfl := Option.some.inj (get.symm.trans rw.get)
        simp [needsGrant, opEq, show occ.operation = .modifyInfo from own] at needs
      refine ⟨fun some => ⟨?_, some⟩, And.right⟩
      rintro rfl
      exact some noOwner
    | some g =>
      obtain ⟨-, req, -⟩ := own
      rw [Db.deleteGrants, Table.get_erase, req]
      split <;> simp_all
  · intro gid
    simp only [owns, grants']
    cases g with
    | none =>
      rw [Db.deleteGrants, recs.grants]
      refine exists_congr fun id => ⟨fun own' => ⟨?_, own'⟩, And.right⟩
      rintro rfl
      obtain ⟨row₀, get, needs, -⟩ := own'
      obtain rfl := Option.some.inj (get.symm.trans rw.get)
      simp [needsGrant, opEq, show occ.operation = .modifyInfo from own] at needs
    | some g =>
      obtain ⟨op, -, grantId⟩ := own
      have ownsOcc : Owns db occ.id g.2.id := by
        have ne : src ≠ .starting := by
          rintro rfl
          simp at needed
        refine ⟨row, rw.get, ?_, by rw [← rw.grantId trivial ne]; exact grantId⟩
        simp [needsGrant, opEq, op, state, needed]
      rw [Db.deleteGrants, Table.get_erase]
      split
      · case isTrue same =>
        subst same
        simp only [ne_eq, not_true_eq_false, false_iff, not_exists, not_and]
        exact fun id ne own' => ne (recs.distinct _ _ _ ownsOcc own')
      · case isFalse other =>
        rw [recs.grants]
        refine exists_congr fun id => ⟨fun own' => ⟨?_, own'⟩, And.right⟩
        rintro rfl
        obtain ⟨row₀, get₀, -, eq₀⟩ := own'
        obtain ⟨row₁, get₁, -, eq₁⟩ := ownsOcc
        obtain rfl := Option.some.inj (get₀.symm.trans get₁)
        exact other (Option.some.inj (eq₁.symm.trans eq₀))
  · intro id id' gid own₁ own₂
    exact recs.distinct id id' gid ((owns _ _).mp own₁).2 ((owns _ _).mp own₂).2

theorem Tx.grantRecords (tx : Tx vnfd True db db') (recs : GrantRecords db) :
    GrantRecords db' := by
  cases tx with
  | create state eq => exact recs.create eq state
  | write w =>
    cases w with
    | granted rw state own eq => exact recs.save rw state own eq
    | move rw mv => exact recs.move rw mv
    | complete rw state own => exact recs.finish rw (by simp) (by rw [state]; rfl) own
    | rolledBack rw state own => exact recs.finish rw (by simp) (by rw [state]; rfl) own
    | failed rw state own => exact recs.finish rw (by simp) (by rw [state]; rfl) own
  | sync =>
    exact recs.congr rfl rfl (fun _ row get need => ⟨row, get, need, rfl⟩)
      (fun _ row get need => ⟨row, get, need, rfl⟩)

/-! ## Runs -/

/-- The records are in order after every run without stale copies. -/
theorem GrantRecords.run (run : Run (Step vnfd) (State.init inst) tr s)
    (fresh : Guarded NotStale tr) : GrantRecords s.db := by
  have keep {s e s'} (fresh : NotStale (s, e)) (st : Step vnfd s e s')
      (inv : Ok True s ∧ GrantRecords s.db) : Ok True s' ∧ GrantRecords s'.db := by
    refine ⟨inv.1.step st fun _ => fresh, ?_⟩
    rcases inv.1.tx st with eq | tx
    · exact eq ▸ inv.2
    · exact tx.grantRecords inv.2
  have both := run.invariant keep fresh ⟨Ok.init, GrantRecords.init⟩
  exact both.2

/-- The look-up of the grant records of a current copy succeeds. -/
lemma GrantRecords.found (recs : GrantRecords db) (cur : Current True db occ)
    (state : occ.operationState = .processing ∨ occ.operationState = .failedTemp ∨
      occ.operationState = .rollingBack) : ∃ g, db.getGrantReqAndGrant occ = .ok g := by
  unfold Db.getGrantReqAndGrant
  split
  · exact ⟨none, rfl⟩
  · case isFalse op =>
    obtain ⟨row, get, copy, eq⟩ := cur
    have opEq : row.operation = occ.operation := congrArg OperationParams.operation copy.params
    have needs : needsGrant row = true := by simp [needsGrant, opEq, op, eq trivial, state]
    have sameId : row.grantId = occ.grantId := by
      refine copy.grantId trivial ?_
      rintro starting
      simp [starting] at state
    obtain ⟨gid, grantId⟩ := Option.ne_none_iff_exists'.mp (recs.granted _ row get needs)
    have owns : Owns db occ.id gid := ⟨row, get, needs, grantId⟩
    obtain ⟨req, getReq⟩ := Option.ne_none_iff_exists'.mp ((recs.reqs occ.id).mpr ⟨gid, owns⟩)
    obtain ⟨grant, getGrant⟩ := Option.ne_none_iff_exists'.mp ((recs.grants gid).mpr ⟨_, owns⟩)
    rw [getReq, ← sameId, grantId, Option.bind_some, getGrant]
    exact ⟨some (req, grant), rfl⟩

/-- The thread looks up the grant records of the occurrence: an accepted retry, rollback or
fail. -/
def Thread.looksUp : Thread → LcmOpOcc → Prop
  | .lookup _ occ _, occ' => occ = occ'
  | .checkTask .fail occ, occ' => occ = occ' ∧ occ.operationState = .failedTemp
  | _, _ => False

/-- The stored grant records are exactly those needed. -/
structure RecordsExact (s : State) : Prop where
  /-- An occurrence other than MODIFY_INFO in PROCESSING, FAILED_TEMP or ROLLING_BACK has its grant
  request and its grant stored. -/
  stored : ∀ id row, s.db.lcmoccs.get id = some row → needsGrant row = true →
    ∃ grantReq grant, s.db.grantReqs.get id = some grantReq ∧ row.grantId = some grant.id ∧
      s.db.grants.get grant.id = some grant
  /-- One that has ended has no grant request. -/
  ended : ∀ id row, s.db.lcmoccs.get id = some row → isActive row.operationState = false →
    s.db.grantReqs.get id = none
  /-- A stored grant request is that of an occurrence in these states. -/
  reqs : ∀ grantReq ∈ s.db.grantReqs.rows, ∃ row,
    s.db.lcmoccs.get grantReq.vnfLcmOpOccId = some row ∧ needsGrant row = true
  /-- A stored grant is that of exactly one occurrence in these states. -/
  grants : ∀ grant ∈ s.db.grants.rows, ∃! id, Owns s.db id grant.id
  /-- An accepted retry, rollback or fail finds the records. -/
  found : ∀ th ∈ s.threads, ∀ occ, th.looksUp occ → ∃ g, s.db.getGrantReqAndGrant occ = .ok g

end Tacker.Lcm
