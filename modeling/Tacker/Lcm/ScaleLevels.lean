import Tacker.Lcm.Endings

/-!
# Scale levels

The levels recorded for an instance stay within their bounds, and only a scale operation that
completes changes them. The bound is checked when the occurrence is created and the level is
computed when an attempt is made; the two agree since the instance does not change in between and
a failed attempt stores nothing of it.
-/

namespace Tacker.Lcm
open Tacker.Basis Tacker.Objects

/-! ## Lists of levels -/

section lists

variable {infos : List ScaleInfo} {aspectId : String} {n : Int}

lemma levelOf_cons {info : ScaleInfo} :
    levelOf (some (info :: infos)) aspectId =
      if info.aspectId = aspectId then some info.scaleLevel
      else levelOf (some infos) aspectId := by
  simp only [levelOf, Option.getD_some, List.find?_cons]
  by_cases same : info.aspectId = aspectId <;> simp [same]

lemma levelOf_none : levelOf none aspectId = none := rfl

lemma levelOf_nil : levelOf (some []) aspectId = none := rfl

/-- The adjustment keeps the aspects. -/
lemma adjustScaleStatus_aspects :
    (adjustScaleStatus aspectId n infos).map ScaleInfo.aspectId =
      infos.map ScaleInfo.aspectId := by
  induction infos with
  | nil => rfl
  | cons info infos ih =>
    unfold adjustScaleStatus
    split
    · rfl
    · rw [List.map_cons, ih, List.map_cons]

/-- The adjustment changes the level of its aspect. -/
lemma levelOf_adjustScaleStatus {aspectId' : String} :
    levelOf (some (adjustScaleStatus aspectId n infos)) aspectId' =
      if aspectId' = aspectId then (levelOf (some infos) aspectId').map (· + n)
      else levelOf (some infos) aspectId' := by
  induction infos with
  | nil => simp [adjustScaleStatus, levelOf_nil]
  | cons info infos ih =>
    unfold adjustScaleStatus
    by_cases own : info.aspectId = aspectId
    · rw [if_pos own, levelOf_cons, levelOf_cons]
      by_cases same : info.aspectId = aspectId'
      · simp [same, ← own]
      · have ne : aspectId' ≠ aspectId := fun eq => same (own.trans eq.symm)
        simp [same, ne]
    · rw [if_neg own, levelOf_cons, levelOf_cons, ih]
      by_cases same : info.aspectId = aspectId'
      · have ne : aspectId' ≠ aspectId := fun eq => own (same.trans eq)
        simp [same, ne]
      · simp [same]

/-- The maximum levels of the recorded aspects. -/
lemma levelOf_map {f : String → Int} :
    levelOf (some (infos.map fun obj => ScaleInfo.mk obj.aspectId (f obj.aspectId))) aspectId =
      (levelOf (some infos) aspectId).map fun _ => f aspectId := by
  induction infos with
  | nil => rfl
  | cons info infos ih =>
    rw [List.map_cons, levelOf_cons, levelOf_cons, ih]
    by_cases same : info.aspectId = aspectId <;> simp [same]

/-- The levels recorded from an instantiation level are those of the VNFD. -/
lemma levelOf_entries {levels : AList (fun _ : String => Int)} :
    levelOf (some (levels.entries.map fun e => ScaleInfo.mk e.1 e.2)) aspectId =
      levels.lookup aspectId := by
  unfold AList.lookup
  induction levels.entries with
  | nil => rfl
  | cons e es ih =>
    rw [List.map_cons, levelOf_cons, ih]
    by_cases same : e.1 = aspectId
    · subst same
      rw [if_pos rfl, List.dlookup_cons_eq]
    · rw [if_neg same, List.dlookup_cons_ne _ _ (Ne.symm same)]

end lists

/-! ## Levels within their bounds -/

/-- Every aspect is recorded once, with a level between zero and its maximum. -/
structure LevelsInBounds (info : InstantiatedVnfInfo) : Prop where
  once : ((info.scaleStatus.getD []).map ScaleInfo.aspectId).Nodup
  bounded : ∀ aspectId level, levelOf info.scaleStatus aspectId = some level →
    ∃ maxLevel, levelOf info.maxScaleLevels aspectId = some maxLevel ∧
      0 ≤ level ∧ level ≤ maxLevel

/-- The recorded levels of the instance are within their bounds. -/
def InstInBounds (inst : VnfInstance) : Prop :=
  ∀ info, inst.instantiatedVnfInfo = some info → LevelsInBounds info

/-- The parameters of a scale operation pass the check on the instance. -/
def ScaleFits (inst : VnfInstance) : OperationParams → Prop
  | .scale req => ∃ n, req.numberOfSteps = some n ∧
      checkScaleLevel inst req.aspectId req.type n = .ok ()
  | _ => True

variable {vnfd : Vnfd} {inst inst' : VnfInstance} {info saved : InstantiatedVnfInfo}
  {params params' : OperationParams} {answer : VimAnswer} {req : ScaleVnfRequest} {n : Int}

lemma LevelsInBounds.of_none (none : info.scaleStatus = none) : LevelsInBounds info := by
  constructor
  · simp [none]
  · intro aspectId level eq
    rw [none, levelOf_none] at eq
    cases eq

lemma LevelsInBounds.congr (ok : LevelsInBounds saved)
    (status : info.scaleStatus = saved.scaleStatus)
    (max : info.maxScaleLevels = saved.maxScaleLevels) : LevelsInBounds info :=
  ⟨status ▸ ok.once, by rw [status, max]; exact ok.bounded⟩

/-- What the check of a scale request says. -/
lemma checkScaleLevel_ok {aspectId : String} {scaleType : ScaleType}
    (ok : checkScaleLevel inst aspectId scaleType n = .ok ()) :
    ∃ level maxLevel, getCurrentScaleLevel inst aspectId = some level ∧
      getMaxScaleLevel inst aspectId = some maxLevel ∧
      0 ≤ level + signedSteps scaleType n ∧ level + signedSteps scaleType n ≤ maxLevel := by
  unfold checkScaleLevel at ok
  split at ok
  · case h_1 level maxLevel cur max =>
    refine ⟨level, maxLevel, cur, max, ?_⟩
    dsimp only at ok
    split at ok
    · cases ok
    · omega
  · cases ok

lemma checkParams_fits (eq : checkParams inst params = .ok params') : ScaleFits inst params' := by
  cases params with
  | scale req =>
    cases checked : checkScaleLevel inst req.aspectId req.type (req.numberOfSteps.getD 1) with
    | error ex => simp [checkParams, checked, bind, Except.bind] at eq
    | ok =>
      simp only [checkParams, checked, bind, Except.bind, pure, Except.pure, Except.ok.injEq] at eq
      subst eq
      exact ⟨_, rfl, checked⟩
  | _ => cases eq; trivial

/-! ## What the driver makes of the levels -/

/-- What the VIM driver hands back has the levels it was given, or none. -/
lemma VimAnswer.infoFrom_levels :
    (answer.infoFrom (some saved)).scaleStatus = none ∨
      (answer.infoFrom (some saved)).scaleStatus = saved.scaleStatus ∧
        (answer.infoFrom (some saved)).maxScaleLevels = saved.maxScaleLevels := by
  cases keeps : answer.keeps with
  | false => exact .inl (by simp [infoFrom, keeps])
  | true => exact .inr ⟨by simp [infoFrom, keeps], by simp [infoFrom, keeps]⟩

/-- The levels that were saved are taken over. -/
lemma inheritInfo_levels (back : info.scaleStatus = none ∨
    info.scaleStatus = saved.scaleStatus ∧ info.maxScaleLevels = saved.maxScaleLevels) :
    (inheritInfo saved info).scaleStatus = saved.scaleStatus ∧
      (saved.scaleStatus ≠ none →
        (inheritInfo saved info).maxScaleLevels = saved.maxScaleLevels) := by
  unfold inheritInfo
  cases status : saved.scaleStatus with
  | none =>
    have none : info.scaleStatus = none := by
      rcases back with none | ⟨same, -⟩
      · exact none
      · exact same.trans status
    cases saved.localizationLanguage <;> exact ⟨none, fun ne => absurd rfl ne⟩
  | some scaleStatus => cases saved.localizationLanguage <;> exact ⟨rfl, fun _ => rfl⟩

lemma LevelsInBounds.inherit (ok : LevelsInBounds saved) (back : info.scaleStatus = none ∨
    info.scaleStatus = saved.scaleStatus ∧ info.maxScaleLevels = saved.maxScaleLevels) :
    LevelsInBounds (inheritInfo saved info) := by
  obtain ⟨status, max⟩ := inheritInfo_levels back
  by_cases none : saved.scaleStatus = none
  · exact .of_none (status.trans none)
  · exact ok.congr status (max none)

lemma LevelsInBounds.instantiate (resp : vnfd.LevelsRespectMax) (req : InstantiateVnfRequest)
    (ok : LevelsInBounds info) : LevelsInBounds (instantiateInfo vnfd req info) := by
  unfold instantiateInfo
  extract_lets instLevel levels scaleStatus maxScaleLevels info'
  have same : LevelsInBounds info' := by
    unfold info'
    split
    · exact ok
    · constructor
      · have keys : levels.entries.keys.Nodup := levels.nodupKeys
        simpa [scaleStatus, Function.comp_def, List.keys] using keys
      · intro aspectId level eq
        simp only [scaleStatus, levelOf_entries] at eq
        refine ⟨vnfd.getMaxScaleLevel req.flavourId aspectId, ?_,
          resp req.flavourId instLevel aspectId level eq⟩
        simp only [maxScaleLevels, levelOf_map, scaleStatus, levelOf_entries, eq, Option.map_some]
  split
  · exact same
  · exact same.congr rfl rfl

/-- The levels after the main process of a scale operation. -/
lemma LevelsInBounds.scale (ok : LevelsInBounds saved)
    (savedEq : inst.instantiatedVnfInfo = some saved)
    (fits : checkScaleLevel inst req.aspectId req.type n = .ok ()) {scaleStatus}
    (status : saved.scaleStatus = some scaleStatus)
    (newStatus : info.scaleStatus =
      some (adjustScaleStatus req.aspectId (signedSteps req.type n) scaleStatus))
    (max : info.maxScaleLevels = saved.maxScaleLevels) : LevelsInBounds info := by
  obtain ⟨level, maxLevel, cur, maxEq, le, le'⟩ := checkScaleLevel_ok fits
  have cur : levelOf saved.scaleStatus req.aspectId = some level := by
    simpa [getCurrentScaleLevel, savedEq] using cur
  have maxEq : levelOf saved.maxScaleLevels req.aspectId = some maxLevel := by
    simpa [getMaxScaleLevel, savedEq] using maxEq
  constructor
  · have once := ok.once
    rw [status] at once
    rw [newStatus, Option.getD_some, adjustScaleStatus_aspects]
    exact once
  · intro aspectId level' eq
    rw [newStatus, levelOf_adjustScaleStatus, ← status] at eq
    rw [max]
    split at eq
    · case isTrue own =>
      subst own
      rw [cur, Option.map_some, Option.some.injEq] at eq
      exact ⟨maxLevel, maxEq, by omega, by omega⟩
    · exact ok.bounded aspectId level' eq

/-- What `process` does for a scale operation. -/
lemma process_scale (steps : req.numberOfSteps = some n)
    (eq : process vnfd (.scale req) answer inst = .ok inst') :
    ∃ saved info scaleStatus, inst.instantiatedVnfInfo = some saved ∧
      inst'.instantiatedVnfInfo = some info ∧ saved.scaleStatus = some scaleStatus ∧
      info.scaleStatus =
        some (adjustScaleStatus req.aspectId (signedSteps req.type n) scaleStatus) ∧
      info.maxScaleLevels = saved.maxScaleLevels := by
  cases savedEq : inst.instantiatedVnfInfo with
  | none =>
    simp [process, mainProcess, makeInstInfoCommon, VimAnswer.applyTo, savedEq, bind,
      Except.bind] at eq
  | some saved =>
    simp only [process, mainProcess, makeInstInfoCommon, VimAnswer.applyTo, savedEq, bind,
      Except.bind, scaleInfo, steps] at eq
    obtain ⟨status, max⟩ := inheritInfo_levels (@VimAnswer.infoFrom_levels saved answer)
    rw [status] at eq
    cases statusEq : saved.scaleStatus with
    | none => simp [statusEq] at eq
    | some scaleStatus =>
      simp only [statusEq, pure, Except.pure, Except.ok.injEq] at eq
      subst eq
      exact ⟨saved, _, scaleStatus, rfl, rfl, statusEq, rfl, max (by simp [statusEq])⟩

/-- The main process keeps the levels within their bounds. -/
theorem InstInBounds.process (ok : InstInBounds inst) (resp : vnfd.LevelsRespectMax)
    (fits : ScaleFits inst params) (eq : process vnfd params answer inst = .ok inst') :
    InstInBounds inst' := by
  intro info infoEq
  cases params with
  | instantiate req =>
    simp only [Tacker.Lcm.process, mainProcess, makeInstInfoCommon, VimAnswer.applyTo, bind,
      Except.bind, Except.ok.injEq] at eq
    subst eq
    cases infoEq
    refine .instantiate resp req ?_
    cases savedEq : inst.instantiatedVnfInfo with
    | none => exact .of_none (by cases keeps : answer.keeps <;> simp [VimAnswer.infoFrom, keeps])
    | some saved =>
      rcases @VimAnswer.infoFrom_levels saved answer with none | ⟨status, max⟩
      · exact .of_none none
      · exact (ok saved savedEq).congr status max
  | terminate =>
    cases savedEq : inst.instantiatedVnfInfo with
    | none => simp [Tacker.Lcm.process, mainProcess, terminateProcess, savedEq, bind, Except.bind] at eq
    | some saved =>
      simp only [Tacker.Lcm.process, mainProcess, terminateProcess, savedEq, makeInstInfoCommon,
        bind, Except.bind, Except.ok.injEq] at eq
      subst eq
      cases infoEq
      exact .of_none rfl
  | scale req =>
    obtain ⟨n, steps, fits⟩ := fits
    obtain ⟨saved, info', scaleStatus, savedEq, infoEq', status, newStatus, max⟩ :=
      process_scale steps eq
    obtain rfl := Option.some.inj (infoEq.symm.trans infoEq')
    exact (ok saved savedEq).scale savedEq fits status newStatus max
  | heal | changeExtConn | changeVnfpkg =>
    cases savedEq : inst.instantiatedVnfInfo with
    | none =>
      simp [Tacker.Lcm.process, mainProcess, makeInstInfoCommon, VimAnswer.applyTo, savedEq, bind,
        Except.bind] at eq
    | some saved =>
      simp only [Tacker.Lcm.process, mainProcess, makeInstInfoCommon, VimAnswer.applyTo, savedEq,
        bind, Except.bind, Except.ok.injEq] at eq
      subst eq
      cases infoEq
      exact (ok saved savedEq).inherit VimAnswer.infoFrom_levels
  | modifyInfo =>
    cases savedEq : inst.instantiatedVnfInfo with
    | none =>
      simp only [Tacker.Lcm.process, mainProcess, makeInstInfoCommon, savedEq, bind, Except.bind,
        Except.ok.injEq] at eq
      subst eq
      cases infoEq
    | some saved =>
      simp only [Tacker.Lcm.process, mainProcess, makeInstInfoCommon, savedEq, bind, Except.bind,
        Except.ok.injEq] at eq
      subst eq
      cases infoEq
      exact (ok saved savedEq).inherit (.inr ⟨rfl, rfl⟩)

/-- A rollback keeps the levels within their bounds. -/
theorem InstInBounds.rollback (ok : InstInBounds inst)
    (stores : rollbackStoresInst params = true) (eq : rollback params answer inst = .ok inst') :
    InstInBounds inst' := by
  intro info infoEq
  have eq : inst' = answer.applyTo inst := by
    cases params with
    | changeExtConn | changeVnfpkg => cases eq; rfl
    | _ => cases stores
  subst eq
  cases infoEq
  cases savedEq : inst.instantiatedVnfInfo with
  | none => exact .of_none (by cases keeps : answer.keeps <;> simp [VimAnswer.infoFrom, keeps])
  | some saved =>
    rcases @VimAnswer.infoFrom_levels saved answer with none | ⟨status, max⟩
    · exact .of_none none
    · exact (ok saved savedEq).congr status max

lemma InstInBounds.mergeInto (ok : InstInBounds inst) (ok' : InstInBounds inst') :
    InstInBounds (inst'.mergeInto inst) := by
  intro info eq
  cases infoEq : inst'.instantiatedVnfInfo with
  | none => exact ok info (by simpa [VnfInstance.mergeInto, infoEq] using eq)
  | some info' =>
    obtain rfl : info' = info := by simpa [VnfInstance.mergeInto, infoEq] using eq
    exact ok' info' infoEq

/-! ## Runs -/

/-- The levels are within their bounds, and the scale operations in progress pass their check on
what is stored. -/
structure Levels (s : State) : Prop where
  bounds : InstInBounds s.db.inst
  fits : ∀ id row, s.db.lcmoccs.get id = some row → isActive row.operationState = true →
    ScaleFits s.db.inst row.operationParams

variable {vnfd : String → Vnfd} {s s' : State} {e : Event} {tr : List (State × Event)}
  {db db' : Db} {vnfdId : String}

lemma Levels.init : Levels (State.init (.created vnfdId)) where
  bounds info eq := by cases eq
  fits id row get := by simp [State.init] at get

/-- A write keeps the levels within their bounds. -/
lemma Write.inBounds (w : Write vnfd True db db') (resp : ∀ vnfdId, (vnfd vnfdId).LevelsRespectMax)
    (bounds : InstInBounds db.inst)
    (fits : ∀ id row, db.lcmoccs.get id = some row → isActive row.operationState = true →
      ScaleFits db.inst row.operationParams) : InstInBounds db'.inst := by
  cases w with
  | granted _ _ _ eq =>
    obtain ⟨inst, -⟩ := Db.saveGrants_inv eq
    rw [inst]
    exact bounds
  | move => exact bounds
  | complete rw _ _ eq =>
    have active : isActive .processing = true := rfl
    have fits := fits _ _ rw.get (rw.source trivial ▸ active)
    rw [Db.finish_inst]
    exact bounds.mergeInto (bounds.process (resp _) (rw.params ▸ fits) eq)
  | rolledBack _ _ _ eq =>
    rw [Db.finish_inst]
    split
    · case isTrue stores => exact bounds.mergeInto (bounds.rollback stores eq)
    · exact bounds
  | failed =>
    rw [Db.finish_inst]
    exact bounds

theorem Levels.step (lv : Levels s) (calm : Calm s) (st : Step vnfd s e s')
    (resp : ∀ vnfdId, (vnfd vnfdId).LevelsRespectMax) : Levels s' := by
  cases calm.ok.effect st with
  | quiet eq => exact ⟨eq ▸ lv.bounds, eq ▸ lv.fits⟩
  | create cr =>
    obtain ⟨-, inst, -, -, get'⟩ := Db.createLcmocc_inv cr.created
    obtain ⟨-, checked⟩ := calm.quiet.checked _ (List.mem_of_getElem? cr.thread)
    refine ⟨inst ▸ lv.bounds, fun id row get active => ?_⟩
    rw [get'] at get
    rw [inst]
    split at get
    · cases get
      exact checkParams_fits checked
    · exact lv.fits id row get active
  | write w =>
    refine ⟨w.inBounds resp lv.bounds lv.fits, fun id row get active => ?_⟩
    obtain ⟨row₀, get₀, active₀, params, inst⟩ :=
      w.activeBefore calm.mutex.one id row get active
    rw [params, inst]
    exact lv.fits id row₀ get₀ active₀
  | sync mem => cases calm.quiet.unsynced _ mem

lemma Levels.run (run : Run (Step vnfd) (State.init (.created vnfdId)) tr s)
    (settled : Guarded Settled tr) (resp : ∀ vnfdId, (vnfd vnfdId).LevelsRespectMax) :
    Calm s ∧ Levels s := by
  have keep {s e s'} (settled : Settled (s, e)) (st : Step vnfd s e s')
      (inv : Calm s ∧ Levels s) : Calm s' ∧ Levels s' :=
    ⟨inv.1.step st settled, inv.2.step inv.1 st resp⟩
  have both := run.invariant keep settled ⟨.init, .init⟩
  exact both

/-- The level of the aspect of the request differs by the number of steps, that of no other aspect
differs. -/
def Scaled (req : ScaleVnfRequest) (inst inst' : VnfInstance) : Prop :=
  ∃ n level, req.numberOfSteps = some n ∧
    getCurrentScaleLevel inst req.aspectId = some level ∧
    getCurrentScaleLevel inst' req.aspectId = some (level + signedSteps req.type n) ∧
    ∀ aspectId, aspectId ≠ req.aspectId →
      getCurrentScaleLevel inst' aspectId = getCurrentScaleLevel inst aspectId

/-- A scale operation that passes its check scales the instance. -/
lemma process_scaled {vnfd : Vnfd} (fits : ScaleFits inst (.scale req))
    (eq : process vnfd (.scale req) answer inst = .ok inst') :
    Scaled req inst (inst'.mergeInto inst) := by
  obtain ⟨n, steps, fits⟩ := fits
  obtain ⟨level, -, cur, -⟩ := checkScaleLevel_ok fits
  obtain ⟨saved, info, scaleStatus, savedEq, infoEq, status, newStatus, -⟩ :=
    process_scale steps eq
  have before (aspectId) :
      getCurrentScaleLevel inst aspectId = levelOf (some scaleStatus) aspectId := by
    simp [getCurrentScaleLevel, savedEq, status]
  have after (aspectId) : getCurrentScaleLevel (inst'.mergeInto inst) aspectId =
      levelOf (some (adjustScaleStatus req.aspectId (signedSteps req.type n) scaleStatus))
        aspectId := by
    simp [getCurrentScaleLevel, VnfInstance.mergeInto, infoEq, newStatus]
  refine ⟨n, level, steps, cur, ?_, fun aspectId ne => ?_⟩
  · rw [after, levelOf_adjustScaleStatus, if_pos rfl, ← before, cur, Option.map_some]
  · rw [after, levelOf_adjustScaleStatus, if_neg ne, before]

/-- The levels in a state of a run: they are within their bounds, and the step that ends a scale
operation changes them, relative to the state before its creation, as the operation says if it is
completed and not at all if it is rolled back or fails. -/
structure LevelsFollow (vnfd : String → Vnfd) (tr : List (State × Event)) (s : State) : Prop where
  bounds : InstInBounds s.db.inst
  created : ∀ id, s.db.lcmoccs.get id ≠ none → ∃! inst₀, CreatedFrom tr id inst₀
  completed : ∀ id row req e s', s.db.lcmoccs.get id = some row →
    row.operationParams = .scale req → isActive row.operationState = true →
    Step vnfd s e s' → s'.db.stateOf id = some .completed →
    ∀ inst₀, CreatedFrom tr id inst₀ → Scaled req inst₀ s'.db.inst
  undone : ∀ id row req e s' st, s.db.lcmoccs.get id = some row →
    row.operationParams = .scale req → isActive row.operationState = true →
    Step vnfd s e s' → s'.db.stateOf id = some st → st = .rolledBack ∨ st = .failed →
    ∀ inst₀, CreatedFrom tr id inst₀ → s'.db.inst = inst₀

/-- A VNFD with one aspect of at most two steps. -/
def scalableVnfd : Vnfd where
  instantiationLevels _ := [⟨some "default", .singleton "default" (.singleton "VDU1" 0)⟩]
  scalingAspects _ := [.singleton "VDU1" 2]

lemma lookup_singleton {β : Type} {k k' : String} {v : β} :
    (AList.singleton k v : AList fun _ : String => β).lookup k' =
      if k = k' then some v else none := by
  by_cases same : k = k'
  · subst same
    rw [if_pos rfl]
    exact List.dlookup_cons_eq _ _ _
  · rw [if_neg same]
    exact List.dlookup_cons_ne _ _ (Ne.symm same)

lemma scalableVnfd_respects : scalableVnfd.LevelsRespectMax := by
  intro flavourId instLevel aspectId level eq
  have max : scalableVnfd.getMaxScaleLevel flavourId aspectId =
      ((AList.singleton "VDU1" 2 : ScalingAspects).lookup aspectId).getD 0 := by
    simp [Vnfd.getMaxScaleLevel, scalableVnfd]
  rw [max]
  cases instLevel with
  | none => cases eq
  | some instLevel =>
    simp only [Vnfd.getScaleInfoFromInstLevel, scalableVnfd, Option.bind_some,
      lookup_singleton] at eq
    split at eq
    · rw [Option.getD_some, lookup_singleton] at eq
      split at eq
      · case isTrue own =>
        obtain rfl := Option.some.inj eq
        simp [lookup_singleton, own]
      · cases eq
    · cases eq

/-- A scale-out by two steps whose first attempt fails and whose retry is about to be stored. -/
def retriedScale : List Event :=
  instantiation ++
  [.request (.api (.scale ⟨.scaleOut, "VDU1", some 2⟩)), .act 2 .go, .act 2 .go,
    .act 2 (.create 2 2), .act 2 .go] ++
  (startHandler 3 2).take 7 ++
  [.act 3 (.failed conductorProcessingError), .act 3 .go,
    .task .retry 2, .act 4 .go, .act 4 .acquire, .act 4 .go, .act 4 .go, .act 4 .go,
    .deliver ⟨.retryLcmOp, 2⟩, .act 5 .go, .act 5 .acquire, .act 5 .go, .act 5 .go, .act 5 .go,
    .act 5 .go]

end Tacker.Lcm
