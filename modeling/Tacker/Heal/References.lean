import Tacker.Heal.SafeSteps

/-!
# Timers that threads refer to

Timers are found under the instance that they are for, and nobody but the thread that has made a
timer knows it before it is in the map.
-/

namespace Tacker.Heal

variable {Load : Type*} {timer : HealTimer Load} {s s' : State Load} {t : Thread}

/-- The instance and the timer that a thread refers to. -/
def Pc.aim : Pc Load → Option (String × Nat)
  | .store inst _ k | .add inst _ k | .enqueued inst _ k | .cancel inst _ k => some (inst, k)
  | _ => none

/-- The timer that a thread has made and will put into the map. -/
def Pc.stores : Pc Load → Option Nat
  | .store _ _ k => some k
  | _ => none

/-- Timers are found under their instance, and nobody knows a timer before it is in the map. -/
structure Refers (s : State Load) : Prop where
  map : ∀ inst k, s.timerMap inst = some k → k < s.made ∧ (s.timers k).vnfInstanceId = inst
  aim : ∀ t inst k, (s.pcs t).aim = some (inst, k) →
    k < s.made ∧ (s.timers k).vnfInstanceId = inst
  unmade : ∀ k, s.made ≤ k → s.pcs (.timer k) = .idle
  unstored : ∀ t k, (s.pcs t).stores = some k → (∀ inst, s.timerMap inst ≠ some k) ∧
    (∀ t' inst, (s.pcs t').aim = some (inst, k) → t' = t) ∧
    ∀ c, (s.timers k).expired ≠ some (.call c)

lemma Refers.start : Refers ({} : State Load) where
  map inst k eq := by cases eq
  aim t inst k eq := by cases eq
  unmade k le := rfl
  unstored t k eq := by cases eq

/-- A timer that a thread turns to was in the map. -/
lemma Turn.aim {old new : Pc Load} (turns : Turn s t old new) {inst : String} {k : Nat}
    (aim : new.aim = some (inst, k)) : s.timerMap inst = some k := by
  cases turns with
  | add map =>
    cases aim
    exact map
  | cancel map =>
    cases aim
    exact map
  | @removed _ passes =>
    cases passes with
    | none => cases aim
    | some ids => cases aim
  | _ => cases aim

lemma Turn.stores {old new : Pc Load} (turns : Turn s t old new) : new.stores = none := by
  cases turns with
  | @removed _ passes =>
    cases passes with
    | none => rfl
    | some ids => rfl
  | _ => rfl

lemma removed_aim {inst : String} {passes : Option (List String)} :
    (State.removed inst passes : Pc Load).aim = none := by
  cases passes with
  | none => rfl
  | some ids => rfl

lemma removed_stores {inst : String} {passes : Option (List String)} :
    (State.removed inst passes : Pc Load).stores = none := by
  cases passes with
  | none => rfl
  | some ids => rfl

/-! ## What a step does to references -/

namespace Move

/-- An item of the map is kept, or its timer was stored by this step. -/
lemma map_cases (mv : Move timer s t s') {inst : String} {k : Nat}
    (map : s'.timerMap inst = some k) :
    s.timerMap inst = some k ∨ ∃ load, s.pcs t = .store inst load k := by
  cases mv with
  | @store inst' load k' was =>
    by_cases same : inst = inst'
    · have stored : ((s.setMap inst' (some k')).timerMap inst) = some k' := by
        simp only [State.setMap, same, Function.update_self]
      obtain rfl := Option.some.inj (stored.symm.trans map)
      exact .inr ⟨load, same ▸ was⟩
    · have kept : ((s.setMap inst' (some k')).timerMap inst) = s.timerMap inst := by
        simp only [State.setMap, Function.update_of_ne same]
      exact .inl (kept.symm.trans map)
  | @delete inst' passes k' was found =>
    by_cases same : inst = inst'
    · have gone : ((s.setMap inst' none).timerMap inst) = none := by
        simp only [State.setMap, same, Function.update_self]
      cases gone.symm.trans map
    · have kept : ((s.setMap inst' none).timerMap inst) = s.timerMap inst := by
        simp only [State.setMap, Function.update_of_ne same]
      exact .inl (kept.symm.trans map)
  | _ => exact .inl map

/-- The thread refers to a timer that it has made, that it referred to before, or that was in the
map. -/
lemma aim_cases (mv : Move timer s t s') {inst : String} {k : Nat}
    (aim : (s'.pcs t).aim = some (inst, k)) :
    (k = s.made ∧ ∃ load, s.pcs t = .create inst load ∧ s' = (s.create inst).goOn t
      (.store inst load k)) ∨ (s.pcs t).aim = some (inst, k) ∨ s.timerMap inst = some k := by
  cases mv with
  | turn turns =>
    rw [State.pcs_goOn_self] at aim
    exact .inr (.inr (turns.aim aim))
  | @create inst' load was =>
    rw [State.pcs_goOn_self] at aim
    cases aim
    exact .inl ⟨rfl, load, was, rfl⟩
  | add was =>
    rw [State.pcs_goOn_self] at aim
    cases aim
    exact .inr (.inl (was ▸ rfl))
  | drop was =>
    rw [State.pcs_goOn_self] at aim
    cases aim
    exact .inr (.inl (was ▸ rfl))
  | delete =>
    rw [State.pcs_goOn_self, removed_aim] at aim
    cases aim
  | _ =>
    rw [State.pcs_goOn_self] at aim
    cases aim

/-- Only a thread that has just made a timer will store it. -/
lemma stores_cases (mv : Move timer s t s') {k : Nat} (stores : (s'.pcs t).stores = some k) :
    k = s.made ∧ ∃ inst load, s.pcs t = .create inst load ∧ s' = (s.create inst).goOn t
      (.store inst load k) := by
  cases mv with
  | turn turns =>
    rw [State.pcs_goOn_self, turns.stores] at stores
    cases stores
  | @create inst load was =>
    rw [State.pcs_goOn_self] at stores
    cases stores
    exact ⟨rfl, inst, load, was, rfl⟩
  | delete =>
    rw [State.pcs_goOn_self, removed_stores] at stores
    cases stores
  | _ =>
    rw [State.pcs_goOn_self] at stores
    cases stores

/-- A timer expires by its own thread, or is cancelled by a thread that refers to it. -/
lemma expired_cases (mv : Move timer s t s') {k : Nat} (made : k < s.made) :
    (s'.timers k).expired = (s.timers k).expired ∨
      (s.timers k).expired = none ∧ (s'.timers k).expired = some t ∧
        (t = .timer k ∨ ∃ inst passes, s.pcs t = .cancel inst passes k ∧
          s'.pcs t = .delete inst passes ∧ (passes = none ∨ (s'.timers k).queue = [])) := by
  cases mv with
  | create => exact .inl (congrArg Timer.expired (State.timers_setTimer_of_ne (Nat.ne_of_lt made)))
  | @add inst load k' was live =>
    by_cases same : k = k'
    · obtain rfl := same
      apply Or.inl
      show ((s.setTimer k
        { s.timers k with queue := timer.add (s.timers k).queue load }).timers k).expired = _
      rw [State.timers_setTimer_self]
    · exact .inl (congrArg Timer.expired (State.timers_setTimer_of_ne same))
  | @cancel inst passes k' was live safe =>
    by_cases same : k = k'
    · obtain rfl := same
      refine .inr ⟨live, congrArg Timer.expired State.timers_setTimer_self, .inr ?_⟩
      refine ⟨inst, passes, was, State.pcs_goOn_self, safe.imp_right fun empty => ?_⟩
      exact (congrArg Timer.queue State.timers_setTimer_self).trans empty
    · exact .inl (congrArg Timer.expired (State.timers_setTimer_of_ne same))
  | @expire k' thread was made' live =>
    by_cases same : k = k'
    · obtain rfl := same
      exact .inr ⟨live, congrArg Timer.expired State.timers_setTimer_self, .inl thread⟩
    · exact .inl (congrArg Timer.expired (State.timers_setTimer_of_ne same))
  | _ => exact .inl rfl

/-- The thread of a timer only wakes up once the timer is made. -/
lemma made_of_idle {k : Nat} (mv : Move timer s (.timer k) s')
    (idle : s.pcs (.timer k) = .idle) : k < s.made := by
  cases mv with
  | turn turns =>
    rw [idle] at turns
    cases turns with
    | enqueue call => cases call
    | dequeue call => cases call
    | stop thread made =>
      cases thread
      exact made
  | expire thread was made =>
    cases thread
    exact made
  | create was => cases idle.symm.trans was
  | store was => cases idle.symm.trans was
  | add was => cases idle.symm.trans was
  | drop was => cases idle.symm.trans was
  | cancel was => cases idle.symm.trans was
  | late was => cases idle.symm.trans was
  | delete was => cases idle.symm.trans was
  | trigger was => cases idle.symm.trans was

end Move

/-- A timer of which a thread knows the instance keeps it. -/
lemma Refers.keeps (mv : Move timer s t s') {k : Nat} {inst : String}
    (ok : k < s.made ∧ (s.timers k).vnfInstanceId = inst) :
    k < s'.made ∧ (s'.timers k).vnfInstanceId = inst :=
  ⟨Nat.lt_of_lt_of_le ok.1 mv.made_le, (mv.later ok.1).inst.trans ok.2⟩

lemma stores_aim {pc : Pc Load} {k : Nat} (stores : pc.stores = some k) :
    ∃ inst, pc.aim = some (inst, k) := by
  cases pc with
  | store inst load k' =>
    cases stores
    exact ⟨inst, rfl⟩
  | _ => cases stores

/-- A safe step keeps the references right. -/
lemma Refers.move (ok : Refers s) (mv : Move timer s t s') : Refers s' := by
  constructor
  · intro inst k map
    apply Refers.keeps mv
    cases mv.map_cases map with
    | inl map => exact ok.map inst k map
    | inr stored =>
      obtain ⟨load, was⟩ := stored
      exact ok.aim t inst k (was ▸ rfl)
  · intro t' inst k aim
    by_cases same : t' = t
    · obtain rfl := same
      cases mv.aim_cases aim with
      | inl made =>
        obtain ⟨rfl, load, was, rfl⟩ := made
        exact ⟨Nat.lt_succ_self s.made, congrArg Timer.vnfInstanceId State.timers_setTimer_self⟩
      | inr known =>
        apply Refers.keeps mv
        cases known with
        | inl aim => exact ok.aim t' inst k aim
        | inr map => exact ok.map inst k map
    · rw [mv.pcs_of_ne same] at aim
      exact Refers.keeps mv (ok.aim t' inst k aim)
  · intro k unmade
    have idle := ok.unmade k (Nat.le_trans mv.made_le unmade)
    by_cases same : t = .timer k
    · obtain rfl := same
      exact absurd (Nat.lt_of_lt_of_le (mv.made_of_idle idle) mv.made_le) (Nat.not_lt.mpr unmade)
    · rw [mv.pcs_of_ne (Ne.symm same)]
      exact idle
  · intro t' k stores
    by_cases same : t' = t
    · obtain rfl := same
      obtain ⟨rfl, inst, load, was, rfl⟩ := mv.stores_cases stores
      refine ⟨fun inst' map => ?_, fun t inst' aim => ?_, fun c expired => ?_⟩
      · exact absurd (ok.map inst' s.made map).1 (Nat.lt_irrefl s.made)
      · by_contra other
        rw [State.pcs_goOn_of_ne other] at aim
        exact absurd (ok.aim t inst' s.made aim).1 (Nat.lt_irrefl s.made)
      · have new : ((s.create inst).timers s.made).expired = none :=
          congrArg Timer.expired State.timers_setTimer_self
        cases new.symm.trans expired
    · rw [mv.pcs_of_ne same] at stores
      obtain ⟨map, only, expired⟩ := ok.unstored t' k stores
      obtain ⟨inst, aim⟩ := stores_aim stores
      have made := (ok.aim t' inst k aim).1
      have notAt : ∀ inst, (s.pcs t).aim ≠ some (inst, k) :=
        fun inst aim => same (only t inst aim).symm
      refine ⟨fun inst' map' => ?_, fun t'' inst' aim' => ?_, fun c expired' => ?_⟩
      · cases mv.map_cases map' with
        | inl found => exact map inst' found
        | inr stored =>
          obtain ⟨load, was⟩ := stored
          exact notAt inst' (was ▸ rfl)
      · by_cases moved : t'' = t
        · obtain rfl := moved
          rcases mv.aim_cases aim' with ⟨rfl, _⟩ | before | found
          · exact absurd made (Nat.lt_irrefl s.made)
          · exact absurd before (notAt inst')
          · exact absurd found (map inst')
        · rw [mv.pcs_of_ne moved] at aim'
          exact only t'' inst' aim'
      · rcases mv.expired_cases made with kept | ⟨_, by', own | ⟨inst', passes, was, _⟩⟩
        · exact expired c (kept.symm.trans expired')
        · cases own.symm.trans (Option.some.inj (by'.symm.trans expired'))
        · exact notAt inst' (was ▸ rfl)

end Tacker.Heal
