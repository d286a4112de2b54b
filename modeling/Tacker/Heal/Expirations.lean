import Tacker.Heal.References

/-!
# How timers expire

In a run of safe steps, the thread of a timer makes at most one request, with what was in the queue
when the timer expired; and a timer that did not expire by itself was cancelled by a call that
dequeues its instance, or was empty.
-/

namespace Tacker.Heal

variable {Load : Type*} {timer : HealTimer Load} {s s' : State Load} {t : Thread}

/-- The instance and the VNFCs that an expiration handler has been passed. -/
def Pc.passing : Pc Load → Option (String × List String)
  | .removeCheck inst passes | .removeLookup inst passes | .cancel inst passes _
  | .delete inst passes => passes.map fun ids => (inst, ids)
  | .trigger inst ids => some (inst, ids)
  | _ => none

/-- The requests that the timer has made. -/
def State.requestsOf (s : State Load) (k : Nat) : List HealRequest :=
  s.requests.filter fun req => req.timer = k

/-- How far the thread of a timer is, with what it has done. -/
inductive TimerThread (timer : HealTimer Load) (k : Nat) (tm : Timer) (reqs : List HealRequest) :
    Pc Load → Prop where
  | idle (other : tm.expired ≠ some (.timer k)) (none : reqs = []) : TimerThread timer k tm reqs .idle
  | passing {pc : Pc Load} (own : tm.expired = some (.timer k)) (none : reqs = [])
      (passes : pc.passing = some (tm.vnfInstanceId, timer.passed tm.queue)) :
      TimerThread timer k tm reqs pc
  | ended (own : tm.expired = some (.timer k)) (made : reqs =
      [{ timer := k, vnfInstanceId := tm.vnfInstanceId,
         vnfcInstanceIds := timer.passed tm.queue }]) : TimerThread timer k tm reqs .ended
  | stopped {thread' : Thread} (cancelled : tm.expired = some thread')
      (other : thread' ≠ .timer k) (none : reqs = []) : TimerThread timer k tm reqs .ended

lemma removed_passing {inst : String} {passes : Option (List String)} :
    (State.removed inst passes : Pc Load).passing = passes.map fun ids => (inst, ids) := by
  cases passes with
  | none => rfl
  | some ids => rfl

/-! ## Steps of handlers -/

namespace Move

/-- What the thread of a running timer can do. -/
lemma idle_cases {k : Nat} (mv : Move timer s (.timer k) s') (idle : s.pcs (.timer k) = .idle) :
    (∃ thread', (s.timers k).expired = some thread' ∧ s' = s.goOn (.timer k) .ended) ∨
      (s.timers k).expired = none ∧
        s' = (s.setTimer k { s.timers k with expired := some (.timer k) }).goOn (.timer k)
          (.removeCheck (s.timers k).vnfInstanceId (some (timer.passed (s.timers k).queue))) := by
  cases mv with
  | turn turns =>
    rw [idle] at turns
    cases turns with
    | enqueue call => cases call
    | dequeue call => cases call
    | stop thread made cancelled =>
      cases thread
      exact .inl ⟨_, cancelled, rfl⟩
  | expire thread was made live =>
    cases thread
    exact .inr ⟨live, rfl⟩
  | create was => cases idle.symm.trans was
  | store was => cases idle.symm.trans was
  | add was => cases idle.symm.trans was
  | drop was => cases idle.symm.trans was
  | cancel was => cases idle.symm.trans was
  | late was => cases idle.symm.trans was
  | delete was => cases idle.symm.trans was
  | trigger was => cases idle.symm.trans was

/-- A handler keeps the VNFCs that it was passed until it requests their heal. -/
lemma passing_cases (mv : Move timer s t s') {inst : String} {ids : List String}
    (passes : (s.pcs t).passing = some (inst, ids)) :
    ((s'.pcs t).passing = some (inst, ids) ∧ s'.requests = s.requests) ∨
      s'.pcs t = .ended ∧ s'.requests = s.requests ++
        [{ timer := t.number, vnfInstanceId := inst, vnfcInstanceIds := ids }] := by
  cases mv with
  | @turn next turns =>
    refine .inl ⟨?_, rfl⟩
    rw [State.pcs_goOn_self]
    generalize s.pcs t = old at turns passes
    cases turns with
    | removeLookup => exact passes
    | removed => exact removed_passing.trans passes
    | cancel => exact passes
    | _ => cases passes
  | create was => cases (was ▸ passes : (Pc.create _ _).passing = _)
  | store was => cases (was ▸ passes : (Pc.store _ _ _).passing = _)
  | add was => cases (was ▸ passes : (Pc.add _ _ _).passing = _)
  | drop was => cases (was ▸ passes : (Pc.add _ _ _).passing = _)
  | cancel was =>
    rw [was] at passes
    exact .inl ⟨State.pcs_goOn_self ▸ passes, rfl⟩
  | late was =>
    rw [was] at passes
    exact .inl ⟨State.pcs_goOn_self ▸ passes, rfl⟩
  | delete was =>
    rw [was] at passes
    exact .inl ⟨State.pcs_goOn_self ▸ removed_passing.trans passes, rfl⟩
  | expire thread was => cases (was ▸ passes : Pc.idle.passing = _)
  | trigger was =>
    rw [was] at passes
    cases passes
    exact .inr ⟨State.pcs_goOn_self, rfl⟩

lemma not_ended (mv : Move timer s t s') (ended : s.pcs t = .ended) : False := by
  cases mv with
  | turn turns =>
    rw [ended] at turns
    generalize old : (Pc.ended : Pc Load) = pc at turns
    cases turns with
    | _ => cases old
  | create was => cases ended.symm.trans was
  | store was => cases ended.symm.trans was
  | add was => cases ended.symm.trans was
  | drop was => cases ended.symm.trans was
  | cancel was => cases ended.symm.trans was
  | late was => cases ended.symm.trans was
  | delete was => cases ended.symm.trans was
  | expire thread was => cases ended.symm.trans was
  | trigger was => cases ended.symm.trans was

/-- Only a handler makes a request. -/
lemma requests_cases (mv : Move timer s t s') :
    s'.requests = s.requests ∨ (∃ inst ids, (s.pcs t).passing = some (inst, ids)) ∧
      ∃ req : HealRequest, req.timer = t.number ∧ s'.requests = s.requests ++ [req] := by
  cases mv with
  | @trigger inst ids was => exact .inr ⟨⟨inst, ids, was ▸ rfl⟩, _, rfl, rfl⟩
  | _ => exact .inl rfl

/-- A call does not turn into an expiration handler. -/
lemma passing_call {c : Nat} (mv : Move timer s (.call c) s')
    (call : (s.pcs (.call c)).passing = none) : (s'.pcs (.call c)).passing = none := by
  cases mv with
  | turn turns =>
    rw [State.pcs_goOn_self]
    generalize s.pcs (.call c) = old at turns call
    cases turns with
    | removeLookup => exact call
    | removed => exact removed_passing.trans call
    | cancel => exact call
    | _ => rfl
  | cancel was =>
    rw [was] at call
    exact State.pcs_goOn_self ▸ call
  | late was =>
    rw [was] at call
    exact State.pcs_goOn_self ▸ call
  | delete was =>
    rw [was] at call
    exact State.pcs_goOn_self ▸ removed_passing.trans call
  | expire thread => cases thread
  | trigger was =>
    rw [was] at call
    cases call
  | _ => exact State.pcs_goOn_self ▸ rfl

end Move

lemma TimerThread.later {k : Nat} {tm tm' : Timer} {reqs : List HealRequest} {pc : Pc Load}
    (ok : TimerThread timer k tm reqs pc) (later : Later t tm tm') (other : t ≠ .timer k) :
    TimerThread timer k tm' reqs pc := by
  cases ok with
  | idle notOwn none =>
    refine .idle (fun own => ?_) none
    rcases later.expired with same | ⟨_, by'⟩
    · exact notOwn (same.symm.trans own)
    · exact other (Option.some.inj (by'.symm.trans own))
  | passing own none passes =>
    rw [later.frozen _ own]
    exact .passing own none passes
  | ended own made =>
    rw [later.frozen _ own]
    exact .ended own made
  | stopped cancelled notOwn none =>
    rw [later.frozen _ cancelled]
    exact .stopped cancelled notOwn none

/-! ## Who expired a timer -/

/-- What the threads of the timers have done, and who cancelled a timer. -/
structure Ends (timer : HealTimer Load) (s : State Load) : Prop where
  thread : ∀ k, TimerThread timer k (s.timers k) (s.requestsOf k) (s.pcs (.timer k))
  call : ∀ c, (s.pcs (.call c)).passing = none
  byCall : ∀ k d, k < s.made → (s.timers k).expired = some (.call d) →
    s.pcs (.call d) = .delete (s.timers k).vnfInstanceId none ∨
      s.pcs (.call d) = .dequeued (s.timers k).vnfInstanceId
  inMap : ∀ inst k d, s.timerMap inst = some k → (s.timers k).expired = some (.call d) →
    s.pcs (.call d) = .delete inst none
  byOther : ∀ k j, k < s.made → (s.timers k).expired = some (.timer j) →
    j = k ∨ (s.timers k).queue = []

lemma Ends.start : Ends timer ({} : State Load) where
  thread k := .idle (fun eq => by cases eq) rfl
  call c := rfl
  byCall k d made := by cases made
  inMap inst k d eq := by cases eq
  byOther k j made := by cases made

/-- The requests of a timer only change by its own thread. -/
lemma Ends.requestsOf_of_ne (ok : Ends timer s) (mv : Move timer s t s') {k : Nat}
    (other : t ≠ .timer k) : s'.requestsOf k = s.requestsOf k := by
  rcases mv.requests_cases with same | ⟨⟨inst, ids, passes⟩, req, number, more⟩
  · simp only [State.requestsOf, same]
  · cases t with
    | call c => cases (ok.call c).symm.trans passes
    | timer j =>
      have ne : req.timer ≠ k := fun same => other (congrArg Thread.timer (number.symm.trans same))
      simp [State.requestsOf, more, ne]

/-- A step of a timer's own thread. -/
lemma TimerThread.own {k : Nat} (mv : Move timer s (.timer k) s')
    (ok : TimerThread timer k (s.timers k) (s.requestsOf k) (s.pcs (.timer k)))
    (later : Later (.timer k) (s.timers k) (s'.timers k)) :
    TimerThread timer k (s'.timers k) (s'.requestsOf k) (s'.pcs (.timer k)) := by
  generalize was : s.pcs (.timer k) = pc at ok
  cases ok with
  | idle notOwn none =>
    rcases mv.idle_cases was with ⟨thread', cancelled, rfl⟩ | ⟨live, rfl⟩
    · rw [State.pcs_goOn_self]
      exact .stopped cancelled (fun same => notOwn (same ▸ cancelled)) none
    · rw [State.pcs_goOn_self]
      apply TimerThread.passing
      · exact congrArg Timer.expired State.timers_setTimer_self
      · exact none
      · show some _ = _
        show _ = some ((((s.setTimer k _).timers k).vnfInstanceId),
          timer.passed ((s.setTimer k _).timers k).queue)
        rw [State.timers_setTimer_self]
  | passing own none passes =>
    rw [later.frozen _ own]
    rcases mv.passing_cases (was ▸ passes) with ⟨passes', same⟩ | ⟨ended, more⟩
    · apply TimerThread.passing own _ passes'
      simpa only [State.requestsOf, same] using none
    · rw [ended]
      apply TimerThread.ended own
      simp only [State.requestsOf, more, List.filter_append]
      show s.requestsOf k ++ _ = _
      rw [none]
      simp [Thread.number]
  | ended => exact (mv.not_ended was).elim
  | stopped => exact (mv.not_ended was).elim

namespace Move

/-- A thread that is to delete an item of the map deletes it. -/
lemma delete_cases (mv : Move timer s t s') {inst : String} {passes : Option (List String)}
    (was : s.pcs t = .delete inst passes) :
    s'.pcs t = State.removed inst passes ∧ s'.timerMap inst = none := by
  cases mv with
  | turn turns =>
    rw [was] at turns
    generalize old : (Pc.delete inst passes : Pc Load) = pc at turns
    cases turns with
    | _ => cases old
  | delete was' =>
    cases was.symm.trans was'
    refine ⟨State.pcs_goOn_self, ?_⟩
    show (s.setMap inst none).timerMap inst = none
    simp only [State.setMap, Function.update_self]
  | create was' => cases was.symm.trans was'
  | store was' => cases was.symm.trans was'
  | add was' => cases was.symm.trans was'
  | drop was' => cases was.symm.trans was'
  | cancel was' => cases was.symm.trans was'
  | late was' => cases was.symm.trans was'
  | expire thread was' => cases was.symm.trans was'
  | trigger was' => cases was.symm.trans was'

lemma not_dequeued (mv : Move timer s t s') {inst : String} (was : s.pcs t = .dequeued inst) :
    False := by
  cases mv with
  | turn turns =>
    rw [was] at turns
    generalize old : (Pc.dequeued inst : Pc Load) = pc at turns
    cases turns with
    | _ => cases old
  | delete was' => cases was.symm.trans was'
  | create was' => cases was.symm.trans was'
  | store was' => cases was.symm.trans was'
  | add was' => cases was.symm.trans was'
  | drop was' => cases was.symm.trans was'
  | cancel was' => cases was.symm.trans was'
  | late was' => cases was.symm.trans was'
  | expire thread was' => cases was.symm.trans was'
  | trigger was' => cases was.symm.trans was'

/-- A timer that is not made yet does not change, except by being made. -/
lemma unmade (mv : Move timer s t s') (ok : Refers s) {k : Nat} (le : s.made ≤ k) :
    s'.timers k = s.timers k ∧ s'.made ≤ k ∨ (s'.timers k).expired = none := by
  have aside : ∀ inst k', (s.pcs t).aim = some (inst, k') → k ≠ k' := by
    intro inst k' aim same
    exact absurd (ok.aim t inst k' aim).1 (Nat.not_lt.mpr (same ▸ le))
  cases mv with
  | create =>
    by_cases same : k = s.made
    · obtain rfl := same
      exact .inr (congrArg Timer.expired State.timers_setTimer_self)
    · exact .inl ⟨State.timers_setTimer_of_ne same, Nat.lt_of_le_of_ne le (Ne.symm same)⟩
  | @add inst load k' was =>
    exact .inl ⟨State.timers_setTimer_of_ne (aside inst k' (was ▸ rfl)), le⟩
  | @cancel inst passes k' was =>
    exact .inl ⟨State.timers_setTimer_of_ne (aside inst k' (was ▸ rfl)), le⟩
  | @expire k' thread was made live =>
    have ne : k ≠ k' := fun same => absurd made (Nat.not_lt.mpr (same ▸ le))
    exact .inl ⟨State.timers_setTimer_of_ne ne, le⟩
  | _ => exact .inl ⟨rfl, le⟩

end Move

/-- Only a timer that was made before can have been expired by a step. -/
lemma Refers.made_of_expired (ok : Refers s) (mv : Move timer s t s') {k : Nat} {thread' : Thread}
    (made : k < s'.made) (expired : (s'.timers k).expired = some thread') : k < s.made := by
  by_contra notMade
  rcases mv.unmade ok (Nat.not_lt.mp notMade) with ⟨_, le⟩ | live
  · exact absurd made (Nat.not_lt.mpr le)
  · cases live.symm.trans expired

lemma Ends.threads (ok : Ends timer s) (refers : Refers s) (mv : Move timer s t s') (k : Nat) :
    TimerThread timer k (s'.timers k) (s'.requestsOf k) (s'.pcs (.timer k)) := by
  by_cases own : t = .timer k
  · obtain rfl := own
    have made : k < s.made := by
      by_contra notMade
      exact notMade (mv.made_of_idle (refers.unmade k (Nat.not_lt.mp notMade)))
    exact TimerThread.own mv (ok.thread k) (mv.later made)
  · rw [ok.requestsOf_of_ne mv own, mv.pcs_of_ne (Ne.symm own)]
    by_cases made : k < s.made
    · exact (ok.thread k).later (mv.later made) own
    · rcases mv.unmade refers (Nat.not_lt.mp made) with ⟨same, _⟩ | live
      · rw [same]
        exact ok.thread k
      · have idle := refers.unmade k (Nat.not_lt.mp made)
        have thread := ok.thread k
        rw [idle] at thread ⊢
        cases thread with
        | idle _ none => exact .idle (fun own => by cases live.symm.trans own) none
        | passing _ _ passes => cases passes

/-- A thread that cancels a timer and serves a call is then to delete the item of the map. -/
lemma Ends.cancels (ok : Ends timer s) {c : Nat} {inst : String} {passes : Option (List String)}
    {k : Nat} (was : s.pcs (.call c) = .cancel inst passes k) : passes = none := by
  have none := ok.call c
  rw [was] at none
  exact Option.map_eq_none_iff.mp none

lemma Ends.move (ok : Ends timer s) (refers : Refers s) (mv : Move timer s t s') :
    Ends timer s' := by
  constructor
  · exact ok.threads refers mv
  · intro c
    by_cases same : t = .call c
    · obtain rfl := same
      exact mv.passing_call (ok.call c)
    · rw [mv.pcs_of_ne (Ne.symm same)]
      exact ok.call c
  · intro k d made' expired
    have made := refers.made_of_expired mv made' expired
    rw [(mv.later made).inst]
    rcases mv.expired_cases made with kept | ⟨_, by', own | ⟨inst, passes, was, deletes, _⟩⟩
    · have before := ok.byCall k d made (kept.symm.trans expired)
      by_cases same : t = .call d
      · obtain rfl := same
        rcases before with deletes | done
        · exact .inr (mv.delete_cases deletes).1
        · exact (mv.not_dequeued done).elim
      · rw [mv.pcs_of_ne (Ne.symm same)]
        exact before
    · cases own.symm.trans (Option.some.inj (by'.symm.trans expired))
    · obtain rfl := Option.some.inj (by'.symm.trans expired)
      obtain rfl := ok.cancels was
      obtain ⟨_, rfl⟩ := refers.aim (.call d) inst k (was ▸ rfl)
      exact .inl deletes
  · intro inst k d map expired
    rcases mv.map_cases map with found | ⟨load, stored⟩
    · obtain ⟨made, rfl⟩ := refers.map inst k found
      rcases mv.expired_cases made with kept | ⟨_, by', own | ⟨inst', passes, was, deletes, _⟩⟩
      · have before := ok.inMap _ k d found (kept.symm.trans expired)
        by_cases same : t = .call d
        · obtain rfl := same
          cases (mv.delete_cases before).2.symm.trans map
        · rw [mv.pcs_of_ne (Ne.symm same)]
          exact before
      · cases own.symm.trans (Option.some.inj (by'.symm.trans expired))
      · obtain rfl := Option.some.inj (by'.symm.trans expired)
        obtain rfl := ok.cancels was
        obtain ⟨_, rfl⟩ := refers.aim (.call d) inst' k (was ▸ rfl)
        exact deletes
    · obtain ⟨_, _, notBy⟩ := refers.unstored t k (stored ▸ rfl)
      have made := (refers.aim t inst k (stored ▸ rfl)).1
      rcases mv.expired_cases made with kept | ⟨_, by', own | ⟨inst', passes, was, _⟩⟩
      · exact absurd (kept.symm.trans expired) (notBy d)
      · cases own.symm.trans (Option.some.inj (by'.symm.trans expired))
      · cases stored.symm.trans was
  · intro k j made' expired
    have made := refers.made_of_expired mv made' expired
    rcases mv.expired_cases made with kept | ⟨_, by', own | ⟨inst, passes, was, _, empty⟩⟩
    · have before := kept.symm.trans expired
      rw [(mv.later made).frozen _ before]
      exact ok.byOther k j made before
    · obtain rfl := Option.some.inj (by'.symm.trans expired)
      cases own
      exact .inl rfl
    · obtain rfl := Option.some.inj (by'.symm.trans expired)
      rcases empty with rfl | empty
      · have thread := ok.thread j
        rw [was] at thread
        cases thread with
        | passing _ _ passes => cases passes
      · exact .inr empty

end Tacker.Heal
