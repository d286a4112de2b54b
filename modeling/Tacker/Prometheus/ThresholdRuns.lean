import Tacker.Basis.Run
import Tacker.Prometheus.CrossingSequences

/-!
# The notifications of a threshold

Batches of alerts, the conductor that stores their values and sends the notifications, and others
that delete the threshold and change other thresholds. The direction of a value is found from the
value that is stored, which may be older than the one that was reported last, and which may lie
within the hysteresis band again.
-/

namespace Tacker.Prometheus

open Tacker.Basis

/-! ## The system -/

/-- The API processes and the conductor. -/
abbrev ThresholdSystem := Collector.State ThresholdDatabase Int Alert Crossing Crossing

abbrev ThresholdEvent := Collector.Event ThresholdDatabase Int Alert

/-- What others do to the threshold: they delete it. -/
structure OthersOf (id : String) (s : ThresholdSystem) (db : ThresholdDatabase) : Prop where
  notifications : db.notifications = s.db.notifications
  threshold : db.thresholds id = s.db.thresholds id ∨ db.thresholds id = none

/-- One step. -/
def ThresholdStep (id : String) (s : ThresholdSystem) (e : ThresholdEvent) (t : ThresholdSystem) :
    Prop :=
  thresholdCollector.step s e = some t ∧ ∀ db, e = .change db → OthersOf id s db

/-- Nothing is reported yet. -/
def ThresholdSystem.initial (thresholds : String → Option PmThreshold) : ThresholdSystem where
  db := { thresholds := thresholds }

/-- What is told of the threshold and the sub-object. -/
def ofPair (id : String) (sub : Option String) (r : Crossing) : Bool :=
  r.thresholdId = id && r.subObjectInstanceId = sub

section

variable (id : String) (sub : Option String) (d : SimpleThresholdDetails) (s : ThresholdSystem)

/-- The values that were read, with their directions. -/
def reportedOf : List Crossing :=
  s.history.filter (ofPair id sub)

/-- The values that are read and not stored yet. -/
def unstoredOf : List Crossing :=
  Collector.pendingOf (fun r => [r]) (ofPair id sub) s

/-- The notifications that were sent. -/
def notifiedOf : List Crossing :=
  s.db.notifications.filter (ofPair id sub)

/-- The values cross the bounds as wanted, and the notifications are those of the crossings, but for
those that are not stored yet. -/
structure WellNotified : Prop where
  alternating : Alternating d (reportedOf id sub s)
  notified : notifiedOf id sub s ++ (unstoredOf id sub s).filter Crossing.crossed =
    (reportedOf id sub s).filter Crossing.crossed

/-- The value that was reported last is stored, and is a number. -/
def Fresh : Prop :=
  unstoredOf id sub s = [] ∧ ∀ r, (reportedOf id sub s).getLast? = some r → r.performanceValue ≠ .nan

/-- What is assumed of a step. -/
structure Orderly (p : ThresholdSystem × ThresholdEvent) : Prop where
  /-- An alert that raises is in no batch that has read a value of the pair. -/
  raise : ∀ i now alert todo collected before after, p.2 = .read i →
    Collector.At p.1.batches i ⟨now, alert :: todo, collected⟩ before after →
    ThresholdRaises p.1.db alert → ∀ r ∈ collected, ofPair id sub r = false
  /-- The values of the pair are read by one batch at a time. -/
  alone : ∀ i now alert todo collected before after threshold metric value, p.2 = .read i →
    Collector.At p.1.batches i ⟨now, alert :: todo, collected⟩ before after →
    ThresholdPasses p.1.db alert id threshold d metric value → alert.subObjectInstanceId = sub →
    ∀ b ∈ before ++ after, ∀ r ∈ b.collected, ofPair id sub r = false
  /-- A value that is read is compared with a value on the right side of the band. -/
  inView : ∀ i now alert todo collected before after threshold metric value newValue,
    p.2 = .read i → Collector.At p.1.batches i ⟨now, alert :: todo, collected⟩ before after →
    ThresholdPasses p.1.db alert id threshold d metric value → alert.subObjectInstanceId = sub →
    convertMeasurementUnit metric value = .ok newValue →
    InView d (lastDirection (reportedOf id sub p.1)) (Fresh id sub p.1) newValue
      (setThresholdLastValue d.thresholdValue (threshold.getPmThresholdState sub))
  /-- The values of the pair are stored in the order in which they were read. -/
  store : ∀ i part parts before after, p.2 = .store i →
    Collector.At p.1.casts i (part :: parts) before after → ofPair id sub part = true →
    ∀ message ∈ before, ∀ r ∈ message, ofPair id sub r = false
  /-- A value of a threshold that is gone is in no message with values of the pair. -/
  fail : ∀ i part parts before after, p.2 = .store i →
    Collector.At p.1.casts i (part :: parts) before after →
    p.1.db.thresholds part.thresholdId = none → ∀ r ∈ part :: parts, ofPair id sub r = false

end

variable {id : String} {sub : Option String} {d : SimpleThresholdDetails} {s t : ThresholdSystem}
  {e : ThresholdEvent} {threshold th₀ : PmThreshold}

/-! ## The stored value -/

lemma find_updateState {data : ThresholdState} {states : List ThresholdState} {metric : String}
    (metrics : ∀ state ∈ states, state.subObjectInstanceId = sub → state.metrics = metric)
    (isMetric : data.subObjectInstanceId = sub → data.metrics = metric) :
    (updateState data states).find? (fun state => state.subObjectInstanceId = sub) =
      if data.subObjectInstanceId = sub then some data
      else states.find? fun state => state.subObjectInstanceId = sub := by
  induction states with
  | nil =>
    rw [updateState, List.find?_cons]
    by_cases same : data.subObjectInstanceId = sub <;> simp [same]
  | cons state states ih =>
    have ih := ih fun state mem => metrics state (List.mem_cons_of_mem _ mem)
    rw [updateState]
    by_cases matched : state.subObjectInstanceId = data.subObjectInstanceId ∧
        state.metrics = data.metrics
    · rw [if_pos matched, List.find?_cons, List.find?_cons, matched.1]
      by_cases same : data.subObjectInstanceId = sub <;> simp [same]
    · rw [if_neg matched, List.find?_cons, List.find?_cons]
      by_cases here : state.subObjectInstanceId = sub
      · by_cases same : data.subObjectInstanceId = sub
        · have isMetric' := metrics state List.mem_cons_self here
          exact absurd ⟨here.trans same.symm, isMetric'.trans (isMetric same).symm⟩ matched
        · simp [here, same]
      · simp only [here, decide_false]
        exact ih

lemma metrics_updateState {data : ThresholdState} {states : List ThresholdState} {metric : String}
    (metrics : ∀ state ∈ states, state.subObjectInstanceId = sub → state.metrics = metric)
    (isMetric : data.subObjectInstanceId = sub → data.metrics = metric) :
    ∀ state ∈ updateState data states, state.subObjectInstanceId = sub → state.metrics = metric := by
  induction states with
  | nil =>
    intro state mem isSub
    rw [List.mem_singleton.mp mem] at isSub ⊢
    exact isMetric isSub
  | cons state states ih =>
    have ih := ih fun state mem => metrics state (List.mem_cons_of_mem _ mem)
    intro state' mem isSub
    rw [updateState] at mem
    by_cases matched : state.subObjectInstanceId = data.subObjectInstanceId ∧
        state.metrics = data.metrics
    · rw [if_pos matched] at mem
      rcases List.mem_cons.mp mem with rfl | mem
      · exact isMetric isSub
      · exact metrics state' (List.mem_cons_of_mem _ mem) isSub
    · rw [if_neg matched] at mem
      rcases List.mem_cons.mp mem with rfl | mem
      · exact metrics state' List.mem_cons_self isSub
      · exact ih state' mem isSub

/-! ## The invariant -/

/-- The threshold is the one that was created, with the value that was stored last. -/
structure Stores (th₀ : PmThreshold) (sub : Option String) (done : List Crossing)
    (threshold : PmThreshold) : Prop where
  criteria : threshold.criteria = th₀.criteria
  metrics : ∀ state ∈ threshold.thresholdState.getD [], state.subObjectInstanceId = sub →
    state.metrics = th₀.criteria.performanceMetric
  last : threshold.getPmThresholdState sub = done.getLast?.map Crossing.state

/-- A value of the pair is stored. -/
lemma Stores.store {done : List Crossing} (stores : Stores th₀ sub done threshold) {r : Crossing}
    (isMetric : r.subObjectInstanceId = sub → r.metrics = th₀.criteria.performanceMetric) :
    Stores th₀ sub (if r.subObjectInstanceId = sub then done ++ [r] else done)
      (threshold.updateThresholdStateData r.state) := by
  constructor
  · exact stores.criteria
  · exact metrics_updateState stores.metrics isMetric
  · have found : (updateState r.state _).find? _ = _ := find_updateState stores.metrics isMetric
    show (updateState r.state _).find? _ = _
    rw [found]
    show (if r.subObjectInstanceId = sub then some r.state else _) = _
    by_cases same : r.subObjectInstanceId = sub
    · rw [if_pos same, if_pos same, List.getLast?_concat]
      rfl
    · rw [if_neg same, if_neg same]
      exact stores.last

/-- What is known of the pair in every state of an orderly run. -/
structure Tracking (id : String) (sub : Option String) (d : SimpleThresholdDetails)
    (th₀ : PmThreshold) (s : ThresholdSystem) : Prop where
  single : Collector.Single (ofPair id sub) s
  metrics : ∀ r ∈ reportedOf id sub s, r.metrics = th₀.criteria.performanceMetric
  stored : ∃ done, reportedOf id sub s = done ++ unstoredOf id sub s ∧
    notifiedOf id sub s = done.filter Crossing.crossed ∧
    ∀ threshold, s.db.thresholds id = some threshold → Stores th₀ sub done threshold
  alternating : Alternating d (reportedOf id sub s)
  side : Side d (reportedOf id sub s)

/-- A step that stores and reads nothing of the pair. -/
lemma Tracking.same (ok : Tracking id sub d th₀ s) (single : Collector.Single (ofPair id sub) t)
    (history : reportedOf id sub t = reportedOf id sub s)
    (unstored : unstoredOf id sub t = unstoredOf id sub s)
    (notified : notifiedOf id sub t = notifiedOf id sub s)
    (thresholds : ∀ threshold, t.db.thresholds id = some threshold →
      ∀ done, (∀ threshold, s.db.thresholds id = some threshold → Stores th₀ sub done threshold) →
        Stores th₀ sub done threshold) : Tracking id sub d th₀ t := by
  obtain ⟨done, isReported, isNotified, stores⟩ := ok.stored
  constructor
  · exact single
  · rw [history]
    exact ok.metrics
  · refine ⟨done, ?_, ?_, fun threshold found => thresholds threshold found done stores⟩
    · rw [history, unstored, isReported]
    · rw [notified, isNotified]
  · rw [history]
    exact ok.alternating
  · rw [history]
    exact ok.side

/-- When the last value is fresh, it is the one that is compared with. -/
lemma Tracking.fresh (ok : Tracking id sub d th₀ s) (found : s.db.thresholds id = some threshold)
    (fresh : Fresh id sub s) :
    (lastDirection (reportedOf id sub s) = some .up →
      (setThresholdLastValue d.thresholdValue (threshold.getPmThresholdState sub)).atLeast d.lower =
        true) ∧
    (lastDirection (reportedOf id sub s) = some .down →
      (setThresholdLastValue d.thresholdValue (threshold.getPmThresholdState sub)).atMost d.upper =
        true) := by
  obtain ⟨done, isReported, -, stores⟩ := ok.stored
  rw [fresh.1, List.append_nil] at isReported
  rw [(stores threshold found).last]
  have nonempty (direction : CrossingDirection)
      (isLast : lastDirection (reportedOf id sub s) = some direction) :
      ∃ r, done.getLast? = some r := by
    cases last : done.getLast? with
    | none =>
      rw [isReported, List.getLast?_eq_none_iff.mp last] at isLast
      cases isLast
    | some r => exact ⟨r, rfl⟩
  constructor
  · intro up
    obtain ⟨r, last⟩ := nonempty .up up
    rw [last]
    rw [← isReported] at last
    exact ok.side.up up r last (fresh.2 r last)
  · intro down
    obtain ⟨r, last⟩ := nonempty .down down
    rw [last]
    rw [← isReported] at last
    exact ok.side.down down r last (fresh.2 r last)

lemma ofPair_iff {r : Crossing} :
    ofPair id sub r = true ↔ r.thresholdId = id ∧ r.subObjectInstanceId = sub := by
  rw [ofPair, Bool.and_eq_true_iff, decide_eq_true_iff, decide_eq_true_iff]

/-- A value of the pair is read. -/
lemma Tracking.read (ok : Tracking id sub d th₀ s) (single : Collector.Single (ofPair id sub) t)
    {alert : Alert} {metric : String} {value : Value} {newValue : Measured}
    (passes : ThresholdPasses s.db alert id threshold d metric value)
    (inView : InView d (lastDirection (reportedOf id sub s)) (Fresh id sub s) newValue
      (setThresholdLastValue d.thresholdValue (threshold.getPmThresholdState sub)))
    (db : t.db = s.db)
    (history : reportedOf id sub t =
      reportedOf id sub s ++ [threshold.crossing d id sub metric newValue])
    (unstored : unstoredOf id sub t =
      unstoredOf id sub s ++ [threshold.crossing d id sub metric newValue]) :
    Tracking id sub d th₀ t := by
  obtain ⟨done, isReported, isNotified, stores⟩ := ok.stored
  have follows : Follows d (lastDirection (reportedOf id sub s))
      (threshold.crossing d id sub metric newValue) :=
    follows_of_inView inView (fun fresh => (ok.fresh passes.found fresh).1)
      (fun fresh => (ok.fresh passes.found fresh).2) rfl rfl
  constructor
  · exact single
  · intro r mem
    rw [history] at mem
    rcases List.mem_append.mp mem with old | new
    · exact ok.metrics r old
    · rw [List.mem_singleton.mp new]
      obtain ⟨objectInstanceId, -, valid⟩ := passes.valid
      have isMetric := (Bool.and_eq_true_iff.mp valid).2
      rw [← (stores threshold passes.found).criteria]
      exact of_decide_eq_true isMetric
  · refine ⟨done, ?_, ?_, ?_⟩
    · rw [history, unstored, isReported, List.append_assoc]
    · rw [notifiedOf, db]
      exact isNotified
    · rw [db]
      exact stores
  · rw [history]
    exact ok.alternating.snoc follows
  · rw [history]
    exact side_of_follows follows

lemma filter_none {l : List Crossing} (none : ∀ r ∈ l, ofPair id sub r = false) :
    l.filter (ofPair id sub) = [] := by
  apply List.filter_eq_nil_iff.mpr
  intro r mem holds
  rw [none r mem] at holds
  cases holds

lemma simpleDetails_eq {details : SimpleThresholdDetails}
    (isDetails : threshold.criteria.simpleThresholdDetails = some d)
    (simple : threshold.simpleDetails = some details) : details = d := by
  have here := (Option.ite_none_right_eq_some.mp simple).2
  rw [isDetails] at here
  exact (Option.some.inj here).symm

/-- An orderly step takes the values of the pair in turn. -/
lemma Orderly.inTurn (orderly : Orderly id sub d (s, e))
    (details : ∀ threshold, s.db.thresholds id = some threshold →
      threshold.criteria.simpleThresholdDetails = some d) :
    Collector.InTurn thresholdCollector (fun r => [r]) (ofPair id sub) s e := by
  constructor
  · intro i now alert todo collected before after items isRead split read some
    rcases thresholdTurn_items read with rfl | ⟨id', threshold, details', metric, value, newValue,
      passes, -, rfl⟩
    · exact absurd rfl some
    · rw [List.filter_singleton] at some
      have isPair : ofPair id sub (threshold.crossing details' id' alert.subObjectInstanceId metric
          newValue) = true := by
        by_contra notPair
        rw [Bool.eq_false_iff.mpr notPair] at some
        exact some rfl
      obtain ⟨isThreshold, isSub⟩ := ofPair_iff.mp isPair
      obtain rfl : id' = id := isThreshold
      obtain rfl := simpleDetails_eq (details threshold passes.found) passes.simple
      intro b mem
      exact filter_none (orderly.alone i now alert todo collected before after threshold metric value
        isRead split passes isSub b mem)
  · intro i now alert todo collected before after isRead split read
    exact filter_none (orderly.raise i now alert todo collected before after isRead split
      (thresholdTurn_eq_none.mp read))
  · intro i part parts before after isStore split some
    have isPair : ofPair id sub part = true := by
      by_contra notPair
      rw [List.filter_singleton, Bool.eq_false_iff.mpr notPair] at some
      exact some rfl
    have silent := orderly.store i part parts before after isStore split isPair
    apply filter_none
    intro r mem
    obtain ⟨r', mem, isIn⟩ := List.mem_flatMap.mp mem
    obtain ⟨message, isMessage, mem⟩ := List.mem_flatten.mp mem
    rw [List.mem_singleton.mp isIn]
    exact silent message isMessage r' mem
  · intro i part parts before after db isStore split stored
    have gone : s.db.thresholds part.thresholdId = none := by
      cases found : s.db.thresholds part.thresholdId with
      | none => rfl
      | some threshold =>
        have stored' : storeCrossing s.db part = (db, false) := stored
        rw [storeCrossing, found] at stored'
        cases stored'
    have silent := orderly.fail i part parts before after isStore split gone
    apply filter_none
    intro r mem
    obtain ⟨r', mem, isIn⟩ := List.mem_flatMap.mp mem
    rw [List.mem_singleton.mp isIn]
    exact silent r' mem

/-- What the conductor does to the thresholds and the notifications. -/
lemma storeCrossing_cases {db db' : ThresholdDatabase} {r : Crossing} {ok : Bool}
    (stored : storeCrossing db r = (db', ok)) :
    (db.thresholds r.thresholdId = none ∧ ok = false ∧ db' = db) ∨
    ∃ threshold, db.thresholds r.thresholdId = some threshold ∧ ok = true ∧
      db'.thresholds = Function.update db.thresholds r.thresholdId
        (some (threshold.updateThresholdStateData r.state)) ∧
      db'.notifications = db.notifications ++ if r.crossed then [r] else [] := by
  rw [storeCrossing] at stored
  cases found : db.thresholds r.thresholdId with
  | none =>
    rw [found] at stored
    cases stored
    exact .inl ⟨rfl, rfl, rfl⟩
  | some threshold =>
    rw [found] at stored
    cases stored
    exact .inr ⟨threshold, rfl, rfl, rfl, rfl⟩

lemma filter_notified {r : Crossing} :
    (if r.crossed then [r] else []).filter (ofPair id sub) =
      ([r].filter (ofPair id sub)).filter Crossing.crossed := by
  cases crossed : r.crossed <;> cases isPair : ofPair id sub r <;> simp [crossed, isPair]

/-- A value is stored. -/
lemma Tracking.store (ok : Tracking id sub d th₀ s) (single : Collector.Single (ofPair id sub) t)
    {r : Crossing} (stored : storeCrossing s.db r = (t.db, true))
    (history : t.history = s.history)
    (unstored : unstoredOf id sub s = [r].filter (ofPair id sub) ++ unstoredOf id sub t) :
    Tracking id sub d th₀ t := by
  have isHistory : reportedOf id sub t = reportedOf id sub s := by
    rw [reportedOf, history]
    rfl
  obtain ⟨done, isReported, isNotified, stores⟩ := ok.stored
  rcases storeCrossing_cases stored with ⟨-, isFalse, -⟩ | ⟨found₀, isFound, -, thresholds, sent⟩
  · cases isFalse
  constructor
  · exact single
  · rw [isHistory]
    exact ok.metrics
  · refine ⟨done ++ [r].filter (ofPair id sub), ?_, ?_, ?_⟩
    · rw [isHistory, isReported, unstored, List.append_assoc]
    · rw [notifiedOf, sent, List.filter_append, List.filter_append, filter_notified]
      rw [notifiedOf] at isNotified
      rw [isNotified]
    · intro threshold found
      rw [thresholds] at found
      by_cases same : r.thresholdId = id
      · rw [same, Function.update_self] at found
        obtain rfl := Option.some.inj found
        rw [same] at isFound
        have isMetric : r.subObjectInstanceId = sub →
            r.metrics = th₀.criteria.performanceMetric := by
          intro isSub
          apply ok.metrics
          rw [isReported, unstored, List.filter_singleton, ofPair_iff.mpr ⟨same, isSub⟩]
          exact List.mem_append_right _ (List.mem_append_left _ (List.mem_singleton.mpr rfl))
        have next := (stores found₀ isFound).store isMetric
        have isDone : (if r.subObjectInstanceId = sub then done ++ [r] else done) =
            done ++ [r].filter (ofPair id sub) := by
          rw [List.filter_singleton]
          by_cases isSub : r.subObjectInstanceId = sub
          · rw [if_pos isSub, ofPair_iff.mpr ⟨same, isSub⟩]
            rfl
          · have notPair : ofPair id sub r = false :=
              Bool.eq_false_iff.mpr fun isPair => isSub (ofPair_iff.mp isPair).2
            rw [if_neg isSub, notPair]
            exact (List.append_nil _).symm
        rw [← isDone]
        exact next
      · rw [Function.update_of_ne (Ne.symm same)] at found
        have notPair : ofPair id sub r = false :=
          Bool.eq_false_iff.mpr fun isPair => same (ofPair_iff.mp isPair).1
        rw [List.filter_singleton, notPair]
        show Stores th₀ sub (done ++ []) threshold
        rw [List.append_nil]
        exact stores threshold found
  · rw [isHistory]
    exact ok.alternating
  · rw [isHistory]
    exact ok.side

/-- One orderly step. -/
lemma Tracking.step (ok : Tracking id sub d th₀ s)
    (isDetails : th₀.criteria.simpleThresholdDetails = some d) (orderly : Orderly id sub d (s, e))
    (step : ThresholdStep id s e t) : Tracking id sub d th₀ t := by
  obtain ⟨step, others⟩ := step
  have criteria : ∀ threshold, s.db.thresholds id = some threshold →
      threshold.criteria.simpleThresholdDetails = some d := by
    obtain ⟨done, -, -, stores⟩ := ok.stored
    intro threshold found
    rw [(stores threshold found).criteria]
    exact isDetails
  have packs (items : List Crossing) : ((thresholdCollector.pack items).flatMap fun r => [r]).filter
      (ofPair id sub) = items.filter (ofPair id sub) := by
    rw [List.flatMap_singleton']
    rfl
  obtain ⟨single, turn⟩ := (Collector.moves_of_step step).turn packs ok.single
    (orderly.inTurn criteria)
  cases turn with
  | @read i now alert todo collected items t found read db history unstored =>
    have isHistory : reportedOf id sub t = reportedOf id sub s ++ items.filter (ofPair id sub) := by
      rw [reportedOf, history, List.filter_append]
      rfl
    have silent (none : items.filter (ofPair id sub) = []) : Tracking id sub d th₀ t := by
      apply ok.same single
      · rw [isHistory, none, List.append_nil]
      · rw [none, List.append_nil] at unstored
        exact unstored
      · rw [notifiedOf, db]
        rfl
      · intro threshold found done stores
        rw [db] at found
        exact stores threshold found
    rcases thresholdTurn_items read with rfl | ⟨id', threshold, details, metric, value, newValue,
      passes, converted, rfl⟩
    · exact silent rfl
    · by_cases isPair : ofPair id sub (threshold.crossing details id' alert.subObjectInstanceId metric
          newValue) = true
      · obtain ⟨isThreshold, isSub⟩ := ofPair_iff.mp isPair
        obtain rfl : id' = id := isThreshold
        obtain rfl := simpleDetails_eq (criteria threshold passes.found) passes.simple
        have isSub' : alert.subObjectInstanceId = sub := isSub
        obtain ⟨before, after, split, -⟩ := Collector.at_of_getElem? found
        rw [List.filter_singleton, isPair] at isHistory unstored
        rw [isSub'] at isHistory unstored
        exact ok.read single passes (orderly.inView i now alert todo collected before after
          threshold metric value newValue rfl split passes isSub' converted) db isHistory unstored
      · apply silent
        rw [List.filter_singleton, Bool.eq_false_iff.mpr isPair]
        rfl
  | store r stored history unstored => exact ok.store single stored history unstored
  | @fail i part t stored history unstored =>
    have db : t.db = s.db := by
      rcases storeCrossing_cases stored with ⟨-, -, db⟩ | ⟨threshold, -, isTrue, -⟩
      · exact db
      · cases isTrue
    apply ok.same single
    · rw [reportedOf, history]
      rfl
    · exact unstored
    · rw [notifiedOf, db]
      rfl
    · intro threshold found done stores
      rw [db] at found
      exact stores threshold found
  | change db =>
    have others := others db rfl
    apply ok.same single rfl rfl
    · show db.notifications.filter _ = _
      rw [others.notifications]
      rfl
    · intro threshold found done stores
      have found' : db.thresholds id = some threshold := found
      rcases others.threshold with same | gone
      · rw [same] at found'
        exact stores threshold found'
      · rw [gone] at found'
        cases found'
  | move db history unstored =>
    apply ok.same single
    · rw [reportedOf, history]
      rfl
    · exact unstored
    · rw [notifiedOf, db]
      rfl
    · intro threshold found done stores
      rw [db] at found
      exact stores threshold found

/-! ## Runs -/

variable {thresholds : String → Option PmThreshold}
  {tr : List (ThresholdSystem × ThresholdEvent)}

/-- A threshold of 10 with a hysteresis of 2. -/
def tenAndTwo : SimpleThresholdDetails where
  thresholdValue := 10
  hysteresis := 2
  nonneg := by decide

/-- A threshold with it. -/
def usageThreshold : PmThreshold where
  objectInstanceId := "inst"
  criteria := {
    performanceMetric := "VCpuUsageMeanVnf.inst"
    thresholdType := "SIMPLE"
    simpleThresholdDetails := some tenAndTwo }

/-- The only threshold. -/
def oneThreshold (id : String) : Option PmThreshold :=
  if id = "threshold" then some usageThreshold else none

/-- An alert for it with the value 13. -/
def highAlert : Alert where
  status := .firing
  functionType := "vnfpm_threshold"
  vnfInstanceId := none
  pod := none
  perceivedSeverity := none
  eventType := none
  faultType := none
  probableCause := none
  faultDetails := none
  startsAt := none
  endsAt := none
  fingerprint := "fingerprint"
  thresholdId := some "threshold"
  objectInstanceId := some "inst"
  metric := some "VCpuUsageMeanVnf.inst"
  value := some ⟨some (.num 13), none⟩

/-- What is told of it. -/
def highCrossing : Crossing where
  thresholdId := "threshold"
  subObjectInstanceId := none
  performanceValue := .num 13
  metrics := "VCpuUsageMeanVnf.inst"
  crossingDirection := .up

lemma unchanged {s : ThresholdSystem} {e : ThresholdEvent} (ne : ∀ db, e ≠ .change db)
    (db : ThresholdDatabase) (eq : e = .change db) : OthersOf "threshold" s db :=
  absurd eq (ne db)

lemma highAlert_read (todo : List Alert) (collected : List Crossing) :
    thresholdCollector.step
        { db := ⟨oneThreshold, []⟩, batches := [⟨0, highAlert :: todo, collected⟩],
          history := collected } (.read 0) =
      some { db := ⟨oneThreshold, []⟩, batches := [⟨0, todo, collected ++ [highCrossing]⟩],
             history := collected ++ [highCrossing] } := by
  have read : thresholdTurn ⟨oneThreshold, []⟩ highAlert = some [highCrossing] := by
    decide +kernel
  exact Collector.step_read (c := thresholdCollector)
    (s := {
      db := ⟨oneThreshold, []⟩
      batches := [⟨0, highAlert :: todo, collected⟩]
      history := collected })
    (i := 0) rfl read

end Tacker.Prometheus
