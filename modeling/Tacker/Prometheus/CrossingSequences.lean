import Mathlib.Data.List.Chain
import Mathlib.Tactic.Linarith
import Tacker.Prometheus.ThresholdAlerts

/-!
# Sequences of crossings

The values that are reported for one threshold and sub-object, with the directions that are found
for them. What is wanted of the directions, and when one more direction is as wanted.
-/

namespace Tacker.Prometheus

variable {d : SimpleThresholdDetails} {reported : List Crossing} {r : Crossing}

/-! ## What is wanted -/

/-- The direction of the last crossing. -/
def lastDirection (reported : List Crossing) : Option CrossingDirection :=
  (reported.filter Crossing.crossed).getLast?.map Crossing.crossingDirection

/-- The bounds of the hysteresis band. -/
def SimpleThresholdDetails.upper (d : SimpleThresholdDetails) : ℚ :=
  d.thresholdValue + d.hysteresis

def SimpleThresholdDetails.lower (d : SimpleThresholdDetails) : ℚ :=
  d.thresholdValue - d.hysteresis

/-- The crossings alternate, each is of a value beyond its bound, and every value beyond the opposite
bound of the last crossing is a crossing. -/
structure Alternating (d : SimpleThresholdDetails) (reported : List Crossing) : Prop where
  alternate :
    ((reported.filter Crossing.crossed).map Crossing.crossingDirection).IsChain (· ≠ ·)
  up : ∀ r ∈ reported, r.crossingDirection = .up → r.performanceValue.above d.upper = true
  down : ∀ r ∈ reported, r.crossingDirection = .down → r.performanceValue.below d.lower = true
  raisedDown : ∀ before r after, reported = before ++ r :: after →
    lastDirection before = some .up → r.performanceValue.below d.lower = true →
    r.crossingDirection = .down
  raisedUp : ∀ before r after, reported = before ++ r :: after →
    lastDirection before = some .down → r.performanceValue.above d.upper = true →
    r.crossingDirection = .up

/-- The next value is as wanted after a last crossing. -/
structure Follows (d : SimpleThresholdDetails) (last : Option CrossingDirection) (r : Crossing) :
    Prop where
  other : r.crossed = true → last ≠ some r.crossingDirection
  up : r.crossingDirection = .up → r.performanceValue.above d.upper = true
  down : r.crossingDirection = .down → r.performanceValue.below d.lower = true
  raisedDown : last = some .up → r.performanceValue.below d.lower = true →
    r.crossingDirection = .down
  raisedUp : last = some .down → r.performanceValue.above d.upper = true →
    r.crossingDirection = .up

lemma lastDirection_snoc :
    lastDirection (reported ++ [r]) =
      if r.crossed then some r.crossingDirection else lastDirection reported := by
  rw [lastDirection, List.filter_append]
  cases crossed : r.crossed with
  | true =>
    rw [List.filter_cons, if_pos crossed, List.filter_nil, List.getLast?_concat]
    rfl
  | false =>
    rw [List.filter_cons, if_neg (by simp [crossed]), List.filter_nil, List.append_nil]
    rfl

lemma lastDirection_eq_getLast? :
    lastDirection reported =
      ((reported.filter Crossing.crossed).map Crossing.crossingDirection).getLast? := by
  rw [lastDirection, List.getLast?_map]

/-- A list that ends with an element is cut before its end, or has the element there. -/
lemma cut_of_snoc {α : Type} {l before after : List α} {a b : α}
    (eq : l ++ [a] = before ++ b :: after) :
    (before = l ∧ b = a) ∨ ∃ rest, l = before ++ b :: rest := by
  rcases List.eq_nil_or_concat after with rfl | ⟨rest, last, rfl⟩
  · obtain ⟨isBefore, isLast⟩ := List.append_inj' eq rfl
    exact .inl ⟨isBefore.symm, (List.singleton_inj.mp isLast).symm⟩
  · right
    refine ⟨rest, ?_⟩
    have eq' : l ++ [a] = (before ++ b :: rest) ++ [last] := by
      rw [eq]
      simp
    exact (List.append_inj' eq' rfl).1

lemma Alternating.nil : Alternating d [] := by
  constructor
  · exact List.IsChain.nil
  · intro r mem
    cases mem
  · intro r mem
    cases mem
  · intro before r after eq
    cases before <;> cases eq
  · intro before r after eq
    cases before <;> cases eq

/-- One more value. -/
lemma Alternating.snoc (alternating : Alternating d reported)
    (follows : Follows d (lastDirection reported) r) : Alternating d (reported ++ [r]) := by
  constructor
  · rw [List.filter_append, List.map_append]
    cases crossed : r.crossed with
    | true =>
      rw [List.filter_cons, if_pos crossed, List.filter_nil]
      apply alternating.alternate.append (List.IsChain.singleton _)
      intro x isLast y isFirst
      obtain rfl := Option.some.inj isFirst
      have notLast := follows.other crossed
      rw [lastDirection_eq_getLast?] at notLast
      rintro rfl
      exact notLast isLast
    | false =>
      rw [List.filter_cons, if_neg (by simp [crossed]), List.filter_nil, List.map_nil,
        List.append_nil]
      exact alternating.alternate
  · intro r' mem
    rcases List.mem_append.mp mem with old | new
    · exact alternating.up r' old
    · rw [List.mem_singleton.mp new]
      exact follows.up
  · intro r' mem
    rcases List.mem_append.mp mem with old | new
    · exact alternating.down r' old
    · rw [List.mem_singleton.mp new]
      exact follows.down
  · intro before r' after eq
    rcases cut_of_snoc eq with ⟨rfl, rfl⟩ | ⟨rest, old⟩
    · exact follows.raisedDown
    · exact alternating.raisedDown before r' rest old
  · intro before r' after eq
    rcases cut_of_snoc eq with ⟨rfl, rfl⟩ | ⟨rest, old⟩
    · exact follows.raisedUp
    · exact alternating.raisedUp before r' rest old

/-! ## What is compared -/

lemma lower_le_thresholdValue (d : SimpleThresholdDetails) : d.lower ≤ d.thresholdValue := by
  have := d.nonneg
  rw [SimpleThresholdDetails.lower]
  linarith

lemma thresholdValue_le_upper (d : SimpleThresholdDetails) : d.thresholdValue ≤ d.upper := by
  have := d.nonneg
  rw [SimpleThresholdDetails.upper]
  linarith

namespace Measured

variable {x : Measured} {b b' : ℚ}

lemma not_below_of_above (le : b ≤ b') (above : x.above b' = true) : x.below b = false := by
  cases x with
  | num q =>
    have lt : b' < q := of_decide_eq_true above
    exact decide_eq_false (not_lt.mpr (le_trans le lt.le))
  | posInf => rfl
  | nan | negInf => cases above

lemma atLeast_of_above (le : b ≤ b') (above : x.above b' = true) : x.atLeast b = true := by
  cases x with
  | num q =>
    have lt : b' < q := of_decide_eq_true above
    exact decide_eq_true (le_trans le lt.le)
  | posInf => rfl
  | nan | negInf => cases above

lemma atMost_of_below (le : b ≤ b') (below : x.below b = true) : x.atMost b' = true := by
  cases x with
  | num q =>
    have lt : q < b := of_decide_eq_true below
    exact decide_eq_true (le_trans lt.le le)
  | negInf => rfl
  | nan | posInf => cases below

lemma atLeast_of_not_below (number : x ≠ nan) (notBelow : x.below b = false) :
    x.atLeast b = true := by
  cases x with
  | num q =>
    have notLt : ¬ q < b := of_decide_eq_false notBelow
    exact decide_eq_true (not_lt.mp notLt)
  | posInf => rfl
  | negInf => cases notBelow
  | nan => exact absurd rfl number

lemma atMost_of_not_above (number : x ≠ nan) (notAbove : x.above b = false) :
    x.atMost b = true := by
  cases x with
  | num q =>
    have notLt : ¬ b < q := of_decide_eq_false notAbove
    exact decide_eq_true (not_lt.mp notLt)
  | negInf => rfl
  | posInf => cases notAbove
  | nan => exact absurd rfl number

end Measured

/-- The value that is compared with the next one, once the crossing is stored. -/
def Crossing.asLast (d : SimpleThresholdDetails) (r : Crossing) : Measured :=
  setThresholdLastValue d.thresholdValue (some r.state)

lemma asLast_eq : r.asLast d = r.performanceValue ∨ r.asLast d = .num d.thresholdValue := by
  show (if r.performanceValue.truthy = true then r.performanceValue else .num d.thresholdValue) = _ ∨
    (if r.performanceValue.truthy = true then r.performanceValue else .num d.thresholdValue) = _
  cases r.performanceValue.truthy with
  | true => exact .inl rfl
  | false => exact .inr rfl

lemma asLast_atLeast (atLeast : r.performanceValue.atLeast d.lower = true) :
    (r.asLast d).atLeast d.lower = true := by
  rcases asLast_eq (d := d) (r := r) with eq | eq
  · rw [eq]
    exact atLeast
  · rw [eq]
    exact decide_eq_true (lower_le_thresholdValue d)

lemma asLast_atMost (atMost : r.performanceValue.atMost d.upper = true) :
    (r.asLast d).atMost d.upper = true := by
  rcases asLast_eq (d := d) (r := r) with eq | eq
  · rw [eq]
    exact atMost
  · rw [eq]
    exact decide_eq_true (thresholdValue_le_upper d)

/-- After a crossing, the last value has not passed the opposite bound unnoticed. -/
structure Side (d : SimpleThresholdDetails) (reported : List Crossing) : Prop where
  up : lastDirection reported = some .up → ∀ r, reported.getLast? = some r →
    r.performanceValue ≠ .nan → (r.asLast d).atLeast d.lower = true
  down : lastDirection reported = some .down → ∀ r, reported.getLast? = some r →
    r.performanceValue ≠ .nan → (r.asLast d).atMost d.upper = true

/-- The last value that the code compares with: after a crossing it is beyond the same bound if the
new value is, and not beyond the opposite bound if the new value is, unless it is sure to be the
value that was reported last. -/
structure InView (d : SimpleThresholdDetails) (last : Option CrossingDirection) (fresh : Prop)
    (newValue lastValue : Measured) : Prop where
  upAgain : last = some .up → newValue.above d.upper = true → lastValue.atMost d.upper = false
  downAgain : last = some .down → newValue.below d.lower = true → lastValue.atLeast d.lower = false
  upDown : last = some .up → newValue.below d.lower = true →
    fresh ∨ lastValue.atLeast d.lower = true
  downUp : last = some .down → newValue.above d.upper = true →
    fresh ∨ lastValue.atMost d.upper = true

/-! ## The direction of the next value -/

variable {newValue lastValue : Measured} {last : Option CrossingDirection}

/-- The direction that the code finds. -/
def directionOf (d : SimpleThresholdDetails) (newValue lastValue : Measured) : CrossingDirection :=
  setCrossingDirection newValue lastValue d.thresholdValue d.hysteresis

lemma directionOf_down : directionOf d newValue lastValue = .down ↔
    newValue.below d.lower = true ∧ lastValue.atLeast d.lower = true := by
  rw [directionOf, setCrossingDirection]
  by_cases down : (newValue.below (d.thresholdValue - d.hysteresis) &&
      lastValue.atLeast (d.thresholdValue - d.hysteresis)) = true
  · rw [if_pos down]
    exact iff_of_true rfl (Bool.and_eq_true_iff.mp down)
  · rw [if_neg down]
    apply iff_of_false _ (fun both => down (Bool.and_eq_true_iff.mpr both))
    cases (newValue.above (d.thresholdValue + d.hysteresis) &&
      lastValue.atMost (d.thresholdValue + d.hysteresis)) <;> simp

lemma directionOf_up : directionOf d newValue lastValue = .up ↔
    newValue.above d.upper = true ∧ lastValue.atMost d.upper = true := by
  rw [directionOf, setCrossingDirection]
  by_cases down : (newValue.below (d.thresholdValue - d.hysteresis) &&
      lastValue.atLeast (d.thresholdValue - d.hysteresis)) = true
  · rw [if_pos down]
    apply iff_of_false (by simp)
    rintro ⟨above, -⟩
    have le := le_trans (lower_le_thresholdValue d) (thresholdValue_le_upper d)
    have notBelow := Measured.not_below_of_above le above
    have below := (Bool.and_eq_true_iff.mp down).1
    rw [show d.thresholdValue - d.hysteresis = d.lower from rfl, notBelow] at below
    cases below
  · rw [if_neg down]
    by_cases up : (newValue.above (d.thresholdValue + d.hysteresis) &&
        lastValue.atMost (d.thresholdValue + d.hysteresis)) = true
    · rw [if_pos up]
      exact iff_of_true rfl (Bool.and_eq_true_iff.mp up)
    · rw [if_neg up]
      exact iff_of_false (by simp) (fun both => up (Bool.and_eq_true_iff.mpr both))

lemma crossed_iff : r.crossed = true ↔ r.crossingDirection = .up ∨ r.crossingDirection = .down := by
  rw [Crossing.crossed]
  cases r.crossingDirection <;> simp

/-- With the last value in view, the direction is as wanted. -/
lemma follows_of_inView {fresh : Prop} (inView : InView d last fresh newValue lastValue)
    (freshUp : fresh → last = some .up → lastValue.atLeast d.lower = true)
    (freshDown : fresh → last = some .down → lastValue.atMost d.upper = true)
    (isValue : r.performanceValue = newValue)
    (isDirection : r.crossingDirection = directionOf d newValue lastValue) : Follows d last r := by
  constructor
  · intro crossed
    rw [isDirection]
    rcases crossed_iff.mp crossed with up | down
    · rw [isDirection] at up
      rw [up]
      intro isUp
      obtain ⟨above, atMost⟩ := directionOf_up.mp up
      rw [inView.upAgain isUp above] at atMost
      cases atMost
    · rw [isDirection] at down
      rw [down]
      intro isDown
      obtain ⟨below, atLeast⟩ := directionOf_down.mp down
      rw [inView.downAgain isDown below] at atLeast
      cases atLeast
  · intro up
    rw [isDirection] at up
    rw [isValue]
    exact (directionOf_up.mp up).1
  · intro down
    rw [isDirection] at down
    rw [isValue]
    exact (directionOf_down.mp down).1
  · intro isUp below
    rw [isValue] at below
    rw [isDirection]
    apply directionOf_down.mpr
    refine ⟨below, ?_⟩
    rcases inView.upDown isUp below with fresh | atLeast
    · exact freshUp fresh isUp
    · exact atLeast
  · intro isDown above
    rw [isValue] at above
    rw [isDirection]
    apply directionOf_up.mpr
    refine ⟨above, ?_⟩
    rcases inView.downUp isDown above with fresh | atMost
    · exact freshDown fresh isDown
    · exact atMost

/-- A direction that is as wanted leaves the last value on its side. -/
lemma side_of_follows (follows : Follows d (lastDirection reported) r) :
    Side d (reported ++ [r]) := by
  have le := le_trans (lower_le_thresholdValue d) (thresholdValue_le_upper d)
  constructor
  · intro isUp r' isLast number
    rw [List.getLast?_concat] at isLast
    obtain rfl := Option.some.inj isLast
    apply asLast_atLeast
    rw [lastDirection_snoc] at isUp
    cases crossed : r.crossed with
    | true =>
      rw [if_pos crossed] at isUp
      exact Measured.atLeast_of_above le (follows.up (Option.some.inj isUp))
    | false =>
      rw [if_neg (by simp [crossed])] at isUp
      apply Measured.atLeast_of_not_below number
      apply Bool.eq_false_iff.mpr
      intro below
      have isCrossed := crossed_iff.mpr (.inr (follows.raisedDown isUp below))
      rw [crossed] at isCrossed
      cases isCrossed
  · intro isDown r' isLast number
    rw [List.getLast?_concat] at isLast
    obtain rfl := Option.some.inj isLast
    apply asLast_atMost
    rw [lastDirection_snoc] at isDown
    cases crossed : r.crossed with
    | true =>
      rw [if_pos crossed] at isDown
      exact Measured.atMost_of_below le (follows.down (Option.some.inj isDown))
    | false =>
      rw [if_neg (by simp [crossed])] at isDown
      apply Measured.atMost_of_not_above number
      apply Bool.eq_false_iff.mpr
      intro above
      have isCrossed := crossed_iff.mpr (.inl (follows.raisedUp isDown above))
      rw [crossed] at isCrossed
      cases isCrossed

end Tacker.Prometheus
