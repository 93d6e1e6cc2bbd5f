import ArmLink.Motion.Profile
import Mathlib.Logic.ExistsUnique

/-!
Where a time falls among the points of a trajectory.

The search for a segment halves a range of places and looks at one point each time.  A property that
does not come back once it is gone is found out about by that for every place of the range
(`lt_bisect_iff`).  Being at or before a time is such a property of points in the order of their times,
whether or not some of them share one (`lt_pointsUntil_iff`), so the search ends right behind the last
point at or before a time.

A time is then before the first point, at or after the last one, or inside exactly one segment, which
begins at or before the time and ends after it and so lasts for a while.  For these three cases there is
an equation for the sample of a profile.
-/

namespace ArmLink.Motion

/-! ### The search by halving -/

section Search

variable {holds : Nat → Bool}

theorem bisect_bounds (holds : Nat → Bool) (base size : Nat) :
    base ≤ bisect holds base size ∧ bisect holds base size ≤ base + size := by
  fun_induction bisect holds base size with
  | case1 base => exact ⟨Nat.le_refl _, Nat.le_refl _⟩
  | case2 base found => exact ⟨Nat.le_succ _, Nat.le_refl _⟩
  | case3 base missing => exact ⟨Nat.le_refl _, Nat.le_succ _⟩
  | case4 base size _ _ half ih =>
    rw [dite_eq_ite] at ih
    split at ih
    case isTrue middle =>
      rw [if_pos middle]
      omega
    case isFalse middle =>
      rw [if_neg middle]
      omega

/-- The search ends behind the places with a property that does not come back once it is gone. -/
theorem lt_bisect_iff (falling : ∀ i j, i ≤ j → holds j = true → holds i = true) (base size : Nat) :
    ∀ index, base ≤ index → index < base + size →
      (index < bisect holds base size ↔ holds index = true) := by
  fun_induction bisect holds base size with
  | case1 base => omega
  | case2 base found =>
    intro index fromBase inside
    obtain rfl : index = base := by omega
    exact iff_of_true (Nat.lt_succ_self _) found
  | case3 base missing =>
    intro index fromBase inside
    obtain rfl : index = base := by omega
    exact iff_of_false (Nat.lt_irrefl _) missing
  | case4 base size _ _ half ih =>
    intro index fromBase inside
    rw [dite_eq_ite] at ih
    split at ih
    case isTrue middle =>
      rw [if_pos middle]
      have bounds := bisect_bounds holds (base + half) (size - half)
      rcases Nat.lt_or_ge index (base + half) with early | late
      · exact iff_of_true (by omega) (falling _ _ (Nat.le_of_lt early) middle)
      · exact ih index late (by omega)
    case isFalse middle =>
      rw [if_neg middle]
      have bounds := bisect_bounds holds base (size - half)
      rcases Nat.lt_or_ge index (base + (size - half)) with early | late
      · exact ih index fromBase early
      · exact iff_of_false (by omega) fun found => middle (falling _ _ (by omega) found)

end Search

/-! ### Points in order -/

variable {α : Type} {points : List (Waypoint α)} {time : Duration} {index : Nat}
  {start stop : Waypoint α}

/-- Points in the order of their times. -/
def InOrder (points : List (Waypoint α)) : Prop :=
  points.Pairwise fun earlier later => earlier.time ≤ later.time

theorem InOrder.time_le (ordered : InOrder points) {i j : Nat} (order : i ≤ j)
    (first : points[i]? = some start) (second : points[j]? = some stop) :
    start.time ≤ stop.time := by
  obtain ⟨inside, rfl⟩ := List.getElem?_eq_some_iff.mp first
  obtain ⟨insideToo, rfl⟩ := List.getElem?_eq_some_iff.mp second
  rcases Nat.eq_or_lt_of_le order with rfl | earlier
  · exact Nat.le_refl _
  · exact List.pairwise_iff_getElem.mp ordered i j inside insideToo earlier

/-- The points that the search finds are those at or before the time. -/
theorem lt_pointsUntil_iff (ordered : InOrder points) (time : Duration) (index : Nat) :
    index < pointsUntil points time ↔ ∃ point, points[index]? = some point ∧ point.time ≤ time := by
  have reached (index : Nat) :
      (points[index]?.any fun point => decide (point.time.nanos ≤ time.nanos)) = true ↔
        ∃ point, points[index]? = some point ∧ point.time ≤ time := by
    rw [Option.any_eq_true]
    exact exists_congr fun point => and_congr_right fun _ => decide_eq_true_iff
  rw [← reached]
  rcases Nat.lt_or_ge index points.length with inside | beyond
  · refine lt_bisect_iff ?_ 0 points.length index (Nat.zero_le _) (by omega)
    intro i j order found
    obtain ⟨later, isLater, early⟩ := (reached j).mp found
    obtain ⟨bound, -⟩ := List.getElem?_eq_some_iff.mp isLater
    have bound : i < points.length := Nat.lt_of_le_of_lt order bound
    have isEarlier : points[i]? = some points[i] := List.getElem?_eq_getElem bound
    exact (reached i).mpr
      ⟨_, isEarlier, Nat.le_trans (ordered.time_le order isEarlier isLater) early⟩
  · have bounds := (bisect_bounds (fun index => points[index]?.any fun point =>
      decide (point.time.nanos ≤ time.nanos)) 0 points.length).2
    refine iff_of_false (by rw [pointsUntil]; omega) ?_
    rw [List.getElem?_eq_none beyond]
    exact Bool.false_ne_true

/-- A time falls into the segment that begins at a point: not before that point, but before the next
one. -/
structure FallsInto (points : List (Waypoint α)) (time : Duration) (index : Nat)
    (start stop : Waypoint α) : Prop where
  start_eq : points[index]? = some start
  stop_eq : points[index + 1]? = some stop
  begun : start.time ≤ time
  notOver : time < stop.time

theorem FallsInto.lasts (falls : FallsInto points time index start stop) :
    start.time < stop.time :=
  Nat.lt_of_le_of_lt falls.begun falls.notOver

/-- Two points next to each other with some time between them. -/
def Neighbours (points : List (Waypoint α)) (start stop : Waypoint α) : Prop :=
  ∃ index, points[index]? = some start ∧ points[index + 1]? = some stop ∧ start.time < stop.time

theorem FallsInto.neighbours (falls : FallsInto points time index start stop) :
    Neighbours points start stop :=
  ⟨index, falls.start_eq, falls.stop_eq, falls.lasts⟩

theorem Neighbours.lasts (neighbours : Neighbours points start stop) : start.time < stop.time := by
  obtain ⟨-, -, -, lasts⟩ := neighbours
  exact lasts

theorem segmentIndex?_eq_some_iff :
    segmentIndex? points time = some index ↔ pointsUntil points time = index + 1 := by
  rw [segmentIndex?]
  split
  case h_1 none => simp [none]
  case h_2 count some => simp [some]

theorem segmentIndex?_of_before (ordered : InOrder points) (nonempty : points ≠ [])
    (early : time < (points.head nonempty).time) : segmentIndex? points time = none := by
  have first : points[0]? = some (points.head nonempty) := by
    rw [← List.head?_eq_getElem?, List.head?_eq_some_head nonempty]
  have noPoint : ¬ 0 < pointsUntil points time := by
    rw [lt_pointsUntil_iff ordered, first]
    rintro ⟨point, isFirst, begun⟩
    cases isFirst
    exact Nat.not_lt.mpr begun early
  rw [segmentIndex?, Nat.eq_zero_of_not_pos noPoint]

theorem segmentIndex?_of_fallsInto (ordered : InOrder points)
    (falls : FallsInto points time index start stop) : segmentIndex? points time = some index := by
  have begun := (lt_pointsUntil_iff ordered time index).mpr ⟨start, falls.start_eq, falls.begun⟩
  have notOver : ¬ index + 1 < pointsUntil points time := by
    rw [lt_pointsUntil_iff ordered]
    rintro ⟨point, isStop, passed⟩
    rw [falls.stop_eq] at isStop
    cases isStop
    exact Nat.not_lt.mpr passed falls.notOver
  rw [segmentIndex?_eq_some_iff]
  omega

theorem last_of_points (nonempty : points ≠ []) :
    points[points.length - 1]? = some (points.getLast nonempty) ∧
      points[points.length - 1 + 1]? = none := by
  have positive := List.length_pos_iff.mpr nonempty
  refine ⟨?_, List.getElem?_eq_none (by omega)⟩
  rw [← List.getLast?_eq_getElem?, List.getLast?_eq_some_getLast nonempty]

theorem segmentIndex?_of_after (ordered : InOrder points) (nonempty : points ≠ [])
    (late : (points.getLast nonempty).time ≤ time) :
    segmentIndex? points time = some (points.length - 1) := by
  have positive := List.length_pos_iff.mpr nonempty
  obtain ⟨last, behind⟩ := last_of_points nonempty
  have reached := (lt_pointsUntil_iff ordered time _).mpr ⟨_, last, late⟩
  have noMore : ¬ points.length - 1 + 1 < pointsUntil points time := by
    rw [lt_pointsUntil_iff ordered, behind]
    rintro ⟨point, some, -⟩
    cases some
  rw [segmentIndex?_eq_some_iff]
  omega

/-- Between the first point and the last one there is a segment for every time, and only one. -/
theorem existsUnique_fallsInto (ordered : InOrder points) (nonempty : points ≠ [])
    (begun : (points.head nonempty).time ≤ time) (notOver : time < (points.getLast nonempty).time) :
    ∃! index, ∃ start stop, FallsInto points time index start stop := by
  have first : points[0]? = some (points.head nonempty) := by
    rw [← List.head?_eq_getElem?, List.head?_eq_some_head nonempty]
  obtain ⟨last, -⟩ := last_of_points nonempty
  have reached := (lt_pointsUntil_iff ordered time 0).mpr ⟨_, first, begun⟩
  have notAll : ¬ points.length - 1 < pointsUntil points time := by
    rw [lt_pointsUntil_iff ordered, last]
    rintro ⟨point, isLast, passed⟩
    cases isLast
    exact Nat.not_lt.mpr passed notOver
  obtain ⟨index, found⟩ := Nat.exists_eq_add_one.mpr reached
  obtain ⟨start, isStart, before⟩ := (lt_pointsUntil_iff ordered time index).mp (by omega)
  have next : points[index + 1]? = some points[index + 1] := List.getElem?_eq_getElem _
  have after : ¬ index + 1 < pointsUntil points time := by omega
  rw [lt_pointsUntil_iff ordered] at after
  refine ⟨index, ⟨start, _, isStart, next, before, ?_⟩, ?_⟩
  · exact Nat.lt_of_not_le fun early => after ⟨_, next, early⟩
  · rintro other ⟨_, _, falls⟩
    have same := segmentIndex?_of_fallsInto ordered falls
    rw [segmentIndex?_eq_some_iff] at same
    omega

/-- The last one of the points with some time. -/
structure LastAt (points : List (Waypoint α)) (time : Duration) (index : Nat) (last : Waypoint α) :
    Prop where
  last_eq : points[index]? = some last
  time_eq : last.time = time
  later : ∀ other point, index < other → points[other]? = some point → time < point.time

theorem exists_lastAt (ordered : InOrder points) {point : Waypoint α} (isPoint : point ∈ points) :
    ∃ index last, LastAt points point.time index last := by
  obtain ⟨place, isPlaced⟩ := List.getElem?_of_mem isPoint
  have reached := (lt_pointsUntil_iff ordered point.time place).mpr ⟨point, isPlaced, Nat.le_refl _⟩
  obtain ⟨index, found⟩ := Nat.exists_eq_add_one_of_ne_zero (Nat.ne_zero_of_lt reached)
  obtain ⟨last, isLast, begun⟩ := (lt_pointsUntil_iff ordered point.time index).mp (by omega)
  have order : point.time ≤ last.time := ordered.time_le (by omega) isPlaced isLast
  refine ⟨index, last, isLast, congrArg Duration.mk (Nat.le_antisymm begun order), ?_⟩
  intro other next behind isNext
  refine Nat.lt_of_not_le fun early => ?_
  have found := (lt_pointsUntil_iff ordered point.time other).mpr ⟨next, isNext, early⟩
  omega

theorem LastAt.fallsInto (last : LastAt points time index start)
    (next : points[index + 1]? = some stop) : FallsInto points time index start stop where
  start_eq := last.last_eq
  stop_eq := next
  begun := Nat.le_of_eq (congrArg Duration.nanos last.time_eq)
  notOver := last.later _ _ (Nat.lt_succ_self index) next

/-! ### Sampling -/

section Sampling

variable [Scalar α]

/-- The time between two points. -/
def lengthOf (start stop : Waypoint α) : α := (stop.time.monus start.time).toScalar

/-- The time that has passed since a point. -/
def elapsedSince (start : Waypoint α) (time : Duration) : α := (time.monus start.time).toScalar

/-- How a joint passes smoothly from one point to the next: position and velocity by the time since the
first point. -/
def passage (start stop : Waypoint α) (joint : Fin jointCount) (elapsed : α) : α × α :=
  interpolate elapsed (lengthOf start stop) (start.positions.get joint) (stop.positions.get joint)
    (start.velocities.get joint) (stop.velocities.get joint)

namespace SmoothProfile

variable (profile : SmoothProfile α) (ordered : InOrder profile.points)
include ordered

theorem sample_of_before (early : time < (profile.points.head profile.points_ne_nil).time) :
    profile.sample time = (profile.points.head profile.points_ne_nil).sample := by
  simp only [sample, segmentIndex?_of_before ordered profile.points_ne_nil early]

theorem sample_of_after (late : (profile.points.getLast profile.points_ne_nil).time ≤ time) :
    profile.sample time = (profile.points.getLast profile.points_ne_nil).sample := by
  obtain ⟨last, behind⟩ := last_of_points profile.points_ne_nil
  simp only [sample, segmentIndex?_of_after ordered profile.points_ne_nil late, last, behind]

theorem sample_of_fallsInto (falls : FallsInto profile.points time index start stop) :
    profile.sample time =
      ⟨Vector.ofFn fun joint => (passage start stop joint (elapsedSince start time)).1,
        Vector.ofFn fun joint => (passage start stop joint (elapsedSince start time)).2⟩ := by
  simp only [sample, segmentIndex?_of_fallsInto ordered falls, falls.start_eq, falls.stop_eq]
  rfl

end SmoothProfile

namespace TimedProfile

variable (profile : TimedProfile α) (ordered : InOrder profile.points)
include ordered

theorem sample_of_before (early : time < (profile.points.head profile.points_ne_nil).time) :
    profile.sample time = (profile.points.head profile.points_ne_nil).stopped := by
  simp only [sample, segmentIndex?_of_before ordered profile.points_ne_nil early]

theorem sample_of_after (late : (profile.points.getLast profile.points_ne_nil).time ≤ time) :
    profile.sample time = (profile.points.getLast profile.points_ne_nil).stopped := by
  obtain ⟨last, behind⟩ := last_of_points profile.points_ne_nil
  simp only [sample, segmentIndex?_of_after ordered profile.points_ne_nil late, last, behind]

theorem sample_of_fallsInto {trapezoids : Joints (Trapezoid α)}
    (falls : FallsInto profile.points time index start stop)
    (planned : profile.segments[index]? = some trapezoids) :
    profile.sample time =
      let moved joint := (trapezoids.get joint).sample (start.positions.get joint)
        (stop.positions.get joint) (elapsedSince start time) (lengthOf start stop)
      ⟨Vector.ofFn fun joint => (moved joint).1, Vector.ofFn fun joint => (moved joint).2⟩ := by
  simp only [sample, segmentIndex?_of_fallsInto ordered falls, falls.start_eq, falls.stop_eq, planned]
  rfl

end TimedProfile

end Sampling

end ArmLink.Motion
