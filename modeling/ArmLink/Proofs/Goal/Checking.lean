import ArmLink.Goal.Validation
import Mathlib.Data.List.Forall2

/-!
What the checks of a goal promise.

A goal that passes is turned into points with the joints in the order of the arm.  Every point is
complete, made of finite numbers, and not before the point in front of it (`checked_of_waypoints`).
What is executed are these points, with one more in front if the first of them comes later than time
zero: the place where the arm stands.  So the times still do not decrease, the last point is the
last point of the goal, and only the point in front was not checked (`begun_of_withStartPoint`).
-/

namespace ArmLink.Goal

open Link Motion

/-- A point of finite numbers. -/
structure IsFinite (point : Waypoint Float) : Prop where
  positions : ∀ position ∈ point.positions.toList, position.isFinite = true
  velocities : ∀ velocity ∈ point.velocities.toList, velocity.isFinite = true

/-- Joint `j` of the arm is joint `order[j]` among these names. -/
def IsOrder (canonical names : List String) (order : Joints (Fin jointCount)) : Prop :=
  ∀ joint : Fin jointCount, ∃ name,
    canonical[joint.val]? = some name ∧ names[(order.get joint).val]? = some name

/-- A point of a goal with its joints in the order of the arm. -/
structure Arranged (order : Joints (Fin jointCount)) (point : GoalPoint)
    (waypoint : Waypoint Float) : Prop where
  positions : ∀ joint, point.positions[(order.get joint).val]? = some (waypoint.positions.get joint)
  velocities : ∀ joint,
    point.velocities[(order.get joint).val]? = some (waypoint.velocities.get joint)
  time : waypoint.time = point.time

/-- The points of a goal that passed the checks. -/
structure Checked (config : Coordinator.Config) (goal : Goal) (points : List (Waypoint Float)) :
    Prop where
  distinct : goal.jointNames.Nodup
  arranged : ∃ order, IsOrder config.jointNames goal.jointNames order ∧
    List.Forall₂ (Arranged order) goal.points points
  nonempty : points ≠ []
  finite : ∀ point ∈ points, IsFinite point
  slow : ∀ point ∈ points, ∀ velocity ∈ point.velocities.toList,
    ¬ config.maxVelocity < velocity.abs
  times : points.Pairwise (·.time ≤ ·.time)

variable {config : Coordinator.Config} {goal : Goal} {order : Joints (Fin jointCount)}
  {limit : Float} {previous : Duration} {point : GoalPoint} {waypoint : Waypoint Float}
  {points : List (Waypoint Float)}

theorem exists_of_bind {ε α β : Type} {first : Except ε α} {rest : α → Except ε β} {result : β}
    (passed : first >>= rest = .ok result) :
    ∃ value, first = .ok value ∧ rest value = .ok result := by
  cases first with
  | error fault => cases passed
  | ok value => exact ⟨value, rfl, passed⟩

theorem toList_of_ofList? {α : Type} {values : List α} {joints : Joints α}
    (read : Joints.ofList? values = some joints) : joints.toList = values := by
  unfold Joints.ofList? at read
  split at read
  · rw [← Option.some.inj read]
    simp
  · cases read

theorem get_of_ofList? {α : Type} {values : List α} {joints : Joints α}
    (read : Joints.ofList? values = some joints) (joint : Fin jointCount) :
    values[joint.val]? = some (joints.get joint) := by
  rw [← toList_of_ofList? read]
  simp [Vector.get]

theorem forall₂_of_mapM {α β : Type} {f : α → Option β} {inputs : List α} {outputs : List β}
    (mapped : inputs.mapM f = some outputs) :
    List.Forall₂ (fun input output => f input = some output) inputs outputs := by
  induction inputs generalizing outputs with
  | nil =>
    cases mapped
    exact .nil
  | cons input inputs ih =>
    rw [List.mapM_cons] at mapped
    obtain ⟨output, first, mapped⟩ := Option.bind_eq_some_iff.mp mapped
    obtain ⟨rest, others, mapped⟩ := Option.bind_eq_some_iff.mp mapped
    cases mapped
    exact .cons first (ih others)

theorem isOrder_of_jointOrder {canonical names : List String}
    (found : jointOrder canonical names = some order) :
    names.Nodup ∧ IsOrder canonical names order := by
  unfold jointOrder at found
  split at found
  · cases found
  · rename_i fits
    obtain ⟨-, distinct⟩ := not_or.mp fits
    refine ⟨not_not.mp distinct, ?_⟩
    obtain ⟨places, mapped, read⟩ := Option.bind_eq_some_iff.mp found
    have each := forall₂_of_mapM mapped
    intro joint
    have placed := get_of_ofList? read joint
    obtain ⟨inPlaces, atPlace⟩ := List.getElem?_eq_some_iff.mp placed
    have inCanonical : joint.val < canonical.length := by rwa [each.length_eq]
    have stands := each.get inCanonical inPlaces
    obtain ⟨place, isThere, stands⟩ := Option.bind_eq_some_iff.mp stands
    split at stands
    · have same : (order.get joint).val = place :=
        congrArg Fin.val (atPlace.symm.trans (Option.some.inj stands).symm)
      obtain ⟨inNames, matching, -⟩ := List.findIdx?_eq_some_iff_getElem.mp isThere
      refine ⟨canonical[joint.val], List.getElem?_eq_getElem inCanonical, ?_⟩
      rw [same, List.getElem?_eq_getElem inNames]
      simpa using matching
    · cases stands

theorem checkVelocities_eq_ok {velocities : List Float} :
    checkVelocities limit velocities = .ok () ↔
      ∀ velocity ∈ velocities, velocity.isFinite = true ∧ ¬ limit < velocity.abs := by
  induction velocities with
  | nil => simp [checkVelocities]
  | cons velocity rest ih =>
    rw [checkVelocities, List.forall_mem_cons, ← ih]
    split
    · simp_all
    · split <;> simp_all

theorem mem_reorder {values : Joints Float} {value : Float}
    (member : value ∈ (reorder order values).toList) : value ∈ values.toList := by
  obtain ⟨place, -, rfl⟩ := Vector.mem_map.mp (Vector.mem_toList_iff.mp member)
  exact Vector.mem_toList_iff.mpr (by simp [Vector.get])

theorem get_reorder (values : Joints Float) (joint : Fin jointCount) :
    (reorder order values).get joint = values.get (order.get joint) :=
  Vector.getElem_map ..

theorem checkPoint_ok (passed : checkPoint limit order previous point = .ok waypoint) :
    Arranged order point waypoint ∧ IsFinite waypoint ∧
      (∀ velocity ∈ waypoint.velocities.toList, ¬ limit < velocity.abs) ∧
      previous ≤ waypoint.time := by
  unfold checkPoint at passed
  split at passed
  · cases passed
  rename_i velocities readVelocities
  split at passed
  · cases passed
  rename_i positions readPositions
  obtain ⟨_, slow, passed⟩ := exists_of_bind passed
  by_cases infinite : point.positions.any (!·.isFinite) = true
  · rw [if_pos infinite] at passed
    cases passed
  rw [if_neg infinite] at passed
  by_cases early : point.time < previous
  · rw [if_pos early] at passed
    cases passed
  rw [if_neg early] at passed
  cases passed
  have numbers := checkVelocities_eq_ok.mp slow
  have finite : ∀ position ∈ point.positions, position.isFinite = true := by
    simpa using infinite
  have ofPoint : ∀ velocity ∈ (reorder order velocities).toList, velocity ∈ point.velocities := by
    intro velocity member
    rw [← toList_of_ofList? readVelocities]
    exact mem_reorder member
  refine ⟨⟨?_, ?_, rfl⟩, ⟨?_, ?_⟩, ?_, Nat.le_of_not_lt early⟩
  · intro joint
    rw [get_of_ofList? readPositions, get_reorder]
  · intro joint
    rw [get_of_ofList? readVelocities, get_reorder]
  · intro position member
    refine finite position ?_
    rw [← toList_of_ofList? readPositions]
    exact mem_reorder member
  · exact fun velocity member => (numbers velocity (ofPoint velocity member)).1
  · exact fun velocity member => (numbers velocity (ofPoint velocity member)).2

/-- Points that pass are arranged one by one, and their times do not decrease from the time given in
front. -/
theorem checkPoints_ok {asked : List GoalPoint}
    (passed : checkPoints limit order previous asked = .ok points) :
    List.Forall₂ (Arranged order) asked points ∧ (∀ point ∈ points, IsFinite point) ∧
      (∀ point ∈ points, ∀ velocity ∈ point.velocities.toList, ¬ limit < velocity.abs) ∧
      (∀ point ∈ points, previous ≤ point.time) ∧ points.Pairwise (·.time ≤ ·.time) := by
  induction asked generalizing previous points with
  | nil =>
    cases passed
    simp
  | cons point rest ih =>
    obtain ⟨waypoint, first, passed⟩ := exists_of_bind passed
    obtain ⟨waypoints, others, passed⟩ := exists_of_bind passed
    cases passed
    obtain ⟨arranged, finite, slow, inTime⟩ := checkPoint_ok first
    obtain ⟨allArranged, allFinite, allSlow, later, times⟩ := ih others
    rw [← arranged.time] at later
    refine ⟨.cons arranged allArranged, List.forall_mem_cons.mpr ⟨finite, allFinite⟩,
      List.forall_mem_cons.mpr ⟨slow, allSlow⟩, List.forall_mem_cons.mpr ⟨inTime, ?_⟩,
      List.pairwise_cons.mpr ⟨later, times⟩⟩
    intro point member
    exact Nat.le_trans inTime (later point member)

/-- A goal that passes is checked. -/
theorem checked_of_waypoints (passed : waypoints config goal = .ok points) :
    Checked config goal points := by
  unfold waypoints at passed
  split at passed
  · cases passed
  rename_i order found
  split at passed
  · cases passed
  rename_i asked
  cases checks : checkPoints config.maxVelocity order .zero goal.points with
  | error fault => rw [checks] at passed; cases passed
  | ok checked =>
    rw [checks] at passed
    cases passed
    obtain ⟨distinct, isOrder⟩ := isOrder_of_jointOrder found
    obtain ⟨arranged, finite, slow, -, times⟩ := checkPoints_ok checks
    refine ⟨distinct, ⟨order, isOrder, arranged⟩, ?_, finite, slow, times⟩
    rintro rfl
    exact asked (by rw [List.forall₂_nil_right_iff.mp arranged]; rfl)

theorem waypoints_of_validate {isAlive : Bool} {state : Option Telemetry.RobotState}
    (passed : validate config isAlive state goal = .ok points) :
    waypoints config goal = .ok points :=
  (exists_of_bind passed).choose_spec.2

/-! ### In front of the points -/

/-- A place in front of the points of a goal. -/
def startPoint (feedback : JointFeedback) : Waypoint Float where
  positions := feedback.positions
  velocities := feedback.velocities
  time := .zero

/-- Points as they are executed: those of a goal, with one in front if they begin later than at time
zero. -/
inductive Begun (joints : Option JointFeedback) (points : List (Waypoint Float)) :
    List (Waypoint Float) → Prop where
  | asked (atOnce : ∀ first ∈ points.head?, first.time = .zero) : Begun joints points points
  | inFront {feedback : JointFeedback} (known : joints = some feedback)
      (later : ∀ first ∈ points.head?, .zero < first.time) :
      Begun joints points (startPoint feedback :: points)

theorem begun_of_withStartPoint {joints : Option JointFeedback} {executed : List (Waypoint Float)}
    (begun : withStartPoint joints points = some executed) : Begun joints points executed := by
  cases points with
  | nil =>
    cases begun
    exact .asked (by simp)
  | cons first rest =>
    simp only [withStartPoint] at begun
    split at begun
    · obtain ⟨feedback, known, rfl⟩ := Option.map_eq_some_iff.mp begun
      exact .inFront known (by simpa)
    · rename_i notLater
      cases begun
      refine .asked ?_
      rintro _ ⟨⟩
      exact congrArg Duration.mk (Nat.eq_zero_of_not_pos notLater)

namespace Begun

variable {joints : Option JointFeedback} {executed : List (Waypoint Float)}

theorem starts (begun : Begun joints points executed) (nonempty : points ≠ []) :
    ∃ first rest, executed = first :: rest ∧ first.time = .zero := by
  cases begun with
  | asked atOnce =>
    cases points with
    | nil => exact absurd rfl nonempty
    | cons first rest => exact ⟨first, rest, rfl, atOnce first rfl⟩
  | inFront => exact ⟨_, _, rfl, rfl⟩

theorem times (begun : Begun joints points executed)
    (ordered : points.Pairwise (·.time ≤ ·.time)) : executed.Pairwise (·.time ≤ ·.time) := by
  cases begun with
  | asked => exact ordered
  | inFront => exact List.pairwise_cons.mpr ⟨fun point _ => Nat.zero_le _, ordered⟩

theorem ends (begun : Begun joints points executed) (nonempty : points ≠ []) :
    executed.getLast? = points.getLast? := by
  cases begun with
  | asked => rfl
  | inFront => rw [List.getLast?_cons, List.getLast?_eq_some_getLast nonempty]; rfl

/-- Only the place in front was not checked. -/
theorem finite (begun : Begun joints points executed) (checked : ∀ point ∈ points, IsFinite point) :
    ∀ point ∈ executed, IsFinite point ∨ ∃ feedback, joints = some feedback ∧
      point = startPoint feedback := by
  intro point member
  cases begun with
  | asked => exact .inl (checked point member)
  | inFront known later =>
    rcases List.mem_cons.mp member with rfl | member
    · exact .inr ⟨_, known, rfl⟩
    · exact .inl (checked point member)

end Begun

end ArmLink.Goal
