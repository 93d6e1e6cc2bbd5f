import ArmLink.Proofs.Motion.Locating
import Mathlib.Data.Prod.Lex
import Mathlib.Order.Bounds.Basic
import Mathlib.Order.Fin.Basic

/-!
Planning of timed motion.

The joints of a segment are planned one after the other, and the segments one after the other, until one
joint cannot be planned.  What has been planned up to there is given up, and the refusal names the
segment and the joint: among all pairs that cannot be planned the first one, counted by segments and then
by joints (`planSegments_cases`, by induction on the points).  `allOrNothing` says so of whole
trajectories.
-/

namespace ArmLink.Motion

/-- Made one by one, either all results are there, or there is the fault at the first place that has
one. -/
theorem ofFnM_cases {ε β : Type} {count : Nat} (make : Fin count → Except ε β) :
    (∃ results, Vector.ofFnM make = .ok results ∧ ∀ i, make i = .ok results[i]) ∨
      ∃ i fault, Vector.ofFnM make = .error fault ∧ make i = .error fault ∧
        ∀ j < i, ∃ result, make j = .ok result := by
  induction count with
  | zero => exact .inl ⟨_, Vector.ofFnM_zero, nofun⟩
  | succ count ih =>
    rw [Vector.ofFnM_succ]
    rcases ih fun i => make i.castSucc with
      ⟨results, made, each⟩ | ⟨i, fault, failed, here, before⟩
    · cases last : make (Fin.last count) with
      | ok result =>
        refine .inl ⟨results.push result, by rw [made]; rfl, fun i => ?_⟩
        cases i using Fin.lastCases with
        | last => simpa using last
        | cast i => simpa using each i
      | error fault =>
        refine .inr ⟨Fin.last count, fault, by rw [made]; rfl, last, fun j earlier => ?_⟩
        obtain ⟨j, rfl⟩ := Fin.exists_castSucc_eq.mpr (Fin.ne_of_lt earlier)
        exact ⟨_, each j⟩
    · refine .inr ⟨i.castSucc, fault, by rw [failed]; rfl, here, fun j earlier => ?_⟩
      obtain ⟨j, rfl⟩ := Fin.exists_castSucc_eq.mpr
        (Fin.ne_of_lt (Fin.lt_of_lt_of_le earlier (Fin.le_last _)))
      exact before j earlier

variable {α : Type} [Scalar α] {maxVelocity maxAcceleration : α} {points : List (Waypoint α)}
  {start stop : Waypoint α} {trapezoids : Joints (Trapezoid α)} {segment : Nat}
  {joint : Fin jointCount}

/-- The motion of a joint from one point to the next, if the limits allow it. -/
def planJoint (maxVelocity maxAcceleration : α) (start stop : Waypoint α) (joint : Fin jointCount) :
    Option (Trapezoid α) :=
  Trapezoid.plan (stop.positions.get joint - start.positions.get joint) (lengthOf start stop)
    maxVelocity maxAcceleration

/-- The motions of all joints over one segment. -/
def SegmentPlanned (maxVelocity maxAcceleration : α) (start stop : Waypoint α)
    (trapezoids : Joints (Trapezoid α)) : Prop :=
  ∀ joint, planJoint maxVelocity maxAcceleration start stop joint = some (trapezoids.get joint)

/-- The segments and joints that cannot be planned, in the order of the segments. -/
def infeasible (maxVelocity maxAcceleration : α) (points : List (Waypoint α)) :
    Set (ℕ ×ₗ Fin jointCount) :=
  {pair | ∃ start stop, points[(ofLex pair).1]? = some start ∧ points[(ofLex pair).1 + 1]? = some stop ∧
    planJoint maxVelocity maxAcceleration start stop (ofLex pair).2 = none}

/-- The motions of all joints from each point to the next. -/
structure Planned (maxVelocity maxAcceleration : α) (points : List (Waypoint α))
    (segments : List (Joints (Trapezoid α))) : Prop where
  length_eq : segments.length = points.length - 1
  planned : ∀ index start stop, points[index]? = some start → points[index + 1]? = some stop →
    ∃ trapezoids, segments[index]? = some trapezoids ∧
      SegmentPlanned maxVelocity maxAcceleration start stop trapezoids

theorem planned_of_short (short : points.length ≤ 1) :
    Planned maxVelocity maxAcceleration points [] where
  length_eq := by
    rw [List.length_nil]
    omega
  planned := by
    intro index start stop isStart isStop
    obtain ⟨inside, -⟩ := List.getElem?_eq_some_iff.mp isStop
    omega

theorem not_infeasible_nil (pair : ℕ ×ₗ Fin jointCount) :
    pair ∉ infeasible maxVelocity maxAcceleration [] := by
  rintro ⟨start, stop, isStart, -⟩
  cases isStart

/-! ### One segment in front of others -/

theorem Planned.cons {segments : List (Joints (Trapezoid α))}
    (each : SegmentPlanned maxVelocity maxAcceleration start stop trapezoids)
    (others : Planned maxVelocity maxAcceleration (stop :: points) segments) :
    Planned maxVelocity maxAcceleration (start :: stop :: points) (trapezoids :: segments) where
  length_eq := congrArg (· + 1) others.length_eq
  planned := by
    rintro (_ | index) start' stop' isStart isStop
    · cases isStart
      cases isStop
      exact ⟨trapezoids, rfl, each⟩
    · exact others.planned index start' stop' isStart isStop

theorem isLeast_infeasible_first
    (refused : planJoint maxVelocity maxAcceleration start stop joint = none)
    (before : ∀ other < joint, planJoint maxVelocity maxAcceleration start stop other ≠ none) :
    IsLeast (infeasible maxVelocity maxAcceleration (start :: stop :: points)) (toLex (0, joint)) := by
  refine ⟨⟨start, stop, rfl, rfl, refused⟩, ?_⟩
  rintro ⟨_ | other, otherJoint⟩ ⟨start', stop', isStart, isStop, refusedToo⟩
  · cases isStart
    cases isStop
    refine Prod.Lex.toLex_le_toLex.mpr (.inr ⟨rfl, ?_⟩)
    exact Fin.not_lt.mp fun earlier => before otherJoint earlier refusedToo
  · exact Prod.Lex.toLex_le_toLex.mpr (.inl (Nat.succ_pos other))

theorem isLeast_infeasible_cons
    (each : SegmentPlanned maxVelocity maxAcceleration start stop trapezoids)
    (first : IsLeast (infeasible maxVelocity maxAcceleration (stop :: points))
      (toLex (segment, joint))) :
    IsLeast (infeasible maxVelocity maxAcceleration (start :: stop :: points))
      (toLex (segment + 1, joint)) := by
  refine ⟨first.1, ?_⟩
  rintro ⟨_ | other, otherJoint⟩ ⟨start', stop', isStart, isStop, refused⟩
  · cases isStart
    cases isStop
    cases (each otherJoint).symm.trans refused
  · have remaining : toLex (other, otherJoint) ∈
        infeasible maxVelocity maxAcceleration (stop :: points) :=
      ⟨start', stop', isStart, isStop, refused⟩
    have order := Prod.Lex.toLex_le_toLex.mp (first.2 remaining)
    exact Prod.Lex.toLex_le_toLex.mpr (order.imp Nat.succ_lt_succ (And.imp_left (congrArg (· + 1))))

theorem not_infeasible_of_planned {segments : List (Joints (Trapezoid α))}
    (planned : Planned maxVelocity maxAcceleration points segments) (pair : ℕ ×ₗ Fin jointCount) :
    pair ∉ infeasible maxVelocity maxAcceleration points := by
  rintro ⟨start, stop, isStart, isStop, refused⟩
  obtain ⟨trapezoids, -, each⟩ := planned.planned _ start stop isStart isStop
  cases (each _).symm.trans refused

namespace TimedProfile

theorem planSegment_cases (maxVelocity maxAcceleration : α) (segment : Nat)
    (start stop : Waypoint α) :
    (∃ trapezoids, planSegment maxVelocity maxAcceleration segment start stop = .ok trapezoids ∧
        SegmentPlanned maxVelocity maxAcceleration start stop trapezoids) ∨
      ∃ joint : Fin jointCount, planSegment maxVelocity maxAcceleration segment start stop =
          .error (.infeasible segment joint) ∧
        planJoint maxVelocity maxAcceleration start stop joint = none ∧
        ∀ other < joint, planJoint maxVelocity maxAcceleration start stop other ≠ none := by
  let make (joint : Fin jointCount) : Except PlanFault (Trapezoid α) :=
    (planJoint maxVelocity maxAcceleration start stop joint).elim (.error (.infeasible segment joint))
      .ok
  have same : planSegment maxVelocity maxAcceleration segment start stop = Vector.ofFnM make := by
    refine congrArg Vector.ofFnM (funext fun joint => ?_)
    simp only [make, planJoint, lengthOf]
    split <;> simp only [*, Option.elim]
  have ok_iff (joint trapezoid) : make joint = .ok trapezoid ↔
      planJoint maxVelocity maxAcceleration start stop joint = some trapezoid := by
    cases planned : planJoint maxVelocity maxAcceleration start stop joint <;>
      simp [make, planned]
  have error_iff (joint fault) : make joint = .error fault ↔
      planJoint maxVelocity maxAcceleration start stop joint = none ∧
        fault = .infeasible segment joint := by
    cases planned : planJoint maxVelocity maxAcceleration start stop joint <;>
      simp [make, planned, eq_comm]
  rw [same]
  rcases ofFnM_cases make with ⟨trapezoids, made, each⟩ | ⟨joint, fault, failed, here, before⟩
  · exact .inl ⟨trapezoids, made, fun joint => (ok_iff _ _).mp (each joint)⟩
  · obtain ⟨refused, rfl⟩ := (error_iff _ _).mp here
    refine .inr ⟨joint, failed, refused, fun other earlier => ?_⟩
    obtain ⟨trapezoid, made⟩ := before other earlier
    rw [(ok_iff _ _).mp made]
    exact Option.some_ne_none _

theorem planSegments_cases (maxVelocity maxAcceleration : α) (first : Nat)
    (points : List (Waypoint α)) :
    (∃ segments, planSegments maxVelocity maxAcceleration first points = .ok segments ∧
        Planned maxVelocity maxAcceleration points segments) ∨
      ∃ segment, ∃ joint : Fin jointCount, planSegments maxVelocity maxAcceleration first points =
          .error (.infeasible (first + segment) joint) ∧
        IsLeast (infeasible maxVelocity maxAcceleration points) (toLex (segment, joint)) := by
  fun_induction planSegments maxVelocity maxAcceleration first points with
  | case1 first start stop rest ih =>
    rcases planSegment_cases maxVelocity maxAcceleration first start stop with
      ⟨trapezoids, made, each⟩ | ⟨joint, failed, refused, before⟩
    · rw [made]
      rcases ih with ⟨segments, others, planned⟩ | ⟨segment, joint, failed, least⟩
      · exact .inl ⟨trapezoids :: segments, by rw [others]; rfl, planned.cons each⟩
      · refine .inr ⟨segment + 1, joint, ?_, isLeast_infeasible_cons each least⟩
        rw [failed, Nat.add_right_comm]
        rfl
    · exact .inr ⟨0, joint, by rw [failed]; rfl, isLeast_infeasible_first refused before⟩
  | case2 points first short =>
    have short : points.length ≤ 1 := by
      rcases points with _ | ⟨point, _ | ⟨next, rest⟩⟩
      · exact Nat.zero_le _
      · exact Nat.le_refl _
      · exact (short _ _ _ rfl).elim
    exact .inl ⟨[], rfl, planned_of_short short⟩

theorem plan_cases (points : List (Waypoint α)) (maxVelocity maxAcceleration : α) :
    points = [] ∧ plan points maxVelocity maxAcceleration = .error .emptyTrajectory ∨
      (∃ segment, ∃ joint : Fin jointCount,
        plan points maxVelocity maxAcceleration = .error (.infeasible segment joint) ∧
          IsLeast (infeasible maxVelocity maxAcceleration points) (toLex (segment, joint))) ∨
      ∃ profile, plan points maxVelocity maxAcceleration = .ok profile ∧ profile.points = points ∧
        Planned maxVelocity maxAcceleration points profile.segments := by
  by_cases empty : points = []
  · exact .inl ⟨empty, by rw [plan, dif_pos empty]⟩
  · rw [plan, dif_neg empty]
    rcases planSegments_cases maxVelocity maxAcceleration 0 points with
      ⟨segments, made, planned⟩ | ⟨segment, joint, failed, least⟩
    · rw [made]
      exact .inr (.inr ⟨⟨points, empty, segments⟩, rfl, rfl, planned⟩)
    · rw [failed, Nat.zero_add]
      exact .inr (.inl ⟨segment, joint, rfl, least⟩)

/-- A trajectory is planned as a whole or not at all. -/
structure AllOrNothing (points : List (Waypoint α)) (maxVelocity maxAcceleration : α) : Prop where
  fails_iff : (∃ fault, plan points maxVelocity maxAcceleration = .error fault) ↔
    points = [] ∨ (infeasible maxVelocity maxAcceleration points).Nonempty
  empty_iff : plan points maxVelocity maxAcceleration = .error .emptyTrajectory ↔ points = []
  infeasible_iff : ∀ segment joint,
    plan points maxVelocity maxAcceleration = .error (.infeasible segment joint) ↔
      ∃ first : Fin jointCount, first.val = joint ∧
        IsLeast (infeasible maxVelocity maxAcceleration points) (toLex (segment, first))
  planned : ∀ profile, plan points maxVelocity maxAcceleration = .ok profile →
    profile.points = points ∧ Planned maxVelocity maxAcceleration points profile.segments

theorem allOrNothing (points : List (Waypoint α)) (maxVelocity maxAcceleration : α) :
    AllOrNothing points maxVelocity maxAcceleration := by
  rcases plan_cases points maxVelocity maxAcceleration with
    ⟨rfl, refused⟩ | ⟨segment, joint, refused, least⟩ | ⟨profile, made, rfl, planned⟩
  · refine ⟨?_, ?_, ?_, ?_⟩ <;> rw [refused]
    · exact iff_of_true ⟨_, rfl⟩ (.inl rfl)
    · exact iff_of_true rfl rfl
    · intro segment joint
      refine iff_of_false nofun ?_
      rintro ⟨first, -, least⟩
      exact not_infeasible_nil _ least.1
    · nofun
  · refine ⟨?_, ?_, ?_, ?_⟩ <;> rw [refused]
    · exact iff_of_true ⟨_, rfl⟩ (.inr ⟨_, least.1⟩)
    · refine iff_of_false nofun ?_
      rintro rfl
      exact not_infeasible_nil _ least.1
    · intro otherSegment otherJoint
      constructor
      · intro same
        cases same
        exact ⟨joint, rfl, least⟩
      · rintro ⟨first, rfl, leastToo⟩
        cases least.unique leastToo
        rfl
    · nofun
  · have none := not_infeasible_of_planned planned
    refine ⟨?_, ?_, ?_, ?_⟩ <;> rw [made]
    · refine iff_of_false nofun ?_
      rintro (empty | ⟨pair, infeasible⟩)
      · exact profile.points_ne_nil empty
      · exact none pair infeasible
    · exact iff_of_false nofun profile.points_ne_nil
    · intro segment joint
      refine iff_of_false nofun ?_
      rintro ⟨first, -, least⟩
      exact none _ least.1
    · intro other same
      cases same
      exact ⟨rfl, planned⟩

end TimedProfile

end ArmLink.Motion
