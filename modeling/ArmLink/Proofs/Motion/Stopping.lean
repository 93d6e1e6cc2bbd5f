import ArmLink.Proofs.Decimal.Seconds
import ArmLink.Proofs.Follower.Records
import ArmLink.Proofs.Motion.Planning

/-!
Timed motion with doubles: refused as a whole, or at rest at each point.

A trajectory that cannot be planned never gets to the control program: all that a follower keeps of it is
where it begins (`follow_of_unplanned`).  One that has been planned is sampled at a point as the beginning
of the segment behind the last point with the same time.  That segment lasts, and no time of it has
passed, so every joint is at rest, and where the point says, unless its speed does not count
(`Trapezoid.sample_zero`).
-/

namespace ArmLink

open Motion

/-- A refused trajectory leaves a follower as it was, but for the position to be kept when it is told to
stop. -/
theorem Follower.follow_of_unplanned {α σ : Type} [Scalar α] [Peer σ] {follower : Follower α σ}
    {line : Line α σ} {points : List (Waypoint α)} {fault : PlanFault}
    (connected : follower.line = some line)
    (refused : TimedProfile.plan points follower.config.maxVelocity follower.config.maxAcceleration =
      .error fault) :
    follower.follow .timed points = some (.ok (.error (.plan fault)),
      { follower with line := some { line with
          lastPositions := (points.head?.map (·.positions)).or line.lastPositions } }) := by
  have unmade : Profile.make .timed points follower.config.maxVelocity
      follower.config.maxAcceleration = .error fault := by
    rw [Profile.make, refused]
    rfl
  rw [follow_of_error unmade]
  rcases points with _ | ⟨first, rest⟩
  · simp only [rememberStart, List.head?_nil, Option.map_none, Option.none_or, ← connected]
  · simp only [rememberStart, remember, connected, List.head?_cons, Option.map_some, Option.some_or]

namespace Motion

/-- At the beginning of a segment that lasts, a joint is at rest. -/
theorem Trapezoid.sample_zero {length : Float} (lasts : Scalar.zero < length)
    (trapezoid : Trapezoid Float) (startPosition endPosition : Float) :
    trapezoid.sample startPosition endPosition Scalar.zero length =
      (if trapezoid.velocity.abs < Scalar.epsilon then endPosition else startPosition,
        Scalar.zero) := by
  have running : Scalar.le length Scalar.zero = false :=
    decide_eq_false fun past => Decimal.Reading.not_lt_of_le past lasts
  have notBegun : Scalar.le (Scalar.zero : Float) Scalar.zero = true := by decide
  have counted : Scalar.lt (Scalar.abs trapezoid.velocity) Scalar.epsilon =
      decide (trapezoid.velocity.abs < Scalar.epsilon) := rfl
  simp only [sample, running, notBegun, counted, Bool.or_false, decide_eq_true_eq, if_true]
  split_ifs <;> rfl

namespace TimedProfile

variable {points : List (Waypoint Float)} {maxVelocity maxAcceleration : Float}
  {profile : TimedProfile Float} {time : Duration} {index : Nat} {start stop : Waypoint Float}
  {trapezoids : Joints (Trapezoid Float)}

theorem sample_of_lastAt (ordered : InOrder profile.points)
    (last : LastAt profile.points time index start)
    (next : profile.points[index + 1]? = some stop)
    (planned : profile.segments[index]? = some trapezoids) :
    profile.sample time =
      ⟨Vector.ofFn fun joint =>
          if (trapezoids.get joint).velocity.abs < Scalar.epsilon then stop.positions.get joint
          else start.positions.get joint,
        Joints.same Scalar.zero⟩ := by
  have falls := last.fallsInto next
  have lasts : (Scalar.zero : Float) < lengthOf start stop :=
    Duration.zero_lt_toScalar (Nat.sub_pos_of_lt falls.lasts)
  have none : elapsedSince start time = (Scalar.zero : Float) := by
    rw [elapsedSince, last.time_eq, Duration.monus, Nat.sub_self]
    exact Duration.toScalar_zero
  rw [profile.sample_of_fallsInto ordered falls planned]
  simp only [none, Trapezoid.sample_zero lasts]
  rfl

/-- Sampling of timed motion: at rest at the time of each point, before the first one and after the last
one. -/
structure Stopping (profile : TimedProfile Float) : Prop where
  before : ∀ time < (profile.points.head profile.points_ne_nil).time,
    profile.sample time = (profile.points.head profile.points_ne_nil).stopped
  after : ∀ time, (profile.points.getLast profile.points_ne_nil).time ≤ time →
    profile.sample time = (profile.points.getLast profile.points_ne_nil).stopped
  still : ∀ point ∈ profile.points, (profile.sample point.time).velocities = Joints.same Scalar.zero
  there : ∀ point ∈ profile.points, ∃ index last, LastAt profile.points point.time index last ∧
    ∀ trapezoids, profile.segments[index]? = some trapezoids → ∀ joint,
      Scalar.epsilon ≤ (trapezoids.get joint).velocity.abs →
        (profile.sample point.time).positions.get joint = last.positions.get joint

theorem stopping_of_planned (ordered : InOrder profile.points)
    (planned : Planned maxVelocity maxAcceleration profile.points profile.segments) :
    Stopping profile := by
  have after (time : Duration)
      (late : (profile.points.getLast profile.points_ne_nil).time ≤ time) :=
    profile.sample_of_after ordered late
  refine ⟨fun time => profile.sample_of_before ordered, after, ?_, ?_⟩
  · intro point isPoint
    obtain ⟨index, start, last⟩ := exists_lastAt ordered isPoint
    cases next : profile.points[index + 1]? with
    | some stop =>
      obtain ⟨trapezoids, isPlanned, -⟩ := planned.planned index start stop last.last_eq next
      rw [profile.sample_of_lastAt ordered last next isPlanned]
    | none =>
      -- Nothing follows, so the last point with this time is the last one of all.
      have final := (last_of_points profile.points_ne_nil).1
      obtain ⟨inside, -⟩ := List.getElem?_eq_some_iff.mp last.last_eq
      have behind := List.getElem?_eq_none_iff.mp next
      have ends : index = profile.points.length - 1 := by omega
      rw [← ends, last.last_eq] at final
      cases final
      rw [after point.time (Nat.le_of_eq (congrArg Duration.nanos last.time_eq))]
      rfl
  · intro point isPoint
    obtain ⟨index, start, last⟩ := exists_lastAt ordered isPoint
    refine ⟨index, start, last, fun trapezoids isPlanned joint counts => ?_⟩
    obtain ⟨inside, -⟩ := List.getElem?_eq_some_iff.mp isPlanned
    rw [planned.length_eq] at inside
    have next : profile.points[index + 1]? = some profile.points[index + 1] :=
      List.getElem?_eq_getElem _
    rw [profile.sample_of_lastAt ordered last next isPlanned, Vector.get_ofFn,
      if_neg (Decimal.Reading.not_lt_of_le counts)]

end TimedProfile

/-- Timed motion is planned as a whole or refused as a whole.  What is refused does not get to a
connected control program; what is planned stops at each point. -/
theorem stopping_of_plan (points : List (Waypoint Float)) (maxVelocity maxAcceleration : Float) :
    TimedProfile.AllOrNothing points maxVelocity maxAcceleration ∧
      (∀ {σ : Type} [Follower.Peer σ] (follower : Follower Float σ) (line : Follower.Line Float σ)
        (fault : PlanFault), follower.line = some line →
          TimedProfile.plan points follower.config.maxVelocity follower.config.maxAcceleration =
            .error fault →
          follower.follow .timed points = some (.ok (.error (.plan fault)),
            { follower with line := some { line with
                lastPositions := (points.head?.map (·.positions)).or line.lastPositions } })) ∧
      ∀ profile, TimedProfile.plan points maxVelocity maxAcceleration = .ok profile →
        InOrder points → TimedProfile.Stopping profile := by
  have whole := TimedProfile.allOrNothing points maxVelocity maxAcceleration
  refine ⟨whole, fun follower line fault => Follower.follow_of_unplanned, ?_⟩
  intro profile made ordered
  obtain ⟨rfl, planned⟩ := whole.planned profile made
  exact TimedProfile.stopping_of_planned ordered planned

/-- After a second of rest, one joint is lifted in three seconds. -/
def lift (height : Float) : List (Waypoint Float) :=
  [⟨Joints.same 0, Joints.same 0, .zero⟩, ⟨Joints.same 0, Joints.same 0, .ofMillis 1000⟩,
    ⟨#v[0, 0, height, 0, 0, 0], Joints.same 0, .ofMillis 4000⟩]

/-- A follower with a control program that reads whatever it gets. -/
def crane : Follower Float Follower.ControlProgram :=
  { config := .default, line := some { peer := { behavior := .silent } }, status := .connected,
    connections := 1 }

/-- A height of four can be reached, one of forty cannot. -/
theorem stopping_of_plan_lift :
    (InOrder (lift 4) ∧
        ∃ profile, TimedProfile.plan (lift 4) 10.0 15.0 = .ok profile ∧ profile.Stopping) ∧
      TimedProfile.plan (lift 40) 10.0 15.0 = .error (.infeasible 1 2) ∧
      crane.follow .timed (lift 40) = some (.ok (.error (.plan (.infeasible 1 2))),
        { crane with line := some ⟨{ behavior := .silent }, some (Joints.same 0)⟩ }) := by
  have ordered : InOrder (lift 4) := by
    simp [InOrder, lift]
    decide
  have reached : (match TimedProfile.plan (lift 4) 10.0 15.0 with
    | .ok _ => true
    | .error _ => false) = true := by decide +kernel
  have missed : (match TimedProfile.plan (lift 40) 10.0 15.0 with
    | .ok _ => false
    | .error fault => fault == .infeasible 1 2) = true := by decide +kernel
  have refused : TimedProfile.plan (lift 40) 10.0 15.0 = .error (.infeasible 1 2) := by
    split at missed
    case h_1 => cases missed
    case h_2 fault failed => rw [failed, eq_of_beq missed]
  refine ⟨⟨ordered, ?_⟩, refused, (stopping_of_plan (lift 40) 10.0 15.0).2.1 crane _ _ rfl refused⟩
  split at reached
  case h_1 profile made =>
    exact ⟨profile, made, (stopping_of_plan (lift 4) 10.0 15.0).2.2 profile made ordered⟩
  case h_2 => cases reached

end Motion

end ArmLink
