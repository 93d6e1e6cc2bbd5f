import ArmLink.Proofs.Coordinator.Grounds
import ArmLink.Proofs.Goal.Loading
import ArmLink.Proofs.Goal.Validity
import ArmLink.Proofs.Settings.Using

/-!
Files without joint names, in a driver whose settings were accepted.

Such a file takes its names from the settings, and so does the coordinator.  Accepted names are
distinct, and a prefix keeps them so; looked up in themselves, each of them stands at its own place
(`IsOrder.get_eq`).  So the coordinator never finds fault with the names, and it leaves the joints
in the order of the file (`straight_of_waypoints`).

That this is so of whole runs comes from two facts about them: a rejection has its grounds in the
check of a goal that was submitted under the same number, and what the executor is given was made of
such a goal.  The main statement is `serves_of_validate`.
-/

namespace ArmLink

/-! ### Names that are looked up in themselves -/

namespace Goal

open Coordinator (readyContext)
open Motion

/-- A point as it is executed, with the joints where the goal has them. -/
structure Straight (asked : GoalPoint) (given : Waypoint Float) : Prop where
  positions : given.positions.toList = asked.positions
  velocities : given.velocities.toList = asked.velocities
  time : given.time = asked.time

variable {config : Coordinator.Config} {goal : Goal} {names : List String}
  {order : Joints (Fin jointCount)}

theorem IsOrder.get_eq (isOrder : IsOrder names names order) (count : names.length = jointCount)
    (distinct : names.Nodup) (joint : Fin jointCount) : order.get joint = joint := by
  obtain ⟨name, here, there⟩ := isOrder joint
  have inside : joint.val < names.length := by omega
  exact Fin.ext ((List.getElem?_inj inside distinct).mp (here.trans there.symm)).symm

/-- Distinct names are in order. -/
theorem exists_jointOrder_self (count : names.length = jointCount) (distinct : names.Nodup) :
    ∃ order, jointOrder names names = some order ∧ ∀ joint, order.get joint = joint := by
  obtain ⟨order, found⟩ := (exists_jointOrder_iff count distinct).mpr (.refl names)
  exact ⟨order, found, (isOrder_of_jointOrder found).2.get_eq count distinct⟩

theorem toList_eq_of_get {joints : Joints Float} {values : List Float}
    (count : values.length = jointCount)
    (same : ∀ joint : Fin jointCount, values[joint.val]? = some (joints.get joint)) :
    joints.toList = values := by
  apply List.ext_getElem
  · rw [Vector.length_toList, count]
  · intro place inside insideToo
    have bounded : place < jointCount := by rwa [← count]
    have same := same ⟨place, bounded⟩
    rw [List.getElem?_eq_getElem insideToo] at same
    rw [Vector.getElem_toList]
    exact (Option.some.inj same).symm

/-- A goal that names the joints as the coordinator does keeps them in place. -/
theorem straight_of_waypoints {points : List (Waypoint Float)} (valid : config.validate = .ok ())
    (named : goal.jointNames = config.jointNames) (passed : waypoints config goal = .ok points) :
    List.Forall₂ Straight goal.points points := by
  obtain ⟨count, distinct, -⟩ := bounds_of_validate valid
  obtain ⟨order, isOrder, arranged⟩ := (checked_of_waypoints passed).arranged
  rw [named] at isOrder
  have inPlace := isOrder.get_eq count distinct
  have ready : IsReady readyContext := ⟨rfl, rfl⟩
  obtain ⟨-, -, fits⟩ := accepted_of_validate valid ((validate_of_ready ready).trans passed)
  rw [List.forall₂_iff_get] at arranged ⊢
  obtain ⟨length, each⟩ := arranged
  refine ⟨length, ?_⟩
  intro index inside insideToo
  have complete := fits.complete _ (List.get_mem goal.points ⟨index, inside⟩)
  obtain ⟨positions, velocities, time⟩ := each index inside insideToo
  constructor
  · apply toList_eq_of_get complete.positionCount
    intro joint
    rw [← positions joint, inPlace]
  · apply toList_eq_of_get complete.velocityCount
    intro joint
    rw [← velocities joint, inPlace]
  · exact time

/-- Where the names are in order, something else is wrong with a goal that is refused. -/
theorem code_ne_invalidJoints {isAlive : Bool} {state : Option Telemetry.RobotState}
    {rejection : Rejection} (found : jointOrder config.jointNames goal.jointNames = some order)
    (refused : validate config isAlive state goal = .error rejection) :
    rejection.code ≠ .invalidJoints := by
  unfold validate at refused
  cases ready : checkReady isAlive state with
  | error reason =>
    rw [ready] at refused
    cases refused
    simp [Rejection.code]
  | ok _ =>
    rw [ready] at refused
    have refused : waypoints config goal = .error rejection := refused
    rw [waypoints_of_order found] at refused
    split at refused
    · cases refused
      simp [Rejection.code]
    · cases checks : checkPoints config.maxVelocity order .zero goal.points with
      | error fault =>
        rw [checks] at refused
        cases refused
        simp [Rejection.code]
      | ok points =>
        rw [checks] at refused
        cases refused

end Goal

/-- Whether the executor was given the points of a goal. -/
def Coordinator.streams (coordinator : ArmLink.Coordinator) (id : Goal.Id) : Bool :=
  coordinator.memory.calls.any fun call =>
    match call with
    | .stream goal _ _ => goal == id
    | _ => false

theorem Coordinator.exists_stream_of {coordinator : ArmLink.Coordinator} {id : Goal.Id}
    (streams : coordinator.streams id = true) :
    ∃ mode points, .stream id mode points ∈ coordinator.memory.calls := by
  obtain ⟨call, member, found⟩ := List.any_eq_true.mp streams
  cases call with
  | stream goal mode points => exact ⟨mode, points, eq_of_beq found ▸ member⟩
  | _ => cases found

/-! ### What a driver does with a file -/

namespace Settings

open Coordinator (Move Observed Submitted eq_of_start exists_stream_of grounds_of_told play
  readyContext start traced_of_play untilStream)
open Decimal.Reading (exact)
open Duration (Convertible nanosPerSecond secondsLimit)
open Goal (Straight exists_jointOrder_self jointOrder startPoint)
open TrajectoryFile (FirstFault)

/-- A run of a coordinator with these settings, in which a goal is submitted under a number. -/
structure IsRun (settings : Settings) (goal : Goal) (id : Goal.Id) (first : ArmLink.Coordinator)
    (moves : List Move) (coordinator : ArmLink.Coordinator) : Prop where
  started : ∃ config context, settings.coordinator = .ok config ∧ start config context = .ok first
  played : first.play moves = some coordinator
  submitted : Submitted first moves id goal

/-- What becomes of a file that names no joints. -/
structure Serves (settings : Settings) (file : TrajectoryFile) : Prop where
  converts : (∃ goal, file.toGoal settings.resolvedJointNames = .ok goal) ↔
    ∀ point ∈ file.points, Convertible point.time
  /-- The first time that is no span is the one that is told of. -/
  fault : ∀ fault, file.toGoal settings.resolvedJointNames = .error fault →
    ∃ before point after, FirstFault file.points fault before point after ∧
      fault.summary = s!"第 {before.length} 个点的 time_from_start 无效"
  points : ∀ goal, file.toGoal settings.resolvedJointNames = .ok goal →
    List.Forall₂ FilePoint.Gives file.points goal.points
  /-- Whether there is a coordinator is a matter of its times, not of the names. -/
  starts : ∀ context, (∃ config first, settings.coordinator = .ok config ∧
      start config context = .ok first) ↔
    (1 / 2 < exact settings.monitorInterval * nanosPerSecond ∧
      exact settings.monitorInterval < secondsLimit) ∧ exact settings.settleDelay < secondsLimit
  order : ∀ goal config, file.toGoal settings.resolvedJointNames = .ok goal →
    settings.coordinator = .ok config → ∃ order,
      jointOrder config.jointNames goal.jointNames = some order ∧ ∀ joint, order.get joint = joint
  rejected : ∀ goal id first moves coordinator,
    file.toGoal settings.resolvedJointNames = .ok goal →
      settings.IsRun goal id first moves coordinator →
        ∀ rejection, .finished (.rejected rejection) ∈ (coordinator.memory.progress id).sent →
          rejection.code ≠ .invalidJoints
  /-- The executor is given the points with the joints as in the file, behind the place where the
  arm stands if that is needed. -/
  executed : ∀ goal id first moves coordinator,
    file.toGoal settings.resolvedJointNames = .ok goal →
      settings.IsRun goal id first moves coordinator →
        ∀ mode points, .stream id mode points ∈ coordinator.memory.calls →
          ∃ asked, List.Forall₂ Straight goal.points asked ∧
            (points = asked ∨ ∃ feedback, Observed first moves feedback ∧
              points = startPoint feedback :: asked)

variable {settings : Settings} {file : TrajectoryFile} {goal : Goal} {config : Coordinator.Config}
  {context : Link.Context Unit} {first coordinator : ArmLink.Coordinator} {id : Goal.Id}
  {moves : List Move}

theorem jointNames_of_coordinator (built : settings.coordinator = .ok config) :
    config.jointNames = settings.resolvedJointNames := by
  simp only [Settings.coordinator, bind_eq_ok] at built
  obtain ⟨_, _, _, _, made⟩ := built
  cases made
  rfl

theorem validate_of_start (started : start config context = .ok first) :
    config.validate = .ok () := by
  unfold start at started
  cases valid : config.validate with
  | error fault =>
    rw [valid] at started
    cases started
  | ok _ => rfl

/-- Accepted settings start a coordinator, if its times are in range. -/
theorem exists_start_iff (checked : settings.Checked) :
    (∃ config first, settings.coordinator = .ok config ∧ start config context = .ok first) ↔
      (1 / 2 < exact settings.monitorInterval * nanosPerSecond ∧
        exact settings.monitorInterval < secondsLimit) ∧
          exact settings.settleDelay < secondsLimit := by
  have interval : Scalar.isPositive settings.monitorInterval = true :=
    checked.waits (by simp [waits])
  have delay : Scalar.isNonNegative settings.settleDelay = true :=
    checked.pauses (by simp [pauses])
  rw [← Duration.exists_wait_iff interval, ← Duration.exists_pause_iff delay,
    ← coordinator_iff checked]
  constructor
  · rintro ⟨config, first, built, started⟩
    have valid := validate_of_start started
    refine ⟨config, built, Nat.pos_of_ne_zero ?_, valid⟩
    intro none
    have none : config.monitorInterval = Duration.zero := congrArg Duration.mk none
    simp only [Coordinator.Config.validate, none] at valid
    split_ifs at valid
  · rintro ⟨config, built, -, valid⟩
    exact ⟨config, { memory := { config, context } }, built, by rw [start, valid]; rfl⟩

/-! ### Runs -/

theorem config_of_start (started : start config context = .ok first) :
    first.memory.config = config := by
  rw [eq_of_start started]

/-- Whoever submits a goal with the names of the settings is not told that the names are wrong. -/
theorem IsRun.code_ne_invalidJoints (run : settings.IsRun goal id first moves coordinator)
    (checked : settings.Checked) (named : goal.jointNames = settings.resolvedJointNames)
    {rejection : Goal.Rejection}
    (told : .finished (.rejected rejection) ∈ (coordinator.memory.progress id).sent) :
    rejection.code ≠ .invalidJoints := by
  obtain ⟨⟨config, context, built, started⟩, played, submitted⟩ := run
  obtain ⟨other, isAlive, state, submittedToo, refused⟩ := grounds_of_told started played told
  cases submitted.unique submittedToo
  have refused : Goal.validate config isAlive state goal = .error rejection := by
    rw [← config_of_start started]
    exact refused
  obtain ⟨order, found, -⟩ := exists_jointOrder_self checked.resolved.1 checked.resolved.2
  have found : jointOrder config.jointNames goal.jointNames = some order := by
    rw [jointNames_of_coordinator built, named]
    exact found
  exact Goal.code_ne_invalidJoints found refused

/-- The executor is given the points of such a goal with the joints in place. -/
theorem IsRun.straight (run : settings.IsRun goal id first moves coordinator)
    (named : goal.jointNames = settings.resolvedJointNames) {mode : Motion.Mode}
    {points : List (Motion.Waypoint Float)}
    (given : .stream id mode points ∈ coordinator.memory.calls) :
    ∃ asked, List.Forall₂ Straight goal.points asked ∧
      (points = asked ∨ ∃ feedback, Observed first moves feedback ∧
        points = startPoint feedback :: asked) := by
  obtain ⟨⟨config, context, built, started⟩, played, submitted⟩ := run
  have traced := traced_of_play started played []
  rw [List.append_nil] at traced
  obtain ⟨-, asked, joints, ⟨other, submittedToo, passed⟩, observed, inFront⟩ :=
    traced.calls id mode points given
  cases submitted.unique submittedToo
  have passed : Goal.waypoints config goal = .ok asked := by
    rw [← config_of_start started]
    exact passed
  have named : goal.jointNames = config.jointNames :=
    named.trans (jointNames_of_coordinator built).symm
  refine ⟨asked, Goal.straight_of_waypoints (validate_of_start started) named passed, ?_⟩
  cases Goal.begun_of_withStartPoint inFront with
  | asked => exact .inl rfl
  | inFront known => exact .inr ⟨_, observed _ known, rfl⟩

/-! ### Files -/

/-- Settings that are accepted serve every file without joint names. -/
theorem serves_of_validate (valid : settings.validate = .ok ()) (unnamed : file.jointNames = none) :
    settings.Serves file := by
  have checked := checked_of_validate valid
  have named : ∀ goal, file.toGoal settings.resolvedJointNames = .ok goal →
      goal.jointNames = settings.resolvedJointNames := by
    intro goal made
    rw [(TrajectoryFile.gives_of_toGoal made).1, unnamed]
    rfl
  constructor
  · exact TrajectoryFile.exists_toGoal_iff
  · intro fault failed
    obtain ⟨before, point, after, number, isFirst⟩ := TrajectoryFile.firstFault_of_toGoal failed
    refine ⟨before, point, after, isFirst, ?_⟩
    rw [TrajectoryFile.TimeFault.summary, number]
  · exact fun goal made => (TrajectoryFile.gives_of_toGoal made).2
  · exact fun context => exists_start_iff checked
  · intro goal config made built
    rw [named goal made, jointNames_of_coordinator built]
    exact exists_jointOrder_self checked.resolved.1 checked.resolved.2
  · intro goal id first moves coordinator made run rejection told
    exact run.code_ne_invalidJoints checked (named goal made) told
  · intro goal id first moves coordinator made run mode points given
    exact run.straight (named goal made) given

/-- Settings of an arm whose joints have a prefix. -/
def leftArm : Settings := { jointPrefix := "left_" }

/-- What a coordinator takes from them. -/
def leftConfig : Coordinator.Config where
  jointNames := leftArm.resolvedJointNames
  maxVelocity := leftArm.maxVelocity
  smooth := leftArm.smooth
  goalTolerance := leftArm.goalTolerance
  motionThreshold := leftArm.motionThreshold
  timeoutFactor := leftArm.timeoutFactor
  graceFactor := leftArm.graceFactor
  monitorInterval := ⟨1000000⟩
  settleDelay := ⟨250000000⟩

/-- A file with one pose and neither names nor velocities. -/
def pose : TrajectoryFile where
  jointNames := none
  points := [⟨[0.0, 0.1, 0.2, 0.3, 0.4, 0.5], none, 0.0⟩]

/-- The goal that it is for the left arm. -/
def leftPose : Goal where
  jointNames := leftArm.resolvedJointNames
  points := [⟨[0.0, 0.1, 0.2, 0.3, 0.4, 0.5], List.replicate 6 0.0, .zero⟩]

theorem coordinator_leftArm : leftArm.coordinator = .ok leftConfig := by
  have interval : Duration.ofSecondsOrZero leftArm.monitorInterval = .ok ⟨1000000⟩ := by
    decide +kernel
  have delay : Duration.ofSecondsOrZero leftArm.settleDelay = .ok ⟨250000000⟩ := by
    decide +kernel
  rw [Settings.coordinator, interval, delay]
  rfl

theorem toGoal_pose : pose.toGoal leftArm.resolvedJointNames = .ok leftPose := by
  have atOnce : Duration.ofSeconds 0.0 = .ok .zero := by decide +kernel
  simp only [pose, TrajectoryFile.toGoal, List.zipIdx_cons, List.zipIdx_nil, List.mapM_cons,
    List.mapM_nil, TrajectoryFile.goalPoint, atOnce]
  rfl

/-- The statement at that file, and a run in which the executor is given its pose. -/
theorem serves_leftArm : leftArm.validate = .ok () ∧ pose.jointNames = none ∧ leftArm.Serves pose ∧
    ∃ goal first moves coordinator mode points,
      pose.toGoal leftArm.resolvedJointNames = .ok goal ∧
      leftArm.IsRun goal 1 first moves coordinator ∧
      .stream 1 mode points ∈ coordinator.memory.calls := by
  let first : ArmLink.Coordinator := { memory := { config := leftConfig, context := readyContext } }
  have started : start leftConfig readyContext = .ok first := by
    have valid : leftConfig.validate = .ok () := rfl
    rw [start, valid]
    rfl
  have streams : (first.play (untilStream leftPose)).any (·.streams 1) = true := by decide +kernel
  obtain ⟨coordinator, played, streams⟩ := (Option.any_eq_true _ _).mp streams
  obtain ⟨mode, points, given⟩ := exists_stream_of streams
  refine ⟨rfl, rfl, serves_of_validate rfl rfl, leftPose, first, _, coordinator, mode, points,
    toGoal_pose, ⟨⟨leftConfig, readyContext, coordinator_leftArm, started⟩, played, ?_⟩, given⟩
  exact ⟨[], _, first, rfl, rfl, rfl⟩

end Settings

end ArmLink
