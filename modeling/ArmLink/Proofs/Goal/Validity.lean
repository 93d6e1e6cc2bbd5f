import ArmLink.Proofs.Coordinator.Turns
import ArmLink.Proofs.Decimal.Doubles
import ArmLink.Proofs.Goal.Checking
import Mathlib.Data.List.FinRange
import Mathlib.Data.List.OfFn

/-!
Which goals pass the checks, and that the order in which a client counts the joints is of no
consequence.

A goal passes if the arm is ready, its joints are those of the arm in some order, and its points
are complete and do not go back in time.  Of these the first that fails gives the code of the
rejection.  Each check is first shown to let through what it should (`exists_jointOrder_iff`,
`exists_checkPoint_iff`, `exists_checkPoints_iff`), then the three are put together
(`verdict_of_unready` to `verdict_of_unfit`).

The points that come out are tied to the goal by the names alone: the value for a joint of the arm
is the one that stands where the goal names it (`InArmOrder`).  This leaves one answer
(`InArmOrder.unique`), and it says nothing of the order of the names.  So permuting the joints of a
goal, in the names and in every array, changes neither the points nor the code
(`verdict_of_rearranged`).  The main statement is `exactly_of_validate`.
-/

namespace ArmLink.Goal

open Coordinator (plainConfig readyContext validate_plainConfig)
open Decimal.Reading (exact lt_iff_exact isFinite_abs exact_abs)
open Link Motion Telemetry

/-! ### What is asked of a goal -/

/-- Whether the arm can begin with a goal. -/
def IsReady (context : Context Unit) : Prop :=
  context.isAlive = true ∧ context.robotState = some .running

/-- A point with a velocity and a position for each joint, all of them finite, and none of the
velocities beyond the limit. -/
structure Complete (limit : Float) (point : GoalPoint) : Prop where
  velocityCount : point.velocities.length = jointCount
  positionCount : point.positions.length = jointCount
  velocities : ∀ velocity ∈ point.velocities,
    velocity.isFinite = true ∧ |exact velocity| ≤ exact limit
  positions : ∀ position ∈ point.positions, position.isFinite = true

/-- Whether the points of a goal can be followed. -/
structure Fits (config : Coordinator.Config) (goal : Goal) : Prop where
  nonempty : goal.points ≠ []
  complete : ∀ point ∈ goal.points, Complete config.maxVelocity point
  times : (goal.points.map (·.time)).IsChain (· ≤ ·)

/-- A point with the joints in the order of the arm: the value for a joint stands where the goal
names that joint. -/
structure InArmOrder (config : Coordinator.Config) (goal : Goal) (asked : GoalPoint)
    (given : Waypoint Float) : Prop where
  time : given.time = asked.time
  positions : ∀ (joint : Fin jointCount) (place : Nat) (name : String),
    config.jointNames[joint.val]? = some name → goal.jointNames[place]? = some name →
      asked.positions[place]? = some (given.positions.get joint)
  velocities : ∀ (joint : Fin jointCount) (place : Nat) (name : String),
    config.jointNames[joint.val]? = some name → goal.jointNames[place]? = some name →
      asked.velocities[place]? = some (given.velocities.get joint)

/-- What checking a goal comes to: its points in the order of the arm, or the code with which it is
refused. -/
def verdict (config : Coordinator.Config) (context : Context Unit) (goal : Goal) :
    Except ResultCode (List (Waypoint Float)) :=
  (validate config context.isAlive context.robotState goal).mapError Rejection.code

/-! ### Permuting the joints -/

/-- A list that has one value for each of `count` joints is permuted; of any other list only the
length is kept. -/
structure Shuffled {α : Type} {count : Nat} (turn : Equiv.Perm (Fin count))
    (values others : List α) : Prop where
  length : others.length = values.length
  moved : values.length = count → ∀ place : Fin count,
    others[place.val]? = values[(turn place).val]?

/-- A goal with its joints permuted, in the names and in every array. -/
structure Rearranged {count : Nat} (turn : Equiv.Perm (Fin count)) (goal other : Goal) : Prop where
  count : goal.jointNames.length = count
  names : Shuffled turn goal.jointNames other.jointNames
  points : List.Forall₂ (fun point moved => Shuffled turn point.positions moved.positions ∧
    Shuffled turn point.velocities moved.velocities ∧ moved.time = point.time)
    goal.points other.points

/-- How a goal is checked. -/
structure Exactly (config : Coordinator.Config) (context : Context Unit) (goal : Goal) : Prop where
  accepts : (∃ points, validate config context.isAlive context.robotState goal = .ok points) ↔
    IsReady context ∧ goal.jointNames.Perm config.jointNames ∧ Fits config goal
  arranged : ∀ points, validate config context.isAlive context.robotState goal = .ok points →
    List.Forall₂ (InArmOrder config goal) goal.points points
  unready : ¬ IsReady context → verdict config context goal = .error .generic
  misnamed : IsReady context → ¬ goal.jointNames.Perm config.jointNames →
    verdict config context goal = .error .invalidJoints
  unfit : IsReady context → goal.jointNames.Perm config.jointNames → ¬ Fits config goal →
    verdict config context goal = .error .invalidGoal
  rearranged : ∀ (count : Nat) (turn : Equiv.Perm (Fin count)) (other : Goal),
    Rearranged turn goal other → verdict config context other = verdict config context goal

variable {config : Coordinator.Config} {context : Context Unit} {goal other : Goal}
  {limit : Float} {previous : Duration} {point : GoalPoint} {order : Joints (Fin jointCount)}

/-! ### The names -/

theorem exists_ofList?_iff {α : Type} {values : List α} :
    (∃ joints, Joints.ofList? values = some joints) ↔ values.length = jointCount := by
  unfold Joints.ofList?
  split
  case isTrue size => exact iff_of_true ⟨_, rfl⟩ size
  case isFalse size => exact iff_of_false (by simp) size

theorem exists_mapM {α β : Type} {f : α → Option β} {inputs : List α}
    (each : ∀ input ∈ inputs, ∃ output, f input = some output) :
    ∃ outputs, inputs.mapM f = some outputs := by
  induction inputs with
  | nil => exact ⟨[], rfl⟩
  | cons input inputs ih =>
    obtain ⟨output, first⟩ := each input List.mem_cons_self
    obtain ⟨outputs, rest⟩ := ih fun input inside => each input (List.mem_cons_of_mem _ inside)
    exact ⟨output :: outputs, by simp [List.mapM_cons, first, rest]⟩

/-- There is an order of the joints just if every joint of the arm is named once and no other. -/
theorem exists_jointOrder_iff {canonical names : List String}
    (count : canonical.length = jointCount) (distinct : canonical.Nodup) :
    (∃ order, jointOrder canonical names = some order) ↔ names.Perm canonical := by
  constructor
  · rintro ⟨order, found⟩
    obtain ⟨namedOnce, isOrder⟩ := isOrder_of_jointOrder found
    have sameLength : names.length = canonical.length := by
      by_contra different
      simp [jointOrder, different] at found
    have subset : canonical ⊆ names := by
      intro name inside
      obtain ⟨joint, inCanonical, rfl⟩ := List.mem_iff_getElem.mp inside
      obtain ⟨name, isName, named⟩ := isOrder ⟨joint, count ▸ inCanonical⟩
      rw [List.getElem?_eq_getElem inCanonical] at isName
      rw [Option.some.inj isName]
      exact List.mem_of_getElem? named
    have less : canonical.Subperm names := List.subperm_of_subset distinct subset
    exact (less.perm_of_length_le sameLength.le).symm
  · intro permuted
    have sameLength := permuted.length_eq
    have namedOnce : names.Nodup := permuted.nodup_iff.mpr distinct
    have places : ∃ places, canonical.mapM (fun name => do
        let place ← names.findIdx? (· == name)
        if inside : place < jointCount then some (⟨place, inside⟩ : Fin jointCount) else none) =
          some places := by
      apply exists_mapM
      intro name inside
      have named : name ∈ names := permuted.mem_iff.mpr inside
      have isThere : (names.findIdx? (· == name)).isSome := by
        rw [List.findIdx?_isSome, List.any_eq_true]
        exact ⟨name, named, beq_self_eq_true name⟩
      obtain ⟨place, found⟩ := Option.isSome_iff_exists.mp isThere
      obtain ⟨inNames, -⟩ := List.findIdx?_eq_some_iff_getElem.mp found
      have inside : place < jointCount := by omega
      exact ⟨⟨place, inside⟩, by simp [found, inside]⟩
    obtain ⟨places, mapped⟩ := places
    have placeCount : places.length = jointCount := by
      rw [← (forall₂_of_mapM mapped).length_eq, count]
    obtain ⟨order, read⟩ := exists_ofList?_iff.mpr placeCount
    refine ⟨order, ?_⟩
    rw [jointOrder, if_neg (by simp [sameLength, namedOnce])]
    exact Option.bind_eq_some_iff.mpr ⟨places, mapped, read⟩

/-! ### The points -/

theorem checkVelocities_eq_ok_iff (bounded : limit.isFinite = true) {velocities : List Float} :
    checkVelocities limit velocities = .ok () ↔
      ∀ velocity ∈ velocities, velocity.isFinite = true ∧ |exact velocity| ≤ exact limit := by
  rw [checkVelocities_eq_ok]
  apply forall₂_congr
  intro velocity _
  apply and_congr_right
  intro finite
  rw [lt_iff_exact bounded (isFinite_abs finite), exact_abs finite, not_lt]

theorem exists_checkPoint_iff (bounded : limit.isFinite = true) :
    (∃ waypoint, checkPoint limit order previous point = .ok waypoint) ↔
      Complete limit point ∧ previous ≤ point.time := by
  constructor
  · rintro ⟨waypoint, passed⟩
    unfold checkPoint at passed
    split at passed
    · cases passed
    rename_i velocities readVelocities
    split at passed
    · cases passed
    rename_i positions readPositions
    obtain ⟨_, slow, passed⟩ := exists_of_bind passed
    by_cases infinite : point.positions.any (!·.isFinite) = true
    · rw [if_pos infinite] at passed
      cases passed
    rw [if_neg infinite] at passed
    by_cases early : point.time < previous
    · rw [if_pos early] at passed
      cases passed
    refine ⟨⟨?_, ?_, ?_, ?_⟩, Nat.le_of_not_lt early⟩
    · exact exists_ofList?_iff.mp ⟨velocities, readVelocities⟩
    · exact exists_ofList?_iff.mp ⟨positions, readPositions⟩
    · exact (checkVelocities_eq_ok_iff bounded).mp slow
    · simpa using infinite
  · rintro ⟨complete, inTime⟩
    obtain ⟨velocities, readVelocities⟩ := exists_ofList?_iff.mpr complete.velocityCount
    obtain ⟨positions, readPositions⟩ := exists_ofList?_iff.mpr complete.positionCount
    have slow := (checkVelocities_eq_ok_iff bounded).mpr complete.velocities
    have finite : ¬ point.positions.any (!·.isFinite) = true := by
      simpa using complete.positions
    have notEarly : ¬ point.time < previous := Nat.not_lt_of_le inTime
    refine ⟨⟨reorder order positions, reorder order velocities, point.time⟩, ?_⟩
    simp only [checkPoint, readVelocities, readPositions, slow, if_neg finite, if_neg notEarly]
    rfl

/-- Points pass one behind the other, each at a time not before the one in front of it. -/
theorem exists_checkPoints_iff (bounded : limit.isFinite = true) {asked : List GoalPoint} :
    (∃ points, checkPoints limit order previous asked = .ok points) ↔
      (∀ point ∈ asked, Complete limit point) ∧
        (previous :: asked.map (·.time)).IsChain (· ≤ ·) := by
  induction asked generalizing previous with
  | nil => simp [checkPoints]
  | cons point rest ih =>
    have first : (∃ waypoint, checkPoint limit order previous point = .ok waypoint) ↔
        Complete limit point ∧ previous ≤ point.time := exists_checkPoint_iff bounded
    rw [List.forall_mem_cons, List.map_cons, List.isChain_cons_cons]
    constructor
    · rintro ⟨points, passed⟩
      obtain ⟨waypoint, checked, passed⟩ := exists_of_bind passed
      obtain ⟨waypoints, others, -⟩ := exists_of_bind passed
      obtain ⟨complete, inTime⟩ := first.mp ⟨waypoint, checked⟩
      obtain ⟨allComplete, times⟩ := ih.mp ⟨waypoints, others⟩
      exact ⟨⟨complete, allComplete⟩, inTime, times⟩
    · rintro ⟨⟨complete, allComplete⟩, inTime, times⟩
      obtain ⟨waypoint, checked⟩ := first.mpr ⟨complete, inTime⟩
      obtain ⟨waypoints, others⟩ := ih.mpr ⟨allComplete, times⟩
      refine ⟨waypoint :: waypoints, ?_⟩
      rw [checkPoints, checked]
      exact congrArg (· >>= fun waypoints => pure (waypoint :: waypoints)) others

theorem isChain_zero_cons {times : List Duration} :
    (Duration.zero :: times).IsChain (· ≤ ·) ↔ times.IsChain (· ≤ ·) := by
  cases times with
  | nil => simp
  | cons first rest =>
    rw [List.isChain_cons_cons]
    exact and_iff_right (Nat.zero_le first.nanos)

/-! ### The checks one behind the other -/

theorem bounds_of_validate (valid : config.validate = .ok ()) :
    config.jointNames.length = jointCount ∧ config.jointNames.Nodup ∧
      config.maxVelocity.isFinite = true := by
  unfold Coordinator.Config.validate at valid
  split_ifs at valid with count distinct positive
  have positive : Scalar.isPositive config.maxVelocity = true := by simpa using positive
  exact ⟨not_not.mp count, distinct, (Bool.and_eq_true_iff.mp positive).1⟩

theorem validate_of_ready (ready : IsReady context) :
    validate config context.isAlive context.robotState goal = waypoints config goal := by
  rw [validate, ready.1, ready.2]
  rfl

theorem waypoints_of_order (found : jointOrder config.jointNames goal.jointNames = some order) :
    waypoints config goal =
      if goal.points.isEmpty then .error (.points .none)
      else (checkPoints config.maxVelocity order .zero goal.points).mapError .points := by
  rw [waypoints, found]

theorem verdict_eq_ok_iff {points : List (Waypoint Float)} :
    verdict config context goal = .ok points ↔
      validate config context.isAlive context.robotState goal = .ok points := by
  rw [verdict]
  cases validate config context.isAlive context.robotState goal <;> simp [Except.mapError]

theorem verdict_of_unready (unready : ¬ IsReady context) :
    verdict config context goal = .error .generic := by
  have refused : ∃ reason, checkReady context.isAlive context.robotState = .error reason := by
    unfold checkReady
    split
    · exact ⟨_, rfl⟩
    · rename_i alive
      split
      · rename_i running
        exact absurd ⟨by simpa using alive, running⟩ unready
      all_goals exact ⟨_, rfl⟩
  obtain ⟨reason, refused⟩ := refused
  rw [verdict, validate, refused]
  rfl

section Ready

variable (valid : config.validate = .ok ()) (ready : IsReady context)
include valid ready

theorem verdict_of_misnamed (foreign : ¬ goal.jointNames.Perm config.jointNames) :
    verdict config context goal = .error .invalidJoints := by
  obtain ⟨count, distinct, -⟩ := bounds_of_validate valid
  have unknown : jointOrder config.jointNames goal.jointNames = none := by
    apply Option.eq_none_iff_forall_ne_some.mpr
    intro order found
    exact foreign ((exists_jointOrder_iff count distinct).mp ⟨order, found⟩)
  rw [verdict, validate_of_ready ready, waypoints, unknown]
  rfl

variable (permuted : goal.jointNames.Perm config.jointNames)
include permuted

theorem verdict_of_unfit (unfit : ¬ Fits config goal) :
    verdict config context goal = .error .invalidGoal := by
  obtain ⟨count, distinct, bounded⟩ := bounds_of_validate valid
  obtain ⟨order, found⟩ := (exists_jointOrder_iff count distinct).mpr permuted
  rw [verdict, validate_of_ready ready, waypoints_of_order found]
  by_cases asked : goal.points.isEmpty = true
  · rw [if_pos asked]
    rfl
  · rw [if_neg asked]
    cases passed : checkPoints config.maxVelocity order .zero goal.points with
    | error fault => rfl
    | ok points =>
      obtain ⟨complete, times⟩ := (exists_checkPoints_iff bounded).mp ⟨points, passed⟩
      refine absurd ⟨?_, complete, isChain_zero_cons.mp times⟩ unfit
      simpa using asked

theorem exists_validate_of_fits (fits : Fits config goal) :
    ∃ points, validate config context.isAlive context.robotState goal = .ok points := by
  obtain ⟨count, distinct, bounded⟩ := bounds_of_validate valid
  obtain ⟨order, found⟩ := (exists_jointOrder_iff count distinct).mpr permuted
  have asked : ¬ goal.points.isEmpty = true := by simpa using fits.nonempty
  have followed : ∃ points, checkPoints config.maxVelocity order .zero goal.points = .ok points :=
    (exists_checkPoints_iff bounded).mpr ⟨fits.complete, isChain_zero_cons.mpr fits.times⟩
  obtain ⟨points, passed⟩ := followed
  refine ⟨points, ?_⟩
  rw [validate_of_ready ready, waypoints_of_order found, if_neg asked, passed]
  rfl

end Ready

theorem accepted_of_validate {points : List (Waypoint Float)} (valid : config.validate = .ok ())
    (passed : validate config context.isAlive context.robotState goal = .ok points) :
    IsReady context ∧ goal.jointNames.Perm config.jointNames ∧ Fits config goal := by
  rw [← verdict_eq_ok_iff] at passed
  have ready : IsReady context := by
    by_contra unready
    rw [verdict_of_unready unready] at passed
    cases passed
  have permuted : goal.jointNames.Perm config.jointNames := by
    by_contra foreign
    rw [verdict_of_misnamed valid ready foreign] at passed
    cases passed
  refine ⟨ready, permuted, ?_⟩
  by_contra unfit
  rw [verdict_of_unfit valid ready permuted unfit] at passed
  cases passed

/-! ### The points that come out -/

theorem InArmOrder.of_arranged {asked : GoalPoint} {given : Waypoint Float}
    (distinct : goal.jointNames.Nodup) (isOrder : IsOrder config.jointNames goal.jointNames order)
    (arranged : Arranged order asked given) : InArmOrder config goal asked given := by
  have standsAt : ∀ (joint : Fin jointCount) (place : Nat) (name : String),
      config.jointNames[joint.val]? = some name → goal.jointNames[place]? = some name →
        place = (order.get joint).val := by
    intro joint place name isName named
    obtain ⟨sameName, isSame, namedThere⟩ := isOrder joint
    cases isName.symm.trans isSame
    obtain ⟨inside, -⟩ := List.getElem?_eq_some_iff.mp named
    exact (List.getElem?_inj inside distinct).mp (named.trans namedThere.symm)
  refine ⟨arranged.time, ?_, ?_⟩
  · intro joint place name isName named
    rw [standsAt joint place name isName named]
    exact arranged.positions joint
  · intro joint place name isName named
    rw [standsAt joint place name isName named]
    exact arranged.velocities joint

theorem arranged_of_validate {points : List (Waypoint Float)}
    (passed : validate config context.isAlive context.robotState goal = .ok points) :
    List.Forall₂ (InArmOrder config goal) goal.points points := by
  have checked := checked_of_waypoints (waypoints_of_validate passed)
  obtain ⟨order, isOrder, arranged⟩ := checked.arranged
  exact arranged.imp fun _ _ => InArmOrder.of_arranged checked.distinct isOrder

/-- The names leave one point in the order of the arm. -/
theorem InArmOrder.unique {asked : GoalPoint} {given same : Waypoint Float}
    (count : config.jointNames.length = jointCount)
    (permuted : goal.jointNames.Perm config.jointNames) (first : InArmOrder config goal asked given)
    (second : InArmOrder config goal asked same) : given = same := by
  have named : ∀ joint : Fin jointCount, ∃ (place : Nat) (name : String),
      config.jointNames[joint.val]? = some name ∧ goal.jointNames[place]? = some name := by
    intro joint
    have inside : joint.val < config.jointNames.length := by omega
    have member := permuted.mem_iff.mpr (List.getElem_mem inside)
    obtain ⟨place, named⟩ := List.mem_iff_getElem?.mp member
    exact ⟨place, _, List.getElem?_eq_getElem inside, named⟩
  have positions : given.positions = same.positions := by
    apply Vector.ext
    intro index inside
    obtain ⟨place, name, isName, named⟩ := named ⟨index, inside⟩
    exact Option.some.inj ((first.positions _ _ _ isName named).symm.trans
      (second.positions _ _ _ isName named))
  have velocities : given.velocities = same.velocities := by
    apply Vector.ext
    intro index inside
    obtain ⟨place, name, isName, named⟩ := named ⟨index, inside⟩
    exact Option.some.inj ((first.velocities _ _ _ isName named).symm.trans
      (second.velocities _ _ _ isName named))
  have times : given.time = same.time := first.time.trans second.time.symm
  cases given
  cases same
  simp_all

/-! ### Permuted joints -/

section Permuted

variable {α : Type} {count : Nat} {turn : Equiv.Perm (Fin count)} {values others : List α}

theorem Shuffled.symm (shuffled : Shuffled turn values others) :
    Shuffled turn.symm others values := by
  refine ⟨shuffled.length.symm, ?_⟩
  intro full place
  rw [shuffled.moved (shuffled.length ▸ full), Equiv.apply_symm_apply]

theorem Shuffled.perm (shuffled : Shuffled turn values others) (full : values.length = count) :
    others.Perm values := by
  subst full
  have moved : others = List.ofFn (values.get ∘ turn) := by
    apply List.ext_getElem?
    intro place
    rcases Nat.lt_or_ge place values.length with inside | outside
    · rw [shuffled.moved rfl ⟨place, inside⟩]
      simp [inside]
    · have outsideToo : others.length ≤ place := shuffled.length ▸ outside
      simp [outside, outsideToo]
  rw [moved]
  exact (turn.ofFn_comp_perm values.get).trans (List.Perm.of_eq (List.ofFn_get values))

theorem Rearranged.symm (rearranged : Rearranged turn goal other) :
    Rearranged turn.symm other goal := by
  refine ⟨rearranged.names.length.trans rearranged.count, rearranged.names.symm, ?_⟩
  refine List.Forall₂.flip (rearranged.points.imp ?_)
  rintro point moved ⟨positions, velocities, time⟩
  exact ⟨positions.symm, velocities.symm, time.symm⟩

theorem Rearranged.perm (rearranged : Rearranged turn goal other) :
    other.jointNames.Perm goal.jointNames :=
  rearranged.names.perm rearranged.count

theorem Complete.of_shuffled {limit : Float} {point moved : GoalPoint}
    {turn : Equiv.Perm (Fin jointCount)} (complete : Complete limit point)
    (positions : Shuffled turn point.positions moved.positions)
    (velocities : Shuffled turn point.velocities moved.velocities) : Complete limit moved where
  velocityCount := velocities.length.trans complete.velocityCount
  positionCount := positions.length.trans complete.positionCount
  velocities := fun velocity member =>
    complete.velocities velocity ((velocities.perm complete.velocityCount).mem_iff.mp member)
  positions := fun position member =>
    complete.positions position ((positions.perm complete.positionCount).mem_iff.mp member)

theorem Fits.of_rearranged {turn : Equiv.Perm (Fin jointCount)} (fits : Fits config goal)
    (rearranged : Rearranged turn goal other) : Fits config other := by
  have sameTimes : other.points.map (·.time) = goal.points.map (·.time) := by
    rw [← List.forall₂_eq_eq_eq, List.forall₂_map_left_iff, List.forall₂_map_right_iff]
    exact List.Forall₂.flip (rearranged.points.imp fun _ _ moved => moved.2.2)
  refine ⟨?_, ?_, sameTimes ▸ fits.times⟩
  · intro empty
    apply fits.nonempty
    rw [← List.length_eq_zero_iff, rearranged.points.length_eq, empty]
    rfl
  · intro moved member
    obtain ⟨index, inside, rfl⟩ := List.mem_iff_getElem.mp member
    have insideToo : index < goal.points.length := by rwa [rearranged.points.length_eq]
    obtain ⟨positions, velocities, -⟩ := rearranged.points.get insideToo inside
    exact (fits.complete _ (List.getElem_mem insideToo)).of_shuffled positions velocities

end Permuted

/-- A point for a goal with its joints permuted is a point for the goal. -/
theorem InArmOrder.of_rearranged {count : Nat} {turn : Equiv.Perm (Fin count)}
    {asked moved : GoalPoint} {given : Waypoint Float} (rearranged : Rearranged turn goal other)
    (positionCount : asked.positions.length = count)
    (velocityCount : asked.velocities.length = count)
    (positions : Shuffled turn asked.positions moved.positions)
    (velocities : Shuffled turn asked.velocities moved.velocities)
    (sameTime : moved.time = asked.time) (inOrder : InArmOrder config other moved given) :
    InArmOrder config goal asked given := by
  have elsewhere : ∀ (place : Nat) (name : String), goal.jointNames[place]? = some name →
      ∃ spot : Fin count, (turn spot).val = place ∧ other.jointNames[spot.val]? = some name := by
    intro place name named
    obtain ⟨inside, -⟩ := List.getElem?_eq_some_iff.mp named
    have inside : place < count := rearranged.count ▸ inside
    have turned : (turn (turn.symm ⟨place, inside⟩)).val = place := by
      rw [Equiv.apply_symm_apply]
    refine ⟨turn.symm ⟨place, inside⟩, turned, ?_⟩
    rw [rearranged.names.moved rearranged.count, turned, named]
  refine ⟨inOrder.time.trans sameTime, ?_, ?_⟩
  · intro joint place name isName named
    obtain ⟨spot, rfl, namedThere⟩ := elsewhere place name named
    rw [← positions.moved positionCount]
    exact inOrder.positions joint spot name isName namedThere
  · intro joint place name isName named
    obtain ⟨spot, rfl, namedThere⟩ := elsewhere place name named
    rw [← velocities.moved velocityCount]
    exact inOrder.velocities joint spot name isName namedThere

/-! ### Checking exactly -/

theorem arranged_of_rearranged {turn : Equiv.Perm (Fin jointCount)}
    {points : List (Waypoint Float)} (fits : Fits config goal)
    (rearranged : Rearranged turn goal other)
    (arranged : List.Forall₂ (InArmOrder config other) other.points points) :
    List.Forall₂ (InArmOrder config goal) goal.points points := by
  have sameLength := rearranged.points.length_eq
  rw [List.forall₂_iff_get] at arranged ⊢
  obtain ⟨length, each⟩ := arranged
  refine ⟨sameLength.trans length, ?_⟩
  intro index inside insideToo
  have between : index < other.points.length := sameLength ▸ inside
  obtain ⟨positions, velocities, sameTime⟩ := rearranged.points.get inside between
  have complete := fits.complete _ (List.get_mem goal.points ⟨index, inside⟩)
  exact (each index between insideToo).of_rearranged rearranged complete.positionCount
    complete.velocityCount positions velocities sameTime

/-- Permuting the joints of a goal changes neither its points nor the code of its rejection. -/
theorem verdict_of_rearranged {count : Nat} {turn : Equiv.Perm (Fin count)}
    (valid : config.validate = .ok ()) (rearranged : Rearranged turn goal other) :
    verdict config context other = verdict config context goal := by
  by_cases ready : IsReady context
  swap
  · rw [verdict_of_unready ready, verdict_of_unready ready]
  by_cases permuted : goal.jointNames.Perm config.jointNames
  swap
  · have foreign : ¬ other.jointNames.Perm config.jointNames :=
      fun permutedToo => permuted (rearranged.perm.symm.trans permutedToo)
    rw [verdict_of_misnamed valid ready permuted, verdict_of_misnamed valid ready foreign]
  have permutedToo := rearranged.perm.trans permuted
  have names := (bounds_of_validate valid).1
  have whole : count = jointCount := by
    rw [← rearranged.count, permuted.length_eq, names]
  subst whole
  by_cases fits : Fits config goal
  swap
  · have unfit : ¬ Fits config other := fun fitsToo => fits (fitsToo.of_rearranged rearranged.symm)
    rw [verdict_of_unfit valid ready permuted fits,
      verdict_of_unfit valid ready permutedToo unfit]
  obtain ⟨points, passed⟩ := exists_validate_of_fits valid ready permuted fits
  obtain ⟨otherPoints, passedToo⟩ :=
    exists_validate_of_fits valid ready permutedToo (fits.of_rearranged rearranged)
  -- both lists are points for the goal, and there is only one for each point that was asked for
  have arranged := arranged_of_rearranged fits rearranged (arranged_of_validate passedToo)
  have unique : Relator.RightUnique (InArmOrder config goal) :=
    fun _ _ _ first second => first.unique names permuted second
  have same := unique.forall₂ arranged (arranged_of_validate passed)
  rw [verdict_eq_ok_iff.mpr passed, verdict_eq_ok_iff.mpr passedToo, same]

/-- Checking lets through what can be followed, gives its points in the order of the arm, tells of
the first thing that is wrong, and does not look at the order of the joints. -/
theorem exactly_of_validate (valid : config.validate = .ok ()) : Exactly config context goal where
  accepts := by
    constructor
    · rintro ⟨points, passed⟩
      exact accepted_of_validate valid passed
    · rintro ⟨ready, permuted, fits⟩
      exact exists_validate_of_fits valid ready permuted fits
  arranged := fun _ => arranged_of_validate
  unready := verdict_of_unready
  misnamed := verdict_of_misnamed valid
  unfit := verdict_of_unfit valid
  rearranged := fun _ _ _ => verdict_of_rearranged valid

/-- A goal that names the base last, and asks for it to be turned. -/
def baseLast : Goal where
  jointNames := ["shoulder", "elbow", "wrist 1", "wrist 2", "wrist 3", "base"]
  points := [⟨[0.0, 0.0, 0.0, 0.0, 0.0, 1.0], List.replicate 6 0.0, .zero⟩]

theorem exactly_of_baseLast : (plainConfig 1.0).validate = .ok () ∧
    Exactly (plainConfig 1.0) readyContext baseLast :=
  ⟨validate_plainConfig 1.0, exactly_of_validate (validate_plainConfig 1.0)⟩

end ArmLink.Goal
