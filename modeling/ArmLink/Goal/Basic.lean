import ArmLink.Decimal.Text
import ArmLink.Duration
import ArmLink.Follower.Fault
import ArmLink.Joints
import ArmLink.Link.Context

/-!
Goals: what a client asks for, and what it is told in return.  A goal that is refused ends at once
with a rejection; any other is accepted when its execution begins, and ends with exactly one
outcome.
-/

namespace ArmLink

/-- A point of a goal, with the joints in the order of the goal. -/
structure GoalPoint where
  positions : List Float
  velocities : List Float
  /-- The time since the start of the trajectory. -/
  time : Duration

/-- A trajectory that a client wants to be executed. -/
structure Goal where
  jointNames : List String
  points : List GoalPoint

namespace Goal

/-- The number of a goal; numbers count up from one. -/
abbrev Id := Nat

/-- The classes of outcomes as clients see them. -/
inductive ResultCode where
  | successful
  | invalidGoal
  | invalidJoints
  | generic
deriving DecidableEq, Repr

namespace ResultCode

def number : ResultCode → Int
  | .successful => 0
  | .invalidGoal => -1
  | .invalidJoints => -2
  | .generic => -100

def name : ResultCode → String
  | .successful => "Successful"
  | .invalidGoal => "InvalidGoal"
  | .invalidJoints => "InvalidJoints"
  | .generic => "Generic"

end ResultCode

/-- Why the arm is not ready for a goal. -/
inductive Unready where
  /-- Nothing was heard lately, or the state is not known. -/
  | undefined
  | emergencyStopped
  | protectiveStopped
  | notRunning
deriving DecidableEq, Repr

def Unready.message : Unready → String
  | .undefined => "Undefined state"
  | .emergencyStopped => "Robot is emergency stopped"
  | .protectiveStopped => "Robot is protective stopped"
  | .notRunning => "Robot is not ready, check robot_mode"

/-- What is wrong with the points of a goal. -/
inductive PointsFault where
  | none
  | velocityCount
  | positionCount
  | velocityNotFinite
  | velocityTooHigh (limit : Float)
  | positionNotFinite
  | timeDecreases
deriving DecidableEq

def PointsFault.message : PointsFault → String
  | .none => "Received a goal with no trajectory points"
  | .velocityCount => "Received a goal with an invalid number of velocities"
  | .positionCount => "Received a goal with an invalid number of positions"
  | .velocityNotFinite => "Received a goal with infinities or NaNs in velocity"
  | .velocityTooHigh limit =>
    "Received a goal with velocities that are higher than max_velocity_ " ++
      Decimal.Style.message.render limit
  | .positionNotFinite => "Received a goal with infinities or NaNs in positions"
  | .timeDecreases => "Received a goal with decreasing time_from_start"

/-- Why a goal is refused. -/
inductive Rejection where
  | unready (reason : Unready)
  | joints (expected found : List String)
  | points (fault : PointsFault)
deriving DecidableEq

namespace Rejection

def code : Rejection → ResultCode
  | .unready _ => .generic
  | .joints .. => .invalidJoints
  | .points _ => .invalidGoal

def message : Rejection → String
  | .unready reason => reason.message
  | .joints expected found =>
    "Invalid joint names for goal\nExpected: " ++ ", ".intercalate expected ++
      "\nFound: " ++ ", ".intercalate found
  | .points fault => fault.message

end Rejection

/-- Why a goal is broken off. -/
inductive AbortReason where
  /-- Another goal takes its place. -/
  | superseded
  | safetyStop
  /-- Nobody is left who could give an outcome. -/
  | abandoned
  | shutDown
  /-- A start point is needed, and it is not known where the arm stands. -/
  | noFeedback
  | notConnected (fault : Follower.Fault)
  | hung (fault : Follower.Fault)
  | notExecutable (fault : Follower.Fault)
  /-- The arm did not arrive in time. -/
  | timedOut
deriving DecidableEq, Repr

def AbortReason.message : AbortReason → String
  | .superseded => "Received another trajectory"
  | .safetyStop => "Robot safety stop"
  | .abandoned => "Trajectory interrupted"
  | .shutDown => "Goal coordinator shut down"
  | .noFeedback => "No joint feedback available to start the trajectory"
  | .notConnected fault => s!"Failed to connect to the robot control program: {fault.message}"
  | .hung fault => s!"Robot has hung. {fault.message}"
  | .notExecutable fault => s!"Trajectory could not be executed: {fault.message}"
  | .timedOut => "Robot motion timed out or failed to reach goal."

/-- How a goal ends. -/
inductive Outcome where
  | succeeded
  | aborted (reason : AbortReason)
  | canceled
  | rejected (rejection : Rejection)
deriving DecidableEq

namespace Outcome

def code : Outcome → ResultCode
  | .succeeded => .successful
  | .aborted _ | .canceled => .generic
  | .rejected rejection => rejection.code

def message : Outcome → String
  | .succeeded => ""
  | .aborted reason => reason.message
  | .canceled => "Goal cancelled by client"
  | .rejected rejection => rejection.message

def isSuccess : Outcome → Bool
  | .succeeded => true
  | _ => false

end Outcome

/-- What a client is told about its goal. -/
inductive Event where
  | accepted
  | finished (outcome : Outcome)
deriving DecidableEq

def Event.isFinished : Event → Bool
  | .accepted => false
  | .finished _ => true

end Goal

end ArmLink
