import ArmLink.Coordinator.Config
import ArmLink.Link.Context
import ArmLink.Motion.Trajectory

/-!
Watching the arm after the last record of a smooth motion was sent.  In a first while nothing but a
request to break off counts.  From then on the first look decides that finds such a request, the arm
at its target and still, or the time used up; of these the earlier in this list comes first.

Times are measured from the moment at which sending began.
-/

namespace ArmLink.Coordinator

open Link Motion

/-- What the arm is watched for. -/
structure Monitor where
  /-- Until then arrival is not looked for. -/
  graceEnd : Duration
  /-- From then on the goal has failed. -/
  deadline : Duration
  target : Joints Float
  tolerance : Float
  threshold : Float

/-- What one look finds. -/
structure Poll where
  time : Duration
  /-- Whether somebody has asked to break off. -/
  interrupted : Bool
  joints : Option JointFeedback

/-- What the looks come to. -/
inductive Verdict where
  | interrupted
  | arrived
  | timedOut
deriving DecidableEq, Repr

namespace Monitor

/-- What to watch for when sending began at `start`.  The spans must be representable, and a clock
must be able to show the moments at which they end. -/
def make (config : Config) (start : Duration) (points : List (Waypoint Float)) :
    Except Duration.Fault Monitor := do
  let duration := totalDuration points
  let graceEnd ← start.later (← duration.scale config.graceFactor)
  let deadline ← start.later (← duration.scale config.timeoutFactor)
  return {
    graceEnd
    deadline
    target := (points.getLast?.map (·.positions)).getD (Joints.same 0)
    tolerance := config.goalTolerance
    threshold := config.motionThreshold }

/-- Whether a joint is nearer to its target than the tolerance. -/
def isNear (monitor : Monitor) (position target : Float) : Bool :=
  (position - target).abs < monitor.tolerance

/-- Whether the arm is at its target and still.  Without feedback it is not. -/
def hasArrived (monitor : Monitor) : Option JointFeedback → Bool
  | none => false
  | some feedback =>
    (Vector.zipWith monitor.isNear feedback.positions monitor.target).all id &&
      feedback.isStill monitor.threshold

/-- What one look decides, if it decides anything. -/
def judge (monitor : Monitor) (poll : Poll) : Option Verdict :=
  if poll.interrupted then some .interrupted
  else if poll.time < monitor.graceEnd then none
  else if monitor.hasArrived poll.joints then some .arrived
  else if monitor.deadline ≤ poll.time then some .timedOut
  else none

/-- What a sequence of looks decides: the first look that decides anything. -/
def decide (monitor : Monitor) (polls : List Poll) : Option Verdict :=
  polls.findSome? monitor.judge

end Monitor

end ArmLink.Coordinator
