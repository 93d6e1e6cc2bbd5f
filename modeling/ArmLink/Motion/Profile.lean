import ArmLink.Motion.Cubic
import ArmLink.Motion.Trapezoid

/-!
A profile is a trajectory prepared for being followed, in one of the two modes of motion.
-/

namespace ArmLink.Motion

variable {α : Type} [Scalar α]

/-- How a trajectory is followed. -/
inductive Mode where
  /-- Through the waypoints without stopping. -/
  | smooth
  /-- With a stop at every waypoint. -/
  | timed
deriving DecidableEq, Repr

def Mode.name : Mode → String
  | .smooth => "smooth"
  | .timed => "timed"

/-- A trajectory prepared for being followed. -/
inductive Profile (α : Type) where
  | smooth (profile : SmoothProfile α)
  | timed (profile : TimedProfile α)

namespace Profile

/-- Prepares a trajectory; the limits matter to timed motion only. -/
def make (mode : Mode) (points : List (Waypoint α)) (maxVelocity maxAcceleration : α) :
    Except PlanFault (Profile α) :=
  match mode with
  | .smooth => .smooth <$> SmoothProfile.ofPoints points
  | .timed => .timed <$> TimedProfile.plan points maxVelocity maxAcceleration

/-- How long the motion takes. -/
def duration : Profile α → Duration
  | .smooth profile => profile.duration
  | .timed profile => profile.duration

/-- Where the joints are to be at a time. -/
def sample (profile : Profile α) (time : Duration) : Sample α :=
  match profile with
  | .smooth profile => profile.sample time
  | .timed profile => profile.sample time

/-- Where the joints are to be in the end. -/
def finalSample (profile : Profile α) : Sample α := profile.sample profile.duration

end Profile

end ArmLink.Motion
