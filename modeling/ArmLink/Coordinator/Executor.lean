import ArmLink.Coordinator.Worker
import ArmLink.Follower.Basic

/-!
Executors: what the coordinator has goals executed by.  One of them is the follower, with whatever
control program it is connected to; another, `Script`, moves no arm and does what it was told
before.
-/

namespace ArmLink.Coordinator

open Link Motion

/-- How following points goes, as long as nobody asks to break off. -/
inductive Following where
  | endless
  /-- It breaks down, and whoever has called the executor with it. -/
  | breaksDown (fault : Duration.Fault)
  /-- It ends; where the arm was seen just before, if it was. -/
  | ends (seen : Option JointFeedback) (outcome : Except Follower.Fault Streamed)

/-- Types whose values execute goals. -/
class Executor (σ : Type) where
  /-- Gets ready for a goal. -/
  start : σ → Follower.Result Unit × σ
  follow : σ → Mode → List (Waypoint Float) → Following × σ
  /-- Ends servoing; what goes wrong then is not told. -/
  stop : σ → σ

def Following.ofRun : Follower.Result Follower.Outcome → Following
  | .ok (.ok .completed) => .ends none (.ok .completed)
  | .ok (.ok .interrupted) => .ends none (.ok .interrupted)
  | .ok (.error fault) => .ends none (.error fault)
  | .error fault => .breaksDown fault

instance {σ : Type} [Follower.Peer σ] : Executor (Follower Float σ) where
  start := Follower.start
  follow follower mode points :=
    match follower.follow mode points with
    | some (outcome, follower) => (.ofRun outcome, follower)
    | none => (.endless, follower)
  stop follower := follower.stop.2

/-- What a scripted executor does with a goal. -/
inductive Behavior where
  /-- It does not get ready. -/
  | startFail (fault : Follower.Fault)
  | fail (fault : Follower.Fault)
  /-- It claims to have sent everything, and the arm has not moved. -/
  | stall
  /-- It sends everything, and the arm ends up near the last point: off it by `offset` and moving
  with `speed`, in all joints or in one of them. -/
  | reach (offset speed : Float) (joint : Option Nat)
  /-- It follows the points until it is interrupted. -/
  | block

/-- Where the arm ends up with `reach`. -/
def Behavior.feedback (offset speed : Float) (joint : Option Nat) (target : Joints Float) :
    JointFeedback :=
  let concerns (index : Fin jointCount) : Bool := (joint.map (· == index.val)).getD true
  { positions := Vector.ofFn fun index =>
      if concerns index then target.get index + offset else target.get index
    velocities := Vector.ofFn fun index => if concerns index then speed else 0.0
    controllerTime := none }

/-- An executor that takes the next behavior for each goal, and claims to have sent everything when
there is none left. -/
structure Script where
  upcoming : List Behavior
  /-- The behavior for the goal in hand. -/
  current : Behavior := .stall

namespace Script

/-- Gets ready, unless the next behavior says otherwise. -/
def start (script : Script) : Follower.Result Unit × Script :=
  let current := script.upcoming.headD .stall
  let next : Script := { upcoming := script.upcoming.drop 1, current }
  match current with
  | .startFail fault => (.ok (.error fault), next)
  | _ => (.ok (.ok ()), next)

/-- Follows points as the behavior for the goal in hand says. -/
def follow (script : Script) (points : List (Waypoint Float)) : Following :=
  match script.current with
  | .fail fault => .ends none (.error fault)
  | .block => .endless
  | .reach offset speed joint =>
    let target := (points.getLast?.map (·.positions)).getD (Joints.same 0)
    .ends (some (Behavior.feedback offset speed joint target)) (.ok .completed)
  | .startFail _ | .stall => .ends none (.ok .completed)

instance : Executor Script where
  start := start
  follow script _ points := (script.follow points, script)
  stop := id

end Script

end ArmLink.Coordinator
