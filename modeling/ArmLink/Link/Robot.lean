import ArmLink.Link.Detection
import ArmLink.Link.Ingest
import ArmLink.Link.PacketStream

/-!
A connected robot: the realtime feed and, if wanted, the primary feed, each with a link of its own,
over one context.  With both links the primary feed keeps the state and the realtime feed the
joints; alone, the realtime feed keeps both.

The links are threads.  `Robot.step` lets one of them make one step; a run of the robot is any
sequence of such steps.
-/

namespace ArmLink.Link

open Firmware Telemetry

/-- The two feeds of a controller. -/
inductive FeedName where
  | realtime
  | primary
deriving DecidableEq, Repr

/-- A connected robot. -/
structure Robot (ι : Type) where
  layouts : Layouts
  shared : Shared ι
  realtime : Worker
  primary : Option Worker

namespace Robot

variable {ι : Type}

def start (context : Context ι) (layouts : Layouts) (realtime : List Reception)
    (primary : Option (List Reception)) : Robot ι :=
  { layouts
    shared := { context := context.setLayouts layouts }
    realtime := { feed := .realtime layouts primary.isNone, script := realtime }
    primary := primary.map fun script => { feed := .primary layouts, script } }

/-- One step of one link. -/
def step (robot : Robot ι) : FeedName → Robot ι
  | .realtime =>
    let (realtime, shared) := robot.realtime.step robot.shared
    { robot with realtime, shared }
  | .primary =>
    match robot.primary with
    | none => robot
    | some worker =>
      let (worker, shared) := worker.step robot.shared
      { robot with primary := some worker, shared }

def run (robot : Robot ι) (schedule : List FeedName) : Robot ι := schedule.foldl step robot

def deliver (robot : Robot ι) (realtime primary : List Reception) : Robot ι :=
  { robot with
    realtime := { robot.realtime with script := robot.realtime.script ++ realtime }
    primary := robot.primary.map fun worker => { worker with script := worker.script ++ primary } }

/-- The most steps that a link makes from one look at the running flag to the next, and for its
end: a look, a reception, five accesses, and three more when it is lost. -/
def stepsPerReception : Nat := 10

/-- Lets the links take turns until both have ended or wait for a reception. -/
def settle (robot : Robot ι) : Robot ι :=
  let receptions := robot.realtime.script.length +
    (robot.primary.map (·.script.length)).getD 0
  let rounds := (receptions + 1) * stepsPerReception
  robot.run (List.replicate rounds [FeedName.realtime, .primary]).flatten

/-- What is received before the first fatal fault, and the rest. -/
def splitAtFatal (script : List Reception) : List Reception × List Reception :=
  script.span fun reception => match reception with
    | .error fault => !fault.isFatal
    | .ok _ => true

/-- Lets the links take turns on what comes before the first fatal fault of each, and only then on
the rest, so that the loss of one link does not keep the other from what had come in. -/
def settleInOrder (robot : Robot ι) : Robot ι :=
  let (realtime, realtimeRest) := splitAtFatal robot.realtime.script
  let (primary, primaryRest) := splitAtFatal ((robot.primary.map (·.script)).getD [])
  let first : Robot ι :=
    { robot with
      realtime := { robot.realtime with script := realtime },
      primary := robot.primary.map fun worker => { worker with script := primary } }
  (first.settle.deliver realtimeRest primaryRest).settle

def isHealthy (robot : Robot ι) : Bool :=
  robot.shared.running && !robot.realtime.isFinished &&
    (robot.primary.map (!·.isFinished)).getD true

/-- Clears the running flag. -/
def halt (robot : Robot ι) : Robot ι :=
  { robot with shared := { robot.shared with running := false } }

/-- Tells the links to stop.  Each ends when its read in progress brings nothing in time. -/
def shutdown (robot : Robot ι) : Robot ι :=
  (robot.halt.deliver [.error .timeout] [.error .timeout]).settle

end Robot

/-- One look of someone who waits until joints and state are known: what it leads to, if it ends the
wait.  Success comes first, then the timeout, then the loss of the links. -/
def feedbackVerdict {ι : Type} (shared : Shared ι) (elapsed timeout : Duration) :
    Option (Except Fault Unit) :=
  if shared.context.joints.isSome && shared.context.robotState.isSome then some (.ok ())
  else if timeout ≤ elapsed then some (.error .timeout)
  else if !shared.running then some (.error .closed)
  else none

/-- Waits for joints and state, looking again and again: each look sees what is shared at that time.
When the looks are used up, the time has passed. -/
def waitForFeedback {ι : Type} (timeout : Duration) :
    List (Duration × Shared ι) → Except Fault Unit
  | [] => .error .timeout
  | (elapsed, shared) :: later =>
    match feedbackVerdict shared elapsed timeout with
    | some verdict => verdict
    | none => waitForFeedback timeout later

/-- How to connect to a controller. -/
structure ConnectOptions where
  firmware : Option Version := none
  /-- Whether the primary feed is read beyond the version. -/
  keepPrimary : Bool := true
  versionTimeout : Duration := .ofParts 5 0
  telemetryTimeout : Duration := .ofParts 1 0

/-- What connecting to a port gives: a refusal, or the reads that the port will bring. -/
abbrev Endpoint := Except TransportFault (List ReadOutcome)

/-- Connects to a controller: the primary port comes first, then the firmware is settled, then comes
the realtime port.  What the primary port brought beyond the version is left to its link. -/
def connect {ι : Type} (options : ConnectOptions) (primary realtime : Endpoint) :
    Except Fault (Robot ι) := do
  let primaryReads ← primary.mapError Fault.transport
  let arrivals := PacketStream.receptions {} primaryReads (receptionsIn primaryReads)
  let (layouts, arrivals) ←
    match options.firmware with
    | some firmware => pure (← resolveLayouts firmware, arrivals)
    | none =>
      let (layouts, unread) :=
        detectLayouts options.versionTimeout .zero (arrivals.map Reception.atOnce)
      pure (← layouts, unread.map (·.reception))
  let realtimeReads ← realtime.mapError Fault.transport
  let realtimeArrivals := PacketStream.receptions {} realtimeReads (receptionsIn realtimeReads)
  return Robot.start { telemetryTimeout := options.telemetryTimeout } layouts realtimeArrivals
    (if options.keepPrimary then some arrivals else none)

end ArmLink.Link
