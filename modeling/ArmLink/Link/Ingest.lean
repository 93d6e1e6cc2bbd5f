import ArmLink.Link.Context
import ArmLink.Link.Fault
import ArmLink.Link.Metrics

/-!
Keeping the context up to date from one link.

A packet that was read is turned into a list of accesses to the shared context; nothing else of a
link touches it.  The link is given twice.  `ingest` is one link on its own, the fold of its
receptions.  `Worker.step` is the same link as one of several threads: every look at the running
flag, every reception and every access is a step of its own, and other threads may come between
any two of them.

When a link is lost, it clears the parts of the context that it keeps, and only those, and tells the
other links to stop by clearing the running flag.
-/

namespace ArmLink.Link

open Firmware Telemetry

/-- Which parts of the context a link keeps up to date. -/
structure Ownership where
  joints : Bool
  state : Bool
deriving DecidableEq, Repr

namespace Ownership

/-- The realtime feed always keeps the joints, and the state if no other link does. -/
def realtime (state : Bool) : Ownership := { joints := true, state }

/-- The primary feed keeps the state. -/
def primary : Ownership := { joints := false, state := true }

end Ownership

/-- One access to what the links share.  Each is atomic. -/
inductive Access where
  | noteFeedback
  | storeJoints (feedback : JointFeedback)
  /-- Writes the state; if it differs from the one before, the listeners are told next. -/
  | exchangeState (state : RobotState)
  | notify (state : RobotState)
  | clearJoints
  | clearState
  | stop

/-- What the links share. -/
structure Shared (ι : Type) where
  context : Context ι
  running : Bool := true

/-- The joint feedback that a packet carries: positions and velocities together. -/
def JointFeedback.ofPacket? (packet : Packet) : Option JointFeedback :=
  match packet.positions, packet.velocities with
  | some positions, some velocities =>
    some { positions, velocities, controllerTime := packet.controllerTime }
  | _, _ => none

def Ownership.accesses (ownership : Ownership) (packet : Packet) : List Access :=
  .noteFeedback ::
    ((if ownership.joints then
        match JointFeedback.ofPacket? packet with
        | some feedback => [.storeJoints feedback, .noteFeedback]
        | none => []
      else []) ++
     (if ownership.state then
        match packet.robotState with
        | some state => [.exchangeState state]
        | none => []
      else []))

/-- The accesses by which a lost link takes back what it keeps and stops the others. -/
def Ownership.farewell (ownership : Ownership) : List Access :=
  (if ownership.joints then [.clearJoints] else []) ++
    (if ownership.state then [.clearState] else []) ++ [.stop]

def Metrics.count (metrics : Metrics) (outcome : Except PacketFault Packet) : Metrics :=
  let metrics := { metrics with total := metrics.total + 1 }
  match outcome with
  | .ok _ => { metrics with decoded := metrics.decoded + 1 }
  | .error (.unexpectedTag ..) => { metrics with unexpected := metrics.unexpected + 1 }
  | .error (.incomplete ..) => { metrics with incomplete := metrics.incomplete + 1 }
  | .error (.malformed ..) => { metrics with malformed := metrics.malformed + 1 }

def Metrics.countFault (metrics : Metrics) (fault : Fault) : Metrics :=
  if fault.isTimeout then { metrics with timeouts := metrics.timeouts + 1 }
  else { metrics with readErrors := metrics.readErrors + 1 }

/-- How a link reads its packets and what it keeps. -/
structure Feed where
  strategy : Strategy
  ownership : Ownership
deriving DecidableEq, Repr

namespace Feed

def realtime (layouts : Layouts) (state : Bool) : Feed :=
  { strategy := .realtime layouts.realtime, ownership := .realtime state }

/-- The primary feed of a controller. -/
def primary (layouts : Layouts) : Feed :=
  { strategy := .primary layouts.state, ownership := .primary }

end Feed

/-! ### A link as one of several threads -/

/-- Where a link stands when it has no accesses left to make. -/
inductive Phase where
  /-- About to look at the running flag. -/
  | looking
  | receiving
  | ended
deriving DecidableEq, Repr

/-- A link at work. -/
structure Worker where
  feed : Feed
  /-- What will be received, in order.  Behind the last reception the link waits. -/
  script : List Reception
  phase : Phase := .looking
  /-- Accesses still to be made before the link goes on. -/
  pending : List Access := []
  metrics : Metrics := {}

namespace Worker

/-- Makes one access.  Only a change of state leaves something to do: to count it and to tell the
listeners. -/
def perform {ι : Type} (worker : Worker) (access : Access) (shared : Shared ι) :
    Worker × Shared ι :=
  match access with
  | .noteFeedback => (worker, { shared with context := shared.context.noteFeedback })
  | .storeJoints feedback =>
    (worker, { shared with context := shared.context.storeJoints feedback })
  | .exchangeState state =>
    match shared.context.exchangeState state with
    | (true, context) =>
      ({ worker with
          pending := .notify state :: worker.pending
          metrics := { worker.metrics with stateChanges := worker.metrics.stateChanges + 1 } },
        { shared with context })
    | (false, context) => (worker, { shared with context })
  | .notify state => (worker, { shared with context := shared.context.notify state })
  | .clearJoints => (worker, { shared with context := shared.context.clearJoints })
  | .clearState => (worker, { shared with context := shared.context.clearState })
  | .stop => (worker, { shared with running := false })

/-- Takes in one reception: counts it and schedules the accesses it calls for. -/
def accept (worker : Worker) (reception : Reception) : Worker :=
  match reception with
  | .ok bytes =>
    let outcome := worker.feed.strategy.parseBytes bytes
    { worker with
      phase := .looking
      metrics := worker.metrics.count outcome
      pending := match outcome with
        | .ok packet => worker.feed.ownership.accesses packet
        | .error _ => [] }
  | .error fault =>
    let metrics := worker.metrics.countFault fault
    if fault.isFatal then
      { worker with phase := .ended, metrics, pending := worker.feed.ownership.farewell }
    else
      { worker with phase := .looking, metrics }

/-- One step of a link. -/
def step {ι : Type} (worker : Worker) (shared : Shared ι) : Worker × Shared ι :=
  match worker.pending with
  | access :: pending => { worker with pending }.perform access shared
  | [] =>
    match worker.phase with
    | .looking =>
      ({ worker with phase := if shared.running then .receiving else .ended }, shared)
    | .receiving =>
      match worker.script with
      | [] => (worker, shared)
      | reception :: script => ({ worker with script }.accept reception, shared)
    | .ended => (worker, shared)

def isFinished (worker : Worker) : Bool :=
  worker.phase == .ended && worker.pending.isEmpty

/-- Whether a step would change nothing: the link has ended or waits for a reception. -/
def isResting (worker : Worker) : Bool :=
  worker.pending.isEmpty &&
    (worker.phase == .ended || (worker.phase == .receiving && worker.script.isEmpty))

end Worker

/-! ### A link on its own -/

/-- Processes one packet: counts it and brings the context up to date.  Answers what was read. -/
def process {ι : Type} (feed : Feed) (bytes : List UInt8) (context : Context ι)
    (metrics : Metrics) : Except PacketFault Packet × Context ι × Metrics :=
  let outcome := feed.strategy.parseBytes bytes
  let metrics := metrics.count outcome
  match outcome with
  | .error _ => (outcome, context, metrics)
  | .ok packet =>
    let context := context.noteFeedback
    let context :=
      if feed.ownership.joints then
        match JointFeedback.ofPacket? packet with
        | some feedback => context.publishJoints feedback
        | none => context
      else context
    if feed.ownership.state then
      match packet.robotState with
      | some state =>
        match context.updateState state with
        | (true, context) =>
          (outcome, context, { metrics with stateChanges := metrics.stateChanges + 1 })
        | (false, context) => (outcome, context, metrics)
      | none => (outcome, context, metrics)
    else (outcome, context, metrics)

/-- Takes back what a lost link kept. -/
def Ownership.release {ι : Type} (ownership : Ownership) (context : Context ι) : Context ι :=
  let context := if ownership.joints then context.clearJoints else context
  if ownership.state then context.clearState else context

/-- What a link on its own leaves behind. -/
structure Ingested (ι : Type) where
  shared : Shared ι
  metrics : Metrics
  unread : List Reception

/-- Runs a link until the running flag is found cleared, a fatal fault ends it, or the receptions
are used up. -/
def ingest {ι : Type} (feed : Feed) (shared : Shared ι) (metrics : Metrics) :
    List Reception → Ingested ι
  | [] => { shared, metrics, unread := [] }
  | reception :: script =>
    if shared.running then
      match reception with
      | .ok bytes =>
        let (_, context, metrics) := process feed bytes shared.context metrics
        ingest feed { shared with context } metrics script
      | .error fault =>
        let metrics := metrics.countFault fault
        if fault.isFatal then
          { shared := { context := feed.ownership.release shared.context, running := false }
            metrics, unread := script }
        else
          ingest feed shared metrics script
    else
      { shared, metrics, unread := reception :: script }

end ArmLink.Link
