import ArmLink.Coordinator.State

/-!
The calls that clients make: submitting a goal, cancelling one, telling of a change of state, and
shutting the coordinator down.

A goal that passes the checks takes the slot from the goal before it.  That one is interrupted and
aborted first; then the submitter waits until it is no longer executed.  Cancelling interrupts the
goal while the slot cannot change hands, waits, and gives the outcome.  A change of state away from
`running` interrupts without waiting for anybody.
-/

namespace ArmLink.Coordinator

open Goal Link Telemetry

/-- What a client can ask for. -/
inductive Request where
  | submit (goal : Goal)
  | cancel (id : Goal.Id)
  /-- The state of the arm is written; if it differs from the one before, the coordinator is told.
  -/
  | updateState (state : RobotState)
  | tellState (state : RobotState)
  | shutDown

/-- What a call answers. -/
inductive Answer where
  | submitted (id : Goal.Id)
  /-- Whether this call gave the goal its outcome. -/
  | canceled (first : Bool)
  /-- Whether the state differs from the one before. -/
  | updated (changed : Bool)
  | nothing
deriving DecidableEq, Repr

/-- Where a submitter stands. -/
inductive Submitting where
  /-- About to ask whether anything was heard lately. -/
  | askAlive (id : Goal.Id) (goal : Goal)
  /-- About to read the state and to check the goal. -/
  | askState (id : Goal.Id) (goal : Goal)
  | lockOld (job : Job)
  | readOld (job : Job)
  | flagOld (job : Job) (old : Goal.Id)
  | interruptOld (job : Job) (old : Goal.Id)
  | unlockOld (job : Job) (old : Option Goal.Id)
  | lockExec (job : Job) (superseded : Bool)
  /-- Waiting for the arm to come to rest. -/
  | settle (job : Job)
  | lockCurrent (job : Job)
  | install (job : Job)
  | unlockCurrent (job : Job)
  | lowerFlag (job : Job)
  | raiseGoal (job : Job)
  | lockPending (job : Job)
  | enqueue (job : Job)
  | unlockPending (id : Goal.Id)
  | unlockExec (id : Goal.Id)

/-- Where a canceller stands. -/
inductive Canceling where
  | lockCurrent (id : Goal.Id)
  | read (id : Goal.Id)
  | flag (id : Goal.Id)
  | interrupt (id : Goal.Id)
  | unlockCurrent (id : Goal.Id) (found : Bool)
  | lockExec (id : Goal.Id)
  | relock (id : Goal.Id)
  | vacate (id : Goal.Id) (first : Bool)
  | lowerGoal (id : Goal.Id) (first : Bool)
  | reunlock (id : Goal.Id) (first : Bool)
  | unlockExec (id : Goal.Id) (first : Bool)

/-- Where one who stops the arm for its state stands. -/
inductive Stopping where
  | loadGoal
  | loadFlag
  | swapFlag
  | interrupt
  | lockCurrent
  | read
  | unlockCurrent (goal : Option Goal.Id)
deriving DecidableEq, Repr

/-- Where one who shuts the coordinator down stands. -/
inductive Closing where
  | lowerRunning
  | raiseFlag
  | interrupt
  /-- Waiting for the worker to end. -/
  | join
  | lockPending
  | takePending
  | unlockPending (goal : Option Goal.Id)
  | lockCurrent
  | takeCurrent
  | unlockCurrent (goal : Option Goal.Id)
  | lowerGoal
deriving DecidableEq, Repr

/-- Where a client stands. -/
inductive ClientPlace where
  | submitting (place : Submitting)
  | canceling (place : Canceling)
  | exchanging (state : RobotState)
  | stopping (place : Stopping) (answer : Answer)
  | closing (place : Closing)
  | done (answer : Answer)

abbrev Client := Thread ClientPlace

def Submitting.held : Submitting → List Goal.Id
  | .askAlive id _ | .askState id _ => [id]
  | .flagOld job old | .interruptOld job old => [job.id, old]
  | .unlockOld job old => job.id :: old.toList
  | .lockOld job | .readOld job | .lockExec job _ | .settle job | .lockCurrent job | .install job
  | .unlockCurrent job | .lowerFlag job | .raiseGoal job | .lockPending job | .enqueue job =>
    [job.id]
  | .unlockPending _ | .unlockExec _ => []

def Canceling.held : Canceling → List Goal.Id
  | .lockCurrent _ | .read _ => []
  | .unlockCurrent id found => if found then [id] else []
  | .flag id | .interrupt id | .lockExec id | .relock id | .vacate id _ | .lowerGoal id _
  | .reunlock id _ | .unlockExec id _ => [id]

def Client.held (client : Client) : List Goal.Id :=
  (client.finishing.map (·.goal)).toList ++
    match client.place with
    | .submitting place => place.held
    | .canceling place => place.held
    | .stopping (.unlockCurrent goal) _ => goal.toList
    | .closing (.unlockPending goal) | .closing (.unlockCurrent goal) => goal.toList
    | _ => []

/-- A step of a submitter. -/
def Submitting.step (place : Submitting) (actor : Actor) (client : Client) (memory : Memory) :
    Option (Client × Memory) :=
  let go (place : Submitting) : Client := client.goto (.submitting place)
  match place with
  | .askAlive id goal =>
    if memory.context.isAlive then some (go (.askState id goal), memory)
    else some (client.finish id (.rejected (.unready .undefined)) (.done (.submitted id)), memory)
  | .askState id goal =>
    match validate memory.config true memory.context.robotState goal with
    | .ok points => some (go (.lockOld { id, points }), memory)
    | .error rejection =>
      some (client.finish id (.rejected rejection) (.done (.submitted id)), memory)
  | .lockOld job => (memory.acquire .current actor).map fun memory => (go (.readOld job), memory)
  | .readOld job =>
    match memory.current with
    | none => some (go (.unlockOld job none), memory)
    | some old => some (go (.flagOld job old), memory)
  | .flagOld job old => some (go (.interruptOld job old), { memory with interrupt := true })
  | .interruptOld job old => some (go (.unlockOld job (some old)), memory.interruptExecutor)
  | .unlockOld job old =>
    some (client.finishIf old (.aborted .superseded) (.submitting (.lockExec job old.isSome)),
      memory.release .current)
  | .lockExec job superseded =>
    (memory.acquire .exec actor).map fun memory =>
      (go (if superseded then .settle job else .lockCurrent job), memory)
  | .settle job => some (go (.lockCurrent job), memory)
  | .lockCurrent job =>
    (memory.acquire .current actor).map fun memory => (go (.install job), memory)
  | .install job =>
    some (client.finishIf memory.current (.aborted .superseded) (.submitting (.unlockCurrent job)),
      { memory with current := some job.id })
  | .unlockCurrent job => some (go (.lowerFlag job), memory.release .current)
  | .lowerFlag job => some (go (.raiseGoal job), { memory with interrupt := false })
  | .raiseGoal job => some (go (.lockPending job), { memory with hasGoal := true })
  | .lockPending job =>
    (memory.acquire .pending actor).map fun memory => (go (.enqueue job), memory)
  | .enqueue job => some (go (.unlockPending job.id), { memory with pending := some job })
  | .unlockPending id => some (go (.unlockExec id), memory.release .pending)
  | .unlockExec id => some (client.goto (.done (.submitted id)), memory.release .exec)

/-- A step of a canceller. -/
def Canceling.step (place : Canceling) (actor : Actor) (client : Client) (memory : Memory) :
    Option (Client × Memory) :=
  let go (place : Canceling) : Client := client.goto (.canceling place)
  match place with
  | .lockCurrent id => (memory.acquire .current actor).map fun memory => (go (.read id), memory)
  | .read id =>
    if memory.current = some id then some (go (.flag id), memory)
    else some (go (.unlockCurrent id false), memory)
  | .flag id => some (go (.interrupt id), { memory with interrupt := true })
  | .interrupt id => some (go (.unlockCurrent id true), memory.interruptExecutor)
  | .unlockCurrent id found =>
    some (if found then go (.lockExec id) else client.goto (.done (.canceled false)),
      memory.release .current)
  | .lockExec id =>
    (memory.acquire .exec actor).map fun memory =>
      (client.finish id .canceled (.canceling (.relock id)), memory)
  | .relock id =>
    (memory.acquire .current actor).map fun memory => (go (.vacate id client.first), memory)
  | .vacate id first =>
    if memory.current = some id then
      some (go (.lowerGoal id first), { memory with current := none })
    else some (go (.reunlock id first), memory)
  | .lowerGoal id first => some (go (.reunlock id first), { memory with hasGoal := false })
  | .reunlock id first => some (go (.unlockExec id first), memory.release .current)
  | .unlockExec _ first => some (client.goto (.done (.canceled first)), memory.release .exec)

/-- A step of one who stops the arm for its state. -/
def Stopping.step (place : Stopping) (answer : Answer) (actor : Actor) (client : Client)
    (memory : Memory) : Option (Client × Memory) :=
  let go (place : Stopping) : Client := client.goto (.stopping place answer)
  let done : Client := client.goto (.done answer)
  match place with
  | .loadGoal => some (if memory.hasGoal then go .loadFlag else done, memory)
  | .loadFlag => some (if memory.interrupt then done else go .swapFlag, memory)
  | .swapFlag =>
    some (if memory.interrupt then done else go .interrupt, { memory with interrupt := true })
  | .interrupt => some (go .lockCurrent, memory.interruptExecutor)
  | .lockCurrent => (memory.acquire .current actor).map fun memory => (go .read, memory)
  | .read =>
    some (client.finishIf memory.current (.aborted .safetyStop)
      (.stopping (.unlockCurrent memory.current) answer), memory)
  | .unlockCurrent _ => some (done, memory.release .current)

/-- Where one begins who is told of a state: the arm is stopped unless it may run. -/
def ClientPlace.told (state : RobotState) (answer : Answer) : ClientPlace :=
  if state = .running then .done answer else .stopping .loadGoal answer

/-- A step of one who shuts the coordinator down.  `workerEnded` says whether the worker has ended.
-/
def Closing.step (place : Closing) (workerEnded : Bool) (actor : Actor) (client : Client)
    (memory : Memory) : Option (Client × Memory) :=
  let go (place : Closing) : Client := client.goto (.closing place)
  match place with
  | .lowerRunning => some (go .raiseFlag, { memory with running := false })
  | .raiseFlag => some (go .interrupt, { memory with interrupt := true })
  | .interrupt => some (go .join, memory.interruptExecutor)
  | .join => if workerEnded then some (go .lockPending, memory) else none
  | .lockPending => (memory.acquire .pending actor).map fun memory => (go .takePending, memory)
  | .takePending =>
    let goal := memory.pending.map (·.id)
    some (client.finishIf goal (.aborted .shutDown) (.closing (.unlockPending goal)),
      { memory with pending := none })
  | .unlockPending _ => some (go .lockCurrent, memory.release .pending)
  | .lockCurrent => (memory.acquire .current actor).map fun memory => (go .takeCurrent, memory)
  | .takeCurrent =>
    some (client.finishIf memory.current (.aborted .shutDown)
      (.closing (.unlockCurrent memory.current)), { memory with current := none })
  | .unlockCurrent _ => some (go .lowerGoal, memory.release .current)
  | .lowerGoal => some (client.goto (.done .nothing), { memory with hasGoal := false })

/-- A step of a client.  There is none if the client waits or is done. -/
def Client.step (client : Client) (workerEnded : Bool) (actor : Actor) (memory : Memory) :
    Option (Client × Memory) :=
  match client.finishing with
  | some finishing => some (client.finishStep finishing memory)
  | none =>
    match client.place with
    | .submitting place => place.step actor client memory
    | .canceling place => place.step actor client memory
    | .exchanging state =>
      let (changed, context) := memory.context.exchangeState state
      some (client.goto (if changed then .told state (.updated true) else .done (.updated false)),
        { memory with context })
    | .stopping place answer => place.step answer actor client memory
    | .closing place => place.step workerEnded actor client memory
    | .done _ => none

end ArmLink.Coordinator
