import ArmLink.Coordinator.State

/-!
The thread that executes goals.  It takes the waiting goal, and under the lock `exec` skips it if it
has its outcome already, or else accepts it, lets the executor get ready, looks whether it was
interrupted meanwhile, lets the executor follow the points, watches for arrival, and stops the
executor.  In the end it gives the slot up if the goal still holds it.
-/

namespace ArmLink.Coordinator

open Goal Motion

/-- What following the points came to. -/
inductive Streamed where
  | completed
  | interrupted
deriving DecidableEq, Repr

/-- What the executor does, where it is the executor's turn. -/
inductive Choice where
  /-- It goes on: while following points, it looks whether to break off and sends the next record.
  -/
  | goOn
  | result (outcome : Except Follower.Fault Unit)
  | returned (outcome : Except Follower.Fault Streamed)

/-- Where the worker stands. -/
inductive WorkerPlace where
  | checkRunning
  | lockPending
  | look
  /-- About to give the lock back and to wait. -/
  | sleep
  /-- Waiting to be woken, or for some time to pass. -/
  | sleeping
  | lookAgain
  | unlockPending (job : Option Job)
  | lockExec (job : Job)
  | checkFinished (job : Job)
  | checkAccept (job : Job)
  | sendAccepted (job : Job)
  | startPoint (job : Job)
  | start (job : Job)
  | starting (job : Job)
  | checkFlag (job : Job)
  | beginStream (job : Job)
  /-- The executor follows the points; sending began at `since`. -/
  | streaming (job : Job) (since : Duration)
  /-- The executor has looked, and is about to send the next record. -/
  | sending (job : Job) (since : Duration)
  /-- The executor has seen that it is to break off, and is about to send the last record. -/
  | holding (job : Job)
  | timedCheck (job : Job)
  | monitor (job : Job) (since : Duration)
  | graceClock (job : Job) (monitor : Monitor)
  | graceFlag (job : Job) (monitor : Monitor)
  | pollFlag (job : Job) (monitor : Monitor)
  | pollJoints (job : Job) (monitor : Monitor)
  | pollClock (job : Job) (monitor : Monitor)
  | stop (job : Job) (hang : Option Follower.Fault)
  | hang (job : Job) (fault : Follower.Fault)
  | checkClosing (job : Job)
  | lockCurrent (job : Job)
  | vacate (job : Job)
  | lowerGoal (job : Job)
  | unlockCurrent (job : Job)
  | unlockExec (job : Job)
  | ended
  /-- The worker broke down: a time limit could not be represented. -/
  | dead

abbrev Worker := Thread WorkerPlace

def WorkerPlace.job? : WorkerPlace → Option Job
  | .checkRunning | .lockPending | .look | .sleep | .sleeping | .lookAgain | .ended | .dead => none
  | .unlockPending job => job
  | .lockExec job | .checkFinished job | .checkAccept job | .sendAccepted job | .startPoint job
  | .start job | .starting job | .checkFlag job | .beginStream job | .streaming job _
  | .sending job _ | .holding job | .timedCheck job | .monitor job _ | .graceClock job _
  | .graceFlag job _ | .pollFlag job _ | .pollJoints job _ | .pollClock job _ | .stop job _
  | .hang job _ | .checkClosing job | .lockCurrent job | .vacate job | .lowerGoal job
  | .unlockCurrent job | .unlockExec job => some job

namespace Worker

def held (worker : Worker) : List Goal.Id :=
  (worker.finishing.map (·.goal)).toList ++ (worker.place.job?.map (·.id)).toList

def isGone (worker : Worker) : Bool :=
  match worker.place with
  | .ended | .dead => true
  | _ => false

/-- Where the worker goes on when the executor has returned from following the points. -/
def afterStream (worker : Worker) (config : Config) (job : Job) (since : Duration) :
    Except Follower.Fault Streamed → Worker
  | .ok .completed =>
    worker.goto (if config.smooth then .monitor job since else .timedCheck job)
  | .ok .interrupted => worker.goto (.stop job none)
  | .error fault =>
    if fault.isHang then
      worker.finish job.id (.aborted (.hung fault)) (.stop job (some fault))
    else
      worker.finish job.id (.aborted (.notExecutable fault)) (.stop job none)

def takeStep (worker : Worker) (memory : Memory) : WorkerPlace → Option (Worker × Memory)
  | .checkRunning =>
    some (worker.goto (if memory.running then .lockPending else .ended), memory)
  | .lockPending =>
    (memory.acquire .pending .worker).map fun memory => (worker.goto .look, memory)
  | .look =>
    match memory.pending with
    | some job => some (worker.goto (.unlockPending (some job)), { memory with pending := none })
    | none => some (worker.goto .sleep, memory)
  | .sleep => some (worker.goto .sleeping, memory.release .pending)
  | .sleeping =>
    (memory.acquire .pending .worker).map fun memory => (worker.goto .lookAgain, memory)
  | .lookAgain =>
    some (worker.goto (.unlockPending memory.pending), { memory with pending := none })
  | .unlockPending job =>
    some (worker.goto (match job with | some job => .lockExec job | none => .checkRunning),
      memory.release .pending)
  | _ => none

/-- The steps from the lock to the first record. -/
def beginStep (worker : Worker) (choice : Choice) (memory : Memory) :
    WorkerPlace → Option (Worker × Memory)
  | .lockExec job =>
    (memory.acquire .exec .worker).map fun memory => (worker.goto (.checkFinished job), memory)
  | .checkFinished job =>
    some (worker.goto (if (memory.progress job.id).finished then .checkClosing job
      else .checkAccept job), memory)
  | .checkAccept job =>
    some (worker.goto (if (memory.progress job.id).finished then .startPoint job
      else .sendAccepted job), memory)
  | .sendAccepted job =>
    some (worker.goto (.startPoint job), memory.modify job.id (·.send .accepted))
  | .startPoint job =>
    match withStartPoint memory.context.joints job.points with
    | some points => some (worker.goto (.start { job with points }), memory)
    | none => some (worker.finish job.id (.aborted .noFeedback) (.checkClosing job), memory)
  | .start job =>
    some (worker.goto (.starting job),
      { memory with executorInterrupt := false }.note (.start job.id))
  | .starting job =>
    match choice with
    | .result (.ok ()) => some (worker.goto (.checkFlag job), memory)
    | .result (.error fault) =>
      some (worker.finish job.id (.aborted (.notConnected fault)) (.checkClosing job), memory)
    | _ => none
  | .checkFlag job =>
    some (worker.goto (if memory.interrupt then .stop job none else .beginStream job), memory)
  | .beginStream job =>
    some (worker.goto (.streaming job memory.clock),
      memory.note (.stream job.id memory.config.mode job.points))
  | _ => none

/-- The steps while the executor follows the points. -/
def streamStep (worker : Worker) (choice : Choice) (memory : Memory) :
    WorkerPlace → Option (Worker × Memory)
  | .streaming job since =>
    match choice with
    | .returned outcome => some (worker.afterStream memory.config job since outcome, memory)
    | .goOn =>
      some (worker.goto (if memory.executorInterrupt then .holding job else .sending job since),
        memory)
    | .result _ => none
  | .sending job since =>
    match choice with
    | .result (.ok ()) => some (worker.goto (.streaming job since), memory.note (.servo job.id))
    | .result (.error fault) =>
      some (worker.afterStream memory.config job since (.error fault), memory)
    | _ => none
  | .holding job =>
    match choice with
    | .result (.ok ()) =>
      some (worker.afterStream memory.config job .zero (.ok .interrupted),
        memory.note (.hold job.id))
    | .result (.error fault) =>
      some (worker.afterStream memory.config job .zero (.error fault), memory)
    | _ => none
  | _ => none

def watchStep (worker : Worker) (memory : Memory) : WorkerPlace → Option (Worker × Memory)
  | .timedCheck job =>
    some (if memory.interrupt then worker.goto (.stop job none)
      else worker.finish job.id .succeeded (.stop job none), memory)
  | .monitor job since =>
    match Monitor.make memory.config since job.points with
    | .ok monitor => some (worker.goto (.graceClock job monitor), memory)
    | .error _ => some (worker.goto .dead, memory.release .exec)
  | .graceClock job monitor =>
    some (worker.goto (if memory.clock < monitor.graceEnd then .graceFlag job monitor
      else .pollFlag job monitor), memory)
  | .graceFlag job monitor =>
    some (worker.goto (if memory.interrupt then .stop job none else .graceClock job monitor),
      memory)
  | .pollFlag job monitor =>
    some (worker.goto (if memory.interrupt then .stop job none else .pollJoints job monitor),
      memory)
  | .pollJoints job monitor =>
    some (if monitor.hasArrived memory.context.joints then
        worker.finish job.id .succeeded (.stop job none)
      else worker.goto (.pollClock job monitor), memory)
  | .pollClock job monitor =>
    some (if monitor.deadline ≤ memory.clock then
        worker.finish job.id (.aborted .timedOut) (.stop job none)
      else worker.goto (.pollFlag job monitor), memory)
  | _ => none

def endStep (worker : Worker) (memory : Memory) : WorkerPlace → Option (Worker × Memory)
  | .stop job hang =>
    some (worker.goto (match hang with | some fault => .hang job fault | none => .checkClosing job),
      { memory with executorInterrupt := true }.note (.stop job.id))
  | .hang job fault => some (worker.goto (.checkClosing job), memory.note (.hang job.id fault))
  | .checkClosing job =>
    some (if memory.running then worker.goto (.lockCurrent job)
      else worker.finish job.id (.aborted .shutDown) (.lockCurrent job), memory)
  | .lockCurrent job =>
    (memory.acquire .current .worker).map fun memory => (worker.goto (.vacate job), memory)
  | .vacate job =>
    if memory.current = some job.id then
      some (worker.goto (.lowerGoal job), { memory with current := none })
    else some (worker.goto (.unlockCurrent job), memory)
  | .lowerGoal job => some (worker.goto (.unlockCurrent job), { memory with hasGoal := false })
  | .unlockCurrent job => some (worker.goto (.unlockExec job), memory.release .current)
  | .unlockExec _ => some (worker.goto .checkRunning, memory.release .exec)
  | _ => none

/-- A step of the worker.  There is none if the worker waits or is gone, or if the executor's turn
does not fit. -/
def step (worker : Worker) (choice : Choice) (memory : Memory) : Option (Worker × Memory) :=
  match worker.finishing with
  | some finishing => some (worker.finishStep finishing memory)
  | none =>
    match worker.place with
    | .checkRunning | .lockPending | .look | .sleep | .sleeping | .lookAgain | .unlockPending _ =>
      worker.takeStep memory worker.place
    | .lockExec _ | .checkFinished _ | .checkAccept _ | .sendAccepted _ | .startPoint _ | .start _
    | .starting _ | .checkFlag _ | .beginStream _ => worker.beginStep choice memory worker.place
    | .streaming .. | .sending .. | .holding _ => worker.streamStep choice memory worker.place
    | .timedCheck _ | .monitor .. | .graceClock .. | .graceFlag .. | .pollFlag .. | .pollJoints ..
    | .pollClock .. => worker.watchStep memory worker.place
    | .stop .. | .hang .. | .checkClosing _ | .lockCurrent _ | .vacate _ | .lowerGoal _
    | .unlockCurrent _ | .unlockExec _ => worker.endStep memory worker.place
    | .ended | .dead => none

end Worker

end ArmLink.Coordinator
