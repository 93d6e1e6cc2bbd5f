import ArmLink.Proofs.Coordinator.Turns

/-!
What a step of a thread can be.

`ClientRule` and `WorkerRule` list the steps of the threads, one rule for each way in which a step
can go.  Every step is one of these (`clientRule_of_step`, `workerRule_of_step`), so what all steps
keep is shown by looking at the rules, without opening the programs of the threads again.
-/

namespace ArmLink.Coordinator

open Goal Link Motion Telemetry

/-! ### Locks and outcomes -/

/-- A memory in which a lock belongs to a thread. -/
def Memory.taken (memory : Memory) (lock : Lock) (actor : Actor) : Memory :=
  { memory with owner := fun other => if other = lock then some actor else memory.owner other }

theorem map_acquire_eq_some {α : Type} {memory memory' : Memory} {lock : Lock} {actor : Actor}
    {result : Memory → α × Memory} {value : α}
    (acquired : (memory.acquire lock actor).map result = some (value, memory')) :
    memory.owner lock = none ∧ result (memory.taken lock actor) = (value, memory') := by
  obtain ⟨taken, acquired, result⟩ := Option.map_eq_some_iff.mp acquired
  unfold Memory.acquire at acquired
  cases owner : memory.owner lock with
  | some _ => simp [owner] at acquired
  | none =>
    rw [owner] at acquired
    rw [← Option.some.inj acquired] at result
    exact ⟨rfl, result⟩

/-- The steps of giving a goal its outcome. -/
inductive FinishRule {π : Type} (thread : Thread π) (memory : Memory) :
    Thread π → Memory → Prop where
  | mark {goal : Goal.Id} {outcome : Outcome}
      (finishing : thread.finishing = some (.mark goal outcome))
      (undecided : (memory.progress goal).finished = false) :
      FinishRule thread memory
        { thread with finishing := some (.send goal outcome), first := true }
        (memory.modify goal fun progress => { progress with finished := true })
  | late {goal : Goal.Id} {outcome : Outcome}
      (finishing : thread.finishing = some (.mark goal outcome))
      (decided : (memory.progress goal).finished = true) :
      FinishRule thread memory { thread with finishing := none, first := false } memory
  | send {goal : Goal.Id} {outcome : Outcome}
      (finishing : thread.finishing = some (.send goal outcome)) :
      FinishRule thread memory { thread with finishing := none }
        (memory.modify goal (·.send (.finished outcome)))

theorem finishRule_of_finishStep {π : Type} {thread thread' : Thread π} {memory memory' : Memory}
    {finishing : Finishing} (busy : thread.finishing = some finishing)
    (step : thread.finishStep finishing memory = (thread', memory')) :
    FinishRule thread memory thread' memory' := by
  cases finishing with
  | mark goal outcome =>
    simp only [Thread.finishStep] at step
    split at step
    · rename_i decided
      cases step
      exact .late busy decided
    · rename_i undecided
      cases step
      exact .mark busy (by simpa using undecided)
  | send goal outcome =>
    cases step
    exact .send busy

/-! ### Steps of clients -/

/-- The steps of a submitter with nothing to finish first. -/
inductive SubmitRule (actor : Actor) (client : Client) (memory : Memory) :
    Submitting → Client → Memory → Prop where
  | alive {id : Goal.Id} {goal : Goal} :
      SubmitRule actor client memory (.askAlive id goal)
        (client.goto (.submitting (.askState id goal))) memory
  | notAlive {id : Goal.Id} {goal : Goal} :
      SubmitRule actor client memory (.askAlive id goal)
        (client.finish id (.rejected (.unready .undefined)) (.done (.submitted id))) memory
  | valid {id : Goal.Id} {goal : Goal} {points : List (Waypoint Float)}
      (checked : validate memory.config true memory.context.robotState goal = .ok points) :
      SubmitRule actor client memory (.askState id goal)
        (client.goto (.submitting (.lockOld { id, points }))) memory
  | invalid {id : Goal.Id} {goal : Goal} {rejection : Rejection}
      (checked : validate memory.config true memory.context.robotState goal = .error rejection) :
      SubmitRule actor client memory (.askState id goal)
        (client.finish id (.rejected rejection) (.done (.submitted id))) memory
  | lockOld {job : Job} (free : memory.owner .current = none) :
      SubmitRule actor client memory (.lockOld job)
        (client.goto (.submitting (.readOld job))) (memory.taken .current actor)
  | noOld {job : Job} (vacant : memory.current = none) :
      SubmitRule actor client memory (.readOld job)
        (client.goto (.submitting (.unlockOld job none))) memory
  | foundOld {job : Job} {old : Goal.Id} (found : memory.current = some old) :
      SubmitRule actor client memory (.readOld job)
        (client.goto (.submitting (.flagOld job old))) memory
  | flagOld {job : Job} {old : Goal.Id} :
      SubmitRule actor client memory (.flagOld job old)
        (client.goto (.submitting (.interruptOld job old))) { memory with interrupt := true }
  | interruptOld {job : Job} {old : Goal.Id} :
      SubmitRule actor client memory (.interruptOld job old)
        (client.goto (.submitting (.unlockOld job (some old)))) memory.interruptExecutor
  | unlockOld {job : Job} {old : Option Goal.Id} :
      SubmitRule actor client memory (.unlockOld job old)
        (client.finishIf old (.aborted .superseded) (.submitting (.lockExec job old.isSome)))
        (memory.release .current)
  | lockExec {job : Job} {superseded : Bool} (free : memory.owner .exec = none) :
      SubmitRule actor client memory (.lockExec job superseded)
        (client.goto (.submitting (if superseded then .settle job else .lockCurrent job)))
        (memory.taken .exec actor)
  | settle {job : Job} :
      SubmitRule actor client memory (.settle job)
        (client.goto (.submitting (.lockCurrent job))) memory
  | lockCurrent {job : Job} (free : memory.owner .current = none) :
      SubmitRule actor client memory (.lockCurrent job)
        (client.goto (.submitting (.install job))) (memory.taken .current actor)
  | install {job : Job} :
      SubmitRule actor client memory (.install job)
        (client.finishIf memory.current (.aborted .superseded) (.submitting (.unlockCurrent job)))
        { memory with current := some job.id }
  | unlockCurrent {job : Job} :
      SubmitRule actor client memory (.unlockCurrent job)
        (client.goto (.submitting (.lowerFlag job))) (memory.release .current)
  | lowerFlag {job : Job} :
      SubmitRule actor client memory (.lowerFlag job)
        (client.goto (.submitting (.raiseGoal job))) { memory with interrupt := false }
  | raiseGoal {job : Job} :
      SubmitRule actor client memory (.raiseGoal job)
        (client.goto (.submitting (.lockPending job))) { memory with hasGoal := true }
  | lockPending {job : Job} (free : memory.owner .pending = none) :
      SubmitRule actor client memory (.lockPending job)
        (client.goto (.submitting (.enqueue job))) (memory.taken .pending actor)
  | enqueue {job : Job} :
      SubmitRule actor client memory (.enqueue job)
        (client.goto (.submitting (.unlockPending job.id))) { memory with pending := some job }
  | unlockPending {id : Goal.Id} :
      SubmitRule actor client memory (.unlockPending id)
        (client.goto (.submitting (.unlockExec id))) (memory.release .pending)
  | unlockExec {id : Goal.Id} :
      SubmitRule actor client memory (.unlockExec id)
        (client.goto (.done (.submitted id))) (memory.release .exec)

/-- The steps of a canceller with nothing to finish first. -/
inductive CancelRule (actor : Actor) (client : Client) (memory : Memory) :
    Canceling → Client → Memory → Prop where
  | lockCurrent {id : Goal.Id} (free : memory.owner .current = none) :
      CancelRule actor client memory (.lockCurrent id)
        (client.goto (.canceling (.read id))) (memory.taken .current actor)
  | found {id : Goal.Id} (isCurrent : memory.current = some id) :
      CancelRule actor client memory (.read id) (client.goto (.canceling (.flag id))) memory
  | notFound {id : Goal.Id} (notCurrent : memory.current ≠ some id) :
      CancelRule actor client memory (.read id)
        (client.goto (.canceling (.unlockCurrent id false))) memory
  | flag {id : Goal.Id} :
      CancelRule actor client memory (.flag id)
        (client.goto (.canceling (.interrupt id))) { memory with interrupt := true }
  | interrupt {id : Goal.Id} :
      CancelRule actor client memory (.interrupt id)
        (client.goto (.canceling (.unlockCurrent id true))) memory.interruptExecutor
  | unlockCurrent {id : Goal.Id} :
      CancelRule actor client memory (.unlockCurrent id true)
        (client.goto (.canceling (.lockExec id))) (memory.release .current)
  | giveUp {id : Goal.Id} :
      CancelRule actor client memory (.unlockCurrent id false)
        (client.goto (.done (.canceled false))) (memory.release .current)
  | lockExec {id : Goal.Id} (free : memory.owner .exec = none) :
      CancelRule actor client memory (.lockExec id)
        (client.finish id .canceled (.canceling (.relock id))) (memory.taken .exec actor)
  | relock {id : Goal.Id} (free : memory.owner .current = none) :
      CancelRule actor client memory (.relock id)
        (client.goto (.canceling (.vacate id client.first))) (memory.taken .current actor)
  | vacate {id : Goal.Id} {first : Bool} (isCurrent : memory.current = some id) :
      CancelRule actor client memory (.vacate id first)
        (client.goto (.canceling (.lowerGoal id first))) { memory with current := none }
  | keep {id : Goal.Id} {first : Bool} (notCurrent : memory.current ≠ some id) :
      CancelRule actor client memory (.vacate id first)
        (client.goto (.canceling (.reunlock id first))) memory
  | lowerGoal {id : Goal.Id} {first : Bool} :
      CancelRule actor client memory (.lowerGoal id first)
        (client.goto (.canceling (.reunlock id first))) { memory with hasGoal := false }
  | reunlock {id : Goal.Id} {first : Bool} :
      CancelRule actor client memory (.reunlock id first)
        (client.goto (.canceling (.unlockExec id first))) (memory.release .current)
  | unlockExec {id : Goal.Id} {first : Bool} :
      CancelRule actor client memory (.unlockExec id first)
        (client.goto (.done (.canceled first))) (memory.release .exec)

/-- The steps of one who stops the arm for its state, with nothing to finish first. -/
inductive StopRule (answer : Answer) (actor : Actor) (client : Client) (memory : Memory) :
    Stopping → Client → Memory → Prop where
  | noGoal (noGoal : memory.hasGoal = false) :
      StopRule answer actor client memory .loadGoal (client.goto (.done answer)) memory
  | goal (hasGoal : memory.hasGoal = true) :
      StopRule answer actor client memory .loadGoal (client.goto (.stopping .loadFlag answer))
        memory
  | flagged (isUp : memory.interrupt = true) :
      StopRule answer actor client memory .loadFlag (client.goto (.done answer)) memory
  | notFlagged (isDown : memory.interrupt = false) :
      StopRule answer actor client memory .loadFlag (client.goto (.stopping .swapFlag answer))
        memory
  | swapLate (isUp : memory.interrupt = true) :
      StopRule answer actor client memory .swapFlag (client.goto (.done answer))
        { memory with interrupt := true }
  | swapFlag (isDown : memory.interrupt = false) :
      StopRule answer actor client memory .swapFlag (client.goto (.stopping .interrupt answer))
        { memory with interrupt := true }
  | interrupt :
      StopRule answer actor client memory .interrupt (client.goto (.stopping .lockCurrent answer))
        memory.interruptExecutor
  | lockCurrent (free : memory.owner .current = none) :
      StopRule answer actor client memory .lockCurrent (client.goto (.stopping .read answer))
        (memory.taken .current actor)
  | read :
      StopRule answer actor client memory .read
        (client.finishIf memory.current (.aborted .safetyStop)
          (.stopping (.unlockCurrent memory.current) answer)) memory
  | unlockCurrent {goal : Option Goal.Id} :
      StopRule answer actor client memory (.unlockCurrent goal) (client.goto (.done answer))
        (memory.release .current)

/-- The steps of one who shuts the coordinator down, with nothing to finish first. -/
inductive CloseRule (workerEnded : Bool) (actor : Actor) (client : Client) (memory : Memory) :
    Closing → Client → Memory → Prop where
  | lowerRunning :
      CloseRule workerEnded actor client memory .lowerRunning
        (client.goto (.closing .raiseFlag)) { memory with running := false }
  | raiseFlag :
      CloseRule workerEnded actor client memory .raiseFlag
        (client.goto (.closing .interrupt)) { memory with interrupt := true }
  | interrupt :
      CloseRule workerEnded actor client memory .interrupt
        (client.goto (.closing .join)) memory.interruptExecutor
  | join (ended : workerEnded = true) :
      CloseRule workerEnded actor client memory .join
        (client.goto (.closing .lockPending)) memory
  | lockPending (free : memory.owner .pending = none) :
      CloseRule workerEnded actor client memory .lockPending
        (client.goto (.closing .takePending)) (memory.taken .pending actor)
  | takePending :
      CloseRule workerEnded actor client memory .takePending
        (client.finishIf (memory.pending.map (·.id)) (.aborted .shutDown)
          (.closing (.unlockPending (memory.pending.map (·.id))))) { memory with pending := none }
  | unlockPending {goal : Option Goal.Id} :
      CloseRule workerEnded actor client memory (.unlockPending goal)
        (client.goto (.closing .lockCurrent)) (memory.release .pending)
  | lockCurrent (free : memory.owner .current = none) :
      CloseRule workerEnded actor client memory .lockCurrent
        (client.goto (.closing .takeCurrent)) (memory.taken .current actor)
  | takeCurrent :
      CloseRule workerEnded actor client memory .takeCurrent
        (client.finishIf memory.current (.aborted .shutDown)
          (.closing (.unlockCurrent memory.current))) { memory with current := none }
  | unlockCurrent {goal : Option Goal.Id} :
      CloseRule workerEnded actor client memory (.unlockCurrent goal)
        (client.goto (.closing .lowerGoal)) (memory.release .current)
  | lowerGoal :
      CloseRule workerEnded actor client memory .lowerGoal
        (client.goto (.done .nothing)) { memory with hasGoal := false }

/-- The steps of a client. -/
inductive ClientRule (workerEnded : Bool) (actor : Actor) (client : Client) (memory : Memory) :
    Client → Memory → Prop where
  | finish {client' : Client} {memory' : Memory}
      (rule : FinishRule client memory client' memory') :
      ClientRule workerEnded actor client memory client' memory'
  | submit {place : Submitting} {client' : Client} {memory' : Memory}
      (free : client.finishing = none) (stands : client.place = .submitting place)
      (rule : SubmitRule actor client memory place client' memory') :
      ClientRule workerEnded actor client memory client' memory'
  | cancel {place : Canceling} {client' : Client} {memory' : Memory}
      (free : client.finishing = none) (stands : client.place = .canceling place)
      (rule : CancelRule actor client memory place client' memory') :
      ClientRule workerEnded actor client memory client' memory'
  | exchange {state : RobotState}
      (free : client.finishing = none) (stands : client.place = .exchanging state) :
      ClientRule workerEnded actor client memory
        (client.goto (if (memory.context.exchangeState state).1 then .told state (.updated true)
          else .done (.updated false)))
        { memory with context := (memory.context.exchangeState state).2 }
  | stop {place : Stopping} {answer : Answer} {client' : Client} {memory' : Memory}
      (free : client.finishing = none) (stands : client.place = .stopping place answer)
      (rule : StopRule answer actor client memory place client' memory') :
      ClientRule workerEnded actor client memory client' memory'
  | close {place : Closing} {client' : Client} {memory' : Memory}
      (free : client.finishing = none) (stands : client.place = .closing place)
      (rule : CloseRule workerEnded actor client memory place client' memory') :
      ClientRule workerEnded actor client memory client' memory'

/-- Whoever has written a state is done, or begins to stop the arm. -/
theorem told_cases (changed : Bool) (state : RobotState) :
    ∃ answer, (if changed then ClientPlace.told state (.updated true) else .done (.updated false)) =
        .done answer ∨
      (if changed then ClientPlace.told state (.updated true) else .done (.updated false)) =
        .stopping .loadGoal answer := by
  cases changed with
  | false => exact ⟨.updated false, .inl rfl⟩
  | true =>
    by_cases running : state = .running
    · exact ⟨.updated true, .inl (by simp [ClientPlace.told, running])⟩
    · exact ⟨.updated true, .inr (by simp [ClientPlace.told, running])⟩

section ClientSteps

variable {workerEnded : Bool} {actor : Actor} {client client' : Client} {memory memory' : Memory}

theorem submitRule_of_step {place : Submitting}
    (step : place.step actor client memory = some (client', memory')) :
    SubmitRule actor client memory place client' memory' := by
  cases place with
  | askAlive id goal =>
    simp only [Submitting.step] at step
    split at step <;> cases step
    · exact .alive
    · exact .notAlive
  | askState id goal =>
    simp only [Submitting.step] at step
    split at step <;> cases step
    · exact .valid ‹_›
    · exact .invalid ‹_›
  | readOld job =>
    simp only [Submitting.step] at step
    split at step <;> cases step
    · exact .noOld ‹_›
    · exact .foundOld ‹_›
  | lockOld job | lockExec job superseded | lockCurrent job | lockPending job =>
    obtain ⟨free, result⟩ := map_acquire_eq_some step
    cases result
    constructor
    exact free
  | flagOld | interruptOld | unlockOld | settle | install | unlockCurrent | lowerFlag | raiseGoal
  | enqueue | unlockPending | unlockExec =>
    cases step
    constructor

theorem cancelRule_of_step {place : Canceling}
    (step : place.step actor client memory = some (client', memory')) :
    CancelRule actor client memory place client' memory' := by
  cases place with
  | lockCurrent id | lockExec id | relock id =>
    obtain ⟨free, result⟩ := map_acquire_eq_some step
    cases result
    constructor
    exact free
  | read id =>
    simp only [Canceling.step] at step
    split at step <;> cases step
    · exact .found ‹_›
    · exact .notFound ‹_›
  | vacate id first =>
    simp only [Canceling.step] at step
    split at step <;> cases step
    · exact .vacate ‹_›
    · exact .keep ‹_›
  | unlockCurrent id found =>
    cases found <;> cases step <;> constructor
  | flag | interrupt | lowerGoal | reunlock | unlockExec =>
    cases step
    constructor

theorem stopRule_of_step {place : Stopping} {answer : Answer}
    (step : place.step answer actor client memory = some (client', memory')) :
    StopRule answer actor client memory place client' memory' := by
  cases place with
  | loadGoal =>
    cases step
    cases hasGoal : memory.hasGoal
    · exact .noGoal hasGoal
    · exact .goal hasGoal
  | loadFlag =>
    cases step
    cases interrupt : memory.interrupt
    · exact .notFlagged interrupt
    · exact .flagged interrupt
  | swapFlag =>
    cases step
    cases interrupt : memory.interrupt
    · exact .swapFlag interrupt
    · exact .swapLate interrupt
  | lockCurrent =>
    obtain ⟨free, result⟩ := map_acquire_eq_some step
    cases result
    exact .lockCurrent free
  | interrupt | read | unlockCurrent =>
    cases step
    constructor

theorem closeRule_of_step {place : Closing}
    (step : place.step workerEnded actor client memory = some (client', memory')) :
    CloseRule workerEnded actor client memory place client' memory' := by
  cases place with
  | lockPending | lockCurrent =>
    obtain ⟨free, result⟩ := map_acquire_eq_some step
    cases result
    constructor
    exact free
  | join =>
    simp only [Closing.step] at step
    split at step <;> cases step
    exact .join ‹_›
  | lowerRunning | raiseFlag | interrupt | takePending | unlockPending | takeCurrent
  | unlockCurrent | lowerGoal =>
    cases step
    constructor

/-- Every step of a client is one of the rules. -/
theorem clientRule_of_step (step : client.step workerEnded actor memory = some (client', memory')) :
    ClientRule workerEnded actor client memory client' memory' := by
  unfold Client.step at step
  split at step
  · exact .finish (finishRule_of_finishStep ‹_› (Option.some.inj step))
  · split at step
    · exact .submit ‹_› ‹_› (submitRule_of_step step)
    · exact .cancel ‹_› ‹_› (cancelRule_of_step step)
    · cases step
      exact .exchange ‹_› ‹_›
    · exact .stop ‹_› ‹_› (stopRule_of_step step)
    · exact .close ‹_› ‹_› (closeRule_of_step step)
    · cases step

end ClientSteps

/-! ### Steps of the worker -/

/-- The job of a place at which the worker watches for arrival. -/
def WorkerPlace.watched : WorkerPlace → Option Job
  | .timedCheck job | .monitor job _ | .graceClock job _ | .graceFlag job _ | .pollFlag job _
  | .pollJoints job _ | .pollClock job _ => some job
  | _ => none

/-- The steps of the worker with nothing to finish first. -/
inductive WorkRule (worker : Worker) (memory : Memory) : WorkerPlace → Worker → Memory → Prop where
  | goOn (running : memory.running = true) :
      WorkRule worker memory .checkRunning (worker.goto .lockPending) memory
  | quit (notRunning : memory.running = false) :
      WorkRule worker memory .checkRunning (worker.goto .ended) memory
  | lockPending (free : memory.owner .pending = none) :
      WorkRule worker memory .lockPending (worker.goto .look) (memory.taken .pending .worker)
  | look {job : Job} (found : memory.pending = some job) :
      WorkRule worker memory .look (worker.goto (.unlockPending (some job)))
        { memory with pending := none }
  | lookInVain (nothing : memory.pending = none) :
      WorkRule worker memory .look (worker.goto .sleep) memory
  | sleep : WorkRule worker memory .sleep (worker.goto .sleeping) (memory.release .pending)
  | wake (free : memory.owner .pending = none) :
      WorkRule worker memory .sleeping (worker.goto .lookAgain) (memory.taken .pending .worker)
  | lookAgain :
      WorkRule worker memory .lookAgain (worker.goto (.unlockPending memory.pending))
        { memory with pending := none }
  | unlockPending {job : Job} :
      WorkRule worker memory (.unlockPending (some job)) (worker.goto (.lockExec job))
        (memory.release .pending)
  | tryAgain :
      WorkRule worker memory (.unlockPending none) (worker.goto .checkRunning)
        (memory.release .pending)
  | lockExec {job : Job} (free : memory.owner .exec = none) :
      WorkRule worker memory (.lockExec job) (worker.goto (.checkFinished job))
        (memory.taken .exec .worker)
  | skip {job : Job} (decided : (memory.progress job.id).finished = true) :
      WorkRule worker memory (.checkFinished job) (worker.goto (.checkClosing job)) memory
  | begin {job : Job} (undecided : (memory.progress job.id).finished = false) :
      WorkRule worker memory (.checkFinished job) (worker.goto (.checkAccept job)) memory
  | acceptLate {job : Job} (decided : (memory.progress job.id).finished = true) :
      WorkRule worker memory (.checkAccept job) (worker.goto (.startPoint job)) memory
  | accept {job : Job} (undecided : (memory.progress job.id).finished = false) :
      WorkRule worker memory (.checkAccept job) (worker.goto (.sendAccepted job)) memory
  | sendAccepted {job : Job} :
      WorkRule worker memory (.sendAccepted job) (worker.goto (.startPoint job))
        (memory.modify job.id (·.send .accepted))
  | startPoint {job : Job} {points : List (Waypoint Float)}
      (known : withStartPoint memory.context.joints job.points = some points) :
      WorkRule worker memory (.startPoint job) (worker.goto (.start { job with points })) memory
  | noStartPoint {job : Job}
      (unknown : withStartPoint memory.context.joints job.points = none) :
      WorkRule worker memory (.startPoint job)
        (worker.finish job.id (.aborted .noFeedback) (.checkClosing job)) memory
  | start {job : Job} :
      WorkRule worker memory (.start job) (worker.goto (.starting job))
        ({ memory with executorInterrupt := false }.note (.start job.id))
  | started {job : Job} :
      WorkRule worker memory (.starting job) (worker.goto (.checkFlag job)) memory
  | notStarted {job : Job} {fault : Follower.Fault} :
      WorkRule worker memory (.starting job)
        (worker.finish job.id (.aborted (.notConnected fault)) (.checkClosing job)) memory
  | flagged {job : Job} (isUp : memory.interrupt = true) :
      WorkRule worker memory (.checkFlag job) (worker.goto (.stop job none)) memory
  | notFlagged {job : Job} (isDown : memory.interrupt = false) :
      WorkRule worker memory (.checkFlag job) (worker.goto (.beginStream job)) memory
  | beginStream {job : Job} :
      WorkRule worker memory (.beginStream job) (worker.goto (.streaming job memory.clock))
        (memory.note (.stream job.id memory.config.mode job.points))
  | returned {job : Job} {since : Duration} {outcome : Except Follower.Fault Streamed} :
      WorkRule worker memory (.streaming job since)
        (worker.afterStream memory.config job since outcome) memory
  | tick {job : Job} {since : Duration} (isDown : memory.executorInterrupt = false) :
      WorkRule worker memory (.streaming job since) (worker.goto (.sending job since)) memory
  | breakOff {job : Job} {since : Duration} (isUp : memory.executorInterrupt = true) :
      WorkRule worker memory (.streaming job since) (worker.goto (.holding job)) memory
  | sent {job : Job} {since : Duration} :
      WorkRule worker memory (.sending job since) (worker.goto (.streaming job since))
        (memory.note (.servo job.id))
  | notSent {job : Job} {since : Duration} {fault : Follower.Fault} :
      WorkRule worker memory (.sending job since)
        (worker.afterStream memory.config job since (.error fault)) memory
  | held {job : Job} :
      WorkRule worker memory (.holding job)
        (worker.afterStream memory.config job .zero (.ok .interrupted))
        (memory.note (.hold job.id))
  | notHeld {job : Job} {fault : Follower.Fault} :
      WorkRule worker memory (.holding job)
        (worker.afterStream memory.config job .zero (.error fault)) memory
  | watch {job : Job} {place next : WorkerPlace} (watching : place.watched = some job)
      (goesOn : next.watched = some job ∨ next = .stop job none) :
      WorkRule worker memory place (worker.goto next) memory
  | judge {job : Job} {place : WorkerPlace} {outcome : Outcome}
      (watching : place.watched = some job) :
      WorkRule worker memory place (worker.finish job.id outcome (.stop job none)) memory
  | breakDown {job : Job} {since : Duration} {fault : Duration.Fault}
      (tooLong : Monitor.make memory.config since job.points = .error fault) :
      WorkRule worker memory (.monitor job since) (worker.goto .dead) (memory.release .exec)
  | stop {job : Job} {hang : Option Follower.Fault} :
      WorkRule worker memory (.stop job hang)
        (worker.goto (match hang with
          | some fault => .hang job fault
          | none => .checkClosing job))
        ({ memory with executorInterrupt := true }.note (.stop job.id))
  | hang {job : Job} {fault : Follower.Fault} :
      WorkRule worker memory (.hang job fault) (worker.goto (.checkClosing job))
        (memory.note (.hang job.id fault))
  | notClosing {job : Job} (running : memory.running = true) :
      WorkRule worker memory (.checkClosing job) (worker.goto (.lockCurrent job)) memory
  | closing {job : Job} (notRunning : memory.running = false) :
      WorkRule worker memory (.checkClosing job)
        (worker.finish job.id (.aborted .shutDown) (.lockCurrent job)) memory
  | lockCurrent {job : Job} (free : memory.owner .current = none) :
      WorkRule worker memory (.lockCurrent job) (worker.goto (.vacate job))
        (memory.taken .current .worker)
  | vacate {job : Job} (isCurrent : memory.current = some job.id) :
      WorkRule worker memory (.vacate job) (worker.goto (.lowerGoal job))
        { memory with current := none }
  | keep {job : Job} (notCurrent : memory.current ≠ some job.id) :
      WorkRule worker memory (.vacate job) (worker.goto (.unlockCurrent job)) memory
  | lowerGoal {job : Job} :
      WorkRule worker memory (.lowerGoal job) (worker.goto (.unlockCurrent job))
        { memory with hasGoal := false }
  | unlockCurrent {job : Job} :
      WorkRule worker memory (.unlockCurrent job) (worker.goto (.unlockExec job))
        (memory.release .current)
  | unlockExec {job : Job} :
      WorkRule worker memory (.unlockExec job) (worker.goto .checkRunning) (memory.release .exec)

/-- The steps of the worker. -/
inductive WorkerRule (worker : Worker) (memory : Memory) : Worker → Memory → Prop where
  | finish {worker' : Worker} {memory' : Memory}
      (rule : FinishRule worker memory worker' memory') : WorkerRule worker memory worker' memory'
  | work {worker' : Worker} {memory' : Memory} (free : worker.finishing = none)
      (rule : WorkRule worker memory worker.place worker' memory') :
      WorkerRule worker memory worker' memory'

section WorkerSteps

variable {worker worker' : Worker} {choice : Choice} {memory memory' : Memory}
  {place : WorkerPlace}

theorem workRule_of_takeStep (step : worker.takeStep memory place = some (worker', memory')) :
    WorkRule worker memory place worker' memory' := by
  cases place with
  | checkRunning =>
    cases step
    cases running : memory.running
    · exact .quit running
    · exact .goOn running
  | lockPending | sleeping =>
    obtain ⟨free, result⟩ := map_acquire_eq_some step
    cases result
    constructor
    exact free
  | look =>
    simp only [Worker.takeStep] at step
    split at step <;> cases step
    · exact .look ‹_›
    · exact .lookInVain ‹_›
  | unlockPending job => cases job <;> cases step <;> constructor
  | sleep | lookAgain =>
    cases step
    constructor
  | _ => cases step

theorem workRule_of_beginStep
    (step : worker.beginStep choice memory place = some (worker', memory')) :
    WorkRule worker memory place worker' memory' := by
  cases place with
  | lockExec job =>
    obtain ⟨free, result⟩ := map_acquire_eq_some step
    cases result
    exact .lockExec free
  | checkFinished job =>
    cases step
    cases finished : (memory.progress job.id).finished
    · exact .begin finished
    · exact .skip finished
  | checkAccept job =>
    cases step
    cases finished : (memory.progress job.id).finished
    · exact .accept finished
    · exact .acceptLate finished
  | startPoint job =>
    simp only [Worker.beginStep] at step
    split at step <;> cases step
    · exact .startPoint ‹_›
    · exact .noStartPoint ‹_›
  | starting job =>
    simp only [Worker.beginStep] at step
    split at step <;> cases step
    · exact .started
    · exact .notStarted
  | checkFlag job =>
    cases step
    cases interrupt : memory.interrupt
    · exact .notFlagged interrupt
    · exact .flagged interrupt
  | sendAccepted | start | beginStream =>
    cases step
    constructor
  | _ => cases step

theorem workRule_of_streamStep
    (step : worker.streamStep choice memory place = some (worker', memory')) :
    WorkRule worker memory place worker' memory' := by
  cases place with
  | streaming job since =>
    simp only [Worker.streamStep] at step
    split at step <;> cases step
    · exact .returned
    · cases interrupt : memory.executorInterrupt
      · exact .tick interrupt
      · exact .breakOff interrupt
  | sending job since =>
    simp only [Worker.streamStep] at step
    split at step <;> cases step
    · exact .sent
    · exact .notSent
  | holding job =>
    simp only [Worker.streamStep] at step
    split at step <;> cases step
    · exact .held
    · exact .notHeld
  | _ => cases step

theorem workRule_of_watchStep (step : worker.watchStep memory place = some (worker', memory')) :
    WorkRule worker memory place worker' memory' := by
  cases place with
  | monitor job since =>
    simp only [Worker.watchStep] at step
    split at step <;> cases step
    · exact .watch rfl (.inl rfl)
    · exact .breakDown ‹_›
  | timedCheck | pollJoints | pollClock =>
    cases step
    split
    all_goals first
      | exact .judge rfl
      | exact .watch rfl (.inl rfl)
      | exact .watch rfl (.inr rfl)
  | graceClock | graceFlag | pollFlag =>
    cases step
    refine .watch rfl ?_
    split
    all_goals first
      | exact .inl rfl
      | exact .inr rfl
  | _ => cases step

theorem workRule_of_endStep (step : worker.endStep memory place = some (worker', memory')) :
    WorkRule worker memory place worker' memory' := by
  cases place with
  | checkClosing job =>
    cases step
    cases running : memory.running
    · exact .closing running
    · exact .notClosing running
  | lockCurrent job =>
    obtain ⟨free, result⟩ := map_acquire_eq_some step
    cases result
    exact .lockCurrent free
  | vacate job =>
    simp only [Worker.endStep] at step
    split at step <;> cases step
    · exact .vacate ‹_›
    · exact .keep ‹_›
  | stop | hang | lowerGoal | unlockCurrent | unlockExec =>
    cases step
    constructor
  | _ => cases step

/-- Every step of the worker is one of the rules. -/
theorem workerRule_of_step (step : worker.step choice memory = some (worker', memory')) :
    WorkerRule worker memory worker' memory' := by
  unfold Worker.step at step
  split at step
  · exact .finish (finishRule_of_finishStep ‹_› (Option.some.inj step))
  · refine .work ‹_› ?_
    split at step
    all_goals first
      | exact workRule_of_takeStep step
      | exact workRule_of_beginStep step
      | exact workRule_of_streamStep step
      | exact workRule_of_watchStep step
      | exact workRule_of_endStep step
      | cases step

end WorkerSteps

end ArmLink.Coordinator
