import ArmLink.Proofs.Coordinator.Rules

/-!
Which thread holds which lock.

The locks that a thread holds can be read off the place where it stands (`ClientPlace.locks`,
`WorkerPlace.locks`).  A step of a thread keeps its locks, takes one that nobody holds, or gives one
back that it holds (`LockStep`).  So in every run a lock belongs to exactly the thread whose place
says so (`guarded_of_reachable`), and two threads never hold the same lock (`Guarded.exclusive`).
-/

namespace ArmLink.Coordinator

open Goal Link Motion Telemetry

/-! ### Locks by place -/

/-- The locks that a submitter holds. -/
def Submitting.locks : Submitting → List Lock
  | .askAlive .. | .askState .. | .lockOld _ | .lockExec .. => []
  | .readOld _ | .flagOld .. | .interruptOld .. | .unlockOld .. => [.current]
  | .settle _ | .lockCurrent _ | .lowerFlag _ | .raiseGoal _ | .lockPending _ | .unlockExec _ =>
    [.exec]
  | .install _ | .unlockCurrent _ => [.exec, .current]
  | .enqueue _ | .unlockPending _ => [.exec, .pending]

/-- The locks that a canceller holds. -/
def Canceling.locks : Canceling → List Lock
  | .lockCurrent _ | .lockExec _ => []
  | .read _ | .flag _ | .interrupt _ | .unlockCurrent .. => [.current]
  | .relock _ | .unlockExec .. => [.exec]
  | .vacate .. | .lowerGoal .. | .reunlock .. => [.exec, .current]

/-- The locks that one holds who stops the arm for its state. -/
def Stopping.locks : Stopping → List Lock
  | .loadGoal | .loadFlag | .swapFlag | .interrupt | .lockCurrent => []
  | .read | .unlockCurrent _ => [.current]

/-- The locks that one holds who shuts the coordinator down. -/
def Closing.locks : Closing → List Lock
  | .lowerRunning | .raiseFlag | .interrupt | .join | .lockPending | .lockCurrent | .lowerGoal => []
  | .takePending | .unlockPending _ => [.pending]
  | .takeCurrent | .unlockCurrent _ => [.current]

/-- The locks that a client holds. -/
def ClientPlace.locks : ClientPlace → List Lock
  | .submitting place => place.locks
  | .canceling place => place.locks
  | .stopping place _ => place.locks
  | .closing place => place.locks
  | .exchanging _ | .done _ => []

/-- The locks that the worker holds. -/
def WorkerPlace.locks : WorkerPlace → List Lock
  | .checkRunning | .lockPending | .sleeping | .lockExec _ | .ended | .dead => []
  | .look | .sleep | .lookAgain | .unlockPending _ => [.pending]
  | .checkFinished _ | .checkAccept _ | .sendAccepted _ | .startPoint _ | .start _ | .starting _
  | .checkFlag _ | .beginStream _ | .streaming .. | .sending .. | .holding _ | .timedCheck _
  | .monitor .. | .graceClock .. | .graceFlag .. | .pollFlag .. | .pollJoints .. | .pollClock ..
  | .stop .. | .hang .. | .checkClosing _ | .lockCurrent _ | .unlockExec _ => [.exec]
  | .vacate _ | .lowerGoal _ | .unlockCurrent _ => [.exec, .current]

/-- The locks that a thread holds. -/
def locksOf (coordinator : ArmLink.Coordinator) : Actor → List Lock
  | .worker => coordinator.worker.place.locks
  | .client index => (coordinator.clientAt index).place.locks

/-! ### What a step does to the locks -/

/-- What a step of a thread does to the locks, those that it holds before and after being given. -/
inductive LockStep (actor : Actor) (held held' : List Lock) (memory memory' : Memory) : Prop where
  | keep (same : ∀ lock, lock ∈ held' ↔ lock ∈ held) (owner : memory'.owner = memory.owner)
  | take (lock : Lock) (free : memory.owner lock = none)
      (taken : ∀ other, other ∈ held' ↔ other = lock ∨ other ∈ held)
      (owner : memory'.owner = (memory.taken lock actor).owner)
  | give (lock : Lock) (mine : lock ∈ held)
      (given : ∀ other, other ∈ held' ↔ other ≠ lock ∧ other ∈ held)
      (owner : memory'.owner = (memory.release lock).owner)

section Steps

variable {π : Type} {workerEnded : Bool} {actor : Actor} {client client' : Client}
  {worker worker' : Worker} {memory memory' : Memory}

@[simp] theorem goto_place {thread : Thread π} {place : π} :
    (thread.goto place).place = place := rfl

@[simp] theorem finish_place {thread : Thread π} {goal : Goal.Id} {outcome : Outcome} {place : π} :
    (thread.finish goal outcome place).place = place := rfl

@[simp] theorem finishIf_place {thread : Thread π} {goal : Option Goal.Id} {outcome : Outcome}
    {place : π} : (thread.finishIf goal outcome place).place = place := by
  cases goal <;> rfl

theorem FinishRule.place_eq {thread thread' : Thread π}
    (rule : FinishRule thread memory thread' memory') : thread'.place = thread.place := by
  cases rule <;> rfl

/-- Giving an outcome changes what became of a goal, and nothing else in the memory. -/
theorem FinishRule.memory_eq {thread thread' : Thread π}
    (rule : FinishRule thread memory thread' memory') :
    ∃ progress, memory' = { memory with progress } := by
  cases rule with
  | late => exact ⟨memory.progress, rfl⟩
  | mark | send => exact ⟨_, rfl⟩

theorem SubmitRule.locks {place : Submitting}
    (rule : SubmitRule actor client memory place client' memory') :
    LockStep actor place.locks client'.place.locks memory memory' := by
  cases rule with
  | lockOld free | lockCurrent free | lockPending free =>
    exact .take _ free (by simp [ClientPlace.locks, Submitting.locks, or_comm]) rfl
  | @lockExec job superseded free =>
    refine .take .exec free ?_ rfl
    cases superseded <;> simp [ClientPlace.locks, Submitting.locks]
  | unlockOld | unlockCurrent | unlockPending | unlockExec =>
    exact .give _ (by simp [Submitting.locks])
      (by intro other; cases other <;> simp [ClientPlace.locks, Submitting.locks]) rfl
  | _ => exact .keep (by simp [ClientPlace.locks, Submitting.locks]) rfl

theorem CancelRule.locks {place : Canceling}
    (rule : CancelRule actor client memory place client' memory') :
    LockStep actor place.locks client'.place.locks memory memory' := by
  cases rule with
  | lockCurrent free | lockExec free | relock free =>
    exact .take _ free (by simp [ClientPlace.locks, Canceling.locks, or_comm]) rfl
  | unlockCurrent | giveUp | reunlock | unlockExec =>
    exact .give _ (by simp [Canceling.locks])
      (by intro other; cases other <;> simp [ClientPlace.locks, Canceling.locks]) rfl
  | _ => exact .keep (by simp [ClientPlace.locks, Canceling.locks]) rfl

theorem StopRule.locks {answer : Answer} {place : Stopping}
    (rule : StopRule answer actor client memory place client' memory') :
    LockStep actor place.locks client'.place.locks memory memory' := by
  cases rule with
  | lockCurrent free =>
    exact .take _ free (by simp [ClientPlace.locks, Stopping.locks]) rfl
  | unlockCurrent =>
    exact .give _ (by simp [Stopping.locks])
      (by intro other; cases other <;> simp [ClientPlace.locks, Stopping.locks]) rfl
  | _ => exact .keep (by simp [ClientPlace.locks, Stopping.locks]) rfl

theorem CloseRule.locks {place : Closing}
    (rule : CloseRule workerEnded actor client memory place client' memory') :
    LockStep actor place.locks client'.place.locks memory memory' := by
  cases rule with
  | lockPending free | lockCurrent free =>
    exact .take _ free (by simp [ClientPlace.locks, Closing.locks]) rfl
  | unlockPending | unlockCurrent =>
    exact .give _ (by simp [Closing.locks])
      (by intro other; cases other <;> simp [ClientPlace.locks, Closing.locks]) rfl
  | _ => exact .keep (by simp [ClientPlace.locks, Closing.locks]) rfl

@[simp] theorem told_locks (state : RobotState) (answer : Answer) :
    (ClientPlace.told state answer).locks = [] := by
  unfold ClientPlace.told
  split <;> rfl

theorem ClientRule.locks (rule : ClientRule workerEnded actor client memory client' memory') :
    LockStep actor client.place.locks client'.place.locks memory memory' := by
  cases rule with
  | finish rule =>
    obtain ⟨progress, changed⟩ := rule.memory_eq
    exact .keep (by rw [rule.place_eq]; exact fun _ => Iff.rfl) (by rw [changed])
  | submit _ stands rule => rw [stands]; exact rule.locks
  | cancel _ stands rule => rw [stands]; exact rule.locks
  | @exchange state _ stands =>
    rw [stands, goto_place]
    obtain ⟨answer, told | told⟩ := told_cases (memory.context.exchangeState state).1 state
    · exact .keep (by rw [told]; exact fun _ => Iff.rfl) rfl
    · exact .keep (by rw [told]; exact fun _ => Iff.rfl) rfl
  | stop _ stands rule => rw [stands]; exact rule.locks
  | close _ stands rule => rw [stands]; exact rule.locks

@[simp] theorem afterStream_locks {config : Config} {job : Job} {since : Duration}
    {outcome : Except Follower.Fault Streamed} :
    (worker.afterStream config job since outcome).place.locks = [.exec] := by
  unfold Worker.afterStream
  split
  · split <;> rfl
  · rfl
  · split <;> rfl

theorem locks_of_watched {place : WorkerPlace} {job : Job} (watching : place.watched = some job) :
    place.locks = [.exec] := by
  cases place <;> first
    | rfl
    | exact absurd watching (by simp [WorkerPlace.watched])

theorem WorkRule.locks {place : WorkerPlace} (rule : WorkRule worker memory place worker' memory') :
    LockStep .worker place.locks worker'.place.locks memory memory' := by
  cases rule with
  | lockPending free | wake free | lockExec free | lockCurrent free =>
    exact .take _ free (by simp [WorkerPlace.locks, or_comm]) rfl
  | sleep | unlockPending | tryAgain | breakDown | unlockCurrent | unlockExec =>
    exact .give _ (by simp [WorkerPlace.locks])
      (by intro other; cases other <;> simp [WorkerPlace.locks]) rfl
  | returned | notSent | held | notHeld =>
    refine .keep ?_ rfl
    rw [afterStream_locks]
    exact fun _ => Iff.rfl
  | watch watching goesOn =>
    refine .keep ?_ rfl
    rw [locks_of_watched watching, goto_place]
    rcases goesOn with goesOn | rfl
    · rw [locks_of_watched goesOn]; exact fun _ => Iff.rfl
    · exact fun _ => Iff.rfl
  | judge watching =>
    refine .keep ?_ rfl
    rw [locks_of_watched watching]
    exact fun _ => Iff.rfl
  | @stop job hang =>
    refine .keep ?_ rfl
    cases hang <;> exact fun _ => Iff.rfl
  | _ => exact .keep (by simp [WorkerPlace.locks]) rfl

theorem WorkerRule.locks (rule : WorkerRule worker memory worker' memory') :
    LockStep .worker worker.place.locks worker'.place.locks memory memory' := by
  cases rule with
  | finish rule =>
    obtain ⟨progress, changed⟩ := rule.memory_eq
    exact .keep (by rw [rule.place_eq]; exact fun _ => Iff.rfl) (by rw [changed])
  | work _ rule => exact rule.locks

end Steps

/-! ### A lock belongs to the thread whose place says so -/

/-- Whether the owner of every lock is the thread that holds it by its place. -/
def Guarded (coordinator : ArmLink.Coordinator) : Prop :=
  ∀ lock actor, coordinator.memory.owner lock = some actor ↔ lock ∈ coordinator.locksOf actor

variable {coordinator next first : ArmLink.Coordinator}

/-- Two threads never hold the same lock. -/
theorem Guarded.exclusive (guarded : Guarded coordinator) {lock : Lock} {actor other : Actor}
    (holds : lock ∈ coordinator.locksOf actor) (holdsToo : lock ∈ coordinator.locksOf other) :
    actor = other := by
  have owner := (guarded lock actor).mpr holds
  rw [(guarded lock other).mpr holdsToo] at owner
  exact (Option.some.inj owner).symm

/-- A step of one thread keeps the owners right if the other threads hold what they held. -/
theorem Guarded.of_lockStep (guarded : Guarded coordinator) (actor : Actor)
    (step : LockStep actor (coordinator.locksOf actor) (next.locksOf actor) coordinator.memory
      next.memory)
    (others : ∀ other, other ≠ actor → next.locksOf other = coordinator.locksOf other) :
    Guarded next := by
  intro lock other
  by_cases same : other = actor
  · subst same
    cases step with
    | keep same owner => rw [owner, same]; exact guarded lock other
    | take taken free holds owner =>
      rw [owner, holds, ← guarded lock other]
      by_cases equal : lock = taken
      · simp [Memory.taken, equal]
      · simp [Memory.taken, equal]
    | give given mine holds owner =>
      rw [owner, holds, ← guarded lock other]
      by_cases equal : lock = given
      · simp [Memory.release, equal]
      · simp [Memory.release, equal]
  · rw [others other same, ← guarded lock other]
    cases step with
    | keep _ owner => rw [owner]
    | take taken free _ owner =>
      rw [owner]
      by_cases equal : lock = taken
      · have apart : actor ≠ other := fun is => same is.symm
        simp [Memory.taken, equal, free, apart]
      · simp [Memory.taken, equal]
    | give given mine _ owner =>
      rw [owner]
      by_cases equal : lock = given
      · have apart : actor ≠ other := fun is => same is.symm
        have owned := (guarded given actor).mpr mine
        simp [Memory.release, equal, owned, apart]
      · simp [Memory.release, equal]

theorem locksOf_withClient {index : Nat} {client : Client} {memory : Memory}
    (inside : index < coordinator.clients.length) (actor : Actor) :
    (coordinator.withClient index client memory).locksOf actor =
      if actor = .client index then client.place.locks else coordinator.locksOf actor := by
  cases actor with
  | worker => rfl
  | client other =>
    simp only [locksOf, clientAt_withClient inside, Actor.client.injEq]
    split <;> rfl

theorem Opening.locks_eq_nil {place : ClientPlace} {memory : Memory} {isOpen : Bool}
    (opening : Opening coordinator place memory isOpen) : place.locks = [] := by
  cases opening with
  | tellState => exact told_locks _ _
  | _ => rfl

/-- Beginning a call gives out a number at most. -/
theorem Opening.memory_eq {place : ClientPlace} {memory : Memory} {isOpen : Bool}
    (opening : Opening coordinator place memory isOpen) :
    ∃ nextId, coordinator.memory.nextId ≤ nextId ∧
      memory = { coordinator.memory with nextId } := by
  cases opening with
  | submit => exact ⟨coordinator.memory.nextId + 1, Nat.le_succ _, rfl⟩
  | _ => exact ⟨coordinator.memory.nextId, Nat.le_refl _, rfl⟩

theorem locksOf_opened {place : ClientPlace} {memory : Memory} {isOpen : Bool}
    (opening : Opening coordinator place memory isOpen) (actor : Actor) :
    (coordinator.opened place memory isOpen).locksOf actor = coordinator.locksOf actor := by
  cases actor with
  | worker => rfl
  | client index =>
    simp only [locksOf, clientAt_opened]
    split
    · rename_i same
      rw [same, clientAt_length]
      exact opening.locks_eq_nil
    · rfl

theorem Guarded.turn (guarded : Guarded coordinator) (turn : Turn coordinator next) :
    Guarded next := by
  cases turn with
  | call opening =>
    intro lock actor
    obtain ⟨nextId, -, changed⟩ := opening.memory_eq
    rw [locksOf_opened opening, ← guarded lock actor, opened, changed]
  | client index inside step =>
    refine guarded.of_lockStep (.client index) ?_ ?_
    · rw [locksOf_withClient inside, if_pos rfl]
      exact (clientRule_of_step step).locks
    · intro other apart
      rw [locksOf_withClient inside, if_neg apart]
  | worker choice step =>
    refine guarded.of_lockStep .worker (workerRule_of_step step).locks ?_
    intro other apart
    cases other with
    | worker => exact absurd rfl apart
    | client index => rfl
  | observe | pass | take => exact guarded

theorem Guarded.letGo (guarded : Guarded coordinator) (goal : Goal.Id) :
    Guarded (coordinator.letGo goal) := by
  obtain ⟨progress, changed⟩ := letGo_eq coordinator goal
  rw [changed]
  exact guarded

/-- In every run, a lock belongs to the thread whose place says so. -/
theorem guarded_of_reachable {config : Config} {context : Context Unit}
    (started : start config context = .ok first) (run : Reachable first coordinator) :
    Guarded coordinator := by
  refine run.induct ?_ (fun _ _ _ guarded => guarded.turn)
    (fun _ goal _ guarded => guarded.letGo goal)
  rw [eq_of_start started]
  intro lock actor
  cases actor <;> simp [locksOf, clientAt, idle, WorkerPlace.locks, ClientPlace.locks]

end ArmLink.Coordinator
