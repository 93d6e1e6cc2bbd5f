import ArmLink.Coordinator.Run

/-!
Runs of the coordinator, taken apart into turns.

A move is one turn of one thread, followed by letting go of the goals that nobody holds any more.
`Turn` lists the turns: a call is begun, a client or the worker makes a step, the telemetry brings
something, time passes, or a client takes an event.  An index at which no call has been begun counts
as a call that is done, so that beginning a call and a step of a client are one kind of change: one
client is replaced (`clientAt_opened`, `clientAt_withClient`).

The main statement is `Reachable.induct`: what holds at the start and is kept by every turn and by
letting go of a goal holds in every state that a coordinator can come to.
-/

namespace ArmLink.Coordinator

open Goal Link Telemetry

/-! ### Clients by index -/

/-- A call that is done. -/
def idle : Client := { place := .done .nothing }

/-- The client with an index.  One who is not there counts as done. -/
def clientAt (coordinator : ArmLink.Coordinator) (index : Nat) : Client :=
  (coordinator.clients[index]?).getD idle

/-- A coordinator after a step of a client. -/
def withClient (coordinator : ArmLink.Coordinator) (index : Nat) (client : Client)
    (memory : Memory) : ArmLink.Coordinator :=
  { coordinator with memory, clients := coordinator.clients.set index client }

/-- A coordinator after the beginning of a call. -/
def opened (coordinator : ArmLink.Coordinator) (place : ClientPlace) (memory : Memory)
    (isOpen : Bool) : ArmLink.Coordinator :=
  { coordinator with memory, isOpen, clients := coordinator.clients ++ [{ place }] }

variable {coordinator next : ArmLink.Coordinator} {memory : Memory} {client : Client}
  {place : ClientPlace} {index : Nat}

theorem clientAt_eq_of_getElem? (there : coordinator.clients[index]? = some client) :
    coordinator.clientAt index = client := by
  simp [clientAt, there]

theorem clientAt_withClient (inside : index < coordinator.clients.length) (other : Nat) :
    (coordinator.withClient index client memory).clientAt other =
      if other = index then client else coordinator.clientAt other := by
  by_cases same : other = index
  · subst same
    simp [clientAt, withClient, inside]
  · have apart : index ≠ other := fun equal => same equal.symm
    simp [clientAt, withClient, same, apart]

theorem clientAt_withClient_self (inside : index < coordinator.clients.length) :
    (coordinator.withClient index client memory).clientAt index = client := by
  rw [clientAt_withClient inside, if_pos rfl]

theorem clientAt_withClient_other (inside : index < coordinator.clients.length)
    {other : Nat} (apart : other ≠ index) :
    (coordinator.withClient index client memory).clientAt other = coordinator.clientAt other := by
  rw [clientAt_withClient inside, if_neg apart]

theorem clientAt_length : coordinator.clientAt coordinator.clients.length = idle := by
  simp [clientAt]

theorem clientAt_opened {isOpen : Bool} (other : Nat) :
    (coordinator.opened place memory isOpen).clientAt other =
      if other = coordinator.clients.length then { place } else coordinator.clientAt other := by
  by_cases same : other = coordinator.clients.length
  · subst same
    simp [clientAt, opened]
  · rw [if_neg same]
    simp only [clientAt, opened]
    rcases Nat.lt_or_gt_of_ne same with below | above
    · rw [List.getElem?_append_left below]
    · have beyond : (coordinator.clients ++ [({ place } : Client)]).length ≤ other := by
        simp only [List.length_append, List.length_singleton]
        omega
      rw [List.getElem?_eq_none beyond, List.getElem?_eq_none (Nat.le_of_lt above)]

theorem clientAt_opened_of_lt {isOpen : Bool} (inside : index < coordinator.clients.length) :
    (coordinator.opened place memory isOpen).clientAt index = coordinator.clientAt index := by
  rw [clientAt_opened, if_neg (Nat.ne_of_lt inside)]

theorem lt_length_of_ne_idle (there : coordinator.clientAt index ≠ idle) :
    index < coordinator.clients.length := by
  rcases Nat.lt_or_ge index coordinator.clients.length with inside | outside
  · exact inside
  · exact absurd (by rw [clientAt, List.getElem?_eq_none outside]; rfl) there

theorem done_of_answer? {answer : Answer} (answered : coordinator.answer? index = some answer) :
    (coordinator.clientAt index).finishing = none ∧
      (coordinator.clientAt index).place = .done answer := by
  obtain ⟨client, there, answered⟩ := Option.bind_eq_some_iff.mp answered
  rw [clientAt_eq_of_getElem? there]
  split at answered
  · rename_i free stands
    cases answered
    exact ⟨free, stands⟩
  · cases answered

theorem answer?_of_done {answer : Answer}
    (inside : index < coordinator.clients.length)
    (free : (coordinator.clientAt index).finishing = none)
    (stands : (coordinator.clientAt index).place = .done answer) :
    coordinator.answer? index = some answer := by
  have there : coordinator.clients[index]? = some (coordinator.clientAt index) := by
    simp [clientAt, inside]
  simp [answer?, there, free, stands]

/-- What holds of a call that is done and of every client in the list holds at every index. -/
theorem clientAt_induct {motive : Client → Prop} (done : motive idle)
    (all : ∀ client ∈ coordinator.clients, motive client) (index : Nat) :
    motive (coordinator.clientAt index) := by
  cases found : coordinator.clients[index]? with
  | none => simpa [clientAt, found] using done
  | some client =>
    rw [clientAt_eq_of_getElem? found]
    exact all client (List.mem_of_getElem? found)

/-! ### Turns -/

/-- How a call begins: the place of the new client, the memory, and whether the coordinator stays
open. -/
inductive Opening (coordinator : ArmLink.Coordinator) : ClientPlace → Memory → Bool → Prop where
  | submit (goal : Goal) (notClosing : coordinator.isClosing = false) :
      Opening coordinator (.submitting (.askAlive coordinator.memory.nextId goal))
        { coordinator.memory with nextId := coordinator.memory.nextId + 1 } coordinator.isOpen
  | cancel (id : Goal.Id) (notClosing : coordinator.isClosing = false) :
      Opening coordinator (.canceling (.lockCurrent id)) coordinator.memory coordinator.isOpen
  | updateState (state : RobotState) :
      Opening coordinator (.exchanging state) coordinator.memory coordinator.isOpen
  | tellState (state : RobotState) (notClosing : coordinator.isClosing = false) :
      Opening coordinator (.told state .nothing) coordinator.memory coordinator.isOpen
  | shutDown (notBusy : coordinator.isBusy = false) (isOpen : coordinator.isOpen = true) :
      Opening coordinator (.closing .lowerRunning) coordinator.memory false
  | shutAgain (notBusy : coordinator.isBusy = false) (isShut : coordinator.isOpen = false) :
      Opening coordinator (.done .nothing) coordinator.memory coordinator.isOpen

/-- One turn of one thread, or of what surrounds the threads. -/
inductive Turn (coordinator : ArmLink.Coordinator) : ArmLink.Coordinator → Prop where
  | call {place : ClientPlace} {memory : Memory} {isOpen : Bool}
      (opening : Opening coordinator place memory isOpen) :
      Turn coordinator (coordinator.opened place memory isOpen)
  | client (index : Nat) {client : Client} {memory : Memory}
      (inside : index < coordinator.clients.length)
      (step : (coordinator.clientAt index).step coordinator.worker.isGone (.client index)
        coordinator.memory = some (client, memory)) :
      Turn coordinator (coordinator.withClient index client memory)
  | worker (choice : Choice) {worker : Worker} {memory : Memory}
      (step : coordinator.worker.step choice coordinator.memory = some (worker, memory)) :
      Turn coordinator { coordinator with memory, worker }
  | observe (observation : Observation) :
      Turn coordinator { coordinator with memory := { coordinator.memory with
        context := observation.apply coordinator.memory.context } }
  | pass (span : Duration) :
      Turn coordinator { coordinator with memory := { coordinator.memory with
        clock := coordinator.memory.clock.plus span
        context := coordinator.memory.context.advance (span.nanos / 1000) } }
  | take (goal : Goal.Id) :
      Turn coordinator { coordinator with memory := coordinator.memory.modify goal fun progress =>
        progress.take.2 }

theorem opening_of_call {request : Request} (called : coordinator.call request = some next) :
    ∃ place memory isOpen, Opening coordinator place memory isOpen ∧
      next = coordinator.opened place memory isOpen := by
  cases request with
  | submit goal =>
    simp only [call] at called
    split at called
    · simp at called
    · rename_i notClosing
      exact ⟨_, _, _, .submit goal (by simpa using notClosing), (Option.some.inj called).symm⟩
  | cancel id =>
    simp only [call] at called
    split at called
    · simp at called
    · rename_i notClosing
      exact ⟨_, _, _, .cancel id (by simpa using notClosing), (Option.some.inj called).symm⟩
  | updateState state =>
    exact ⟨_, _, _, .updateState state, (Option.some.inj called).symm⟩
  | tellState state =>
    simp only [call] at called
    split at called
    · simp at called
    · rename_i notClosing
      exact ⟨_, _, _, .tellState state (by simpa using notClosing), (Option.some.inj called).symm⟩
  | shutDown =>
    simp only [call] at called
    split at called
    · simp at called
    · rename_i notBusy
      have notBusy : coordinator.isBusy = false := by simpa using notBusy
      split at called
      · rename_i isOpen
        exact ⟨_, _, _, .shutDown notBusy isOpen, (Option.some.inj called).symm⟩
      · rename_i isShut
        exact ⟨_, _, _, .shutAgain notBusy (by simpa using isShut),
          (Option.some.inj called).symm⟩

theorem client_of_step {index : Nat} (moved : coordinator.step (.client index) = some next) :
    ∃ client memory, index < coordinator.clients.length ∧
      (coordinator.clientAt index).step coordinator.worker.isGone (.client index)
        coordinator.memory = some (client, memory) ∧
      next = (coordinator.withClient index client memory).collect := by
  obtain ⟨between, stepped, rfl⟩ := Option.map_eq_some_iff.mp moved
  obtain ⟨client, there, stepped⟩ := Option.bind_eq_some_iff.mp stepped
  obtain ⟨⟨client', memory⟩, step, stepped⟩ := Option.bind_eq_some_iff.mp stepped
  refine ⟨client', memory, (List.getElem?_eq_some_iff.mp there).1, ?_, ?_⟩
  · rw [clientAt_eq_of_getElem? there]
    exact step
  · rw [← Option.some.inj stepped]
    rfl

theorem worker_of_step {choice : Choice} (moved : coordinator.step (.worker choice) = some next) :
    ∃ worker memory, coordinator.worker.step choice coordinator.memory = some (worker, memory) ∧
      next = ArmLink.Coordinator.collect { coordinator with memory, worker } := by
  obtain ⟨between, stepped, rfl⟩ := Option.map_eq_some_iff.mp moved
  obtain ⟨⟨worker, memory⟩, step, stepped⟩ := Option.bind_eq_some_iff.mp stepped
  refine ⟨worker, memory, step, ?_⟩
  rw [← Option.some.inj stepped]

theorem step_client (inside : index < coordinator.clients.length)
    (step : (coordinator.clientAt index).step coordinator.worker.isGone (.client index)
      coordinator.memory = some (client, memory)) :
    coordinator.step (.client index) =
      some (coordinator.withClient index client memory).collect := by
  have there : coordinator.clients[index]? = some (coordinator.clientAt index) := by
    simp [clientAt, inside]
  simp [ArmLink.Coordinator.step, there, step, withClient]

theorem step_worker {choice : Choice} {worker : Worker}
    (step : coordinator.worker.step choice coordinator.memory = some (worker, memory)) :
    coordinator.step (.worker choice) =
      some (ArmLink.Coordinator.collect { coordinator with memory, worker }) := by
  simp [ArmLink.Coordinator.step, step]

/-- A move is a turn, followed by letting go. -/
theorem turn_of_step {move : Move} (moved : coordinator.step move = some next) :
    ∃ between, Turn coordinator between ∧ next = between.collect := by
  cases move with
  | call request =>
    obtain ⟨between, called, rfl⟩ := Option.map_eq_some_iff.mp moved
    obtain ⟨place, memory, isOpen, opening, rfl⟩ := opening_of_call called
    exact ⟨_, .call opening, rfl⟩
  | client index =>
    obtain ⟨client, memory, inside, step, rfl⟩ := client_of_step moved
    exact ⟨_, .client index inside step, rfl⟩
  | worker choice =>
    obtain ⟨worker, memory, step, rfl⟩ := worker_of_step moved
    exact ⟨_, .worker choice step, rfl⟩
  | observe observation => exact ⟨_, .observe observation, (Option.some.inj moved).symm⟩
  | pass span => exact ⟨_, .pass span, (Option.some.inj moved).symm⟩
  | take goal => exact ⟨_, .take goal, (Option.some.inj moved).symm⟩

/-! ### Letting go -/

section LetGo

variable {goal : Goal.Id}

/-- Letting go of a goal changes what became of that goal, and nothing else. -/
theorem letGo_eq (coordinator : ArmLink.Coordinator) (goal : Goal.Id) :
    ∃ progress, coordinator.letGo goal =
      { coordinator with memory := { coordinator.memory with progress } } := by
  unfold letGo
  split
  · exact ⟨_, rfl⟩
  · exact ⟨_, rfl⟩

@[simp] theorem letGo_clientAt : (coordinator.letGo goal).clientAt index =
    coordinator.clientAt index := by
  obtain ⟨progress, changed⟩ := letGo_eq coordinator goal
  rw [changed]
  rfl

@[simp] theorem letGo_worker : (coordinator.letGo goal).worker = coordinator.worker := by
  obtain ⟨progress, changed⟩ := letGo_eq coordinator goal
  rw [changed]

@[simp] theorem letGo_nextId :
    (coordinator.letGo goal).memory.nextId = coordinator.memory.nextId := by
  obtain ⟨progress, changed⟩ := letGo_eq coordinator goal
  rw [changed]

end LetGo

/-- What letting go of each goal keeps, letting go of all of them keeps.  The goals are those that
have been given a number. -/
theorem collect_induct {motive : ArmLink.Coordinator → Prop}
    (letGo : ∀ coordinator goal, goal < coordinator.memory.nextId → motive coordinator →
      motive (coordinator.letGo goal))
    (holds : motive coordinator) : motive coordinator.collect := by
  have all : ∀ (goals : List Goal.Id) (coordinator : ArmLink.Coordinator),
      (∀ goal ∈ goals, goal < coordinator.memory.nextId) → motive coordinator →
        motive (goals.foldl ArmLink.Coordinator.letGo coordinator) := by
    intro goals
    induction goals with
    | nil => exact fun _ _ holds => holds
    | cons goal goals ih =>
      intro coordinator numbered holds
      refine ih _ ?_ (letGo coordinator goal (numbered goal List.mem_cons_self) holds)
      intro other inside
      rw [letGo_nextId]
      exact numbered other (List.mem_cons_of_mem _ inside)
  refine all _ coordinator ?_ holds
  intro goal inside
  obtain ⟨positive, below⟩ := List.mem_range'_1.mp inside
  exact Nat.lt_of_lt_of_le below (by omega)

theorem collect_eq (coordinator : ArmLink.Coordinator) :
    ∃ progress, coordinator.collect =
      { coordinator with memory := { coordinator.memory with progress } } := by
  refine collect_induct (motive := fun later => ∃ progress, later =
    { coordinator with memory := { coordinator.memory with progress } }) ?_ ⟨_, rfl⟩
  rintro later goal - ⟨progress, rfl⟩
  obtain ⟨progressThen, changed⟩ := letGo_eq _ goal
  exact ⟨progressThen, changed⟩

/-! ### Induction over runs -/

/-- What holds of a coordinator and is kept by every turn and by letting go of a goal holds of
whatever the coordinator can come to.  A turn is only looked at where the run has come to. -/
theorem Reachable.induct {motive : ArmLink.Coordinator → Prop} {first : ArmLink.Coordinator}
    (holds : motive first)
    (turn : ∀ coordinator next, Reachable first coordinator → motive coordinator →
      Turn coordinator next → motive next)
    (letGo : ∀ coordinator goal, goal < coordinator.memory.nextId → motive coordinator →
      motive (coordinator.letGo goal))
    {coordinator : ArmLink.Coordinator} (run : Reachable first coordinator) :
    motive coordinator := by
  induction run with
  | refl => exact holds
  | step move before moved ih =>
    obtain ⟨between, turned, rfl⟩ := turn_of_step moved
    exact collect_induct letGo (turn _ _ before ih turned)

theorem Reachable.trans {first middle last : ArmLink.Coordinator} (before : Reachable first middle)
    (after : Reachable middle last) : Reachable first last := by
  induction after with
  | refl => exact before
  | step move _ moved ih => exact .step move ih moved

/-! ### Starting -/

theorem eq_of_start {config : Config} {context : Context Unit}
    (started : start config context = .ok coordinator) :
    coordinator = { memory := { config, context } } := by
  unfold start at started
  cases valid : config.validate with
  | error fault =>
    rw [valid] at started
    cases started
  | ok _ =>
    rw [valid] at started
    cases started
    rfl

/-! ### Playing moves -/

/-- What a coordinator comes to by some moves, if all of them can be made. -/
def play (coordinator : ArmLink.Coordinator) (moves : List Move) : Option ArmLink.Coordinator :=
  moves.foldlM step coordinator

theorem Reachable.of_play {moves : List Move} :
    ∀ {first : ArmLink.Coordinator}, first.play moves = some coordinator →
      Reachable first coordinator := by
  induction moves with
  | nil =>
    intro first played
    cases played
    exact .refl
  | cons move moves ih =>
    intro first played
    obtain ⟨between, moved, rest⟩ := Option.bind_eq_some_iff.mp played
    exact .trans (.step move .refl moved) (ih rest)

/-- What can be checked of the state after some moves holds of a state that is reached. -/
theorem exists_reachable (first : ArmLink.Coordinator) (property : ArmLink.Coordinator → Prop)
    [DecidablePred property] (moves : List Move)
    (passed : (first.play moves).any (fun last => decide (property last)) = true) :
    ∃ last, Reachable first last ∧ property last := by
  obtain ⟨last, played, holds⟩ := (Option.any_eq_true _ _).mp passed
  exact ⟨last, .of_play played, of_decide_eq_true holds⟩

/-- Plain settings, but for the factor that bounds the time of a goal. -/
def plainConfig (timeoutFactor : Float) : Config where
  jointNames := ["base", "shoulder", "elbow", "wrist 1", "wrist 2", "wrist 3"]
  maxVelocity := 1.0
  smooth := true
  goalTolerance := 0.1
  motionThreshold := 0.1
  timeoutFactor
  graceFactor := 1.0
  monitorInterval := ⟨1000000⟩
  settleDelay := ⟨1000000⟩

/-- An arm that is running and was heard of. -/
def readyContext : Context Unit where
  telemetryTimeout := ⟨1000000000⟩
  lastFeedback := some 0
  cell := ⟨some .running⟩

/-- A coordinator with plain settings, for an arm that is running. -/
def plain (timeoutFactor : Float) : ArmLink.Coordinator where
  memory := { config := plainConfig timeoutFactor, context := readyContext }

theorem validate_plainConfig (timeoutFactor : Float) :
    (plainConfig timeoutFactor).validate = .ok () := by
  unfold Config.validate plainConfig
  dsimp only
  rw [if_neg (by decide +kernel), if_neg (by decide +kernel), if_neg (by decide +kernel),
    if_neg (by decide +kernel)]

theorem start_plain (timeoutFactor : Float) :
    start (plainConfig timeoutFactor) readyContext = .ok (plain timeoutFactor) := by
  unfold start
  rw [validate_plainConfig]
  rfl

/-- A goal that asks the arm to be where its joints are at zero. -/
def zeroGoal : Goal where
  jointNames := (plainConfig 1.0).jointNames
  points := [⟨List.replicate 6 0.0, List.replicate 6 0.0, .zero⟩]

/-- Several steps of a client. -/
def clientSteps (index count : Nat) : List Move := List.replicate count (.client index)

/-- Several steps of the worker, the executor going on. -/
def workerSteps (count : Nat) : List Move := List.replicate count (.worker .goOn)

/-- The moves from the first call to the executor following the points of its goal. -/
def untilStream (goal : Goal) : List Move :=
  [.call (.submit goal)] ++ clientSteps 0 15 ++ workerSteps 10 ++ [.worker (.result (.ok ()))] ++
    workerSteps 2

end ArmLink.Coordinator
