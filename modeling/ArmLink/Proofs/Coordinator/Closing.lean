import ArmLink.Proofs.Coordinator.Locks

/-!
One who shuts the coordinator down is alone with it.

Shutting down begins only when no goal is being submitted or cancelled, and neither can begin while
it lasts; only calls from the telemetry can come in between (`Client.IsQuiet`).  What is done after
waiting for the worker (`Closing.isCleaning`) is done when the worker is gone.  Both hold in every
run (`orderly_of_reachable`).

With this, whoever holds the lock `exec` can rely on the slot: nobody else changes `current` or
`hasGoal` meanwhile (`slot_eq_of_client`, `slot_eq_of_worker`).
-/

namespace ArmLink.Coordinator

open Goal Link Motion Telemetry

/-! ### Places of one who shuts the coordinator down -/

/-- Whether one who shuts the coordinator down cleans up after the worker. -/
def Closing.isCleaning : Closing → Bool
  | .lowerRunning | .raiseFlag | .interrupt | .join => false
  | .lockPending | .takePending | .unlockPending _ | .lockCurrent | .takeCurrent | .unlockCurrent _
  | .lowerGoal => true

/-- Whether a client cleans up after the worker. -/
def ClientPlace.isCleaning : ClientPlace → Bool
  | .closing place => place.isCleaning
  | _ => false

/-- Whether somebody cleans up after the worker. -/
def IsCleaning (coordinator : ArmLink.Coordinator) : Prop :=
  ∃ index, (coordinator.clientAt index).place.isCleaning = true

/-- Whether a client is one of those who may be under way while the coordinator is shut down. -/
inductive Client.IsQuiet (client : Client) : Prop where
  | exchanging {state : RobotState} (stands : client.place = .exchanging state)
  | stopping {place : Stopping} {answer : Answer} (stands : client.place = .stopping place answer)
  | done {answer : Answer} (free : client.finishing = none) (stands : client.place = .done answer)

/-- One who shuts the coordinator down is alone with it, and cleans up only after the worker. -/
structure Orderly (coordinator : ArmLink.Coordinator) : Prop where
  alone : ∀ {index place}, (coordinator.clientAt index).place = .closing place →
    ∀ other, other ≠ index → (coordinator.clientAt other).IsQuiet
  gone : ∀ {index place}, (coordinator.clientAt index).place = .closing place →
    place.isCleaning = true → coordinator.worker.isGone = true

section Steps

variable {workerEnded : Bool} {actor : Actor} {client client' : Client}
  {worker worker' : Worker} {memory memory' : Memory}

theorem ClientRule.isQuiet (rule : ClientRule workerEnded actor client memory client' memory')
    (quiet : client.IsQuiet) : client'.IsQuiet := by
  cases rule with
  | finish rule =>
    cases quiet with
    | exchanging stands => exact .exchanging (by rw [rule.place_eq, stands])
    | stopping stands => exact .stopping (by rw [rule.place_eq, stands])
    | done free stands => cases rule <;> simp_all
  | submit _ stands => cases quiet <;> simp_all
  | cancel _ stands => cases quiet <;> simp_all
  | @exchange state free stands =>
    obtain ⟨answer, told | told⟩ := told_cases (memory.context.exchangeState state).1 state
    · exact .done free told
    · exact .stopping told
  | stop free stands rule =>
    cases rule with
    | noGoal | flagged | swapLate | unlockCurrent => exact .done free rfl
    | goal | notFlagged | swapFlag | interrupt | lockCurrent => exact .stopping rfl
    | read => exact .stopping finishIf_place
  | close _ stands => cases quiet <;> simp_all

/-- Nobody comes to shutting down but from shutting down, and cleaning up begins when the worker has
ended. -/
theorem ClientRule.closing (rule : ClientRule workerEnded actor client memory client' memory')
    {place : Closing} (closing : client'.place = .closing place) :
    ∃ before, client.place = .closing before ∧
      (place.isCleaning = true → before.isCleaning = true ∨ workerEnded = true) := by
  cases rule with
  | finish rule =>
    rw [rule.place_eq] at closing
    exact ⟨place, closing, .inl⟩
  | submit _ _ rule => cases rule <;> simp at closing
  | cancel _ _ rule => cases rule <;> simp at closing
  | @exchange state =>
    obtain ⟨answer, told | told⟩ := told_cases (memory.context.exchangeState state).1 state
    · rw [goto_place, told] at closing; cases closing
    · rw [goto_place, told] at closing; cases closing
  | stop _ _ rule => cases rule <;> simp at closing
  | close _ stands rule =>
    refine ⟨_, stands, ?_⟩
    cases rule <;> simp_all [Closing.isCleaning]
    all_goals (subst closing; simp)

/-- A worker that is gone makes no steps but to finish what it has begun. -/
theorem WorkerRule.isGone (rule : WorkerRule worker memory worker' memory')
    (gone : worker.isGone = true) : worker'.place = worker.place := by
  cases rule with
  | finish rule => exact rule.place_eq
  | work _ rule =>
    unfold Worker.isGone at gone
    generalize worker.place = place at rule gone
    cases rule <;> simp_all
    all_goals (cases place <;> simp_all [WorkerPlace.watched])

end Steps

/-! ### Shutting down in runs -/

variable {coordinator next first : ArmLink.Coordinator}

theorem not_closing_of_isClosing_eq_false (notClosing : coordinator.isClosing = false)
    (index : Nat) (place : Closing) : (coordinator.clientAt index).place ≠ .closing place := by
  refine clientAt_induct (motive := fun client => client.place ≠ .closing place) ?_ ?_ index
  · simp [idle]
  · intro client inside stands
    have none := List.any_eq_false.mp notClosing client inside
    simp [stands] at none

theorem isQuiet_of_isBusy_eq_false (notBusy : coordinator.isBusy = false) (index : Nat) :
    (coordinator.clientAt index).IsQuiet := by
  refine clientAt_induct (motive := Client.IsQuiet) (.done rfl rfl) ?_ index
  intro client inside
  have free := List.any_eq_false.mp notBusy client inside
  cases stands : client.place with
  | submitting place => simp [stands] at free
  | canceling place => simp [stands] at free
  | closing place => simp [stands] at free
  | exchanging state => exact .exchanging stands
  | stopping place answer => exact .stopping stands
  | done answer =>
    refine .done ?_ stands
    simpa [stands] using free

theorem Opening.isQuiet {place : ClientPlace} {memory : Memory} {isOpen : Bool}
    (opening : Opening coordinator place memory isOpen) :
    Client.IsQuiet { place } ∨ coordinator.isClosing = false ∨
      (place = .closing .lowerRunning ∧ coordinator.isBusy = false) := by
  cases opening with
  | submit goal notClosing => exact .inr (.inl notClosing)
  | cancel id notClosing => exact .inr (.inl notClosing)
  | updateState state => exact .inl (.exchanging rfl)
  | tellState state notClosing => exact .inr (.inl notClosing)
  | shutDown notBusy => exact .inr (.inr ⟨rfl, notBusy⟩)
  | shutAgain => exact .inl (.done rfl rfl)

theorem Opening.closing {place : ClientPlace} {memory : Memory} {isOpen : Bool}
    (opening : Opening coordinator place memory isOpen) {closing : Closing}
    (closes : place = .closing closing) : closing = .lowerRunning := by
  cases opening with
  | shutDown => cases closes; rfl
  | tellState state =>
    unfold ClientPlace.told at closes
    split at closes <;> cases closes
  | _ => cases closes

theorem Orderly.call {place : ClientPlace} {memory : Memory} {isOpen : Bool}
    (orderly : Orderly coordinator) (opening : Opening coordinator place memory isOpen) :
    Orderly (coordinator.opened place memory isOpen) := by
  constructor
  · intro index closing stands other apart
    rw [clientAt_opened] at stands ⊢
    by_cases isNew : index = coordinator.clients.length
    · -- the new one shuts down: everybody else was looked at by `isBusy`
      rw [if_pos isNew] at stands
      rw [if_neg (isNew ▸ apart)]
      refine isQuiet_of_isBusy_eq_false ?_ other
      cases opening with
      | shutDown notBusy => exact notBusy
      | tellState state =>
        dsimp only at stands
        unfold ClientPlace.told at stands
        split at stands <;> cases stands
      | _ => cases stands
    · rw [if_neg isNew] at stands
      split
      · rcases opening.isQuiet with quiet | notClosing | ⟨-, notBusy⟩
        · exact quiet
        · exact absurd stands (not_closing_of_isClosing_eq_false notClosing index closing)
        · cases isQuiet_of_isBusy_eq_false notBusy index <;> simp_all
      · exact orderly.alone stands other apart
  · intro index closing stands cleaning
    rw [clientAt_opened] at stands
    split at stands
    · rw [opening.closing stands] at cleaning
      cases cleaning
    · exact orderly.gone stands cleaning

theorem Orderly.turn (orderly : Orderly coordinator) (turn : Turn coordinator next) :
    Orderly next := by
  cases turn with
  | call opening => exact orderly.call opening
  | client mover inside step =>
    have rule := clientRule_of_step step
    constructor
    · intro index closing stands other apart
      rw [clientAt_withClient inside] at stands ⊢
      by_cases moves : index = mover
      · rw [if_pos moves] at stands
        obtain ⟨before, stood, -⟩ := rule.closing stands
        rw [if_neg (moves ▸ apart)]
        exact orderly.alone stood other (moves ▸ apart)
      · rw [if_neg moves] at stands
        have quiet := orderly.alone stands
        split
        · rename_i isMover
          exact rule.isQuiet (quiet mover (fun same => moves same.symm))
        · exact quiet other apart
    · intro index closing stands cleaning
      rw [clientAt_withClient inside] at stands
      split at stands
      · obtain ⟨before, stood, begun⟩ := rule.closing stands
        rcases begun cleaning with cleaned | ended
        · exact orderly.gone stood cleaned
        · exact ended
      · exact orderly.gone stands cleaning
  | worker choice step =>
    refine ⟨orderly.alone, ?_⟩
    intro index closing stands cleaning
    have gone := orderly.gone stands cleaning
    have same := (workerRule_of_step step).isGone gone
    unfold Worker.isGone at gone ⊢
    rw [same]
    exact gone
  | observe | pass | take => exact ⟨orderly.alone, orderly.gone⟩

theorem Orderly.letGo (orderly : Orderly coordinator) (goal : Goal.Id) :
    Orderly (coordinator.letGo goal) := by
  obtain ⟨progress, changed⟩ := letGo_eq coordinator goal
  rw [changed]
  exact ⟨orderly.alone, orderly.gone⟩

/-- In every run, one who shuts the coordinator down is alone with it. -/
theorem orderly_of_reachable {config : Config} {context : Context Unit}
    (started : start config context = .ok first) (run : Reachable first coordinator) :
    Orderly coordinator := by
  refine run.induct ?_ (fun _ _ _ orderly => orderly.turn)
    (fun _ goal _ orderly => orderly.letGo goal)
  rw [eq_of_start started]
  constructor <;> intro index closing stands <;> simp [clientAt, idle] at stands

/-! ### Who can change the slot -/

/-- A step changes the slot only under `exec` or in cleaning up. -/
theorem ClientRule.slot_eq {workerEnded : Bool} {actor : Actor} {client client' : Client}
    {memory memory' : Memory}
    (rule : ClientRule workerEnded actor client memory client' memory') :
    (memory'.current = memory.current ∧ memory'.hasGoal = memory.hasGoal) ∨
      .exec ∈ client.place.locks ∨ client.place.isCleaning = true := by
  cases rule with
  | finish rule =>
    obtain ⟨progress, rfl⟩ := rule.memory_eq
    exact .inl ⟨rfl, rfl⟩
  | submit _ stands rule =>
    rw [stands]
    cases rule with
    | install | raiseGoal => exact .inr (.inl (by simp [ClientPlace.locks, Submitting.locks]))
    | _ => exact .inl ⟨rfl, rfl⟩
  | cancel _ stands rule =>
    rw [stands]
    cases rule with
    | vacate | lowerGoal => exact .inr (.inl (by simp [ClientPlace.locks, Canceling.locks]))
    | _ => exact .inl ⟨rfl, rfl⟩
  | exchange => exact .inl ⟨rfl, rfl⟩
  | stop _ _ rule => cases rule <;> exact .inl ⟨rfl, rfl⟩
  | close _ stands rule =>
    rw [stands]
    cases rule with
    | takeCurrent | lowerGoal => exact .inr (.inr rfl)
    | _ => exact .inl ⟨rfl, rfl⟩

/-- The worker changes the slot only under `exec`. -/
theorem WorkerRule.slot_eq {worker worker' : Worker} {memory memory' : Memory}
    (rule : WorkerRule worker memory worker' memory') :
    (memory'.current = memory.current ∧ memory'.hasGoal = memory.hasGoal) ∨
      .exec ∈ worker.place.locks := by
  cases rule with
  | finish rule =>
    obtain ⟨progress, rfl⟩ := rule.memory_eq
    exact .inl ⟨rfl, rfl⟩
  | work _ rule =>
    generalize worker.place = place at rule ⊢
    cases rule with
    | vacate | lowerGoal => exact .inr (by simp [WorkerPlace.locks])
    | _ => exact .inl ⟨rfl, rfl⟩

theorem locks_of_isGone {worker : Worker} (gone : worker.isGone = true) :
    worker.place.locks = [] := by
  unfold Worker.isGone at gone
  split at gone
  · rename_i stands
    rw [stands]; rfl
  · rename_i stands
    rw [stands]; rfl
  · cases gone

theorem Client.IsQuiet.exec_not_mem {client : Client} (quiet : client.IsQuiet) :
    Lock.exec ∉ client.place.locks := by
  cases quiet with
  | exchanging stands => simp [stands, ClientPlace.locks]
  | @stopping place _ stands => cases place <;> simp [stands, ClientPlace.locks, Stopping.locks]
  | done _ stands => simp [stands, ClientPlace.locks]

/-- Nobody holds `exec` while somebody cleans up. -/
theorem Orderly.exec_not_mem (orderly : Orderly coordinator) (cleaning : IsCleaning coordinator)
    (actor : Actor) : Lock.exec ∉ coordinator.locksOf actor := by
  obtain ⟨index, cleans⟩ := cleaning
  cases stands : (coordinator.clientAt index).place with
  | closing place =>
    rw [stands] at cleans
    cases actor with
    | worker => simp [locksOf, locks_of_isGone (orderly.gone stands cleans)]
    | client other =>
      by_cases same : other = index
      · rw [locksOf, same, stands]
        cases place <;> simp [ClientPlace.locks, Closing.locks]
      · exact (orderly.alone stands other same).exec_not_mem
  | _ =>
    rw [stands] at cleans
    cases cleans

/-- Whoever holds `exec` can rely on the slot while another client makes a step. -/
theorem slot_eq_of_client (guarded : Guarded coordinator) (orderly : Orderly coordinator)
    {index : Nat} {client : Client} {memory : Memory}
    (rule : ClientRule coordinator.worker.isGone (.client index) (coordinator.clientAt index)
      coordinator.memory client memory)
    {actor : Actor} (holds : .exec ∈ coordinator.locksOf actor) (other : actor ≠ .client index) :
    memory.current = coordinator.memory.current ∧ memory.hasGoal = coordinator.memory.hasGoal := by
  rcases rule.slot_eq with same | holdsToo | cleaning
  · exact same
  · have holdsToo : Lock.exec ∈ coordinator.locksOf (.client index) := holdsToo
    exact absurd (guarded.exclusive holds holdsToo) other
  · exact absurd holds (orderly.exec_not_mem ⟨index, cleaning⟩ actor)

theorem slot_eq_of_worker (guarded : Guarded coordinator) {worker : Worker} {memory : Memory}
    (rule : WorkerRule coordinator.worker coordinator.memory worker memory)
    {index : Nat} (holds : .exec ∈ coordinator.locksOf (.client index)) :
    memory.current = coordinator.memory.current ∧ memory.hasGoal = coordinator.memory.hasGoal := by
  rcases rule.slot_eq with same | holdsToo
  · exact same
  · have holdsToo : Lock.exec ∈ coordinator.locksOf .worker := holdsToo
    exact absurd (guarded.exclusive holds holdsToo) (by simp)

end ArmLink.Coordinator
