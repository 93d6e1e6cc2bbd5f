import ArmLink.Proofs.Coordinator.Knowing

/-!
Who holds the slot.

`Slot` gathers what holds of the slot in every run (`slot_of_reachable`):

* the threads know what they have to know by their places;
* outside the few steps between writing the one and the other, `hasGoal` agrees with `current`;
* the goal in the slot has its job in `pending` or with the worker, or else its submitter is about to
  put it there, the worker broke down, or the coordinator is being cleaned up;
* a job that waits for the worker and whose goal lost the slot belongs to a goal that has its
  outcome, or that is given one by the submitter who took the slot and still holds `exec`.
-/

namespace ArmLink.Coordinator

open Goal Link Motion Telemetry

/-- Whether a job of a goal waits for the worker. -/
def Waits (coordinator : ArmLink.Coordinator) (goal : Goal.Id) : Prop :=
  coordinator.jobAt .pending = some goal ∨ coordinator.worker.place.waiting = some goal

/-- What holds of the slot in every run. -/
structure Slot (coordinator : ArmLink.Coordinator) : Prop where
  clients : ∀ index, (coordinator.clientAt index).place.Knows coordinator.memory
  worker : coordinator.worker.place.Knows coordinator.memory
  settled : (∀ index, (coordinator.clientAt index).place.isBetween = false) →
    coordinator.worker.place.isBetween = false →
    coordinator.memory.hasGoal = coordinator.memory.current.isSome
  served : ∀ {goal}, coordinator.memory.current = some goal →
    coordinator.jobAt .pending = some goal ∨ coordinator.jobAt .hand = some goal ∨
      (∃ index, (coordinator.clientAt index).place.installing = some goal) ∨
      coordinator.worker.place = .dead ∨ IsCleaning coordinator
  decided : ∀ index, (coordinator.clientAt index).Decides coordinator.memory
  waiting : ∀ {goal}, Waits coordinator goal → coordinator.memory.current ≠ some goal →
    (coordinator.memory.progress goal).finished = true ∨
      ∃ index job outcome, (coordinator.clientAt index).place = .submitting (.unlockCurrent job) ∧
        (coordinator.clientAt index).finishing = some (.mark goal outcome)

/-! ### The other threads -/

section Others

variable {coordinator next first : ArmLink.Coordinator} {index other : Nat} {client : Client}
  {worker : Worker} {memory : Memory} {goal : Goal.Id}

/-- What a client knows stays true while another client makes a step. -/
theorem knows_of_client (guarded : Guarded coordinator) (orderly : Orderly coordinator)
    (rule : ClientRule coordinator.worker.isGone (.client index) (coordinator.clientAt index)
      coordinator.memory client memory) (apart : other ≠ index)
    (knows : (coordinator.clientAt other).place.Knows coordinator.memory) :
    (coordinator.clientAt other).place.Knows memory := by
  by_cases holds : Lock.exec ∈ (coordinator.clientAt other).place.locks
  · have holdsToo : Lock.exec ∈ coordinator.locksOf (.client other) := holds
    have elsewhere : Actor.client other ≠ .client index := by simpa using apart
    exact knows.of_exec holds (slot_eq_of_client guarded orderly rule holdsToo elsewhere).1
  · cases cleaning : (coordinator.clientAt other).place.isCleaning with
    | false => exact ClientPlace.knows_trivial holds cleaning
    | true =>
      -- whoever cleans up is alone with quiet clients
      cases stands : (coordinator.clientAt other).place with
      | closing place =>
        have quiet := orderly.alone stands index (fun same => apart same.symm)
        obtain ⟨current, pending⟩ := rule.memory_of_isQuiet quiet
        exact stands ▸ knows.congr current pending
      | _ => rw [stands] at cleaning; cases cleaning

theorem worker_knows_of_client (guarded : Guarded coordinator) (orderly : Orderly coordinator)
    (rule : ClientRule coordinator.worker.isGone (.client index) (coordinator.clientAt index)
      coordinator.memory client memory)
    (knows : coordinator.worker.place.Knows coordinator.memory) :
    coordinator.worker.place.Knows memory := by
  by_cases holds : Lock.exec ∈ coordinator.worker.place.locks
  · have holdsToo : Lock.exec ∈ coordinator.locksOf .worker := holds
    exact knows.congr (slot_eq_of_client guarded orderly rule holdsToo (by simp)).1
  · exact WorkerPlace.knows_trivial holds

theorem knows_of_worker (guarded : Guarded coordinator) (orderly : Orderly coordinator)
    (rule : WorkerRule coordinator.worker coordinator.memory worker memory)
    (knows : (coordinator.clientAt other).place.Knows coordinator.memory) :
    (coordinator.clientAt other).place.Knows memory := by
  by_cases holds : Lock.exec ∈ (coordinator.clientAt other).place.locks
  · have holdsToo : Lock.exec ∈ coordinator.locksOf (.client other) := holds
    exact knows.of_exec holds (slot_eq_of_worker guarded rule holdsToo).1
  · cases cleaning : (coordinator.clientAt other).place.isCleaning with
    | false => exact ClientPlace.knows_trivial holds cleaning
    | true =>
      cases stands : (coordinator.clientAt other).place with
      | closing place =>
        have gone := orderly.gone stands (by rw [stands] at cleaning; exact cleaning)
        obtain ⟨current, pending⟩ := rule.memory_of_isGone gone
        exact stands ▸ knows.congr current pending
      | _ => rw [stands] at cleaning; cases cleaning

theorem Client.Decides.mono {memory' : Memory} (decides : client.Decides memory)
    (finished : ∀ goal, (memory.progress goal).finished = true →
      (memory'.progress goal).finished = true) : client.Decides memory' := by
  unfold Client.Decides at decides ⊢
  split at decides
  · rcases decides with decided | finishing
    · exact .inl (finished _ decided)
    · exact .inr finishing
  · exact finished _ decides
  · trivial

theorem goal?_of_isGone (gone : worker.isGone = true) :
    worker.place.goal? = none ∧ worker.place.waiting = none := by
  unfold Worker.isGone at gone
  split at gone
  · rename_i stands
    rw [stands]; exact ⟨rfl, rfl⟩
  · rename_i stands
    rw [stands]; exact ⟨rfl, rfl⟩
  · cases gone

theorem goal?_of_waiting {place : WorkerPlace} (waiting : place.waiting = some goal) :
    place.goal? = some goal := by
  cases place <;> first
    | exact waiting
    | cases waiting

/-! ### The slot in runs -/

/-- Nothing changes for the slot if the threads stand where they stood, and the cells hold what they
held. -/
theorem Slot.of_same (slot : Slot coordinator) (clients : next.clientAt = coordinator.clientAt)
    (worker : next.worker = coordinator.worker)
    (current : next.memory.current = coordinator.memory.current)
    (pending : next.memory.pending = coordinator.memory.pending)
    (hasGoal : next.memory.hasGoal = coordinator.memory.hasGoal)
    (finished : ∀ goal, (coordinator.memory.progress goal).finished = true →
      (next.memory.progress goal).finished = true) : Slot next := by
  have jobs : next.jobAt = coordinator.jobAt := by
    funext spot
    cases spot <;> simp [jobAt, clients, pending, worker]
  have cleaning : IsCleaning next = IsCleaning coordinator := by
    simp only [IsCleaning, clients]
  constructor
  · intro index
    rw [clients]
    exact (slot.clients index).congr current pending
  · rw [worker]
    exact slot.worker.congr current
  · rw [clients, worker, hasGoal, current]
    exact slot.settled
  · rw [clients, worker, jobs, current, cleaning]
    exact slot.served
  · intro index
    rw [clients]
    exact (slot.decided index).mono finished
  · intro goal waits notCurrent
    rw [Waits, jobs, worker] at waits
    rw [current] at notCurrent
    rw [clients]
    rcases slot.waiting waits notCurrent with decided | marking
    · exact .inl (finished goal decided)
    · exact .inr marking

theorem Slot.call {place : ClientPlace} {isOpen : Bool} (slot : Slot coordinator)
    (opening : Opening coordinator place memory isOpen) :
    Slot (coordinator.opened place memory isOpen) := by
  have fresh : place.Knows coordinator.memory ∧ Client.Decides coordinator.memory { place } := by
    cases opening with
    | tellState state =>
      unfold ClientPlace.told
      split <;> exact ⟨trivial, trivial⟩
    | _ => exact ⟨trivial, trivial⟩
  have idleKnows : idle.place.isBetween = false ∧ idle.place.installing = none ∧
      idle.place.isCleaning = false := ⟨rfl, rfl, rfl⟩
  obtain ⟨nextId, -, rfl⟩ := opening.memory_eq
  have kept : ∀ {index : Nat} {motive : Client → Prop}, ¬ motive idle →
      motive (coordinator.clientAt index) →
      motive ((coordinator.opened place { coordinator.memory with nextId } isOpen).clientAt
        index) := by
    intro index motive notIdle holds
    have inside : index < coordinator.clients.length :=
      lt_length_of_ne_idle fun idles => notIdle (idles ▸ holds)
    rw [clientAt_opened_of_lt inside]
    exact holds
  constructor
  · intro index
    rw [clientAt_opened]
    split
    · exact fresh.1.congr rfl rfl
    · exact (slot.clients index).congr rfl rfl
  · exact slot.worker
  · intro settled workerSettled
    refine slot.settled ?_ workerSettled
    intro index
    have there := settled index
    rw [clientAt_opened] at there
    split at there
    · rename_i isNew
      rw [isNew, clientAt_length]
      rfl
    · exact there
  · intro goal current
    rcases slot.served current with pending | hand | ⟨index, installing⟩ | dead | ⟨index, cleaning⟩
    · exact .inl pending
    · exact .inr (.inl hand)
    · exact .inr (.inr (.inl ⟨index,
        kept (motive := fun client => client.place.installing = some goal) (by simp [idleKnows])
          installing⟩))
    · exact .inr (.inr (.inr (.inl dead)))
    · exact .inr (.inr (.inr (.inr ⟨index,
        kept (motive := fun client => client.place.isCleaning = true) (by simp [idleKnows])
          cleaning⟩)))
  · intro index
    rw [clientAt_opened]
    split
    · exact fresh.2
    · exact slot.decided index
  · intro goal waits notCurrent
    rcases slot.waiting waits notCurrent with decided | ⟨index, job, outcome, marking⟩
    · exact .inl decided
    · exact .inr ⟨index, job, outcome,
        kept (motive := fun client => client.place = .submitting (.unlockCurrent job) ∧
          client.finishing = some (.mark goal outcome)) (by simp [idle]) marking⟩

/-! #### Steps of clients -/

section ClientTurn

variable (slot : Slot coordinator) (inside : index < coordinator.clients.length)
  (rule : ClientRule coordinator.worker.isGone (.client index) (coordinator.clientAt index)
    coordinator.memory client memory)

include slot inside rule

theorem Slot.settled_of_client
    (settled : ∀ other, ((coordinator.withClient index client memory).clientAt other).place.isBetween
      = false) (workerSettled : coordinator.worker.place.isBetween = false) :
    memory.hasGoal = memory.current.isSome := by
  have selfSettled := settled index
  rw [clientAt_withClient_self inside] at selfSettled
  rcases rule.settles (slot.clients index) selfSettled with ⟨before, current, hasGoal⟩ | agree
  · have agreed : coordinator.memory.hasGoal = coordinator.memory.current.isSome := by
      refine slot.settled ?_ workerSettled
      intro other
      by_cases same : other = index
      · rw [same]; exact before
      · have there := settled other
        rwa [clientAt_withClient_other inside same] at there
    rw [hasGoal, agreed, current]
  · exact agree

theorem Slot.served_of_client (current : memory.current = some goal) :
    memory.pending.map (·.id) = some goal ∨ coordinator.jobAt .hand = some goal ∨
      (∃ other, ((coordinator.withClient index client memory).clientAt other).place.installing =
        some goal) ∨
      coordinator.worker.place = .dead ∨
      IsCleaning (coordinator.withClient index client memory) := by
  have knows := slot.clients index
  have self : (coordinator.withClient index client memory).clientAt index = client :=
    clientAt_withClient_self inside
  rcases rule.current_cases with same | emptied | installing
  · rcases slot.served (same ▸ current) with pending | hand | ⟨other, installing⟩ | dead |
      ⟨other, cleaning⟩
    · rcases rule.pending_cases with kept | ⟨cleaning, -⟩ | ⟨job, stands, put, -⟩
      · exact .inl (by rw [kept]; exact pending)
      · exact .inr (.inr (.inr (.inr ⟨index, by rw [self]; exact cleaning⟩)))
      · -- the job put into `pending` is the current goal's
        rw [stands] at knows
        have isCurrent : coordinator.memory.current = some job.id := knows
        left
        rw [put]
        exact isCurrent.symm.trans (same.symm.trans current)
    · exact .inr (.inl hand)
    · by_cases isSelf : other = index
      · rw [isSelf] at installing
        rcases rule.installing installing with still | put
        · exact .inr (.inr (.inl ⟨index, by rw [self]; exact still⟩))
        · exact .inl put
      · refine .inr (.inr (.inl ⟨other, ?_⟩))
        rw [clientAt_withClient_other inside isSelf]
        exact installing
    · exact .inr (.inr (.inr (.inl dead)))
    · by_cases isSelf : other = index
      · rw [isSelf] at cleaning
        rcases rule.isCleaning knows cleaning with still | emptied
        · exact .inr (.inr (.inr (.inr ⟨index, by rw [self]; exact still⟩)))
        · cases emptied.symm.trans current
      · refine .inr (.inr (.inr (.inr ⟨other, ?_⟩)))
        rw [clientAt_withClient_other inside isSelf]
        exact cleaning
  · cases emptied.symm.trans current
  · exact .inr (.inr (.inl ⟨index, by rw [self, installing]; exact current⟩))

theorem Slot.waiting_of_client (orderly : Orderly coordinator)
    (waits : Waits (coordinator.withClient index client memory) goal)
    (notCurrent : memory.current ≠ some goal) :
    (memory.progress goal).finished = true ∨
      ∃ other job outcome,
        ((coordinator.withClient index client memory).clientAt other).place =
          .submitting (.unlockCurrent job) ∧
        ((coordinator.withClient index client memory).clientAt other).finishing =
          some (.mark goal outcome) := by
  have knows := slot.clients index
  by_cases waited : Waits coordinator goal
  · by_cases current : coordinator.memory.current = some goal
    · rcases rule.displaces (slot.decided index) current notCurrent with
        ⟨job, outcome, stands, finishing⟩ | decided | stands
      · refine .inr ⟨index, job, outcome, ?_⟩
        rw [clientAt_withClient_self inside]
        exact ⟨stands, finishing⟩
      · exact .inl decided
      · -- whoever empties the slot has emptied `pending` before, and the worker is gone
        rw [stands] at knows
        have nothing : coordinator.memory.pending = none := knows
        have gone := orderly.gone stands rfl
        rcases waited with pending | waiting
        · rw [jobAt, nothing] at pending; cases pending
        · rw [(goal?_of_isGone gone).2] at waiting; cases waiting
    · rcases slot.waiting waited current with decided | ⟨other, job, outcome, stands, finishing⟩
      · exact .inl (rule.progressing.finished decided)
      · by_cases isSelf : other = index
        · rw [isSelf] at finishing
          exact .inl (rule.marking finishing)
        · refine .inr ⟨other, job, outcome, ?_⟩
          rw [clientAt_withClient_other inside isSelf]
          exact ⟨stands, finishing⟩
  · rcases waits with pending | waiting
    · have pending : memory.pending.map (·.id) = some goal := pending
      rcases rule.pending_cases with kept | ⟨-, nothing⟩ | ⟨job, stands, put, sameCurrent⟩
      · rw [kept] at pending
        exact absurd (.inl pending) waited
      · rw [nothing] at pending; cases pending
      · rw [stands] at knows
        have isCurrent : coordinator.memory.current = some job.id := knows
        rw [put] at pending
        exact absurd (sameCurrent.trans (isCurrent.trans pending)) notCurrent
    · exact absurd (.inr waiting) waited

theorem Slot.of_client (guarded : Guarded coordinator) (orderly : Orderly coordinator) :
    Slot (coordinator.withClient index client memory) := by
  constructor
  · intro other
    by_cases same : other = index
    · rw [same, clientAt_withClient_self inside]
      exact rule.knows (slot.clients index)
    · rw [clientAt_withClient_other inside same]
      exact knows_of_client guarded orderly rule same (slot.clients other)
  · have knows : coordinator.worker.place.Knows memory :=
      worker_knows_of_client guarded orderly rule slot.worker
    exact knows
  · exact slot.settled_of_client inside rule
  · exact slot.served_of_client inside rule
  · intro other
    by_cases same : other = index
    · rw [same, clientAt_withClient_self inside]
      exact rule.decides (slot.decided index)
    · rw [clientAt_withClient_other inside same]
      exact (slot.decided other).mono fun _ => rule.progressing.finished
  · exact slot.waiting_of_client inside rule orderly

end ClientTurn

/-! #### Steps of the worker -/

/-- The goal of a job that the worker finds without an outcome holds the slot. -/
theorem Slot.honest (slot : Slot coordinator) (guarded : Guarded coordinator) {job : Job}
    (stands : coordinator.worker.place = .checkFinished job)
    (undecided : (coordinator.memory.progress job.id).finished = false) :
    coordinator.memory.current = some job.id := by
  by_cases current : coordinator.memory.current = some job.id
  · exact current
  · have waits : Waits coordinator job.id := .inr (by rw [stands]; rfl)
    rcases slot.waiting waits current with decided | ⟨other, taker, outcome, there, -⟩
    · rw [undecided] at decided; cases decided
    · -- the submitter who took the slot holds `exec`, but so does the worker
      have mine : Lock.exec ∈ coordinator.locksOf .worker := by
        simp [locksOf, stands, WorkerPlace.locks]
      have theirs : Lock.exec ∈ coordinator.locksOf (.client other) := by
        simp [locksOf, there, ClientPlace.locks, Submitting.locks]
      cases guarded.exclusive mine theirs

section WorkerTurn

variable (slot : Slot coordinator)
  (rule : WorkerRule coordinator.worker coordinator.memory worker memory)

include slot rule

theorem Slot.settled_of_worker
    (settled : ∀ other, (coordinator.clientAt other).place.isBetween = false)
    (workerSettled : worker.place.isBetween = false) :
    memory.hasGoal = memory.current.isSome := by
  rcases rule.settles slot.worker workerSettled with ⟨before, current, hasGoal⟩ | agree
  · rw [hasGoal, slot.settled settled before, current]
  · exact agree

theorem Slot.served_of_worker (current : memory.current = some goal) :
    memory.pending.map (·.id) = some goal ∨ worker.place.goal? = some goal ∨
      (∃ other, (coordinator.clientAt other).place.installing = some goal) ∨
      worker.place = .dead ∨ IsCleaning coordinator := by
  have before : coordinator.memory.current = some goal := by
    rcases rule.current_cases with same | ⟨emptied, -⟩
    · rw [← same]; exact current
    · cases emptied.symm.trans current
  rcases slot.served before with pending | hand | installing | dead | cleaning
  · rcases rule.goal? with ⟨-, kept⟩ | ⟨-, -, taken⟩
    · exact .inl (by rw [kept]; exact pending)
    · exact .inr (.inl (taken.trans pending))
  · rcases rule.drops hand with has | ⟨job, stands, isGoal, -⟩ | dead
    · exact .inr (.inl has)
    · have knows := slot.worker
      rw [stands] at knows
      exact absurd before (isGoal ▸ knows)
    · exact .inr (.inr (.inr (.inl dead)))
  · exact .inr (.inr (.inl installing))
  · refine .inr (.inr (.inr (.inl ?_)))
    rw [rule.isGone (by rw [Worker.isGone, dead]), dead]
  · exact .inr (.inr (.inr (.inr cleaning)))

theorem Slot.waiting_of_worker (sorted : Sorted coordinator)
    (waits : memory.pending.map (·.id) = some goal ∨ worker.place.waiting = some goal)
    (notCurrent : memory.current ≠ some goal) :
    (memory.progress goal).finished = true ∨
      ∃ other job outcome, (coordinator.clientAt other).place = .submitting (.unlockCurrent job) ∧
        (coordinator.clientAt other).finishing = some (.mark goal outcome) := by
  have waited : Waits coordinator goal := by
    rcases waits with pending | waiting
    · rcases rule.goal? with ⟨-, kept⟩ | ⟨-, nothing, -⟩
      · rw [kept] at pending; exact .inl pending
      · rw [nothing] at pending; cases pending
    · rcases rule.waiting waiting with waited | pending
      · exact .inr waited
      · exact .inl pending
  have before : coordinator.memory.current ≠ some goal := by
    rcases rule.current_cases with same | ⟨-, job, vacates, current⟩
    · rw [← same]; exact notCurrent
    · intro isGoal
      -- the worker gives up the slot of the job in its hand, which waits nowhere
      have sameGoal : job.id = goal := Option.some.inj (current.symm.trans isGoal)
      have hand : worker.place.goal? = some goal := by rw [vacates, ← sameGoal]; rfl
      rcases waits with pending | waiting
      · have sorted' :=
          sorted.of_carried (carried_of_worker rule) (Nat.le_of_eq rule.nextId_eq.symm)
        have apart : Spot.pending = Spot.hand := sorted'.unique pending hand
        cases apart
      · rw [vacates] at waiting; cases waiting
  rcases slot.waiting waited before with decided | marking
  · exact .inl (rule.progressing.finished decided)
  · exact .inr marking

theorem Slot.of_worker (guarded : Guarded coordinator) (orderly : Orderly coordinator)
    (sorted : Sorted coordinator) : Slot { coordinator with memory, worker } := by
  constructor
  · have knows : ∀ other, (coordinator.clientAt other).place.Knows memory :=
      fun other => knows_of_worker guarded orderly rule (slot.clients other)
    exact knows
  · exact rule.knows slot.worker fun _ => slot.honest guarded
  · exact slot.settled_of_worker rule
  · exact slot.served_of_worker rule
  · exact fun other => (slot.decided other).mono fun _ => rule.progressing.finished
  · exact slot.waiting_of_worker rule sorted

end WorkerTurn

/-! #### Runs -/

theorem Slot.turn (slot : Slot coordinator) (guarded : Guarded coordinator)
    (orderly : Orderly coordinator) (sorted : Sorted coordinator)
    (turn : Turn coordinator next) : Slot next := by
  cases turn with
  | call opening => exact slot.call opening
  | client index inside step =>
    exact slot.of_client inside (clientRule_of_step step) guarded orderly
  | worker choice step => exact slot.of_worker (workerRule_of_step step) guarded orderly sorted
  | observe observation => exact slot.of_same rfl rfl rfl rfl rfl fun _ decided => decided
  | pass span => exact slot.of_same rfl rfl rfl rfl rfl fun _ decided => decided
  | take goal =>
    exact slot.of_same rfl rfl rfl rfl rfl fun _ => (Turn.take goal).finished

theorem Slot.letGo (slot : Slot coordinator) (goal : Goal.Id) : Slot (coordinator.letGo goal) := by
  have finished : ∀ other, (coordinator.memory.progress other).finished = true →
      ((coordinator.letGo goal).memory.progress other).finished = true :=
    fun _ => letGo_finished
  obtain ⟨progress, changed⟩ := letGo_eq coordinator goal
  rw [changed] at finished ⊢
  exact slot.of_same rfl rfl rfl rfl rfl finished

/-- What `Slot` gathers holds in every run. -/
theorem slot_of_reachable {config : Config} {context : Context Unit}
    (started : start config context = .ok first) (run : Reachable first coordinator) :
    Slot coordinator := by
  refine run.induct ?_ ?_ (fun _ goal _ slot => slot.letGo goal)
  · rw [eq_of_start started]
    constructor
    · intro index
      simp [clientAt, idle, ClientPlace.Knows]
    · intro _ executing
      cases executing
    · exact fun _ _ => rfl
    · intro goal current
      cases current
    · intro index
      simp [clientAt, idle, Client.Decides]
    · intro goal waits
      rcases waits with pending | waiting
      · cases pending
      · cases waiting
  · intro coordinator next before slot turn
    exact slot.turn (guarded_of_reachable started before) (orderly_of_reachable started before)
      (sorted_of_reachable started before) turn

end Others

end ArmLink.Coordinator
