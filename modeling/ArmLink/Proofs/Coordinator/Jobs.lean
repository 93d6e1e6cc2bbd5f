import ArmLink.Proofs.Coordinator.Locks

/-!
Where the job of a goal is.

The job of a goal begins in the hands of its submitter, who puts it into `pending`; from there the
worker takes it, and in the end drops it.  These are its spots (`Spot`, `jobAt`).  A step leaves the
jobs where they are, drops one, or carries one from a spot to another (`Carried`), and a new call
brings a job with a new number.  So a goal never has its job in two spots (`Sorted.unique`), and a
goal whose job is nowhere never gets it back (`Gone.of_reachable`).
-/

namespace ArmLink.Coordinator

open Goal Link Motion Telemetry

/-! ### Spots -/

/-- A spot at which a job can be. -/
inductive Spot where
  /-- With its submitter, who has not put it into `pending` yet. -/
  | client (index : Nat)
  /-- In `pending`. -/
  | pending
  /-- With the worker. -/
  | hand
deriving DecidableEq

/-- The goal whose job a submitter has not put into `pending` yet. -/
def Submitting.ahead : Submitting → Option Goal.Id
  | .askAlive id _ | .askState id _ => some id
  | .lockOld job | .readOld job | .flagOld job _ | .interruptOld job _ | .unlockOld job _
  | .lockExec job _ | .settle job | .lockCurrent job | .install job | .unlockCurrent job
  | .lowerFlag job | .raiseGoal job | .lockPending job | .enqueue job => some job.id
  | .unlockPending _ | .unlockExec _ => none

/-- The goal whose job a client has not put into `pending` yet. -/
def ClientPlace.ahead : ClientPlace → Option Goal.Id
  | .submitting place => place.ahead
  | _ => none

/-- The goal whose job the worker has. -/
def WorkerPlace.goal? (place : WorkerPlace) : Option Goal.Id := place.job?.map (·.id)

/-- The goal whose job is at a spot. -/
def jobAt (coordinator : ArmLink.Coordinator) : Spot → Option Goal.Id
  | .client index => (coordinator.clientAt index).place.ahead
  | .pending => coordinator.memory.pending.map (·.id)
  | .hand => coordinator.worker.place.goal?

/-- What a step does with the jobs. -/
inductive Carried (jobs jobs' : Spot → Option Goal.Id) : Prop where
  /-- It leaves them where they are, or drops some. -/
  | keep (kept : ∀ spot goal, jobs' spot = some goal → jobs spot = some goal)
  /-- It carries one from a spot to another. -/
  | move (origin target : Spot) (cleared : jobs' origin = none)
      (carried : ∀ goal, jobs' target = some goal → jobs origin = some goal)
      (kept : ∀ spot goal, spot ≠ target → jobs' spot = some goal → jobs spot = some goal)

section Steps

variable {workerEnded : Bool} {actor : Actor} {client client' : Client}
  {worker worker' : Worker} {memory memory' : Memory} {goal : Goal.Id}

/-- A step of a client keeps its job and leaves `pending` alone, drops its job or what is in
`pending`, or puts its job there. -/
theorem ClientRule.ahead (rule : ClientRule workerEnded actor client memory client' memory') :
    ((client'.place.ahead = client.place.ahead ∨ client'.place.ahead = none) ∧
      (memory'.pending = memory.pending ∨ memory'.pending = none)) ∨
    ∃ job, client.finishing = none ∧ client.place = .submitting (.enqueue job) ∧
      client'.place.ahead = none ∧ memory'.pending = some job := by
  cases rule with
  | finish rule =>
    obtain ⟨progress, rfl⟩ := rule.memory_eq
    exact .inl ⟨.inl (by rw [rule.place_eq]), .inl rfl⟩
  | submit free stands rule =>
    rw [stands]
    cases rule with
    | enqueue => exact .inr ⟨_, free, rfl, rfl, rfl⟩
    | notAlive | invalid | unlockPending | unlockExec => exact .inl ⟨.inr rfl, .inl rfl⟩
    | @lockExec job superseded => cases superseded <;> exact .inl ⟨.inl rfl, .inl rfl⟩
    | unlockOld | install => exact .inl ⟨.inl (by rw [finishIf_place]; rfl), .inl rfl⟩
    | _ => exact .inl ⟨.inl rfl, .inl rfl⟩
  | cancel _ stands rule =>
    rw [stands]
    cases rule <;> exact .inl ⟨.inl rfl, .inl rfl⟩
  | @exchange state _ stands =>
    rw [stands, goto_place]
    obtain ⟨answer, told | told⟩ := told_cases (memory.context.exchangeState state).1 state
    · exact .inl ⟨.inl (by rw [told]; rfl), .inl rfl⟩
    · exact .inl ⟨.inl (by rw [told]; rfl), .inl rfl⟩
  | stop _ stands rule =>
    rw [stands]
    cases rule with
    | read => exact .inl ⟨.inl (by rw [finishIf_place]; rfl), .inl rfl⟩
    | _ => exact .inl ⟨.inl rfl, .inl rfl⟩
  | close _ stands rule =>
    rw [stands]
    cases rule with
    | takePending => exact .inl ⟨.inl (by rw [finishIf_place]; rfl), .inr rfl⟩
    | takeCurrent => exact .inl ⟨.inl (by rw [finishIf_place]; rfl), .inl rfl⟩
    | _ => exact .inl ⟨.inl rfl, .inl rfl⟩

theorem goal?_of_watched {place : WorkerPlace} {job : Job} (watching : place.watched = some job) :
    place.goal? = some job.id := by
  cases place <;> simp_all [WorkerPlace.watched, WorkerPlace.goal?, WorkerPlace.job?]

@[simp] theorem afterStream_goal? {config : Config} {job : Job} {since : Duration}
    {outcome : Except Follower.Fault Streamed} :
    (worker.afterStream config job since outcome).place.goal? = some job.id := by
  unfold Worker.afterStream
  split
  · split <;> rfl
  · rfl
  · split <;> rfl

/-- A step of the worker keeps the job that it has and leaves `pending` alone, drops its job, or
takes what is in `pending`, having none itself. -/
theorem WorkerRule.goal? (rule : WorkerRule worker memory worker' memory') :
    ((worker'.place.goal? = worker.place.goal? ∨ worker'.place.goal? = none) ∧
      memory'.pending = memory.pending) ∨
    (worker.place.goal? = none ∧ memory'.pending = none ∧
      worker'.place.goal? = memory.pending.map (·.id)) := by
  cases rule with
  | finish rule =>
    obtain ⟨progress, rfl⟩ := rule.memory_eq
    exact .inl ⟨.inl (by rw [rule.place_eq]), rfl⟩
  | work _ rule =>
    generalize worker.place = place at rule ⊢
    cases rule with
    | look found => exact .inr ⟨rfl, rfl, by rw [found]; rfl⟩
    | lookAgain => exact .inr ⟨rfl, rfl, rfl⟩
    | unlockExec | breakDown => exact .inl ⟨.inr rfl, rfl⟩
    | returned | notSent | held | notHeld =>
      exact .inl ⟨.inl (by rw [afterStream_goal?]; rfl), rfl⟩
    | watch watching goesOn =>
      refine .inl ⟨.inl ?_, rfl⟩
      rw [goal?_of_watched watching, goto_place]
      rcases goesOn with goesOn | rfl
      · exact goal?_of_watched goesOn
      · rfl
    | judge watching => exact .inl ⟨.inl (by rw [goal?_of_watched watching]; rfl), rfl⟩
    | @stop job hang => cases hang <;> exact .inl ⟨.inl rfl, rfl⟩
    | _ => exact .inl ⟨.inl rfl, rfl⟩

end Steps

/-! ### Jobs are never doubled -/

/-- Every job is at one spot only, and has a number that was given out. -/
structure Sorted (coordinator : ArmLink.Coordinator) : Prop where
  counted : 1 ≤ coordinator.memory.nextId
  unique : ∀ {spot other goal}, coordinator.jobAt spot = some goal →
    coordinator.jobAt other = some goal → spot = other
  numbered : ∀ {spot goal}, coordinator.jobAt spot = some goal →
    1 ≤ goal ∧ goal < coordinator.memory.nextId

variable {coordinator next first : ArmLink.Coordinator}

theorem carried_of_client {index : Nat} {client : Client} {memory : Memory}
    (inside : index < coordinator.clients.length)
    (rule : ClientRule coordinator.worker.isGone (.client index) (coordinator.clientAt index)
      coordinator.memory client memory) :
    Carried coordinator.jobAt (coordinator.withClient index client memory).jobAt := by
  rcases rule.ahead with ⟨place, pending⟩ | ⟨job, -, stands, place, pending⟩
  · refine .keep ?_
    intro spot goal has
    cases spot with
    | client other =>
      rw [jobAt, clientAt_withClient inside] at has
      split at has
      · rename_i same
        rcases place with kept | dropped
        · rw [jobAt, same, ← kept, has]
        · rw [dropped] at has; cases has
      · exact has
    | pending =>
      rcases pending with kept | dropped
      · simpa [jobAt, withClient, kept] using has
      · simp [jobAt, withClient, dropped] at has
    | hand => exact has
  · refine .move (.client index) .pending ?_ ?_ ?_
    · rw [jobAt, clientAt_withClient_self inside, place]
    · intro goal has
      rw [jobAt, stands]
      simpa [jobAt, withClient, pending, ClientPlace.ahead, Submitting.ahead] using has
    · intro spot goal apart has
      cases spot with
      | client other =>
        rw [jobAt, clientAt_withClient inside] at has
        split at has
        · rw [place] at has; cases has
        · exact has
      | pending => exact absurd rfl apart
      | hand => exact has

theorem carried_of_worker {worker : Worker} {memory : Memory}
    (rule : WorkerRule coordinator.worker coordinator.memory worker memory) :
    Carried coordinator.jobAt { coordinator with memory, worker : ArmLink.Coordinator }.jobAt := by
  rcases rule.goal? with ⟨place, pending⟩ | ⟨empty, pending, place⟩
  · refine .keep ?_
    intro spot goal has
    cases spot with
    | client index => exact has
    | pending => simpa [jobAt, pending] using has
    | hand =>
      rcases place with kept | dropped
      · simpa [jobAt, kept] using has
      · simp [jobAt, dropped] at has
  · refine .move .pending .hand ?_ ?_ ?_
    · simp [jobAt, pending]
    · intro goal has
      simpa [jobAt, place] using has
    · intro spot goal apart has
      cases spot with
      | client index => exact has
      | pending => simp [jobAt, pending] at has
      | hand => exact absurd rfl apart

theorem Sorted.of_carried (sorted : Sorted coordinator)
    (carried : Carried coordinator.jobAt next.jobAt)
    (numbers : coordinator.memory.nextId ≤ next.memory.nextId) : Sorted next := by
  cases carried with
  | keep kept =>
    refine ⟨Nat.le_trans sorted.counted numbers, ?_, ?_⟩
    · intro spot other goal has hasToo
      exact sorted.unique (kept _ _ has) (kept _ _ hasToo)
    · intro spot goal has
      obtain ⟨positive, below⟩ := sorted.numbered (kept _ _ has)
      exact ⟨positive, Nat.lt_of_lt_of_le below numbers⟩
  | move origin target cleared carried kept =>
    -- whatever is at a spot now was at one before, and at the origin there is nothing now
    have before : ∀ spot goal, next.jobAt spot = some goal →
        coordinator.jobAt (if spot = target then origin else spot) = some goal := by
      intro spot goal has
      split
      · rename_i same
        exact carried goal (same ▸ has)
      · rename_i apart
        exact kept spot goal apart has
    have notOrigin : ∀ {spot goal}, next.jobAt spot = some goal → spot ≠ origin := by
      intro spot goal has same
      rw [same, cleared] at has
      cases has
    refine ⟨Nat.le_trans sorted.counted numbers, ?_, ?_⟩
    · intro spot other goal has hasToo
      have same := sorted.unique (before spot goal has) (before other goal hasToo)
      by_cases atTarget : spot = target
      · by_cases otherToo : other = target
        · rw [atTarget, otherToo]
        · rw [if_pos atTarget, if_neg otherToo] at same
          exact absurd same.symm (notOrigin hasToo)
      · by_cases otherToo : other = target
        · rw [if_neg atTarget, if_pos otherToo] at same
          exact absurd same (notOrigin has)
        · rwa [if_neg atTarget, if_neg otherToo] at same
    · intro spot goal has
      obtain ⟨positive, below⟩ := sorted.numbered (before spot goal has)
      exact ⟨positive, Nat.lt_of_lt_of_le below numbers⟩

theorem Opening.ahead {place : ClientPlace} {memory : Memory} {isOpen : Bool}
    (opening : Opening coordinator place memory isOpen) :
    place.ahead = none ∨
      (place.ahead = some coordinator.memory.nextId ∧
        memory.nextId = coordinator.memory.nextId + 1) := by
  cases opening with
  | submit => exact .inr ⟨rfl, rfl⟩
  | tellState state =>
    unfold ClientPlace.told
    split <;> exact .inl rfl
  | _ => exact .inl rfl

theorem ClientRule.nextId_eq {workerEnded : Bool} {actor : Actor} {client client' : Client}
    {memory memory' : Memory}
    (rule : ClientRule workerEnded actor client memory client' memory') :
    memory'.nextId = memory.nextId := by
  cases rule with
  | finish rule => obtain ⟨progress, rfl⟩ := rule.memory_eq; rfl
  | submit _ _ rule => cases rule <;> rfl
  | cancel _ _ rule => cases rule <;> rfl
  | exchange => rfl
  | stop _ _ rule => cases rule <;> rfl
  | close _ _ rule => cases rule <;> rfl

theorem WorkerRule.nextId_eq {worker worker' : Worker} {memory memory' : Memory}
    (rule : WorkerRule worker memory worker' memory') : memory'.nextId = memory.nextId := by
  cases rule with
  | finish rule => obtain ⟨progress, rfl⟩ := rule.memory_eq; rfl
  | work _ rule =>
    generalize worker.place = place at rule
    cases rule <;> rfl

theorem Sorted.call {place : ClientPlace} {memory : Memory} {isOpen : Bool}
    (sorted : Sorted coordinator) (opening : Opening coordinator place memory isOpen) :
    Sorted (coordinator.opened place memory isOpen) := by
  have grown : coordinator.memory.nextId ≤ memory.nextId := by
    obtain ⟨nextId, grown, changed⟩ := opening.memory_eq
    rw [changed]
    exact grown
  have samePending : memory.pending = coordinator.memory.pending := by
    obtain ⟨nextId, -, changed⟩ := opening.memory_eq
    rw [changed]
  -- what is not the new client's was there before, and what is there has a smaller number
  have before : ∀ {spot goal}, (coordinator.opened place memory isOpen).jobAt spot = some goal →
      coordinator.jobAt spot = some goal ∨
        (spot = .client coordinator.clients.length ∧ goal = coordinator.memory.nextId ∧
          memory.nextId = coordinator.memory.nextId + 1) := by
    intro spot goal has
    cases spot with
    | client index =>
      rw [jobAt, clientAt_opened] at has
      split at has
      · rename_i isNew
        rcases opening.ahead with none | ⟨new, number⟩
        · rw [none] at has; cases has
        · rw [new] at has
          exact .inr ⟨by rw [isNew], (Option.some.inj has).symm, number⟩
      · exact .inl has
    | pending =>
      left
      rw [jobAt, opened, samePending] at has
      exact has
    | hand => exact .inl has
  refine ⟨Nat.le_trans sorted.counted grown, ?_, ?_⟩
  · intro spot other goal has hasToo
    rcases before has with had | ⟨isNew, number, -⟩
    · rcases before hasToo with hadToo | ⟨-, number, -⟩
      · exact sorted.unique had hadToo
      · exact absurd (sorted.numbered had).2 (by rw [number]; exact Nat.lt_irrefl _)
    · rcases before hasToo with hadToo | ⟨isNewToo, -, -⟩
      · exact absurd (sorted.numbered hadToo).2 (by rw [number]; exact Nat.lt_irrefl _)
      · rw [isNew, isNewToo]
  · intro spot goal has
    rcases before has with had | ⟨-, number, next⟩
    · obtain ⟨positive, below⟩ := sorted.numbered had
      exact ⟨positive, Nat.lt_of_lt_of_le below grown⟩
    · rw [number]
      refine ⟨sorted.counted, ?_⟩
      rw [opened, next]
      exact Nat.lt_succ_self _

theorem Turn.carried (turn : Turn coordinator next) :
    (∃ place memory isOpen, Opening coordinator place memory isOpen ∧
      next = coordinator.opened place memory isOpen) ∨
    (Carried coordinator.jobAt next.jobAt ∧
      next.memory.nextId = coordinator.memory.nextId) := by
  cases turn with
  | call opening => exact .inl ⟨_, _, _, opening, rfl⟩
  | client index inside step =>
    have rule := clientRule_of_step step
    exact .inr ⟨carried_of_client inside rule, rule.nextId_eq⟩
  | worker choice step =>
    have rule := workerRule_of_step step
    exact .inr ⟨carried_of_worker rule, rule.nextId_eq⟩
  | observe | pass | take => exact .inr ⟨.keep fun _ _ has => has, rfl⟩

theorem Turn.nextId_le (turn : Turn coordinator next) :
    coordinator.memory.nextId ≤ next.memory.nextId := by
  rcases turn.carried with ⟨place, memory, isOpen, opening, rfl⟩ | ⟨-, number⟩
  · obtain ⟨nextId, grown, changed⟩ := opening.memory_eq
    rw [opened, changed]
    exact grown
  · exact Nat.le_of_eq number.symm

theorem Reachable.nextId_le (run : Reachable first coordinator) :
    first.memory.nextId ≤ coordinator.memory.nextId := by
  refine run.induct (motive := fun coordinator => first.memory.nextId ≤ coordinator.memory.nextId)
    (Nat.le_refl _) ?_ ?_
  · exact fun _ _ _ grown turn => Nat.le_trans grown turn.nextId_le
  · intro coordinator goal _ grown
    rw [letGo_nextId]
    exact grown

theorem Sorted.turn (sorted : Sorted coordinator) (turn : Turn coordinator next) :
    Sorted next := by
  rcases turn.carried with ⟨place, memory, isOpen, opening, rfl⟩ | ⟨carried, number⟩
  · exact sorted.call opening
  · exact sorted.of_carried carried (Nat.le_of_eq number.symm)

theorem Sorted.letGo (sorted : Sorted coordinator) (goal : Goal.Id) :
    Sorted (coordinator.letGo goal) := by
  obtain ⟨progress, changed⟩ := letGo_eq coordinator goal
  rw [changed]
  exact ⟨sorted.counted, sorted.unique, sorted.numbered⟩

/-- In every run, a goal has its job at one spot at most. -/
theorem sorted_of_reachable {config : Config} {context : Context Unit}
    (started : start config context = .ok first) (run : Reachable first coordinator) :
    Sorted coordinator := by
  refine run.induct ?_ (fun _ _ _ sorted => sorted.turn) (fun _ goal _ sorted => sorted.letGo goal)
  rw [eq_of_start started]
  refine ⟨Nat.le_refl 1, ?_, ?_⟩
  · intro spot other goal has
    cases spot <;>
      simp [jobAt, clientAt, idle, ClientPlace.ahead, WorkerPlace.goal?, WorkerPlace.job?] at has
  · intro spot goal has
    cases spot <;>
      simp [jobAt, clientAt, idle, ClientPlace.ahead, WorkerPlace.goal?, WorkerPlace.job?] at has

/-- Whether a goal has been given its number and its job is nowhere any more. -/
def Gone (coordinator : ArmLink.Coordinator) (goal : Goal.Id) : Prop :=
  goal < coordinator.memory.nextId ∧ ∀ spot, coordinator.jobAt spot ≠ some goal

theorem Gone.of_carried {goal : Goal.Id} (gone : Gone coordinator goal)
    (carried : Carried coordinator.jobAt next.jobAt)
    (number : next.memory.nextId = coordinator.memory.nextId) : Gone next goal := by
  refine ⟨number ▸ gone.1, ?_⟩
  intro spot has
  cases carried with
  | keep kept => exact gone.2 spot (kept spot goal has)
  | move origin target _ carried kept =>
    by_cases same : spot = target
    · exact gone.2 origin (carried goal (same ▸ has))
    · exact gone.2 spot (kept spot goal same has)

theorem Gone.turn {goal : Goal.Id} (gone : Gone coordinator goal)
    (turn : Turn coordinator next) : Gone next goal := by
  rcases turn.carried with ⟨place, memory, isOpen, opening, rfl⟩ | ⟨carried, number⟩
  · obtain ⟨nextId, grown, changed⟩ := opening.memory_eq
    refine ⟨?_, ?_⟩
    · rw [opened, changed]
      exact Nat.lt_of_lt_of_le gone.1 grown
    · intro spot has
      cases spot with
      | client index =>
        rw [jobAt, clientAt_opened] at has
        split at has
        · rcases opening.ahead with none | ⟨new, -⟩
          · rw [none] at has; cases has
          · rw [new] at has
            rw [← Option.some.inj has] at gone
            exact absurd gone.1 (Nat.lt_irrefl _)
        · exact gone.2 (.client index) has
      | pending =>
        rw [jobAt, opened, changed] at has
        exact gone.2 .pending has
      | hand => exact gone.2 .hand has
  · exact gone.of_carried carried number

theorem Gone.letGo {goal : Goal.Id} (gone : Gone coordinator goal) (other : Goal.Id) :
    Gone (coordinator.letGo other) goal := by
  obtain ⟨progress, changed⟩ := letGo_eq coordinator other
  rw [changed]
  exact gone

/-- A goal whose job is nowhere never gets it back. -/
theorem Gone.of_reachable {goal : Goal.Id} (gone : Gone first goal)
    (run : Reachable first coordinator) : Gone coordinator goal :=
  run.induct (motive := fun coordinator => Gone coordinator goal) gone
    (fun _ _ _ gone => gone.turn) (fun _ other _ gone => gone.letGo other)

end ArmLink.Coordinator
