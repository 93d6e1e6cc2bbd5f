import ArmLink.Proofs.Coordinator.Closing
import ArmLink.Proofs.Coordinator.Jobs
import ArmLink.Proofs.Coordinator.Progress

/-!
What a thread knows of the slot by its place.

The slot is `current` together with `hasGoal`, which says without a lock whether `current` holds a
goal.  Whoever holds `exec` knows what `current` holds (`ClientPlace.Knows`, `WorkerPlace.Knows`), and
a thread that makes a step knows it afterwards (`ClientRule.knows`, `WorkerRule.knows`).  A step that
begins and ends outside the few steps between writing the one and the other keeps `hasGoal` and
`current` in agreement, or makes them agree (`ClientRule.settles`, `WorkerRule.settles`).
-/

namespace ArmLink.Coordinator

open Goal Link Motion Telemetry

/-! ### What a thread knows by its place -/

/-- The goal that a submitter has installed in the slot, its job not being in `pending` yet. -/
def ClientPlace.installing : ClientPlace → Option Goal.Id
  | .submitting (.unlockCurrent job) | .submitting (.lowerFlag job) | .submitting (.raiseGoal job)
  | .submitting (.lockPending job) | .submitting (.enqueue job) => some job.id
  | _ => none

/-- What a client knows of the slot where it stands. -/
def ClientPlace.Knows (memory : Memory) : ClientPlace → Prop
  | .submitting (.unlockCurrent job) | .submitting (.lowerFlag job) | .submitting (.raiseGoal job)
  | .submitting (.lockPending job) | .submitting (.enqueue job) => memory.current = some job.id
  | .submitting (.unlockPending id) | .submitting (.unlockExec id) => memory.current = some id
  | .canceling (.lowerGoal ..) => memory.current = none
  | .closing (.unlockPending _) | .closing .lockCurrent | .closing .takeCurrent =>
    memory.pending = none
  | .closing (.unlockCurrent _) | .closing .lowerGoal =>
    memory.pending = none ∧ memory.current = none
  | _ => True

/-- The job that the worker executes: it has found the goal without an outcome, and has not come to
giving up the slot. -/
def WorkerPlace.executing : WorkerPlace → Option Job
  | .checkAccept job | .sendAccepted job | .startPoint job | .start job | .starting job
  | .checkFlag job | .beginStream job | .streaming job _ | .sending job _ | .holding job
  | .timedCheck job | .monitor job _ | .graceClock job _ | .graceFlag job _ | .pollFlag job _
  | .pollJoints job _ | .pollClock job _ | .stop job _ | .hang job _ => some job
  | _ => none

/-- The goal of the job that the worker has taken and not looked at yet. -/
def WorkerPlace.waiting : WorkerPlace → Option Goal.Id
  | .unlockPending job => job.map (·.id)
  | .lockExec job | .checkFinished job => some job.id
  | _ => none

/-- What the worker knows of the slot where it stands. -/
def WorkerPlace.Knows (memory : Memory) (place : WorkerPlace) : Prop :=
  match place with
  | .lowerGoal _ => memory.current = none
  | .unlockCurrent job | .unlockExec job => memory.current ≠ some job.id
  | place => ∀ job, place.executing = some job → memory.current = some job.id

/-- Whether a client has written `current` and is about to write `hasGoal`. -/
def ClientPlace.isBetween : ClientPlace → Bool
  | .submitting (.unlockCurrent _) | .submitting (.lowerFlag _) | .submitting (.raiseGoal _)
  | .canceling (.lowerGoal ..) | .closing (.unlockCurrent _) | .closing .lowerGoal => true
  | _ => false

/-- Whether the worker has written `current` and is about to write `hasGoal`. -/
def WorkerPlace.isBetween : WorkerPlace → Bool
  | .lowerGoal _ => true
  | _ => false

/-- Whether a canceller that has come to the slot is about to decide on its goal, or finds it
decided. -/
def Client.Decides (memory : Memory) (client : Client) : Prop :=
  match client.place with
  | .canceling (.relock id) => (memory.progress id).finished = true ∨
      ∃ outcome, client.finishing = some (.mark id outcome)
  | .canceling (.vacate id _) => (memory.progress id).finished = true
  | _ => True

/-! ### The thread that makes a step -/

section Steps

variable {workerEnded : Bool} {actor : Actor} {client client' : Client}
  {worker worker' : Worker} {memory memory' : Memory} {goal : Goal.Id}

theorem ClientPlace.Knows.congr {place : ClientPlace} (knows : place.Knows memory)
    (current : memory'.current = memory.current) (pending : memory'.pending = memory.pending) :
    place.Knows memory' := by
  unfold ClientPlace.Knows at knows ⊢
  rw [current, pending]
  exact knows

theorem WorkerPlace.Knows.congr {place : WorkerPlace} (knows : place.Knows memory)
    (current : memory'.current = memory.current) : place.Knows memory' := by
  unfold WorkerPlace.Knows at knows ⊢
  rw [current]
  exact knows

/-- What a client knows, it knows because it holds `exec` or cleans up. -/
theorem ClientPlace.Knows.of_exec {place : ClientPlace} (knows : place.Knows memory)
    (holds : Lock.exec ∈ place.locks) (current : memory'.current = memory.current) :
    place.Knows memory' := by
  unfold ClientPlace.Knows at knows ⊢
  rw [current]
  split at knows <;> first
    | exact knows
    | simp [ClientPlace.locks, Closing.locks] at holds

theorem ClientPlace.knows_trivial {place : ClientPlace} (noExec : Lock.exec ∉ place.locks)
    (notCleaning : place.isCleaning = false) : place.Knows memory := by
  unfold ClientPlace.Knows
  split <;> first
    | trivial
    | exact absurd (by simp [ClientPlace.locks, Submitting.locks, Canceling.locks]) noExec

theorem WorkerPlace.knows_trivial {place : WorkerPlace} (noExec : Lock.exec ∉ place.locks) :
    place.Knows memory := by
  cases place <;> first
    | (intro job executing; cases executing; done)
    | (refine absurd ?_ noExec; simp [WorkerPlace.locks])

/-- A client knows after its step what it has to know. -/
theorem ClientRule.knows (rule : ClientRule workerEnded actor client memory client' memory')
    (knows : client.place.Knows memory) : client'.place.Knows memory' := by
  cases rule with
  | finish rule =>
    obtain ⟨progress, rfl⟩ := rule.memory_eq
    rw [rule.place_eq]
    exact knows
  | submit _ stands rule =>
    rw [stands] at knows
    cases rule with
    | unlockOld => rw [finishIf_place]; trivial
    | install => rw [finishIf_place]; rfl
    | @lockExec job superseded => cases superseded <;> trivial
    | unlockCurrent | lowerFlag | raiseGoal | lockPending | enqueue | unlockPending => exact knows
    | _ => trivial
  | cancel _ stands rule =>
    rw [stands] at knows
    cases rule with
    | vacate => rfl
    | _ => trivial
  | @exchange state =>
    obtain ⟨answer, told | told⟩ := told_cases (memory.context.exchangeState state).1 state
    · rw [goto_place, told]; trivial
    · rw [goto_place, told]; trivial
  | stop _ stands rule =>
    cases rule with
    | read => rw [finishIf_place]; trivial
    | _ => trivial
  | close _ stands rule =>
    rw [stands] at knows
    cases rule with
    | takePending => rw [finishIf_place]; rfl
    | takeCurrent => rw [finishIf_place]; exact ⟨knows, rfl⟩
    | unlockPending | lockCurrent | unlockCurrent => exact knows
    | _ => trivial

theorem executing_of_watched {place : WorkerPlace} {job : Job}
    (watching : place.watched = some job) : place.executing = some job := by
  cases place <;> first
    | exact watching
    | cases watching

theorem WorkerPlace.Knows.of_executing {place : WorkerPlace} {job : Job}
    (knows : place.Knows memory) (executing : place.executing = some job) :
    memory.current = some job.id := by
  cases place <;> first
    | exact knows job executing
    | cases executing

theorem WorkerPlace.knows_of_executing {place : WorkerPlace} {job : Job}
    (executing : place.executing = some job) (current : memory.current = some job.id) :
    place.Knows memory := by
  cases place <;> first
    | (intro other same; cases executing.symm.trans same; exact current)
    | cases executing

@[simp] theorem afterStream_executing {config : Config} {job : Job} {since : Duration}
    {outcome : Except Follower.Fault Streamed} :
    (worker.afterStream config job since outcome).place.executing = some job := by
  unfold Worker.afterStream
  split
  · split <;> rfl
  · rfl
  · split <;> rfl

/-- The worker knows after its step what it has to know, if a job without an outcome that it finds
belongs to the goal in the slot. -/
theorem WorkerRule.knows (rule : WorkerRule worker memory worker' memory')
    (knows : worker.place.Knows memory)
    (honest : ∀ job, worker.place = .checkFinished job →
      (memory.progress job.id).finished = false → memory.current = some job.id) :
    worker'.place.Knows memory' := by
  cases rule with
  | finish rule =>
    obtain ⟨progress, rfl⟩ := rule.memory_eq
    rw [rule.place_eq]
    exact knows
  | work _ rule =>
    generalize worker.place = place at rule knows honest
    cases rule with
    | begin undecided =>
      have current := honest _ rfl undecided
      exact WorkerPlace.knows_of_executing rfl current
    | acceptLate | accept | sendAccepted | startPoint | start | started | notFlagged | beginStream
    | tick | breakOff | sent | flagged =>
      have current := knows.of_executing rfl
      exact WorkerPlace.knows_of_executing rfl current
    | returned | notSent | held | notHeld =>
      have current := knows.of_executing rfl
      exact WorkerPlace.knows_of_executing afterStream_executing current
    | watch watching goesOn =>
      have current := knows.of_executing (executing_of_watched watching)
      rcases goesOn with goesOn | rfl
      · exact WorkerPlace.knows_of_executing (executing_of_watched goesOn) current
      · exact WorkerPlace.knows_of_executing rfl current
    | judge watching =>
      have current := knows.of_executing (executing_of_watched watching)
      exact WorkerPlace.knows_of_executing rfl current
    | @stop job hang =>
      cases hang with
      | none => exact fun _ executing => nomatch executing
      | some fault =>
        have current := knows.of_executing rfl
        exact WorkerPlace.knows_of_executing rfl current
    | vacate => rfl
    | keep notCurrent => exact notCurrent
    | lowerGoal =>
      intro current
      rw [show memory.current = none from knows] at current
      cases current
    | unlockCurrent => exact knows
    | _ => exact fun _ executing => nomatch executing

/-- A step of a client that leaves nobody between `current` and `hasGoal` leaves both alone, or
makes them agree. -/
theorem ClientRule.settles (rule : ClientRule workerEnded actor client memory client' memory')
    (knows : client.place.Knows memory) (settled : client'.place.isBetween = false) :
    (client.place.isBetween = false ∧ memory'.current = memory.current ∧
      memory'.hasGoal = memory.hasGoal) ∨ memory'.hasGoal = memory'.current.isSome := by
  cases rule with
  | finish rule =>
    obtain ⟨progress, rfl⟩ := rule.memory_eq
    rw [rule.place_eq] at settled
    exact .inl ⟨settled, rfl, rfl⟩
  | submit _ stands rule =>
    rw [stands] at knows ⊢
    cases rule with
    | install => rw [finishIf_place] at settled; cases settled
    | unlockCurrent | lowerFlag => cases settled
    | raiseGoal =>
      right
      rw [show memory.current = _ from knows]
      rfl
    | _ => exact .inl ⟨rfl, rfl, rfl⟩
  | cancel _ stands rule =>
    rw [stands] at knows ⊢
    cases rule with
    | vacate => cases settled
    | lowerGoal =>
      right
      rw [show memory.current = none from knows]
      rfl
    | _ => exact .inl ⟨rfl, rfl, rfl⟩
  | exchange _ stands => exact .inl ⟨by rw [stands]; rfl, rfl, rfl⟩
  | stop _ stands rule =>
    rw [stands]
    cases rule <;> exact .inl ⟨rfl, rfl, rfl⟩
  | close _ stands rule =>
    rw [stands] at knows ⊢
    cases rule with
    | takeCurrent => rw [finishIf_place] at settled; cases settled
    | unlockCurrent => cases settled
    | lowerGoal =>
      right
      rw [show memory.current = none from knows.2]
      rfl
    | _ => exact .inl ⟨rfl, rfl, rfl⟩

theorem ClientRule.current_cases
    (rule : ClientRule workerEnded actor client memory client' memory') :
    memory'.current = memory.current ∨ memory'.current = none ∨
      client'.place.installing = memory'.current := by
  cases rule with
  | finish rule => obtain ⟨progress, rfl⟩ := rule.memory_eq; exact .inl rfl
  | submit _ _ rule =>
    cases rule with
    | install => exact .inr (.inr (by rw [finishIf_place]; rfl))
    | _ => exact .inl rfl
  | cancel _ _ rule =>
    cases rule with
    | vacate => exact .inr (.inl rfl)
    | _ => exact .inl rfl
  | exchange => exact .inl rfl
  | stop _ _ rule => cases rule <;> exact .inl rfl
  | close _ _ rule =>
    cases rule with
    | takeCurrent => exact .inr (.inl rfl)
    | _ => exact .inl rfl

theorem ClientRule.pending_cases
    (rule : ClientRule workerEnded actor client memory client' memory') :
    memory'.pending = memory.pending ∨
      (client'.place.isCleaning = true ∧ memory'.pending = none) ∨
      ∃ job, client.place = .submitting (.enqueue job) ∧ memory'.pending = some job ∧
        memory'.current = memory.current := by
  cases rule with
  | finish rule => obtain ⟨progress, rfl⟩ := rule.memory_eq; exact .inl rfl
  | submit _ stands rule =>
    cases rule with
    | enqueue => exact .inr (.inr ⟨_, stands, rfl, rfl⟩)
    | _ => exact .inl rfl
  | cancel _ _ rule => cases rule <;> exact .inl rfl
  | exchange => exact .inl rfl
  | stop _ _ rule => cases rule <;> exact .inl rfl
  | close _ _ rule =>
    cases rule with
    | takePending => exact .inr (.inl ⟨by rw [finishIf_place]; rfl, rfl⟩)
    | _ => exact .inl rfl

theorem ClientRule.installing (rule : ClientRule workerEnded actor client memory client' memory')
    (installing : client.place.installing = some goal) :
    client'.place.installing = some goal ∨ memory'.pending.map (·.id) = some goal := by
  cases rule with
  | finish rule => exact .inl (by rw [rule.place_eq]; exact installing)
  | submit _ stands rule =>
    rw [stands] at installing
    cases rule with
    | unlockCurrent | lowerFlag | raiseGoal | lockPending => exact .inl installing
    | enqueue => exact .inr installing
    | _ => cases installing
  | cancel _ stands => rw [stands] at installing; cases installing
  | exchange _ stands => rw [stands] at installing; cases installing
  | stop _ stands => rw [stands] at installing; cases installing
  | close _ stands => rw [stands] at installing; cases installing

/-- Cleaning up ends with an empty slot. -/
theorem ClientRule.isCleaning (rule : ClientRule workerEnded actor client memory client' memory')
    (knows : client.place.Knows memory) (cleaning : client.place.isCleaning = true) :
    client'.place.isCleaning = true ∨ memory'.current = none := by
  cases rule with
  | finish rule => exact .inl (by rw [rule.place_eq]; exact cleaning)
  | submit _ stands => rw [stands] at cleaning; cases cleaning
  | cancel _ stands => rw [stands] at cleaning; cases cleaning
  | exchange _ stands => rw [stands] at cleaning; cases cleaning
  | stop _ stands => rw [stands] at cleaning; cases cleaning
  | close _ stands rule =>
    rw [stands] at cleaning knows
    cases rule with
    | lowerRunning | raiseFlag | interrupt | join => cases cleaning
    | takePending | takeCurrent => exact .inl (by rw [finishIf_place]; rfl)
    | lockPending | unlockPending | lockCurrent | unlockCurrent => exact .inl rfl
    | lowerGoal => exact .inr knows.2

/-- A canceller decides on its goal before it vacates the slot. -/
theorem ClientRule.decides (rule : ClientRule workerEnded actor client memory client' memory')
    (decides : client.Decides memory) : client'.Decides memory' := by
  cases rule with
  | finish rule =>
    have progressing := rule.progressing
    unfold Client.Decides at decides ⊢
    rw [rule.place_eq]
    split at decides
    · rcases decides with decided | ⟨outcome, finishing⟩
      · exact .inl (progressing.finished decided)
      · exact .inl (rule.marking finishing)
    · exact progressing.finished decides
    · trivial
  | submit _ _ rule =>
    cases rule with
    | unlockOld | install => unfold Client.Decides; rw [finishIf_place]; trivial
    | @lockExec job superseded => cases superseded <;> trivial
    | _ => trivial
  | cancel free stands rule =>
    unfold Client.Decides at decides
    rw [stands, free] at decides
    cases rule with
    | lockExec => exact .inr ⟨.canceled, rfl⟩
    | relock =>
      rcases decides with decided | ⟨outcome, finishing⟩
      · exact decided
      · cases finishing
    | _ => trivial
  | @exchange state =>
    obtain ⟨answer, told | told⟩ := told_cases (memory.context.exchangeState state).1 state
    · unfold Client.Decides; rw [goto_place, told]; trivial
    · unfold Client.Decides; rw [goto_place, told]; trivial
  | stop _ _ rule =>
    cases rule with
    | read => unfold Client.Decides; rw [finishIf_place]; trivial
    | _ => trivial
  | close _ _ rule =>
    cases rule with
    | takePending | takeCurrent => unfold Client.Decides; rw [finishIf_place]; trivial
    | _ => trivial

/-- Whoever takes a goal out of the slot is about to give it its outcome, or has decided on it, or
cleans up. -/
theorem ClientRule.displaces (rule : ClientRule workerEnded actor client memory client' memory')
    (decides : client.Decides memory) (current : memory.current = some goal)
    (displaced : memory'.current ≠ some goal) :
    (∃ job outcome, client'.place = .submitting (.unlockCurrent job) ∧
      client'.finishing = some (.mark goal outcome)) ∨
    (memory'.progress goal).finished = true ∨ client.place = .closing .takeCurrent := by
  cases rule with
  | finish rule =>
    obtain ⟨progress, rfl⟩ := rule.memory_eq
    exact absurd current displaced
  | submit _ _ rule =>
    cases rule with
    | @install job => exact .inl ⟨job, _, finishIf_place, by rw [current]; rfl⟩
    | _ => exact absurd current displaced
  | cancel _ stands rule =>
    unfold Client.Decides at decides
    rw [stands] at decides
    cases rule with
    | vacate isCurrent =>
      cases isCurrent.symm.trans current
      exact .inr (.inl decides)
    | _ => exact absurd current displaced
  | exchange => exact absurd current displaced
  | stop _ _ rule => cases rule <;> exact absurd current displaced
  | close _ stands rule =>
    cases rule with
    | takeCurrent => exact .inr (.inr stands)
    | _ => exact absurd current displaced

theorem ClientRule.memory_of_isQuiet
    (rule : ClientRule workerEnded actor client memory client' memory') (quiet : client.IsQuiet) :
    memory'.current = memory.current ∧ memory'.pending = memory.pending := by
  cases rule with
  | finish rule => obtain ⟨progress, rfl⟩ := rule.memory_eq; exact ⟨rfl, rfl⟩
  | submit _ stands => cases quiet <;> simp_all
  | cancel _ stands => cases quiet <;> simp_all
  | exchange => exact ⟨rfl, rfl⟩
  | stop _ _ rule => cases rule <;> exact ⟨rfl, rfl⟩
  | close _ stands => cases quiet <;> simp_all

theorem WorkerRule.memory_of_isGone (rule : WorkerRule worker memory worker' memory')
    (gone : worker.isGone = true) :
    memory'.current = memory.current ∧ memory'.pending = memory.pending := by
  cases rule with
  | finish rule => obtain ⟨progress, rfl⟩ := rule.memory_eq; exact ⟨rfl, rfl⟩
  | work _ rule =>
    unfold Worker.isGone at gone
    generalize worker.place = place at rule gone
    cases rule <;> first
      | exact ⟨rfl, rfl⟩
      | cases gone

theorem WorkerRule.settles (rule : WorkerRule worker memory worker' memory')
    (knows : worker.place.Knows memory) (settled : worker'.place.isBetween = false) :
    (worker.place.isBetween = false ∧ memory'.current = memory.current ∧
      memory'.hasGoal = memory.hasGoal) ∨ memory'.hasGoal = memory'.current.isSome := by
  cases rule with
  | finish rule =>
    obtain ⟨progress, rfl⟩ := rule.memory_eq
    rw [rule.place_eq] at settled
    exact .inl ⟨settled, rfl, rfl⟩
  | work _ rule =>
    generalize worker.place = place at rule knows ⊢
    cases rule with
    | vacate => cases settled
    | lowerGoal =>
      right
      rw [show memory.current = none from knows]
      rfl
    | watch watching =>
      refine .inl ⟨?_, rfl, rfl⟩
      cases place <;> first
        | rfl
        | cases watching
    | judge watching =>
      refine .inl ⟨?_, rfl, rfl⟩
      cases place <;> first
        | rfl
        | cases watching
    | _ => exact .inl ⟨rfl, rfl, rfl⟩

theorem WorkerRule.current_cases (rule : WorkerRule worker memory worker' memory') :
    memory'.current = memory.current ∨ (memory'.current = none ∧
      ∃ job, worker'.place = .lowerGoal job ∧ memory.current = some job.id) := by
  cases rule with
  | finish rule => obtain ⟨progress, rfl⟩ := rule.memory_eq; exact .inl rfl
  | work _ rule =>
    generalize worker.place = place at rule
    cases rule with
    | vacate isCurrent => exact .inr ⟨rfl, _, rfl, isCurrent⟩
    | _ => exact .inl rfl

/-- The worker drops a job when it has given up the slot, or by breaking down. -/
theorem WorkerRule.drops (rule : WorkerRule worker memory worker' memory')
    (has : worker.place.goal? = some goal) :
    worker'.place.goal? = some goal ∨ (∃ job, worker.place = .unlockExec job ∧ job.id = goal ∧
      memory'.current = memory.current) ∨ worker'.place = .dead := by
  cases rule with
  | finish rule => exact .inl (by rw [rule.place_eq]; exact has)
  | work _ rule =>
    generalize worker.place = place at rule has ⊢
    cases rule with
    | @unlockExec job => exact .inr (.inl ⟨job, rfl, Option.some.inj has, rfl⟩)
    | breakDown => exact .inr (.inr rfl)
    | returned | notSent | held | notHeld => exact .inl (by rw [afterStream_goal?]; exact has)
    | watch watching goesOn =>
      left
      rw [goal?_of_watched watching] at has
      rw [goto_place]
      rcases goesOn with goesOn | rfl
      · exact (goal?_of_watched goesOn).trans has
      · exact has
    | judge watching => exact .inl ((goal?_of_watched watching).symm.trans has)
    | @stop job hang => cases hang <;> exact .inl has
    | goOn | quit | lockPending | look | lookInVain | sleep | wake | lookAgain | tryAgain =>
      cases has
    | _ => exact .inl has

theorem waiting_of_executing {place : WorkerPlace} {job : Job}
    (executing : place.executing = some job) : place.waiting = none := by
  cases place <;> first
    | rfl
    | cases executing

theorem WorkerRule.waiting (rule : WorkerRule worker memory worker' memory')
    (waiting : worker'.place.waiting = some goal) :
    worker.place.waiting = some goal ∨ memory.pending.map (·.id) = some goal := by
  cases rule with
  | finish rule => rw [rule.place_eq] at waiting; exact .inl waiting
  | work _ rule =>
    generalize worker.place = place at rule ⊢
    cases rule with
    | look found => exact .inr (by rw [found]; exact waiting)
    | lookAgain => exact .inr waiting
    | unlockPending | lockExec => exact .inl waiting
    | returned | notSent | held | notHeld =>
      rw [waiting_of_executing afterStream_executing] at waiting
      cases waiting
    | watch _ goesOn =>
      rcases goesOn with goesOn | rfl
      · rw [goto_place, waiting_of_executing (executing_of_watched goesOn)] at waiting
        cases waiting
      · cases waiting
    | @stop job hang => cases hang <;> cases waiting
    | _ => cases waiting

end Steps

end ArmLink.Coordinator
