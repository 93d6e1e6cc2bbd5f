import ArmLink.Proofs.Coordinator.ShuttingDown

/-!
What has become of the other goals when a goal is accepted.

Goals are accepted one at a time by the worker, which holds `exec` and whose goal is current then.
So of the other goals nobody is putting one into the slot or taking one out of it, and nobody who
looks at the slot has found one of them (`Found`).  What can be left of a goal without an outcome is
a submitter, or one who has given up the lock `current` and is going to give it an outcome
(`outgoing_of_accepting`).

The last of these is no formality: neither a canceller nor a submitter that takes the place of a
goal needs `exec` to stop it, and another goal may be accepted before they give the outcome
(`accepted_before_outcome`).
-/

namespace ArmLink.Coordinator

open Goal Link Motion Telemetry

/-- The goal that a client has found in the slot, and on whose account it still holds the lock. -/
def ClientPlace.foundInSlot : ClientPlace → Option Goal.Id
  | .submitting (.flagOld _ old) | .submitting (.interruptOld _ old) => some old
  | .submitting (.unlockOld _ old) => old
  | .canceling (.flag id) | .canceling (.interrupt id) | .canceling (.unlockCurrent id true) =>
    some id
  | _ => none

/-- What a client has found in the slot is still there. -/
def Found (coordinator : ArmLink.Coordinator) : Prop :=
  ∀ index goal, (coordinator.clientAt index).place.foundInSlot = some goal →
    coordinator.memory.current = some goal

section Steps

variable {workerEnded : Bool} {actor : Actor} {client client' : Client} {memory memory' : Memory}
  {goal : Goal.Id} {place : ClientPlace}

theorem current_of_foundInSlot (found : place.foundInSlot = some goal) :
    Lock.current ∈ place.locks := by
  unfold ClientPlace.foundInSlot at found
  split at found <;> first
    | (cases found; done)
    | simp [ClientPlace.locks, Submitting.locks, Canceling.locks]

theorem Submitting.ahead_or_found {place : Submitting} (keeps : goal ∈ place.held) :
    place.ahead = some goal ∨ (ClientPlace.submitting place).foundInSlot = some goal := by
  cases place with
  | flagOld | interruptOld =>
    rcases List.mem_cons.mp keeps with rfl | keeps
    · exact .inl rfl
    · exact .inr (congrArg some (List.mem_singleton.mp keeps).symm)
  | unlockOld job old =>
    rcases List.mem_cons.mp keeps with rfl | keeps
    · exact .inl rfl
    · exact .inr (Option.mem_toList.mp keeps)
  | unlockPending | unlockExec => cases keeps
  | _ => exact .inl (congrArg some (List.mem_singleton.mp keeps).symm)

theorem ClientRule.foundInSlot (rule : ClientRule workerEnded actor client memory client' memory')
    (found : client'.place.foundInSlot = some goal) :
    client.place.foundInSlot = some goal ∧ memory'.current = memory.current ∨
      memory'.current = some goal := by
  cases rule with
  | finish rule =>
    obtain ⟨progress, rfl⟩ := rule.memory_eq
    exact .inl ⟨rule.place_eq ▸ found, rfl⟩
  | submit _ stands rule =>
    rw [stands]
    cases rule with
    | foundOld old => exact .inr (old.trans found)
    | flagOld | interruptOld => exact .inl ⟨found, rfl⟩
    | unlockOld | install => rw [finishIf_place] at found; cases found
    | @lockExec job superseded => cases superseded <;> cases found
    | _ => cases found
  | cancel _ stands rule =>
    rw [stands]
    cases rule with
    | found isCurrent => exact .inr (isCurrent.trans found)
    | flag | interrupt => exact .inl ⟨found, rfl⟩
    | _ => cases found
  | @exchange state =>
    obtain ⟨answer, told | told⟩ := told_cases (memory.context.exchangeState state).1 state
    · rw [goto_place, told] at found; cases found
    · rw [goto_place, told] at found; cases found
  | stop _ _ rule =>
    cases rule with
    | read => rw [finishIf_place] at found; cases found
    | _ => cases found
  | close _ _ rule =>
    cases rule with
    | takePending | takeCurrent => rw [finishIf_place] at found; cases found
    | _ => cases found

end Steps

variable {coordinator next first : ArmLink.Coordinator} {goal : Goal.Id}

/-- Whoever else would change the slot holds the lock as well. -/
theorem Found.turn (found : Found coordinator) (guarded : Guarded coordinator)
    (turn : Turn coordinator next) : Found next := by
  intro index goal here
  cases turn with
  | @call place memory isOpen opening =>
    obtain ⟨nextId, -, rfl⟩ := opening.memory_eq
    rw [clientAt_opened] at here
    split at here
    · have locked := current_of_foundInSlot here
      rw [show place.locks = [] from opening.locks_eq_nil] at locked
      cases locked
    · exact found index goal here
  | @client mover client memory inside step =>
    have rule := clientRule_of_step step
    rw [clientAt_withClient inside] at here
    split at here
    · rcases rule.foundInSlot here with ⟨before, same⟩ | now
      · exact same.trans (found mover goal before)
      · exact now
    · rename_i isOther
      rcases rule.current_eq with same | locked
      · exact same.trans (found index goal here)
      · have mine : Lock.current ∈ coordinator.locksOf (.client index) :=
          current_of_foundInSlot here
        have theirs : Lock.current ∈ coordinator.locksOf (.client mover) := locked
        exact absurd (Actor.client.inj (guarded.exclusive mine theirs)) isOther
  | @worker choice worker memory step =>
    rcases (workerRule_of_step step).current_eq with same | locked
    · exact same.trans (found index goal here)
    · have mine : Lock.current ∈ coordinator.locksOf (.client index) := current_of_foundInSlot here
      have theirs : Lock.current ∈ coordinator.locksOf .worker := locked
      cases guarded.exclusive mine theirs
  | observe | pass | take => exact found index goal here

theorem found_of_reachable {config : Config} {context : Context Unit}
    (started : start config context = .ok first) (run : Reachable first coordinator) :
    Found coordinator := by
  refine run.induct ?_ ?_ ?_
  · rw [eq_of_start started]
    intro index goal found
    cases found
  · exact fun _ _ before found turn => found.turn (guarded_of_reachable started before) turn
  · intro coordinator other _ found
    obtain ⟨progress, changed⟩ := letGo_eq coordinator other
    rw [changed]
    exact found

/-- What is left of a goal while another one is accepted. -/
inductive Outgoing (coordinator : ArmLink.Coordinator) (goal : Goal.Id) : Prop where
  | decided (decided : (coordinator.memory.progress goal).finished = true)
  /-- Its submitter has not come to `exec`, and so not to the slot. -/
  | coming (index : Nat) (ahead : (coordinator.clientAt index).place.ahead = some goal)
      (outside : Lock.exec ∉ (coordinator.clientAt index).place.locks)
  /-- Its submitter is about to refuse it. -/
  | refused (index : Nat) {id : Goal.Id} {outcome : Outcome}
      (stands : (coordinator.clientAt index).place = .done (.submitted id))
      (marks : (coordinator.clientAt index).finishing = some (.mark goal outcome))
  /-- The submitter of another goal has stopped it and is about to give it an outcome. -/
  | superseded (index : Nat) {job : Job} {waits : Bool} {outcome : Outcome}
      (stands : (coordinator.clientAt index).place = .submitting (.lockExec job waits))
      (marks : (coordinator.clientAt index).finishing = some (.mark goal outcome))
  /-- A canceller has stopped it and waits for `exec` to give it an outcome. -/
  | canceled (index : Nat)
      (stands : (coordinator.clientAt index).place = .canceling (.lockExec goal))

/-- What a client keeps that does not hold `exec`. -/
theorem outgoing_of_keeps {index : Nat} (settled : Settled coordinator) (found : Found coordinator)
    (notCurrent : coordinator.memory.current ≠ some goal) (notCleaning : ¬ IsCleaning coordinator)
    (outside : Lock.exec ∉ (coordinator.clientAt index).place.locks)
    (keeps : goal ∈ (coordinator.clientAt index).place.keeps) : Outgoing coordinator goal := by
  have notFound : (coordinator.clientAt index).place.foundInSlot ≠ some goal :=
    fun here => notCurrent (found index goal here)
  cases stands : (coordinator.clientAt index).place with
  | submitting place =>
    rw [stands] at keeps notFound
    rcases Submitting.ahead_or_found keeps with ahead | here
    · exact .coming index (stands ▸ ahead) outside
    · exact absurd here notFound
  | canceling place =>
    rw [stands] at keeps notFound outside
    cases place with
    | lockExec id =>
      obtain rfl : goal = id := List.mem_singleton.mp keeps
      exact .canceled index stands
    | unlockCurrent id answer =>
      cases answer with
      | false => cases keeps
      | true => exact absurd (congrArg some (List.mem_singleton.mp keeps).symm) notFound
    | flag | interrupt => exact absurd (congrArg some (List.mem_singleton.mp keeps).symm) notFound
    | lockCurrent | read => cases keeps
    | relock | vacate | lowerGoal | reunlock | unlockExec =>
      exact absurd (by simp [ClientPlace.locks, Canceling.locks]) outside
  | stopping place answer =>
    rw [stands] at keeps
    cases place with
    | unlockCurrent there =>
      have same : there = some goal := Option.mem_toList.mp keeps
      exact absurd ((settled.found stands).trans same) notCurrent
    | _ => cases keeps
  | closing place =>
    rw [stands] at keeps
    cases place with
    | unlockPending | unlockCurrent => exact absurd ⟨index, by rw [stands]; rfl⟩ notCleaning
    | _ => cases keeps
  | exchanging | done => rw [stands] at keeps; cases keeps

/-- What a client gives an outcome that does not hold `exec`. -/
theorem outgoing_of_marks {index : Nat} {outcome : Outcome} (settled : Settled coordinator)
    (notCurrent : coordinator.memory.current ≠ some goal) (notCleaning : ¬ IsCleaning coordinator)
    (outside : Lock.exec ∉ (coordinator.clientAt index).place.locks)
    (marks : (coordinator.clientAt index).finishing = some (.mark goal outcome)) :
    Outgoing coordinator goal := by
  have settles : (coordinator.clientAt index).place.Settles goal := settled.clients marks
  cases stands : (coordinator.clientAt index).place with
  | submitting place =>
    rw [stands] at settles outside
    cases place with
    | lockExec => exact .superseded index stands marks
    | unlockCurrent => exact absurd (by simp [ClientPlace.locks, Submitting.locks]) outside
    | _ => cases settles
  | canceling place =>
    rw [stands] at settles outside
    cases place with
    | relock => exact absurd (by simp [ClientPlace.locks, Canceling.locks]) outside
    | _ => cases settles
  | stopping place answer =>
    rw [stands] at settles
    cases place with
    | unlockCurrent there => exact absurd ((settled.found stands).trans settles) notCurrent
    | _ => cases settles
  | closing place =>
    rw [stands] at settles
    cases place with
    | unlockPending | unlockCurrent => exact absurd ⟨index, by rw [stands]; rfl⟩ notCleaning
    | _ => cases settles
  | done answer =>
    rw [stands] at settles
    cases answer with
    | submitted id => exact .refused index stands marks
    | _ => cases settles
  | exchanging => rw [stands] at settles; cases settles

/-- When a goal is accepted it is the current one, and every other goal has its outcome, has not
come to the slot yet, or is left to one who has stopped it and will give it an outcome. -/
theorem outgoing_of_accepting {config : Config} {context : Context Unit} {job : Job}
    (started : start config context = .ok first) (run : Reachable first coordinator)
    (accepting : coordinator.worker.place = .sendAccepted job) :
    coordinator.memory.current = some job.id ∧
      ∀ other, other ≠ job.id → 1 ≤ other → other < coordinator.memory.nextId →
        Outgoing coordinator other := by
  have guarded := guarded_of_reachable started run
  have slot := slot_of_reachable started run
  have settled := settled_of_reachable started run
  have found := found_of_reachable started run
  have current : coordinator.memory.current = some job.id := by
    have knows := slot.worker
    rw [accepting] at knows
    exact knows job rfl
  have mine : Lock.exec ∈ coordinator.locksOf .worker := by
    simp [locksOf, accepting, WorkerPlace.locks]
  -- The worker holds `exec`, so no client is between installing its goal and letting go of it.
  have outside : ∀ index, Lock.exec ∉ (coordinator.clientAt index).place.locks := by
    intro index locked
    have theirs : Lock.exec ∈ coordinator.locksOf (.client index) := locked
    cases guarded.exclusive mine theirs
  have notCleaning : ¬ IsCleaning coordinator :=
    fun cleaning => (orderly_of_reachable started run).exec_not_mem cleaning .worker mine
  refine ⟨current, ?_⟩
  intro other apart positive numbered
  have notCurrent : coordinator.memory.current ≠ some other := by
    rw [current]
    exact fun same => apart (Option.some.inj same).symm
  -- A goal without an outcome is held by somebody: not by the slot, and not by the worker.
  rcases kept_of_reachable started run ⟨positive, numbered⟩ with decided | held
  · exact .decided decided
  rcases isHeld_iff.mp held with isCurrent | waits | ⟨actor, holds⟩
  · exact absurd isCurrent notCurrent
  · rcases slot.waiting (.inl waits) notCurrent with decided | ⟨index, taker, outcome, stands, -⟩
    · exact .decided decided
    · exact absurd (by simp [stands, ClientPlace.locks, Submitting.locks]) (outside index)
  cases actor with
  | worker =>
    have free := settled.worker_free (by rw [accepting]; rfl)
    rw [holdsOf, Worker.held_eq, free, accepting] at holds
    exact absurd (List.mem_singleton.mp holds) apart
  | client index =>
    rw [holdsOf, Client.held_eq, List.mem_append] at holds
    rcases holds with gives | keeps
    · obtain ⟨finishing, busy, isGoal⟩ : ∃ finishing,
          (coordinator.clientAt index).finishing = some finishing ∧ finishing.goal = other := by
        simpa using gives
      cases finishing with
      | mark goal outcome =>
        obtain rfl : goal = other := isGoal
        exact outgoing_of_marks settled notCurrent notCleaning (outside index) busy
      | send goal outcome =>
        obtain rfl : goal = other := isGoal
        have sends : coordinator.sendingOf (.client index) = some (goal, outcome) :=
          sending_eq_some_iff.mpr busy
        cases (told_of_reachable started run goal).course with
        | undecided _ _ nobody => exact absurd sends (nobody _ outcome)
        | decided _ _ decided => exact .decided decided
        | told _ decided => exact .decided decided
    · exact outgoing_of_keeps settled found notCurrent notCleaning (outside index) keeps

/-- The moves of the worker from following the points of a goal to the end of it, the executor being
asked to break off. -/
def untilBrokenOff : List Move := workerSteps 1 ++ [.worker (.result (.ok ()))] ++ workerSteps 7

/-- The moves by which a third client submits a goal and the worker accepts it. -/
def untilAccepted : List Move :=
  [.call (.submit zeroGoal)] ++ clientSteps 2 15 ++ workerSteps 8

/-- A goal is accepted while the first one still waits for its outcome: for that of a canceller that
waits for `exec`, or for that of a submitter that has only just given up `current`. -/
theorem accepted_before_outcome :
    (∃ first coordinator later, start (plainConfig 1.0) readyContext = .ok first ∧
      Reachable first coordinator ∧ Reachable coordinator later ∧
      (coordinator.memory.progress 2).sent = [.accepted] ∧
      (coordinator.memory.progress 1).sent = [.accepted] ∧
      (later.memory.progress 1).sent = [.accepted, .finished .canceled]) ∧
    ∃ first coordinator later, start (plainConfig 1.0) readyContext = .ok first ∧
      Reachable first coordinator ∧ Reachable coordinator later ∧
      (coordinator.memory.progress 3).sent = [.accepted] ∧
      (coordinator.memory.progress 1).sent = [.accepted] ∧
      (later.memory.progress 1).sent = [.accepted, .finished (.aborted .superseded)] := by
  constructor
  · obtain ⟨coordinator, run, second, undecided, ends⟩ := exists_reachable (plain 1.0)
      (fun last => (last.memory.progress 2).sent = [.accepted] ∧
        (last.memory.progress 1).sent = [.accepted] ∧
        (last.play (workerSteps 2 ++ [.worker (.result (.error .notConnected))] ++ workerSteps 8 ++
          clientSteps 1 3)).any (fun later =>
            decide ((later.memory.progress 1).sent = [.accepted, .finished .canceled])) = true)
      (untilStream zeroGoal ++ [.call (.cancel 1)] ++ clientSteps 1 5 ++ untilBrokenOff ++
        untilAccepted)
      (by decide +kernel)
    obtain ⟨later, after, canceled⟩ := exists_reachable coordinator _ _ ends
    exact ⟨_, coordinator, later, start_plain 1.0, run, after, second, undecided, canceled⟩
  · obtain ⟨coordinator, run, third, undecided, ends⟩ := exists_reachable (plain 1.0)
      (fun last => (last.memory.progress 3).sent = [.accepted] ∧
        (last.memory.progress 1).sent = [.accepted] ∧
        (last.play (clientSteps 1 2)).any (fun later => decide
          ((later.memory.progress 1).sent = [.accepted, .finished (.aborted .superseded)])) = true)
      (untilStream zeroGoal ++ [.call (.submit zeroGoal)] ++ clientSteps 1 7 ++ untilBrokenOff ++
        untilAccepted)
      (by decide +kernel)
    obtain ⟨later, after, superseded⟩ := exists_reachable coordinator _ _ ends
    exact ⟨_, coordinator, later, start_plain 1.0, run, after, third, undecided, superseded⟩

end ArmLink.Coordinator
