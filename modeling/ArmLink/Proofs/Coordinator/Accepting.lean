import ArmLink.Proofs.Coordinator.Telling

/-!
In which order the client of a goal is told that it was accepted and what became of it.

The worker looks whether a goal has its outcome, and if not tells in a second step that the goal was
accepted.  In between somebody else may give the goal its outcome, so that the acceptance comes
after the outcome (`accepted_after_finished`).  That is the only way in which it comes late
(`order_of_reachable`).
-/

namespace ArmLink.Coordinator

open Goal Link Motion Telemetry

variable {coordinator next first : ArmLink.Coordinator} {goal : Goal.Id}

/-- The events of a goal, and how they can come to be in the wrong order. -/
structure Order (coordinator : ArmLink.Coordinator) (goal : Goal.Id) : Prop where
  sent : (coordinator.memory.progress goal).sent = [] ∨
    (coordinator.memory.progress goal).sent = [.accepted] ∨
    ∃ outcome, (coordinator.memory.progress goal).sent = [.finished outcome] ∨
      (coordinator.memory.progress goal).sent = [.accepted, .finished outcome] ∨
      (coordinator.memory.progress goal).sent = [.finished outcome, .accepted]
  /-- An acceptance comes from a worker that stands between its look at the goal and telling. -/
  accepted : ∀ move next, coordinator.step move = some next →
    .accepted ∉ (coordinator.memory.progress goal).sent →
    .accepted ∈ (next.memory.progress goal).sent →
      ∃ job, coordinator.worker.place = .sendAccepted job ∧ job.id = goal
  /-- When the worker looked, there was no outcome. -/
  looked : ∀ move next job, coordinator.step move = some next →
    (∀ job, coordinator.worker.place ≠ .sendAccepted job) →
    next.worker.place = .sendAccepted job → job.id = goal →
      (coordinator.memory.progress goal).finished = false

namespace Progress

/-- Events with one acceptance and one outcome at most come in one of five ways. -/
theorem sent_cases {progress : Progress} (once : progress.acceptances ≤ 1)
    (decided : progress.outcomes.length ≤ 1) :
    progress.sent = [] ∨ progress.sent = [.accepted] ∨
      ∃ outcome, progress.sent = [.finished outcome] ∨
        progress.sent = [.accepted, .finished outcome] ∨
        progress.sent = [.finished outcome, .accepted] := by
  unfold acceptances at once
  unfold outcomes at decided
  generalize progress.sent = events at once decided
  match events with
  | [] => exact .inl rfl
  | [.accepted] => exact .inr (.inl rfl)
  | [.finished outcome] => exact .inr (.inr ⟨outcome, .inl rfl⟩)
  | [.accepted, .finished outcome] => exact .inr (.inr ⟨outcome, .inr (.inl rfl)⟩)
  | [.finished outcome, .accepted] => exact .inr (.inr ⟨outcome, .inr (.inr rfl)⟩)
  | .accepted :: .accepted :: rest => simp [Event.isFinished] at once
  | .finished _ :: .finished _ :: rest => simp [outcome?] at decided
  | .accepted :: .finished _ :: .accepted :: rest => simp [Event.isFinished] at once
  | .accepted :: .finished _ :: .finished _ :: rest => simp [outcome?, List.filterMap_cons] at decided
  | .finished _ :: .accepted :: .accepted :: rest => simp [Event.isFinished] at once
  | .finished _ :: .accepted :: .finished _ :: rest => simp [outcome?, List.filterMap_cons] at decided

theorem accepted_mem_iff {progress : Progress} :
    .accepted ∈ progress.sent ↔ 0 < progress.acceptances := by
  rw [acceptances, List.countP_pos_iff]
  constructor
  · exact fun there => ⟨_, there, rfl⟩
  · rintro ⟨event, there, isAccepted⟩
    cases event with
    | accepted => exact there
    | finished => cases isAccepted

end Progress

theorem acceptances_letGo (coordinator : ArmLink.Coordinator) (other goal : Goal.Id) :
    ((coordinator.letGo other).memory.progress goal).acceptances =
      (coordinator.memory.progress goal).acceptances := by
  unfold letGo
  split
  · rfl
  · rw [Memory.modify_progress]
    split
    · rw [Progress.acceptances_send_finished]
      rfl
    · rfl

/-- Only the worker tells that a goal was accepted. -/
theorem acceptances_of_step {move : Move} (moved : coordinator.step move = some next) :
    (next.memory.progress goal).acceptances = (coordinator.memory.progress goal).acceptances ∨
      ∃ job, coordinator.worker.place = .sendAccepted job ∧ job.id = goal := by
  obtain ⟨between, turn, rfl⟩ := turn_of_step moved
  have collected : (between.collect.memory.progress goal).acceptances =
      (between.memory.progress goal).acceptances := by
    refine collect_induct (motive := fun later => (later.memory.progress goal).acceptances =
      (between.memory.progress goal).acceptances) ?_ rfl
    exact fun later other _ same => (acceptances_letGo later other goal).trans same
  rw [collected]
  cases turn with
  | call opening =>
    obtain ⟨nextId, -, rfl⟩ := opening.memory_eq
    exact .inl rfl
  | client index inside step => exact .inl ((clientRule_of_step step).acceptances goal)
  | worker choice step =>
    refine ((workerRule_of_step step).acceptances goal).imp_right ?_
    rintro ⟨-, job, stands, isGoal, -⟩
    exact ⟨job, stands, isGoal⟩
  | observe | pass => exact .inl rfl
  | take taken =>
    left
    rw [Memory.modify_progress]
    split
    · rw [Progress.acceptances, Progress.take_sent, Progress.acceptances]
    · rfl

/-- The worker comes to telling that a goal was accepted from finding it without an outcome. -/
theorem WorkerRule.undecided_of_accepting {worker worker' : Worker} {memory memory' : Memory}
    {job : Job} (rule : WorkerRule worker memory worker' memory')
    (before : ∀ job, worker.place ≠ .sendAccepted job)
    (goes : worker'.place = .sendAccepted job) : (memory.progress job.id).finished = false := by
  cases rule with
  | finish rule => exact absurd (rule.place_eq ▸ goes) (before job)
  | work _ rule =>
    generalize worker.place = place at rule
    cases rule with
    | accept undecided =>
      cases goes
      exact undecided
    | returned | notSent | held | notHeld =>
      have executing := afterStream_underWay.symm.trans (congrArg WorkerPlace.underWay goes)
      cases executing
    | watch _ goesOn =>
      rcases goesOn with goesOn | rfl
      · cases (congrArg WorkerPlace.watched goes).symm.trans goesOn
      · cases goes
    | @stop job hang => cases hang <;> cases goes
    | _ => cases goes

/-- In every run, an acceptance comes after the outcome only if the outcome was given between the
worker's look at the goal and its telling. -/
theorem order_of_reachable {config : Config} {context : Context Unit}
    (started : start config context = .ok first) (run : Reachable first coordinator)
    (goal : Goal.Id) : Order coordinator goal := by
  have told := told_of_reachable started run goal
  constructor
  · refine Progress.sent_cases told.once ?_
    cases told.course with
    | undecided _ silent => rw [silent]; exact Nat.zero_le 1
    | decided _ _ _ silent => rw [silent]; exact Nat.zero_le 1
    | told _ _ told => rw [told]; exact Nat.le_refl 1
  · intro move next moved before after
    rcases acceptances_of_step moved with same | stands
    · rw [Progress.accepted_mem_iff, same, ← Progress.accepted_mem_iff] at after
      exact absurd after before
    · exact stands
  · rintro move next job moved before goes rfl
    obtain ⟨between, turn, rfl⟩ := turn_of_step moved
    obtain ⟨progress, changed⟩ := collect_eq between
    rw [changed] at goes
    cases turn with
    | worker choice step => exact (workerRule_of_step step).undecided_of_accepting before goes
    | _ => exact absurd goes (before job)

/-- The safety stop comes between the worker's look at the goal and its telling. -/
theorem accepted_after_finished : ∃ first coordinator,
    start (plainConfig 1.0) readyContext = .ok first ∧ Reachable first coordinator ∧
    (coordinator.memory.progress 1).sent = [.finished (.aborted .safetyStop), .accepted] := by
  obtain ⟨coordinator, run, sent⟩ := exists_reachable (plain 1.0)
    (fun last => (last.memory.progress 1).sent = [.finished (.aborted .safetyStop), .accepted])
    ([.call (.submit zeroGoal)] ++ clientSteps 0 15 ++ workerSteps 7 ++
      [.call (.tellState .error)] ++ clientSteps 1 8 ++ workerSteps 1)
    (by decide +kernel)
  exact ⟨_, coordinator, start_plain 1.0, run, sent⟩

end ArmLink.Coordinator
