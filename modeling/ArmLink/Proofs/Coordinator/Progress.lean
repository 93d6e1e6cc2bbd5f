import ArmLink.Proofs.Coordinator.Locks

/-!
What the steps do to what became of the goals.

A thread that gives a goal its outcome marks the goal first and sends the outcome then; between the
two it is the sender of the goal.  Every step of a thread leaves all goals alone, marks one that has
no outcome yet and makes the thread its sender, sends what the thread is the sender of, or, being
the worker's, sends that a goal was accepted (`Progressing`).  In particular nothing ever takes an
outcome back (`Turn.finished`, `letGo_finished`).
-/

namespace ArmLink.Coordinator

open Goal Link Motion Telemetry

/-! ### What became of a goal -/

namespace Progress

@[simp] theorem send_finished (progress : Progress) (event : Event) :
    (progress.send event).finished = progress.finished := by
  unfold send; split <;> rfl

@[simp] theorem take_finished (progress : Progress) :
    progress.take.2.finished = progress.finished := by
  unfold take; split <;> rfl

@[simp] theorem take_sent (progress : Progress) : progress.take.2.sent = progress.sent := by
  unfold take; split <;> rfl

end Progress

@[simp] theorem Memory.modify_progress (memory : Memory) (id other : Goal.Id)
    (change : Progress → Progress) :
    (memory.modify id change).progress other =
      if other = id then change (memory.progress other) else memory.progress other := rfl

/-! ### Steps of threads -/

/-- The goal whose outcome a thread is about to send, and the outcome. -/
def Thread.sending {π : Type} (thread : Thread π) : Option (Goal.Id × Outcome) :=
  match thread.finishing with
  | some (.send goal outcome) => some (goal, outcome)
  | _ => none

/-- What a step of a thread does to what became of the goals. -/
inductive Progressing {π : Type} (thread thread' : Thread π) (memory memory' : Memory) : Prop where
  | keep (free : thread.sending = none) (stillFree : thread'.sending = none)
      (same : memory'.progress = memory.progress)
  | mark (goal : Goal.Id) (outcome : Outcome)
      (marks : thread.finishing = some (.mark goal outcome))
      (undecided : (memory.progress goal).finished = false)
      (sends : thread'.sending = some (goal, outcome))
      (changed : memory' = memory.modify goal fun progress => { progress with finished := true })
  | send (goal : Goal.Id) (outcome : Outcome) (sends : thread.sending = some (goal, outcome))
      (free : thread'.sending = none)
      (changed : memory' = memory.modify goal (·.send (.finished outcome)))
  | accept (goal : Goal.Id) (free : thread.sending = none) (stillFree : thread'.sending = none)
      (changed : memory' = memory.modify goal (·.send .accepted))

section Steps

variable {π : Type} {workerEnded : Bool} {actor : Actor} {client client' : Client}
  {worker worker' : Worker} {memory memory' : Memory} {goal : Goal.Id}

theorem sending_eq_none_of_free {thread : Thread π} (free : thread.finishing = none) :
    thread.sending = none := by
  rw [Thread.sending, free]

theorem sending_eq_some_iff {thread : Thread π} {outcome : Outcome} :
    thread.sending = some (goal, outcome) ↔ thread.finishing = some (.send goal outcome) := by
  unfold Thread.sending
  constructor
  · intro sends
    split at sends
    · rename_i busy
      cases sends
      exact busy
    · cases sends
  · intro busy
    rw [busy]

theorem sending_finishIf {thread : Thread π} (free : thread.finishing = none)
    {goal : Option Goal.Id} {outcome : Outcome} {place : π} :
    (thread.finishIf goal outcome place).sending = none := by
  cases goal with
  | none => exact sending_eq_none_of_free free
  | some goal => rfl

theorem FinishRule.progressing {thread thread' : Thread π}
    (rule : FinishRule thread memory thread' memory') :
    Progressing thread thread' memory memory' := by
  cases rule with
  | @mark goal outcome finishing undecided =>
    exact .mark goal outcome finishing undecided rfl rfl
  | late finishing decided =>
    exact .keep (by rw [Thread.sending, finishing]) rfl rfl
  | @send goal outcome finishing =>
    exact .send goal outcome (by rw [Thread.sending, finishing]) rfl rfl

/-- A goal that a thread is about to mark has its outcome after the thread's step. -/
theorem FinishRule.marking {thread thread' : Thread π} {outcome : Outcome}
    (rule : FinishRule thread memory thread' memory')
    (marking : thread.finishing = some (.mark goal outcome)) :
    (memory'.progress goal).finished = true := by
  cases rule with
  | mark marks =>
    cases marking.symm.trans marks
    rw [Memory.modify_progress, if_pos rfl]
  | late marks decided => cases marking.symm.trans marks; exact decided
  | send sends => cases marking.symm.trans sends

theorem ClientRule.marking {outcome : Outcome}
    (rule : ClientRule workerEnded actor client memory client' memory')
    (marking : client.finishing = some (.mark goal outcome)) :
    (memory'.progress goal).finished = true := by
  cases rule with
  | finish rule => exact rule.marking marking
  | submit free | cancel free | exchange free | stop free | close free =>
    cases marking.symm.trans free

/-- A client leaves what became of the goals alone, unless it gives an outcome. -/
theorem ClientRule.progressing
    (rule : ClientRule workerEnded actor client memory client' memory') :
    Progressing client client' memory memory' := by
  cases rule with
  | finish rule => exact rule.progressing
  | submit free _ rule =>
    have idle := sending_eq_none_of_free free
    cases rule with
    | notAlive | invalid => exact .keep idle rfl rfl
    | unlockOld | install => exact .keep idle (sending_finishIf free) rfl
    | _ => exact .keep idle idle rfl
  | cancel free _ rule =>
    have idle := sending_eq_none_of_free free
    cases rule with
    | lockExec => exact .keep idle rfl rfl
    | _ => exact .keep idle idle rfl
  | exchange free =>
    have idle := sending_eq_none_of_free free
    exact .keep idle idle rfl
  | stop free _ rule =>
    have idle := sending_eq_none_of_free free
    cases rule with
    | read => exact .keep idle (sending_finishIf free) rfl
    | _ => exact .keep idle idle rfl
  | close free _ rule =>
    have idle := sending_eq_none_of_free free
    cases rule with
    | takePending | takeCurrent => exact .keep idle (sending_finishIf free) rfl
    | _ => exact .keep idle idle rfl

theorem sending_afterStream {config : Config} {job : Job} {since : Duration}
    {outcome : Except Follower.Fault Streamed} (idle : worker.sending = none) :
    (worker.afterStream config job since outcome).sending = none := by
  unfold Worker.afterStream
  split
  · exact idle
  · exact idle
  · split <;> rfl

/-- The worker leaves what became of the goals alone, unless it gives an outcome or tells that a
goal was accepted. -/
theorem WorkerRule.progressing (rule : WorkerRule worker memory worker' memory') :
    Progressing worker worker' memory memory' := by
  cases rule with
  | finish rule => exact rule.progressing
  | work free rule =>
    have idle := sending_eq_none_of_free free
    generalize worker.place = place at rule
    cases rule with
    | @sendAccepted job => exact .accept job.id idle idle rfl
    | noStartPoint | notStarted | judge | closing => exact .keep idle rfl rfl
    | returned | notSent | held | notHeld => exact .keep idle (sending_afterStream idle) rfl
    | _ => exact .keep idle idle rfl

theorem Progressing.finished {thread thread' : Thread π}
    (progressing : Progressing thread thread' memory memory')
    (decided : (memory.progress goal).finished = true) :
    (memory'.progress goal).finished = true := by
  cases progressing with
  | keep _ _ same => rw [same]; exact decided
  | mark other outcome _ _ _ changed =>
    rw [changed, Memory.modify_progress]
    split
    · rfl
    · exact decided
  | send other outcome _ _ changed =>
    rw [changed, Memory.modify_progress]
    split
    · rw [Progress.send_finished]; exact decided
    · exact decided
  | accept other _ _ changed =>
    rw [changed, Memory.modify_progress]
    split
    · rw [Progress.send_finished]; exact decided
    · exact decided

end Steps

/-! ### Outcomes stay -/

variable {coordinator next first : ArmLink.Coordinator} {goal : Goal.Id}

theorem Turn.finished (turn : Turn coordinator next)
    (decided : (coordinator.memory.progress goal).finished = true) :
    (next.memory.progress goal).finished = true := by
  cases turn with
  | call opening =>
    obtain ⟨nextId, -, changed⟩ := opening.memory_eq
    rw [opened, changed]
    exact decided
  | client index _ step => exact (clientRule_of_step step).progressing.finished decided
  | worker choice step => exact (workerRule_of_step step).progressing.finished decided
  | observe | pass => exact decided
  | take other =>
    rw [Memory.modify_progress]
    split
    · rw [Progress.take_finished]; exact decided
    · exact decided

theorem letGo_finished {other : Goal.Id}
    (decided : (coordinator.memory.progress goal).finished = true) :
    ((coordinator.letGo other).memory.progress goal).finished = true := by
  unfold letGo
  split
  · exact decided
  · rw [Memory.modify_progress]
    split
    · rw [Progress.send_finished]
    · exact decided

/-- A goal that has its outcome keeps it. -/
theorem Reachable.finished (run : Reachable first coordinator)
    (decided : (first.memory.progress goal).finished = true) :
    (coordinator.memory.progress goal).finished = true := by
  refine run.induct
    (motive := fun coordinator => (coordinator.memory.progress goal).finished = true) decided ?_ ?_
  · exact fun _ _ _ decided turn => turn.finished decided
  · exact fun _ _ _ decided => letGo_finished decided

end ArmLink.Coordinator
