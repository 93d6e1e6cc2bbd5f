import ArmLink.Proofs.Coordinator.Execution
import ArmLink.Proofs.Coordinator.Holding

/-!
What the client of a goal is told.

A goal has no outcome, or has been marked by a thread that is about to send the outcome, or has been
sent exactly one outcome (`Course`).  The thread that marks a goal is the only one that ever sends
for it, and what it sends is settled by then (`Bound`).  A goal is told at most once that it was
accepted, so there is always room for the outcome (`Told`).  A goal that fails the checks is told
nothing but its rejection (`Refused`).
-/

namespace ArmLink.Coordinator

open Goal Link Motion Telemetry

/-! ### What a client is told -/

/-- The outcome that an event tells, if it tells one. -/
def outcome? : Event → Option Outcome
  | .accepted => none
  | .finished outcome => some outcome

namespace Progress

/-- The outcomes sent to the client, oldest first. -/
def outcomes (progress : Progress) : List Outcome := progress.sent.filterMap outcome?

/-- How often the client was told that its goal was accepted. -/
def acceptances (progress : Progress) : Nat := progress.sent.countP fun event => !event.isFinished

theorem sent_length (progress : Progress) :
    progress.sent.length = progress.acceptances + progress.outcomes.length := by
  unfold acceptances outcomes
  induction progress.sent with
  | nil => rfl
  | cons event events ih =>
    cases event with
    | accepted =>
      rw [List.countP_cons_of_pos rfl, List.filterMap_cons_none rfl, List.length_cons, ih]
      omega
    | finished outcome =>
      have tells : outcome? (.finished outcome) = some outcome := rfl
      rw [List.countP_cons_of_neg (by simp [Event.isFinished]), List.filterMap_cons_some tells,
        List.length_cons, List.length_cons, ih]
      omega

theorem sent_send {progress : Progress} (room : progress.acceptances + progress.outcomes.length ≤ 1)
    (event : Event) : (progress.send event).sent = progress.sent ++ [event] := by
  have few : progress.unread.length < capacity := by
    rw [unread, List.length_drop, sent_length, capacity]
    omega
  rw [send, if_pos few]

theorem outcomes_send_finished {progress : Progress} {outcome : Outcome}
    (silent : progress.outcomes = []) (once : progress.acceptances ≤ 1) :
    (progress.send (.finished outcome)).outcomes = [outcome] := by
  have room : progress.acceptances + progress.outcomes.length ≤ 1 := by
    rw [silent]
    exact once
  rw [outcomes, sent_send room, List.filterMap_append]
  rw [outcomes] at silent
  rw [silent]
  rfl

@[simp] theorem outcomes_send_accepted (progress : Progress) :
    (progress.send .accepted).outcomes = progress.outcomes := by
  unfold send outcomes
  split
  · simp [outcome?]
  · rfl

@[simp] theorem acceptances_send_finished (progress : Progress) (outcome : Outcome) :
    (progress.send (.finished outcome)).acceptances = progress.acceptances := by
  unfold send acceptances
  split
  · simp [Event.isFinished]
  · rfl

theorem acceptances_send_accepted (progress : Progress) :
    (progress.send .accepted).acceptances ≤ progress.acceptances + 1 := by
  unfold send acceptances
  split
  · simp [Event.isFinished]
  · exact Nat.le_succ _

end Progress

/-! ### Who sends an outcome -/

/-- The goal whose outcome a thread is about to send, and the outcome. -/
def sendingOf (coordinator : ArmLink.Coordinator) : Actor → Option (Goal.Id × Outcome)
  | .worker => coordinator.worker.sending
  | .client index => (coordinator.clientAt index).sending

/-- How far a goal has come to its outcome. -/
inductive Course (coordinator : ArmLink.Coordinator) (goal : Goal.Id) : Prop where
  | undecided (undecided : (coordinator.memory.progress goal).finished = false)
      (silent : (coordinator.memory.progress goal).outcomes = [])
      (nobody : ∀ actor outcome, coordinator.sendingOf actor ≠ some (goal, outcome))
  /-- One thread is about to send the outcome. -/
  | decided (actor : Actor) (outcome : Outcome)
      (decided : (coordinator.memory.progress goal).finished = true)
      (silent : (coordinator.memory.progress goal).outcomes = [])
      (sends : coordinator.sendingOf actor = some (goal, outcome))
      (only : ∀ other outcome, coordinator.sendingOf other = some (goal, outcome) → other = actor)
  | told (outcome : Outcome) (decided : (coordinator.memory.progress goal).finished = true)
      (told : (coordinator.memory.progress goal).outcomes = [outcome])
      (nobody : ∀ actor outcome, coordinator.sendingOf actor ≠ some (goal, outcome))

variable {coordinator next first : ArmLink.Coordinator} {goal : Goal.Id}

theorem sendingOf_opened {place : ClientPlace} {memory : Memory} {isOpen : Bool} :
    (coordinator.opened place memory isOpen).sendingOf = coordinator.sendingOf := by
  funext actor
  cases actor with
  | worker => rfl
  | client index =>
    simp only [sendingOf, clientAt_opened]
    split
    · rename_i isNew
      rw [isNew, clientAt_length]
      rfl
    · rfl

theorem sendingOf_withClient_other {index : Nat} {client : Client} {memory : Memory}
    (inside : index < coordinator.clients.length) {other : Actor} (apart : other ≠ .client index) :
    (coordinator.withClient index client memory).sendingOf other = coordinator.sendingOf other := by
  cases other with
  | worker => rfl
  | client other =>
    rw [sendingOf, clientAt_withClient_other inside (by simpa using apart)]
    rfl

@[simp] theorem letGo_sendingOf (other : Goal.Id) :
    (coordinator.letGo other).sendingOf = coordinator.sendingOf := by
  obtain ⟨progress, changed⟩ := letGo_eq coordinator other
  rw [changed]
  rfl

/-- Nothing changes for a goal if the same became of it and the same thread sends for it. -/
theorem Course.congr (course : Course coordinator goal)
    (finished : (next.memory.progress goal).finished =
      (coordinator.memory.progress goal).finished)
    (outcomes : (next.memory.progress goal).outcomes = (coordinator.memory.progress goal).outcomes)
    (senders : ∀ actor outcome, next.sendingOf actor = some (goal, outcome) ↔
      coordinator.sendingOf actor = some (goal, outcome)) : Course next goal := by
  cases course with
  | undecided undecided silent nobody =>
    exact .undecided (finished.trans undecided) (outcomes.trans silent)
      fun actor outcome sends => nobody actor outcome ((senders actor outcome).mp sends)
  | decided actor outcome decided silent sends only =>
    exact .decided actor outcome (finished.trans decided) (outcomes.trans silent)
      ((senders actor outcome).mpr sends)
      fun other outcome sends => only other outcome ((senders other outcome).mp sends)
  | told outcome decided told nobody =>
    exact .told outcome (finished.trans decided) (outcomes.trans told)
      fun actor outcome sends => nobody actor outcome ((senders actor outcome).mp sends)

section CourseStep

variable {π : Type} {thread thread' : Thread π} {outcome : Outcome}
  (course : Course coordinator goal) (actor : Actor)
  (before : coordinator.sendingOf actor = thread.sending)
  (after : next.sendingOf actor = thread'.sending)
  (others : ∀ other, other ≠ actor → next.sendingOf other = coordinator.sendingOf other)

include course after others

/-- The thread that marks a goal is the one that sends its outcome. -/
theorem Course.mark (undecided : (coordinator.memory.progress goal).finished = false)
    (sends : thread'.sending = some (goal, outcome))
    (changed : next.memory.progress goal =
      { coordinator.memory.progress goal with finished := true }) : Course next goal := by
  cases course with
  | undecided _ silent nobody =>
    refine .decided actor outcome ?_ ?_ (after.trans sends) ?_
    · rw [changed]
    · rw [changed]
      exact silent
    · intro other outcome' sendsToo
      by_cases same : other = actor
      · exact same
      · rw [others other same] at sendsToo
        exact absurd sendsToo (nobody other outcome')
  | decided _ _ decided => rw [undecided] at decided; cases decided
  | told _ decided => rw [undecided] at decided; cases decided

include before

/-- A thread that sends nothing for the goal before and after its step counts as one of the others. -/
theorem Course.aside (free : ∀ outcome, thread.sending ≠ some (goal, outcome))
    (stillFree : ∀ outcome, thread'.sending ≠ some (goal, outcome))
    (finished : (next.memory.progress goal).finished =
      (coordinator.memory.progress goal).finished)
    (outcomes : (next.memory.progress goal).outcomes =
      (coordinator.memory.progress goal).outcomes) : Course next goal := by
  refine course.congr finished outcomes ?_
  intro other outcome
  by_cases same : other = actor
  · rw [same, before, after]
    exact ⟨fun sends => absurd sends (stillFree outcome),
      fun sends => absurd sends (free outcome)⟩
  · rw [others other same]

/-- The outcome that the sender sends is the first. -/
theorem Course.send (sends : thread.sending = some (goal, outcome))
    (free : thread'.sending = none) (once : (coordinator.memory.progress goal).acceptances ≤ 1)
    (changed : next.memory.progress goal =
      (coordinator.memory.progress goal).send (.finished outcome)) : Course next goal := by
  cases course with
  | undecided _ _ nobody => exact absurd (before.trans sends) (nobody actor outcome)
  | told _ _ _ nobody => exact absurd (before.trans sends) (nobody actor outcome)
  | decided sender _ decided silent _ only =>
    have isSender : actor = sender := only actor outcome (before.trans sends)
    refine .told outcome ?_ ?_ ?_
    · rw [changed, Progress.send_finished]
      exact decided
    · rw [changed]
      exact Progress.outcomes_send_finished silent once
    · intro other outcome' sendsToo
      by_cases same : other = actor
      · rw [same, after, free] at sendsToo
        cases sendsToo
      · rw [others other same] at sendsToo
        exact same ((only other outcome' sendsToo).trans isSender.symm)

/-- A step of a thread carries the course of a goal on. -/
theorem Course.step (progressing : Progressing thread thread' coordinator.memory next.memory)
    (once : (coordinator.memory.progress goal).acceptances ≤ 1) : Course next goal := by
  have nothing : ∀ {thread : Thread π}, thread.sending = none →
      ∀ outcome, thread.sending ≠ some (goal, outcome) := by
    intro thread free outcome sends
    rw [free] at sends
    cases sends
  have notMine : ∀ {thread : Thread π} {other : Goal.Id} {outcome : Outcome}, other ≠ goal →
      thread.sending = some (other, outcome) →
        ∀ outcome, thread.sending ≠ some (goal, outcome) := by
    intro thread other outcome apart sends outcome' sendsToo
    rw [sends] at sendsToo
    cases sendsToo
    exact apart rfl
  cases progressing with
  | keep free stillFree same =>
    exact course.aside actor before after others (nothing free) (nothing stillFree) (by rw [same])
      (by rw [same])
  | accept accepted free stillFree changed =>
    refine course.aside actor before after others (nothing free) (nothing stillFree) ?_ ?_
    · rw [changed, Memory.modify_progress]
      split
      · rw [Progress.send_finished]
      · rfl
    · rw [changed, Memory.modify_progress]
      split
      · rw [Progress.outcomes_send_accepted]
      · rfl
  | mark marked outcome marks undecided sends changed =>
    by_cases isGoal : marked = goal
    · subst isGoal
      refine course.mark actor after others undecided sends ?_
      rw [changed, Memory.modify_progress, if_pos rfl]
    · have free : thread.sending = none := by rw [Thread.sending, marks]
      have apart : goal ≠ marked := fun same => isGoal same.symm
      refine course.aside actor before after others (nothing free) (notMine isGoal sends) ?_ ?_
      · rw [changed, Memory.modify_progress, if_neg apart]
      · rw [changed, Memory.modify_progress, if_neg apart]
  | send sent outcome sends free changed =>
    by_cases isGoal : sent = goal
    · subst isGoal
      refine course.send actor before after others sends free once ?_
      rw [changed, Memory.modify_progress, if_pos rfl]
    · have apart : goal ≠ sent := fun same => isGoal same.symm
      refine course.aside actor before after others (notMine isGoal sends) (nothing free) ?_ ?_
      · rw [changed, Memory.modify_progress, if_neg apart]
      · rw [changed, Memory.modify_progress, if_neg apart]

end CourseStep

/-! ### Being accepted once -/

/-- The goal in the worker's hand of which it will not tell any more that it was accepted. -/
def WorkerPlace.accepted : WorkerPlace → Option Goal.Id
  | .startPoint job | .start job => some job.id
  | place => place.late

theorem accepted_of_late {place : WorkerPlace} (late : place.late = some goal) :
    place.accepted = some goal := by
  cases place <;> first
    | exact late
    | cases late

theorem goal?_of_accepted {place : WorkerPlace} (accepted : place.accepted = some goal) :
    place.goal? = some goal := by
  cases place <;> first
    | exact accepted
    | cases accepted

section Steps

variable {workerEnded : Bool} {actor : Actor} {client client' : Client}
  {worker worker' : Worker} {memory memory' : Memory}

/-- A goal that was accepted is not accepted again while the worker has its job. -/
theorem WorkerRule.accepted (rule : WorkerRule worker memory worker' memory')
    (accepted : worker.place.accepted = some goal) :
    worker'.place.accepted = some goal ∨ worker'.place.goal? ≠ some goal := by
  by_cases late : worker.place.late = some goal
  · exact (rule.late late).imp_left accepted_of_late
  · cases rule with
    | finish rule => rw [rule.place_eq]; exact .inl accepted
    | work _ rule =>
      generalize worker.place = place at rule accepted late
      cases rule with
      | startPoint | noStartPoint | start => exact .inl accepted
      | watch watching =>
        have isLate := late_of_underWay (underWay_of_watched watching)
        rw [accepted_of_late isLate] at accepted
        exact absurd (isLate.trans accepted) late
      | judge watching =>
        have isLate := late_of_underWay (underWay_of_watched watching)
        rw [accepted_of_late isLate] at accepted
        exact absurd (isLate.trans accepted) late
      | _ => exact absurd accepted late

theorem FinishRule.acceptances {π : Type} {thread thread' : Thread π}
    (rule : FinishRule thread memory thread' memory') (goal : Goal.Id) :
    (memory'.progress goal).acceptances = (memory.progress goal).acceptances := by
  cases rule with
  | late => rfl
  | mark =>
    rw [Memory.modify_progress]
    split <;> rfl
  | send =>
    rw [Memory.modify_progress]
    split
    · rw [Progress.acceptances_send_finished]
    · rfl

theorem ClientRule.acceptances (rule : ClientRule workerEnded actor client memory client' memory')
    (goal : Goal.Id) :
    (memory'.progress goal).acceptances = (memory.progress goal).acceptances := by
  cases rule with
  | finish rule => exact rule.acceptances goal
  | submit _ _ rule => cases rule <;> rfl
  | cancel _ _ rule => cases rule <;> rfl
  | exchange => rfl
  | stop _ _ rule => cases rule <;> rfl
  | close _ _ rule => cases rule <;> rfl

/-- The worker tells that a goal was accepted at one place only, and goes on from there. -/
theorem WorkerRule.acceptances (rule : WorkerRule worker memory worker' memory')
    (goal : Goal.Id) :
    (memory'.progress goal).acceptances = (memory.progress goal).acceptances ∨
      ((memory'.progress goal).acceptances ≤ (memory.progress goal).acceptances + 1 ∧
        ∃ job, worker.place = .sendAccepted job ∧ job.id = goal ∧
          worker'.place = .startPoint job) := by
  cases rule with
  | finish rule => exact .inl (rule.acceptances goal)
  | work _ rule =>
    generalize stands : worker.place = place at rule
    cases rule with
    | @sendAccepted job =>
      by_cases isGoal : goal = job.id
      · refine .inr ⟨?_, job, rfl, isGoal.symm, rfl⟩
        rw [Memory.modify_progress, if_pos isGoal]
        exact Progress.acceptances_send_accepted _
      · left
        rw [Memory.modify_progress, if_neg isGoal]
    | _ => exact .inl rfl

end Steps

/-- What holds in every run of what the client of a goal was told. -/
structure Told (coordinator : ArmLink.Coordinator) (goal : Goal.Id) : Prop where
  course : Course coordinator goal
  once : (coordinator.memory.progress goal).acceptances ≤ 1
  past : (coordinator.memory.progress goal).acceptances = 0 ∨
    coordinator.worker.place.accepted = some goal ∨ Gone coordinator goal

theorem Told.of_same (told : Told coordinator goal) (worker : next.worker = coordinator.worker)
    (clients : next.clientAt = coordinator.clientAt)
    (gone : Gone coordinator goal → Gone next goal) (alike : Alike coordinator next goal) :
    Told next goal := by
  have senders : next.sendingOf = coordinator.sendingOf := by
    funext actor
    cases actor <;> simp [sendingOf, worker, clients]
  have outcomes : (next.memory.progress goal).outcomes =
      (coordinator.memory.progress goal).outcomes := by
    rw [Progress.outcomes, alike.2, Progress.outcomes]
  have acceptances : (next.memory.progress goal).acceptances =
      (coordinator.memory.progress goal).acceptances := by
    rw [Progress.acceptances, alike.2, Progress.acceptances]
  constructor
  · exact told.course.congr alike.1 outcomes fun actor outcome => by rw [senders]
  · rw [acceptances]; exact told.once
  · rw [acceptances, worker]
    exact told.past.imp_right fun past => past.imp_right gone

theorem Told.turn (told : Told coordinator goal) (sorted : Sorted coordinator)
    (turn : Turn coordinator next) : Told next goal := by
  have gone : Gone coordinator goal → Gone next goal := fun gone => gone.turn turn
  cases turn with
  | @call place memory isOpen opening =>
    obtain ⟨nextId, -, rfl⟩ := opening.memory_eq
    refine ⟨told.course.congr rfl rfl ?_, told.once, told.past.imp_right fun past =>
      past.imp_right gone⟩
    intro actor outcome
    rw [sendingOf_opened]
  | @client index client memory inside step =>
    have rule := clientRule_of_step step
    refine ⟨?_, ?_, ?_⟩
    · refine told.course.step (.client index) rfl ?_ ?_ rule.progressing told.once
      · rw [sendingOf, clientAt_withClient_self inside]
      · exact fun other apart => sendingOf_withClient_other inside apart
    · exact Nat.le_trans (Nat.le_of_eq (rule.acceptances goal)) told.once
    · exact told.past.imp (rule.acceptances goal).trans fun past => past.imp_right gone
  | @worker choice worker memory step =>
    have rule := workerRule_of_step step
    have course : Course { coordinator with memory, worker } goal := by
      refine told.course.step .worker rfl rfl ?_ rule.progressing told.once
      intro other apart
      cases other with
      | worker => exact absurd rfl apart
      | client index => rfl
    rcases rule.acceptances goal with same | ⟨more, job, stands, isGoal, goes⟩
    · refine ⟨course, Nat.le_trans (Nat.le_of_eq same) told.once, ?_⟩
      rcases told.past with none | accepted | isGone
      · exact .inl (same.trans none)
      · rcases rule.accepted accepted with still | dropped
        · exact .inr (.inl still)
        · exact .inr (.inr (sorted.gone_of_dropped rule (goal?_of_accepted accepted) dropped))
      · exact .inr (.inr (gone isGone))
    · -- before that the goal was not accepted
      have none : (coordinator.memory.progress goal).acceptances = 0 := by
        rcases told.past with none | accepted | isGone
        · exact none
        · rw [stands] at accepted; cases accepted
        · refine absurd ?_ (isGone.2 .hand)
          rw [jobAt, stands, ← isGoal]
          rfl
      rw [none] at more
      exact ⟨course, more, .inr (.inl (by rw [goes, ← isGoal]; rfl))⟩
  | observe | pass => exact told.of_same rfl rfl gone ⟨rfl, rfl⟩
  | take other =>
    refine told.of_same rfl rfl gone ?_
    unfold Alike
    rw [Memory.modify_progress]
    split
    · exact ⟨Progress.take_finished _, Progress.take_sent _⟩
    · exact ⟨rfl, rfl⟩

theorem Told.letGo (told : Told coordinator goal) (other : Goal.Id) :
    Told (coordinator.letGo other) goal := by
  have clients : (coordinator.letGo other).clientAt = coordinator.clientAt := by
    funext index
    exact letGo_clientAt
  by_cases kept : other ≠ goal ∨ Kept coordinator goal
  · refine told.of_same letGo_worker clients (fun gone => gone.letGo other) (alike_of_eq ?_)
    rcases kept with apart | decided | held
    · exact letGo_progress_eq other (.inl apart)
    · exact letGo_progress_eq other (.inr (.inr decided))
    · exact letGo_progress_eq other (.inr (.inl held))
  · -- nobody holds the goal, and it is aborted
    rw [not_or, Classical.not_not, Kept, not_or] at kept
    obtain ⟨rfl, undecided, notHeld⟩ := kept
    have progress : ((coordinator.letGo other).memory.progress other) =
        { coordinator.memory.progress other with finished := true }.send
          (.finished (.aborted .abandoned)) := by
      rw [ArmLink.Coordinator.letGo, if_neg (by simp [undecided, notHeld])]
      rw [Memory.modify_progress, if_pos rfl]
    cases told.course with
    | undecided _ silent nobody =>
      refine ⟨.told (.aborted .abandoned) ?_ ?_ ?_, ?_, ?_⟩
      · rw [progress, Progress.send_finished]
      · rw [progress]
        exact Progress.outcomes_send_finished silent told.once
      · rw [letGo_sendingOf]; exact nobody
      · rw [progress, Progress.acceptances_send_finished]
        exact told.once
      · rw [progress, Progress.acceptances_send_finished, letGo_worker]
        exact told.past.imp_right fun past => past.imp_right fun gone => gone.letGo other
    | decided _ _ decided => exact absurd decided undecided
    | told _ decided => exact absurd decided undecided

/-- What `Told` says holds of every goal in every run. -/
theorem told_of_reachable {config : Config} {context : Context Unit}
    (started : start config context = .ok first) (run : Reachable first coordinator)
    (goal : Goal.Id) : Told coordinator goal := by
  refine run.induct (motive := fun coordinator => Told coordinator goal) ?_ ?_
    (fun _ other _ told => told.letGo other)
  · rw [eq_of_start started]
    refine ⟨.undecided rfl rfl ?_, Nat.zero_le 1, .inl rfl⟩
    intro actor outcome sends
    cases actor with
    | worker => cases sends
    | client index =>
      rw [sendingOf, clientAt] at sends
      cases sends
  · exact fun _ _ before told turn => told.turn (sorted_of_reachable started before) turn

/-! ### The first mark decides -/

/-- Whether the one outcome of a goal is settled: it was sent, or a thread is about to send it. -/
def Bound (coordinator : ArmLink.Coordinator) (goal : Goal.Id) (outcome : Outcome) : Prop :=
  (∃ actor, coordinator.sendingOf actor = some (goal, outcome)) ∨
    (coordinator.memory.progress goal).outcomes = [outcome]

theorem Bound.outcomes {outcome : Outcome} (bound : Bound coordinator goal outcome)
    (course : Course coordinator goal) :
    (coordinator.memory.progress goal).outcomes = [] ∨
      (coordinator.memory.progress goal).outcomes = [outcome] := by
  rcases bound with ⟨actor, sends⟩ | told
  · cases course with
    | undecided _ silent => exact .inl silent
    | decided _ _ _ silent => exact .inl silent
    | told _ _ _ nobody => exact absurd sends (nobody actor outcome)
  · exact .inr told

/-- A step of a thread changes the outcomes of a goal only if it is the goal's sender. -/
theorem Progressing.outcomes_eq {π : Type} {thread thread' : Thread π} {memory memory' : Memory}
    (progressing : Progressing thread thread' memory memory')
    (notSender : ∀ outcome, thread.sending ≠ some (goal, outcome)) :
    (memory'.progress goal).outcomes = (memory.progress goal).outcomes := by
  cases progressing with
  | keep _ _ same => rw [same]
  | accept _ _ _ changed =>
    rw [changed, Memory.modify_progress]
    split
    · rw [Progress.outcomes_send_accepted]
    · rfl
  | mark _ _ _ _ _ changed =>
    rw [changed, Memory.modify_progress]
    split <;> rfl
  | send sent outcome sends _ changed =>
    have apart : goal ≠ sent := by
      rintro rfl
      exact notSender outcome sends
    rw [changed, Memory.modify_progress, if_neg apart]

theorem Progressing.sent {π : Type} {thread thread' : Thread π} {memory memory' : Memory}
    {outcome : Outcome} (progressing : Progressing thread thread' memory memory')
    (sends : thread.sending = some (goal, outcome))
    (silent : (memory.progress goal).outcomes = [])
    (once : (memory.progress goal).acceptances ≤ 1) :
    (memory'.progress goal).outcomes = [outcome] := by
  cases progressing with
  | keep free => rw [sends] at free; cases free
  | accept _ free => rw [sends] at free; cases free
  | mark _ _ marks => rw [Thread.sending, marks] at sends; cases sends
  | send sent outcome' sendsIt _ changed =>
    cases sends.symm.trans sendsIt
    rw [changed, Memory.modify_progress, if_pos rfl]
    exact Progress.outcomes_send_finished silent once

/-- Nobody sends for a goal that was sent its outcome. -/
theorem Course.nobody_of_told {outcome : Outcome} (course : Course coordinator goal)
    (isTold : (coordinator.memory.progress goal).outcomes = [outcome]) :
    (coordinator.memory.progress goal).finished = true ∧
      ∀ actor outcome, coordinator.sendingOf actor ≠ some (goal, outcome) := by
  cases course with
  | undecided _ silent => rw [silent] at isTold; cases isTold
  | decided _ _ _ silent => rw [silent] at isTold; cases isTold
  | told _ decided _ nobody => exact ⟨decided, nobody⟩

theorem Course.silent_of_sends {actor : Actor} {outcome : Outcome}
    (course : Course coordinator goal)
    (sends : coordinator.sendingOf actor = some (goal, outcome)) :
    (coordinator.memory.progress goal).finished = true ∧
      (coordinator.memory.progress goal).outcomes = [] := by
  cases course with
  | undecided _ _ nobody => exact absurd sends (nobody actor outcome)
  | decided _ _ decided silent => exact ⟨decided, silent⟩
  | told _ _ _ nobody => exact absurd sends (nobody actor outcome)

/-- The outcome that was sent stays the only one. -/
theorem Told.outcomes_turn {outcome : Outcome} (told : Told coordinator goal)
    (isTold : (coordinator.memory.progress goal).outcomes = [outcome])
    (turn : Turn coordinator next) : (next.memory.progress goal).outcomes = [outcome] := by
  have nobody := (told.course.nobody_of_told isTold).2
  cases turn with
  | @call place memory isOpen opening =>
    obtain ⟨nextId, -, rfl⟩ := opening.memory_eq
    exact isTold
  | client index inside step =>
    have progressing := (clientRule_of_step step).progressing
    exact (progressing.outcomes_eq (nobody (.client index))).trans isTold
  | worker choice step =>
    have progressing := (workerRule_of_step step).progressing
    exact (progressing.outcomes_eq (nobody .worker)).trans isTold
  | observe | pass => exact isTold
  | take other =>
    rw [Memory.modify_progress]
    split
    · rw [Progress.outcomes, Progress.take_sent]
      exact isTold
    · exact isTold

theorem Told.outcomes_letGo {outcome : Outcome} (told : Told coordinator goal)
    (isTold : (coordinator.memory.progress goal).outcomes = [outcome]) (other : Goal.Id) :
    ((coordinator.letGo other).memory.progress goal).outcomes = [outcome] := by
  have decided := (told.course.nobody_of_told isTold).1
  rw [letGo_progress_eq other (.inr (.inr decided))]
  exact isTold

theorem Bound.turn {outcome : Outcome} (bound : Bound coordinator goal outcome)
    (told : Told coordinator goal) (turn : Turn coordinator next) : Bound next goal outcome := by
  rcases bound with ⟨sender, sends⟩ | isTold
  · have silent := (told.course.silent_of_sends sends).2
    cases turn with
    | call => exact .inl ⟨sender, by rw [sendingOf_opened]; exact sends⟩
    | client index inside step =>
      have progressing := (clientRule_of_step step).progressing
      by_cases isSender : sender = .client index
      · rw [isSender] at sends
        exact .inr (progressing.sent sends silent told.once)
      · exact .inl ⟨sender, by rw [sendingOf_withClient_other inside isSender]; exact sends⟩
    | worker choice step =>
      have progressing := (workerRule_of_step step).progressing
      cases sender with
      | worker => exact .inr (progressing.sent sends silent told.once)
      | client index => exact .inl ⟨.client index, sends⟩
    | observe | pass | take => exact .inl ⟨sender, sends⟩
  · exact .inr (told.outcomes_turn isTold turn)

theorem Bound.letGo {outcome : Outcome} (bound : Bound coordinator goal outcome)
    (told : Told coordinator goal) (other : Goal.Id) :
    Bound (coordinator.letGo other) goal outcome := by
  rcases bound with sends | isTold
  · exact .inl (by rw [letGo_sendingOf]; exact sends)
  · exact .inr (told.outcomes_letGo isTold other)

theorem Bound.of_reachable {config : Config} {context : Context Unit} {outcome : Outcome}
    (started : start config context = .ok first) (before : Reachable first coordinator)
    (bound : Bound coordinator goal outcome) (after : Reachable coordinator next) :
    Bound next goal outcome := by
  have both : Told next goal ∧ Bound next goal outcome := by
    refine after.induct (motive := fun later => Told later goal ∧ Bound later goal outcome)
      ⟨told_of_reachable started before goal, bound⟩ ?_ ?_
    · intro later next middle ⟨told, bound⟩ turn
      have sorted := sorted_of_reachable started (before.trans middle)
      exact ⟨told.turn sorted turn, bound.turn told turn⟩
    · intro later other _ ⟨told, bound⟩
      exact ⟨told.letGo other, bound.letGo told other⟩
  exact both.2

/-! ### Goals that are refused -/

/-- What is given to a goal that fails the checks: the rejection is to be marked, to be sent, or
sent, and nobody else holds the goal. -/
structure Refused (coordinator : ArmLink.Coordinator) (index : Nat) (goal : Goal.Id)
    (rejection : Rejection) : Prop where
  stands : (coordinator.clientAt index).place = .done (.submitted goal)
  hidden : Hidden coordinator index goal
  numbered : goal < coordinator.memory.nextId
  state :
    ((coordinator.clientAt index).finishing = some (.mark goal (.rejected rejection)) ∧
      (coordinator.memory.progress goal).finished = false ∧
      (coordinator.memory.progress goal).sent = []) ∨
    ((coordinator.clientAt index).finishing = some (.send goal (.rejected rejection)) ∧
      (coordinator.memory.progress goal).finished = true ∧
      (coordinator.memory.progress goal).sent = []) ∨
    ((coordinator.clientAt index).finishing = none ∧
      (coordinator.memory.progress goal).finished = true ∧
      (coordinator.memory.progress goal).sent = [.finished (.rejected rejection)])

theorem Refused.turn {index : Nat} {rejection : Rejection}
    (refused : Refused coordinator index goal rejection) (turn : Turn coordinator next) :
    Refused next index goal rejection := by
  have inside : index < coordinator.clients.length := by
    refine lt_length_of_ne_idle ?_
    intro idles
    have stands := refused.stands
    rw [idles] at stands
    cases stands
  rcases refused.hidden.turn inside refused.numbered turn with ⟨hidden, same, finished, sent⟩ |
    ⟨client, memory, rfl, rule⟩
  · have numbered : goal < next.memory.nextId := Nat.lt_of_lt_of_le refused.numbered turn.nextId_le
    refine ⟨by rw [same]; exact refused.stands, hidden, numbered, ?_⟩
    rw [same, finished, sent]
    exact refused.state
  · -- the client itself can only go on with the rejection
    have others : ∀ actor, actor ≠ .client index →
        goal ∉ (coordinator.withClient index client memory).holdsOf actor := by
      intro actor apart
      rw [holdsOf_withClient inside, if_neg apart]
      exact refused.hidden.others actor apart
    cases rule with
    | submit _ stands => cases refused.stands.symm.trans stands
    | cancel _ stands => cases refused.stands.symm.trans stands
    | exchange _ stands => cases refused.stands.symm.trans stands
    | stop _ stands => cases refused.stands.symm.trans stands
    | close _ stands => cases refused.stands.symm.trans stands
    | finish rule =>
      obtain ⟨progress, changed⟩ := rule.memory_eq
      have stands' : client.place = .done (.submitted goal) := rule.place_eq.trans refused.stands
      have hidden : Hidden (coordinator.withClient index client memory) index goal := by
        refine ⟨?_, ?_, others⟩
        · rw [withClient, changed]; exact refused.hidden.current
        · rw [jobAt, withClient, changed]; exact refused.hidden.pending
      have numbered : goal < memory.nextId := by rw [changed]; exact refused.numbered
      refine ⟨by rw [clientAt_withClient_self inside]; exact stands', hidden, numbered, ?_⟩
      rw [clientAt_withClient_self inside]
      rcases refused.state with ⟨busy, undecided, silent⟩ | ⟨busy, decided, silent⟩ |
        ⟨free, decided, told⟩
      · cases rule with
        | mark marks =>
          cases busy.symm.trans marks
          refine .inr (.inl ⟨rfl, ?_, ?_⟩)
          · rw [withClient, Memory.modify_progress, if_pos rfl]
          · rw [withClient, Memory.modify_progress, if_pos rfl]
            exact silent
        | late marks decided =>
          cases busy.symm.trans marks
          rw [undecided] at decided; cases decided
        | send sends => cases busy.symm.trans sends
      · cases rule with
        | mark marks => cases busy.symm.trans marks
        | late marks => cases busy.symm.trans marks
        | send sends =>
          cases busy.symm.trans sends
          have room : (coordinator.memory.progress goal).acceptances +
              (coordinator.memory.progress goal).outcomes.length ≤ 1 := by
            rw [← Progress.sent_length, silent]
            exact Nat.zero_le 1
          refine .inr (.inr ⟨rfl, ?_, ?_⟩)
          · rw [withClient, Memory.modify_progress, if_pos rfl, Progress.send_finished]
            exact decided
          · rw [withClient, Memory.modify_progress, if_pos rfl, Progress.sent_send room, silent]
            rfl
      · cases rule with
        | mark marks => cases free.symm.trans marks
        | late marks => cases free.symm.trans marks
        | send sends => cases free.symm.trans sends

theorem Refused.letGo {index : Nat} {rejection : Rejection}
    (refused : Refused coordinator index goal rejection) (other : Goal.Id) :
    Refused (coordinator.letGo other) index goal rejection := by
  have same : (coordinator.letGo other).memory.progress goal =
      coordinator.memory.progress goal := by
    refine letGo_progress_eq other (.inr ?_)
    rcases refused.state with ⟨busy, -, -⟩ | ⟨-, decided, -⟩ | ⟨-, decided, -⟩
    · left
      refine isHeld_iff.mpr (.inr (.inr ⟨.client index, ?_⟩))
      exact Client.mem_held_of_finishing busy
    · exact .inr decided
    · exact .inr decided
  refine ⟨by rw [letGo_clientAt]; exact refused.stands, refused.hidden.letGo other,
    by rw [letGo_nextId]; exact refused.numbered, ?_⟩
  rw [letGo_clientAt, same]
  exact refused.state

theorem Refused.of_reachable {index : Nat} {rejection : Rejection}
    (refused : Refused coordinator index goal rejection) (run : Reachable coordinator next) :
    Refused next index goal rejection :=
  run.induct (motive := fun later => Refused later index goal rejection) refused
    (fun _ _ _ refused turn => refused.turn turn) (fun _ other _ refused => refused.letGo other)

end ArmLink.Coordinator
