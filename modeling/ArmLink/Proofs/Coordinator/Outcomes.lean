import ArmLink.Proofs.Coordinator.ShuttingDown

/-!
One outcome for each goal.

Several threads may come to give a goal an outcome, and whoever lets go of a goal last gives it one.
The main statement, `oneOutcome_of_reachable`, says what comes of this in every run: the first mark
decides, its outcome is the one that is sent, a later mark changes nothing and is known to be late,
no event is lost for want of room, a goal without an outcome is held by somebody, and a goal that
fails the checks is told nothing but its rejection.  When the coordinator has been shut down, every
goal submitted before has been told one outcome.

Shutting down again is a call that does nothing, so a goal submitted in between is left without an
outcome (`silent_after_shutting_down_again`).
-/

namespace ArmLink.Coordinator

open Goal Link Motion Telemetry

/-! ### Steps of a thread -/

/-- The move in which a thread makes a step. -/
def Actor.move (choice : Choice) : Actor → Move
  | .worker => .worker choice
  | .client index => .client index

/-- What a thread gives an outcome before it goes on. -/
def finishingOf (coordinator : ArmLink.Coordinator) : Actor → Option Finishing
  | .worker => coordinator.worker.finishing
  | .client index => (coordinator.clientAt index).finishing

/-- Whether the last mark of a thread was the first on its goal. -/
def firstOf (coordinator : ArmLink.Coordinator) : Actor → Bool
  | .worker => coordinator.worker.first
  | .client index => (coordinator.clientAt index).first

/-- What is about to be sent to the client of a goal. -/
inductive Sends (coordinator : ArmLink.Coordinator) : Goal.Id → Event → Prop where
  | outcome {actor : Actor} {goal : Goal.Id} {outcome : Outcome}
      (sends : coordinator.finishingOf actor = some (.send goal outcome)) :
      Sends coordinator goal (.finished outcome)
  | accepted {job : Job} (free : coordinator.worker.finishing = none)
      (stands : coordinator.worker.place = .sendAccepted job) :
      Sends coordinator job.id .accepted
  /-- Whoever lets go of a goal last finds no outcome. -/
  | abandoned {goal : Goal.Id} (undecided : (coordinator.memory.progress goal).finished = false) :
      Sends coordinator goal (.finished (.aborted .abandoned))

/-- Whether a submitter is about to find that a goal fails the checks. -/
inductive Fails (coordinator : ArmLink.Coordinator) (index : Nat) : Goal.Id → Rejection → Prop where
  | notAlive {id : Goal.Id} {goal : Goal}
      (stands : (coordinator.clientAt index).place = .submitting (.askAlive id goal))
      (notAlive : coordinator.memory.context.isAlive = false) :
      Fails coordinator index id (.unready .undefined)
  | invalid {id : Goal.Id} {goal : Goal} {rejection : Rejection}
      (stands : (coordinator.clientAt index).place = .submitting (.askState id goal))
      (checked : validate coordinator.memory.config true coordinator.memory.context.robotState
        goal = .error rejection) :
      Fails coordinator index id rejection

/-- One outcome for each goal. -/
structure OneOutcome (coordinator : ArmLink.Coordinator) : Prop where
  /-- A client is told one outcome at most, and at most once that its goal was accepted. -/
  once : ∀ goal, (coordinator.memory.progress goal).outcomes.length ≤ 1 ∧
    (coordinator.memory.progress goal).acceptances ≤ 1
  /-- There is room for everything that is about to be sent. -/
  room : ∀ goal event, Sends coordinator goal event →
    ((coordinator.memory.progress goal).send event).sent =
      (coordinator.memory.progress goal).sent ++ [event]
  /-- The first mark makes the thread the one that sends; a later mark changes nothing. -/
  mark : ∀ actor choice goal outcome, coordinator.finishingOf actor = some (.mark goal outcome) →
    ∃ next, coordinator.step (actor.move choice) = some next ∧
      (((coordinator.memory.progress goal).finished = false ∧ next.firstOf actor = true ∧
          next.finishingOf actor = some (.send goal outcome)) ∨
        ((coordinator.memory.progress goal).finished = true ∧ next.firstOf actor = false ∧
          next.finishingOf actor = none ∧ Alike coordinator next goal))
  /-- What is sent then is the outcome of the first mark, and it stays the only one. -/
  send : ∀ actor choice goal outcome, coordinator.finishingOf actor = some (.send goal outcome) →
    (∃ next, coordinator.step (actor.move choice) = some next ∧
      (next.memory.progress goal).outcomes = [outcome]) ∧
    ∀ later, Reachable coordinator later →
      (later.memory.progress goal).outcomes = [] ∨ (later.memory.progress goal).outcomes = [outcome]
  stays : ∀ goal outcome, (coordinator.memory.progress goal).outcomes = [outcome] →
    ∀ later, Reachable coordinator later → (later.memory.progress goal).outcomes = [outcome]
  /-- A goal is held by somebody, or has been told its outcome, or a thread is about to tell it. -/
  kept : ∀ goal, 1 ≤ goal → goal < coordinator.memory.nextId →
    coordinator.isHeld goal = true ∨ (coordinator.memory.progress goal).outcomes.length = 1
  /-- A goal that fails the checks is told its rejection and nothing else. -/
  rejected : ∀ index goal rejection, Fails coordinator index goal rejection →
    ∃ next, coordinator.step (.client index) = some next ∧ ∀ later, Reachable next later →
      ((later.memory.progress goal).sent = [] ∨
        (later.memory.progress goal).sent = [.finished (.rejected rejection)]) ∧
      (later.answer? index ≠ none →
        (later.memory.progress goal).sent = [.finished (.rejected rejection)])
  /-- When shutting down has come to its end, every goal submitted before was told its outcome. -/
  shutDown : ∀ next later answer, coordinator.isOpen = true →
    coordinator.step (.call .shutDown) = some next → Reachable next later →
      later.answer? coordinator.clients.length = some answer →
        ∀ goal, 1 ≤ goal → goal < coordinator.memory.nextId →
          (later.memory.progress goal).outcomes.length = 1

variable {coordinator next first : ArmLink.Coordinator} {goal : Goal.Id} {actor : Actor}

/-! ### Letting go of everything -/

@[simp] theorem collect_finishingOf :
    coordinator.collect.finishingOf = coordinator.finishingOf := by
  refine collect_induct (motive := fun later => later.finishingOf = coordinator.finishingOf) ?_ rfl
  intro later goal _ same
  rw [← same]
  funext actor
  cases actor <;> simp [finishingOf]

@[simp] theorem collect_firstOf : coordinator.collect.firstOf = coordinator.firstOf := by
  refine collect_induct (motive := fun later => later.firstOf = coordinator.firstOf) ?_ rfl
  intro later goal _ same
  rw [← same]
  funext actor
  cases actor <;> simp [firstOf]

theorem collect_progress_eq (decided : (coordinator.memory.progress goal).finished = true) :
    coordinator.collect.memory.progress goal = coordinator.memory.progress goal := by
  refine collect_induct
    (motive := fun later => later.memory.progress goal = coordinator.memory.progress goal) ?_ rfl
  intro later other _ same
  rw [← same]
  refine letGo_progress_eq other (.inr (.inr ?_))
  rw [same]
  exact decided

/-! ### Giving an outcome -/

theorem step_of_finishing {finishing : Finishing}
    (busy : coordinator.finishingOf actor = some finishing) (choice : Choice) :
    ∃ between : ArmLink.Coordinator, coordinator.step (actor.move choice) = some between.collect ∧
      ∃ (π : Type) (thread thread' : Thread π), thread.finishing = some finishing ∧
        FinishRule thread coordinator.memory thread' between.memory ∧
        between.finishingOf actor = thread'.finishing ∧ between.firstOf actor = thread'.first := by
  cases actor with
  | worker =>
    have busy : coordinator.worker.finishing = some finishing := busy
    have step : coordinator.worker.step choice coordinator.memory =
        some (coordinator.worker.finishStep finishing coordinator.memory) := by
      rw [Worker.step, busy]
    exact ⟨_, step_worker step, _, _, _, busy, finishRule_of_finishStep busy rfl, rfl, rfl⟩
  | client index =>
    have busy : (coordinator.clientAt index).finishing = some finishing := busy
    have inside : index < coordinator.clients.length := by
      refine lt_length_of_ne_idle ?_
      intro idles
      rw [idles] at busy
      cases busy
    have step : (coordinator.clientAt index).step coordinator.worker.isGone (.client index)
        coordinator.memory =
          some ((coordinator.clientAt index).finishStep finishing coordinator.memory) := by
      rw [Client.step, busy]
    refine ⟨_, step_client inside step, _, _, _, busy, finishRule_of_finishStep busy rfl, ?_, ?_⟩
    · rw [finishingOf, clientAt_withClient_self inside]
    · rw [firstOf, clientAt_withClient_self inside]

theorem sendingOf_eq_some_iff {outcome : Outcome} :
    coordinator.sendingOf actor = some (goal, outcome) ↔
      coordinator.finishingOf actor = some (.send goal outcome) := by
  cases actor <;> exact sending_eq_some_iff

/-- The first mark makes the thread the one that sends; a later mark changes nothing. -/
theorem step_of_mark {outcome : Outcome}
    (marks : coordinator.finishingOf actor = some (.mark goal outcome)) (choice : Choice) :
    ∃ next, coordinator.step (actor.move choice) = some next ∧
      (((coordinator.memory.progress goal).finished = false ∧ next.firstOf actor = true ∧
          next.finishingOf actor = some (.send goal outcome)) ∨
        ((coordinator.memory.progress goal).finished = true ∧ next.firstOf actor = false ∧
          next.finishingOf actor = none ∧ Alike coordinator next goal)) := by
  obtain ⟨between, step, π, thread, thread', busy, rule, finishing, isFirst⟩ :=
    step_of_finishing marks choice
  refine ⟨between.collect, step, ?_⟩
  rw [collect_finishingOf, collect_firstOf, finishing, isFirst]
  generalize changed : between.memory = memory at rule
  cases rule with
  | mark marksToo undecided =>
    cases busy.symm.trans marksToo
    exact .inl ⟨undecided, rfl, rfl⟩
  | late marksToo decided =>
    cases busy.symm.trans marksToo
    refine .inr ⟨decided, rfl, rfl, alike_of_eq ?_⟩
    rw [collect_progress_eq (by rw [changed]; exact decided), changed]
  | send sends => cases busy.symm.trans sends

theorem step_of_send {outcome : Outcome} (told : Told coordinator goal)
    (sends : coordinator.finishingOf actor = some (.send goal outcome)) (choice : Choice) :
    ∃ next, coordinator.step (actor.move choice) = some next ∧
      (next.memory.progress goal).outcomes = [outcome] := by
  obtain ⟨decided, silent⟩ := told.course.silent_of_sends (sendingOf_eq_some_iff.mpr sends)
  obtain ⟨between, step, π, thread, thread', busy, rule, -⟩ := step_of_finishing sends choice
  have isTold : (between.memory.progress goal).outcomes = [outcome] :=
    rule.progressing.sent (sending_eq_some_iff.mpr busy) silent told.once
  have stillDecided : (between.memory.progress goal).finished = true :=
    rule.progressing.finished decided
  refine ⟨between.collect, step, ?_⟩
  rw [collect_progress_eq stillDecided]
  exact isTold

theorem Course.length_le (course : Course coordinator goal) :
    (coordinator.memory.progress goal).outcomes.length ≤ 1 := by
  cases course with
  | undecided _ silent => rw [silent]; exact Nat.zero_le 1
  | decided _ _ _ silent => rw [silent]; exact Nat.zero_le 1
  | told _ _ told => rw [told]; exact Nat.le_refl 1

theorem Told.outcomes_of_reachable {config : Config} {context : Context Unit} {outcome : Outcome}
    (started : start config context = .ok first) (before : Reachable first coordinator)
    (isTold : (coordinator.memory.progress goal).outcomes = [outcome])
    (after : Reachable coordinator next) : (next.memory.progress goal).outcomes = [outcome] := by
  have both : Told next goal ∧ (next.memory.progress goal).outcomes = [outcome] := by
    refine after.induct (motive := fun later => Told later goal ∧
      (later.memory.progress goal).outcomes = [outcome])
      ⟨told_of_reachable started before goal, isTold⟩ ?_ ?_
    · intro later next middle ⟨told, isTold⟩ turn
      have sorted := sorted_of_reachable started (before.trans middle)
      exact ⟨told.turn sorted turn, told.outcomes_turn isTold turn⟩
    · intro later other _ ⟨told, isTold⟩
      exact ⟨told.letGo other, told.outcomes_letGo isTold other⟩
  exact both.2

/-- There is room for everything that is about to be sent. -/
theorem sent_of_sends {event : Event} (told : Told coordinator goal)
    (sends : Sends coordinator goal event) :
    ((coordinator.memory.progress goal).send event).sent =
      (coordinator.memory.progress goal).sent ++ [event] := by
  refine Progress.sent_send ?_ event
  cases sends with
  | outcome sends =>
    rw [(told.course.silent_of_sends (sendingOf_eq_some_iff.mpr sends)).2]
    exact told.once
  | abandoned undecided =>
    cases told.course with
    | undecided _ silent => rw [silent]; exact told.once
    | decided _ _ decided => rw [undecided] at decided; cases decided
    | told _ decided => rw [undecided] at decided; cases decided
  | @accepted job free stands =>
    have never : (coordinator.memory.progress job.id).acceptances = 0 := by
      rcases told.past with never | accepted | gone
      · exact never
      · rw [stands] at accepted; cases accepted
      · refine absurd ?_ (gone.2 .hand)
        rw [jobAt, stands]
        rfl
    rw [never, Nat.zero_add]
    exact told.course.length_le

/-! ### Refusing a goal -/

theorem Fails.asking {index : Nat} {rejection : Rejection}
    (fails : Fails coordinator index goal rejection) :
    (coordinator.clientAt index).place.asking = some goal := by
  cases fails with
  | notAlive stands | invalid stands => rw [stands]; rfl

/-- A submitter that finds that its goal fails the checks is about to tell so. -/
theorem step_of_fails {index : Nat} {rejection : Rejection} (fresh : Fresh coordinator)
    (counted : Counted coordinator) (fails : Fails coordinator index goal rejection) :
    ∃ next, coordinator.step (.client index) = some next ∧ Refused next index goal rejection := by
  have asking := fails.asking
  obtain ⟨free, hidden, undecided, silent⟩ := fresh index goal asking
  have inside := inside_of_asking asking
  have numbered : goal < coordinator.memory.nextId :=
    counted.threads (.client index) goal (held_of_asking asking)
  have step : (coordinator.clientAt index).step coordinator.worker.isGone (.client index)
      coordinator.memory = some ((coordinator.clientAt index).finish goal (.rejected rejection)
        (.done (.submitted goal)), coordinator.memory) := by
    cases fails with
    | notAlive stands notAlive => simp [Client.step, free, stands, Submitting.step, notAlive]
    | invalid stands checked => simp [Client.step, free, stands, Submitting.step, checked]
  refine ⟨_, step_client inside step, ?_⟩
  refine collect_induct (motive := fun later => Refused later index goal rejection)
    (fun _ other _ refused => refused.letGo other) ?_
  refine ⟨?_, ⟨hidden.current, hidden.pending, ?_⟩, numbered, .inl ?_⟩
  · rw [clientAt_withClient_self inside]
    rfl
  · intro actor apart holds
    rw [holdsOf_withClient inside, if_neg apart] at holds
    exact hidden.others actor apart holds
  · rw [clientAt_withClient_self inside]
    exact ⟨rfl, undecided, silent⟩

theorem Refused.sent {index : Nat} {rejection : Rejection}
    (refused : Refused coordinator index goal rejection) :
    ((coordinator.memory.progress goal).sent = [] ∨
      (coordinator.memory.progress goal).sent = [.finished (.rejected rejection)]) ∧
    (coordinator.answer? index ≠ none →
      (coordinator.memory.progress goal).sent = [.finished (.rejected rejection)]) := by
  rcases refused.state with ⟨busy, -, silent⟩ | ⟨busy, -, silent⟩ | ⟨-, -, told⟩
  · refine ⟨.inl silent, fun answered => ?_⟩
    obtain ⟨answer, answered⟩ := Option.ne_none_iff_exists'.mp answered
    cases (done_of_answer? answered).1.symm.trans busy
  · refine ⟨.inl silent, fun answered => ?_⟩
    obtain ⟨answer, answered⟩ := Option.ne_none_iff_exists'.mp answered
    cases (done_of_answer? answered).1.symm.trans busy
  · exact ⟨.inr told, fun _ => told⟩

/-! ### One outcome -/

/-- In every run, each goal has one outcome, the one of the first mark. -/
theorem oneOutcome_of_reachable {config : Config} {context : Context Unit}
    (started : start config context = .ok first) (run : Reachable first coordinator) :
    OneOutcome coordinator := by
  have told := told_of_reachable started run
  constructor
  · exact fun goal => ⟨(told goal).course.length_le, (told goal).once⟩
  · exact fun goal event sends => sent_of_sends (told goal) sends
  · exact fun actor choice goal outcome marks => step_of_mark marks choice
  · intro actor choice goal outcome sends
    refine ⟨step_of_send (told goal) sends choice, fun later after => ?_⟩
    have bound : Bound coordinator goal outcome := .inl ⟨actor, sendingOf_eq_some_iff.mpr sends⟩
    have boundLater := Bound.of_reachable started run bound after
    exact boundLater.outcomes (told_of_reachable started (run.trans after) goal).course
  · intro goal outcome isTold later after
    exact Told.outcomes_of_reachable started run isTold after
  · intro goal positive below
    rcases kept_of_reachable started run ⟨positive, below⟩ with decided | held
    · cases (told goal).course with
      | undecided undecided => rw [decided] at undecided; cases undecided
      | decided actor outcome _ _ sends =>
        exact .inl (isHeld_iff.mpr (.inr (.inr ⟨actor, holds_of_sendingOf sends⟩)))
      | told outcome _ isTold => exact .inr (by rw [isTold]; rfl)
    · exact .inl held
  · intro index goal rejection fails
    obtain ⟨next, step, refused⟩ :=
      step_of_fails (fresh_of_reachable started run) (counted_of_reachable started run) fails
    exact ⟨next, step, fun later after => (refused.of_reachable after).sent⟩
  · intro next later answer isOpen called after answered goal positive below
    obtain ⟨outcome, isTold⟩ := told_of_shutDown started run isOpen called after answered positive
      below
    rw [isTold]
    rfl

/-- The statement at a goal that was cancelled while a second call for it waits to mark it. -/
theorem oneOutcome_canceled : ∃ first coordinator,
    start (plainConfig 1.0) readyContext = .ok first ∧
    Reachable first coordinator ∧ (coordinator.memory.progress 1).outcomes.length = 1 ∧
    OneOutcome coordinator := by
  obtain ⟨coordinator, run, isTold⟩ := exists_reachable (plain 1.0)
    (fun last => (last.memory.progress 1).outcomes.length = 1)
    ([.call (.submit zeroGoal)] ++ clientSteps 0 15 ++ [.call (.cancel 1), .call (.cancel 1)] ++
      clientSteps 1 5 ++ clientSteps 2 5 ++ clientSteps 1 3) (by decide +kernel)
  exact ⟨_, coordinator, start_plain 1.0, run, isTold,
    oneOutcome_of_reachable (start_plain 1.0) run⟩

/-- A coordinator can be shut down again after a goal was submitted to it: the call answers, and the
goal has no outcome. -/
theorem silent_after_shutting_down_again :
    ∃ first coordinator last, start (plainConfig 1.0) readyContext = .ok first ∧
      Reachable first coordinator ∧ coordinator.memory.nextId = 2 ∧
      coordinator.step (.call .shutDown) = some last ∧
      last.answer? coordinator.clients.length = some .nothing ∧
      (last.memory.progress 1).sent = [] := by
  obtain ⟨coordinator, run, number, again⟩ := exists_reachable (plain 1.0)
    (fun last => last.memory.nextId = 2 ∧ (last.step (.call .shutDown)).any fun next =>
      next.answer? last.clients.length == some .nothing && (next.memory.progress 1).sent.isEmpty)
    ([.call .shutDown] ++ clientSteps 0 3 ++ workerSteps 1 ++ clientSteps 0 8 ++
      [.call (.submit zeroGoal)] ++ clientSteps 1 15) (by decide +kernel)
  obtain ⟨last, called, facts⟩ := (Option.any_eq_true _ _).mp again
  obtain ⟨answered, silent⟩ := (Bool.and_eq_true _ _).mp facts
  exact ⟨_, coordinator, last, start_plain 1.0, run, number, called, eq_of_beq answered,
    List.isEmpty_iff.mp silent⟩

end ArmLink.Coordinator
