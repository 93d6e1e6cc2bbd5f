import ArmLink.Proofs.Coordinator.Interruption

/-!
What a stop for safety reaches.

When the arm leaves `running`, whoever writes the state stops the arm: the flag is raised if a goal
holds the slot.  As long as the state stays away from `running` no goal passes the checks, so nobody
lowers the flag but for a goal that had passed them when the state was written (`Passed`).

The main statement is `safetyStop_of_update`: when the update has answered, the executor is not told
to follow the points of a goal that had not passed the checks by then, or that was in the slot by
then, unless the worker had looked at the flag already.  A goal that had passed the checks, and
whose submitter had not come to raising `hasGoal`, may be followed all the same
(`streamed_after_update`).
-/

namespace ArmLink.Coordinator

open Goal Link Motion Telemetry

/-! ### Goals on the way to the slot -/

/-- The goal that has passed the checks and for which a submitter has not raised `hasGoal` yet. -/
def Submitting.passed : Submitting → Option Goal.Id
  | .lockOld job | .readOld job | .flagOld job _ | .interruptOld job _ | .unlockOld job _
  | .lockExec job _ | .settle job | .lockCurrent job | .install job | .unlockCurrent job
  | .lowerFlag job | .raiseGoal job => some job.id
  | .askAlive .. | .askState .. | .lockPending _ | .enqueue _ | .unlockPending _
  | .unlockExec _ => none

/-- The goal of a client that has passed the checks and for which `hasGoal` was not raised yet. -/
def ClientPlace.passed : ClientPlace → Option Goal.Id
  | .submitting place => place.passed
  | _ => none

/-- Whether a goal has passed the checks and is on the way to the slot. -/
def Passed (coordinator : ArmLink.Coordinator) (goal : Goal.Id) : Prop :=
  ∃ index, (coordinator.clientAt index).place.passed = some goal

/-- Whether the arm is known to be running. -/
def MayRun (coordinator : ArmLink.Coordinator) : Prop :=
  coordinator.memory.context.robotState = some .running

/-- What a coordinator can come to while the arm is not running. -/
inductive ReachableStopped (first : ArmLink.Coordinator) : ArmLink.Coordinator → Prop where
  | refl (stopped : ¬ MayRun first) : ReachableStopped first first
  | step {coordinator next : ArmLink.Coordinator} (move : Move) :
      ReachableStopped first coordinator → coordinator.step move = some next →
      ¬ MayRun next → ReachableStopped first next

section Steps

variable {workerEnded : Bool} {actor : Actor} {client client' : Client}
  {worker worker' : Worker} {memory memory' : Memory} {goal : Goal.Id}

theorem running_of_validate {config : Config} {isAlive : Bool} {state : Option RobotState}
    {request : Goal} {points : List (Waypoint Float)}
    (valid : validate config isAlive state request = .ok points) : state = some .running := by
  have ready : checkReady isAlive state = .ok () := by
    unfold validate at valid
    cases ready : checkReady isAlive state with
    | error reason => rw [ready] at valid; cases valid
    | ok _ => rfl
  unfold checkReady at ready
  split at ready
  · cases ready
  · split at ready <;> first
      | rfl
      | cases ready

/-- No goal comes on the way to the slot while the arm is not running. -/
theorem ClientRule.passed (rule : ClientRule workerEnded actor client memory client' memory')
    (stopped : memory.context.robotState ≠ some .running)
    (passed : client'.place.passed = some goal) : client.place.passed = some goal := by
  cases rule with
  | finish rule => rw [← rule.place_eq]; exact passed
  | submit _ stands rule =>
    rw [stands]
    cases rule with
    | valid checked => exact absurd (running_of_validate checked) stopped
    | unlockOld | install => rw [finishIf_place] at passed; exact passed
    | @lockExec job superseded => cases superseded <;> exact passed
    | alive | notAlive | invalid | raiseGoal | lockPending | enqueue | unlockPending | unlockExec =>
      cases passed
    | _ => exact passed
  | cancel _ _ rule => cases rule <;> cases passed
  | @exchange state =>
    obtain ⟨answer, told | told⟩ := told_cases (memory.context.exchangeState state).1 state
    · rw [goto_place, told] at passed; cases passed
    · rw [goto_place, told] at passed; cases passed
  | stop _ _ rule =>
    cases rule with
    | read => rw [finishIf_place] at passed; cases passed
    | _ => cases passed
  | close _ _ rule =>
    cases rule with
    | takePending | takeCurrent => rw [finishIf_place] at passed; cases passed
    | _ => cases passed

/-- Whether one who stops the arm has not come to raising the flag, nor found a reason not to. -/
def ClientPlace.isDeciding : ClientPlace → Bool
  | .stopping .loadGoal _ | .stopping .loadFlag _ | .stopping .swapFlag _ => true
  | _ => false

/-- Whoever stops the arm finds that there is no goal, or leaves with the flag raised. -/
theorem ClientRule.decides_to_stop
    (rule : ClientRule workerEnded actor client memory client' memory')
    (deciding : client.place.isDeciding = true) :
    client'.place.isDeciding = true ∨
      (memory.hasGoal = false ∧ memory'.current = memory.current) ∨ memory'.interrupt = true := by
  cases rule with
  | finish rule => exact .inl (by rw [rule.place_eq]; exact deciding)
  | submit _ stands => rw [stands] at deciding; cases deciding
  | cancel _ stands => rw [stands] at deciding; cases deciding
  | exchange _ stands => rw [stands] at deciding; cases deciding
  | close _ stands => rw [stands] at deciding; cases deciding
  | stop _ stands rule =>
    rw [stands] at deciding
    cases rule with
    | noGoal noGoal => exact .inr (.inl ⟨noGoal, rfl⟩)
    | goal | notFlagged => exact .inl rfl
    | flagged isUp => exact .inr (.inr isUp)
    | swapLate | swapFlag => exact .inr (.inr rfl)
    | interrupt | lockCurrent | read | unlockCurrent => cases deciding

/-- Whether the worker is about to tell the executor to follow the points of a goal. -/
def WorkerPlace.begins (place : WorkerPlace) (goal : Goal.Id) : Prop :=
  ∃ job, place = .beginStream job ∧ job.id = goal

theorem not_begins_of_rest {place : WorkerPlace} (nothing : place.rest = []) :
    ¬ place.begins goal := by
  rintro ⟨job, stands, -⟩
  rw [stands] at nothing
  cases nothing

/-- The worker comes to beginning a stream for a goal only if the flag is down. -/
theorem WorkerRule.begins (rule : WorkerRule worker memory worker' memory')
    (isUp : ∀ job, worker.place = .checkFlag job → job.id = goal → memory.interrupt = true)
    (begins : worker'.place.begins goal) : worker.place.begins goal := by
  cases rule with
  | finish rule => rw [← rule.place_eq]; exact begins
  | work _ rule =>
    generalize worker.place = place at rule isUp
    cases rule with
    | @notFlagged job isDown =>
      obtain ⟨same, stands, isGoal⟩ := begins
      cases stands
      rw [isUp job rfl isGoal] at isDown
      cases isDown
    | returned | notSent | held | notHeld =>
      exact absurd begins (not_begins_of_rest rest_afterStream)
    | watch _ goesOn =>
      rcases goesOn with goesOn | rfl
      · exact absurd begins (not_begins_of_rest (rest_of_watched goesOn))
      · exact absurd begins (not_begins_of_rest rfl)
    | @stop job hang => cases hang <;> exact absurd begins (not_begins_of_rest rfl)
    | beginStream | tick | breakOff | sent =>
      obtain ⟨job, stands, -⟩ := begins
      cases stands
    | _ => exact absurd begins (not_begins_of_rest rfl)

theorem WorkerRule.begins_of_stream (rule : WorkerRule worker memory worker' memory') :
    ∃ sent, recordsIn memory'.calls goal = recordsIn memory.calls goal ++ sent ∧
      (.stream ∈ sent → worker.place.begins goal) := by
  have quiet : ∀ {before after : List Record}, after = before →
      ∃ sent, after = before ++ sent ∧ (.stream ∈ sent → worker.place.begins goal) :=
    fun same => ⟨[], by rw [same, List.append_nil], fun inside => nomatch inside⟩
  cases rule with
  | finish rule => obtain ⟨progress, rfl⟩ := rule.memory_eq; exact quiet rfl
  | work _ rule =>
    generalize worker.place = place at rule quiet
    cases rule with
    | @beginStream job =>
      by_cases isGoal : job.id = goal
      · exact ⟨[.stream], recordsIn_note (if_pos isGoal), fun _ => ⟨job, rfl, isGoal⟩⟩
      · exact quiet (recordsIn_note_none (if_neg isGoal))
    | @sent job =>
      by_cases isGoal : job.id = goal
      · exact ⟨[.servo], recordsIn_note (if_pos isGoal), fun inside => by simp at inside⟩
      · exact quiet (recordsIn_note_none (if_neg isGoal))
    | @held job =>
      by_cases isGoal : job.id = goal
      · exact ⟨[.hold], recordsIn_note (if_pos isGoal), fun inside => by simp at inside⟩
      · exact quiet (recordsIn_note_none (if_neg isGoal))
    | start | stop | hang => exact quiet (recordsIn_note_none rfl)
    | _ => exact quiet rfl

end Steps

/-! ### While the arm is not running -/

variable {coordinator next first : ArmLink.Coordinator} {goal : Goal.Id}

theorem ReachableStopped.reachable (run : ReachableStopped first coordinator) :
    Reachable first coordinator := by
  induction run with
  | refl => exact .refl
  | step move _ moved _ ih => exact .step move ih moved

/-- What holds at first and is kept by every turn from a state in which the arm is not running, and
by letting go of a goal, holds as long as the arm is not running. -/
theorem ReachableStopped.induct {motive : ArmLink.Coordinator → Prop} (holds : motive first)
    (turn : ∀ coordinator next, Reachable first coordinator → ¬ MayRun coordinator →
      motive coordinator → Turn coordinator next → motive next)
    (letGo : ∀ coordinator goal, motive coordinator → motive (coordinator.letGo goal))
    (run : ReachableStopped first coordinator) : motive coordinator := by
  have both : motive coordinator ∧ ¬ MayRun coordinator := by
    induction run with
    | refl stopped => exact ⟨holds, stopped⟩
    | step move before moved stopped ih =>
      obtain ⟨between, turned, rfl⟩ := turn_of_step moved
      refine ⟨collect_induct (fun coordinator goal _ => letGo coordinator goal) ?_, stopped⟩
      exact turn _ _ before.reachable ih.2 ih.1 turned
  exact both.1

theorem Passed.of_turn (stopped : ¬ MayRun coordinator) (turn : Turn coordinator next)
    (passed : Passed next goal) : Passed coordinator goal := by
  obtain ⟨index, passed⟩ := passed
  cases turn with
  | @call place memory isOpen opening =>
    rw [clientAt_opened] at passed
    split at passed
    · cases opening with
      | tellState state =>
        dsimp only at passed
        unfold ClientPlace.told at passed
        split at passed <;> cases passed
      | _ => cases passed
    · exact ⟨index, passed⟩
  | client mover inside step =>
    rw [clientAt_withClient inside] at passed
    split at passed
    · exact ⟨mover, (clientRule_of_step step).passed stopped passed⟩
    · exact ⟨index, passed⟩
  | worker | observe | pass | take => exact ⟨index, passed⟩

/-- A client between writing `current` and writing `hasGoal` has its goal in the slot, if it has one
on the way there, and leaves the slot empty if it has none. -/
theorem ClientPlace.passed_of_isBetween {place : ClientPlace} {memory : Memory}
    (knows : place.Knows memory) (between : place.isBetween = true) :
    place.passed = memory.current := by
  unfold ClientPlace.isBetween at between
  split at between
  · exact Eq.symm knows
  · exact Eq.symm knows
  · exact Eq.symm knows
  · exact Eq.symm knows
  · exact Eq.symm knows.2
  · exact Eq.symm knows.2
  · cases between

/-- A goal in the slot that is not on the way to it is seen by whoever stops the arm. -/
theorem Slot.hasGoal_of_current (slot : Slot coordinator)
    (current : coordinator.memory.current = some goal) (notPassed : ¬ Passed coordinator goal) :
    coordinator.memory.hasGoal = true := by
  have clients : ∀ index, (coordinator.clientAt index).place.isBetween = false := by
    intro index
    refine Bool.eq_false_iff.mpr fun between => notPassed ⟨index, ?_⟩
    rw [ClientPlace.passed_of_isBetween (slot.clients index) between, current]
  have worker : coordinator.worker.place.isBetween = false := by
    have knows := slot.worker
    unfold WorkerPlace.isBetween
    split
    · rename_i stands
      rw [stands] at knows
      cases current.symm.trans knows
    · rfl
  rw [slot.settled clients worker, current]
  rfl

/-! ### Stopping -/

/-- Whether the flag is raised if a goal is current that is not on the way to the slot, or the
client that stops the arm has not come to that. -/
structure Warned (coordinator : ArmLink.Coordinator) (index : Nat) (goal : Goal.Id) : Prop where
  notPassed : ¬ Passed coordinator goal
  raised : (coordinator.clientAt index).place.isDeciding = true ∨
    (coordinator.memory.current = some goal → coordinator.memory.interrupt = true)

theorem interrupt_of_not_passed (slot : Slot coordinator) (turn : Turn coordinator next)
    (notPassed : ¬ Passed coordinator goal)
    (raised : coordinator.memory.current = some goal → coordinator.memory.interrupt = true) :
    next.memory.current = some goal → next.memory.interrupt = true := by
  refine interrupt_of_turn slot turn ?_ raised
  rintro index job (stands | stands) isGoal
  · exact notPassed ⟨index, by rw [stands, ← isGoal]; rfl⟩
  · exact notPassed ⟨index, by rw [stands, ← isGoal]; rfl⟩

theorem Warned.turn {index : Nat} (warned : Warned coordinator index goal)
    (slot : Slot coordinator) (stopped : ¬ MayRun coordinator) (turn : Turn coordinator next) :
    Warned next index goal := by
  refine ⟨fun passed => warned.notPassed (passed.of_turn stopped turn), ?_⟩
  rcases warned.raised with deciding | raised
  · have inside : index < coordinator.clients.length := by
      refine lt_length_of_ne_idle ?_
      intro idles
      rw [idles] at deciding
      cases deciding
    cases turn with
    | call =>
      left
      rw [clientAt_opened_of_lt inside]
      exact deciding
    | client mover isThere step =>
      by_cases isMover : index = mover
      · subst isMover
        rw [clientAt_withClient_self isThere]
        rcases (clientRule_of_step step).decides_to_stop deciding with
          goesOn | ⟨noGoal, same⟩ | isUp
        · exact .inl goesOn
        · right
          intro current
          have hasGoal := slot.hasGoal_of_current (same.symm.trans current) warned.notPassed
          rw [noGoal] at hasGoal
          cases hasGoal
        · exact .inr fun _ => isUp
      · left
        rw [clientAt_withClient_other isThere isMover]
        exact deciding
    | worker | observe | pass | take => exact .inl deciding
  · exact .inr (interrupt_of_not_passed slot turn warned.notPassed raised)

theorem Warned.letGo {index : Nat} (warned : Warned coordinator index goal) (other : Goal.Id) :
    Warned (coordinator.letGo other) index goal := by
  obtain ⟨progress, changed⟩ := letGo_eq coordinator other
  rw [changed]
  exact ⟨warned.notPassed, warned.raised⟩

theorem ClientRule.isDeciding_of_exchanging {workerEnded : Bool} {actor : Actor}
    {client client' : Client} {memory memory' : Memory}
    (rule : ClientRule workerEnded actor client memory client' memory')
    (free : client.finishing = none) {state : RobotState}
    (stands : client.place = .exchanging state) (notRunning : state ≠ .running)
    (changes : memory.context.robotState ≠ some state) : client'.place.isDeciding = true := by
  cases rule with
  | finish rule => cases rule <;> simp_all
  | submit _ stood => cases stood.symm.trans stands
  | cancel _ stood => cases stood.symm.trans stands
  | stop _ stood => cases stood.symm.trans stands
  | close _ stood => cases stood.symm.trans stands
  | exchange _ stood =>
    cases stood.symm.trans stands
    have changed : (memory.context.exchangeState state).1 = true := bne_iff_ne.mpr changes
    rw [goto_place, if_pos changed, ClientPlace.told, if_neg notRunning]
    rfl

theorem warned_of_update {config : Config} {context : Context Unit}
    (started : start config context = .ok first) (run : Reachable first coordinator) {index : Nat}
    {state : RobotState} (stands : (coordinator.clientAt index).place = .exchanging state)
    (notRunning : state ≠ .running) (changes : coordinator.memory.context.robotState ≠ some state)
    (wrote : coordinator.step (.client index) = some next) (notPassed : ¬ Passed next goal) :
    Warned next index goal := by
  obtain ⟨client, memory, inside, step, rfl⟩ := client_of_step wrote
  have free := (settled_of_reachable started run).client_free
    (by rw [stands]; exact fun _ settles => settles)
  have deciding : client.place.isDeciding = true :=
    (clientRule_of_step step).isDeciding_of_exchanging free stands notRunning changes
  refine ⟨notPassed, .inl ?_⟩
  obtain ⟨progress, changed⟩ := collect_eq (coordinator.withClient index client memory)
  rw [changed]
  exact (congrArg (·.place.isDeciding) (clientAt_withClient_self inside)).trans deciding

/-! ### Nothing begins -/

/-- Whether the executor was told to follow the points of a goal between two states only if the
worker was about to tell it in the first. -/
def BegunBefore (coordinator next : ArmLink.Coordinator) (goal : Goal.Id) : Prop :=
  ∃ sent, next.records goal = coordinator.records goal ++ sent ∧
    (.stream ∈ sent → coordinator.worker.place.begins goal)

/-- Whether a goal is kept from being begun: it is not on the way to the slot, the flag is raised if
it is current, and the worker has not come to beginning it since. -/
structure Barred (coordinator next : ArmLink.Coordinator) (goal : Goal.Id) : Prop where
  notPassed : ¬ Passed next goal
  raised : next.memory.current = some goal → next.memory.interrupt = true
  begins : next.worker.place.begins goal → coordinator.worker.place.begins goal
  begun : BegunBefore coordinator next goal

theorem Barred.turn {last : ArmLink.Coordinator} (barred : Barred coordinator next goal)
    (slot : Slot next) (stopped : ¬ MayRun next) (turn : Turn next last) :
    Barred coordinator last goal := by
  have notPassed : ¬ Passed last goal :=
    fun passed => barred.notPassed (passed.of_turn stopped turn)
  have raised := interrupt_of_not_passed slot turn barred.notPassed barred.raised
  have quiet : last.worker = next.worker → last.records goal = next.records goal →
      Barred coordinator last goal := by
    intro worker records
    refine ⟨notPassed, raised, by rw [worker]; exact barred.begins, ?_⟩
    obtain ⟨sent, same, begun⟩ := barred.begun
    exact ⟨sent, records.trans same, begun⟩
  cases turn with
  | @call place memory isOpen opening =>
    obtain ⟨nextId, -, rfl⟩ := opening.memory_eq
    exact quiet rfl rfl
  | client index inside step => exact quiet rfl (clientRule_of_step step).records_eq
  | worker choice step =>
    have rule := workerRule_of_step step
    have isUp : ∀ job, next.worker.place = .checkFlag job → job.id = goal →
        next.memory.interrupt = true := by
      intro job stands isGoal
      have current : next.memory.current = some job.id :=
        slot.worker.of_executing (by rw [stands]; rfl)
      exact barred.raised (by rw [current, isGoal])
    refine ⟨notPassed, raised, fun begins => barred.begins (rule.begins isUp begins), ?_⟩
    obtain ⟨sent, same, begun⟩ := barred.begun
    obtain ⟨sentThen, sameThen, begunThen⟩ := rule.begins_of_stream
    refine ⟨sent ++ sentThen, ?_, ?_⟩
    · rw [records, sameThen, ← List.append_assoc, ← same]
      rfl
    · intro inside
      rcases List.mem_append.mp inside with inside | inside
      · exact begun inside
      · exact barred.begins (begunThen inside)
  | observe | pass | take => exact quiet rfl rfl

theorem Barred.letGo (barred : Barred coordinator next goal) (other : Goal.Id) :
    Barred coordinator (next.letGo other) goal := by
  obtain ⟨progress, changed⟩ := letGo_eq next other
  rw [changed]
  exact ⟨barred.notPassed, barred.raised, barred.begins, barred.begun⟩

/-- When an update has moved the arm away from `running` and has answered, and as long as the arm is
not running, the executor is not told to follow the points of a goal that was not on the way to the
slot when the state was written, unless the worker was about to tell it when the update answered. -/
theorem safetyStop_of_update {config : Config} {context : Context Unit}
    {writing stopping returned later : ArmLink.Coordinator} {index : Nat} {state : RobotState}
    {answer : Answer} {goal : Goal.Id} (started : start config context = .ok first)
    (run : Reachable first writing) (stands : (writing.clientAt index).place = .exchanging state)
    (notRunning : state ≠ .running) (changes : writing.memory.context.robotState ≠ some state)
    (wrote : writing.step (.client index) = some stopping)
    (stopped : ReachableStopped stopping returned)
    (answered : returned.answer? index = some answer) (notPassed : ¬ Passed stopping goal)
    (stillStopped : ReachableStopped returned later) : BegunBefore returned later goal := by
  have runStopping : Reachable first stopping := .step _ run wrote
  have warned : Warned returned index goal := by
    refine stopped.induct (motive := fun later => Warned later index goal)
      (warned_of_update started run stands notRunning changes wrote notPassed) ?_
      (fun _ other warned => warned.letGo other)
    intro between next middle stopped warned turn
    exact warned.turn (slot_of_reachable started (runStopping.trans middle)) stopped turn
  have raised : returned.memory.current = some goal → returned.memory.interrupt = true := by
    rcases warned.raised with deciding | raised
    · rw [(done_of_answer? answered).2] at deciding
      cases deciding
    · exact raised
  have runReturned := runStopping.trans stopped.reachable
  have barred : Barred returned later goal := by
    refine stillStopped.induct (motive := fun later => Barred returned later goal)
      ⟨warned.notPassed, raised, id, [], (List.append_nil _).symm, fun inside => nomatch inside⟩ ?_
      (fun _ other barred => barred.letGo other)
    intro between next middle stopped barred turn
    exact barred.turn (slot_of_reachable started (runReturned.trans middle)) stopped turn
  exact barred.begun

instance (coordinator : ArmLink.Coordinator) : Decidable (MayRun coordinator) :=
  inferInstanceAs (Decidable (_ = _))

theorem ReachableStopped.trans {last : ArmLink.Coordinator} (before : ReachableStopped first next)
    (after : ReachableStopped next last) : ReachableStopped first last := by
  induction after with
  | refl => exact before
  | step move _ moved stopped ih => exact .step move ih moved stopped

/-- What a coordinator comes to by some moves, if all of them can be made and none brings the arm to
running. -/
def playStopped (coordinator : ArmLink.Coordinator) (moves : List Move) :
    Option ArmLink.Coordinator :=
  moves.foldlM (fun between move => (between.step move).filter fun next => !decide (MayRun next))
    coordinator

theorem ReachableStopped.of_play {moves : List Move} : ∀ {first : ArmLink.Coordinator},
    ¬ MayRun first → first.playStopped moves = some coordinator →
      ReachableStopped first coordinator := by
  induction moves with
  | nil =>
    intro first stopped played
    cases played
    exact .refl stopped
  | cons move moves ih =>
    intro first stopped played
    obtain ⟨between, moved, rest⟩ := Option.bind_eq_some_iff.mp played
    obtain ⟨moved, stillStopped⟩ := Option.filter_eq_some_iff.mp moved
    have stillStopped : ¬ MayRun between := by simpa using stillStopped
    exact .trans (.step move (.refl stopped) moved stillStopped) (ih stillStopped rest)

/-- A goal that has passed the checks when the arm is stopped is followed all the same: whoever
stops the arm finds no goal yet. -/
theorem streamed_after_update : ∃ first submitting writing stopping returned later,
    start (plainConfig 1.0) readyContext = .ok first ∧ Reachable first submitting ∧
    submitting.clients.length = 1 ∧
    submitting.step (.call (.updateState .protectiveStopped)) = some writing ∧
    writing.step (.client 1) = some stopping ∧ ReachableStopped stopping returned ∧
    returned.answer? 1 = some (.updated true) ∧ returned.worker.place.rest = [] ∧
    returned.records 1 = [] ∧ ReachableStopped returned later ∧ later.records 1 = [.stream] := by
  obtain ⟨submitting, run, one, steps⟩ := exists_reachable (plain 1.0)
    (fun last => last.clients.length = 1 ∧
      (last.step (.call (.updateState .protectiveStopped))).any fun writing =>
        (writing.step (.client 1)).any fun stopping => decide (¬ MayRun stopping) &&
          (stopping.playStopped (clientSteps 1 1)).any fun returned =>
            decide (¬ MayRun returned ∧ returned.answer? 1 = some (.updated true) ∧
              returned.worker.place.rest = [] ∧ returned.records 1 = []) &&
            (returned.playStopped (clientSteps 0 13 ++ workerSteps 10 ++
              [.worker (.result (.ok ()))] ++ workerSteps 2)).any fun later =>
                decide (later.records 1 = [.stream]))
    ([.call (.submit zeroGoal)] ++ clientSteps 0 2) (by decide +kernel)
  obtain ⟨writing, called, steps⟩ := (Option.any_eq_true _ _).mp steps
  obtain ⟨stopping, wrote, steps⟩ := (Option.any_eq_true _ _).mp steps
  obtain ⟨stopped, steps⟩ := (Bool.and_eq_true _ _).mp steps
  obtain ⟨returned, played, steps⟩ := (Option.any_eq_true _ _).mp steps
  obtain ⟨facts, steps⟩ := (Bool.and_eq_true _ _).mp steps
  obtain ⟨stillStopped, answered, notBegun, nothing⟩ := of_decide_eq_true facts
  obtain ⟨later, playedThen, streamed⟩ := (Option.any_eq_true _ _).mp steps
  exact ⟨_, submitting, writing, stopping, returned, later, start_plain 1.0, run, one, called,
    wrote, .of_play (of_decide_eq_true stopped) played, answered, notBegun, nothing,
    .of_play stillStopped playedThen, of_decide_eq_true streamed⟩

end ArmLink.Coordinator
