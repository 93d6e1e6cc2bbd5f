import ArmLink.Proofs.Coordinator.Waiting
import Mathlib.Algebra.Order.BigOperators.Group.Finset

/-!
Every call can return.

A call has a number of steps before it (`Client.remaining`), which every step of its own makes
smaller and no step of another changes.  So has the worker, until it is asked for a new goal, if the
executor answers and time passes for it (`Worker.remaining`, `exists_steps_of_worker`).  As long as
a call has not returned, at the end of the chain of waiting that begins with it there is a thread
that can make a step.  This is a call, or a worker that holds a lock or is to end (`Awaits.ends`),
so that one of the numbers becomes smaller (`exists_round`).

The main statement, `deadlockFree_of_reachable`, has this next to the order of the locks and to what
follows from it for those who wait.
-/

namespace ArmLink.Coordinator

open Goal Link Motion Telemetry

/-! ### The remaining steps of a call -/

/-- How many steps remain of giving an outcome. -/
def Finishing.remaining : Finishing → Nat
  | .mark .. => 2
  | .send .. => 1

@[simp] def Submitting.remaining : Submitting → Nat
  | .askAlive .. => 18
  | .askState .. => 17
  | .lockOld _ => 16
  | .readOld _ => 15
  | .flagOld .. => 14
  | .interruptOld .. => 13
  | .unlockOld .. => 12
  | .lockExec .. => 11
  | .settle _ => 10
  | .lockCurrent _ => 9
  | .install _ => 8
  | .unlockCurrent _ => 7
  | .lowerFlag _ => 6
  | .raiseGoal _ => 5
  | .lockPending _ => 4
  | .enqueue _ => 3
  | .unlockPending _ => 2
  | .unlockExec _ => 1

@[simp] def Canceling.remaining : Canceling → Nat
  | .lockCurrent _ => 11
  | .read _ => 10
  | .flag _ => 9
  | .interrupt _ => 8
  | .unlockCurrent .. => 7
  | .lockExec _ => 6
  | .relock _ => 5
  | .vacate .. => 4
  | .lowerGoal .. => 3
  | .reunlock .. => 2
  | .unlockExec .. => 1

@[simp] def Stopping.remaining : Stopping → Nat
  | .loadGoal => 7
  | .loadFlag => 6
  | .swapFlag => 5
  | .interrupt => 4
  | .lockCurrent => 3
  | .read => 2
  | .unlockCurrent _ => 1

@[simp] def Closing.remaining : Closing → Nat
  | .lowerRunning => 11
  | .raiseFlag => 10
  | .interrupt => 9
  | .join => 8
  | .lockPending => 7
  | .takePending => 6
  | .unlockPending _ => 5
  | .lockCurrent => 4
  | .takeCurrent => 3
  | .unlockCurrent _ => 2
  | .lowerGoal => 1

@[simp] def ClientPlace.remaining : ClientPlace → Nat
  | .submitting place => place.remaining
  | .canceling place => place.remaining
  | .exchanging _ => 8
  | .stopping place _ => place.remaining
  | .closing place => place.remaining
  | .done _ => 0

/-- A bound on the remaining steps of a thread that has so many before it by its place: between two
of them it may have to give an outcome. -/
def Thread.remaining {π : Type} (thread : Thread π) (before : Nat) : Nat :=
  3 * before + (thread.finishing.map Finishing.remaining).getD 0

/-- A bound on the remaining steps of a call. -/
def Client.remaining (client : Client) : Nat := Thread.remaining client client.place.remaining

section Clients

variable {π : Type} {workerEnded : Bool} {actor : Actor} {client client' : Client}
  {memory memory' : Memory} {count before : Nat}

theorem Thread.remaining_goto {thread : Thread π} {place : π} (free : thread.finishing = none)
    (less : count < before) : (thread.goto place).remaining count < 3 * before := by
  simp only [Thread.remaining, Thread.goto, free, Option.map_none, Option.getD_none]
  omega

theorem Thread.remaining_finish {thread : Thread π} {goal : Goal.Id} {outcome : Outcome}
    {place : π} (less : count < before) :
    (thread.finish goal outcome place).remaining count < 3 * before := by
  simp only [Thread.remaining, Thread.finish, Option.map_some, Option.getD_some,
    Finishing.remaining]
  omega

theorem Thread.remaining_finishIf {thread : Thread π} {goal : Option Goal.Id} {outcome : Outcome}
    {place : π} (free : thread.finishing = none) (less : count < before) :
    (thread.finishIf goal outcome place).remaining count < 3 * before := by
  cases goal with
  | none => exact Thread.remaining_goto free less
  | some goal => exact Thread.remaining_finish less

theorem Thread.remaining_of_free {thread : Thread π} (free : thread.finishing = none) :
    thread.remaining before = 3 * before := by
  rw [Thread.remaining, free]
  rfl

theorem FinishRule.remaining_lt {thread thread' : Thread π}
    (rule : FinishRule thread memory thread' memory') :
    thread'.remaining before < thread.remaining before := by
  cases rule with
  | mark finishing => simp [Thread.remaining, finishing, Finishing.remaining]
  | late finishing => simp [Thread.remaining, finishing, Finishing.remaining]
  | send finishing => simp [Thread.remaining, finishing, Finishing.remaining]

theorem ClientRule.remaining_lt
    (rule : ClientRule workerEnded actor client memory client' memory') :
    client'.remaining < client.remaining := by
  cases rule with
  | finish rule =>
    rw [Client.remaining, Client.remaining, rule.place_eq]
    exact rule.remaining_lt
  | submit free stands rule =>
    rw [Client.remaining, Client.remaining, stands, Thread.remaining_of_free free]
    cases rule with
    | notAlive | invalid => exact Thread.remaining_finish (by simp)
    | unlockOld | install =>
      rw [finishIf_place]
      exact Thread.remaining_finishIf free (by simp)
    | @lockExec job superseded => cases superseded <;> exact Thread.remaining_goto free (by simp)
    | _ => exact Thread.remaining_goto free (by simp)
  | cancel free stands rule =>
    rw [Client.remaining, Client.remaining, stands, Thread.remaining_of_free free]
    cases rule with
    | lockExec => exact Thread.remaining_finish (by simp)
    | _ => exact Thread.remaining_goto free (by simp)
  | @exchange state free stands =>
    rw [Client.remaining, Client.remaining, stands, Thread.remaining_of_free free, goto_place]
    obtain ⟨answer, told | told⟩ := told_cases (memory.context.exchangeState state).1 state
    · rw [told]; exact Thread.remaining_goto free (by simp)
    · rw [told]; exact Thread.remaining_goto free (by simp)
  | stop free stands rule =>
    rw [Client.remaining, Client.remaining, stands, Thread.remaining_of_free free]
    cases rule with
    | read =>
      rw [finishIf_place]
      exact Thread.remaining_finishIf free (by simp)
    | _ => exact Thread.remaining_goto free (by simp)
  | close free stands rule =>
    rw [Client.remaining, Client.remaining, stands, Thread.remaining_of_free free]
    cases rule with
    | takePending | takeCurrent =>
      rw [finishIf_place]
      exact Thread.remaining_finishIf free (by simp)
    | _ => exact Thread.remaining_goto free (by simp)

end Clients

/-! ### The remaining steps of the worker -/

/-- How many places there are at most before the worker looks whether it is to end. -/
@[simp] def WorkerPlace.remaining : WorkerPlace → Nat
  | .lockPending => 26
  | .look => 25
  | .sleep => 24
  | .sleeping => 23
  | .lookAgain => 22
  | .unlockPending _ => 21
  | .lockExec _ => 20
  | .checkFinished _ => 19
  | .checkAccept _ => 18
  | .sendAccepted _ => 17
  | .startPoint _ => 16
  | .start _ | .monitor .. => 15
  | .starting _ | .graceFlag .. => 14
  | .checkFlag _ | .graceClock .. => 13
  | .beginStream _ | .pollFlag .. => 12
  | .sending .. | .pollJoints .. => 11
  | .streaming .. | .holding _ | .timedCheck _ | .pollClock .. => 10
  | .stop .. => 9
  | .hang .. => 8
  | .checkClosing _ => 7
  | .lockCurrent _ => 6
  | .vacate _ => 5
  | .lowerGoal _ => 4
  | .unlockCurrent _ => 3
  | .unlockExec _ => 2
  | .checkRunning => 1
  | .ended | .dead => 0

/-- A bound on the remaining steps of the worker until it looks whether it is to end. -/
def Worker.remaining (worker : Worker) : Nat := Thread.remaining worker worker.place.remaining

/-- What the executor answers so that the worker goes on to the end of its goal. -/
def WorkerPlace.answer : WorkerPlace → Choice
  | .starting _ | .sending .. | .holding _ => .result (.ok ())
  | .streaming .. => .returned (.ok .interrupted)
  | _ => .goOn

theorem WorkerPlace.answers_answer (place : WorkerPlace) : place.Answers place.answer := by
  cases place with
  | starting | sending | holding => exact ⟨_, rfl⟩
  | streaming => exact .inr ⟨_, rfl⟩
  | _ => trivial

/-- The time that the worker waits for. -/
def WorkerPlace.due : WorkerPlace → Duration
  | .graceClock _ watch => watch.graceEnd
  | .pollClock _ watch => watch.deadline
  | _ => .zero

section Work

variable {worker worker' : Worker} {memory memory' : Memory}

/-- A worker that is not at the beginning, or is to end, comes nearer to its end with every step, if
the executor answers and the time is due. -/
theorem Worker.remaining_lt
    (step : worker.step worker.place.answer memory = some (worker', memory'))
    (ends : worker.place = .checkRunning → memory.running = false)
    (due : worker.place.due ≤ memory.clock) : worker'.remaining < worker.remaining := by
  obtain ⟨place, finishing, first⟩ := worker
  cases finishing with
  | some finishing =>
    have rule := finishRule_of_finishStep rfl (Option.some.inj step)
    rw [Worker.remaining, Worker.remaining, rule.place_eq]
    exact rule.remaining_lt
  | none =>
    have free : ({ place, finishing := none, first } : Worker).finishing = none := rfl
    rw [Worker.remaining, Worker.remaining, Thread.remaining_of_free free]
    cases place with
    | lockPending | sleeping | lockExec | lockCurrent =>
      obtain ⟨-, result⟩ := map_acquire_eq_some step
      cases result
      exact Thread.remaining_goto free (by simp)
    | checkRunning =>
      have notRunning := ends rfl
      cases step
      exact Thread.remaining_goto free (by simp [notRunning])
    | look | vacate =>
      simp only [Worker.step, Worker.takeStep, Worker.endStep] at step
      split at step <;> cases step <;> exact Thread.remaining_goto free (by simp)
    | unlockPending job => cases job <;> cases step <;> exact Thread.remaining_goto free (by simp)
    | stop job hang => cases hang <;> cases step <;> exact Thread.remaining_goto free (by simp)
    | startPoint =>
      simp only [Worker.step, Worker.beginStep] at step
      split at step <;> cases step
      · exact Thread.remaining_goto free (by simp)
      · exact Thread.remaining_finish (by simp)
    | monitor =>
      simp only [Worker.step, Worker.watchStep] at step
      split at step <;> cases step <;> exact Thread.remaining_goto free (by simp)
    | checkFinished | checkAccept | checkFlag | graceFlag | pollFlag =>
      cases step
      refine Thread.remaining_goto free ?_
      rw [goto_place]
      split <;> simp
    | timedCheck | pollJoints | checkClosing =>
      cases step
      split
      · first
          | exact Thread.remaining_goto free (by simp)
          | exact Thread.remaining_finish (by simp)
      · first
          | exact Thread.remaining_goto free (by simp)
          | exact Thread.remaining_finish (by simp)
    | graceClock job monitor =>
      have due : monitor.graceEnd ≤ memory.clock := due
      have passed : ¬ memory.clock < monitor.graceEnd := Nat.not_lt_of_le due
      cases step
      rw [if_neg passed]
      exact Thread.remaining_goto free (by simp)
    | pollClock job monitor =>
      have passed : monitor.deadline ≤ memory.clock := due
      cases step
      rw [if_pos passed]
      exact Thread.remaining_finish (by simp)
    | streaming | holding =>
      cases step
      exact Thread.remaining_goto free (by simp [Worker.afterStream])
    | ended | dead => cases step
    | _ =>
      cases step
      exact Thread.remaining_goto free (by simp)

end Work

/-! ### One who shuts down lets the worker end -/

section Steps

variable {workerEnded : Bool} {actor : Actor} {client client' : Client} {worker worker' : Worker}
  {memory memory' : Memory}

/-- A client does not make the worker go on. -/
theorem ClientRule.notRunning (rule : ClientRule workerEnded actor client memory client' memory')
    (notRunning : memory.running = false) : memory'.running = false := by
  cases rule with
  | finish rule =>
    obtain ⟨progress, rfl⟩ := rule.memory_eq
    exact notRunning
  | exchange => exact notRunning
  | submit _ _ rule => cases rule <;> exact notRunning
  | cancel _ _ rule => cases rule <;> exact notRunning
  | stop _ _ rule => cases rule <;> exact notRunning
  | close _ _ rule => cases rule <;> first | rfl | exact notRunning

/-- Who shuts down makes the worker end first. -/
theorem ClientRule.halts (rule : ClientRule workerEnded actor client memory client' memory')
    {place : Closing} (closing : client'.place = .closing place) (begun : place ≠ .lowerRunning)
    (halted : ∀ before, client.place = .closing before → before ≠ .lowerRunning →
      memory.running = false) : memory'.running = false := by
  obtain ⟨before, stood, -⟩ := rule.closing closing
  by_cases first : before = .lowerRunning
  · subst first
    cases rule with
    | finish rule =>
      cases (rule.place_eq ▸ closing).symm.trans stood
      exact absurd rfl begun
    | close _ stands rule =>
      cases stands.symm.trans stood
      cases rule
      rfl
    | submit _ stands | cancel _ stands | stop _ stands => cases stands.symm.trans stood
    | exchange _ stands => cases stands.symm.trans stood
  · exact rule.notRunning (halted before stood first)

theorem WorkerRule.running_eq (rule : WorkerRule worker memory worker' memory') :
    memory'.running = memory.running := by
  cases rule with
  | finish rule =>
    obtain ⟨progress, rfl⟩ := rule.memory_eq
    rfl
  | work _ rule =>
    generalize worker.place = place at rule
    cases rule <;> rfl

end Steps

variable {coordinator next first : ArmLink.Coordinator} {index : Nat}

/-- Whether the worker is to end once somebody has begun to shut the coordinator down. -/
def Halted (coordinator : ArmLink.Coordinator) : Prop :=
  ∀ index place, (coordinator.clientAt index).place = .closing place → place ≠ .lowerRunning →
    coordinator.memory.running = false

theorem Halted.turn (halted : Halted coordinator) (turn : Turn coordinator next) :
    Halted next := by
  intro index place closing begun
  cases turn with
  | call opening =>
    rw [clientAt_opened] at closing
    split at closing
    · cases opening with
      | tellState =>
        unfold ClientPlace.told at closing
        split at closing <;> cases closing
      | shutDown =>
        cases closing
        exact absurd rfl begun
      | _ => cases closing
    · obtain ⟨nextId, -, rfl⟩ := opening.memory_eq
      exact halted index place closing begun
  | client mover inside step =>
    have rule := clientRule_of_step step
    rw [clientAt_withClient inside] at closing
    split at closing
    · exact rule.halts closing begun (halted mover)
    · exact rule.notRunning (halted index place closing begun)
  | worker choice step =>
    exact (workerRule_of_step step).running_eq.trans (halted index place closing begun)
  | observe | pass | take => exact halted index place closing begun

theorem halted_of_reachable {config : Config} {context : Context Unit}
    (started : start config context = .ok first) (run : Reachable first coordinator) :
    Halted coordinator := by
  refine run.induct ?_ (fun _ _ _ halted => halted.turn) ?_
  · rw [eq_of_start started]
    intro index place closing
    simp [clientAt, idle] at closing
  · intro later goal _ halted
    obtain ⟨progress, changed⟩ := letGo_eq later goal
    rw [changed]
    exact halted

/-- A worker that somebody waits for is not at the beginning, or is to end. -/
theorem Awaits.ends {actor : Actor} (guarded : Guarded coordinator) (halted : Halted coordinator)
    (awaits : Awaits coordinator actor .worker)
    (stands : coordinator.worker.place = .checkRunning) : coordinator.memory.running = false := by
  cases awaits with
  | @lock _ taken _ held =>
    have holds := (guarded taken .worker).mp held
    rw [locksOf, stands] at holds
    cases holds
  | join joins working =>
    cases actor with
    | worker => cases joins
    | client index =>
      rw [joinsOf, Bool.and_eq_true] at joins
      obtain ⟨-, joins⟩ := joins
      unfold ClientPlace.joins at joins
      split at joins
      · rename_i closing
        exact halted index .join closing (by simp)
      · cases joins

/-! ### The remaining steps of all calls -/

/-- A bound on the remaining steps of the calls under way and of the goal that is executed. -/
def remaining (coordinator : ArmLink.Coordinator) : Nat :=
  ∑ index ∈ Finset.range coordinator.clients.length, (coordinator.clientAt index).remaining +
    coordinator.worker.remaining

@[simp] theorem collect_remaining : coordinator.collect.remaining = coordinator.remaining := by
  obtain ⟨progress, changed⟩ := collect_eq coordinator
  rw [changed]
  rfl

@[simp] theorem collect_clients : coordinator.collect.clients = coordinator.clients := by
  obtain ⟨progress, changed⟩ := collect_eq coordinator
  rw [changed]

theorem remaining_withClient_lt {client : Client} {memory : Memory}
    (inside : index < coordinator.clients.length)
    (less : client.remaining < (coordinator.clientAt index).remaining) :
    (coordinator.withClient index client memory).remaining < coordinator.remaining := by
  have count : (coordinator.withClient index client memory).clients.length =
      coordinator.clients.length := List.length_set
  rw [remaining, remaining, count]
  refine Nat.add_lt_add_right (Finset.sum_lt_sum ?_ ⟨index, Finset.mem_range.mpr inside, ?_⟩) _
  · intro other _
    rw [clientAt_withClient inside]
    split
    · rename_i same
      rw [same]
      exact Nat.le_of_lt less
    · exact Nat.le_refl _
  · rw [clientAt_withClient_self inside]
    exact less

theorem play_cons {move : Move} {moves : List Move} (moved : first.step move = some next)
    (goesOn : next.play moves = some coordinator) :
    first.play (move :: moves) = some coordinator := by
  rw [play, List.foldlM_cons]
  exact Option.bind_eq_some_iff.mpr ⟨next, moved, goesOn⟩

theorem play_append {moves more : List Move} (played : first.play moves = some next)
    (goesOn : next.play more = some coordinator) :
    first.play (moves ++ more) = some coordinator := by
  rw [play, List.foldlM_append]
  exact Option.bind_eq_some_iff.mpr ⟨next, played, goesOn⟩

theorem exists_step_of_client (can : CanStep coordinator (.client index)) :
    ∃ later, coordinator.step (.client index) = some later ∧
      later.clients.length = coordinator.clients.length ∧
      later.remaining < coordinator.remaining := by
  obtain ⟨later, moved⟩ := can .goOn (fun same => by cases same)
  obtain ⟨client, memory, inside, step, rfl⟩ := client_of_step moved
  refine ⟨_, moved, ?_, ?_⟩
  · rw [collect_clients]
    exact List.length_set
  · rw [collect_remaining]
    exact remaining_withClient_lt inside (clientRule_of_step step).remaining_lt

theorem exists_pass (coordinator : ArmLink.Coordinator) (span : Duration) :
    ∃ passed, coordinator.step (.pass span) = some passed ∧ ∃ progress context,
      passed = { coordinator with memory := { coordinator.memory with
        clock := coordinator.memory.clock.plus span, context, progress } } := by
  obtain ⟨progress, changed⟩ := collect_eq { coordinator with memory := { coordinator.memory with
    clock := coordinator.memory.clock.plus span
    context := coordinator.memory.context.advance (span.nanos / 1000) } }
  exact ⟨_, congrArg some changed, progress, _, rfl⟩

/-- The worker makes a step when what it waits for is due and the executor answers. -/
theorem exists_steps_of_worker (unfinished : IsUnfinished coordinator .worker)
    (unblocked : ∀ other, ¬ Awaits coordinator .worker other)
    (ends : coordinator.worker.place = .checkRunning → coordinator.memory.running = false) :
    ∃ later, coordinator.play [.pass coordinator.worker.place.due,
        .worker coordinator.worker.place.answer] = some later ∧
      later.clients.length = coordinator.clients.length ∧
      later.remaining < coordinator.remaining := by
  obtain ⟨passed, moved, progress, context, passes⟩ :=
    exists_pass coordinator coordinator.worker.place.due
  have can : CanStep passed .worker := by
    have busy : IsUnfinished passed .worker := by rwa [passes]
    apply canStep_of_unblocked busy
    intro other awaits
    subst passes
    cases awaits with
    | lock wants held => exact unblocked other (.lock wants held)
    | join joins => cases joins
  have same : passed.worker = coordinator.worker := by rw [passes]
  obtain ⟨later, goesOn⟩ := can coordinator.worker.place.answer fun _ => by
    rw [same]
    exact WorkerPlace.answers_answer _
  obtain ⟨worker, memory, step, changed⟩ := worker_of_step goesOn
  have less : worker.remaining < coordinator.worker.remaining := by
    subst passes
    exact coordinator.worker.remaining_lt step ends (Nat.le_add_left _ _)
  refine ⟨later, play_cons moved (play_cons goesOn rfl), ?_, ?_⟩
  · rw [changed, collect_clients, passes]
  · rw [changed, collect_remaining, passes]
    exact Nat.add_lt_add_left less _

/-! ### All calls return -/

/-- Whether a move is one of a thread, or of time. -/
def Move.isWork : Move → Bool
  | .client _ | .worker _ | .pass _ => true
  | .call _ | .observe _ | .take _ => false

/-- As long as a call has not returned, something is done that there was to do. -/
theorem exists_round (guarded : Guarded coordinator) (halted : Halted coordinator)
    (unfinished : IsUnfinished coordinator (.client index)) :
    ∃ moves later, (∀ move ∈ moves, move.isWork = true) ∧ coordinator.play moves = some later ∧
      later.clients.length = coordinator.clients.length ∧
      later.remaining < coordinator.remaining := by
  obtain ⟨last, chain, unfinished, unblocked⟩ := exists_unblocked guarded unfinished
  cases last with
  | client other =>
    obtain ⟨later, moved, rest⟩ := exists_step_of_client (canStep_of_unblocked unfinished unblocked)
    exact ⟨[.client other], later, by simp [Move.isWork], play_cons moved rfl, rest⟩
  | worker =>
    obtain ⟨previous, -, awaits⟩ : ∃ previous,
        Relation.ReflTransGen (Awaits coordinator) (.client index) previous ∧
          Awaits coordinator previous .worker := by
      rcases chain.cases_tail with same | last
      · cases same
      · exact last
    obtain ⟨later, played, rest⟩ :=
      exists_steps_of_worker unfinished unblocked (awaits.ends guarded halted)
    exact ⟨_, later, by simp [Move.isWork], played, rest⟩

theorem returns_of_reachable {config : Config} {context : Context Unit}
    (started : start config context = .ok first) (run : Reachable first coordinator) :
    ∃ moves later, (∀ move ∈ moves, move.isWork = true) ∧ coordinator.play moves = some later ∧
      ∀ index < coordinator.clients.length, ∃ answer, later.answer? index = some answer := by
  induction size : coordinator.remaining using Nat.strong_induction_on generalizing coordinator with
  | _ bound ih =>
    by_cases more : ∃ index, IsUnfinished coordinator (.client index)
    · obtain ⟨index, unfinished⟩ := more
      obtain ⟨moves, between, work, played, count, less⟩ :=
        exists_round (guarded_of_reachable started run) (halted_of_reachable started run) unfinished
      obtain ⟨more, later, workToo, goesOn, answered⟩ :=
        ih between.remaining (size ▸ less) (run.trans (.of_play played)) rfl
      refine ⟨moves ++ more, later, ?_, play_append played goesOn, count ▸ answered⟩
      intro move inside
      rcases List.mem_append.mp inside with before | after
      · exact work move before
      · exact workToo move after
    · refine ⟨[], coordinator, by simp, rfl, ?_⟩
      intro index inside
      cases answered : coordinator.answer? index with
      | none => exact absurd ⟨index, inside, answered⟩ more
      | some answer => exact ⟨answer, rfl⟩

/-! ### No deadlock -/

/-- The locks do not keep the calls from returning.  The lock of the list of listeners is not among
them: those who tell the listeners something take it for reading only, so nobody waits for it. -/
structure DeadlockFree (coordinator : ArmLink.Coordinator) : Prop where
  /-- Who waits for a lock holds `exec` at most, and does not wait for `exec` then. -/
  order : ∀ {actor lock held}, coordinator.wantsOf actor = some lock →
    coordinator.memory.owner held = some actor → held = .exec ∧ lock ≠ .exec
  /-- Threads do not wait for each other. -/
  noCircle : ∀ {actors : Set Actor}, actors.Nonempty →
    ¬ ∀ actor ∈ actors, ∃ other ∈ actors, Awaits coordinator actor other
  /-- Waiting is all that keeps a thread from making a step. -/
  stuck : ∀ {actor}, IsUnfinished coordinator actor → ¬ CanStep coordinator actor →
    ∃ other, Awaits coordinator actor other
  /-- Behind everyone who waits there is a thread that can make a step. -/
  progress : ∀ {actor}, IsUnfinished coordinator actor →
    ∃ other, Relation.ReflTransGen (Awaits coordinator) actor other ∧ CanStep coordinator other
  /-- All calls under way can return. -/
  returns : ∃ moves later, (∀ move ∈ moves, move.isWork = true) ∧
    coordinator.play moves = some later ∧
    ∀ index < coordinator.clients.length, ∃ answer, later.answer? index = some answer

/-- In every run, the locks do not keep the calls from returning. -/
theorem deadlockFree_of_reachable {config : Config} {context : Context Unit}
    (started : start config context = .ok first) (run : Reachable first coordinator) :
    DeadlockFree coordinator := by
  have guarded := guarded_of_reachable started run
  constructor
  · intro actor lock held wants holds
    exact order_of_wants wants ((guarded held actor).mp holds)
  · exact not_circle guarded
  · intro actor unfinished cannot
    by_contra nobody
    exact cannot (canStep_of_unblocked unfinished fun other awaits => nobody ⟨other, awaits⟩)
  · intro actor unfinished
    obtain ⟨other, chain, rest, unblocked⟩ := exists_unblocked guarded unfinished
    exact ⟨other, chain, canStep_of_unblocked rest unblocked⟩
  · exact returns_of_reachable started run

/-- The statement while a canceller and a submitter wait for the worker. -/
theorem deadlockFree_waiting : ∃ first coordinator,
    start (plainConfig 1.0) readyContext = .ok first ∧ Reachable first coordinator ∧
    Awaits coordinator (.client 1) .worker ∧ Awaits coordinator (.client 2) .worker ∧
    DeadlockFree coordinator := by
  obtain ⟨coordinator, run, held, canceller, submitter⟩ := exists_reachable (plain 1.0)
    (fun last => last.memory.owner .exec = some .worker ∧
      last.wantsOf (.client 1) = some .exec ∧ last.wantsOf (.client 2) = some .exec)
    (untilStream zeroGoal ++ [.call (.cancel 1)] ++ clientSteps 1 5 ++
      [.call (.submit zeroGoal)] ++ clientSteps 2 9)
    (by decide +kernel)
  exact ⟨_, coordinator, start_plain 1.0, run, .lock canceller held, .lock submitter held,
    deadlockFree_of_reachable (start_plain 1.0) run⟩

end ArmLink.Coordinator
