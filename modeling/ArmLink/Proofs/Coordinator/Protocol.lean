import ArmLink.Proofs.Coordinator.Reports
import ArmLink.Proofs.Coordinator.Telling

/-!
What is asked of the executor for one goal.

In every run the reports of a goal are where the worker stands in the grammar (`Conducted`).  So
while a goal is executed they are the beginning of a whole execution, and afterwards they are a
whole execution, unless the worker broke down.  Before the one who handles hangs is called, the
outcome of the goal is decided (`Alarmed`), and a goal succeeds only when its points were followed
to their end (`Earned`).  The main statement is `protocol_of_recorded`.

A worker that breaks down leaves the executor unstopped for good (`never_stopped_longGoal`).
-/

namespace ArmLink.Coordinator

open Goal Link Motion Telemetry

/-- The reports of one goal. -/
def reportsOf (reports : List Report) (goal : Goal.Id) : List Report :=
  reports.filter fun report => report.goal? == some goal

theorem reportsOf_append (reports more : List Report) (goal : Goal.Id) :
    reportsOf (reports ++ more) goal = reportsOf reports goal ++ reportsOf more goal :=
  List.filter_append ..

theorem reportsOf_eq_self {reports : List Report} {goal : Goal.Id}
    (all : ∀ report ∈ reports, report.goal? = some goal) : reportsOf reports goal = reports :=
  List.filter_eq_self.mpr fun report there => by simp [all report there]

theorem reportsOf_eq_nil {reports : List Report} {goal : Goal.Id}
    (none : ∀ report ∈ reports, report.goal? ≠ some goal) : reportsOf reports goal = [] :=
  List.filter_eq_nil_iff.mpr fun report there => by simp [none report there]

theorem mem_of_mem_reportsOf {reports : List Report} {goal : Goal.Id} {report : Report}
    (there : report ∈ reportsOf reports goal) : report ∈ reports :=
  (List.mem_filter.mp there).1

/-! ### The grammar along a run -/

section Steps

variable {config : Config} {worker worker' : Worker} {memory memory' : Memory} {goal : Goal.Id}
  {place : WorkerPlace} {reports : List Report} {job : Job}

/-- A job comes to the worker's hand unlooked at. -/
theorem WorkerRule.waiting_of_taken (rule : WorkerRule worker memory worker' memory')
    (empty : worker.place.goal? ≠ some goal) (taken : worker'.place.goal? = some goal) :
    worker'.place.waiting = some goal := by
  cases rule with
  | finish rule =>
    rw [rule.place_eq] at taken
    exact absurd taken empty
  | work _ rule =>
    generalize worker.place = place at rule empty
    cases rule with
    | look found => exact taken
    | lookAgain => exact taken
    | returned | notSent | held | notHeld => exact absurd (afterStream_goal?.symm.trans taken) empty
    | watch watching goesOn =>
      rw [goal?_of_watched watching] at empty
      rcases goesOn with goesOn | rfl
      · exact absurd ((goal?_of_watched goesOn).symm.trans taken) empty
      · exact absurd taken empty
    | judge watching => exact absurd ((goal?_of_watched watching).trans taken) empty
    | @stop job hang => cases hang <;> exact absurd taken empty
    | goOn | quit | lockPending | lookInVain | sleep | wake | tryAgain | unlockExec | breakDown =>
      cases taken
    | _ => exact absurd taken empty

theorem executing_of_beginning (begins : place.beginning = some job) :
    place.executing = some job := by
  cases place <;> first
    | exact begins
    | cases begins

theorem executing_of_following (follows : place.following = some job) :
    place.executing = some job := by
  cases place <;> first
    | exact follows
    | cases follows

theorem goal?_of_executing (executing : place.executing = some job) :
    place.goal? = some job.id := by
  cases place <;> cases executing <;> rfl

/-- What was reported of a goal that is not executed is whole. -/
theorem Stage.done_of_not_executing (stage : Stage config goal place reports)
    (notExecuting : ∀ job, place.executing = some job → job.id ≠ goal) :
    reports = [] ∨ Whole config.mode goal reports ∨
      (place = .dead ∧ ∃ points, BrokenDown config goal points reports) := by
  cases stage with
  | elsewhere _ done => exact done
  | waiting => exact .inl rfl
  | leaving _ whole => exact whole.imp_right .inl
  | watching watched => exact absurd rfl (notExecuting _ (executing_of_watched watched))
  | beginning begins => exact absurd rfl (notExecuting _ (executing_of_beginning begins))
  | following follows => exact absurd rfl (notExecuting _ (executing_of_following follows))
  | _ => exact absurd rfl (notExecuting _ rfl)

/-- A goal with reports is not waiting to be looked at. -/
theorem Stage.not_waiting (stage : Stage config goal place reports)
    (mine : place.goal? = some goal) (some : reports ≠ []) : place.waiting = none := by
  cases stage with
  | elsewhere apart => exact absurd mine apart
  | waiting => exact absurd rfl some
  | watching watched => exact waiting_of_executing (executing_of_watched watched)
  | beginning begins => exact waiting_of_executing (executing_of_beginning begins)
  | following follows => exact waiting_of_executing (executing_of_following follows)
  | leaving leaves => cases place <;> first | rfl | cases leaves
  | _ => rfl

/-- What was reported of a goal that is executed is the beginning of a whole execution. -/
theorem Stage.exists_whole (stage : Stage config job.id place reports)
    (executing : place.executing = some job) :
    reports ≠ [] ∧ ∃ rest, Whole config.mode job.id (reports ++ rest) := by
  generalize same : job.id = goal at stage
  cases stage with
  | elsewhere apart => exact absurd (same ▸ goal?_of_executing executing) apart
  | waiting waits => cases place <;> first | cases waits; done | cases executing
  | leaving leaves => cases place <;> first | cases leaves; done | cases executing
  | @beginning begun =>
    have prepared : Prepared begun.id [] [.begun begun.id, .looked begun.id none []] := .look rfl
    exact ⟨by simp, _, .notStarted prepared .notConnected⟩
  | @start begun _ prepared =>
    refine ⟨by cases prepared; simp,
      [.asked (.start begun.id), .started begun.id (.error .notConnected)], ?_⟩
    simpa using Whole.notStarted prepared .notConnected
  | starting prepared => exact ⟨by simp, _, .notStarted prepared .notConnected⟩
  | checkFlag started | beginStream started | flagged started =>
    exact ⟨by cases started; simp, _, .flagged started⟩
  | @following begun _ _ _ following =>
    have followed := Followed.answer following (.ok .interrupted)
    refine ⟨by cases following <;> simp,
      [.followed begun.id (.ok .interrupted), .asked (.stop begun.id)], ?_⟩
    simpa using Whole.stopped followed rfl
  | watching _ _ followed => exact ⟨by cases followed; simp, _, .stopped followed rfl⟩
  | stop followed calm => exact ⟨by cases followed <;> simp, _, .stopped followed calm⟩
  | @stopHung begun fault _ followed hang =>
    refine ⟨by cases followed; simp,
      [.asked (.stop begun.id), .asked (.hang begun.id fault)], ?_⟩
    simpa using Whole.hung followed hang
  | hang followed hang => exact ⟨by simp, _, .hung followed hang⟩

end Steps

/-- What holds of the reports of a goal in every run. -/
structure Conducted (config : Config) (coordinator : ArmLink.Coordinator) (goal : Goal.Id)
    (reports : List Report) : Prop where
  settings : coordinator.memory.config = config
  stage : Stage config goal coordinator.worker.place reports
  begun : reports ≠ [] → Begun coordinator goal

section Runs

variable {config : Config} {coordinator next first : ArmLink.Coordinator} {goal : Goal.Id}
  {reports : List Report}

/-- A move of anything but the worker has nothing to report. -/
theorem quiet_of_step {move : Move} (notWorker : ∀ choice, move ≠ .worker choice)
    (moved : coordinator.step move = some next) :
    next.worker = coordinator.worker ∧ next.memory.config = coordinator.memory.config ∧
      asked coordinator.memory.calls next.memory.calls ++ coordinator.report move = [] := by
  cases move with
  | worker choice => exact absurd rfl (notWorker choice)
  | call request =>
    obtain ⟨between, called, rfl⟩ := Option.map_eq_some_iff.mp moved
    obtain ⟨place, memory, isOpen, opening, rfl⟩ := opening_of_call called
    obtain ⟨nextId, -, rfl⟩ := opening.memory_eq
    obtain ⟨progress, changed⟩ := collect_eq (coordinator.opened place _ isOpen)
    rw [changed]
    exact ⟨rfl, rfl, by simp [opened, report]⟩
  | client index =>
    obtain ⟨client, memory, inside, step, rfl⟩ := client_of_step moved
    have rule := clientRule_of_step step
    obtain ⟨progress, changed⟩ := collect_eq (coordinator.withClient index client memory)
    rw [changed]
    refine ⟨rfl, rule.surroundings.1, ?_⟩
    rcases rule.calls with same | noted
    · simp [withClient, same, report]
    · simp [withClient, noted, report, Call.goal?]
  | observe observation | pass span | take goal =>
    cases moved
    obtain ⟨progress, changed⟩ := collect_eq _
    rw [changed]
    exact ⟨rfl, rfl, by simp [report, Memory.modify]⟩

theorem Begun.step {move : Move} (begun : Begun coordinator goal) (sorted : Sorted coordinator)
    (moved : coordinator.step move = some next) : Begun next goal := by
  obtain ⟨between, turn, rfl⟩ := turn_of_step moved
  exact collect_induct (motive := fun later => Begun later goal)
    (fun _ other _ begun => begun.letGo other) (begun.turn sorted turn)

theorem Conducted.worker (conducted : Conducted config coordinator goal reports)
    (sorted : Sorted coordinator) {choice : Choice} {worker : Worker} {memory : Memory}
    (step : coordinator.worker.step choice coordinator.memory = some (worker, memory)) :
    Conducted config { coordinator with memory, worker } goal (reports ++
      reportsOf (asked coordinator.memory.calls memory.calls ++
        coordinator.worker.report coordinator.memory choice) goal) := by
  obtain ⟨rfl, stage, begun⟩ := conducted
  have rule := workerRule_of_step step
  have settings : memory.config = coordinator.memory.config := rule.surroundings.1
  have concerns : ∀ report ∈ asked coordinator.memory.calls memory.calls ++
      coordinator.worker.report coordinator.memory choice,
      report.goal? = coordinator.worker.place.goal? := by
    intro report there
    rcases List.mem_append.mp there with isCall | isOther
    · exact rule.goal?_of_asked report isCall
    · exact goal?_of_report report isOther
  by_cases mine : coordinator.worker.place.goal? = some goal
  · rw [reportsOf_eq_self fun report there => (concerns report there).trans mine]
    have stageNow := stage.step mine step
    refine ⟨settings, stageNow, fun some => ?_⟩
    by_cases stays : worker.place.goal? = .some goal
    · exact .inl ⟨stays, stageNow.not_waiting stays some⟩
    · exact .inr (sorted.gone_of_dropped rule mine stays)
  · have others : ∀ report ∈ asked coordinator.memory.calls memory.calls ++
        coordinator.worker.report coordinator.memory choice, report.goal? ≠ some goal :=
      fun report there isGoal => mine ((concerns report there).symm.trans isGoal)
    rw [reportsOf_eq_nil others, List.append_nil]
    have begunNow : reports ≠ [] → Begun { coordinator with memory, worker } goal :=
      fun some => (begun some).turn sorted (.worker choice step)
    refine ⟨settings, ?_, begunNow⟩
    by_cases taken : worker.place.goal? = some goal
    · -- a goal with reports does not come back, so this one has none yet
      have waits := rule.waiting_of_taken mine taken
      have none : reports = [] := by
        by_contra some
        exact (begunNow some).not_waiting waits
      rw [none]
      exact .waiting waits
    · have notExecuting : ∀ job, coordinator.worker.place.executing = some job → job.id ≠ goal :=
        fun job executing isGoal => mine (isGoal ▸ goal?_of_executing executing)
      refine .elsewhere taken ((stage.done_of_not_executing notExecuting).imp_right
        (Or.imp_right ?_))
      rintro ⟨dead, broken⟩
      have gone : coordinator.worker.isGone = true := by rw [Worker.isGone, dead]
      exact ⟨(rule.isGone gone).trans dead, broken⟩

theorem Conducted.move (conducted : Conducted config coordinator goal (reportsOf reports goal))
    (sorted : Sorted coordinator) {move : Move} (moved : coordinator.step move = some next) :
    Conducted config next goal (reportsOf (reports ++
      (asked coordinator.memory.calls next.memory.calls ++ coordinator.report move)) goal) := by
  by_cases isWorker : ∃ choice, move = .worker choice
  · obtain ⟨choice, rfl⟩ := isWorker
    obtain ⟨worker, memory, step, rfl⟩ := worker_of_step moved
    obtain ⟨progress, changed⟩ := collect_eq { coordinator with memory, worker }
    rw [changed, reportsOf_append]
    obtain ⟨settings, stage, begun⟩ := conducted.worker sorted step
    exact ⟨settings, stage, begun⟩
  · obtain ⟨worker, settings, quiet⟩ :=
      quiet_of_step (fun choice is => isWorker ⟨choice, is⟩) moved
    rw [quiet, List.append_nil]
    exact ⟨settings.trans conducted.settings, worker ▸ conducted.stage,
      fun some => (conducted.begun some).step sorted moved⟩

theorem conducted_of_recorded {context : Context Unit}
    (started : start config context = .ok first) (run : Recorded first coordinator reports)
    (goal : Goal.Id) : Conducted config coordinator goal (reportsOf reports goal) := by
  induction run with
  | start =>
    rw [eq_of_start started]
    exact ⟨rfl, .elsewhere nofun (.inl rfl), fun some => absurd rfl some⟩
  | move move before moved ih =>
    exact ih.move (sorted_of_reachable started before.reachable) moved

end Runs

/-! ### Hanging -/

/-- Before the one who handles hangs is called, the outcome of the goal is decided. -/
def Alarmed (coordinator : ArmLink.Coordinator) : Prop :=
  ∀ job fault, coordinator.worker.place = .stop job (some fault) ∨
    coordinator.worker.place = .hang job fault →
      (∃ outcome, coordinator.worker.finishing = some (.mark job.id outcome)) ∨
        (coordinator.memory.progress job.id).finished = true

section Hanging

variable {coordinator next first : ArmLink.Coordinator} {worker worker' : Worker}
  {memory memory' : Memory} {job : Job} {fault : Follower.Fault}

theorem marking_of_afterStream {config : Config} {asked : Job} {since : Duration}
    {answer : Except Follower.Fault Streamed}
    (alarmed : (worker.afterStream config asked since answer).place = .stop job (some fault) ∨
      (worker.afterStream config asked since answer).place = .hang job fault) :
    ∃ outcome, (worker.afterStream config asked since answer).finishing =
      some (.mark job.id outcome) := by
  unfold Worker.afterStream at alarmed ⊢
  split at alarmed
  · split at alarmed <;> simp at alarmed
  · simp at alarmed
  · split at alarmed
    · rename_i hang
      simp only [finish_place, WorkerPlace.stop.injEq, reduceCtorEq, or_false] at alarmed
      obtain ⟨rfl, -⟩ := alarmed
      rw [if_pos hang]
      exact ⟨_, rfl⟩
    · simp at alarmed

theorem WorkerRule.alarmed (rule : WorkerRule worker memory worker' memory')
    (before : worker.place = .stop job (some fault) ∨ worker.place = .hang job fault →
      (∃ outcome, worker.finishing = some (.mark job.id outcome)) ∨
        (memory.progress job.id).finished = true)
    (alarmed : worker'.place = .stop job (some fault) ∨ worker'.place = .hang job fault) :
    (∃ outcome, worker'.finishing = some (.mark job.id outcome)) ∨
      (memory'.progress job.id).finished = true := by
  have progressing := rule.progressing
  cases rule with
  | finish rule =>
    rw [rule.place_eq] at alarmed
    rcases before alarmed with ⟨outcome, marks⟩ | decided
    · exact .inr (rule.marking marks)
    · exact .inr (progressing.finished decided)
  | work free rule =>
    generalize worker.place = place at rule before
    cases rule with
    | returned | notSent | held | notHeld => exact .inl (marking_of_afterStream alarmed)
    | @stop stopped hang =>
      cases hang with
      | none => simp at alarmed
      | some fault' =>
        simp only [goto_place, reduceCtorEq, WorkerPlace.hang.injEq, false_or] at alarmed
        obtain ⟨rfl, rfl⟩ := alarmed
        rcases before (.inl rfl) with ⟨outcome, marks⟩ | decided
        · rw [free] at marks
          cases marks
        · exact .inr decided
    | watch _ goesOn =>
      rcases goesOn with goesOn | rfl
      · rcases alarmed with stands | stands <;> · subst stands; cases goesOn
      · simp at alarmed
    | _ => simp at alarmed

theorem alarmed_of_reachable {config : Config} {context : Context Unit}
    (started : start config context = .ok first) (run : Reachable first coordinator) :
    Alarmed coordinator := by
  refine run.induct ?_ ?_ ?_
  · rw [eq_of_start started]
    intro job fault stands
    rcases stands with stands | stands <;> cases stands
  · intro coordinator next _ alarmed turn job fault stands
    have decided : (coordinator.memory.progress job.id).finished = true →
        (next.memory.progress job.id).finished = true := turn.finished
    cases turn with
    | worker choice step => exact (workerRule_of_step step).alarmed (alarmed job fault) stands
    | _ => exact (alarmed job fault stands).imp_right decided
  · intro coordinator goal _ alarmed job fault stands
    rw [letGo_worker] at stands ⊢
    exact (alarmed job fault stands).imp_right letGo_finished

end Hanging

/-! ### Succeeding -/

def Finishing.outcome : Finishing → Outcome
  | .mark _ outcome | .send _ outcome => outcome

/-- Whether it was reported that the points of a goal were followed to their end. -/
def Arrived (reports : List Report) (goal : Goal.Id) : Prop :=
  .followed goal (.ok .completed) ∈ reports

/-- Only a goal whose points were followed to their end succeeds. -/
structure Earned (coordinator : ArmLink.Coordinator) (reports : List Report) : Prop where
  clients : ∀ index finishing, (coordinator.clientAt index).finishing = some finishing →
    finishing.outcome ≠ .succeeded
  worker : ∀ finishing, coordinator.worker.finishing = some finishing →
    finishing.outcome = .succeeded → Arrived reports finishing.goal
  sent : ∀ goal, .finished .succeeded ∈ (coordinator.memory.progress goal).sent →
    Arrived reports goal

section Succeeding

variable {π : Type} {workerEnded : Bool} {actor : Actor} {client client' : Client}
  {worker worker' : Worker} {memory memory' : Memory} {goal : Goal.Id} {finishing : Finishing}
  {config : Config} {place : WorkerPlace} {reports : List Report} {job : Job}

theorem Progress.mem_send {progress : Progress} {event other : Event}
    (there : other ∈ (progress.send event).sent) : other ∈ progress.sent ∨ other = event := by
  unfold Progress.send at there
  split at there
  · simpa using there
  · exact .inl there

/-- A step of a thread tells of no outcome but the one that the thread is about to send. -/
theorem Progressing.mem_sent {thread thread' : Thread π} {outcome : Outcome}
    (progressing : Progressing thread thread' memory memory')
    (there : .finished outcome ∈ (memory'.progress goal).sent) :
    .finished outcome ∈ (memory.progress goal).sent ∨
      thread.finishing = some (.send goal outcome) := by
  cases progressing with
  | keep _ _ same =>
    rw [same] at there
    exact .inl there
  | mark marked outcome' _ _ _ changed =>
    rw [changed, Memory.modify_progress] at there
    left
    split at there
    · exact there
    · exact there
  | send sent outcome' sends _ changed =>
    rw [changed, Memory.modify_progress] at there
    split at there
    · rename_i isGoal
      rcases Progress.mem_send there with old | new
      · exact .inl old
      · cases new
        exact .inr (isGoal ▸ sending_eq_some_iff.mp sends)
    · exact .inl there
  | accept accepted _ _ changed =>
    rw [changed, Memory.modify_progress] at there
    left
    split at there
    · rcases Progress.mem_send there with old | new
      · exact old
      · cases new
    · exact there

/-- What a thread has to finish after a step of giving an outcome is the same outcome. -/
theorem FinishRule.outcome_eq {thread thread' : Thread π}
    (rule : FinishRule thread memory thread' memory') (busy : thread'.finishing = some finishing) :
    ∃ before, thread.finishing = some before ∧ before.outcome = finishing.outcome ∧
      before.goal = finishing.goal := by
  cases rule with
  | mark marks =>
    cases busy
    exact ⟨_, marks, rfl, rfl⟩
  | late => cases busy
  | send => cases busy

theorem finishing_finishIf {thread : Thread π} {goal : Option Goal.Id} {outcome : Outcome} {place : π}
    (free : thread.finishing = none)
    (busy : (thread.finishIf goal outcome place).finishing = some finishing) :
    finishing.outcome = outcome := by
  cases goal with
  | none => cases free.symm.trans busy
  | some goal => cases busy; rfl

/-- What a client has to finish after a step. -/
inductive Client.Takes (client : Client) (config : Config) (finishing : Finishing) : Prop where
  | before {earlier : Finishing} (busy : client.finishing = some earlier)
      (outcome : earlier.outcome = finishing.outcome) (goal : earlier.goal = finishing.goal)
  /-- It asked about a goal that the check refuses. -/
  | rejection {goal : Goal} {isAlive : Bool} {state : Option RobotState} {rejection : Rejection}
      (asks : client.place = .submitting (.askAlive finishing.goal goal) ∨
        client.place = .submitting (.askState finishing.goal goal))
      (refused : validate config isAlive state goal = .error rejection)
      (outcome : finishing.outcome = .rejected rejection)
  | canceled (outcome : finishing.outcome = .canceled)
  | aborted {reason : AbortReason} (outcome : finishing.outcome = .aborted reason)

theorem ClientRule.takes (rule : ClientRule workerEnded actor client memory client' memory')
    (busy : client'.finishing = some finishing) : client.Takes memory.config finishing := by
  cases rule with
  | finish rule =>
    obtain ⟨earlier, marks, outcome, goal⟩ := rule.outcome_eq busy
    exact .before marks outcome goal
  | submit free stands rule =>
    cases rule with
    | @notAlive _ goal =>
      cases busy
      have refused : validate memory.config false none goal = .error (.unready .undefined) := rfl
      exact .rejection (.inl stands) refused rfl
    | invalid checked => cases busy; exact .rejection (.inr stands) checked rfl
    | unlockOld | install => exact .aborted (finishing_finishIf free busy)
    | _ => cases free.symm.trans busy
  | cancel free _ rule =>
    cases rule with
    | lockExec => cases busy; exact .canceled rfl
    | _ => cases free.symm.trans busy
  | exchange free => cases free.symm.trans busy
  | stop free _ rule =>
    cases rule with
    | read => exact .aborted (finishing_finishIf free busy)
    | _ => cases free.symm.trans busy
  | close free _ rule =>
    cases rule with
    | takePending | takeCurrent => exact .aborted (finishing_finishIf free busy)
    | _ => cases free.symm.trans busy

/-- A client lets no goal succeed. -/
theorem ClientRule.not_succeeded
    (rule : ClientRule workerEnded actor client memory client' memory')
    (before : ∀ finishing, client.finishing = some finishing → finishing.outcome ≠ .succeeded) :
    ∀ finishing, client'.finishing = some finishing → finishing.outcome ≠ .succeeded := by
  intro finishing busy succeeds
  cases rule.takes busy with
  | before marks same => exact before _ marks (same.trans succeeds)
  | rejection _ _ outcome | canceled outcome | aborted outcome =>
    cases outcome.symm.trans succeeds

theorem afterStream_aborted {asked : Job} {since : Duration}
    {answer : Except Follower.Fault Streamed} (free : worker.finishing = none)
    (busy : (worker.afterStream config asked since answer).finishing = some finishing) :
    ∃ reason, finishing.outcome = .aborted reason := by
  unfold Worker.afterStream at busy
  split at busy
  · cases free.symm.trans busy
  · cases free.symm.trans busy
  · split at busy
    · cases busy; exact ⟨_, rfl⟩
    · cases busy; exact ⟨_, rfl⟩

/-- The worker watches for arrival only when the points were followed to their end. -/
theorem Stage.arrived_of_watched (stage : Stage config job.id place reports)
    (watched : place.watched = some job) : Arrived reports job.id := by
  generalize same : job.id = goal at stage
  cases stage with
  | watching _ _ followed =>
    cases followed with
    | answer => simp [Arrived]
  | elsewhere apart => exact absurd (same ▸ goal?_of_watched watched) apart
  | waiting waits => cases place <;> first | cases waits; done | cases watched
  | beginning begins => cases place <;> first | cases begins; done | cases watched
  | following follows => cases place <;> first | cases follows; done | cases watched
  | leaving leaves => cases place <;> first | cases leaves; done | cases watched
  | _ => cases watched

/-- The worker lets only goals succeed whose points were followed to their end. -/
theorem WorkerRule.arrived (rule : WorkerRule worker memory worker' memory')
    (before : ∀ finishing, worker.finishing = some finishing → finishing.outcome = .succeeded →
      Arrived reports finishing.goal)
    (watching : ∀ job, worker.place.watched = some job → Arrived reports job.id) :
    ∀ finishing, worker'.finishing = some finishing → finishing.outcome = .succeeded →
      Arrived reports finishing.goal := by
  intro finishing busy succeeds
  cases rule with
  | finish rule =>
    obtain ⟨earlier, marks, outcome, goal⟩ := rule.outcome_eq busy
    rw [← goal]
    exact before earlier marks (outcome.trans succeeds)
  | work free rule =>
    generalize worker.place = place at rule watching
    cases rule with
    | judge watched =>
      cases busy
      exact watching _ watched
    | noStartPoint | notStarted | closing => cases busy; cases succeeds
    | returned | notSent | held | notHeld =>
      obtain ⟨reason, aborted⟩ := afterStream_aborted free busy
      cases aborted.symm.trans succeeds
    | _ => cases free.symm.trans busy

end Succeeding

section Runs

variable {config : Config} {context : Context Unit} {coordinator next first : ArmLink.Coordinator}
  {goal : Goal.Id} {reports : List Report}

theorem Earned.mono {more : List Report} (earned : Earned coordinator reports) :
    Earned coordinator (reports ++ more) where
  clients := earned.clients
  worker := fun finishing busy succeeds =>
    List.mem_append_left more (earned.worker finishing busy succeeds)
  sent := fun goal there => List.mem_append_left more (earned.sent goal there)

/-- After a turn, a client finishes what it finished before, or what its step gave it. -/
theorem Turn.finishing_cases {index : Nat} {finishing : Finishing} (turn : Turn coordinator next)
    (busy : (next.clientAt index).finishing = some finishing) :
    (coordinator.clientAt index).finishing = some finishing ∨
      ∃ client memory, ClientRule coordinator.worker.isGone (.client index)
        (coordinator.clientAt index) coordinator.memory client memory ∧
        client.finishing = some finishing := by
  cases turn with
  | call =>
    rw [clientAt_opened] at busy
    split at busy
    · cases busy
    · exact .inl busy
  | client stepping inside step =>
    rw [clientAt_withClient inside] at busy
    split at busy
    · rename_i same
      subst same
      exact .inr ⟨_, _, clientRule_of_step step, busy⟩
    · exact .inl busy
  | worker | observe | pass | take => exact .inl busy

theorem Turn.worker_cases (turn : Turn coordinator next) :
    next.worker = coordinator.worker ∨ ∃ choice memory,
      coordinator.worker.step choice coordinator.memory = some (next.worker, memory) := by
  cases turn with
  | worker choice step => exact .inr ⟨choice, _, step⟩
  | _ => exact .inl rfl

/-- A turn tells of no outcome but one that a thread is about to send. -/
theorem Turn.mem_sent {outcome : Outcome} (turn : Turn coordinator next)
    (told : .finished outcome ∈ (next.memory.progress goal).sent) :
    .finished outcome ∈ (coordinator.memory.progress goal).sent ∨
      (∃ index, (coordinator.clientAt index).finishing = some (.send goal outcome)) ∨
      coordinator.worker.finishing = some (.send goal outcome) := by
  cases turn with
  | call opening =>
    obtain ⟨nextId, -, rfl⟩ := opening.memory_eq
    exact .inl told
  | client index inside step =>
    rcases (clientRule_of_step step).progressing.mem_sent told with old | sends
    · exact .inl old
    · exact .inr (.inl ⟨index, sends⟩)
  | worker choice step =>
    rcases (workerRule_of_step step).progressing.mem_sent told with old | sends
    · exact .inl old
    · exact .inr (.inr sends)
  | observe | pass => exact .inl told
  | take taken =>
    rw [Memory.modify_progress] at told
    split at told
    · rw [Progress.take_sent] at told
      exact .inl told
    · exact .inl told

theorem mem_sent_of_letGo {other : Goal.Id} {outcome : Outcome}
    (told : .finished outcome ∈ ((coordinator.letGo other).memory.progress goal).sent) :
    .finished outcome ∈ (coordinator.memory.progress goal).sent ∨
      outcome = .aborted .abandoned := by
  unfold ArmLink.Coordinator.letGo at told
  split at told
  · exact .inl told
  · rw [Memory.modify_progress] at told
    split at told
    · rcases Progress.mem_send told with old | new
      · exact .inl old
      · cases new; exact .inr rfl
    · exact .inl told

theorem Earned.turn (earned : Earned coordinator reports)
    (watching : ∀ job, coordinator.worker.place.watched = some job → Arrived reports job.id)
    (turn : Turn coordinator next) : Earned next reports := by
  refine ⟨?_, ?_, ?_⟩
  · intro index finishing busy
    rcases turn.finishing_cases busy with old | ⟨client, memory, rule, busy⟩
    · exact earned.clients index finishing old
    · exact rule.not_succeeded (earned.clients index) finishing busy
  · rcases turn.worker_cases with same | ⟨choice, memory, step⟩
    · rw [same]
      exact earned.worker
    · exact (workerRule_of_step step).arrived earned.worker watching
  · intro goal told
    rcases turn.mem_sent told with old | ⟨index, sends⟩ | sends
    · exact earned.sent goal old
    · exact absurd rfl (earned.clients index _ sends)
    · exact earned.worker _ sends rfl

theorem Earned.letGo (earned : Earned coordinator reports) (other : Goal.Id) :
    Earned (coordinator.letGo other) reports := by
  refine ⟨?_, ?_, ?_⟩
  · intro index
    rw [letGo_clientAt]
    exact earned.clients index
  · rw [letGo_worker]
    exact earned.worker
  · intro goal told
    rcases mem_sent_of_letGo told with old | abandoned
    · exact earned.sent goal old
    · cases abandoned

theorem earned_of_recorded (started : start config context = .ok first)
    (run : Recorded first coordinator reports) : Earned coordinator reports := by
  induction run with
  | start =>
    rw [eq_of_start started]
    refine ⟨?_, nofun, nofun⟩
    intro index finishing busy
    rw [clientAt] at busy
    cases busy
  | @move coordinator next reports move before moved ih =>
    have watching : ∀ job, coordinator.worker.place.watched = some job →
        Arrived reports job.id := by
      intro job watched
      have conducted := conducted_of_recorded started before job.id
      exact mem_of_mem_reportsOf (conducted.stage.arrived_of_watched watched)
    obtain ⟨between, turn, rfl⟩ := turn_of_step moved
    refine Earned.mono (collect_induct (motive := fun later => Earned later reports) ?_ ?_)
    · exact fun _ other _ earned => earned.letGo other
    · exact ih.turn watching turn

/-! ### The protocol of one goal -/

theorem exists_calls_of_turn (turn : Turn coordinator next) :
    ∃ more, next.memory.calls = coordinator.memory.calls ++ more := by
  cases turn with
  | call opening =>
    obtain ⟨nextId, -, rfl⟩ := opening.memory_eq
    exact ⟨[], (List.append_nil _).symm⟩
  | client index inside step =>
    rcases (clientRule_of_step step).calls with same | noted
    · exact ⟨[], same.trans (List.append_nil _).symm⟩
    · exact ⟨_, noted⟩
  | worker choice step =>
    cases (workerRule_of_step step).logging with
    | nothing same => exact ⟨[], same.trans (List.append_nil _).symm⟩
    | start _ _ _ noted => exact ⟨_, noted⟩
    | more _ _ _ _ _ noted => exact ⟨_, noted⟩
  | observe | pass | take => exact ⟨[], (List.append_nil _).symm⟩

theorem exists_calls_of_step {move : Move} (moved : coordinator.step move = some next) :
    ∃ more, next.memory.calls = coordinator.memory.calls ++ more := by
  obtain ⟨between, turn, rfl⟩ := turn_of_step moved
  obtain ⟨progress, changed⟩ := collect_eq between
  rw [changed]
  obtain ⟨more, grown⟩ := exists_calls_of_turn turn
  exact ⟨more, grown⟩

theorem call?_of_report {move : Move} : (coordinator.report move).filterMap Report.call? = [] := by
  apply List.filterMap_eq_nil_iff.mpr
  intro report there
  cases move with
  | worker choice =>
    dsimp only [ArmLink.Coordinator.report] at there
    unfold Worker.report at there
    split at there
    · cases there
    · unfold WorkerPlace.report at there
      repeat' split at there
      all_goals first
        | cases there; done
        | rw [List.mem_singleton.mp there]; rfl
  | _ => cases there

/-- The calls that are made for goals are the ones reported. -/
theorem calls_of_recorded (started : start config context = .ok first)
    (run : Recorded first coordinator reports) :
    reports.filterMap Report.call? = coordinator.memory.calls.filter (·.goal?.isSome) := by
  induction run with
  | start =>
    rw [eq_of_start started]
    rfl
  | move move _ moved ih =>
    obtain ⟨more, grown⟩ := exists_calls_of_step moved
    have reported : ∀ calls : List Call, (calls.map Report.asked).filterMap Report.call? = calls := by
      intro calls
      rw [List.filterMap_map]
      exact List.filterMap_some
    rw [List.filterMap_append, List.filterMap_append, ih, call?_of_report, List.append_nil, asked,
      reported, grown, List.drop_left, List.filter_append]

theorem WorkerRule.hang_of_calls {worker worker' : Worker} {memory memory' : Memory}
    {fault : Follower.Fault} (rule : WorkerRule worker memory worker' memory')
    (called : .hang goal fault ∈ memory'.calls) (before : .hang goal fault ∉ memory.calls) :
    worker.finishing = none ∧ ∃ job, job.id = goal ∧ worker.place = .hang job fault := by
  cases rule with
  | finish rule =>
    obtain ⟨progress, rfl⟩ := rule.memory_eq
    exact absurd called before
  | work free rule =>
    generalize worker.place = place at rule
    cases rule with
    | @hang job fault =>
      rcases List.mem_append.mp called with old | new
      · exact absurd old before
      · cases List.mem_singleton.mp new
        exact ⟨free, job, rfl, rfl⟩
    | start | beginStream | sent | held | stop =>
      rcases List.mem_append.mp called with old | new
      · exact absurd old before
      · cases List.mem_singleton.mp new
    | _ => exact absurd called before

/-- When the one who handles hangs is called, the outcome of the goal is decided. -/
theorem decided_of_hang (started : start config context = .ok first)
    (run : Reachable first coordinator) {move : Move} {fault : Follower.Fault}
    (moved : coordinator.step move = some next) (called : .hang goal fault ∈ next.memory.calls)
    (before : .hang goal fault ∉ coordinator.memory.calls) :
    (coordinator.memory.progress goal).finished = true ∧
      ((coordinator.memory.progress goal).outcomes.length = 1 ∨
        ∃ index outcome, coordinator.sendingOf (.client index) = some (goal, outcome)) := by
  obtain ⟨free, job, rfl, stands⟩ : coordinator.worker.finishing = none ∧
      ∃ job, job.id = goal ∧ coordinator.worker.place = .hang job fault := by
    by_cases isWorker : ∃ choice, move = .worker choice
    · obtain ⟨choice, rfl⟩ := isWorker
      obtain ⟨worker, memory, step, rfl⟩ := worker_of_step moved
      obtain ⟨progress, changed⟩ := collect_eq { coordinator with memory, worker }
      rw [changed] at called
      exact (workerRule_of_step step).hang_of_calls called before
    · obtain ⟨-, -, quiet⟩ := quiet_of_step (fun choice is => isWorker ⟨choice, is⟩) moved
      obtain ⟨more, grown⟩ := exists_calls_of_step moved
      rw [grown, asked, List.drop_left] at quiet
      rcases List.mem_append.mp (grown ▸ called) with old | new
      · exact absurd old before
      · have isFor : Report.asked (.hang goal fault) ∈
            (more.filter (·.goal?.isSome)).map Report.asked :=
          List.mem_map_of_mem (List.mem_filter.mpr ⟨new, rfl⟩)
        rw [(List.append_eq_nil_iff.mp quiet).1] at isFor
        cases isFor
  have decided : (coordinator.memory.progress job.id).finished = true := by
    rcases alarmed_of_reachable started run job fault (.inr stands) with ⟨outcome, marks⟩ | decided
    · cases free.symm.trans marks
    · exact decided
  refine ⟨decided, ?_⟩
  cases (told_of_reachable started run job.id).course with
  | undecided undecided => cases undecided.symm.trans decided
  | told outcome _ isTold => exact .inl (by rw [isTold]; rfl)
  | decided sender outcome _ _ sends =>
    cases sender with
    | worker => cases (sending_eq_none_of_free free).symm.trans sends
    | client index => exact .inr ⟨index, outcome, sends⟩

/-- What is asked of the executor for one goal, and when. -/
structure Protocol (config : Config) (coordinator : ArmLink.Coordinator) (reports : List Report)
    (goal : Goal.Id) : Prop where
  /-- The reports hold every call that was made for a goal, in order. -/
  calls : reports.filterMap Report.call? = coordinator.memory.calls.filter (·.goal?.isSome)
  /-- While a goal is executed, its reports are the beginning of a whole execution. -/
  underWay : ∀ job, coordinator.worker.place.executing = some job → job.id = goal →
    reportsOf reports goal ≠ [] ∧ ∃ rest, Whole config.mode goal (reportsOf reports goal ++ rest)
  /-- Otherwise they are a whole execution, if there are any and the worker did not break down. -/
  whole : (∀ job, coordinator.worker.place.executing = some job → job.id ≠ goal) →
    reportsOf reports goal = [] ∨ Whole config.mode goal (reportsOf reports goal) ∨
      (coordinator.worker.place = .dead ∧
        ∃ points, BrokenDown config goal points (reportsOf reports goal))
  /-- The one who handles hangs is called when the outcome of the goal is decided: it was sent, or
  a client that came first is about to send it. -/
  hang : ∀ move next fault, coordinator.step move = some next →
    .hang goal fault ∈ next.memory.calls → .hang goal fault ∉ coordinator.memory.calls →
      (coordinator.memory.progress goal).finished = true ∧
        ((coordinator.memory.progress goal).outcomes.length = 1 ∨
          ∃ index outcome, coordinator.sendingOf (.client index) = some (goal, outcome))
  /-- A goal that succeeded was followed to its end. -/
  succeeded : .finished .succeeded ∈ (coordinator.memory.progress goal).sent →
    .followed goal (.ok .completed) ∈ reports

/-- In every run, what is asked of the executor for a goal follows the protocol. -/
theorem protocol_of_recorded (started : start config context = .ok first)
    (run : Recorded first coordinator reports) (goal : Goal.Id) :
    Protocol config coordinator reports goal := by
  have conducted := conducted_of_recorded started run goal
  constructor
  · exact calls_of_recorded started run
  · rintro job executing rfl
    exact conducted.stage.exists_whole executing
  · intro notExecuting
    exact conducted.stage.done_of_not_executing notExecuting
  · intro move next fault moved called before
    exact decided_of_hang started run.reachable moved called before
  · exact (earned_of_recorded started run).sent goal

/-- Whether the one who handles hangs was called for the first goal. -/
def hungFirst (coordinator : ArmLink.Coordinator) : Bool :=
  coordinator.memory.calls.any fun
    | .hang goal _ => goal == 1
    | _ => false

/-- The statement at a goal during which the robot hung. -/
theorem protocol_hung : ∃ first coordinator reports,
    start (plainConfig 1.0) readyContext = .ok first ∧
    Recorded first coordinator reports ∧ coordinator.hungFirst = true ∧
    Protocol (plainConfig 1.0) coordinator reports 1 := by
  obtain ⟨coordinator, run, hung⟩ := exists_reachable (plain 1.0)
    (fun last => last.hungFirst = true)
    (untilStream zeroGoal ++ [.worker (.returned (.error .connectionLost))] ++ workerSteps 4)
    (by decide +kernel)
  obtain ⟨reports, recorded⟩ := exists_recorded run
  exact ⟨_, coordinator, reports, start_plain 1.0, recorded, hung,
    protocol_of_recorded (start_plain 1.0) recorded 1⟩

/-! ### A worker that breaks down -/

/-- Nothing is asked of the executor for a goal when the worker is gone. -/
theorem calls_of_isGone {later : ArmLink.Coordinator} {call : Call}
    (gone : coordinator.worker.isGone = true) (run : Reachable coordinator later)
    (mine : call.goal? = some goal) (called : call ∈ later.memory.calls) :
    call ∈ coordinator.memory.calls := by
  have kept : later.worker.place = coordinator.worker.place ∧
      (call ∈ later.memory.calls → call ∈ coordinator.memory.calls) := by
    refine run.induct (motive := fun later => later.worker.place = coordinator.worker.place ∧
      (call ∈ later.memory.calls → call ∈ coordinator.memory.calls)) ⟨rfl, id⟩ ?_ ?_
    · intro later next _ ⟨same, old⟩ turn
      cases turn with
      | call opening =>
        obtain ⟨nextId, -, rfl⟩ := opening.memory_eq
        exact ⟨same, old⟩
      | client index inside step =>
        refine ⟨same, fun there => old ?_⟩
        rcases (clientRule_of_step step).calls with unchanged | noted
        · exact unchanged ▸ there
        · rcases List.mem_append.mp (noted ▸ there) with before | new
          · exact before
          · rw [List.mem_singleton.mp new] at mine
            cases mine
      | worker choice step =>
        have rule := workerRule_of_step step
        have goneLater : later.worker.isGone = true := by rwa [Worker.isGone, same]
        refine ⟨(rule.isGone goneLater).trans same, fun there => old ?_⟩
        have empty := (goal?_of_isGone goneLater).1
        cases rule.logging with
        | nothing unchanged => exact unchanged ▸ there
        | start job stands =>
          rw [stands] at empty
          cases empty
        | more _ _ underWay => cases (goal?_of_late (late_of_underWay underWay)).symm.trans empty
      | observe | pass | take => exact ⟨same, old⟩
    · intro later other _ ⟨same, old⟩
      obtain ⟨progress, changed⟩ := letGo_eq later other
      rw [changed]
      exact ⟨same, old⟩
  exact kept.2 called

/-- Whether the points of the first goal were given to the executor. -/
def streamedFirst (coordinator : ArmLink.Coordinator) : Bool :=
  coordinator.memory.calls.any fun
    | .stream goal _ _ => goal == 1
    | _ => false

/-- Whether the executor was stopped for the first goal. -/
def stoppedFirst (coordinator : ArmLink.Coordinator) : Bool :=
  coordinator.memory.calls.any fun
    | .stop goal => goal == 1
    | _ => false

/-- A goal of two points that takes longer than can be waited for. -/
def longGoal : Goal where
  jointNames := (plainConfig 1.5).jointNames
  points := [⟨List.replicate 6 0.0, List.replicate 6 0.0, .zero⟩,
    ⟨List.replicate 6 0.0, List.replicate 6 0.0, ⟨18446744073709551615000000000⟩⟩]

/-- A worker that breaks down leaves the executor unstopped for good. -/
theorem never_stopped_longGoal : ∃ first coordinator,
    start (plainConfig 1.5) readyContext = .ok first ∧ Reachable first coordinator ∧
    coordinator.streamedFirst = true ∧ coordinator.worker.isGone = true ∧
    ∀ later, Reachable coordinator later → .stop 1 ∉ later.memory.calls := by
  obtain ⟨coordinator, run, streamed, gone, running⟩ := exists_reachable (plain 1.5)
    (fun last => last.streamedFirst = true ∧ last.worker.isGone = true ∧
      last.stoppedFirst = false)
    (untilStream longGoal ++ [.worker (.returned (.ok .completed))] ++ workerSteps 1)
    (by decide +kernel)
  refine ⟨_, coordinator, start_plain 1.5, run, streamed, gone, ?_⟩
  intro later after stopped
  have before := calls_of_isGone gone after rfl stopped
  have isStopped : coordinator.stoppedFirst = true := List.any_eq_true.mpr ⟨_, before, rfl⟩
  rw [running] at isStopped
  cases isStopped

end Runs

end ArmLink.Coordinator
