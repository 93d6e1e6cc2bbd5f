import ArmLink.Proofs.Coordinator.Points

/-!
What there is to report of the execution of a goal.

To what is asked of the executor come the answers, and what the worker finds when it looks where to
start from (`Report`); a run is written down with its reports (`Recorded`).  The reports of one
goal follow a grammar.  `Whole` is an execution from its beginning to its end, `BrokenDown` one that
ended with a worker that broke down.

Each place of the worker stands for a part of the grammar (`Stage`), and a step of the worker goes
on from one part to the next (`Stage.step`).
-/

namespace ArmLink.Coordinator

open Goal Link Motion Telemetry

/-- What there is to report of the execution of a goal. -/
inductive Report where
  | begun (goal : Goal.Id)
  /-- A look for a place to start from: where the arm was seen last, and the points of the goal. -/
  | looked (goal : Goal.Id) (joints : Option JointFeedback) (points : List (Waypoint Float))
  | asked (call : Call)
  /-- What the executor answered when it was to start. -/
  | started (goal : Goal.Id) (answer : Except Follower.Fault Unit)
  /-- What following the points came to. -/
  | followed (goal : Goal.Id) (answer : Except Follower.Fault Streamed)

namespace Report

def goal? : Report → Option Goal.Id
  | .begun goal | .looked goal _ _ | .started goal _ | .followed goal _ => some goal
  | .asked call => call.goal?

def call? : Report → Option Call
  | .asked call => some call
  | _ => none

end Report

/-- The reports of the calls that came in between; asking to break off is not for any goal. -/
def asked (before after : List Call) : List Report :=
  ((after.drop before.length).filter (·.goal?.isSome)).map .asked

/-- What the worker's next step has to report besides calls. -/
def WorkerPlace.report (memory : Memory) (choice : Choice) : WorkerPlace → List Report
  | .checkFinished job =>
    if (memory.progress job.id).finished then [] else [.begun job.id]
  | .startPoint job => [.looked job.id memory.context.joints job.points]
  | .starting job =>
    match choice with
    | .result answer => [.started job.id answer]
    | _ => []
  | .streaming job _ =>
    match choice with
    | .returned answer => [.followed job.id answer]
    | _ => []
  | .sending job _ =>
    match choice with
    | .result (.error fault) => [.followed job.id (.error fault)]
    | _ => []
  | .holding job =>
    match choice with
    | .result answer => [.followed job.id (answer.map fun _ => .interrupted)]
    | _ => []
  | _ => []

def Worker.report (worker : Worker) (memory : Memory) (choice : Choice) : List Report :=
  match worker.finishing with
  | some _ => []
  | none => worker.place.report memory choice

/-- What a move has to report besides calls. -/
def report (coordinator : ArmLink.Coordinator) : Move → List Report
  | .worker choice => coordinator.worker.report coordinator.memory choice
  | _ => []

/-- What a coordinator can come to, with the reports on the way, oldest first. -/
inductive Recorded (first : ArmLink.Coordinator) : ArmLink.Coordinator → List Report → Prop where
  | start : Recorded first first []
  | move {coordinator next : ArmLink.Coordinator} {reports : List Report} (move : Move)
      (before : Recorded first coordinator reports) (moved : coordinator.step move = some next) :
      Recorded first next (reports ++
        (asked coordinator.memory.calls next.memory.calls ++ coordinator.report move))

theorem Recorded.reachable {first coordinator : ArmLink.Coordinator} {reports : List Report}
    (run : Recorded first coordinator reports) : Reachable first coordinator := by
  induction run with
  | start => exact .refl
  | move move _ moved ih => exact .step move ih moved

/-- Every run has its reports. -/
theorem exists_recorded {first coordinator : ArmLink.Coordinator}
    (run : Reachable first coordinator) : ∃ reports, Recorded first coordinator reports := by
  induction run with
  | refl => exact ⟨[], .start⟩
  | step move _ moved ih =>
    obtain ⟨reports, before⟩ := ih
    exact ⟨_, .move move before moved⟩

/-! ### The grammar of an execution -/

section Grammar

variable {mode : Mode} {goal : Goal.Id} {points : List (Waypoint Float)} {reports : List Report}

/-- The worker has made out the points to follow. -/
inductive Prepared (goal : Goal.Id) (points : List (Waypoint Float)) : List Report → Prop where
  | look {joints : Option JointFeedback} {asked : List (Waypoint Float)}
      (known : withStartPoint joints asked = some points) :
      Prepared goal points [.begun goal, .looked goal joints asked]

/-- The executor has started. -/
inductive Started (goal : Goal.Id) (points : List (Waypoint Float)) : List Report → Prop where
  | start {reports : List Report} (prepared : Prepared goal points reports) :
      Started goal points (reports ++ [.asked (.start goal)] ++ [.started goal (.ok ())])

/-- The executor follows the points. -/
inductive Streaming (mode : Mode) (goal : Goal.Id) (points : List (Waypoint Float)) :
    List Report → Prop where
  | stream {reports : List Report} (started : Started goal points reports) :
      Streaming mode goal points (reports ++ [.asked (.stream goal mode points)])
  | servo {reports : List Report} (following : Streaming mode goal points reports) :
      Streaming mode goal points (reports ++ [.asked (.servo goal)])

/-- The executor has answered what following the points came to.  If it has broken off, it held the
last position before. -/
inductive Followed (mode : Mode) (goal : Goal.Id) (points : List (Waypoint Float)) :
    Except Follower.Fault Streamed → List Report → Prop where
  | answer {reports : List Report} (following : Streaming mode goal points reports)
      (answer : Except Follower.Fault Streamed) :
      Followed mode goal points answer (reports ++ [.followed goal answer])
  | hold {reports : List Report} (following : Streaming mode goal points reports) :
      Followed mode goal points (.ok .interrupted)
        (reports ++ [.asked (.hold goal), .followed goal (.ok .interrupted)])

/-- Whether an answer is a fault that means that the robot does not respond. -/
def isHang : Except Follower.Fault Streamed → Bool
  | .ok _ => false
  | .error fault => fault.isHang

/-- An execution from its beginning to its end. -/
inductive Whole (mode : Mode) (goal : Goal.Id) : List Report → Prop where
  /-- The place of the arm was needed, and not known. -/
  | unprepared {first : Waypoint Float} {rest : List (Waypoint Float)}
      (needed : Duration.zero < first.time) :
      Whole mode goal [.begun goal, .looked goal none (first :: rest)]
  | notStarted {points : List (Waypoint Float)} {reports : List Report}
      (prepared : Prepared goal points reports) (fault : Follower.Fault) :
      Whole mode goal (reports ++ [.asked (.start goal)] ++ [.started goal (.error fault)])
  /-- It was interrupted before the points were followed. -/
  | flagged {points : List (Waypoint Float)} {reports : List Report}
      (started : Started goal points reports) :
      Whole mode goal (reports ++ [.asked (.stop goal)])
  | stopped {points : List (Waypoint Float)} {answer : Except Follower.Fault Streamed}
      {reports : List Report} (followed : Followed mode goal points answer reports)
      (calm : isHang answer = false) : Whole mode goal (reports ++ [.asked (.stop goal)])
  | hung {points : List (Waypoint Float)} {fault : Follower.Fault} {reports : List Report}
      (followed : Followed mode goal points (.error fault) reports) (hang : fault.isHang = true) :
      Whole mode goal (reports ++ [.asked (.stop goal)] ++ [.asked (.hang goal fault)])

/-- An execution that ended with the worker: the points were followed to their end, and the time to
wait for the arm to arrive could not be represented. -/
structure BrokenDown (config : Config) (goal : Goal.Id) (points : List (Waypoint Float))
    (reports : List Report) : Prop where
  followed : Followed config.mode goal points (.ok .completed) reports
  smooth : config.smooth = true
  tooLong : ∃ since fault, Monitor.make config since points = .error fault

end Grammar

/-! ### Places of the worker in the grammar -/

def WorkerPlace.beginning : WorkerPlace → Option Job
  | .checkAccept job | .sendAccepted job | .startPoint job => some job
  | _ => none

def WorkerPlace.following : WorkerPlace → Option Job
  | .streaming job _ | .sending job _ | .holding job => some job
  | _ => none

/-- Whether the worker watches for arrival, and does not only look at the flag. -/
def WorkerPlace.isWatchful : WorkerPlace → Bool
  | .monitor .. | .graceClock .. | .graceFlag .. | .pollFlag .. | .pollJoints .. | .pollClock .. =>
    true
  | _ => false

/-- The job that the worker is about to drop. -/
def WorkerPlace.leaving : WorkerPlace → Option Job
  | .checkClosing job | .lockCurrent job | .vacate job | .lowerGoal job | .unlockCurrent job
  | .unlockExec job => some job
  | _ => none

/-- What has been reported of a goal when the worker stands at a place. -/
inductive Stage (config : Config) : Goal.Id → WorkerPlace → List Report → Prop where
  | elsewhere {goal : Goal.Id} {place : WorkerPlace} {reports : List Report}
      (apart : place.goal? ≠ some goal)
      (done : reports = [] ∨ Whole config.mode goal reports ∨
        (place = .dead ∧ ∃ points, BrokenDown config goal points reports)) :
      Stage config goal place reports
  | waiting {goal : Goal.Id} {place : WorkerPlace} (waits : place.waiting = some goal) :
      Stage config goal place []
  | beginning {job : Job} {place : WorkerPlace} (begins : place.beginning = some job) :
      Stage config job.id place [.begun job.id]
  | start {job : Job} {reports : List Report} (prepared : Prepared job.id job.points reports) :
      Stage config job.id (.start job) reports
  | starting {job : Job} {reports : List Report} (prepared : Prepared job.id job.points reports) :
      Stage config job.id (.starting job) (reports ++ [.asked (.start job.id)])
  | checkFlag {job : Job} {reports : List Report} (started : Started job.id job.points reports) :
      Stage config job.id (.checkFlag job) reports
  | beginStream {job : Job} {reports : List Report} (started : Started job.id job.points reports) :
      Stage config job.id (.beginStream job) reports
  | following {job : Job} {place : WorkerPlace} {reports : List Report}
      (follows : place.following = some job)
      (following : Streaming config.mode job.id job.points reports) :
      Stage config job.id place reports
  | watching {job : Job} {place : WorkerPlace} {reports : List Report}
      (watched : place.watched = some job) (watchful : place.isWatchful = config.smooth)
      (followed : Followed config.mode job.id job.points (.ok .completed) reports) :
      Stage config job.id place reports
  | flagged {job : Job} {reports : List Report} (started : Started job.id job.points reports) :
      Stage config job.id (.stop job none) reports
  | stop {job : Job} {answer : Except Follower.Fault Streamed} {reports : List Report}
      (followed : Followed config.mode job.id job.points answer reports)
      (calm : isHang answer = false) : Stage config job.id (.stop job none) reports
  | stopHung {job : Job} {fault : Follower.Fault} {reports : List Report}
      (followed : Followed config.mode job.id job.points (.error fault) reports)
      (hang : fault.isHang = true) : Stage config job.id (.stop job (some fault)) reports
  | hang {job : Job} {fault : Follower.Fault} {reports : List Report}
      (followed : Followed config.mode job.id job.points (.error fault) reports)
      (hang : fault.isHang = true) :
      Stage config job.id (.hang job fault) (reports ++ [.asked (.stop job.id)])
  | leaving {job : Job} {place : WorkerPlace} {reports : List Report}
      (leaves : place.leaving = some job)
      (whole : reports = [] ∨ Whole config.mode job.id reports) :
      Stage config job.id place reports

/-! ### Steps of the worker in the grammar -/

section Steps

variable {config : Config} {worker worker' : Worker} {choice : Choice} {memory memory' : Memory}
  {goal : Goal.Id} {reports : List Report}

@[simp] theorem asked_self (calls : List Call) : asked calls calls = [] := by simp [asked]

@[simp] theorem asked_append (calls : List Call) (call : Call) :
    asked calls (calls ++ [call]) = if call.goal?.isSome then [.asked call] else [] := by
  cases isFor : call.goal?.isSome <;> simp [asked, isFor]

/-- What a step of the worker has to report concerns the goal in its hand. -/
theorem WorkerRule.goal?_of_asked (rule : WorkerRule worker memory worker' memory') :
    ∀ report ∈ asked memory.calls memory'.calls, report.goal? = worker.place.goal? := by
  cases rule.logging with
  | nothing same =>
    rw [same, asked_self]
    simp
  | start job stands _ noted =>
    rw [noted, asked_append, stands]
    simp [Call.goal?, Report.goal?, WorkerPlace.goal?, WorkerPlace.job?]
  | more goal call underWay mine _ noted =>
    rw [noted, asked_append, mine, goal?_of_late (late_of_underWay underWay)]
    simp [Report.goal?, mine]

theorem goal?_of_report : ∀ report ∈ worker.report memory choice,
    report.goal? = worker.place.goal? := by
  obtain ⟨place, finishing, first⟩ := worker
  cases finishing with
  | some _ => simp [Worker.report]
  | none =>
    intro report there
    dsimp only [Worker.report] at there
    unfold WorkerPlace.report at there
    split at there
    case h_1 => split at there <;> simp_all [Report.goal?, WorkerPlace.goal?, WorkerPlace.job?]
    case h_2 => simp_all [Report.goal?, WorkerPlace.goal?, WorkerPlace.job?]
    case h_7 => simp at there
    all_goals
      split at there
      · simp_all [Report.goal?, WorkerPlace.goal?, WorkerPlace.job?]
      · simp at there

/-- The place of the arm is missing only if it is needed and not known. -/
theorem withStartPoint_eq_none {joints : Option JointFeedback} {points : List (Waypoint Float)}
    (unknown : withStartPoint joints points = none) :
    ∃ first rest, points = first :: rest ∧ Duration.zero < first.time ∧ joints = none := by
  cases points with
  | nil => cases unknown
  | cons first rest =>
    simp only [withStartPoint] at unknown
    split at unknown
    · rename_i needed
      exact ⟨first, rest, rfl, needed, Option.map_eq_none_iff.mp unknown⟩
    · cases unknown

/-- When the executor has answered, the worker watches for arrival or is about to stop it. -/
theorem Stage.afterStream {job : Job} {since : Duration}
    {answer : Except Follower.Fault Streamed}
    (followed : Followed config.mode job.id job.points answer reports) :
    Stage config job.id (worker.afterStream config job since answer).place reports := by
  unfold Worker.afterStream
  split
  · cases smooth : config.smooth with
    | true => exact .watching rfl smooth.symm followed
    | false => exact .watching rfl smooth.symm followed
  · exact .stop followed rfl
  · rename_i fault
    cases hang : fault.isHang with
    | true => exact .stopHung followed hang
    | false => exact .stop followed hang

/-! The worker has nothing to finish first in what follows. -/

section Free

variable {place : WorkerPlace} {job : Job} {first : Bool}

theorem Stage.step_waiting (waits : place.waiting = some goal)
    (step : Worker.step { place, first } choice memory = some (worker', memory')) :
    Stage config goal worker'.place
      (asked memory.calls memory'.calls ++ place.report memory choice) := by
  cases place with
  | unlockPending taken =>
    obtain ⟨job, rfl, rfl⟩ := Option.map_eq_some_iff.mp waits
    cases step
    simpa [Memory.release, WorkerPlace.report] using Stage.waiting rfl
  | lockExec job =>
    cases waits
    obtain ⟨-, result⟩ := map_acquire_eq_some step
    cases result
    simpa [Memory.taken, WorkerPlace.report] using Stage.waiting rfl
  | checkFinished job =>
    cases waits
    cases step
    cases decided : (memory.progress job.id).finished with
    | true => simpa [WorkerPlace.report, decided] using Stage.leaving rfl (.inl rfl)
    | false => simpa [WorkerPlace.report, decided] using Stage.beginning rfl
  | _ => cases waits

theorem Stage.step_beginning (begins : place.beginning = some job)
    (step : Worker.step { place, first } choice memory = some (worker', memory')) :
    Stage config job.id worker'.place
      ([.begun job.id] ++ (asked memory.calls memory'.calls ++ place.report memory choice)) := by
  cases place with
  | checkAccept job =>
    cases begins
    cases step
    cases decided : (memory.progress job.id).finished with
    | true => simpa [WorkerPlace.report] using Stage.beginning rfl
    | false => simpa [WorkerPlace.report] using Stage.beginning rfl
  | sendAccepted job =>
    cases begins
    cases step
    simpa [Memory.modify, WorkerPlace.report] using Stage.beginning rfl
  | startPoint job =>
    cases begins
    simp only [Worker.step, Worker.beginStep] at step
    split at step
    · rename_i points known
      cases step
      rw [asked_self]
      have prepared : Prepared ({ job with points } : Job).id points _ := .look known
      exact .start prepared
    · rename_i unknown
      cases step
      obtain ⟨first, rest, asked, needed, blind⟩ := withStartPoint_eq_none unknown
      rw [asked_self]
      refine .leaving rfl (.inr ?_)
      rw [WorkerPlace.report, asked, blind]
      exact .unprepared needed
  | _ => cases begins

theorem Stage.step_following (follows : place.following = some job)
    (following : Streaming memory.config.mode job.id job.points reports)
    (step : Worker.step { place, first } choice memory = some (worker', memory')) :
    Stage memory.config job.id worker'.place
      (reports ++ (asked memory.calls memory'.calls ++ place.report memory choice)) := by
  cases place with
  | streaming job since =>
    cases follows
    simp only [Worker.step, Worker.streamStep] at step
    split at step
    · cases step
      rw [asked_self]
      exact .afterStream (.answer following _)
    · cases step
      rw [asked_self]
      split
      · simpa [WorkerPlace.report] using Stage.following rfl following
      · simpa [WorkerPlace.report] using Stage.following rfl following
    · cases step
  | sending job since =>
    cases follows
    simp only [Worker.step, Worker.streamStep] at step
    split at step
    · cases step
      simpa [Memory.note, WorkerPlace.report, Call.goal?] using
        Stage.following rfl following.servo
    · cases step
      rw [asked_self]
      exact .afterStream (.answer following _)
    · cases step
  | holding job =>
    cases follows
    simp only [Worker.step, Worker.streamStep] at step
    split at step
    · cases step
      simpa [Memory.note, WorkerPlace.report, Call.goal?, Except.map] using
        Stage.afterStream (.hold following)
    · cases step
      rw [asked_self]
      exact .afterStream (.answer following _)
    · cases step
  | _ => cases follows

theorem Stage.step_watching (watched : place.watched = some job)
    (watchful : place.isWatchful = memory.config.smooth)
    (followed : Followed memory.config.mode job.id job.points (.ok .completed) reports)
    (step : Worker.step { place, first } choice memory = some (worker', memory')) :
    Stage memory.config job.id worker'.place
      (reports ++ (asked memory.calls memory'.calls ++ place.report memory choice)) := by
  have goesOn : ∀ {next : WorkerPlace}, next.watched = some job →
      next.isWatchful = place.isWatchful → Stage memory.config job.id next reports :=
    fun watches same => .watching watches (same.trans watchful) followed
  have ends : Stage memory.config job.id (.stop job none) reports := .stop followed rfl
  cases place with
  | monitor job since =>
    cases watched
    simp only [Worker.step, Worker.watchStep] at step
    split at step
    · cases step
      simp only [asked_self, WorkerPlace.report, List.append_nil]
      exact goesOn rfl rfl
    · rename_i fault tooLong
      cases step
      have broken : BrokenDown memory.config job.id job.points reports :=
        ⟨followed, watchful.symm, since, fault, tooLong⟩
      have apart : WorkerPlace.goal? .dead ≠ some job.id := by
        intro same
        cases same
      simpa [Memory.release, WorkerPlace.report] using
        Stage.elsewhere apart (.inr (.inr ⟨rfl, _, broken⟩))
  | timedCheck job =>
    cases watched
    cases step
    simp only [asked_self, WorkerPlace.report, List.append_nil]
    split
    · exact ends
    · exact ends
  | graceClock job monitor =>
    cases watched
    cases step
    simp only [asked_self, WorkerPlace.report, List.append_nil, goto_place]
    split
    · exact goesOn rfl rfl
    · exact goesOn rfl rfl
  | graceFlag job monitor | pollFlag job monitor =>
    cases watched
    cases step
    simp only [asked_self, WorkerPlace.report, List.append_nil, goto_place]
    split
    · exact ends
    · exact goesOn rfl rfl
  | pollJoints job monitor | pollClock job monitor =>
    cases watched
    cases step
    simp only [asked_self, WorkerPlace.report, List.append_nil]
    split
    · exact ends
    · exact goesOn rfl rfl
  | _ => cases watched

theorem Stage.step_leaving (leaves : place.leaving = some job)
    (whole : reports = [] ∨ Whole config.mode job.id reports)
    (step : Worker.step { place, first } choice memory = some (worker', memory')) :
    Stage config job.id worker'.place
      (reports ++ (asked memory.calls memory'.calls ++ place.report memory choice)) := by
  cases place with
  | checkClosing job =>
    cases leaves
    cases step
    split
    · simpa [WorkerPlace.report] using Stage.leaving rfl whole
    · simpa [WorkerPlace.report] using Stage.leaving rfl whole
  | lockCurrent job =>
    cases leaves
    obtain ⟨-, result⟩ := map_acquire_eq_some step
    cases result
    simpa [Memory.taken, WorkerPlace.report] using Stage.leaving rfl whole
  | vacate job =>
    cases leaves
    simp only [Worker.step, Worker.endStep] at step
    split at step <;> cases step
    · simpa [WorkerPlace.report] using Stage.leaving rfl whole
    · simpa [WorkerPlace.report] using Stage.leaving rfl whole
  | lowerGoal job | unlockCurrent job =>
    cases leaves
    cases step
    simpa [Memory.release, WorkerPlace.report] using Stage.leaving rfl whole
  | unlockExec job =>
    cases leaves
    cases step
    have apart : WorkerPlace.goal? .checkRunning ≠ some job.id := by
      intro same
      cases same
    simpa [Memory.release, WorkerPlace.report] using
      Stage.elsewhere apart (whole.imp_right .inl)
  | _ => cases leaves

end Free

/-- A step of the worker goes on in the grammar of the goal in its hand. -/
theorem Stage.step (stage : Stage memory.config goal worker.place reports)
    (mine : worker.place.goal? = some goal)
    (step : worker.step choice memory = some (worker', memory')) :
    Stage memory.config goal worker'.place
      (reports ++ (asked memory.calls memory'.calls ++ worker.report memory choice)) := by
  obtain ⟨place, finishing, first⟩ := worker
  cases finishing with
  | some finishing =>
    obtain ⟨progress, rfl⟩ := (finishRule_of_finishStep rfl (Option.some.inj step)).memory_eq
    rw [(finishRule_of_finishStep rfl (Option.some.inj step)).place_eq]
    simpa [Worker.report] using stage
  | none =>
    change Stage memory.config goal worker'.place
      (reports ++ (asked memory.calls memory'.calls ++ place.report memory choice))
    change Stage memory.config goal place reports at stage
    cases stage with
    | elsewhere apart => exact absurd mine apart
    | waiting waits => exact .step_waiting waits step
    | beginning begins => exact .step_beginning begins step
    | following follows following => exact .step_following follows following step
    | watching watched watchful followed => exact .step_watching watched watchful followed step
    | leaving leaves whole => exact .step_leaving leaves whole step
    | start prepared =>
      cases step
      simpa [Memory.note, WorkerPlace.report, Call.goal?] using Stage.starting prepared
    | starting prepared =>
      simp only [Worker.step, Worker.beginStep] at step
      split at step <;> cases step
      · rw [asked_self]
        exact .checkFlag (.start prepared)
      · rw [asked_self]
        exact .leaving rfl (.inr (.notStarted prepared _))
    | checkFlag started =>
      cases step
      simp only [asked_self, WorkerPlace.report, List.append_nil, goto_place]
      split
      · exact .flagged started
      · exact .beginStream started
    | beginStream started =>
      cases step
      simpa [Memory.note, WorkerPlace.report, Call.goal?] using Stage.following rfl (.stream started)
    | flagged started =>
      cases step
      simpa [Memory.note, WorkerPlace.report, Call.goal?] using
        Stage.leaving rfl (.inr (.flagged started))
    | stop followed calm =>
      cases step
      simpa [Memory.note, WorkerPlace.report, Call.goal?] using
        Stage.leaving rfl (.inr (.stopped followed calm))
    | stopHung followed hang =>
      cases step
      simpa [Memory.note, WorkerPlace.report, Call.goal?] using Stage.hang followed hang
    | hang followed hang =>
      cases step
      simpa [Memory.note, WorkerPlace.report, Call.goal?] using
        Stage.leaving rfl (.inr (.hung followed hang))

end Steps

end ArmLink.Coordinator
