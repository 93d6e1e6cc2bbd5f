import ArmLink.Proofs.Coordinator.Turns
import ArmLink.Proofs.Decimal.Doubles

/-!
Watching for arrival, look by look.

While the worker watches, every step of it reads one cell and finds there whatever the other threads
have left; so a stretch of watching is a run of the worker's steps over a list of memories that have
nothing to do with each other (`Worker.watch`).  `Monitor.reads` lays out which cells the looks of a
list read, and in which order: early ones the clock and then the flag, later ones the flag, the joints
and then the clock.  `settled_reads` shows by induction on the looks that the worker ends where the first
look that decides sends it, and `watching_of_make` says what that comes to.
-/

namespace ArmLink.Coordinator

open Goal Link Motion Decimal

/-! ### What one look decides -/

/-- Feedback that shows the arm at a point and still, every comparison being one of doubles. -/
def ArrivedAt (config : Config) (last : Waypoint Float) (joints : Option JointFeedback) : Prop :=
  ∃ feedback, joints = some feedback ∧ ∀ joint : Fin jointCount,
    (feedback.positions.get joint - last.positions.get joint).abs < config.goalTolerance ∧
      (feedback.velocities.get joint).abs < config.motionThreshold

/-- No feedback, and no value that is no number, shows an arm at a point. -/
theorem ArrivedAt.numbers {config : Config} {last : Waypoint Float} {joints : Option JointFeedback}
    (arrived : ArrivedAt config last joints) :
    ∃ feedback, joints = some feedback ∧ ∀ joint : Fin jointCount,
      (feedback.positions.get joint).isNaN = false ∧ (last.positions.get joint).isNaN = false ∧
        (feedback.velocities.get joint).isNaN = false := by
  obtain ⟨feedback, known, near⟩ := arrived
  refine ⟨feedback, known, fun joint => ?_⟩
  obtain ⟨position, target⟩ := Reading.isNaN_eq_false_of_abs_sub_lt (near joint).1
  refine ⟨position, target, Bool.eq_false_iff.mpr fun nan => ?_⟩
  have number := Reading.isNaN_eq_false_of_lt (near joint).2
  rw [Reading.isNaN_abs nan] at number
  cases number

/-- What a look decides: a request to break off at any time, arrival from the end of the grace on, and
the deadline then if the arm has not arrived. -/
inductive Poll.Decides (monitor : Monitor) (Arrived : Option JointFeedback → Prop) (poll : Poll) :
    Verdict → Prop
  | interrupted (asked : poll.interrupted = true) : Decides monitor Arrived poll .interrupted
  | arrived (unasked : poll.interrupted = false) (late : monitor.graceEnd ≤ poll.time)
      (there : Arrived poll.joints) : Decides monitor Arrived poll .arrived
  | timedOut (unasked : poll.interrupted = false) (late : monitor.graceEnd ≤ poll.time)
      (away : ¬ Arrived poll.joints) (expired : monitor.deadline ≤ poll.time) :
      Decides monitor Arrived poll .timedOut

/-- A look that decides nothing. -/
def Poll.Idle (monitor : Monitor) (Arrived : Option JointFeedback → Prop) (poll : Poll) : Prop :=
  ∀ verdict, ¬ poll.Decides monitor Arrived verdict

namespace Monitor

variable {config : Config} {since : Duration} {points : List (Waypoint Float)} {monitor : Monitor}
  {last : Waypoint Float} {poll : Poll} {polls : List Poll} {verdict : Verdict}

theorem later_eq_ok {moment span result : Duration} (fits : moment.later span = .ok result) :
    result = moment.plus span := by
  rw [Duration.later] at fits
  split at fits
  · cases fits
    rfl
  · cases fits

theorem make_eq_ok (made : make config since points = .ok monitor) :
    ∃ grace limit, (totalDuration points).scale config.graceFactor = .ok grace ∧
      (totalDuration points).scale config.timeoutFactor = .ok limit ∧
      monitor = {
        graceEnd := since.plus grace
        deadline := since.plus limit
        target := (points.getLast?.map (·.positions)).getD (Joints.same 0)
        tolerance := config.goalTolerance
        threshold := config.motionThreshold } := by
  simp only [make, bind, Except.bind] at made
  cases graceSpan : (totalDuration points).scale config.graceFactor with
  | error fault => simp [graceSpan] at made
  | ok grace =>
    cases graceEnd : since.later grace with
    | error fault => simp [graceSpan, graceEnd] at made
    | ok first =>
      cases limitSpan : (totalDuration points).scale config.timeoutFactor with
      | error fault => simp [graceSpan, graceEnd, limitSpan] at made
      | ok limit =>
        cases deadline : since.later limit with
        | error fault => simp [graceSpan, graceEnd, limitSpan, deadline] at made
        | ok second =>
          simp only [graceSpan, graceEnd, limitSpan, deadline] at made
          cases made
          rw [later_eq_ok graceEnd, later_eq_ok deadline]
          exact ⟨grace, limit, rfl, rfl, rfl⟩

theorem hasArrived_iff (made : make config since points = .ok monitor)
    (ends : points.getLast? = some last) (joints : Option JointFeedback) :
    monitor.hasArrived joints = true ↔ ArrivedAt config last joints := by
  obtain ⟨_, _, -, -, rfl⟩ := make_eq_ok made
  cases joints with
  | none => simp [hasArrived, ArrivedAt]
  | some feedback =>
    simp only [hasArrived, ArrivedAt, isNear, JointFeedback.isStill, ends, Bool.and_eq_true,
      Vector.all_eq_true, Vector.getElem_zipWith, id_eq, decide_eq_true_eq, Option.map_some,
      Option.getD_some, Option.some.injEq, exists_eq_left', Fin.forall_iff, ← forall_and]
    rfl

/-- A look decides what it is judged to. -/
theorem judge_eq_some_iff {Arrived : Option JointFeedback → Prop}
    (tells : ∀ joints, monitor.hasArrived joints = true ↔ Arrived joints) :
    monitor.judge poll = some verdict ↔ poll.Decides monitor Arrived verdict := by
  have order : ¬ poll.time < monitor.graceEnd ↔ monitor.graceEnd ≤ poll.time := Nat.not_lt
  rw [judge]
  constructor
  · intro judged
    split_ifs at judged with asked early arrived expired <;> cases judged
    · exact .interrupted asked
    · exact .arrived (Bool.eq_false_iff.mpr asked) (order.mp early) ((tells _).mp arrived)
    · exact .timedOut (Bool.eq_false_iff.mpr asked) (order.mp early)
        (fun there => arrived ((tells _).mpr there)) expired
  · rintro (asked | ⟨unasked, late, there⟩ | ⟨unasked, late, away, expired⟩)
    · rw [if_pos asked]
    · rw [unasked, if_neg Bool.false_ne_true, if_neg (order.mpr late), if_pos ((tells _).mpr there)]
    · rw [unasked, if_neg Bool.false_ne_true, if_neg (order.mpr late),
        if_neg fun arrived => away ((tells _).mp arrived), if_pos expired]

theorem judge_eq_none_iff {Arrived : Option JointFeedback → Prop}
    (tells : ∀ joints, monitor.hasArrived joints = true ↔ Arrived joints) :
    monitor.judge poll = none ↔ poll.Idle monitor Arrived := by
  simp only [Poll.Idle, ← judge_eq_some_iff tells, Option.eq_none_iff_forall_ne_some, ne_eq]

/-- What a sequence of looks decides is what the first look decides that is not idle. -/
theorem decide_eq_some_iff {Arrived : Option JointFeedback → Prop}
    (tells : ∀ joints, monitor.hasArrived joints = true ↔ Arrived joints) :
    monitor.decide polls = some verdict ↔
      ∃ before poll after, polls = before ++ poll :: after ∧
        poll.Decides monitor Arrived verdict ∧ ∀ earlier ∈ before, earlier.Idle monitor Arrived := by
  simp only [decide, List.findSome?_eq_some_iff, judge_eq_none_iff tells, judge_eq_some_iff tells]

theorem decide_eq_none_iff {Arrived : Option JointFeedback → Prop}
    (tells : ∀ joints, monitor.hasArrived joints = true ↔ Arrived joints) :
    monitor.decide polls = none ↔ ∀ poll ∈ polls, poll.Idle monitor Arrived := by
  simp only [decide, List.findSome?_eq_none_iff, judge_eq_none_iff tells]

end Monitor

/-! ### A stretch of watching -/

/-- What the worker finds at each of the three reads of a look. -/
structure Look where
  flag : Memory
  joints : Memory
  clock : Memory

namespace Look

def poll (look : Look) : Poll :=
  ⟨look.clock.clock, look.flag.interrupt, look.joints.context.joints⟩

variable (look : Look)

theorem clock_clock : look.clock.clock = look.poll.time := rfl

theorem flag_interrupt : look.flag.interrupt = look.poll.interrupted := rfl

theorem joints_joints : look.joints.context.joints = look.poll.joints := rfl

/-- The reads of a look once the grace has ended. -/
def reads : List Memory := [look.flag, look.joints, look.clock]

end Look

/-- The reads of a sequence of looks.  Before the first look after the grace the clock is read once
more, which is how the worker learns that the grace has ended. -/
def Monitor.reads (monitor : Monitor) (ended : Memory) : List Look → List Memory
  | [] => []
  | look :: rest =>
    if look.poll.time < monitor.graceEnd then look.clock :: look.flag :: monitor.reads ended rest
    else ended :: (look :: rest).flatMap Look.reads

namespace Worker

variable {job : Job} {monitor : Monitor} {first : Bool} {place : WorkerPlace} {ended : Memory}
  {memories : List Memory} {look : Look} {looks : List Look}

/-- Whether the worker is watching for arrival. -/
def isWatching (worker : Worker) : Bool :=
  worker.finishing.isNone &&
    match worker.place with
    | .monitor .. | .graceClock .. | .graceFlag .. | .pollFlag .. | .pollJoints .. | .pollClock .. =>
      true
    | _ => false

/-- The worker after steps of watching, each of which finds a memory of its own; what is left of the
memories when it stops watching counts no more. -/
def watch (worker : Worker) : List Memory → Worker
  | [] => worker
  | memory :: rest =>
    if worker.isWatching then
      match worker.step .goOn memory with
      | some (next, _) => next.watch rest
      | none => worker
    else worker

/-- Where a verdict leaves the worker. -/
def conclude (worker : Worker) (job : Job) : Verdict → Worker
  | .interrupted => worker.goto (.stop job none)
  | .arrived => worker.finish job.id .succeeded (.stop job none)
  | .timedOut => worker.finish job.id (.aborted .timedOut) (.stop job none)

/-- A worker that watches at some place. -/
abbrev watching (first : Bool) (place : WorkerPlace) : Worker := ⟨place, none, first⟩

theorem watch_of_not_isWatching {worker : Worker} (left : worker.isWatching = false) :
    worker.watch memories = worker := by
  cases memories with
  | nil => rfl
  | cons memory rest => rw [watch, left, if_neg Bool.false_ne_true]

theorem isWatching_conclude (watcher : Worker) (job : Job) (verdict : Verdict) :
    (watcher.conclude job verdict).isWatching = false := by
  cases verdict <;> simp [conclude, isWatching, Thread.goto, Thread.finish]

theorem watch_conclude (worker : Worker) (verdict : Verdict) :
    (worker.conclude job verdict).watch memories = worker.conclude job verdict :=
  watch_of_not_isWatching (isWatching_conclude worker job verdict)

theorem step_monitor {since : Duration} {start : Memory}
    (made : Monitor.make start.config since job.points = .ok monitor) :
    (watching first (.monitor job since)).step .goOn start =
      some (watching first (.graceClock job monitor), start) := by
  simp only [step, watchStep, made]
  rfl

section Reads

variable (worker : Worker) (job : Job) (monitor : Monitor) (first : Bool) (memory : Memory)
  (memories : List Memory)

theorem watch_graceClock :
    (watching first (.graceClock job monitor)).watch (memory :: memories) =
      (watching first (if memory.clock < monitor.graceEnd then .graceFlag job monitor
        else .pollFlag job monitor)).watch memories := rfl

theorem watch_graceFlag :
    (watching first (.graceFlag job monitor)).watch (memory :: memories) =
      (watching first (if memory.interrupt then .stop job none
        else .graceClock job monitor)).watch memories := rfl

theorem watch_pollFlag :
    (watching first (.pollFlag job monitor)).watch (memory :: memories) =
      (watching first (if memory.interrupt then .stop job none
        else .pollJoints job monitor)).watch memories := rfl

theorem watch_pollJoints :
    (watching first (.pollJoints job monitor)).watch (memory :: memories) =
      (if monitor.hasArrived memory.context.joints then
        (watching first (.pollJoints job monitor)).conclude job .arrived
      else watching first (.pollClock job monitor)).watch memories := rfl

theorem watch_pollClock :
    (watching first (.pollClock job monitor)).watch (memory :: memories) =
      (if monitor.deadline ≤ memory.clock then
        (watching first (.pollClock job monitor)).conclude job .timedOut
      else watching first (.pollFlag job monitor)).watch memories := rfl

end Reads

/-- A look before the end of the grace: only a request to break off counts. -/
theorem watch_early (early : look.poll.time < monitor.graceEnd) :
    (watching first (.graceClock job monitor)).watch (look.clock :: look.flag :: memories) =
      match monitor.judge look.poll with
      | none => (watching first (.graceClock job monitor)).watch memories
      | some verdict => (watching first (.graceClock job monitor)).conclude job verdict := by
  rw [watch_graceClock, look.clock_clock, if_pos early, watch_graceFlag, look.flag_interrupt]
  by_cases asked : look.poll.interrupted = true
  · rw [if_pos asked, Monitor.judge, if_pos asked]
    exact watch_conclude (watching first (.graceClock job monitor)) .interrupted
  · rw [if_neg asked, Monitor.judge, if_neg asked, if_pos early]

/-- A look after the end of the grace. -/
theorem watch_late (late : ¬ look.poll.time < monitor.graceEnd) :
    (watching first (.pollFlag job monitor)).watch (look.reads ++ memories) =
      match monitor.judge look.poll with
      | none => (watching first (.pollFlag job monitor)).watch memories
      | some verdict => (watching first (.pollFlag job monitor)).conclude job verdict := by
  rw [Look.reads, List.cons_append, watch_pollFlag, look.flag_interrupt]
  by_cases asked : look.poll.interrupted = true
  · rw [if_pos asked, Monitor.judge, if_pos asked]
    exact watch_conclude (watching first (.pollFlag job monitor)) .interrupted
  rw [if_neg asked, List.cons_append, watch_pollJoints, look.joints_joints, Monitor.judge,
    if_neg asked, if_neg late]
  by_cases arrived : monitor.hasArrived look.poll.joints = true
  · rw [if_pos arrived, if_pos arrived]
    exact watch_conclude (watching first (.pollFlag job monitor)) .arrived
  rw [if_neg arrived, if_neg arrived, List.cons_append, watch_pollClock, look.clock_clock]
  by_cases expired : monitor.deadline ≤ look.poll.time
  · rw [if_pos expired, if_pos expired]
    exact watch_conclude (watching first (.pollFlag job monitor)) .timedOut
  · rw [if_neg expired, if_neg expired, List.nil_append]

/-- A worker that some looks have left watching, or that has come to a verdict of theirs. -/
def Settled (watcher : Worker) (job : Job) (worker : Worker) : Option Verdict → Prop
  | none => worker.isWatching = true
  | some verdict => worker = watcher.conclude job verdict

theorem settled_late (late : ∀ look ∈ looks, ¬ look.poll.time < monitor.graceEnd) :
    Settled (watching first place) job
      ((watching first (.pollFlag job monitor)).watch (looks.flatMap Look.reads))
      (monitor.decide (looks.map Look.poll)) := by
  induction looks with
  | nil => rfl
  | cons look rest ih =>
    rw [List.flatMap_cons, watch_late (late look List.mem_cons_self), List.map_cons, Monitor.decide,
      List.findSome?_cons]
    cases monitor.judge look.poll with
    | none => exact ih fun other later => late other (List.mem_cons_of_mem _ later)
    | some verdict => cases verdict <;> rfl

/-- The worker ends where the first look that decides anything sends it. -/
theorem settled_reads
    (ordered : looks.Pairwise fun earlier later => earlier.poll.time ≤ later.poll.time)
    (isOver : monitor.graceEnd ≤ ended.clock) :
    Settled (watching first place) job
      ((watching first (.graceClock job monitor)).watch (monitor.reads ended looks))
      (monitor.decide (looks.map Look.poll)) := by
  induction looks with
  | nil => rfl
  | cons look rest ih =>
    obtain ⟨after, ordered⟩ := List.pairwise_cons.mp ordered
    rw [Monitor.reads]
    split_ifs with early
    · rw [watch_early early, List.map_cons, Monitor.decide, List.findSome?_cons]
      cases monitor.judge look.poll with
      | none => exact ih ordered
      | some verdict => cases verdict <;> rfl
    · -- From this look on the times do not fall below the end of the grace any more.
      rw [watch_graceClock, if_neg (show ¬ ended.clock < monitor.graceEnd from Nat.not_lt.mpr isOver)]
      apply settled_late
      intro other inside
      have start : monitor.graceEnd ≤ look.poll.time := Nat.not_lt.mp early
      rcases List.mem_cons.mp inside with rfl | later
      · exact early
      · exact Nat.not_lt.mpr (Nat.le_trans start (after other later))

theorem settled_of_make {watcher : Worker} {since : Duration} {start : Memory}
    (placed : watcher.place = .monitor job since) (free : watcher.finishing = none)
    (made : Monitor.make start.config since job.points = .ok monitor)
    (ordered : looks.Pairwise fun earlier later => earlier.poll.time ≤ later.poll.time)
    (isOver : monitor.graceEnd ≤ ended.clock) :
    Settled watcher job (watcher.watch (start :: monitor.reads ended looks))
      (monitor.decide (looks.map Look.poll)) := by
  obtain ⟨place, finishing, first⟩ := watcher
  cases placed
  cases free
  have begun : (watching first (.monitor job since)).watch (start :: monitor.reads ended looks) =
      (watching first (.graceClock job monitor)).watch (monitor.reads ended looks) := by
    rw [watch, if_pos (show isWatching _ = true from rfl), step_monitor made]
  rw [begun]
  exact settled_reads ordered isOver

end Worker

/-! ### The whole stretch -/

variable {config : Config} {since : Duration} {job : Job} {last : Waypoint Float} {monitor : Monitor}
  {start ended : Memory} {looks : List Look} {watcher : Worker}

/-- How a worker that watches for arrival fares with a sequence of looks, when sending began at
`since` and the motion ends in the point `last`. -/
structure Watched (config : Config) (since : Duration) (job : Job) (last : Waypoint Float)
    (monitor : Monitor) (polls : List Poll) (watcher final : Worker) : Prop where
  graceEnd : ∃ span, (totalDuration job.points).scale config.graceFactor = .ok span ∧
    monitor.graceEnd = since.plus span
  deadline : ∃ span, (totalDuration job.points).scale config.timeoutFactor = .ok span ∧
    monitor.deadline = since.plus span
  /-- While every look is idle the watching goes on. -/
  goesOn : (∀ poll ∈ polls, poll.Idle monitor (ArrivedAt config last)) → final.isWatching = true
  /-- The first look that is not idle decides. -/
  decides : ∀ before poll after verdict, polls = before ++ poll :: after →
    (∀ earlier ∈ before, earlier.Idle monitor (ArrivedAt config last)) →
    poll.Decides monitor (ArrivedAt config last) verdict → final = watcher.conclude job verdict
  /-- Success rests on feedback of the arm at its target and still, all of it numbers. -/
  succeeded : final.finishing = some (.mark job.id .succeeded) → ∃ poll ∈ polls,
    monitor.graceEnd ≤ poll.time ∧ ArrivedAt config last poll.joints ∧
    ∃ feedback, poll.joints = some feedback ∧ ∀ joint : Fin jointCount,
      (feedback.positions.get joint).isNaN = false ∧ (feedback.velocities.get joint).isNaN = false
  timedOut : final.finishing = some (.mark job.id (.aborted .timedOut)) → ∃ poll ∈ polls,
    monitor.deadline ≤ poll.time
  /-- An outcome was decided on before any request to break off was seen. -/
  unasked : ∀ before poll after, polls = before ++ poll :: after → poll.interrupted = true →
    final.finishing.isSome = true →
    ∃ earlier ∈ before, ¬ earlier.Idle monitor (ArrivedAt config last)
  /-- The watching ends when the times come to the end of the grace and to the deadline. -/
  ends : ∀ poll ∈ polls, monitor.graceEnd ≤ poll.time → monitor.deadline ≤ poll.time →
    final.isWatching = false

/-- A look late enough decides something. -/
theorem Poll.not_idle_of_late {poll : Poll} {Arrived : Option JointFeedback → Prop}
    (late : monitor.graceEnd ≤ poll.time) (expired : monitor.deadline ≤ poll.time) :
    ¬ poll.Idle monitor Arrived := by
  intro idle
  cases asked : poll.interrupted with
  | true => exact idle _ (.interrupted asked)
  | false =>
    by_cases there : Arrived poll.joints
    · exact idle _ (.arrived asked late there)
    · exact idle _ (.timedOut asked late there expired)

namespace Watched

variable {polls : List Poll} {final : Worker} {verdict : Verdict}

/-- An outcome comes from a verdict. -/
theorem decided_of_finishing (free : watcher.finishing = none)
    (settled : Worker.Settled watcher job final (monitor.decide polls))
    (given : final.finishing.isSome = true) :
    ∃ verdict, monitor.decide polls = some verdict ∧ final = watcher.conclude job verdict ∧
      verdict ≠ .interrupted := by
  cases decided : monitor.decide polls with
  | none =>
    rw [decided] at settled
    have silent : final.finishing.isNone = true := (Bool.and_eq_true_iff.mp settled).1
    rw [Option.isNone_iff_eq_none.mp silent] at given
    cases given
  | some verdict =>
    rw [decided] at settled
    refine ⟨verdict, rfl, settled, ?_⟩
    rintro rfl
    rw [show final = watcher.conclude job .interrupted from settled] at given
    simp [Worker.conclude, Thread.goto, free] at given

theorem of_settled (free : watcher.finishing = none)
    (made : Monitor.make config since job.points = .ok monitor)
    (ends : job.points.getLast? = some last)
    (settled : Worker.Settled watcher job final (monitor.decide polls)) :
    Watched config since job last monitor polls watcher final := by
  have tells := Monitor.hasArrived_iff made ends
  have idle := @Monitor.decide_eq_none_iff monitor polls _ tells
  have decided (verdict : Verdict) := @Monitor.decide_eq_some_iff monitor polls verdict _ tells
  have given := decided_of_finishing free settled
  obtain ⟨grace, limit, graceSpan, limitSpan, shape⟩ := Monitor.make_eq_ok made
  have decides (before : List Poll) (poll : Poll) (after : List Poll) (verdict : Verdict)
      (split : polls = before ++ poll :: after)
      (quiet : ∀ earlier ∈ before, earlier.Idle monitor (ArrivedAt config last))
      (decisive : poll.Decides monitor (ArrivedAt config last) verdict) :
      monitor.decide polls = some verdict :=
    (decided verdict).mpr ⟨before, poll, after, split, decisive, quiet⟩
  constructor
  case graceEnd => exact ⟨grace, graceSpan, by rw [shape]⟩
  case deadline => exact ⟨limit, limitSpan, by rw [shape]⟩
  case goesOn =>
    intro quiet
    rw [idle.mpr quiet] at settled
    exact settled
  case decides =>
    intro before poll after verdict split quiet decisive
    rw [decides before poll after verdict split quiet decisive] at settled
    exact settled
  case succeeded =>
    intro marked
    obtain ⟨verdict, first, rfl, outcome⟩ := given (by rw [marked]; rfl)
    obtain ⟨before, poll, after, rfl, decisive, -⟩ := (decided verdict).mp first
    cases decisive with
    | interrupted => exact absurd rfl outcome
    | timedOut => cases marked
    | arrived unasked late there =>
      obtain ⟨feedback, known, numbers⟩ := there.numbers
      exact ⟨poll, by simp, late, there, feedback, known,
        fun joint => ⟨(numbers joint).1, (numbers joint).2.2⟩⟩
  case timedOut =>
    intro marked
    obtain ⟨verdict, first, rfl, outcome⟩ := given (by rw [marked]; rfl)
    obtain ⟨before, poll, after, rfl, decisive, -⟩ := (decided verdict).mp first
    cases decisive with
    | interrupted => exact absurd rfl outcome
    | arrived => cases marked
    | timedOut unasked late away expired => exact ⟨poll, by simp, expired⟩
  case unasked =>
    intro before poll after split asked outcome
    by_contra quiet
    push Not at quiet
    obtain ⟨verdict, first, -, nonsilent⟩ := given outcome
    rw [decides before poll after .interrupted split quiet (.interrupted asked)] at first
    exact nonsilent (Option.some.inj first).symm
  case ends =>
    intro poll inside late expired
    cases first : monitor.decide polls with
    | none => exact absurd (idle.mp first poll inside) (Poll.not_idle_of_late late expired)
    | some verdict =>
      rw [first] at settled
      exact settled ▸ Worker.isWatching_conclude watcher job verdict

end Watched

/-- Where the arm is to be after a second. -/
def restPoint : Waypoint Float := ⟨Joints.same 0, Joints.same 0, ⟨1000000000⟩⟩

def restJob : Job := ⟨1, [restPoint]⟩

/-- What the worker watches for then, with a grace of the second itself. -/
def restMonitor (deadline : Duration) : Monitor :=
  { graceEnd := ⟨1000000000⟩, deadline, target := Joints.same 0, tolerance := 0.1, threshold := 0.1 }

def restWatcher : Worker := .watching false (.monitor restJob .zero)

/-- A memory without feedback in which nobody asks to break off. -/
def calm (timeoutFactor : Float) (clock : Duration) : Memory :=
  { config := plainConfig timeoutFactor, context := readyContext, clock }

def calmLook (timeoutFactor : Float) (clock : Duration) : Look :=
  ⟨calm timeoutFactor clock, calm timeoutFactor clock, calm timeoutFactor clock⟩

theorem make_restMonitor {factor : Float} {limit : Duration}
    (scaled : (totalDuration restJob.points).scale factor = .ok limit)
    (fits : Duration.zero.later limit = .ok limit) :
    Monitor.make (plainConfig factor) .zero restJob.points = .ok (restMonitor limit) := by
  have grace : (totalDuration restJob.points).scale 1.0 = .ok ⟨1000000000⟩ := by decide +kernel
  simp only [Monitor.make, plainConfig, grace, scaled, fits, bind, Except.bind]
  rfl

/-- A worker that starts to watch ends as the first look decides that is not idle. -/
theorem watching_of_make (placed : watcher.place = .monitor job since)
    (free : watcher.finishing = none)
    (made : Monitor.make start.config since job.points = .ok monitor)
    (ends : job.points.getLast? = some last)
    (ordered : looks.Pairwise fun earlier later => earlier.poll.time ≤ later.poll.time)
    (isOver : monitor.graceEnd ≤ ended.clock) :
    Watched start.config since job last monitor (looks.map Look.poll) watcher
      (watcher.watch (start :: monitor.reads ended looks)) := by
  exact .of_settled free made ends (Worker.settled_of_make placed free made ordered isOver)

/-- The arm is not heard of, and the time is used up at the first look after the grace. -/
theorem watching_of_make_rest :
    Monitor.make (plainConfig 1.0) .zero restJob.points = .ok (restMonitor ⟨1000000000⟩) ∧
      Watched (plainConfig 1.0) .zero restJob restPoint (restMonitor ⟨1000000000⟩)
        ([calmLook 1.0 ⟨1000000000⟩].map Look.poll) restWatcher
        (restWatcher.watch (calm 1.0 .zero ::
          (restMonitor ⟨1000000000⟩).reads (calm 1.0 ⟨1000000000⟩) [calmLook 1.0 ⟨1000000000⟩])) := by
  have made : Monitor.make (plainConfig 1.0) .zero restJob.points =
      .ok (restMonitor ⟨1000000000⟩) :=
    make_restMonitor (by decide +kernel) (by decide +kernel)
  exact ⟨made, @watching_of_make .zero restJob restPoint (restMonitor ⟨1000000000⟩) (calm 1.0 .zero)
    (calm 1.0 ⟨1000000000⟩) [calmLook 1.0 ⟨1000000000⟩] restWatcher rfl rfl made rfl
    (List.pairwise_singleton _ _) (by decide)⟩

/-- With no time at all until the deadline, the times of all looks have come to it; but as long as
they are before the end of the grace, no number of looks ends the watching. -/
theorem watching_past_deadline :
    Monitor.make (plainConfig 0.0) .zero restJob.points = .ok (restMonitor .zero) ∧
      (restMonitor .zero).deadline ≤ (calmLook 0.0 .zero).poll.time ∧
      ∀ count, (restWatcher.watch (calm 0.0 .zero :: (restMonitor .zero).reads
        (calm 0.0 ⟨1000000000⟩) (List.replicate count (calmLook 0.0 .zero)))).isWatching = true := by
  have made : Monitor.make (plainConfig 0.0) .zero restJob.points = .ok (restMonitor .zero) :=
    make_restMonitor (by decide +kernel) (by decide +kernel)
  refine ⟨made, by decide, fun count => ?_⟩
  have idle : (restMonitor .zero).judge (calmLook 0.0 .zero).poll = none := rfl
  have undecided : (restMonitor .zero).decide
      ((List.replicate count (calmLook 0.0 .zero)).map Look.poll) = none := by
    simp [Monitor.decide, idle]
  have settled : Worker.Settled restWatcher restJob _ _ :=
    @Worker.settled_of_make restJob (restMonitor .zero) (calm 0.0 ⟨1000000000⟩)
      (List.replicate count (calmLook 0.0 .zero)) restWatcher .zero (calm 0.0 .zero) rfl rfl made
      (List.pairwise_replicate.mpr (.inr (Nat.le_refl _))) (Nat.le_refl _)
  rw [undecided] at settled
  exact settled

end ArmLink.Coordinator
