import ArmLink.Link.Ingest
import ArmLink.Proofs.Coordinator.Execution
import ArmLink.Proofs.Goal.Checking
import Mathlib.Data.List.Induction

/-!
Which points the executor is given.

In a run, what a submitter or the worker carries comes from what was brought in from outside
(`Sources`): goals that were submitted, each under its number, and joint feedback that was observed.
A submitter carries a goal that was submitted, and from its check on the points made of it; the
worker takes these over, and before the executor is started it may put the place of the arm in front
of them (`Traced`).  Every move keeps this (`Traced.step`), so in every run each list of points that
the executor is given is traced back to its goal (`handed_of_play`).

The goal's points were checked.  The place in front was not: it is finite if the feedback is
(`feedback_handed_over` gives one that is not).
-/

namespace ArmLink.Coordinator

open Goal Link Motion Telemetry

/-! ### What is carried -/

/-- What came into a run from outside. -/
structure Sources where
  config : Config
  submitted : Goal.Id → Goal → Prop
  observed : JointFeedback → Prop

namespace Sources

/-- The job of a goal, as it comes out of the check. -/
def Passed (sources : Sources) (job : Job) : Prop :=
  ∃ goal, sources.submitted job.id goal ∧ waypoints sources.config goal = .ok job.points

/-- The job of a goal, as it goes to the executor. -/
def Ready (sources : Sources) (job : Job) : Prop :=
  ∃ asked joints, sources.Passed { job with points := asked } ∧
    (∀ feedback, joints = some feedback → sources.observed feedback) ∧
    withStartPoint joints asked = some job.points

end Sources

def Submitting.Carries (sources : Sources) : Submitting → Prop
  | .askAlive id goal | .askState id goal => sources.submitted id goal
  | .lockOld job | .readOld job | .flagOld job _ | .interruptOld job _ | .unlockOld job _
  | .lockExec job _ | .settle job | .lockCurrent job | .install job | .unlockCurrent job
  | .lowerFlag job | .raiseGoal job | .lockPending job | .enqueue job => sources.Passed job
  | .unlockPending _ | .unlockExec _ => True

def ClientPlace.Carries (sources : Sources) : ClientPlace → Prop
  | .submitting place => place.Carries sources
  | _ => True

/-- What the worker carries, until the points are with the executor. -/
def WorkerPlace.Carries (sources : Sources) : WorkerPlace → Prop
  | .unlockPending job => ∀ taken, job = some taken → sources.Passed taken
  | .lockExec job | .checkFinished job | .checkAccept job | .sendAccepted job | .startPoint job =>
    sources.Passed job
  | .start job | .starting job | .checkFlag job | .beginStream job => sources.Ready job
  | _ => True

/-- Everything in a coordinator comes from these sources. -/
structure Traced (sources : Sources) (coordinator : ArmLink.Coordinator) : Prop where
  config : coordinator.memory.config = sources.config
  joints : ∀ feedback, coordinator.memory.context.joints = some feedback →
    sources.observed feedback
  client : ∀ index, (coordinator.clientAt index).place.Carries sources
  pending : ∀ job, coordinator.memory.pending = some job → sources.Passed job
  worker : coordinator.worker.place.Carries sources
  calls : ∀ id mode points, .stream id mode points ∈ coordinator.memory.calls →
    mode = sources.config.mode ∧ sources.Ready { id, points }

section Steps

variable {sources : Sources} {workerEnded : Bool} {actor : Actor} {client client' : Client}
  {worker worker' : Worker} {memory memory' : Memory}

theorem ClientPlace.carries_of_ahead_eq_none {place : ClientPlace} (nothing : place.ahead = none) :
    place.Carries sources := by
  cases place with
  | submitting place => cases place <;> trivial
  | _ => trivial

theorem ClientRule.surroundings
    (rule : ClientRule workerEnded actor client memory client' memory') :
    memory'.config = memory.config ∧ memory'.context.joints = memory.context.joints := by
  cases rule with
  | finish rule => obtain ⟨progress, rfl⟩ := rule.memory_eq; exact ⟨rfl, rfl⟩
  | submit _ _ rule => cases rule <;> exact ⟨rfl, rfl⟩
  | cancel _ _ rule => cases rule <;> exact ⟨rfl, rfl⟩
  | exchange => exact ⟨rfl, rfl⟩
  | stop _ _ rule => cases rule <;> exact ⟨rfl, rfl⟩
  | close _ _ rule => cases rule <;> exact ⟨rfl, rfl⟩

theorem WorkerRule.surroundings (rule : WorkerRule worker memory worker' memory') :
    memory'.config = memory.config ∧ memory'.context.joints = memory.context.joints := by
  cases rule with
  | finish rule => obtain ⟨progress, rfl⟩ := rule.memory_eq; exact ⟨rfl, rfl⟩
  | work _ rule =>
    generalize worker.place = place at rule
    cases rule <;> exact ⟨rfl, rfl⟩

theorem ClientRule.carries (rule : ClientRule workerEnded actor client memory client' memory')
    (config : memory.config = sources.config) (carries : client.place.Carries sources) :
    client'.place.Carries sources := by
  cases rule with
  | finish rule => rwa [rule.place_eq]
  | submit _ stands rule =>
    rw [stands] at carries
    cases rule with
    | valid checked =>
      -- From here on it carries the points that were made of its goal.
      rw [config] at checked
      exact ⟨_, carries, waypoints_of_validate checked⟩
    | notAlive | invalid | unlockPending | unlockExec | enqueue => trivial
    | @lockExec job superseded => cases superseded <;> exact carries
    | unlockOld | install => rw [finishIf_place]; exact carries
    | _ => exact carries
  | cancel _ _ rule => cases rule <;> trivial
  | @exchange state =>
    obtain ⟨answer, told | told⟩ := told_cases (memory.context.exchangeState state).1 state
    · rw [goto_place, told]; trivial
    · rw [goto_place, told]; trivial
  | stop _ _ rule =>
    cases rule with
    | read => rw [finishIf_place]; trivial
    | _ => trivial
  | close _ _ rule =>
    cases rule with
    | takePending | takeCurrent => rw [finishIf_place]; trivial
    | _ => trivial

theorem ClientRule.pending (rule : ClientRule workerEnded actor client memory client' memory')
    (carries : client.place.Carries sources)
    (pending : ∀ job, memory.pending = some job → sources.Passed job) :
    ∀ job, memory'.pending = some job → sources.Passed job := by
  intro job waits
  rcases rule.ahead with ⟨-, same | dropped⟩ | ⟨queued, -, stands, -, put⟩
  · exact pending job (same ▸ waits)
  · rw [dropped] at waits; cases waits
  · rw [put] at waits
    cases waits
    rw [stands] at carries
    exact carries

theorem WorkerPlace.carries_afterStream {config : Config} {job : Job} {since : Duration}
    {outcome : Except Follower.Fault Streamed} :
    (worker.afterStream config job since outcome).place.Carries sources := by
  unfold Worker.afterStream
  split
  · split <;> trivial
  · trivial
  · split <;> trivial

theorem WorkerPlace.carries_of_watched {place : WorkerPlace} {job : Job}
    (watching : place.watched = some job) : place.Carries sources := by
  cases place <;> trivial

theorem WorkerRule.carries (rule : WorkerRule worker memory worker' memory')
    (joints : ∀ feedback, memory.context.joints = some feedback → sources.observed feedback)
    (pending : ∀ job, memory.pending = some job → sources.Passed job)
    (carries : worker.place.Carries sources) : worker'.place.Carries sources := by
  cases rule with
  | finish rule => rwa [rule.place_eq]
  | work _ rule =>
    generalize worker.place = place at rule carries
    -- `pending` is where a job comes from, and `startPoint` where the joints come in.
    cases rule with
    | look found => rintro taken ⟨⟩; exact pending _ found
    | lookAgain => exact pending
    | unlockPending => exact carries _ rfl
    | startPoint known => exact ⟨_, _, carries, joints, known⟩
    | returned | notSent | held | notHeld => exact WorkerPlace.carries_afterStream
    | watch _ goesOn =>
      rcases goesOn with goesOn | rfl
      · exact WorkerPlace.carries_of_watched goesOn
      · trivial
    | @stop job hang => cases hang <;> trivial
    | lockExec | begin | acceptLate | accept | sendAccepted | start | started | notFlagged =>
      exact carries
    | _ => trivial

theorem WorkerRule.pending (rule : WorkerRule worker memory worker' memory') :
    ∀ job, memory'.pending = some job → memory.pending = some job := by
  intro job waits
  rcases rule.goal? with ⟨-, same⟩ | ⟨-, taken, -⟩
  · rwa [same] at waits
  · rw [taken] at waits; cases waits

theorem WorkerRule.calls (rule : WorkerRule worker memory worker' memory')
    (config : memory.config = sources.config) (carries : worker.place.Carries sources)
    {id : Goal.Id} {mode : Mode} {points : List (Waypoint Float)}
    (handed : .stream id mode points ∈ memory'.calls) :
    .stream id mode points ∈ memory.calls ∨
      mode = sources.config.mode ∧ sources.Ready { id, points } := by
  cases rule with
  | finish rule =>
    obtain ⟨progress, rfl⟩ := rule.memory_eq
    exact .inl handed
  | work _ rule =>
    generalize worker.place = place at rule carries
    cases rule with
    | @beginStream job =>
      rcases List.mem_append.mp handed with old | new
      · exact .inl old
      · cases List.mem_singleton.mp new
        exact .inr ⟨congrArg Config.mode config, carries⟩
    | start | sent | held | stop | hang =>
      rcases List.mem_append.mp handed with old | new
      · exact .inl old
      · cases List.mem_singleton.mp new
    | _ => exact .inl handed

end Steps

/-! ### Along a run -/

variable {sources : Sources} {coordinator next first : ArmLink.Coordinator}

/-- A call brings a goal under the next number, or nothing to be carried. -/
theorem call_cases {request : Request} (called : coordinator.call request = some next) :
    (∃ goal memory isOpen, request = .submit goal ∧
        memory = { coordinator.memory with nextId := coordinator.memory.nextId + 1 } ∧
        next = coordinator.opened (.submitting (.askAlive coordinator.memory.nextId goal)) memory
          isOpen) ∨
      ∃ place isOpen, place.ahead = none ∧
        next = coordinator.opened place coordinator.memory isOpen := by
  cases request with
  | submit goal =>
    simp only [call] at called
    split at called
    · cases called
    · cases called
      exact .inl ⟨goal, _, _, rfl, rfl, rfl⟩
  | cancel id =>
    simp only [call] at called
    split at called
    · cases called
    · cases called
      exact .inr ⟨.canceling (.lockCurrent id), coordinator.isOpen, rfl, rfl⟩
  | updateState state =>
    cases called
    exact .inr ⟨.exchanging state, coordinator.isOpen, rfl, rfl⟩
  | tellState state =>
    simp only [call] at called
    split at called
    · cases called
    · cases called
      refine .inr ⟨.told state .nothing, coordinator.isOpen, ?_, rfl⟩
      unfold ClientPlace.told
      split <;> rfl
  | shutDown =>
    simp only [call] at called
    split at called
    · cases called
    · split at called
      · cases called
        exact .inr ⟨.closing .lowerRunning, false, rfl, rfl⟩
      · cases called
        exact .inr ⟨.done .nothing, coordinator.isOpen, rfl, rfl⟩

namespace Traced

theorem collect (traced : Traced sources coordinator) : Traced sources coordinator.collect := by
  obtain ⟨progress, changed⟩ := collect_eq coordinator
  rw [changed]
  exact ⟨traced.config, traced.joints, traced.client, traced.pending, traced.worker, traced.calls⟩

theorem opened (traced : Traced sources coordinator) {place : ClientPlace}
    (carries : place.Carries sources) (nextId : Goal.Id) (isOpen : Bool) :
    Traced sources (coordinator.opened place { coordinator.memory with nextId } isOpen) := by
  refine ⟨traced.config, traced.joints, ?_, traced.pending, traced.worker, traced.calls⟩
  intro index
  rw [clientAt_opened]
  split
  · exact carries
  · exact traced.client index

theorem withClient (traced : Traced sources coordinator) {index : Nat} {client : Client}
    {memory : Memory} (inside : index < coordinator.clients.length)
    (rule : ClientRule coordinator.worker.isGone (.client index) (coordinator.clientAt index)
      coordinator.memory client memory) :
    Traced sources (coordinator.withClient index client memory) := by
  obtain ⟨config, joints⟩ := rule.surroundings
  refine ⟨config.trans traced.config, ?_, ?_, ?_, traced.worker, ?_⟩
  · intro feedback known
    exact traced.joints feedback (joints ▸ known)
  · intro other
    rw [clientAt_withClient inside]
    split
    · exact rule.carries traced.config (traced.client index)
    · exact traced.client other
  · exact rule.pending (traced.client index) traced.pending
  · intro id mode points handed
    refine traced.calls id mode points ?_
    rcases rule.calls with same | noted
    · exact same ▸ handed
    · have handed : _ ∈ coordinator.memory.calls ++ [.interrupt] := noted ▸ handed
      rcases List.mem_append.mp handed with old | new
      · exact old
      · cases List.mem_singleton.mp new

theorem withWorker (traced : Traced sources coordinator) {worker : Worker} {memory : Memory}
    (rule : WorkerRule coordinator.worker coordinator.memory worker memory) :
    Traced sources { coordinator with memory, worker } := by
  obtain ⟨config, joints⟩ := rule.surroundings
  refine ⟨config.trans traced.config, ?_, traced.client, ?_, ?_, ?_⟩
  · intro feedback known
    exact traced.joints feedback (joints ▸ known)
  · intro job waits
    exact traced.pending job (rule.pending job waits)
  · exact rule.carries traced.joints traced.pending traced.worker
  · intro id mode points handed
    rcases rule.calls traced.config traced.worker handed with old | new
    · exact traced.calls id mode points old
    · exact new

/-- A move keeps everything traced, if what it brings in is among the sources. -/
theorem step {move : Move} (traced : Traced sources coordinator)
    (moved : coordinator.step move = some next)
    (submits : ∀ goal, move = .call (.submit goal) →
      sources.submitted coordinator.memory.nextId goal)
    (observes : ∀ feedback, move = .observe (.joints feedback) → sources.observed feedback) :
    Traced sources next := by
  cases move with
  | call request =>
    obtain ⟨between, called, rfl⟩ := Option.map_eq_some_iff.mp moved
    apply collect
    rcases call_cases called with ⟨goal, _, isOpen, rfl, rfl, rfl⟩ | ⟨place, isOpen, nothing, rfl⟩
    · have carries : ClientPlace.Carries sources
          (.submitting (.askAlive coordinator.memory.nextId goal)) := submits goal rfl
      exact traced.opened carries _ isOpen
    · exact traced.opened (ClientPlace.carries_of_ahead_eq_none nothing) _ isOpen
  | client index =>
    obtain ⟨client, memory, inside, step, rfl⟩ := client_of_step moved
    exact (traced.withClient inside (clientRule_of_step step)).collect
  | worker choice =>
    obtain ⟨worker, memory, step, rfl⟩ := worker_of_step moved
    exact (traced.withWorker (workerRule_of_step step)).collect
  | observe observation =>
    cases moved
    apply collect
    refine ⟨traced.config, ?_, traced.client, traced.pending, traced.worker, traced.calls⟩
    intro feedback known
    cases observation with
    | joints observed => cases known; exact observes _ rfl
    | heard | stateLost => exact traced.joints feedback known
    | jointsLost => cases known
  | pass span | take goal =>
    cases moved
    exact collect ⟨traced.config, traced.joints, traced.client, traced.pending, traced.worker,
      traced.calls⟩

end Traced

/-- A goal was submitted in a run, and given this number. -/
def Submitted (first : ArmLink.Coordinator) (moves : List Move) (id : Goal.Id) (goal : Goal) :
    Prop :=
  ∃ before after now, moves = before ++ .call (.submit goal) :: after ∧
    first.play before = some now ∧ now.memory.nextId = id

/-- Joint feedback that was there when a run began, or came in during it. -/
def Observed (first : ArmLink.Coordinator) (moves : List Move) (feedback : JointFeedback) : Prop :=
  first.memory.context.joints = some feedback ∨ .observe (.joints feedback) ∈ moves

/-- What comes into a run from outside. -/
def Sources.ofRun (first : ArmLink.Coordinator) (moves : List Move) : Sources where
  config := first.memory.config
  submitted := Submitted first moves
  observed := Observed first moves

theorem play_concat {moves : List Move} {move : Move}
    (played : first.play (moves ++ [move]) = some next) :
    ∃ coordinator, first.play moves = some coordinator ∧ coordinator.step move = some next := by
  rw [play, List.foldlM_append] at played
  obtain ⟨coordinator, before, last⟩ := Option.bind_eq_some_iff.mp played
  obtain ⟨_, moved, ended⟩ := Option.bind_eq_some_iff.mp last
  cases ended
  exact ⟨coordinator, before, moved⟩

theorem traced_of_start {config : Config} {context : Context Unit}
    (started : start config context = .ok first) (moves : List Move) :
    Traced (Sources.ofRun first moves) first := by
  rw [eq_of_start started]
  exact {
    config := rfl
    joints := fun _ known => .inl known
    client := fun _ => trivial
    pending := nofun
    worker := trivial
    calls := nofun }

/-- At every moment of a run everything is traced to what comes into it. -/
theorem traced_of_play {config : Config} {context : Context Unit} {earlier : List Move}
    (started : start config context = .ok first) (played : first.play earlier = some coordinator)
    (later : List Move) : Traced (Sources.ofRun first (earlier ++ later)) coordinator := by
  induction earlier using List.reverseRecOn generalizing coordinator later with
  | nil =>
    cases played
    exact traced_of_start started later
  | append_singleton earlier move ih =>
    obtain ⟨now, before, moved⟩ := play_concat played
    rw [List.append_assoc]
    refine (ih before _).step moved ?_ ?_
    · rintro goal rfl
      exact ⟨earlier, later, now, rfl, before, rfl⟩
    · rintro feedback rfl
      exact .inr (by simp)

/-- Points that the executor is given in a run, and where they come from. -/
structure Handed (first : ArmLink.Coordinator) (moves : List Move) (id : Goal.Id) (mode : Mode)
    (points : List (Waypoint Float)) (goal : Goal) (asked : List (Waypoint Float)) : Prop where
  mode : mode = first.memory.config.mode
  submitted : Submitted first moves id goal
  checked : Checked first.memory.config goal asked
  starts : ∃ start rest, points = start :: rest ∧ start.time = .zero
  times : points.Pairwise (·.time ≤ ·.time)
  ends : points.getLast? = asked.getLast?
  /-- The points are those of the goal; if they begin later than at time zero, there is one place
  more in front of them. -/
  begins : points = asked ∨ ∃ feedback, Observed first moves feedback ∧
    points = startPoint feedback :: asked ∧ ∀ first ∈ asked.head?, .zero < first.time
  finite : ∀ point ∈ points, IsFinite point ∨
    ∃ feedback, Observed first moves feedback ∧ point = startPoint feedback

/-- In every run, the points that the executor is given start at time zero, do not go back in time,
and end where the goal asks for it.  They are finite, but for a place in front of them, which is as
finite as the feedback it was taken from. -/
theorem handed_of_play {config : Config} {context : Context Unit} {moves : List Move}
    (started : start config context = .ok first) (played : first.play moves = some coordinator) :
    ∀ id mode points, .stream id mode points ∈ coordinator.memory.calls →
      ∃ goal asked, Handed first moves id mode points goal asked := by
  intro id mode points handed
  have traced := traced_of_play started played []
  rw [List.append_nil] at traced
  obtain ⟨sameMode, asked, joints, ⟨goal, submitted, passed⟩, observed, inFront⟩ :=
    traced.calls id mode points handed
  have checked := checked_of_waypoints passed
  have begun := begun_of_withStartPoint inFront
  refine ⟨goal, asked, ?_⟩
  constructor
  · exact sameMode
  · exact submitted
  · exact checked
  · exact begun.starts checked.nonempty
  · exact begun.times checked.times
  · exact begun.ends checked.nonempty
  · cases begun with
    | asked => exact .inl rfl
    | inFront known later => exact .inr ⟨_, observed _ known, rfl, later⟩
  · intro point member
    rcases begun.finite checked.finite point member with finite | ⟨feedback, known, same⟩
    · exact .inl finite
    · exact .inr ⟨feedback, observed feedback known, same⟩

/-- A goal whose only point comes after a second. -/
def lateGoal : Goal where
  jointNames := zeroGoal.jointNames
  points := [⟨List.replicate 6 0.0, List.replicate 6 0.0, ⟨1000000000⟩⟩]

/-- Whether the executor was given points among which there is one with a property. -/
def streamsAny (property : Waypoint Float → Bool) (coordinator : ArmLink.Coordinator) : Bool :=
  coordinator.memory.calls.any fun call =>
    match call with
    | .stream _ _ points => points.any property
    | _ => false

theorem exists_stream {property : Waypoint Float → Bool}
    (streams : coordinator.streamsAny property = true) :
    ∃ id mode points, .stream id mode points ∈ coordinator.memory.calls ∧
      ∃ point ∈ points, property point = true := by
  obtain ⟨call, member, found⟩ := List.any_eq_true.mp streams
  cases call with
  | stream id mode points => exact ⟨id, mode, points, member, List.any_eq_true.mp found⟩
  | _ => cases found

/-- The statement at a goal that needs no place in front of it. -/
theorem handed_of_zeroGoal : ∃ first coordinator moves id mode points,
    start (plainConfig 1.0) readyContext = .ok first ∧ first.play moves = some coordinator ∧
    .stream id mode points ∈ coordinator.memory.calls ∧
    ∃ goal asked, Handed first moves id mode points goal asked := by
  have streams : ((plain 1.0).play (untilStream zeroGoal)).any
      (·.streamsAny fun _ => true) = true := by decide +kernel
  obtain ⟨coordinator, played, streams⟩ := (Option.any_eq_true _ _).mp streams
  obtain ⟨id, mode, points, handed, -⟩ := exists_stream streams
  exact ⟨_, coordinator, _, id, mode, points, start_plain 1.0, played, handed,
    handed_of_play (start_plain 1.0) played id mode points handed⟩

/-- A realtime packet, as long as its layout demands, in which no double is a number. -/
def numberless : List UInt8 :=
  [0, 0, 2, 244] ++ (List.replicate 94 [127, 248, 0, 0, 0, 0, 0, 0]).flatten

/-- What a link that keeps the joints makes of that packet is put in front of a goal that begins
late, and the executor is given it. -/
theorem feedback_handed_over : ∃ feedback moves coordinator id mode points,
    (process { strategy := .realtime .v1_6, ownership := .realtime true } numberless readyContext
      {}).2.1.joints = some feedback ∧
    start (plainConfig 1.0) readyContext = .ok (plain 1.0) ∧
    (plain 1.0).play (.observe (.joints feedback) :: moves) = some coordinator ∧
    .stream id mode points ∈ coordinator.memory.calls ∧ ∃ point ∈ points, ¬ IsFinite point := by
  have streams : (process { strategy := .realtime .v1_6, ownership := .realtime true } numberless
      readyContext {}).2.1.joints.any (fun feedback =>
        ((plain 1.0).play (.observe (.joints feedback) :: untilStream lateGoal)).any
          (·.streamsAny fun point => point.positions.toList.any (!·.isFinite))) = true := by
    decide +kernel
  obtain ⟨feedback, read, streams⟩ := (Option.any_eq_true _ _).mp streams
  obtain ⟨coordinator, played, streams⟩ := (Option.any_eq_true _ _).mp streams
  obtain ⟨id, mode, points, handed, point, member, infinite⟩ := exists_stream streams
  refine ⟨feedback, _, coordinator, id, mode, points, read, start_plain 1.0, played, handed, point,
    member, ?_⟩
  intro finite
  obtain ⟨position, inside, isInfinite⟩ := List.any_eq_true.mp infinite
  simp [finite.positions position inside] at isInfinite

end ArmLink.Coordinator
