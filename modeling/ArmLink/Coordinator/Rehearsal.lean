import ArmLink.Coordinator.Executor
import ArmLink.Coordinator.Run

/-!
Rehearsing: a coordinator and an executor under one schedule.  A call is carried through to its end,
the worker making steps whenever the call waits; after it the worker goes on until it can only wait:
for a goal, for time to pass, or to be interrupted.
-/

namespace ArmLink.Coordinator

open Goal Link Motion

/-- A coordinator, an executor, and how the executor fares with the goal in hand. -/
structure Rehearsal (σ : Type) where
  coordinator : ArmLink.Coordinator
  executor : σ
  following : Following := .endless

namespace Rehearsal

variable {σ : Type} [Executor σ]

/-- The most steps between two waits; all that is done in between is bounded. -/
def stepLimit : Nat := 1000

def move (rehearsal : Rehearsal σ) (move : Move) : Rehearsal σ :=
  match rehearsal.coordinator.step move with
  | some coordinator => { rehearsal with coordinator }
  | none => rehearsal

/-- Whether the worker can only wait: for a goal, for an interrupt, or for a look that decides. -/
def isResting (rehearsal : Rehearsal σ) : Bool :=
  let memory := rehearsal.coordinator.memory
  let worker := rehearsal.coordinator.worker
  worker.finishing.isNone &&
    match worker.place with
    | .sleeping => memory.running && memory.pending.isNone
    | .streaming .. => !memory.executorInterrupt &&
        match rehearsal.following with
        | .endless => true
        | .breaksDown _ | .ends .. => false
    | .graceClock _ monitor => !memory.interrupt && decide (memory.clock < monitor.graceEnd)
    | .pollFlag _ monitor =>
      (monitor.judge ⟨memory.clock, memory.interrupt, memory.context.joints⟩).isNone
    | .ended | .dead => true
    | _ => false

/-- The worker breaks down in a call to the executor, and gives back the lock that it holds. -/
def breakDown (rehearsal : Rehearsal σ) : Rehearsal σ :=
  let coordinator := rehearsal.coordinator
  { rehearsal with coordinator := { coordinator with
      worker := coordinator.worker.goto .dead
      memory := coordinator.memory.release .exec } }

/-- One step of the worker, the executor having its turn where it is asked. -/
def workerStep (rehearsal : Rehearsal σ) : Rehearsal σ :=
  let go (rehearsal : Rehearsal σ) : Rehearsal σ := rehearsal.move (.worker (.result (.ok ())))
  if rehearsal.coordinator.worker.finishing.isSome then go rehearsal
  else match rehearsal.coordinator.worker.place with
  | .starting _ =>
    match Executor.start rehearsal.executor with
    | (.ok outcome, executor) => { rehearsal with executor }.move (.worker (.result outcome))
    | (.error _, executor) => { rehearsal with executor }.breakDown
  | .beginStream job =>
    let mode := rehearsal.coordinator.memory.config.mode
    let (following, executor) := Executor.follow rehearsal.executor mode job.points
    go { rehearsal with executor, following }
  | .streaming .. =>
    match rehearsal.following with
    | .endless => rehearsal.move (.worker .goOn)
    | .breaksDown _ => rehearsal.breakDown
    | .ends seen outcome =>
      let rehearsal := match seen with
        | some feedback => rehearsal.move (.observe (.joints feedback))
        | none => rehearsal
      rehearsal.move (.worker (.returned outcome))
  | .stop .. => go { rehearsal with executor := Executor.stop rehearsal.executor }
  | _ => go rehearsal

/-- Lets the worker go on until it can only wait. -/
def rest (rehearsal : Rehearsal σ) : Nat → Rehearsal σ
  | 0 => rehearsal
  | limit + 1 => if rehearsal.isResting then rehearsal else rehearsal.workerStep.rest limit

/-- Carries a call through, the worker making a step whenever the call waits. -/
def carry (rehearsal : Rehearsal σ) (index : Nat) : Nat → Rehearsal σ
  | 0 => rehearsal
  | limit + 1 =>
    if (rehearsal.coordinator.answer? index).isSome then rehearsal
    else
      match rehearsal.coordinator.step (.client index) with
      | some coordinator => { rehearsal with coordinator }.carry index limit
      | none => rehearsal.workerStep.carry index limit

/-- Makes a call and lets the worker go on. -/
def call (rehearsal : Rehearsal σ) (request : Request) : Answer × Rehearsal σ :=
  let index := rehearsal.coordinator.clients.length
  let rehearsal := ((rehearsal.move (.call request)).carry index stepLimit).rest stepLimit
  ((rehearsal.coordinator.answer? index).getD .nothing, rehearsal)

/-- Lets the telemetry bring something, and the worker go on. -/
def observe (rehearsal : Rehearsal σ) (observation : Observation) : Rehearsal σ :=
  (rehearsal.move (.observe observation)).rest stepLimit

/-- The time at which a look of the waiting worker can find something new. -/
def nextMoment (rehearsal : Rehearsal σ) : Option Duration :=
  match rehearsal.coordinator.worker.place with
  | .graceClock _ monitor => some monitor.graceEnd
  | .pollFlag _ monitor => some monitor.deadline
  | _ => none

/-- Lets time pass until a goal does not hold the slot any more, or nothing changes with time. -/
def await (rehearsal : Rehearsal σ) (goal : Goal.Id) : Nat → Rehearsal σ
  | 0 => rehearsal
  | limit + 1 =>
    if rehearsal.coordinator.currentGoal = some goal then
      match rehearsal.nextMoment with
      | some moment =>
        let span := moment.monus rehearsal.coordinator.memory.clock
        ((rehearsal.move (.pass span)).rest stepLimit).await goal limit
      | none => rehearsal
    else rehearsal

def events (rehearsal : Rehearsal σ) (goal : Goal.Id) : List Event × Rehearsal σ :=
  let events := (rehearsal.coordinator.memory.progress goal).unread
  (events, events.foldl (fun rehearsal _ => rehearsal.move (.take goal)) rehearsal)

/-- Waits until a goal does not hold the slot any more, and takes its events. -/
def wait (rehearsal : Rehearsal σ) (goal : Goal.Id) : List Event × Rehearsal σ :=
  (rehearsal.await goal 3).events goal

/-- The outcome of a goal if it is there; events in front of it are taken as well. -/
def outcome? (rehearsal : Rehearsal σ) (goal : Goal.Id) : Option Outcome × Rehearsal σ :=
  let (events, rehearsal) := rehearsal.events goal
  (events.findSome? fun event =>
    match event with
    | .finished outcome => some outcome
    | .accepted => none, rehearsal)

/-- Shuts the coordinator down, unless it is already, and gives it up. -/
def close (rehearsal : Rehearsal σ) : Rehearsal σ :=
  let (_, rehearsal) := rehearsal.call .shutDown
  { rehearsal with coordinator := rehearsal.coordinator.dispose }

end Rehearsal

end ArmLink.Coordinator
