import ArmLink.Coordinator.Client
import ArmLink.Coordinator.Worker

/-!
Runs of the coordinator: any interleaving of the steps of its threads with new calls, changes of the
telemetry, passing time, and clients that take their events.

A goal that no thread and no cell holds any more and that has no outcome is aborted by whoever let
go of it last.
-/

namespace ArmLink

open Coordinator Goal Link

/-- A coordinator at work. -/
structure Coordinator where
  memory : Memory
  /-- The calls made so far, in the order in which they were begun. -/
  clients : List Client := []
  worker : Worker := { place := .checkRunning }
  isOpen : Bool := true

namespace Coordinator

/-- Starts a coordinator whose settings are valid. -/
def start (config : Config) (context : Context Unit) : Except Config.Fault Coordinator := do
  config.validate
  return { memory := { config, context } }

def currentGoal (coordinator : Coordinator) : Option Goal.Id := coordinator.memory.current

def description (coordinator : Coordinator) : String :=
  let goal := match coordinator.currentGoal with
    | some id => s!"Some({id})"
    | none => "None"
  s!"GoalCoordinator \x7b current_goal: {goal}, running: {coordinator.memory.running} \x7d"

/-- What the telemetry can bring, besides changes of state. -/
inductive Observation where
  | joints (feedback : JointFeedback)
  | heard
  | jointsLost
  | stateLost

def Observation.apply : Observation → Context Unit → Context Unit
  | .joints feedback, context => context.publishJoints feedback
  | .heard, context => context.noteFeedback
  | .jointsLost, context => context.clearJoints
  | .stateLost, context => context.clearState

/-- What can happen next. -/
inductive Move where
  | call (request : Request)
  | client (index : Nat)
  | worker (choice : Choice)
  | observe (observation : Observation)
  | pass (span : Duration)
  | take (goal : Goal.Id)

/-- Whether somebody, or some cell, holds a goal. -/
def isHeld (coordinator : Coordinator) (goal : Goal.Id) : Bool :=
  coordinator.memory.current == some goal ||
    (coordinator.memory.pending.map (·.id)) == some goal ||
    coordinator.worker.held.contains goal ||
    coordinator.clients.any fun client => client.held.contains goal

/-- Aborts a goal that nobody holds and that has no outcome. -/
def letGo (coordinator : Coordinator) (goal : Goal.Id) : Coordinator :=
  if (coordinator.memory.progress goal).finished || coordinator.isHeld goal then coordinator
  else { coordinator with memory := coordinator.memory.modify goal fun progress =>
      { progress with finished := true }.send (.finished (.aborted .abandoned)) }

/-- Aborts all goals that nobody holds and that have no outcome. -/
def collect (coordinator : Coordinator) : Coordinator :=
  (List.range' 1 (coordinator.memory.nextId - 1)).foldl letGo coordinator

/-- Whether a call that needs the coordinator itself is under way; telling it of a state written
elsewhere does not. -/
def isBusy (coordinator : Coordinator) : Bool :=
  coordinator.clients.any fun client =>
    match client.place with
    | .submitting _ | .canceling _ | .closing _ => true
    | .exchanging _ | .stopping .. => false
    | .done _ => client.finishing.isSome

/-- Whether the coordinator is being shut down. -/
def isClosing (coordinator : Coordinator) : Bool :=
  coordinator.clients.any fun client =>
    match client.place with
    | .closing _ => true
    | _ => false

/-- Begins a call.  Shutting down is for one who has the coordinator to itself; calls during it come
only from the telemetry. -/
def call (coordinator : Coordinator) (request : Request) : Option Coordinator :=
  let begin (place : ClientPlace) (memory : Memory) : Coordinator :=
    { coordinator with memory, clients := coordinator.clients ++ [{ place }] }
  let memory := coordinator.memory
  match request with
  | .submit goal =>
    if coordinator.isClosing then none
    else some (begin (.submitting (.askAlive memory.nextId goal))
      { memory with nextId := memory.nextId + 1 })
  | .cancel id =>
    if coordinator.isClosing then none else some (begin (.canceling (.lockCurrent id)) memory)
  | .updateState state => some (begin (.exchanging state) memory)
  | .tellState state =>
    if coordinator.isClosing then none
    else some (begin (.told state .nothing) memory)
  | .shutDown =>
    if coordinator.isBusy then none
    else if coordinator.isOpen then
      some { begin (.closing .lowerRunning) memory with isOpen := false }
    else some (begin (.done .nothing) memory)

/-- One move, if it can be made. -/
def step (coordinator : Coordinator) (move : Move) : Option Coordinator :=
  let next := match move with
    | .call request => coordinator.call request
    | .client index => do
      let client ← coordinator.clients[index]?
      let (client, memory) ←
        client.step coordinator.worker.isGone (.client index) coordinator.memory
      return { coordinator with memory, clients := coordinator.clients.set index client }
    | .worker choice => do
      let (worker, memory) ← coordinator.worker.step choice coordinator.memory
      return { coordinator with memory, worker }
    | .observe observation =>
      some { coordinator with memory := { coordinator.memory with
        context := observation.apply coordinator.memory.context } }
    | .pass span =>
      some { coordinator with memory := { coordinator.memory with
        clock := coordinator.memory.clock.plus span
        context := coordinator.memory.context.advance (span.nanos / 1000) } }
    | .take goal =>
      some { coordinator with memory := coordinator.memory.modify goal fun progress =>
        progress.take.2 }
  next.map collect

/-- What a coordinator can come to. -/
inductive Reachable (first : Coordinator) : Coordinator → Prop where
  | refl : Reachable first first
  | step {coordinator next : Coordinator} (move : Move) :
      Reachable first coordinator → coordinator.step move = some next → Reachable first next

/-- Gives up a coordinator that was shut down: its cells hold nothing any more. -/
def dispose (coordinator : Coordinator) : Coordinator :=
  { coordinator with memory := { coordinator.memory with pending := none, current := none } }.collect

/-- The answer of a call that is done. -/
def answer? (coordinator : Coordinator) (index : Nat) : Option Answer := do
  let client ← coordinator.clients[index]?
  match client.finishing, client.place with
  | none, .done answer => some answer
  | _, _ => none

end Coordinator

end ArmLink
