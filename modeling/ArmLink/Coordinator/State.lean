import ArmLink.Coordinator.Monitor
import ArmLink.Follower.Fault
import ArmLink.Goal.Validation
import ArmLink.Motion.Profile

/-!
The coordinator as threads over shared memory.

Clients submit and cancel goals, tell of changes of state, and shut the coordinator down; each call
is a thread of its own.  One more thread, the worker, executes goals one after the other.  Three
locks keep them apart: `exec` is held while a goal is executed or replaced, `current` around looks
at the goal that holds the slot, `pending` around looks at the goal that waits to be executed.

A step of a thread takes or gives back one lock, or reads or writes one shared cell; a thread that
waits for a lock makes no step.  The modules `Client` and `Worker` give the steps.  What the
executor does is not decided here: its answers are part of the steps.
-/

namespace ArmLink.Coordinator

open Goal Link Motion

/-- The threads. -/
inductive Actor where
  | worker
  | client (index : Nat)
deriving DecidableEq, Repr

/-- The locks. -/
inductive Lock where
  /-- Executing or replacing a goal. -/
  | exec
  /-- The goal that waits to be executed. -/
  | pending
  /-- The goal that holds the slot. -/
  | current
deriving DecidableEq, Repr

/-- A goal that passed the checks, with the points in the order of the arm. -/
structure Job where
  id : Goal.Id
  points : List (Waypoint Float)

/-- What became of a goal so far. -/
structure Progress where
  /-- Whether somebody has decided on the outcome. -/
  finished : Bool := false
  /-- The events sent to the client, oldest first. -/
  sent : List Event := []
  taken : Nat := 0

namespace Progress

/-- Room for events that the client has not taken. -/
def capacity : Nat := 2

def unread (progress : Progress) : List Event := progress.sent.drop progress.taken

/-- Sends an event, if there is room for it. -/
def send (progress : Progress) (event : Event) : Progress :=
  if progress.unread.length < capacity then { progress with sent := progress.sent ++ [event] }
  else progress

def take (progress : Progress) : Option Event × Progress :=
  match progress.unread with
  | [] => (none, progress)
  | event :: _ => (some event, { progress with taken := progress.taken + 1 })

end Progress

/-- What was asked of the executor and of the one who handles hangs. -/
inductive Call where
  | start (goal : Goal.Id)
  | stream (goal : Goal.Id) (mode : Mode) (points : List (Waypoint Float))
  | servo (goal : Goal.Id)
  /-- The record that holds the last position. -/
  | hold (goal : Goal.Id)
  | stop (goal : Goal.Id)
  | interrupt
  | hang (goal : Goal.Id) (fault : Follower.Fault)

/-- What the threads share. -/
structure Memory where
  config : Config
  context : Context Unit
  clock : Duration := .zero
  owner : Lock → Option Actor := fun _ => none
  pending : Option Job := none
  current : Option Goal.Id := none
  /-- Whether the current goal is to be broken off. -/
  interrupt : Bool := false
  hasGoal : Bool := false
  running : Bool := true
  /-- Whether the executor has been asked to break off since it was last started. -/
  executorInterrupt : Bool := false
  /-- The number of the next goal.  It is a word of 64 bits, of which no coordinator lives to see the
  end, so here it is a number. -/
  nextId : Goal.Id := 1
  progress : Goal.Id → Progress := fun _ => {}
  /-- The calls made so far, oldest first. -/
  calls : List Call := []

namespace Memory

/-- Takes a lock that nobody holds. -/
def acquire (memory : Memory) (lock : Lock) (actor : Actor) : Option Memory :=
  match memory.owner lock with
  | some _ => none
  | none => some { memory with
      owner := fun other => if other = lock then some actor else memory.owner other }

def release (memory : Memory) (lock : Lock) : Memory :=
  { memory with owner := fun other => if other = lock then none else memory.owner other }

def modify (memory : Memory) (id : Goal.Id) (change : Progress → Progress) : Memory :=
  { memory with progress := fun other =>
      if other = id then change (memory.progress other) else memory.progress other }

def note (memory : Memory) (call : Call) : Memory :=
  { memory with calls := memory.calls ++ [call] }

/-- Asks the executor to break off. -/
def interruptExecutor (memory : Memory) : Memory :=
  { memory with executorInterrupt := true }.note .interrupt

end Memory

/-- Giving a goal its outcome.  The mark comes first and decides who was first; only the first one
sends the outcome. -/
inductive Finishing where
  | mark (goal : Goal.Id) (outcome : Outcome)
  | send (goal : Goal.Id) (outcome : Outcome)

def Finishing.goal : Finishing → Goal.Id
  | .mark goal _ | .send goal _ => goal

/-- A thread: where it stands, and a goal that it gives an outcome before it goes on from there. -/
structure Thread (π : Type) where
  place : π
  finishing : Option Finishing := none
  /-- Whether its last mark was the first on the goal. -/
  first : Bool := false

namespace Thread

variable {π : Type}

def goto (thread : Thread π) (place : π) : Thread π := { thread with place }

/-- Gives a goal its outcome, and goes on from a place then. -/
def finish (thread : Thread π) (goal : Goal.Id) (outcome : Outcome) (place : π) : Thread π :=
  { thread with finishing := some (.mark goal outcome), place }

/-- Gives a goal its outcome if there is one, and goes on from a place then. -/
def finishIf (thread : Thread π) (goal : Option Goal.Id) (outcome : Outcome) (place : π) :
    Thread π :=
  match goal with
  | some goal => thread.finish goal outcome place
  | none => thread.goto place

/-- The next step of giving an outcome. -/
def finishStep (thread : Thread π) (finishing : Finishing) (memory : Memory) :
    Thread π × Memory :=
  match finishing with
  | .mark goal outcome =>
    if (memory.progress goal).finished then
      ({ thread with finishing := none, first := false }, memory)
    else
      ({ thread with finishing := some (.send goal outcome), first := true },
        memory.modify goal fun progress => { progress with finished := true })
  | .send goal outcome =>
    ({ thread with finishing := none }, memory.modify goal (·.send (.finished outcome)))

end Thread

end ArmLink.Coordinator
