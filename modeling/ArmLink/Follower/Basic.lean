import ArmLink.Follower.Config
import ArmLink.Follower.Fault
import ArmLink.Follower.Peer
import ArmLink.Motion.Profile

/-!
Following trajectories.  The follower waits for a control program to connect, and then sends it one
record in every control period: the samples of a profile at the times `0, P, 2P, …` and, once the
duration of the profile has passed, its final sample.  Before each record it looks whether it has
been asked to break off; then it sends one record that holds the last position and ends.

A record that cannot be written, or is not acknowledged as it should be, ends the connection.
Sequence numbers go on over all connections, one for every record that was tried.

A record is due a control period after the one before was, or at once if sending that one has taken
longer.  So the follower has two times to count on: that of the samples, and that of its clock.  A
period may be too long for one of them, and then the call breaks down and leaves the follower as it
stands.  With a period of zero the time of the samples does not get on, and following a trajectory
need not come to an end; `tick` has no result then.
-/

namespace ArmLink

open Link Motion Servo

namespace Follower

/-- A connected control program. -/
structure Line (α σ : Type) where
  peer : σ
  /-- The position that stop and hold records keep; none before the first trajectory. -/
  lastPositions : Option (Joints α) := none

/-- A record that was tried: on which connection, counted from one, what became of it there, and
what that means. -/
structure Attempt (α : Type) where
  connection : Nat
  command : Command α
  delivery : Delivery
  outcome : Except Fault Unit

/-- How following a trajectory ends. -/
inductive Outcome where
  | completed
  | interrupted
deriving DecidableEq, Repr

def Outcome.name : Outcome → String
  | .completed => "Completed"
  | .interrupted => "Interrupted"

/-- Where a follower stands when it has followed a trajectory. -/
def Outcome.status : Outcome → Status
  | .completed => .completed
  | .interrupted => .interrupted

/-- What a call comes to.  Where a span or a moment is out of range it breaks down and does not
return. -/
abbrev Result (β : Type) := Except Duration.Fault (Except Fault β)

end Follower

/-- A follower, the control programs that wait to be connected, and the records it has tried. -/
structure Follower (α σ : Type) where
  config : Follower.Config α
  /-- Control programs that ask to be connected, first come first. -/
  waiting : List σ := []
  line : Option (Follower.Line α σ) := none
  status : Follower.Status := .idle
  /-- Whether somebody has asked to break off. -/
  interrupted : Bool := false
  /-- The number of the next record. -/
  sequence : UInt32 := 0
  /-- How many control programs have been connected so far. -/
  connections : Nat := 0
  /-- The control programs whose connections have ended, with the numbers of the connections. -/
  dropped : List (Nat × σ) := []
  /-- The records tried so far, oldest first. -/
  attempts : List (Follower.Attempt α) := []
  /-- What the follower's clock shows. -/
  clock : Duration := .zero

namespace Follower

variable {α σ : Type} [Scalar α] [Peer σ]

def isConnected (follower : Follower α σ) : Bool := follower.line.isSome

/-- A control program asks to be connected. -/
def enqueue (follower : Follower α σ) (peer : σ) : Follower α σ :=
  { follower with waiting := follower.waiting ++ [peer] }

/-- Asks to break off. -/
def interrupt (follower : Follower α σ) : Follower α σ := { follower with interrupted := true }

/-- Lets time pass. -/
def pass (follower : Follower α σ) (span : Duration) : Follower α σ :=
  { follower with clock := follower.clock.plus span }

/-- Sleeps until a moment, if it has not passed already. -/
def sleepUntil (follower : Follower α σ) (moment : Duration) : Follower α σ :=
  { follower with clock := if follower.clock < moment then moment else follower.clock }

def drop (follower : Follower α σ) (status : Status) : Follower α σ :=
  { follower with
    line := none
    status
    dropped := follower.dropped ++
      (follower.line.map fun line => (follower.connections, line.peer)).toList }

/-- Gets ready for a trajectory: forgets a request to break off, and connects the first control
program that waits unless one is connected already.  A connection cannot be set up with a timeout of
zero, and is given up at once.  A clock must be able to show when the time to connect is over. -/
def start (follower : Follower α σ) : Result Unit × Follower α σ :=
  let follower := { follower with interrupted := false }
  if follower.line.isSome then
    (.ok (.ok ()), { follower with status := .connected })
  else
    match follower.clock.later follower.config.acceptTimeout with
    | .error fault => (.error fault, follower)
    | .ok deadline =>
      match follower.waiting with
      | [] =>
        (.ok (.error (.acceptTimeout follower.config.acceptTimeout)), follower.sleepUntil deadline)
      | peer :: waiting =>
        let number := follower.connections + 1
        if follower.config.hasZeroTimeout then
          (.ok (.error (.transport .zeroTimeout)), { follower with
            waiting
            connections := number
            dropped := follower.dropped ++ [(number, peer)] })
        else
          (.ok (.ok ()), { follower with
            waiting
            line := some { peer }
            status := .connected
            connections := number })

/-- Judges an acknowledgement of a record. -/
def judge (sequence : UInt32) (timeout : Duration) : Answer → Except Fault Unit
  | .late => .error (.acknowledgementTimeout sequence timeout)
  | .closed => .error .connectionLost
  | .failed fault => .error (.transport fault)
  | .bytes read =>
    match decodeAcknowledgement read with
    | .error fault => .error (.wire fault)
    | .ok actual =>
      if actual = sequence then .ok () else .error (.acknowledgementMismatch sequence actual)

/-- What comes of a record: it has to be written and, if that is wanted, acknowledged. -/
def outcomeOf (timeout : Option Duration) (sequence : UInt32) : Delivery → Except Fault Unit
  | .lost => .error .connectionLost
  | .failed fault => .error (.writeFailed fault)
  | .written answer =>
    match timeout with
    | none => .ok ()
    | some timeout => judge sequence timeout answer

/-- What comes of a record on a connection. -/
def attempt (follower : Follower α σ) (line : Line α σ) (command : Command α) : Attempt α :=
  let delivery := (Peer.react line.peer command.encode).delivery
  { connection := follower.connections
    command
    delivery
    outcome := outcomeOf follower.config.acknowledgementTimeout command.sequence delivery }

/-- Tries one record, made from the next sequence number.  A record that was written becomes the
last position. -/
def send (follower : Follower α σ) (line : Line α σ) (make : UInt32 → Command α) :
    Except Fault Unit × Follower α σ :=
  let command := make follower.sequence
  let reaction := Peer.react line.peer command.encode
  let attempt := follower.attempt line command
  let lastPositions := match reaction.delivery with
    | .written _ => some command.positions
    | _ => line.lastPositions
  (attempt.outcome, { follower with
    line := some { peer := reaction.peer, lastPositions }
    interrupted := follower.interrupted || reaction.interrupts
    sequence := follower.sequence + 1
    attempts := follower.attempts ++ [attempt]
    clock := follower.clock.plus reaction.took })

/-- The sample to be sent when some time has passed: past the duration it is the final one. -/
def sampleAt (profile : Profile α) (elapsed : Duration) : Sample α :=
  if profile.duration ≤ elapsed then profile.finalSample else profile.sample elapsed

/-- A control period on: the time of the next sample, and the moment at which it is due. -/
def advance (period elapsed due : Duration) : Except Duration.Fault (Duration × Duration) := do
  return (← elapsed.sum period, ← due.later period)

/-- The control periods of a run, from the one at the time `t` on, which is due now. -/
def tick (profile : Profile α) (t : Duration) (follower : Follower α σ) :
    Option (Result Outcome × Follower α σ) :=
  match follower.line with
  | none => some (.ok (.error .notConnected), follower)
  | some line =>
    if follower.interrupted then
      let start := (profile.sample .zero).positions
      let held := follower.send line fun sequence =>
        Command.hold sequence (line.lastPositions.getD start)
      some (.ok (held.1.map fun () => .interrupted), held.2)
    else
      let sample := sampleAt profile t
      let sent := follower.send line fun sequence =>
        Command.servo sequence sample.positions sample.velocities
      match sent.1 with
      | .error fault => some (.ok (.error fault), sent.2)
      | .ok () =>
        if profile.duration ≤ t then some (.ok (.ok .completed), sent.2)
        else
          match advance follower.config.period t follower.clock with
          | .error fault => some (.error fault, sent.2)
          | .ok (next, due) => (tick (t := next)) profile (sent.2.sleepUntil due)
partial_fixpoint

/-- Remembers where the arm stands before the first record of a trajectory. -/
def remember (follower : Follower α σ) (positions : Joints α) : Follower α σ :=
  { follower with line := follower.line.map fun line =>
      { line with lastPositions := some positions } }

/-- Sends the records of a profile.  A fault gives the connection up; a call that breaks down does
not get to that. -/
def stream (follower : Follower α σ) (profile : Profile α) :
    Option (Result Outcome × Follower α σ) :=
  if follower.line.isNone then
    some (.ok (.error .notConnected), follower)
  else
    let start := (profile.sample .zero).positions
    (tick profile .zero ({ follower with status := .streaming }.remember start)).map
      fun (result, follower) =>
        match result with
        | .ok (.ok outcome) => (.ok (.ok outcome), { follower with status := outcome.status })
        | .ok (.error fault) => (.ok (.error fault), follower.drop .hung)
        | .error fault => (.error fault, follower)

/-- Remembers where a trajectory begins, if it has a point. -/
def rememberStart (follower : Follower α σ) (points : List (Waypoint α)) : Follower α σ :=
  match points with
  | [] => follower
  | first :: _ => follower.remember first.positions

/-- Follows a trajectory.  If it cannot be planned, nothing is sent. -/
def follow (follower : Follower α σ) (mode : Mode) (points : List (Waypoint α)) :
    Option (Result Outcome × Follower α σ) :=
  let follower := follower.rememberStart points
  match Profile.make mode points follower.config.maxVelocity follower.config.maxAcceleration with
  | .error fault => some (.ok (.error (.plan fault)), follower)
  | .ok profile => follower.stream profile

/-- Breaks off and lets the control program end servoing where it is.  Without a trajectory on this
connection there is nothing to end. -/
def stop (follower : Follower α σ) : Except Fault Unit × Follower α σ :=
  let follower := follower.interrupt
  match follower.line with
  | none => (.ok (), { follower with status := .idle })
  | some line =>
    match line.lastPositions with
    | none => (.ok (), { follower with status := .connected })
    | some positions =>
      match follower.send line fun sequence => Command.stop sequence positions with
      | (.ok (), follower) => (.ok (), { follower with status := .connected })
      | (.error fault, follower) => (.error fault, follower.drop .idle)

def disconnect (follower : Follower α σ) : Follower α σ := follower.drop .idle

/-- All control programs in the order in which they asked to be connected. -/
def peers (follower : Follower α σ) : List σ :=
  follower.dropped.map (·.2) ++ (follower.line.map (·.peer)).toList ++ follower.waiting

end Follower

end ArmLink
