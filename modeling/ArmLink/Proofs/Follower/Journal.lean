import ArmLink.Proofs.Follower.Records

/-!
The journal of a follower: what happened on its connections, oldest first, over any sequence of
calls from the moment it was bound.  A connection was opened, a trajectory with a point was given on
it, a record was tried, or a call broke down.  From the journal alone one can tell what a control
program was sent (`heard`) and which position a stop record has to keep (`kept`).
-/

namespace ArmLink.Follower

open Motion Servo

/-- What may happen to a follower from outside. -/
inductive Call (α σ : Type) where
  /-- A control program asks to be connected. -/
  | connects (peer : σ)
  | start
  | follow (mode : Mode) (points : List (Waypoint α))
  | interrupt
  | stop
  | disconnect
  /-- Some time passes. -/
  | passes (span : Duration)

inductive Event (α σ : Type) where
  | opened (connection : Nat) (peer : σ)
  /-- A trajectory was given that begins at some positions. -/
  | given (connection : Nat) (start : Joints α)
  | tried (attempt : Attempt α)
  /-- A call broke down while this was the last connection. -/
  | brokeDown (connection : Nat) (fault : Duration.Fault)

namespace Event

variable {α σ : Type}

def connection : Event α σ → Nat
  | .opened connection _ | .given connection _ | .brokeDown connection _ => connection
  | .tried attempt => attempt.connection

def attempt? : Event α σ → Option (Attempt α)
  | .tried attempt => some attempt
  | _ => none

end Event

/-- The records of a journal. -/
def attemptsOf {α σ : Type} (events : List (Event α σ)) : List (Attempt α) :=
  events.filterMap Event.attempt?

/-- The positions of the last record written on a connection since a trajectory was given there, or
the start of that trajectory. -/
def keptBy {α σ : Type} (connection : Nat) (kept : Option (Joints α)) :
    Event α σ → Option (Joints α)
  | .opened _ _ | .brokeDown _ _ => kept
  | .given number start => if number = connection then some start else kept
  | .tried attempt =>
    if attempt.connection = connection then
      match attempt.delivery with
      | .written _ => some attempt.command.positions
      | _ => kept
    else kept

def kept {α σ : Type} (connection : Nat) (events : List (Event α σ)) : Option (Joints α) :=
  events.foldl (keptBy connection) none

/-! ### Reading a journal -/

section Reading

variable {α σ : Type} {events : List (Event α σ)} {event : Event α σ} {number : Nat}

@[simp]
theorem attemptsOf_append (events more : List (Event α σ)) :
    attemptsOf (events ++ more) = attemptsOf events ++ attemptsOf more := List.filterMap_append

@[simp]
theorem attemptsOf_tried (attempt : Attempt α) :
    attemptsOf [(.tried attempt : Event α σ)] = [attempt] := rfl

theorem attemptsOf_of_silent (silent : event.attempt? = none) : attemptsOf [event] = [] := by
  rw [attemptsOf, List.filterMap_cons_none silent]
  rfl

theorem mem_attemptsOf {attempt : Attempt α} :
    attempt ∈ attemptsOf events ↔ .tried attempt ∈ events := by
  constructor
  · intro found
    obtain ⟨event, isEvent, isAttempt⟩ := List.mem_filterMap.mp found
    cases event <;> cases isAttempt
    exact isEvent
  · intro found
    exact List.mem_filterMap.mpr ⟨_, found, rfl⟩

theorem kept_concat (number : Nat) (events : List (Event α σ)) (event : Event α σ) :
    kept number (events ++ [event]) = keptBy number (kept number events) event := by
  rw [kept, List.foldl_append]
  rfl

theorem keptBy_of_ne {positions : Option (Joints α)} (other : event.connection ≠ number) :
    keptBy number positions event = positions := by
  cases event with
  | opened | brokeDown => rfl
  | given | tried => exact if_neg other

theorem kept_of_forall (unmoved : ∀ event ∈ events, ∀ positions,
    keptBy number positions event = positions) : kept number events = none := by
  unfold kept
  generalize (none : Option (Joints α)) = positions
  induction events with
  | nil => rfl
  | cons event events ih =>
    obtain ⟨first, later⟩ := List.forall_mem_cons.mp unmoved
    rw [List.foldl_cons, first, ih later]

end Reading

variable {α σ : Type} [Scalar α] [Peer σ]

/-- What the records on a connection have made of the control program. -/
def heardBy (connection : Nat) (heard : Option σ) : Event α σ → Option σ
  | .opened number peer => if number = connection then some peer else heard
  | .given _ _ | .brokeDown _ _ => heard
  | .tried attempt =>
    if attempt.connection = connection then
      heard.map fun peer => (Peer.react peer attempt.command.encode).peer
    else heard

def heard (connection : Nat) (events : List (Event α σ)) : Option σ :=
  events.foldl (heardBy connection) none

theorem heard_concat (number : Nat) (events : List (Event α σ)) (event : Event α σ) :
    heard number (events ++ [event]) = heardBy number (heard number events) event := by
  rw [heard, List.foldl_append]
  rfl

theorem heardBy_of_ne {number : Nat} {event : Event α σ} {peer : Option σ}
    (other : event.connection ≠ number) : heardBy number peer event = peer := by
  cases event with
  | opened | tried => exact if_neg other
  | given | brokeDown => rfl

/-- The follower after a call; there is none while a call goes on. -/
def perform (follower : Follower α σ) : Call α σ → Option (Follower α σ)
  | .connects peer => some (follower.enqueue peer)
  | .start => some follower.start.2
  | .follow mode points => (follower.follow mode points).map (·.2)
  | .interrupt => some follower.interrupt
  | .stop => some follower.stop.2
  | .disconnect => some follower.disconnect
  | .passes span => some (follower.pass span)

/-- What a call brings before any record. -/
def announced (follower : Follower α σ) : Call α σ → List (Event α σ)
  | .start =>
    match follower.line, follower.clock.later follower.config.acceptTimeout, follower.waiting with
    | none, .ok _, peer :: _ => [.opened (follower.connections + 1) peer]
    | _, _, _ => []
  | .follow _ (first :: _) =>
    if follower.line.isSome then [.given follower.connections first.positions] else []
  | _ => []

def breakdown? {β : Type} : Result β → Option Duration.Fault
  | .error fault => some fault
  | .ok _ => none

/-- What a call breaks down for, if it does. -/
def brokenBy (follower : Follower α σ) : Call α σ → Option Duration.Fault
  | .start => breakdown? follower.start.1
  | .follow mode points => (follower.follow mode points).bind fun run => breakdown? run.1
  | _ => none

/-- The event that a call has broken down, if it has. -/
def breaking (follower : Follower α σ) (fault : Option Duration.Fault) : List (Event α σ) :=
  (fault.map (.brokeDown follower.connections)).toList

omit [Scalar α] [Peer σ] in
@[simp]
theorem breaking_none (follower : Follower α σ) : follower.breaking none = [] := rfl

/-- What happens during a call that leads to a follower. -/
def happenings (follower : Follower α σ) (call : Call α σ) (after : Follower α σ) :
    List (Event α σ) :=
  follower.announced call ++ (after.attempts.drop follower.attempts.length).map .tried ++
    follower.breaking (follower.brokenBy call)

theorem happenings_eq {follower after : Follower α σ} {more : List (Attempt α)}
    (attempts : after.attempts = follower.attempts ++ more) (call : Call α σ) :
    follower.happenings call after = follower.announced call ++ more.map .tried ++
      follower.breaking (follower.brokenBy call) := by
  rw [happenings, attempts, List.drop_left]

section Starting

variable {follower : Follower α σ}

theorem brokenBy_start_of_connected {line : Line α σ} (connected : follower.line = some line) :
    follower.brokenBy (.start : Call α σ) = none := by
  simp only [brokenBy, start, connected]
  rfl

theorem brokenBy_start_of_tooLate {fault : Duration.Fault} (disconnected : follower.line = none)
    (tooLate : follower.clock.later follower.config.acceptTimeout = .error fault) :
    follower.brokenBy (.start : Call α σ) = some fault := by
  rw [brokenBy, start_of_tooLate disconnected tooLate]
  rfl

theorem brokenBy_start_of_inTime {deadline : Duration} (disconnected : follower.line = none)
    (inTime : follower.clock.later follower.config.acceptTimeout = .ok deadline) :
    follower.brokenBy (.start : Call α σ) = none := by
  simp only [brokenBy, start, disconnected, inTime, Option.isSome_none, Bool.false_eq_true, if_false]
  cases follower.waiting with
  | nil => rfl
  | cons peer later =>
    dsimp only
    split <;> rfl

end Starting

/-- The journals of a follower that was bound with some settings, between calls.  A call that broke
down is over, too. -/
inductive History (config : Config α) : List (Event α σ) → Follower α σ → Prop where
  | bound : History config [] { config }
  | call {events : List (Event α σ)} {follower after : Follower α σ} {call : Call α σ}
      (before : History config events follower) (performed : follower.perform call = some after) :
      History config (events ++ follower.happenings call after) after

/-! ### The records of a run -/

/-- Records that ask the control program to wait for more, all but the last with success. -/
inductive Sends : Follower α σ → Except Fault Unit → Follower α σ → Prop where
  | last {follower : Follower α σ} {line : Line α σ} {command : Command α}
      (connected : follower.line = some line) (numbered : command.sequence = follower.sequence)
      (keeps : command.flag = .keepAlive) :
      Sends follower (follower.attempt line command).outcome (follower.tell line command)
  | next {follower after : Follower α σ} {line : Line α σ} {command : Command α}
      {answer : Except Fault Unit} (connected : follower.line = some line)
      (numbered : command.sequence = follower.sequence) (keeps : command.flag = .keepAlive)
      (succeeds : (follower.attempt line command).outcome = .ok ()) (due : Duration)
      (later : Sends ((follower.tell line command).sleepUntil due) answer after) :
      Sends follower answer after

theorem Sends.status_eq {follower after : Follower α σ} {answer : Except Fault Unit}
    (sends : Sends follower answer after) : after.status = follower.status := by
  induction sends with
  | last => rfl
  | next _ _ _ _ _ _ ih => exact ih

/-- What has come of the last record of a run. -/
def lastAnswer : Result Outcome → Except Fault Unit
  | .ok (.error fault) => .error fault
  | _ => .ok ()

theorem sends_of_tick {profile : Profile α} {elapsed : Duration}
    {follower after : Follower α σ} {result : Result Outcome}
    (run : tick profile elapsed follower = some (result, after))
    (connected : follower.line.isSome) : Sends follower (lastAnswer result) after := by
  -- A run that comes to an end has finitely many control periods, whatever the period is.
  refine tick.partial_correctness
    (fun _ _ follower ran => follower.line.isSome → Sends follower (lastAnswer ran.1) ran.2)
    ?_ profile elapsed follower (result, after) run connected
  intro further ih profile elapsed follower ran run connected
  obtain ⟨line, isLine⟩ := Option.isSome_iff_exists.mp connected
  rw [isLine] at run
  dsimp only at run
  split at run
  · cases run
    rw [send_eq]
    let command := Command.hold follower.sequence
      (line.lastPositions.getD (profile.sample .zero).positions)
    have last : Sends follower _ (follower.tell line command) := .last isLine rfl rfl
    dsimp only
    generalize (follower.attempt line _).outcome = outcome at last ⊢
    cases outcome <;> exact last
  · rw [send_eq] at run
    let command := Command.servo follower.sequence (sampleAt profile elapsed).positions
      (sampleAt profile elapsed).velocities
    have last : Sends follower _ (follower.tell line command) := .last isLine rfl rfl
    dsimp only at run
    split at run
    · rename_i fault fails
      cases run
      rw [fails] at last
      exact last
    · rename_i succeeds
      split at run
      · cases run
        rw [succeeds] at last
        exact last
      · split at run
        · cases run
          rw [succeeds] at last
          exact last
        · exact .next isLine rfl rfl succeeds _ (ih _ _ _ _ run rfl)

end ArmLink.Follower
