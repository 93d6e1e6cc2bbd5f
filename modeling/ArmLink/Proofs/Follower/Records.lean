import ArmLink.Follower.Basic

/-!
What one record does to a follower and its connection, and what one control period does: it is a
record, and then the end of the run, the next period, or a breakdown where the next period is out of
range.
-/

namespace ArmLink.Follower

open Motion Servo

/-! ### Starting -/

section Start

variable {α σ : Type} {follower : Follower α σ} {line : Line α σ}

theorem start_of_connected (connected : follower.line = some line) :
    follower.start.2 = { follower with interrupted := false, status := .connected } := by
  simp only [start, connected]
  rfl

theorem start_of_tooLate {fault : Duration.Fault} (disconnected : follower.line = none)
    (tooLate : follower.clock.later follower.config.acceptTimeout = .error fault) :
    follower.start = (.error fault, { follower with interrupted := false }) := by
  simp only [start, disconnected, tooLate]
  rfl

variable {deadline : Duration}

theorem start_of_nobody (disconnected : follower.line = none)
    (inTime : follower.clock.later follower.config.acceptTimeout = .ok deadline)
    (nobody : follower.waiting = []) :
    follower.start.2 = { follower with interrupted := false }.sleepUntil deadline := by
  simp only [start, disconnected, inTime, nobody]
  rfl

theorem start_of_waiting {peer : σ} {later : List σ} (disconnected : follower.line = none)
    (inTime : follower.clock.later follower.config.acceptTimeout = .ok deadline)
    (waiting : follower.waiting = peer :: later) :
    follower.start.2 =
      if follower.config.hasZeroTimeout then
        { follower with
          interrupted := false
          waiting := later
          connections := follower.connections + 1
          dropped := follower.dropped ++ [(follower.connections + 1, peer)] }
      else
        { follower with
          interrupted := false
          waiting := later
          line := some { peer }
          status := .connected
          connections := follower.connections + 1 } := by
  simp only [start, disconnected, inTime, waiting, Option.isSome_none, Bool.false_eq_true, if_false]
  split <;> rfl

theorem attempts_start (follower : Follower α σ) : follower.start.2.attempts = follower.attempts := by
  cases connected : follower.line with
  | some line => rw [start_of_connected connected]
  | none =>
    cases inTime : follower.clock.later follower.config.acceptTimeout with
    | error fault => rw [start_of_tooLate connected inTime]
    | ok deadline =>
      cases waiting : follower.waiting with
      | nil =>
        rw [start_of_nobody connected inTime waiting]
        rfl
      | cons peer later =>
        rw [start_of_waiting connected inTime waiting]
        split <;> rfl

end Start

theorem clock_sleepUntil {α σ : Type} (follower : Follower α σ) (moment : Duration) :
    (follower.sleepUntil moment).clock.nanos = max follower.clock.nanos moment.nanos := by
  show (if follower.clock.nanos < moment.nanos then moment else follower.clock).nanos = _
  split <;> omega

/-! ### One record -/

variable {α σ : Type} [Scalar α] [Peer σ]

/-- A connection after one record. -/
def Line.tell (line : Line α σ) (command : Command α) : Line α σ :=
  let reaction := Peer.react line.peer command.encode
  { peer := reaction.peer
    lastPositions := match reaction.delivery with
      | .written _ => some command.positions
      | _ => line.lastPositions }

/-- A follower after one record. -/
def tell (follower : Follower α σ) (line : Line α σ) (command : Command α) : Follower α σ :=
  { follower with
    line := some (line.tell command)
    interrupted := follower.interrupted || (Peer.react line.peer command.encode).interrupts
    sequence := follower.sequence + 1
    attempts := follower.attempts ++ [follower.attempt line command]
    clock := follower.clock.plus (Peer.react line.peer command.encode).took }

variable {follower after : Follower α σ} {line : Line α σ} {command : Command α}
  {profile : Profile α} {elapsed : Duration} {fault : Fault}

theorem send_eq (follower : Follower α σ) (line : Line α σ) (make : UInt32 → Command α) :
    follower.send line make =
      ((follower.attempt line (make follower.sequence)).outcome,
        follower.tell line (make follower.sequence)) := rfl

@[simp]
theorem connections_tell (follower : Follower α σ) (line : Line α σ) (command : Command α) :
    (follower.tell line command).connections = follower.connections := rfl

@[simp]
theorem connection_attempt (follower : Follower α σ) (line : Line α σ) (command : Command α) :
    (follower.attempt line command).connection = follower.connections := rfl

theorem written_of_ok (succeeds : (follower.attempt line command).outcome = .ok ()) :
    ∃ answer, (follower.attempt line command).delivery = .written answer := by
  change outcomeOf _ _ (follower.attempt line command).delivery = _ at succeeds
  cases delivery : (follower.attempt line command).delivery with
  | written answer => exact ⟨answer, rfl⟩
  | lost =>
    rw [delivery] at succeeds
    cases succeeds
  | failed fault =>
    rw [delivery] at succeeds
    cases succeeds

theorem lastPositions_tell (succeeds : (follower.attempt line command).outcome = .ok ()) :
    (line.tell command).lastPositions = some command.positions := by
  obtain ⟨answer, written⟩ := written_of_ok succeeds
  change (Peer.react line.peer command.encode).delivery = _ at written
  simp only [Line.tell, written]

/-! ### One control period -/

theorem tick_of_interrupted (connected : follower.line = some line)
    (interrupted : follower.interrupted = true)
    (holds : command = Command.hold follower.sequence
      (line.lastPositions.getD (profile.sample .zero).positions)) :
    tick profile elapsed follower =
      some (.ok ((follower.attempt line command).outcome.map fun () => .interrupted),
        follower.tell line command) := by
  rw [tick.eq_def, connected]
  dsimp only
  rw [if_pos interrupted, send_eq, ← holds]

theorem tick_of_quiet (connected : follower.line = some line)
    (quiet : follower.interrupted = false)
    (samples : command = Command.servo follower.sequence (sampleAt profile elapsed).positions
      (sampleAt profile elapsed).velocities) :
    tick profile elapsed follower =
      match (follower.attempt line command).outcome with
      | .error fault => some (.ok (.error fault), follower.tell line command)
      | .ok () =>
        if profile.duration ≤ elapsed then some (.ok (.ok .completed), follower.tell line command)
        else
          match advance follower.config.period elapsed follower.clock with
          | .error fault => some (.error fault, follower.tell line command)
          | .ok (next, due) =>
            tick profile next ((follower.tell line command).sleepUntil due) := by
  rw [tick.eq_def, connected]
  dsimp only
  rewrite [if_neg (by simp [quiet]), send_eq, ← samples]
  rfl

/-! ### A run -/

/-- A follower before the first control period. -/
def begun (follower : Follower α σ) (line : Line α σ) (profile : Profile α) : Follower α σ :=
  { follower with
    line := some { line with lastPositions := some (profile.sample .zero).positions }
    status := .streaming }

/-- What following a profile gives when its control periods are over. -/
def ended : Result Outcome × Follower α σ → Result Outcome × Follower α σ
  | (.ok (.ok outcome), after) => (.ok (.ok outcome), { after with status := outcome.status })
  | (.ok (.error fault), after) => (.ok (.error fault), after.drop .hung)
  | (.error fault, after) => (.error fault, after)

theorem stream_of_disconnected (disconnected : follower.line = none) :
    follower.stream profile = some (.ok (.error .notConnected), follower) := by
  rw [stream, disconnected]
  rfl

theorem stream_of_connected (connected : follower.line = some line) :
    follower.stream profile = (tick profile .zero (follower.begun line profile)).map ended := by
  have start : { follower with status := .streaming }.remember (profile.sample .zero).positions =
      follower.begun line profile := by
    rw [remember, connected]
    rfl
  rw [stream, if_neg (by simp [connected])]
  dsimp only
  rw [start]
  congr 1
  funext ⟨result, after⟩
  rcases result with _ | _ | _ <;> rfl

section Follow

variable {mode : Mode} {points : List (Waypoint α)}

theorem follow_of_error {refusal : PlanFault}
    (refused : Profile.make mode points follower.config.maxVelocity follower.config.maxAcceleration =
      .error refusal) :
    follower.follow mode points =
      some (.ok (.error (.plan refusal)), follower.rememberStart points) := by
  cases points <;> simp only [follow, rememberStart, remember, refused]

theorem follow_of_ok
    (made : Profile.make mode points follower.config.maxVelocity follower.config.maxAcceleration =
      .ok profile) :
    follower.follow mode points = (follower.rememberStart points).stream profile := by
  cases points <;> simp only [follow, rememberStart, remember, made]

end Follow

/-! ### Stopping -/

theorem stop_of_disconnected (disconnected : follower.line = none) :
    follower.stop = (.ok (), { follower.interrupt with status := .idle }) := by
  have interrupted : follower.interrupt.line = none := disconnected
  simp only [stop, interrupted]

theorem stop_of_unknown (connected : follower.line = some line)
    (unknown : line.lastPositions = none) :
    follower.stop = (.ok (), { follower.interrupt with status := .connected }) := by
  have interrupted : follower.interrupt.line = some line := connected
  simp only [stop, interrupted, unknown]

theorem stop_of_known {positions : Joints α} (connected : follower.line = some line)
    (known : line.lastPositions = some positions)
    (stops : command = Command.stop follower.sequence positions) :
    follower.stop =
      match (follower.attempt line command).outcome with
      | .ok () => (.ok (), { follower.interrupt.tell line command with status := .connected })
      | .error fault => (.error fault, (follower.interrupt.tell line command).drop .idle) := by
  have interrupted : follower.interrupt.line = some line := connected
  have sent : (follower.interrupt.send line fun sequence => Command.stop sequence positions) =
      ((follower.attempt line command).outcome, follower.interrupt.tell line command) := by
    rw [stops]
    rfl
  simp only [stop, interrupted, known, sent]
  generalize (follower.attempt line command).outcome = outcome
  cases outcome <;> rfl

theorem tried_of_stop {positions : Joints α} (connected : follower.line = some line)
    (known : line.lastPositions = some positions)
    (stops : command = Command.stop follower.sequence positions) :
    follower.stop.2.attempts = follower.attempts ++ [follower.attempt line command] ∧
      follower.stop.1 = (follower.attempt line command).outcome := by
  rw [stop_of_known connected known stops]
  cases (follower.attempt line command).outcome <;> exact ⟨rfl, rfl⟩

end ArmLink.Follower
