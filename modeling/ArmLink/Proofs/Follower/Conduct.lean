import ArmLink.Proofs.Follower.Ledger
import ArmLink.Proofs.Follower.Streaming

/-!
Conduct: what holds of a follower between any two calls, whatever the calls were and whatever the
control programs did.  Each call is taken apart into the changes of its ledger, and leaves a
connection behind only if nothing has failed on it.  This is so even of a call that breaks down; such
a call may leave a follower that says it is streaming.
-/

namespace ArmLink.Follower

open Motion Servo

variable {α σ : Type} [Scalar α] [Peer σ] {config : Config α} {events : List (Event α σ)}
  {follower after : Follower α σ} {line : Line α σ}

/-! ### One call -/

theorem Orderly.same (orderly : Orderly config events follower) (alike : Alike follower after)
    (line : after.line = follower.line) (status : after.status = follower.status) :
    Orderly config events after := by
  obtain ⟨ledger, good, placed⟩ := orderly
  refine ⟨ledger.congr alike, good.congr line alike.connections, ?_⟩
  have placed := placed.congr [] (congrArg _ line) status
  rwa [List.append_nil] at placed

theorem Orderly.brokeDown (orderly : Orderly config events follower) (fault : Duration.Fault) :
    Orderly config (events ++ follower.breaking (some fault)) follower :=
  ⟨orderly.ledger.noted rfl (fun _ _ => rfl) (Nat.le_refl _), orderly.good.brokeDown _ fault,
    orderly.placed.congr _ rfl rfl⟩

theorem Orderly.start (orderly : Orderly config events follower) :
    Orderly config (events ++ follower.announced .start ++ follower.breaking
      (follower.brokenBy (.start : Call α σ))) follower.start.2 := by
  obtain ⟨ledger, good, placed⟩ := orderly
  cases connected : follower.line with
  | some line =>
    have silent : follower.announced (.start : Call α σ) = [] := by simp [announced, connected]
    rw [start_of_connected connected, silent, brokenBy_start_of_connected connected, breaking_none,
      List.append_nil, List.append_nil]
    exact ⟨ledger.congr ⟨rfl, rfl, rfl, rfl, rfl, rfl⟩, good.congr rfl rfl,
      placed_of_connected (connected ▸ rfl) (.inl rfl)⟩
  | none =>
    cases inTime : follower.clock.later follower.config.acceptTimeout with
    | error fault =>
      have silent : follower.announced (.start : Call α σ) = [] := by
        simp [announced, connected, inTime]
      rw [start_of_tooLate connected inTime, silent, brokenBy_start_of_tooLate connected inTime,
        List.append_nil]
      have broken : Orderly config _ follower := Orderly.brokeDown ⟨ledger, good, placed⟩ fault
      exact broken.same ⟨rfl, rfl, rfl, rfl, rfl, rfl⟩ rfl rfl
    | ok deadline =>
      rw [brokenBy_start_of_inTime connected inTime, breaking_none, List.append_nil]
      cases waiting : follower.waiting with
      | nil =>
        have silent : follower.announced (.start : Call α σ) = [] := by
          simp [announced, connected, inTime, waiting]
        rw [start_of_nobody connected inTime waiting, silent, List.append_nil]
        exact Orderly.same ⟨ledger, good, placed⟩ ⟨rfl, rfl, rfl, rfl, rfl, rfl⟩ rfl rfl
      | cons peer later =>
        have opens : follower.announced (.start : Call α σ) =
            [.opened (follower.connections + 1) peer] := by
          simp [announced, connected, inTime, waiting]
        rw [start_of_waiting connected inTime waiting, opens]
        split
        · exact ⟨ledger.opened rfl rfl rfl rfl (.inr ⟨connected, rfl⟩),
            good_of_disconnected connected, placed.congr _ rfl rfl⟩
        · obtain ⟨noAttempt, nothingKept⟩ := ledger.fresh
          refine ⟨ledger.opened rfl rfl rfl rfl (.inl ⟨rfl, rfl⟩), ?_,
            placed_of_connected rfl (.inl rfl)⟩
          constructor
          · intro _ attempt isAttempt same
            rw [attemptsOf_append, attemptsOf_of_silent rfl, List.append_nil] at isAttempt
            exact absurd same (noAttempt attempt isAttempt)
          · rintro _ ⟨⟩
            rw [kept_concat]
            exact nothingKept.symm

/-- A trajectory that is followed adds its records, and may end the connection or break down. -/
theorem Orderly.stream {profile : Profile α} {result : Result Outcome}
    (orderly : Orderly config events follower)
    (given : follower.line.isSome → ∃ start, .given follower.connections start ∈ events)
    (run : follower.stream profile = some (result, after)) :
    ∃ more : List (Attempt α), after.attempts = follower.attempts ++ more ∧
      Orderly config (events ++ more.map .tried ++ follower.breaking (breakdown? result)) after := by
  cases connected : follower.line with
  | none =>
    rw [stream_of_disconnected connected] at run
    cases run
    exact ⟨[], (List.append_nil _).symm, by simpa [breakdown?] using orderly⟩
  | some line =>
    obtain ⟨ledger, good, placed⟩ := orderly
    rw [stream_of_connected connected] at run
    obtain ⟨⟨answer, ran⟩, ticks, ends⟩ := Option.map_eq_some_iff.mp run
    have begun : Alike follower (follower.begun line profile) :=
      ⟨rfl, by rw [connected]; rfl, rfl, rfl, rfl, rfl⟩
    obtain ⟨start, isGiven⟩ := given (connected ▸ rfl)
    obtain ⟨more, attempts, ledger, isConnected, stillGood⟩ := (ledger.congr begun).sends
      (good.succeeded (connected ▸ rfl)) ⟨start, isGiven⟩ (sends_of_tick ticks rfl)
    have status : ran.status = .streaming := (sends_of_tick ticks rfl).status_eq
    refine ⟨more, ?_, ?_⟩
    · rcases answer with _ | _ | _ <;> cases ends <;> exact attempts
    · rcases answer with fault | fault | outcome
      · -- what is left stands as it stood behind the last record
        cases ends
        have inside := ledger.bounded _ (List.mem_append_left _ isGiven)
        refine ⟨ledger.noted rfl (fun _ _ => rfl) inside, (stillGood rfl).brokeDown _ fault, ?_, ?_,
          ?_⟩
        · exact fun _ => .inr (.inr (.inr status))
        · intro disconnected
          rw [disconnected] at isConnected
          cases isConnected
        · intro _
          exact ⟨_, fault, List.mem_append_right _ List.mem_cons_self⟩
      · cases ends
        rw [breakdown?, breaking_none, List.append_nil]
        exact ⟨ledger.drop .hung, good_of_disconnected rfl,
          placed_of_disconnected rfl (.inr rfl)⟩
      · cases ends
        rw [breakdown?, breaking_none, List.append_nil]
        refine ⟨ledger.congr ⟨rfl, rfl, rfl, rfl, rfl, rfl⟩, (stillGood rfl).congr rfl rfl,
          placed_of_connected isConnected ?_⟩
        cases outcome
        · exact .inr (.inl rfl)
        · exact .inr (.inr rfl)

theorem Orderly.remember (orderly : Orderly config events follower) (mode : Mode)
    (first : Waypoint α) (later : List (Waypoint α)) :
    Orderly config (events ++ follower.announced (.follow mode (first :: later)))
        (follower.remember first.positions) ∧
      ((follower.remember first.positions).line.isSome →
        .given follower.connections first.positions ∈
          events ++ follower.announced (.follow mode (first :: later))) := by
  obtain ⟨ledger, good, placed⟩ := orderly
  have alike : Alike follower (follower.remember first.positions) := by
    refine ⟨rfl, ?_, rfl, rfl, rfl, rfl⟩
    rw [Follower.remember, Option.map_map]
    rfl
  cases connected : follower.line with
  | none =>
    have silent : follower.announced (σ := σ) (.follow mode (first :: later)) = [] := by
      simp [announced, connected]
    have disconnected : (follower.remember first.positions).line = none := by
      rw [Follower.remember, connected]
      rfl
    rw [silent, List.append_nil, disconnected]
    exact ⟨⟨ledger.congr alike, good_of_disconnected disconnected,
      placed_of_disconnected disconnected (placed.disconnected connected)⟩,
      fun isConnected => by cases isConnected⟩
  | some line =>
    have gives : follower.announced (.follow mode (first :: later)) =
        [.given follower.connections first.positions] := by
      simp [announced, connected]
    rw [gives]
    have given : Ledger config (events ++ [.given follower.connections first.positions])
        follower :=
      ledger.noted rfl (fun _ _ => rfl) (Nat.le_refl _)
    refine ⟨⟨given.congr alike, ?_, ?_⟩, fun _ => by simp⟩
    · constructor
      · intro _ attempt isAttempt same
        rw [attemptsOf_append, attemptsOf_of_silent rfl, List.append_nil] at isAttempt
        exact good.succeeded (connected ▸ rfl) attempt isAttempt same
      · intro after isAfter
        rw [Follower.remember, connected] at isAfter
        cases isAfter
        rw [kept_concat]
        exact (if_pos rfl).symm
    · refine placed.congr _ ?_ rfl
      rw [Follower.remember, Option.isSome_map]

theorem Orderly.follow {mode : Mode} {points : List (Waypoint α)}
    {result : Result Outcome} (orderly : Orderly config events follower)
    (run : follower.follow mode points = some (result, after)) :
    ∃ more : List (Attempt α), after.attempts = follower.attempts ++ more ∧
      Orderly config (events ++ follower.announced (.follow mode points) ++ more.map .tried ++
        follower.breaking (follower.brokenBy (.follow mode points))) after := by
  have broken : follower.brokenBy (.follow mode points) = breakdown? result := by
    rw [brokenBy, run]
    rfl
  rw [broken]
  cases points with
  | nil =>
    have refused : Profile.make mode [] follower.config.maxVelocity
        follower.config.maxAcceleration = .error .emptyTrajectory := by
      cases mode <;> rfl
    rw [follow_of_error refused] at run
    cases run
    refine ⟨[], (List.append_nil _).symm, ?_⟩
    simpa [announced, rememberStart, breakdown?] using orderly
  | cons first later =>
    obtain ⟨remembered, given⟩ := orderly.remember mode first later
    cases made : Profile.make mode (first :: later) follower.config.maxVelocity
        follower.config.maxAcceleration with
    | error refusal =>
      rw [follow_of_error made] at run
      cases run
      refine ⟨[], (List.append_nil _).symm, ?_⟩
      simpa [rememberStart, breakdown?] using remembered
    | ok profile =>
      rw [follow_of_ok made] at run
      exact remembered.stream (fun connected => ⟨_, given connected⟩) run

theorem Orderly.stop (orderly : Orderly config events follower) :
    ∃ more : List (Attempt α), follower.stop.2.attempts = follower.attempts ++ more ∧
      Orderly config (events ++ more.map .tried) follower.stop.2 := by
  obtain ⟨ledger, good, placed⟩ := orderly
  have interrupted : Ledger config events follower.interrupt :=
    ledger.congr ⟨rfl, rfl, rfl, rfl, rfl, rfl⟩
  cases connected : follower.line with
  | none =>
    rw [stop_of_disconnected connected]
    refine ⟨[], (List.append_nil _).symm, ?_⟩
    rw [List.map_nil, List.append_nil]
    exact ⟨interrupted.congr ⟨rfl, rfl, rfl, rfl, rfl, rfl⟩, good.congr rfl rfl,
      placed_of_disconnected connected (.inl rfl)⟩
  | some line =>
    cases known : line.lastPositions with
    | none =>
      rw [stop_of_unknown connected known]
      refine ⟨[], (List.append_nil _).symm, ?_⟩
      rw [List.map_nil, List.append_nil]
      exact ⟨interrupted.congr ⟨rfl, rfl, rfl, rfl, rfl, rfl⟩, good.congr rfl rfl,
        placed_of_connected (connected ▸ rfl) (.inl rfl)⟩
    | some positions =>
      have keeps : kept follower.connections events = some positions :=
        (good.keeps line connected).symm.trans known
      have succeeded := good.succeeded (connected ▸ rfl)
      have more : Ledger config _ (follower.interrupt.tell line
          (Command.stop follower.sequence positions)) :=
        interrupted.tell connected succeeded (ledger.accounted.given_of_kept keeps) rfl
          fun _ => keeps
      obtain ⟨attempts, -⟩ := tried_of_stop connected known rfl
      refine ⟨_, attempts, ?_⟩
      rw [stop_of_known connected known rfl]
      cases outcome : (follower.attempt line _).outcome with
      | ok =>
        exact ⟨more.congr ⟨rfl, rfl, rfl, rfl, rfl, rfl⟩,
          (good_of_tell succeeded outcome).congr rfl rfl, placed_of_connected rfl (.inl rfl)⟩
      | error fault =>
        exact ⟨more.drop .idle, good_of_disconnected rfl, placed_of_disconnected rfl (.inl rfl)⟩

theorem Orderly.happened {call : Call α σ} (more : List (Attempt α))
    (attempts : after.attempts = follower.attempts ++ more)
    (orderly : Orderly config (events ++ follower.announced call ++ more.map .tried ++
      follower.breaking (follower.brokenBy call)) after) :
    Orderly config (events ++ follower.happenings call after) after := by
  rwa [happenings_eq attempts, ← List.append_assoc, ← List.append_assoc]

/-- A call that only changes the follower itself. -/
theorem Orderly.unheard {call : Call α σ} (attempts : after.attempts = follower.attempts)
    (silent : follower.announced call = []) (unbroken : follower.brokenBy call = none)
    (orderly : Orderly config events after) :
    Orderly config (events ++ follower.happenings call after) after := by
  refine Orderly.happened [] (attempts.trans (List.append_nil _).symm) ?_
  rw [silent, unbroken, breaking_none, List.map_nil, List.append_nil, List.append_nil,
    List.append_nil]
  exact orderly

theorem orderly_of_perform {call : Call α σ} (orderly : Orderly config events follower)
    (performed : follower.perform call = some after) :
    Orderly config (events ++ follower.happenings call after) after := by
  cases call with
  | connects peer | interrupt | passes span =>
    cases performed
    refine Orderly.unheard ?_ ?_ ?_ (orderly.same ?_ ?_ ?_)
    case refine_4 => exact ⟨rfl, rfl, rfl, rfl, rfl, rfl⟩
    all_goals rfl
  | start =>
    cases performed
    refine Orderly.happened [] (by rw [attempts_start, List.append_nil]) ?_
    rw [List.map_nil, List.append_nil]
    exact orderly.start
  | follow mode points =>
    obtain ⟨⟨result, _⟩, run, rfl⟩ := Option.map_eq_some_iff.mp performed
    obtain ⟨more, attempts, followed⟩ := orderly.follow run
    exact Orderly.happened more attempts followed
  | stop =>
    cases performed
    obtain ⟨more, attempts, stopped⟩ := orderly.stop
    refine Orderly.happened more attempts ?_
    simpa only [announced, brokenBy, breaking_none, List.append_nil] using stopped
  | disconnect =>
    cases performed
    have dropped : Orderly config events (follower.drop .idle) := ⟨orderly.ledger.drop .idle,
      good_of_disconnected rfl, placed_of_disconnected rfl (.inl rfl)⟩
    exact dropped.unheard rfl rfl rfl

theorem orderly_of_history (history : History config events follower) :
    Orderly config events follower := by
  induction history with
  | bound =>
    exact ⟨ledger_of_bound config, good_of_disconnected rfl,
      placed_of_disconnected rfl (.inl rfl)⟩
  | call before performed ih => exact orderly_of_perform ih performed

/-! ### Conduct -/

/-- What can be said of a follower between calls, given what has happened. -/
structure Conduct (config : Config α) (events : List (Event α σ)) (follower : Follower α σ) :
    Prop where
  /-- In two states there is no connection, and in the others there is one. -/
  status : (follower.line.isSome ↔ follower.status = .connected ∨ follower.status = .completed ∨
      follower.status = .interrupted ∨ follower.status = .streaming) ∧
    (follower.line = none ↔ follower.status = .idle ∨ follower.status = .hung)
  /-- Between calls nobody is streaming, unless a call has broken down. -/
  streaming : (∀ connection fault, .brokeDown connection fault ∉ events) →
    follower.status ≠ .streaming
  recorded : follower.attempts = attemptsOf events ∧
    follower.sequence = UInt32.ofNat follower.attempts.length
  /-- Every record has its number, follows no failure on its connection, and stops where it should. -/
  accounted : AllAccounted config events
  acknowledged : ∀ timeout, config.acknowledgementTimeout = some timeout →
    ∀ earlier attempt later, events = earlier ++ .tried attempt :: later →
      ∀ other ∈ attemptsOf earlier, other.connection = attempt.connection →
        ∃ read, other.delivery = .written (.bytes read) ∧
          decodeAcknowledgement read = .ok other.command.sequence
  /-- Control programs have been sent the records tried on their connections, and nothing else. -/
  sent : (∀ line, follower.line = some line →
      heard follower.connections events = some line.peer) ∧
    ∀ entry ∈ follower.dropped, heard entry.1 events = some entry.2
  /-- A failure ends its connection. -/
  lost : ∀ attempt ∈ follower.attempts, attempt.outcome ≠ .ok () →
    attempt.connection = follower.connections → follower.line = none
  /-- Without a connection nothing is tried until the follower is started again. -/
  restart : follower.line = none →
    (∀ call after, call ≠ .start → follower.perform call = some after →
      after.line = none ∧ after.attempts = follower.attempts) ∧
    ∀ mode points, ∃ fault, follower.follow mode points = some (.ok (.error fault), follower)
  /-- Stopping sends a record if a trajectory was given on the connection. -/
  stopping : ∀ line, follower.line = some line →
    (kept follower.connections events = none →
      follower.stop.2.attempts = follower.attempts) ∧
    ∀ positions, kept follower.connections events = some positions →
      ∃ stop : Attempt α, follower.stop.2.attempts = follower.attempts ++ [stop] ∧
        stop.command = Command.stop follower.sequence positions

omit [Scalar α] [Peer σ] in
theorem Placed.status (placed : Placed events follower) :
    (follower.line.isSome ↔ follower.status = .connected ∨ follower.status = .completed ∨
        follower.status = .interrupted ∨ follower.status = .streaming) ∧
      (follower.line = none ↔ follower.status = .idle ∨ follower.status = .hung) := by
  obtain ⟨connected, disconnected, -⟩ := placed
  cases line : follower.line with
  | none =>
    have stands := disconnected line
    refine ⟨⟨nofun, ?_⟩, fun _ => stands, fun _ => rfl⟩
    rcases stands with stands | stands <;> rw [stands] <;> simp
  | some line' =>
    have stands := connected (line ▸ rfl)
    refine ⟨⟨fun _ => stands, fun _ => rfl⟩, nofun, ?_⟩
    rcases stands with stands | stands | stands | stands <;> rw [stands] <;> simp

/-- A record that was to be acknowledged and succeeded has been acknowledged with its number. -/
theorem acknowledged_of_ok {timeout : Duration} {sequence : UInt32} {delivery : Delivery}
    (succeeds : outcomeOf (some timeout) sequence delivery = .ok ()) :
    ∃ read, delivery = .written (.bytes read) ∧ decodeAcknowledgement read = .ok sequence := by
  cases delivery with
  | lost => cases succeeds
  | failed fault => cases succeeds
  | written answer =>
    cases answer with
    | late => cases succeeds
    | closed => cases succeeds
    | failed fault => cases succeeds
    | bytes read =>
      refine ⟨read, rfl, ?_⟩
      simp only [outcomeOf, judge] at succeeds
      cases decoded : decodeAcknowledgement read with
      | error fault =>
        rw [decoded] at succeeds
        cases succeeds
      | ok actual =>
        rw [decoded] at succeeds
        by_cases same : actual = sequence
        · rw [same]
        · dsimp only at succeeds
          rw [if_neg same] at succeeds
          cases succeeds

theorem Ledger.acknowledged {timeout : Duration} (ledger : Ledger config events follower)
    (asked : config.acknowledgementTimeout = some timeout) {earlier later : List (Event α σ)}
    {attempt other : Attempt α} (split : events = earlier ++ .tried attempt :: later)
    (before : other ∈ attemptsOf earlier) (same : other.connection = attempt.connection) :
    ∃ read, other.delivery = .written (.bytes read) ∧
      decodeAcknowledgement read = .ok other.command.sequence := by
  have succeeds := (ledger.accounted earlier attempt later split).succeeded other before same
  obtain ⟨front, back, cut⟩ := List.append_of_mem (mem_attemptsOf.mp before)
  have judged := (ledger.accounted front other (back ++ .tried attempt :: later)
    (by rw [split, cut, List.append_assoc]; rfl)).judged
  rw [succeeds, asked] at judged
  exact acknowledged_of_ok judged.symm

theorem follow_of_disconnected (disconnected : follower.line = none) (mode : Mode)
    (points : List (Waypoint α)) :
    ∃ fault, follower.follow mode points = some (.ok (.error fault), follower) := by
  have unchanged : follower.rememberStart points = follower := by
    cases points with
    | nil => rfl
    | cons first later =>
      rw [rememberStart, Follower.remember, disconnected, Option.map_none, ← disconnected]
  cases made : Profile.make mode points follower.config.maxVelocity
      follower.config.maxAcceleration with
  | error refusal => exact ⟨_, by rw [follow_of_error made, unchanged]⟩
  | ok profile =>
    exact ⟨_, by rw [follow_of_ok made, unchanged, stream_of_disconnected disconnected]⟩

theorem perform_of_disconnected {call : Call α σ} (disconnected : follower.line = none)
    (other : call ≠ .start) (performed : follower.perform call = some after) :
    after.line = none ∧ after.attempts = follower.attempts := by
  cases call with
  | connects peer | interrupt | passes span =>
    cases performed
    exact ⟨disconnected, rfl⟩
  | start => exact absurd rfl other
  | follow mode points =>
    obtain ⟨fault, run⟩ := follow_of_disconnected disconnected mode points
    rw [perform, run] at performed
    cases performed
    exact ⟨disconnected, rfl⟩
  | stop =>
    cases performed
    rw [stop_of_disconnected disconnected]
    exact ⟨disconnected, rfl⟩
  | disconnect =>
    cases performed
    exact ⟨rfl, rfl⟩

/-- A follower that was bound keeps order through every sequence of calls. -/
theorem conduct_of_history (history : History config events follower) :
    Conduct config events follower := by
  obtain ⟨ledger, good, placed⟩ := orderly_of_history history
  constructor
  · exact placed.status
  · intro unbroken isStreaming
    obtain ⟨connection, fault, isEvent⟩ := placed.streaming isStreaming
    exact unbroken connection fault isEvent
  · exact ⟨ledger.recorded, ledger.recorded ▸ ledger.counted⟩
  · exact ledger.accounted
  · intro timeout asked earlier attempt later split other before same
    exact ledger.acknowledged asked split before same
  · exact ⟨ledger.line, fun entry isEntry => (ledger.dropped entry isEntry).1⟩
  · intro attempt isAttempt failed same
    cases connected : follower.line with
    | none => rfl
    | some line =>
      rw [ledger.recorded] at isAttempt
      exact absurd (good.succeeded (connected ▸ rfl) attempt isAttempt same) failed
  · intro disconnected
    exact ⟨fun call after other performed => perform_of_disconnected disconnected other performed,
      follow_of_disconnected disconnected⟩
  · intro line connected
    rw [← good.keeps line connected]
    constructor
    · intro unknown
      rw [stop_of_unknown connected unknown]
      rfl
    · intro positions known
      exact ⟨_, (tried_of_stop connected known rfl).1, rfl⟩

/-! ### A run in which a trajectory is refused -/

/-- Whole numbers, with which a run can be followed exactly. -/
instance : Scalar Int where
  ofNat := Int.ofNat
  lt x y := decide (x < y)
  le x y := decide (x ≤ y)
  abs x := x.natAbs
  sqrt x := ((List.range x.toNat).filter fun root => (root + 1) * (root + 1) ≤ x.toNat).length
  withSign magnitude sign := if sign < 0 then -magnitude.natAbs else magnitude.natAbs
  isFinite _ := true
  roundWithin low high x := max low (min high x)

/-- Settings with which no acknowledgement is expected. -/
def plain : Config Int where
  address := ""
  port := 0
  acceptTimeout := .ofMillis 1000
  period := .ofMillis 8
  writeTimeout := .ofMillis 8
  acknowledgementTimeout := none
  maxVelocity := 10
  maxAcceleration := 15

def listener : ControlProgram := { behavior := .silent }

/-- All joints at one place, at once. -/
def standing (place : Int) : Waypoint Int := ⟨Joints.same place, Joints.same 0, .zero⟩

def toZero : Profile Int := .smooth ⟨[standing 0], nofun⟩

def bound : Follower Int ControlProgram := { config := plain }

def started : Follower Int ControlProgram :=
  { config := plain, line := some { peer := listener }, status := .connected, connections := 1 }

/-- The arm was sent to one place. -/
def arrived : Follower Int ControlProgram :=
  { started.told { peer := listener } toZero 0 with status := .completed }

theorem follow_started :
    started.follow .smooth [standing 0] = some (.ok (.ok .completed), arrived) := by
  have made : Profile.make .smooth [standing 0] started.config.maxVelocity
      started.config.maxAcceleration = .ok toZero := rfl
  rw [follow_of_make rfl made]
  refine stream_completed rfl (by decide) (fun index inside => ?_) nofun
  obtain rfl : index = 0 := Nat.lt_one_iff.mp inside
  exact ⟨rfl, rfl⟩

theorem follow_arrived : arrived.follow .timed [standing 1, standing 2] =
    some (.ok (.error (.plan (.infeasible 0 0))), arrived.remember (Joints.same 1)) := by
  have unplanned : Profile.make .timed [standing 1, standing 2] arrived.config.maxVelocity
      arrived.config.maxAcceleration = .error (.infeasible 0 0) := by
    have segment : TimedProfile.planSegment (10 : Int) 15 0 (standing 1) (standing 2) =
        .error (.infeasible 0 0) := by
      simp only [TimedProfile.planSegment, Vector.ofFnM_succ, Vector.ofFnM_zero]
      rfl
    change (TimedProfile.plan [standing 1, standing 2] (10 : Int) 15).map Profile.timed = _
    rw [TimedProfile.plan, dif_neg (List.cons_ne_nil _ _), TimedProfile.planSegments, segment]
    rfl
  rw [follow_of_error unplanned]
  rfl

theorem positions_arrived : (started.record toZero 0).positions = Joints.same 0 := by
  have made : Profile.make .smooth [standing 0] started.config.maxVelocity
      started.config.maxAcceleration = .ok toZero := rfl
  obtain ⟨_, final⟩ := finalSample_of_make made (List.pairwise_singleton _ _)
  have last : started.sampleOf toZero 0 = toZero.finalSample := sampleOf_periods
  rw [record, last, final]
  rfl

/-- After that a way from a second place to a third was refused, and then the arm was stopped. -/
def halted : Follower Int ControlProgram := (arrived.remember (Joints.same 1)).stop.2

theorem exists_history : ∃ events, History plain events halted := by
  have joined : bound.perform (.connects listener) = some (bound.enqueue listener) := rfl
  have inTime : (bound.enqueue listener).clock.later (bound.enqueue listener).config.acceptTimeout =
      .ok (.ofMillis 1000) := if_pos (by decide)
  have begun : (bound.enqueue listener).perform .start = some started := by
    rw [perform, start_of_waiting rfl inTime rfl]
    rfl
  have sent : started.perform (.follow .smooth [standing 0]) = some arrived := by
    rw [perform, follow_started]
    rfl
  have refused : arrived.perform (.follow .timed [standing 1, standing 2]) =
      some (arrived.remember (Joints.same 1)) := by
    rw [perform, follow_arrived]
    rfl
  have stopped : (arrived.remember (Joints.same 1)).perform .stop = some halted := rfl
  exact ⟨_, ((((History.bound.call joined).call begun).call sent).call refused).call stopped⟩

theorem conduct_halted : ∃ events, History plain events halted ∧ Conduct plain events halted := by
  obtain ⟨events, history⟩ := exists_history
  exact ⟨events, history, conduct_of_history history⟩

/-- A trajectory that cannot be planned leaves its first point behind: the record that stops keeps
this point, and not the positions of the last record. -/
theorem halted_elsewhere : ∃ events, History plain events halted ∧
    ∃ last stop : Attempt Int, halted.attempts = [last, stop] ∧
      last.connection = 1 ∧ last.outcome = .ok () ∧ stop.connection = 1 ∧
      stop.command.flag = .stop ∧ last.command.positions = Joints.same 0 ∧
      stop.command.positions = Joints.same 1 ∧ (Joints.same 0 : Joints Int) ≠ Joints.same 1 := by
  obtain ⟨events, history⟩ := exists_history
  exact ⟨events, history, _, _, rfl, rfl, rfl, rfl, rfl, positions_arrived, rfl, by decide⟩

end ArmLink.Follower
