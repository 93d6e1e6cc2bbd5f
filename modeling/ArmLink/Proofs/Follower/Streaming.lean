import ArmLink.Proofs.Follower.Records
import ArmLink.Proofs.Motion.Ending

/-!
Streaming: which records follow from a profile, a control period and a control program.

Before each record the follower looks whether it has been asked to break off.  As long as it has
not, and the records succeed, the record with number `i` carries the sample at the time `i P`, and
the last one the final sample.  A run leaves this way in one of four places: behind the last record,
at a look that sees the request, at a record that fails, or where a clock cannot show when the next
one is due.  `Streaming` says what was tried by then, what is returned, and where the follower stands.

The clock never runs behind the samples: a record takes a period at least.  So of the two times that
a run counts on it is the clock's that gets out of range (`advance_of_shown`).
-/

namespace ArmLink.Follower

open Motion Servo

/-! ### Control periods -/

/-- The control periods that begin before a duration is over. -/
def periodsIn (duration period : Duration) : Nat :=
  (duration.nanos + period.nanos - 1) / period.nanos

/-- The time at which a control period begins. -/
def beginOf (period : Duration) (index : Nat) : Duration := ⟨index * period.nanos⟩

theorem le_beginOf {duration period : Duration} {index : Nat} (moves : 0 < period.nanos) :
    duration ≤ beginOf period index ↔ periodsIn duration period ≤ index := by
  change duration.nanos ≤ index * period.nanos ↔ _
  rw [periodsIn, Nat.div_le_iff_le_mul_add_pred moves, Nat.mul_comm]
  omega

/-- Whether a clock can show a moment. -/
def Shown (moment : Duration) : Prop := moment.seconds < Duration.clockLimit

instance (moment : Duration) : Decidable (Shown moment) :=
  inferInstanceAs (Decidable (moment.seconds < Duration.clockLimit))

section Advancing

variable {period elapsed due : Duration}

/-- Where the clock is not behind the samples, both can be counted on if it can. -/
theorem advance_of_shown (behind : elapsed ≤ due) (shown : Shown (due.plus period)) :
    advance period elapsed due = .ok (elapsed.plus period, due.plus period) := by
  have order : (elapsed.plus period).nanos ≤ (due.plus period).nanos :=
    Nat.add_le_add_right behind period.nanos
  have inRange : (elapsed.plus period).seconds < Duration.secondsLimit := by
    calc (elapsed.plus period).seconds
      _ ≤ (due.plus period).seconds := Nat.div_le_div_right order
      _ < Duration.clockLimit := shown
      _ < Duration.secondsLimit := by decide
  have moment : due.later period = .ok (due.plus period) := if_pos shown
  rw [advance, Duration.sum, if_pos inRange, moment]
  rfl

theorem advance_of_not_shown (late : ¬ Shown (due.plus period)) :
    ∃ fault, advance period elapsed due = .error fault := by
  have none : due.later period = .error .tooLate := if_neg late
  rw [advance, none]
  cases elapsed.sum period with
  | error fault => exact ⟨fault, rfl⟩
  | ok next => exact ⟨.tooLate, rfl⟩

end Advancing

theorem add_ofNat_succ (sequence : UInt32) (index : Nat) :
    sequence + UInt32.ofNat index + 1 = sequence + UInt32.ofNat (index + 1) := by
  rw [UInt32.ofNat_add, UInt32.add_assoc]
  rfl

section Records

variable {α σ : Type} [Scalar α] (follower : Follower α σ) (profile : Profile α) (index : Nat)

/-- How many samples of a run come before its last one. -/
def periods : Nat := periodsIn profile.duration follower.config.period

def sampleOf : Sample α :=
  if index < follower.periods profile then profile.sample (beginOf follower.config.period index)
  else profile.finalSample

/-- The records of a run that nothing disturbs. -/
def record : Command α :=
  Command.servo (follower.sequence + UInt32.ofNat index) (follower.sampleOf profile index).positions
    (follower.sampleOf profile index).velocities

/-- The record that keeps the arm where the one before has sent it, or at the start. -/
def held : Command α :=
  Command.hold (follower.sequence + UInt32.ofNat index) <|
    match index with
    | 0 => (profile.sample .zero).positions
    | before + 1 => (follower.record profile before).positions

variable {follower profile index}

theorem sampleAt_beginOf (moves : 0 < follower.config.period.nanos) :
    sampleAt profile (beginOf follower.config.period index) = follower.sampleOf profile index := by
  rw [sampleAt, sampleOf]
  by_cases late : follower.periods profile ≤ index
  · rw [if_pos ((le_beginOf moves).mpr late), if_neg (Nat.not_lt.mpr late)]
  · rw [if_neg (mt (le_beginOf moves).mp late), if_pos (Nat.not_le.mp late)]

theorem sampleOf_periods :
    follower.sampleOf profile (follower.periods profile) = profile.finalSample :=
  if_neg (Nat.lt_irrefl _)

end Records

/-! ### An undisturbed run -/

variable {α σ : Type} [Scalar α] [Peer σ]

/-- A connection after so many of some records. -/
def Line.after (line : Line α σ) (record : Nat → Command α) : Nat → Line α σ
  | 0 => line
  | count + 1 => (line.after record count).tell (record count)

section Runs

variable (follower : Follower α σ) (line : Line α σ) (profile : Profile α) (index : Nat)

/-- The connection when so many records of a run were sent. -/
def lineAt : Line α σ :=
  Line.after { line with lastPositions := some (profile.sample .zero).positions }
    (follower.record profile) index

/-- What becomes of a record of the run. -/
def tried : Attempt α :=
  follower.attempt (follower.lineAt line profile index) (follower.record profile index)

/-- How much time passes with a record of the run. -/
def tookAt : Duration :=
  (Peer.react (follower.lineAt line profile index).peer
    (follower.record profile index).encode).took

/-- What the clock shows when the follower looks before a record: each record so far has taken a
control period, or more where it could not be sent in one. -/
def lookAt : Nat → Duration
  | 0 => follower.clock
  | index + 1 => (lookAt index).plus
    ⟨max follower.config.period.nanos (follower.tookAt line profile index).nanos⟩

/-- Whether the follower, when it looks before a record, has been asked to break off. -/
def asked : Bool :=
  follower.interrupted || (List.range index).any fun earlier =>
    (Peer.react (follower.lineAt line profile earlier).peer
      (follower.record profile earlier).encode).interrupts

/-- What becomes of a record that keeps the arm where it is. -/
def heldAttempt : Attempt α :=
  follower.attempt (follower.lineAt line profile index) (follower.held profile index)

/-- So many records are sent: nobody asks to break off before one of them, and all succeed. -/
def Undisturbed (count : Nat) : Prop :=
  ∀ index < count, follower.asked line profile index = false ∧
    (follower.tried line profile index).outcome = .ok ()

/-- So many records are sent in time: a clock can show when the ones behind them are due. -/
def InTime (count : Nat) : Prop :=
  ∀ index < count, Shown ((follower.lookAt line profile index).plus follower.config.period)

/-- The follower when so many records were sent and it is about to look. -/
def streamed : Follower α σ :=
  { follower with
    line := some (follower.lineAt line profile index)
    status := .streaming
    interrupted := follower.asked line profile index
    sequence := follower.sequence + UInt32.ofNat index
    attempts := follower.attempts ++ (List.range index).map (follower.tried line profile)
    clock := follower.lookAt line profile index }

/-- The follower when it has just tried a record. -/
def told : Follower α σ :=
  { follower.streamed line profile (index + 1) with
    clock := (follower.lookAt line profile index).plus (follower.tookAt line profile index) }

end Runs

variable {follower after : Follower α σ} {line : Line α σ} {profile : Profile α} {index : Nat}
  {fault : Fault} {broken : Duration.Fault}

theorem Undisturbed.mono {count : Nat} (undisturbed : follower.Undisturbed line profile count)
    (fewer : index ≤ count) : follower.Undisturbed line profile index :=
  fun earlier inside => undisturbed earlier (Nat.lt_of_lt_of_le inside fewer)

theorem InTime.mono {count : Nat} (inTime : follower.InTime line profile count)
    (fewer : index ≤ count) : follower.InTime line profile index :=
  fun earlier inside => inTime earlier (Nat.lt_of_lt_of_le inside fewer)

theorem Undisturbed.succ (undisturbed : follower.Undisturbed line profile index)
    (quiet : follower.asked line profile index = false)
    (succeeds : (follower.tried line profile index).outcome = .ok ()) :
    follower.Undisturbed line profile (index + 1) := by
  intro earlier inside
  rcases Nat.lt_succ_iff_lt_or_eq.mp inside with before | rfl
  · exact undisturbed earlier before
  · exact ⟨quiet, succeeds⟩

theorem InTime.succ (inTime : follower.InTime line profile index)
    (shown : Shown ((follower.lookAt line profile index).plus follower.config.period)) :
    follower.InTime line profile (index + 1) := by
  intro earlier inside
  rcases Nat.lt_succ_iff_lt_or_eq.mp inside with before | rfl
  · exact inTime earlier before
  · exact shown

theorem lookAt_succ (follower : Follower α σ) (line : Line α σ) (profile : Profile α)
    (index : Nat) :
    (follower.lookAt line profile (index + 1)).nanos =
      (follower.lookAt line profile index).nanos +
        max follower.config.period.nanos (follower.tookAt line profile index).nanos :=
  rfl

/-- The clock is not behind the samples. -/
theorem beginOf_le_lookAt (follower : Follower α σ) (line : Line α σ) (profile : Profile α)
    (index : Nat) :
    beginOf follower.config.period index ≤ follower.lookAt line profile index := by
  show index * follower.config.period.nanos ≤ _
  induction index with
  | zero => simp
  | succ index ih =>
    rw [lookAt_succ, Nat.succ_mul]
    exact Nat.add_le_add ih (Nat.le_max_left _ _)

/-- If no record takes longer than a period, each look comes a period after the one before. -/
theorem lookAt_of_punctual
    (punctual : ∀ earlier < index, follower.tookAt line profile earlier ≤ follower.config.period) :
    follower.lookAt line profile index =
      follower.clock.plus (beginOf follower.config.period index) := by
  suffices same : (follower.lookAt line profile index).nanos =
      follower.clock.nanos + index * follower.config.period.nanos from congrArg Duration.mk same
  induction index with
  | zero => simp [lookAt]
  | succ index ih =>
    have inPeriod := punctual index (Nat.lt_succ_self index)
    rw [lookAt_succ, ih fun earlier inside => punctual earlier (Nat.lt_succ_of_lt inside),
      Nat.max_eq_left inPeriod, Nat.succ_mul, Nat.add_assoc]

theorem inTime_of_punctual
    (punctual : ∀ earlier < index, follower.tookAt line profile earlier ≤ follower.config.period)
    (shown : Shown (follower.clock.plus (beginOf follower.config.period index))) :
    follower.InTime line profile index := by
  intro earlier inside
  rw [lookAt_of_punctual fun before within => punctual before (Nat.lt_trans within inside)]
  have order : follower.clock.nanos + earlier * follower.config.period.nanos +
      follower.config.period.nanos ≤
        follower.clock.nanos + index * follower.config.period.nanos := by
    rw [Nat.add_assoc, ← Nat.succ_mul]
    exact Nat.add_le_add_left (Nat.mul_le_mul_right _ inside) _
  exact Nat.lt_of_le_of_lt (Nat.div_le_div_right order) shown

theorem streamed_zero : follower.streamed line profile 0 = follower.begun line profile := by
  simp [streamed, begun, asked, lineAt, Line.after, lookAt]

theorem tell_streamed (follower : Follower α σ) (line : Line α σ) (profile : Profile α)
    (index : Nat) :
    (follower.streamed line profile index).tell (follower.lineAt line profile index)
        (follower.record profile index) =
      follower.told line profile index := by
  simp only [tell, told, streamed, add_ofNat_succ]
  congr 1
  · simp [asked, List.range_succ, Bool.or_assoc]
  · simp [List.range_succ]
    rfl

/-- The next look comes when the next record is due, or at once. -/
theorem sleepUntil_told (follower : Follower α σ) (line : Line α σ) (profile : Profile α)
    (index : Nat) :
    (follower.told line profile index).sleepUntil
        ((follower.lookAt line profile index).plus follower.config.period) =
      follower.streamed line profile (index + 1) := by
  have same : ((follower.told line profile index).sleepUntil
      ((follower.lookAt line profile index).plus follower.config.period)).clock.nanos =
        (follower.lookAt line profile (index + 1)).nanos := by
    rw [clock_sleepUntil, lookAt_succ, Nat.max_comm, ← Nat.add_max_add_left]
    rfl
  have clock : ((follower.told line profile index).sleepUntil
      ((follower.lookAt line profile index).plus follower.config.period)).clock =
        follower.lookAt line profile (index + 1) := congrArg Duration.mk same
  rw [streamed, ← clock]
  rfl

/-- The last position is that of the record before, or the start. -/
theorem held_eq (undisturbed : follower.Undisturbed line profile index) :
    follower.held profile index =
      Command.hold (follower.sequence + UInt32.ofNat index)
        ((follower.lineAt line profile index).lastPositions.getD
          (profile.sample .zero).positions) := by
  cases index with
  | zero => rfl
  | succ before =>
    have succeeds := (undisturbed before (Nat.lt_succ_self before)).2
    have written : (follower.lineAt line profile (before + 1)).lastPositions = _ :=
      lastPositions_tell succeeds
    rw [written]
    rfl

theorem tick_of_asked {elapsed : Duration} (undisturbed : follower.Undisturbed line profile index)
    (asks : follower.asked line profile index = true) :
    tick profile elapsed (follower.streamed line profile index) =
      some (.ok ((follower.heldAttempt line profile index).outcome.map fun () => .interrupted),
        (follower.streamed line profile index).tell (follower.lineAt line profile index)
          (follower.held profile index)) :=
  tick_of_interrupted rfl asks (held_eq undisturbed)

theorem tick_of_tried (moves : 0 < follower.config.period.nanos)
    (quiet : follower.asked line profile index = false) :
    tick profile (beginOf follower.config.period index) (follower.streamed line profile index) =
      match (follower.tried line profile index).outcome with
      | .error fault => some (.ok (.error fault), follower.told line profile index)
      | .ok () =>
        if follower.periods profile ≤ index then
          some (.ok (.ok .completed), follower.told line profile index)
        else
          match advance follower.config.period (beginOf follower.config.period index)
              (follower.lookAt line profile index) with
          | .error fault => some (.error fault, follower.told line profile index)
          | .ok (next, due) =>
            tick profile next ((follower.told line profile index).sleepUntil due) := by
  have sample : follower.record profile index = Command.servo
      (follower.streamed line profile index).sequence
      (sampleAt profile (beginOf follower.config.period index)).positions
      (sampleAt profile (beginOf follower.config.period index)).velocities := by
    rw [sampleAt_beginOf moves]
    rfl
  rw [tick_of_quiet rfl quiet sample, tell_streamed]
  simp only [le_beginOf moves]
  rfl

/-- A record that is sent in time leads to the next control period. -/
theorem tick_of_shown (moves : 0 < follower.config.period.nanos)
    (quiet : follower.asked line profile index = false)
    (succeeds : (follower.tried line profile index).outcome = .ok ())
    (before : index < follower.periods profile)
    (shown : Shown ((follower.lookAt line profile index).plus follower.config.period)) :
    tick profile (beginOf follower.config.period index) (follower.streamed line profile index) =
      tick profile (beginOf follower.config.period (index + 1))
        (follower.streamed line profile (index + 1)) := by
  have next : (beginOf follower.config.period index).plus follower.config.period =
      beginOf follower.config.period (index + 1) :=
    congrArg Duration.mk (Nat.succ_mul index _).symm
  rw [tick_of_tried moves quiet, succeeds]
  dsimp only
  rw [if_neg (Nat.not_le.mpr before), advance_of_shown (beginOf_le_lookAt ..) shown]
  dsimp only
  rw [sleepUntil_told, next]

/-- As long as nothing happens, a run gets from each control period to the next. -/
theorem stream_of_undisturbed (connected : follower.line = some line)
    (moves : 0 < follower.config.period.nanos)
    (undisturbed : follower.Undisturbed line profile index)
    (inTime : follower.InTime line profile index)
    (before : index ≤ follower.periods profile) :
    follower.stream profile = (tick profile (beginOf follower.config.period index)
      (follower.streamed line profile index)).map ended := by
  -- On the records sent: each control period before the last one ends in the next.
  induction index with
  | zero =>
    have zero : beginOf follower.config.period 0 = .zero := congrArg Duration.mk (Nat.zero_mul _)
    rw [stream_of_connected connected, zero, streamed_zero]
  | succ index ih =>
    obtain ⟨quiet, succeeds⟩ := undisturbed index (Nat.lt_succ_self index)
    rw [ih (undisturbed.mono (Nat.le_succ index)) (inTime.mono (Nat.le_succ index)) (by omega),
      tick_of_shown moves quiet succeeds before (inTime index (Nat.lt_succ_self index))]

theorem stream_completed (connected : follower.line = some line)
    (moves : 0 < follower.config.period.nanos)
    (undisturbed : follower.Undisturbed line profile (follower.periods profile + 1))
    (inTime : follower.InTime line profile (follower.periods profile)) :
    follower.stream profile = some (.ok (.ok .completed),
      { follower.told line profile (follower.periods profile) with status := .completed }) := by
  obtain ⟨quiet, succeeds⟩ := undisturbed _ (Nat.lt_succ_self _)
  rw [stream_of_undisturbed connected moves (undisturbed.mono (Nat.le_succ _)) inTime
    (Nat.le_refl _), tick_of_tried moves quiet, succeeds]
  dsimp only
  rw [if_pos (Nat.le_refl _)]
  rfl

theorem stream_interrupted (connected : follower.line = some line)
    (moves : 0 < follower.config.period.nanos)
    (undisturbed : follower.Undisturbed line profile index)
    (inTime : follower.InTime line profile index)
    (before : index ≤ follower.periods profile)
    (asks : follower.asked line profile index = true) :
    follower.stream profile = some (ended
      (.ok ((follower.heldAttempt line profile index).outcome.map fun () => .interrupted),
        (follower.streamed line profile index).tell (follower.lineAt line profile index)
          (follower.held profile index))) := by
  rw [stream_of_undisturbed connected moves undisturbed inTime before,
    tick_of_asked undisturbed asks]
  rfl

theorem stream_failed (connected : follower.line = some line)
    (moves : 0 < follower.config.period.nanos)
    (undisturbed : follower.Undisturbed line profile index)
    (inTime : follower.InTime line profile index)
    (before : index ≤ follower.periods profile)
    (quiet : follower.asked line profile index = false)
    (fails : (follower.tried line profile index).outcome = .error fault) :
    follower.stream profile =
      some (.ok (.error fault), (follower.told line profile index).drop .hung) := by
  rw [stream_of_undisturbed connected moves undisturbed inTime before, tick_of_tried moves quiet,
    fails]
  rfl

theorem stream_brokenDown (connected : follower.line = some line)
    (moves : 0 < follower.config.period.nanos)
    (undisturbed : follower.Undisturbed line profile (index + 1))
    (inTime : follower.InTime line profile index)
    (before : index < follower.periods profile)
    (late : advance follower.config.period (beginOf follower.config.period index)
      (follower.lookAt line profile index) = .error broken) :
    follower.stream profile = some (.error broken, follower.told line profile index) := by
  obtain ⟨quiet, succeeds⟩ := undisturbed index (Nat.lt_succ_self index)
  rw [stream_of_undisturbed connected moves (undisturbed.mono (Nat.le_succ index)) inTime
    (Nat.le_of_lt before), tick_of_tried moves quiet, succeeds]
  dsimp only
  rw [if_neg (Nat.not_le.mpr before), late]
  rfl

/-! ### Streaming -/

/-- Following a profile comes to an end with a result, and these records are tried for it.  A run
that breaks down leaves the connection, and a follower that seems to go on. -/
def Streams (follower : Follower α σ) (profile : Profile α) (result : Result Outcome)
    (attempts : List (Attempt α)) : Prop :=
  ∃ after, follower.stream profile = some (result, after) ∧
    after.attempts = follower.attempts ++ attempts ∧
    after.sequence = follower.sequence + UInt32.ofNat attempts.length ∧
    match result with
    | .ok (.ok outcome) => after.line.isSome ∧ after.status = outcome.status
    | .ok (.error _) => after.line = none ∧ after.status = .hung
    | .error _ => after.line.isSome ∧ after.status = .streaming

variable {result other : Result Outcome} {attempts more : List (Attempt α)}

theorem Streams.unique (one : follower.Streams profile result attempts)
    (two : follower.Streams profile other more) : result = other ∧ attempts = more := by
  obtain ⟨after, run, tried, -⟩ := one
  obtain ⟨_, sameRun, sameTried, -⟩ := two
  rw [run] at sameRun
  cases sameRun
  exact ⟨rfl, List.append_cancel_left (tried.symm.trans sameTried)⟩

theorem streams_completed (connected : follower.line = some line)
    (moves : 0 < follower.config.period.nanos)
    (undisturbed : follower.Undisturbed line profile (follower.periods profile + 1))
    (inTime : follower.InTime line profile (follower.periods profile)) :
    follower.Streams profile (.ok (.ok .completed))
      ((List.range (follower.periods profile + 1)).map (follower.tried line profile)) :=
  ⟨_, stream_completed connected moves undisturbed inTime, rfl, by simp [told, streamed], rfl, rfl⟩

theorem streams_interrupted (connected : follower.line = some line)
    (moves : 0 < follower.config.period.nanos)
    (undisturbed : follower.Undisturbed line profile index)
    (inTime : follower.InTime line profile index)
    (before : index ≤ follower.periods profile)
    (asks : follower.asked line profile index = true) :
    follower.Streams profile
      (.ok ((follower.heldAttempt line profile index).outcome.map fun () => .interrupted))
      ((List.range index).map (follower.tried line profile) ++
        [follower.heldAttempt line profile index]) := by
  have run := stream_interrupted connected moves undisturbed inTime before asks
  have sequence := add_ofNat_succ follower.sequence index
  cases outcome : (follower.heldAttempt line profile index).outcome with
  | ok =>
    rw [outcome] at run
    exact ⟨_, run, List.append_assoc .., by simpa [streamed, tell] using sequence, rfl, rfl⟩
  | error fault =>
    rw [outcome] at run
    exact ⟨_, run, List.append_assoc .., by simpa [streamed, tell, drop] using sequence, rfl, rfl⟩

theorem streams_failed (connected : follower.line = some line)
    (moves : 0 < follower.config.period.nanos)
    (undisturbed : follower.Undisturbed line profile index)
    (inTime : follower.InTime line profile index)
    (before : index ≤ follower.periods profile)
    (quiet : follower.asked line profile index = false)
    (fails : (follower.tried line profile index).outcome = .error fault) :
    follower.Streams profile (.ok (.error fault))
      ((List.range (index + 1)).map (follower.tried line profile)) :=
  ⟨_, stream_failed connected moves undisturbed inTime before quiet fails, rfl,
    by simp [told, streamed, drop], rfl, rfl⟩

theorem streams_brokenDown (connected : follower.line = some line)
    (moves : 0 < follower.config.period.nanos)
    (undisturbed : follower.Undisturbed line profile (index + 1))
    (inTime : follower.InTime line profile index)
    (before : index < follower.periods profile)
    (late : advance follower.config.period (beginOf follower.config.period index)
      (follower.lookAt line profile index) = .error broken) :
    follower.Streams profile (.error broken)
      ((List.range (index + 1)).map (follower.tried line profile)) :=
  ⟨_, stream_brokenDown connected moves undisturbed inTime before late, rfl,
    by simp [told, streamed], rfl, rfl⟩

/-- The ways in which following a profile comes to its end. -/
inductive Ending (follower : Follower α σ) (line : Line α σ) (profile : Profile α) :
    Result Outcome → List (Attempt α) → Prop where
  | completed
      (undisturbed : follower.Undisturbed line profile (follower.periods profile + 1))
      (inTime : follower.InTime line profile (follower.periods profile)) :
      Ending follower line profile (.ok (.ok .completed))
        ((List.range (follower.periods profile + 1)).map (follower.tried line profile))
  /-- The request to break off is seen before the record with this number. -/
  | interrupted {index : Nat} (before : index ≤ follower.periods profile)
      (undisturbed : follower.Undisturbed line profile index)
      (inTime : follower.InTime line profile index)
      (asks : follower.asked line profile index = true) :
      Ending follower line profile
        (.ok ((follower.heldAttempt line profile index).outcome.map fun () => .interrupted))
        ((List.range index).map (follower.tried line profile) ++
          [follower.heldAttempt line profile index])
  /-- The record with this number fails. -/
  | failed {index : Nat} {fault : Fault} (before : index ≤ follower.periods profile)
      (undisturbed : follower.Undisturbed line profile index)
      (inTime : follower.InTime line profile index)
      (quiet : follower.asked line profile index = false)
      (fails : (follower.tried line profile index).outcome = .error fault) :
      Ending follower line profile (.ok (.error fault))
        ((List.range (index + 1)).map (follower.tried line profile))
  /-- When the record behind the one with this number is due is out of range. -/
  | brokenDown {index : Nat} {fault : Duration.Fault} (before : index < follower.periods profile)
      (undisturbed : follower.Undisturbed line profile (index + 1))
      (inTime : follower.InTime line profile index)
      (late : advance follower.config.period (beginOf follower.config.period index)
        (follower.lookAt line profile index) = .error fault) :
      Ending follower line profile (.error fault)
        ((List.range (index + 1)).map (follower.tried line profile))

/-- What following a profile does. -/
structure Streaming (follower : Follower α σ) (line : Line α σ) (profile : Profile α) : Prop where
  /-- A run comes to an end, in one of the ways. -/
  ends : ∃ result attempts, follower.Ending line profile result attempts
  /-- A way whose conditions hold is the one that the run takes. -/
  streams : ∀ result attempts, follower.Ending line profile result attempts →
    follower.Streams profile result attempts
  /-- The next record is out of range exactly if a clock cannot show when it is due. -/
  late : ∀ index, (∃ fault, advance follower.config.period
      (beginOf follower.config.period index) (follower.lookAt line profile index) = .error fault) ↔
    ¬ Shown ((follower.lookAt line profile index).plus follower.config.period)
  /-- If no record takes longer than a period, a clock that can show the end of the run will do. -/
  punctual : (∀ index < follower.periods profile,
      follower.tookAt line profile index ≤ follower.config.period) →
    Shown (follower.clock.plus (beginOf follower.config.period (follower.periods profile))) →
      follower.InTime line profile (follower.periods profile)
  numbered : ∀ result attempts, follower.Streams profile result attempts →
    attempts.map (·.command.sequence) =
      (List.range attempts.length).map fun index => follower.sequence + UInt32.ofNat index
  /-- The last record of a trajectory carries its last point, and zero velocities if it is timed. -/
  final : ∀ mode points (maxVelocity maxAcceleration : α),
    Profile.make mode points maxVelocity maxAcceleration = .ok profile → InOrder points →
      ∃ nonempty : points ≠ [],
        (follower.record profile (follower.periods profile)).positions =
            (points.getLast nonempty).positions ∧
          (follower.record profile (follower.periods profile)).velocities =
            match mode with
            | .smooth => (points.getLast nonempty).velocities
            | .timed => Joints.same Scalar.zero
  /-- Stopping after a complete run sends one more record, at the final position. -/
  stopped : ∀ after, follower.stream profile = some (.ok (.ok .completed), after) →
    ∃ stop : Attempt α, after.stop.2.attempts = after.attempts ++ [stop] ∧
      after.stop.1 = stop.outcome ∧
      stop.command =
        { sequence := follower.sequence + UInt32.ofNat (follower.periods profile + 1)
          positions := (follower.record profile (follower.periods profile)).positions
          velocities := Joints.same Scalar.zero
          flag := .stop }
  /-- A trajectory that can be planned is followed by its profile. -/
  followed : ∀ mode points,
    Profile.make mode points follower.config.maxVelocity follower.config.maxAcceleration =
      .ok profile → follower.follow mode points = follower.stream profile

/-- At each record a run comes to its end, or the record is sent. -/
theorem ending_or_sent (before : index ≤ follower.periods profile)
    (undisturbed : follower.Undisturbed line profile index)
    (inTime : follower.InTime line profile index) :
    (∃ result attempts, follower.Ending line profile result attempts) ∨
      follower.Undisturbed line profile (index + 1) := by
  cases asks : follower.asked line profile index with
  | true => exact .inl ⟨_, _, .interrupted before undisturbed inTime asks⟩
  | false =>
    cases outcome : (follower.tried line profile index).outcome with
    | error fault => exact .inl ⟨_, _, .failed before undisturbed inTime asks outcome⟩
    | ok => exact .inr (undisturbed.succ asks outcome)

/-- A run comes to its end by some record, or gets there. -/
theorem ending_or_undisturbed (before : index ≤ follower.periods profile) :
    (∃ result attempts, follower.Ending line profile result attempts) ∨
      (follower.Undisturbed line profile index ∧ follower.InTime line profile index) := by
  induction index with
  | zero => exact .inr ⟨nofun, nofun⟩
  | succ index ih =>
    rcases ih (Nat.le_of_succ_le before) with ending | ⟨undisturbed, inTime⟩
    · exact .inl ending
    rcases ending_or_sent (Nat.le_of_succ_le before) undisturbed inTime with ending | sent
    · exact .inl ending
    by_cases shown : Shown ((follower.lookAt line profile index).plus follower.config.period)
    · exact .inr ⟨sent, inTime.succ shown⟩
    · obtain ⟨fault, late⟩ := advance_of_not_shown shown
      exact .inl ⟨_, _, .brokenDown before sent inTime late⟩

theorem ending_exists (follower : Follower α σ) (line : Line α σ) (profile : Profile α) :
    ∃ result attempts, follower.Ending line profile result attempts := by
  have last : follower.periods profile ≤ follower.periods profile := Nat.le_refl _
  have reached : (∃ result attempts, follower.Ending line profile result attempts) ∨ _ :=
    ending_or_undisturbed last
  rcases reached with ending | ⟨undisturbed, inTime⟩
  · exact ending
  rcases ending_or_sent last undisturbed inTime with ending | sent
  · exact ending
  · exact ⟨_, _, .completed sent inTime⟩

theorem streams_of_ending (connected : follower.line = some line)
    (moves : 0 < follower.config.period.nanos)
    (ending : follower.Ending line profile result attempts) :
    follower.Streams profile result attempts := by
  cases ending with
  | completed undisturbed inTime => exact streams_completed connected moves undisturbed inTime
  | interrupted before undisturbed inTime asks =>
    exact streams_interrupted connected moves undisturbed inTime before asks
  | failed before undisturbed inTime quiet fails =>
    exact streams_failed connected moves undisturbed inTime before quiet fails
  | brokenDown before undisturbed inTime late =>
    exact streams_brokenDown connected moves undisturbed inTime before late

theorem sequences_of_ending (ending : follower.Ending line profile result attempts) :
    attempts.map (·.command.sequence) =
      (List.range attempts.length).map fun index => follower.sequence + UInt32.ofNat index := by
  have servo (count : Nat) :
      ((List.range count).map (follower.tried line profile)).map (·.command.sequence) =
        (List.range count).map fun index => follower.sequence + UInt32.ofNat index :=
    List.map_map
  cases ending with
  | interrupted _ _ _ _ =>
    rw [List.map_append, servo, List.length_append, List.length_map, List.length_range,
      List.length_singleton, List.range_succ, List.map_append]
    rfl
  | completed | failed | brokenDown =>
    rw [List.length_map, List.length_range]
    exact servo _

theorem undisturbed_of_completed (connected : follower.line = some line)
    (moves : 0 < follower.config.period.nanos)
    (complete : follower.stream profile = some (.ok (.ok .completed), after)) :
    follower.Undisturbed line profile (follower.periods profile + 1) ∧
      follower.InTime line profile (follower.periods profile) := by
  obtain ⟨result, attempts, ending⟩ := ending_exists follower line profile
  obtain ⟨_, run, -⟩ := streams_of_ending connected moves ending
  rw [complete] at run
  cases ending with
  | completed undisturbed inTime => exact ⟨undisturbed, inTime⟩
  | @interrupted index _ _ _ _ =>
    generalize (follower.heldAttempt line profile index).outcome = outcome at run
    cases outcome <;> cases run
  | failed | brokenDown => cases run

theorem stop_of_completed (connected : follower.line = some line)
    (moves : 0 < follower.config.period.nanos)
    (complete : follower.stream profile = some (.ok (.ok .completed), after)) :
    ∃ stop : Attempt α, after.stop.2.attempts = after.attempts ++ [stop] ∧
      after.stop.1 = stop.outcome ∧
      stop.command = Command.stop
        (follower.sequence + UInt32.ofNat (follower.periods profile + 1))
        (follower.record profile (follower.periods profile)).positions := by
  obtain ⟨undisturbed, inTime⟩ := undisturbed_of_completed connected moves complete
  have run := stream_completed connected moves undisturbed inTime
  rw [complete] at run
  cases run
  have known : (follower.lineAt line profile (follower.periods profile + 1)).lastPositions = _ :=
    lastPositions_tell (undisturbed _ (Nat.lt_succ_self _)).2
  have stillConnected : ({ follower.told line profile (follower.periods profile) with
      status := .completed } : Follower α σ).line = some _ := rfl
  obtain ⟨tried, answer⟩ := tried_of_stop stillConnected known rfl
  exact ⟨_, tried, answer, rfl⟩

/-- The start that is remembered before planning is remembered again before the first record. -/
theorem follow_of_make {mode : Mode} {points : List (Waypoint α)}
    (connected : follower.line = some line)
    (made : Profile.make mode points follower.config.maxVelocity follower.config.maxAcceleration =
      .ok profile) :
    follower.follow mode points = follower.stream profile := by
  rw [follow_of_ok made]
  cases points with
  | nil => rfl
  | cons first later =>
    have remembered : (follower.remember first.positions).line =
        some { line with lastPositions := some first.positions } := by
      rw [remember, connected]
      rfl
    rw [rememberStart, stream_of_connected connected, stream_of_connected remembered]
    rfl

/-- Following a profile with a period that moves on. -/
theorem streaming_of_stream (connected : follower.line = some line)
    (moves : 0 < follower.config.period.nanos) : follower.Streaming line profile := by
  constructor
  · exact ending_exists follower line profile
  · intro result attempts ending
    exact streams_of_ending connected moves ending
  · intro index
    constructor
    · rintro ⟨fault, late⟩ shown
      cases late.symm.trans (advance_of_shown (beginOf_le_lookAt ..) shown)
    · exact advance_of_not_shown
  · exact inTime_of_punctual
  · intro result attempts streams
    obtain ⟨_, _, ending⟩ := ending_exists follower line profile
    obtain ⟨rfl, rfl⟩ := streams.unique (streams_of_ending connected moves ending)
    exact sequences_of_ending ending
  · intro mode points maxVelocity maxAcceleration made ordered
    obtain ⟨nonempty, final⟩ := finalSample_of_make made ordered
    refine ⟨nonempty, ?_, ?_⟩
    all_goals
      simp only [record, sampleOf_periods, final]
      cases mode <;> rfl
  · intro after complete
    exact stop_of_completed connected moves complete
  · intro mode points made
    exact follow_of_make connected made

theorem took_react (program : ControlProgram) (record : List UInt8) :
    (Peer.react program record).took = .zero := by
  change (program.react record).took = .zero
  unfold ControlProgram.react
  cases program.behavior with
  | hangUp after acknowledges =>
    dsimp only
    repeat' split
    all_goals rfl
  | _ => rfl

/-- A follower whose control program reads records and says nothing. -/
def unanswered : Follower Float ControlProgram :=
  { config := Config.default, line := some { peer := { behavior := .silent } }, status := .connected }

/-- A motion of 20 milliseconds. -/
def shortMotion : Profile Float :=
  .smooth ⟨[⟨Joints.same 0, Joints.same 0, .zero⟩, ⟨Joints.same 1, Joints.same 0, .ofMillis 20⟩],
    nofun⟩

/-- With a period of 8 milliseconds there are samples at 0, 8 and 16, and the final one. -/
theorem streaming_unanswered :
    unanswered.line = some { peer := { behavior := .silent } } ∧
      0 < unanswered.config.period.nanos ∧
      unanswered.Streams shortMotion (.ok (.ok .completed))
        ((List.range 4).map (unanswered.tried { peer := { behavior := .silent } } shortMotion)) := by
  have streaming : unanswered.Streaming { peer := { behavior := .silent } } shortMotion :=
    streaming_of_stream rfl (by decide)
  refine ⟨rfl, by decide, streaming.streams _ _ (.completed ?_ ?_)⟩
  · intro index inside
    have four : index < 4 := inside
    match index, four with
    | 0, _ => exact ⟨rfl, rfl⟩
    | 1, _ => exact ⟨rfl, rfl⟩
    | 2, _ => exact ⟨rfl, rfl⟩
    | 3, _ => exact ⟨rfl, rfl⟩
  · refine streaming.punctual ?_ (by decide)
    intro index inside
    rw [tookAt, took_react]
    exact Nat.zero_le unanswered.config.period.nanos

/-- The same with a period whose end no clock can show. -/
def sluggish : Follower Float ControlProgram :=
  { unanswered with config := { Config.default with period := .ofParts Duration.clockLimit 0 } }

/-- It is not so that a run always completes if nobody asks to break off and every record succeeds:
it may break down behind a record because of the period alone. -/
theorem incomplete_sluggish :
    ¬ ∀ (follower : Follower Float ControlProgram) (line : Line Float ControlProgram)
        (profile : Profile Float),
      follower.line = some line → 0 < follower.config.period.nanos →
      follower.Undisturbed line profile (follower.periods profile + 1) →
      follower.Streams profile (.ok (.ok .completed))
        ((List.range (follower.periods profile + 1)).map (follower.tried line profile)) := by
  intro completes
  have undisturbed : sluggish.Undisturbed { peer := { behavior := .silent } } shortMotion 2 := by
    intro index inside
    match index, inside with
    | 0, _ => exact ⟨rfl, rfl⟩
    | 1, _ => exact ⟨rfl, rfl⟩
  have late : advance sluggish.config.period (beginOf sluggish.config.period 0)
      (sluggish.lookAt { peer := { behavior := .silent } } shortMotion 0) = .error .tooLate := rfl
  have inTime : sluggish.InTime { peer := { behavior := .silent } } shortMotion 0 := nofun
  have breaks := streams_brokenDown rfl (by decide) (undisturbed.mono (by decide)) inTime
    (by decide) late
  obtain ⟨differs, -⟩ := (completes sluggish _ shortMotion rfl (by decide) undisturbed).unique breaks
  cases differs

end ArmLink.Follower
