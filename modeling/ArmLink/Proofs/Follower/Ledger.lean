import ArmLink.Proofs.Follower.Journal

/-!
The ledger of a follower: how it agrees with its journal, record by record.  A record may be tried on
a connection only while no record has failed there, and it is numbered by the records before it, on
whatever connection they were.  The ledger also holds in the middle of a run, where the last
position need not be that of the journal; `Good` and `Placed` are what is added between calls.
-/

namespace ArmLink.Follower

open Motion Servo

variable {α σ : Type} [Scalar α] [Peer σ]

/-- What has to have happened before a record is tried. -/
structure Accounted (config : Config α) (earlier : List (Event α σ)) (attempt : Attempt α) :
    Prop where
  numbered : attempt.command.sequence = UInt32.ofNat (attemptsOf earlier).length
  /-- A trajectory was given on its connection. -/
  given : ∃ start, .given attempt.connection start ∈ earlier
  /-- All records before it on its connection succeeded. -/
  succeeded : ∀ other ∈ attemptsOf earlier, other.connection = attempt.connection →
    other.outcome = .ok ()
  /-- It goes to the control program that has heard these records, and what becomes of it there
  decides. -/
  answered : ∃ peer, heard attempt.connection earlier = some peer ∧
    attempt.delivery = (Peer.react peer attempt.command.encode).delivery
  judged : attempt.outcome =
    outcomeOf config.acknowledgementTimeout attempt.command.sequence attempt.delivery
  stops : attempt.command.flag = .stop →
    kept attempt.connection earlier = some attempt.command.positions

def AllAccounted (config : Config α) (events : List (Event α σ)) : Prop :=
  ∀ earlier attempt later, events = earlier ++ .tried attempt :: later →
    Accounted config earlier attempt

/-- The follower agrees with its journal; this also holds between two records. -/
structure Ledger (config : Config α) (events : List (Event α σ)) (follower : Follower α σ) :
    Prop where
  configured : follower.config = config
  recorded : follower.attempts = attemptsOf events
  counted : follower.sequence = UInt32.ofNat (attemptsOf events).length
  accounted : AllAccounted config events
  bounded : ∀ event ∈ events, event.connection ≤ follower.connections
  line : ∀ line, follower.line = some line → heard follower.connections events = some line.peer
  dropped : ∀ entry ∈ follower.dropped, heard entry.1 events = some entry.2 ∧
    entry.1 ≤ follower.connections ∧ (follower.line.isSome → entry.1 < follower.connections)

/-- The current connection, if there is one, has seen no failure, and the last position is known. -/
structure Good (events : List (Event α σ)) (follower : Follower α σ) : Prop where
  succeeded : follower.line.isSome → ∀ attempt ∈ attemptsOf events,
    attempt.connection = follower.connections → attempt.outcome = .ok ()
  keeps : ∀ line, follower.line = some line → line.lastPositions = kept follower.connections events

/-- The status says whether there is a connection, and whether a call has broken down on it. -/
structure Placed (events : List (Event α σ)) (follower : Follower α σ) : Prop where
  connected : follower.line.isSome → follower.status = .connected ∨ follower.status = .completed ∨
    follower.status = .interrupted ∨ follower.status = .streaming
  disconnected : follower.line = none → follower.status = .idle ∨ follower.status = .hung
  streaming : follower.status = .streaming →
    ∃ connection fault, .brokeDown connection fault ∈ events

/-- What holds between calls. -/
structure Orderly (config : Config α) (events : List (Event α σ)) (follower : Follower α σ) :
    Prop where
  ledger : Ledger config events follower
  good : Good events follower
  placed : Placed events follower

/-- Two followers differ at most in what their ledger does not speak of. -/
structure Alike (follower after : Follower α σ) : Prop where
  config : after.config = follower.config
  peer : after.line.map (·.peer) = follower.line.map (·.peer)
  sequence : after.sequence = follower.sequence
  connections : after.connections = follower.connections
  dropped : after.dropped = follower.dropped
  attempts : after.attempts = follower.attempts

variable {config : Config α} {events : List (Event α σ)} {event : Event α σ}
  {follower after : Follower α σ} {line : Line α σ} {command : Command α}

theorem ledger_of_bound (config : Config α) :
    Ledger config ([] : List (Event α σ)) ({ config } : Follower α σ) where
  configured := rfl
  recorded := rfl
  counted := rfl
  accounted := by
    intro earlier attempt later split
    cases earlier <;> cases split
  bounded := by
    intro event isEvent
    cases isEvent
  line := nofun
  dropped := by
    intro entry isEntry
    cases isEntry

theorem Ledger.congr (ledger : Ledger config events follower) (alike : Alike follower after) :
    Ledger config events after where
  configured := alike.config.trans ledger.configured
  recorded := alike.attempts.trans ledger.recorded
  counted := alike.sequence.trans ledger.counted
  accounted := ledger.accounted
  bounded := by
    rw [alike.connections]
    exact ledger.bounded
  line := by
    intro line connected
    have same := alike.peer
    rw [connected] at same
    obtain ⟨before, wasConnected, isPeer⟩ := Option.map_eq_some_iff.mp same.symm
    rw [alike.connections, ledger.line before wasConnected, isPeer]
  dropped := by
    have connected : after.line.isSome = follower.line.isSome := by
      rw [← Option.isSome_map, alike.peer, Option.isSome_map]
    rw [alike.dropped, alike.connections, connected]
    exact ledger.dropped

/-! ### One event -/

theorem AllAccounted.concat (all : AllAccounted config events)
    (accounted : ∀ attempt, event = .tried attempt → Accounted config events attempt) :
    AllAccounted config (events ++ [event]) := by
  intro earlier attempt later split
  obtain rfl | ⟨front, last, rfl⟩ := List.eq_nil_or_concat later
  · obtain ⟨rfl, same⟩ := List.append_inj' split rfl
    exact accounted attempt (List.singleton_inj.mp same)
  · have regrouped : events ++ [event] = (earlier ++ .tried attempt :: front) ++ [last] := by
      simpa using split
    obtain ⟨rfl, -⟩ := List.append_inj' regrouped rfl
    exact all earlier attempt front rfl

/-- One more record, on a connection that has seen no failure. -/
theorem Ledger.tell (ledger : Ledger config events follower)
    (connected : follower.line = some line)
    (succeeded : ∀ attempt ∈ attemptsOf events, attempt.connection = follower.connections →
      attempt.outcome = .ok ())
    (given : ∃ start, .given follower.connections start ∈ events)
    (numbered : command.sequence = follower.sequence)
    (stops : command.flag = .stop → kept follower.connections events = some command.positions) :
    Ledger config (events ++ [.tried (follower.attempt line command)])
      (follower.tell line command) where
  configured := ledger.configured
  recorded := by
    rw [attemptsOf_append, ← ledger.recorded]
    rfl
  counted := by
    rw [attemptsOf_append, List.length_append, UInt32.ofNat_add, ← ledger.counted]
    rfl
  accounted := by
    refine ledger.accounted.concat fun attempt same => ?_
    cases same
    constructor
    · exact numbered.trans ledger.counted
    · exact given
    · exact succeeded
    · exact ⟨line.peer, ledger.line line connected, rfl⟩
    · rw [← ledger.configured]
      rfl
    · exact stops
  bounded := by
    intro event isEvent
    rcases List.mem_append.mp isEvent with earlier | last
    · exact ledger.bounded event earlier
    · rw [List.mem_singleton.mp last]
      exact Nat.le_refl _
  line := by
    rintro _ ⟨⟩
    rw [connections_tell, heard_concat, ledger.line line connected]
    exact if_pos rfl
  dropped := by
    -- The record goes to the current connection, and those that have ended have lower numbers.
    intro entry isEntry
    obtain ⟨same, inside, before⟩ := ledger.dropped entry isEntry
    replace before := before (connected ▸ rfl)
    refine ⟨?_, inside, fun _ => before⟩
    rw [heard_concat, heardBy_of_ne, same]
    exact Nat.ne_of_gt before

theorem good_of_tell
    (succeeded : ∀ attempt ∈ attemptsOf events, attempt.connection = follower.connections →
      attempt.outcome = .ok ())
    (succeeds : (follower.attempt line command).outcome = .ok ()) :
    Good (events ++ [.tried (follower.attempt line command)]) (follower.tell line command) where
  succeeded := by
    intro _ attempt isAttempt same
    rw [attemptsOf_append, attemptsOf_tried] at isAttempt
    rcases List.mem_append.mp isAttempt with earlier | last
    · exact succeeded attempt earlier same
    · rw [List.mem_singleton.mp last]
      exact succeeds
  keeps := by
    rintro _ ⟨⟩
    obtain ⟨answer, written⟩ := written_of_ok succeeds
    rw [lastPositions_tell succeeds, kept_concat, keptBy, connection_attempt, connections_tell,
      if_pos rfl, written]
    rfl

theorem Ledger.sends {answer : Except Fault Unit} (ledger : Ledger config events follower)
    (succeeded : ∀ attempt ∈ attemptsOf events, attempt.connection = follower.connections →
      attempt.outcome = .ok ())
    (given : ∃ start, .given follower.connections start ∈ events)
    (sends : Sends follower answer after) :
    ∃ more : List (Attempt α), after.attempts = follower.attempts ++ more ∧
      Ledger config (events ++ more.map .tried) after ∧ after.line.isSome ∧
      (answer = .ok () → Good (events ++ more.map .tried) after) := by
  induction sends generalizing events with
  | last connected numbered keeps =>
    refine ⟨_, rfl, ledger.tell connected succeeded given numbered ?_, rfl,
      good_of_tell succeeded⟩
    rw [keeps]
    nofun
  | @next follower after line command answer connected numbered keeps succeeds due later ih =>
    have told := ledger.tell connected succeeded given numbered (by rw [keeps]; nofun)
    have first : Ledger config _ ((follower.tell line command).sleepUntil due) :=
      told.congr ⟨rfl, rfl, rfl, rfl, rfl, rfl⟩
    obtain ⟨start, isGiven⟩ := given
    obtain ⟨more, attempts, ledger, isConnected, good⟩ := ih first
      ((good_of_tell succeeded succeeds).succeeded rfl)
      ⟨start, List.mem_append_left _ isGiven⟩
    refine ⟨follower.attempt line command :: more, ?_, ?_, isConnected, ?_⟩
    · rw [attempts]
      exact List.append_assoc ..
    · rwa [List.map_cons, List.append_cons]
    · rwa [List.map_cons, List.append_cons]

/-! ### Changes without a record -/

omit [Scalar α] [Peer σ] in
theorem Good.congr (good : Good events follower) (line : after.line = follower.line)
    (connections : after.connections = follower.connections) : Good events after where
  succeeded := by
    rw [line, connections]
    exact good.succeeded
  keeps := by
    rw [line, connections]
    exact good.keeps

omit [Scalar α] [Peer σ] in
theorem Good.brokeDown (good : Good events follower) (connection : Nat) (fault : Duration.Fault) :
    Good (events ++ [.brokeDown connection fault]) follower where
  succeeded := by
    rw [attemptsOf_append, attemptsOf_of_silent rfl, List.append_nil]
    exact good.succeeded
  keeps := by
    intro line connected
    rw [kept_concat, good.keeps line connected]
    rfl

omit [Scalar α] [Peer σ] in
theorem Placed.congr (placed : Placed events follower) (more : List (Event α σ))
    (line : after.line.isSome = follower.line.isSome) (status : after.status = follower.status) :
    Placed (events ++ more) after where
  connected := by
    rw [line, status]
    exact placed.connected
  disconnected := by
    intro disconnected
    rw [status]
    apply placed.disconnected
    rw [← Option.isNone_iff_eq_none, ← Option.not_isSome, ← line, disconnected]
    rfl
  streaming := by
    intro isStreaming
    obtain ⟨connection, fault, isEvent⟩ := placed.streaming (status ▸ isStreaming)
    exact ⟨connection, fault, List.mem_append_left more isEvent⟩

omit [Scalar α] [Peer σ] in
/-- A follower that a call has left with a connection. -/
theorem placed_of_connected (connected : follower.line.isSome)
    (status : follower.status = .connected ∨ follower.status = .completed ∨
      follower.status = .interrupted) : Placed events follower where
  connected := fun _ => status.imp_right fun others => others.imp_right .inl
  disconnected := by
    intro disconnected
    rw [disconnected] at connected
    cases connected
  streaming := by
    intro isStreaming
    rw [isStreaming] at status
    simp at status

omit [Scalar α] [Peer σ] in
/-- A follower that a call has left without a connection. -/
theorem placed_of_disconnected (disconnected : follower.line = none)
    (status : follower.status = .idle ∨ follower.status = .hung) : Placed events follower where
  connected := by
    rw [disconnected]
    nofun
  disconnected := fun _ => status
  streaming := by
    intro isStreaming
    rw [isStreaming] at status
    simp at status

omit [Scalar α] [Peer σ] in
theorem good_of_disconnected (disconnected : follower.line = none) : Good events follower where
  succeeded := by
    rw [disconnected]
    nofun
  keeps := by
    rw [disconnected]
    nofun

theorem Ledger.drop (ledger : Ledger config events follower) (status : Status) :
    Ledger config events (follower.drop status) where
  configured := ledger.configured
  recorded := ledger.recorded
  counted := ledger.counted
  accounted := ledger.accounted
  bounded := ledger.bounded
  line := nofun
  dropped := by
    intro entry isEntry
    rcases List.mem_append.mp isEntry with before | now
    · obtain ⟨same, inside, -⟩ := ledger.dropped entry before
      exact ⟨same, inside, nofun⟩
    · obtain ⟨line, connected, rfl⟩ := by simpa using now
      exact ⟨ledger.line line connected, Nat.le_refl _, nofun⟩

/-- An event that no control program hears of. -/
theorem Ledger.noted (ledger : Ledger config events follower) (silent : event.attempt? = none)
    (unheard : ∀ number peer, heardBy number peer event = peer)
    (bounded : event.connection ≤ follower.connections) :
    Ledger config (events ++ [event]) follower where
  configured := ledger.configured
  recorded := by
    rw [attemptsOf_append, attemptsOf_of_silent silent, List.append_nil, ledger.recorded]
  counted := by
    rw [attemptsOf_append, attemptsOf_of_silent silent, List.append_nil, ledger.counted]
  accounted := by
    refine ledger.accounted.concat ?_
    rintro attempt rfl
    cases silent
  bounded := by
    intro other isEvent
    rcases List.mem_append.mp isEvent with earlier | last
    · exact ledger.bounded other earlier
    · rwa [List.mem_singleton.mp last]
  line := by
    intro line connected
    rw [heard_concat, unheard, ledger.line line connected]
  dropped := by
    intro entry isEntry
    rw [heard_concat, unheard]
    exact ledger.dropped entry isEntry

/-- A new connection, which stands or is given up at once. -/
theorem Ledger.opened {peer : σ} (ledger : Ledger config events follower)
    (config' : after.config = follower.config) (sequence : after.sequence = follower.sequence)
    (attempts : after.attempts = follower.attempts)
    (connections : after.connections = follower.connections + 1)
    (ends : (after.line = some { peer } ∧ after.dropped = follower.dropped) ∨
      (after.line = none ∧
        after.dropped = follower.dropped ++ [(follower.connections + 1, peer)])) :
    Ledger config (events ++ [.opened (follower.connections + 1) peer]) after where
  configured := config'.trans ledger.configured
  recorded := by
    rw [attemptsOf_append, attemptsOf_of_silent rfl, List.append_nil, attempts, ledger.recorded]
  counted := by
    rw [attemptsOf_append, attemptsOf_of_silent rfl, List.append_nil, sequence, ledger.counted]
  accounted := by
    refine ledger.accounted.concat ?_
    rintro attempt ⟨⟩
  bounded := by
    intro event isEvent
    rw [connections]
    rcases List.mem_append.mp isEvent with earlier | last
    · exact Nat.le_succ_of_le (ledger.bounded event earlier)
    · rw [List.mem_singleton.mp last]
      exact Nat.le_refl _
  line := by
    intro line connected
    rcases ends with ⟨isLine, -⟩ | ⟨isNone, -⟩
    · rw [isLine] at connected
      cases connected
      rw [heard_concat, connections]
      exact if_pos rfl
    · rw [isNone] at connected
      cases connected
  dropped := by
    intro entry isEntry
    have older (before : entry ∈ follower.dropped) :
        heard entry.1 (events ++ [.opened (follower.connections + 1) peer]) = some entry.2 ∧
          entry.1 < after.connections := by
      obtain ⟨same, inside, -⟩ := ledger.dropped entry before
      refine ⟨?_, by omega⟩
      rw [heard_concat, heardBy_of_ne, same]
      exact Nat.ne_of_gt (Nat.lt_succ_of_le inside)
    rcases ends with ⟨-, same⟩ | ⟨isNone, more⟩
    · rw [same] at isEntry
      obtain ⟨isHeard, inside⟩ := older isEntry
      exact ⟨isHeard, Nat.le_of_lt inside, fun _ => inside⟩
    · rw [more] at isEntry
      rw [isNone]
      rcases List.mem_append.mp isEntry with before | now
      · obtain ⟨isHeard, inside⟩ := older before
        exact ⟨isHeard, Nat.le_of_lt inside, nofun⟩
      · rw [List.mem_singleton.mp now, heard_concat]
        exact ⟨if_pos rfl, Nat.le_of_eq connections.symm, nofun⟩

/-- Nothing has happened on a connection before it is opened. -/
theorem Ledger.fresh (ledger : Ledger config events follower) :
    (∀ attempt ∈ attemptsOf events, attempt.connection ≠ follower.connections + 1) ∧
      kept (follower.connections + 1) events = none := by
  have others : ∀ event ∈ events, event.connection ≠ follower.connections + 1 := by
    intro event isEvent
    have := ledger.bounded event isEvent
    omega
  exact ⟨fun attempt isAttempt => others _ (mem_attemptsOf.mp isAttempt),
    kept_of_forall fun event isEvent _ => keptBy_of_ne (others event isEvent)⟩

/-- Where there is something to keep, a trajectory was given. -/
theorem AllAccounted.given_of_kept {number : Nat} {positions : Joints α}
    (all : AllAccounted config events) (known : kept number events = some positions) :
    ∃ start, .given number start ∈ events := by
  -- Without a trajectory no record was tried there either, so nothing has moved what is kept.
  apply Classical.byContradiction
  intro none
  have unmoved : ∀ event ∈ events, ∀ positions, keptBy number positions event = positions := by
    intro event isEvent positions
    cases event with
    | opened | brokeDown => rfl
    | given connection start =>
      refine keptBy_of_ne fun same : connection = number => none ⟨start, ?_⟩
      rwa [← same]
    | tried attempt =>
      refine keptBy_of_ne fun same : attempt.connection = number => none ?_
      obtain ⟨earlier, later, split⟩ := List.append_of_mem isEvent
      obtain ⟨start, before⟩ := (all earlier attempt later split).given
      rw [split, ← same]
      exact ⟨start, List.mem_append_left _ before⟩
  rw [kept_of_forall unmoved] at known
  cases known

end ArmLink.Follower
