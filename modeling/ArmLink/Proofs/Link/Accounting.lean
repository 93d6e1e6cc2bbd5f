import ArmLink.Proofs.Link.Notifying

/-!
What a link makes of its packets, and how it counts them.

A packet that is read amounts to a few operations on the context (`Feed.operations`), and one that
is not read to none; `process` makes these operations and counts the packet (`process_eq`).  From
this both sides are read off.  One packet changes only the parts that the link keeps, and only to
what the packet carries (`handling_of_process`).  Over many packets, with the counters set back now
and then, each counter is the number of packets of its kind since it was last set back, and the
changes of the state are counted as often as they are told (`counted_of_sinceReset`).

Main statement: `accounting_of_tally`.
-/

namespace ArmLink.Link

open Firmware Telemetry

variable {ι : Type}

/-! ### One packet -/

namespace Feed

def jointOperations (feed : Feed) (ι : Type) (packet : Packet) : List (Operation ι) :=
  if feed.ownership.joints then
    match JointFeedback.ofPacket? packet with
    | some feedback => [.publishJoints feedback]
    | none => []
  else []

def stateOperations (feed : Feed) (ι : Type) (packet : Packet) : List (Operation ι) :=
  if feed.ownership.state then
    match packet.robotState with
    | some state => [.updateState state]
    | none => []
  else []

/-- What a link does to the context for a packet, if it was read. -/
def operations (feed : Feed) (ι : Type) : Except PacketFault Packet → List (Operation ι)
  | .error _ => []
  | .ok packet => .noteFeedback :: (feed.jointOperations ι packet ++ feed.stateOperations ι packet)

def operationsOf (feed : Feed) (ι : Type) (bytes : List UInt8) : List (Operation ι) :=
  feed.operations ι (feed.strategy.parseBytes bytes)

end Feed

/-- What one packet does to a context. -/
structure Handling (feed : Feed) (bytes : List UInt8) (before after : Context ι) : Prop where
  /-- A packet that is not read leaves the context as it is. -/
  refused : ∀ fault, feed.strategy.parseBytes bytes = .error fault → after = before
  heard : ∀ packet, feed.strategy.parseBytes bytes = .ok packet →
    after.lastFeedback = some before.clock
  /-- A link that keeps the joints takes them from a packet with positions and velocities.  The
  clock comes with realtime packets only. -/
  joints : ∀ packet positions velocities, feed.strategy.parseBytes bytes = .ok packet →
    feed.ownership.joints = true → packet.positions = some positions →
    packet.velocities = some velocities →
    after.joints = some {
      positions, velocities
      controllerTime := match packet.payload with
        | .realtime sample => some sample.common.time
        | .state _ | .message _ => none }
  jointsKept : (∀ packet, feed.strategy.parseBytes bytes = .ok packet →
      feed.ownership.joints = false ∨ packet.positions = none ∨ packet.velocities = none) →
    after.joints = before.joints
  /-- A link that keeps the state takes it from a packet that shows one, and tells all listeners if
  it differs from the one before. -/
  state : ∀ packet state, feed.strategy.parseBytes bytes = .ok packet →
    feed.ownership.state = true → packet.robotState = some state →
    after.robotState = some state ∧ after.told = before.told ++
      if before.robotState = some state then [] else before.notifier.listeners.map (·, state)
  stateKept : (∀ packet, feed.strategy.parseBytes bytes = .ok packet →
      feed.ownership.state = false ∨ packet.robotState = none) →
    after.robotState = before.robotState ∧ after.told = before.told
  /-- The rest never changes. -/
  rest : after.telemetryTimeout = before.telemetryTimeout ∧ after.clock = before.clock ∧
    after.layouts = before.layouts ∧ after.notifier = before.notifier

variable {feed : Feed}

/-- Every packet is counted twice: as a packet, and by what became of it. -/
theorem count_eq (metrics : Metrics) (outcome : Except PacketFault Packet) :
    metrics.count outcome =
      { metrics with
        total := metrics.total + 1
        decoded := metrics.decoded + if outcome matches .ok _ then 1 else 0
        unexpected :=
          metrics.unexpected + if outcome matches .error (.unexpectedTag ..) then 1 else 0
        incomplete := metrics.incomplete + if outcome matches .error (.incomplete ..) then 1 else 0
        malformed :=
          metrics.malformed + if outcome matches .error (.malformed ..) then 1 else 0 } := by
  rcases outcome with (_ | _ | _) | _ <;> rfl

/-- The state that a packet shows is written last, and counted if it differs from the one before. -/
theorem reported_eq {α : Type} (feed : Feed) (packet : Packet) (outcome : α) (context : Context ι)
    (metrics : Metrics) :
    (if feed.ownership.state then
      match packet.robotState with
      | some state =>
        match context.updateState state with
        | (true, context) =>
          (outcome, context, { metrics with stateChanges := metrics.stateChanges + 1 })
        | (false, context) => (outcome, context, metrics)
      | none => (outcome, context, metrics)
    else (outcome, context, metrics)) =
    (outcome, context.through (feed.stateOperations ι packet),
      { metrics with stateChanges := metrics.stateChanges +
          (changes context.robotState (feed.stateOperations ι packet)).length }) := by
  unfold Feed.stateOperations
  cases feed.ownership.state with
  | false => rfl
  | true =>
    cases packet.robotState with
    | none => rfl
    | some state =>
      have answer := updateState_fst context state
      simp only [if_true, Context.through, List.foldl_cons, List.foldl_nil, Operation.apply,
        changes, Operation.news]
      generalize context.updateState state = updated at answer
      obtain ⟨changed, context'⟩ := updated
      cases changed with
      | false => rw [if_pos (by simpa using answer)]; rfl
      | true => rw [if_neg (by simpa using answer)]; rfl

/-- To process a packet is to make its operations and to count it. -/
theorem process_eq (feed : Feed) (bytes : List UInt8) (context : Context ι) (metrics : Metrics) :
    process feed bytes context metrics =
      (feed.strategy.parseBytes bytes, context.through (feed.operationsOf ι bytes),
        { metrics.count (feed.strategy.parseBytes bytes) with
          stateChanges := metrics.stateChanges +
            (changes context.robotState (feed.operationsOf ι bytes)).length }) := by
  unfold process Feed.operationsOf
  cases feed.strategy.parseBytes bytes with
  | error fault => cases fault <;> rfl
  | ok packet =>
    -- Whether joints were published or not, the state comes last and is counted.
    dsimp only [Feed.operations, Feed.jointOperations]
    cases feed.ownership.joints with
    | false => exact reported_eq ..
    | true => cases JointFeedback.ofPacket? packet <;> exact reported_eq ..

theorem through_jointOperations (feed : Feed) (packet : Packet) (context : Context ι) :
    context.through (.noteFeedback :: feed.jointOperations ι packet) =
      { context with
        lastFeedback := some context.clock
        joints := if feed.ownership.joints then
            (JointFeedback.ofPacket? packet).or context.joints
          else context.joints } := by
  unfold Feed.jointOperations
  cases feed.ownership.joints with
  | false => rfl
  | true => cases JointFeedback.ofPacket? packet <;> rfl

theorem through_stateOperations (feed : Feed) (packet : Packet) (context : Context ι) :
    context.through (feed.stateOperations ι packet) =
      { context with
        cell := ⟨if feed.ownership.state then packet.robotState.or context.robotState
          else context.robotState⟩
        told := context.told ++
          (changes context.robotState (feed.stateOperations ι packet)).flatMap
            fun new => context.notifier.listeners.map (·, new) } := by
  unfold Feed.stateOperations
  cases feed.ownership.state with
  | false => simp [Context.through, changes, Context.robotState]
  | true =>
    cases packet.robotState with
    | none => simp [Context.through, changes, Context.robotState]
    | some state =>
      by_cases same : context.cell.state = some state <;>
        simp [Context.through, Context.robotState, Operation.apply, Operation.news, updateState_eq,
          changes, same, Notifier.tell]

theorem changes_operations (feed : Feed) (packet : Packet) (state : Option RobotState) :
    changes state (feed.operations ι (.ok packet)) =
      changes state (feed.stateOperations ι packet) := by
  simp only [Feed.operations, Feed.jointOperations]
  cases feed.ownership.joints with
  | false => rfl
  | true => cases JointFeedback.ofPacket? packet <;> rfl

theorem through_operations (feed : Feed) (packet : Packet) (context : Context ι) :
    context.through (feed.operations ι (.ok packet)) =
      { context with
        lastFeedback := some context.clock
        joints := if feed.ownership.joints then
            (JointFeedback.ofPacket? packet).or context.joints
          else context.joints
        cell := ⟨if feed.ownership.state then packet.robotState.or context.robotState
          else context.robotState⟩
        told := context.told ++
          (changes context.robotState (feed.stateOperations ι packet)).flatMap
            fun new => context.notifier.listeners.map (·, new) } := by
  have split : feed.operations ι (.ok packet) =
      (.noteFeedback :: feed.jointOperations ι packet) ++ feed.stateOperations ι packet := rfl
  rw [split, through_append, through_jointOperations, through_stateOperations]
  rfl

/-- A link does to the context for a packet what the packet carries of its parts, and nothing else.
-/
theorem handling_of_process (feed : Feed) (bytes : List UInt8) (context : Context ι)
    (metrics : Metrics) :
    Handling feed bytes context (process feed bytes context metrics).2.1 := by
  rw [process_eq]
  unfold Feed.operationsOf
  cases read : feed.strategy.parseBytes bytes with
  | error fault =>
    have absurdly : ∀ packet, feed.strategy.parseBytes bytes ≠ .ok packet := by simp [read]
    exact {
      refused := fun _ _ => rfl
      heard := fun _ ok => absurd ok (absurdly _)
      joints := fun _ _ _ ok => absurd ok (absurdly _)
      jointsKept := fun _ => rfl
      state := fun _ _ ok => absurd ok (absurdly _)
      stateKept := fun _ => ⟨rfl, rfl⟩
      rest := ⟨rfl, rfl, rfl, rfl⟩ }
  | ok packet =>
    dsimp only
    rw [through_operations]
    constructor
    · intro fault refused
      rw [read] at refused
      cases refused
    · intros
      rfl
    · rintro packet' positions velocities ok keeps hasPositions hasVelocities
      obtain rfl : packet = packet' := Except.ok.inj (read.symm.trans ok)
      rw [if_pos keeps, JointFeedback.ofPacket?, hasPositions, hasVelocities, Packet.controllerTime]
      cases packet.payload <;> rfl
    · intro kept
      rcases kept packet read with foreign | missing | missing
      · exact if_neg (by simp [foreign])
      · simp [JointFeedback.ofPacket?, missing]
      · simp [JointFeedback.ofPacket?, missing]
    · rintro packet' state ok keeps hasState
      obtain rfl : packet = packet' := Except.ok.inj (read.symm.trans ok)
      refine ⟨by simp [Context.robotState, keeps, hasState], ?_⟩
      by_cases same : context.robotState = some state <;>
        simp [Feed.stateOperations, keeps, hasState, changes, Operation.news, same]
    · intro kept
      rcases kept packet read with foreign | missing
      · simp [Context.robotState, Feed.stateOperations, changes, foreign]
      · simp [Context.robotState, Feed.stateOperations, changes, missing]
    · exact ⟨rfl, rfl, rfl, rfl⟩

/-! ### Many packets -/

/-- What a link is given: a packet, or the word to start counting anew. -/
inductive Item where
  | packet (bytes : List UInt8)
  | reset

namespace Feed

def handle (feed : Feed) (now : Context ι × Metrics) : Item → Context ι × Metrics
  | .packet bytes => (process feed bytes now.1 now.2).2
  | .reset => (now.1, now.2.reset)

/-- What a link with new counters has made of some items. -/
def tally (feed : Feed) (begin : Context ι) (items : List Item) : Context ι × Metrics :=
  items.foldl feed.handle (begin, {})

end Feed

/-- Of some items these packets came since the counters were last set back. -/
structure SinceReset (items earlier : List Item) (packets : List (List UInt8)) : Prop where
  split : items = earlier ++ packets.map .packet
  fresh : earlier = [] ∨ ∃ before, earlier = before ++ [.reset]

/-- What some packets come to, from a context in which the counters were set back. -/
structure Counted (feed : Feed) (packets : List (List UInt8)) (before : Context ι)
    (after : Context ι × Metrics) : Prop where
  total : after.2.total = packets.length
  decoded : after.2.decoded =
    packets.countP fun bytes => feed.strategy.parseBytes bytes matches .ok _
  unexpected : after.2.unexpected =
    packets.countP fun bytes => feed.strategy.parseBytes bytes matches .error (.unexpectedTag ..)
  incomplete : after.2.incomplete =
    packets.countP fun bytes => feed.strategy.parseBytes bytes matches .error (.incomplete ..)
  malformed : after.2.malformed =
    packets.countP fun bytes => feed.strategy.parseBytes bytes matches .error (.malformed ..)
  /-- Only receiving can time out or go wrong. -/
  unread : after.2.timeouts = 0 ∧ after.2.readErrors = 0
  context : after.1 = before.through (packets.flatMap (feed.operationsOf ι))
  /-- Every change of the state is counted. -/
  stateChanges : after.2.stateChanges =
    (changes before.robotState (packets.flatMap (feed.operationsOf ι))).length
  /-- Every change of the state is told, once to each listener. -/
  told : after.1.told = before.told ++
    (changes before.robotState (packets.flatMap (feed.operationsOf ι))).flatMap
      fun new => before.notifier.listeners.map (·, new)

theorem exists_sinceReset (items : List Item) :
    ∃ earlier packets, SinceReset items earlier packets := by
  induction items using List.reverseRecOn with
  | nil => exact ⟨[], [], rfl, .inl rfl⟩
  | append_singleton items item ih =>
    obtain ⟨earlier, packets, rfl, fresh⟩ := ih
    cases item with
    | packet bytes => exact ⟨earlier, packets ++ [bytes], by simp, fresh⟩
    | reset => exact ⟨_, [], (List.append_nil _).symm, .inr ⟨_, rfl⟩⟩

theorem tally_append (feed : Feed) (begin : Context ι) (items more : List Item) :
    feed.tally begin (items ++ more) = more.foldl feed.handle (feed.tally begin items) :=
  List.foldl_append

/-- What holds to begin with and is kept by each item holds at all times. -/
theorem tally_induct {motive : Context ι × Metrics → Prop} {begin : Context ι}
    (begins : motive (begin, {})) (handles : ∀ now item, motive now → motive (feed.handle now item))
    (items : List Item) : motive (feed.tally begin items) := by
  induction items using List.reverseRecOn with
  | nil => exact begins
  | append_singleton items item ih =>
    rw [tally_append]
    exact handles _ item ih

theorem tellings_of_nobody_joins {operations : List (Operation ι)}
    (nobody : ∀ operation ∈ operations, operation.joining = []) (state : Option RobotState)
    (listeners : List ι) :
    tellings state listeners operations =
      (changes state operations).flatMap fun new => listeners.map (·, new) := by
  induction operations generalizing state with
  | nil => rfl
  | cons operation later ih =>
    obtain ⟨alone, laterAlone⟩ := List.forall_mem_cons.mp nobody
    rw [tellings, changes, List.flatMap_append, alone, List.append_nil, ih laterAlone]

theorem nobody_joins (feed : Feed) (bytes : List UInt8) :
    ∀ operation ∈ feed.operationsOf ι bytes, operation.joining = [] := by
  rw [← List.flatMap_eq_nil_iff]
  unfold Feed.operationsOf
  cases feed.strategy.parseBytes bytes with
  | error fault => rfl
  | ok packet =>
    simp only [Feed.operations, Feed.jointOperations, Feed.stateOperations]
    cases feed.ownership.joints <;> cases JointFeedback.ofPacket? packet <;>
      cases feed.ownership.state <;> cases packet.robotState <;> rfl

theorem counted_nil {now : Context ι × Metrics} (fresh : now.2 = {}) :
    Counted feed [] now.1 now := by
  constructor <;> simp [changes, Context.through, fresh]

theorem counted_concat {packets : List (List UInt8)} {before : Context ι}
    {now : Context ι × Metrics} (counted : Counted feed packets before now) (bytes : List UInt8) :
    Counted feed (packets ++ [bytes]) before (feed.handle now (.packet bytes)) := by
  -- The context goes on from where the packets before have left it, and so do the counters.
  have behind : (feed.handle now (.packet bytes)).1 =
      before.through ((packets ++ [bytes]).flatMap (feed.operationsOf ι)) := by
    rw [Feed.handle, process_eq, List.flatMap_append, through_append, ← counted.context,
      List.flatMap_singleton]
  have counters : (feed.handle now (.packet bytes)).2 =
      { now.2.count (feed.strategy.parseBytes bytes) with
        stateChanges := (changes before.robotState
          ((packets ++ [bytes]).flatMap (feed.operationsOf ι))).length } := by
    rw [Feed.handle, process_eq, List.flatMap_append, changes_append, List.length_append,
      ← counted.stateChanges, counted.context, robotState_through, List.flatMap_singleton]
  rw [count_eq] at counters
  refine {
    total := ?_, decoded := ?_, unexpected := ?_, incomplete := ?_, malformed := ?_
    unread := by rw [counters]; exact counted.unread
    context := behind, stateChanges := by rw [counters], told := ?_ }
  · rw [counters, counted.total, List.length_append]
    rfl
  · rw [counters, counted.decoded, List.countP_append, List.countP_singleton]
  · rw [counters, counted.unexpected, List.countP_append, List.countP_singleton]
  · rw [counters, counted.incomplete, List.countP_append, List.countP_singleton]
  · rw [counters, counted.malformed, List.countP_append, List.countP_singleton]
  · rw [behind, told_through, tellings_of_nobody_joins]
    intro operation member
    obtain ⟨packet, -, inside⟩ := List.mem_flatMap.mp member
    exact nobody_joins feed packet operation inside

theorem counted_foldl {now : Context ι × Metrics} (fresh : now.2 = {})
    (packets : List (List UInt8)) :
    Counted feed packets now.1 ((packets.map Item.packet).foldl feed.handle now) := by
  induction packets using List.reverseRecOn with
  | nil => exact counted_nil fresh
  | append_singleton packets bytes ih =>
    rw [List.map_append, List.foldl_append]
    exact counted_concat ih bytes

theorem counted_of_sinceReset {items earlier : List Item} {packets : List (List UInt8)}
    (since : SinceReset items earlier packets) (begin : Context ι) :
    Counted feed packets (feed.tally begin earlier).1 (feed.tally begin items) := by
  have fresh : (feed.tally begin earlier).2 = {} := by
    rcases since.fresh with rfl | ⟨before, rfl⟩
    · rfl
    · rw [tally_append]
      rfl
  rw [since.split, tally_append]
  exact counted_foldl fresh packets

/-! ### The law of counting -/

/-- What the counters have in common at all times. -/
structure Metrics.Balanced (metrics : Metrics) : Prop where
  total : metrics.total =
    metrics.decoded + metrics.unexpected + metrics.incomplete + metrics.malformed
  stateChanges : metrics.stateChanges ≤ metrics.decoded

theorem length_changes_operationsOf (feed : Feed) (ι : Type) (bytes : List UInt8)
    (state : Option RobotState) :
    (changes state (feed.operationsOf ι bytes)).length ≤
      if feed.strategy.parseBytes bytes matches .ok _ then 1 else 0 := by
  unfold Feed.operationsOf
  cases feed.strategy.parseBytes bytes with
  | error fault => exact Nat.le_refl 0
  | ok packet =>
    rw [changes_operations, Feed.stateOperations]
    have atMost : ∀ new, (changes state [(.updateState new : Operation ι)]).length ≤ 1 := by
      intro new
      rw [changes, Operation.news]
      split <;> simp [changes]
    cases feed.ownership.state with
    | false => exact Nat.zero_le 1
    | true => cases packet.robotState with
      | none => exact Nat.zero_le 1
      | some new => exact atMost new

theorem balanced_handle {now : Context ι × Metrics} (balanced : now.2.Balanced) (item : Item) :
    (feed.handle now item).2.Balanced := by
  cases item with
  | reset => exact ⟨rfl, Nat.le_refl 0⟩
  | packet bytes =>
    have atMost := length_changes_operationsOf feed ι bytes now.1.robotState
    obtain ⟨total, stateChanges⟩ := balanced
    rw [Feed.handle, process_eq, count_eq]
    generalize feed.strategy.parseBytes bytes = outcome at atMost
    constructor
    · rcases outcome with (_ | _ | _) | _ <;> simp <;> omega
    · exact Nat.add_le_add stateChanges atMost

/-! ### What the link does not keep -/

theorem joints_handle (foreign : feed.ownership.joints = false) (now : Context ι × Metrics)
    (item : Item) : (feed.handle now item).1.joints = now.1.joints := by
  cases item with
  | reset => rfl
  | packet bytes =>
    exact (handling_of_process feed bytes now.1 now.2).jointsKept fun _ _ => .inl foreign

theorem state_handle (foreign : feed.ownership.state = false) (now : Context ι × Metrics)
    (item : Item) : (feed.handle now item).1.robotState = now.1.robotState ∧
      (feed.handle now item).1.told = now.1.told := by
  cases item with
  | reset => exact ⟨rfl, rfl⟩
  | packet bytes =>
    exact (handling_of_process feed bytes now.1 now.2).stateKept fun _ _ => .inl foreign

/-! ### All of it -/

/-- What a link makes of packets and resets, and how it counts them. -/
structure Accounting (feed : Feed) (begin : Context ι) : Prop where
  handled : ∀ items bytes, Handling feed bytes (feed.tally begin items).1
    (feed.tally begin (items ++ [.packet bytes])).1
  reset : ∀ items, feed.tally begin (items ++ [.reset]) = ((feed.tally begin items).1, {})
  since : ∀ items, ∃ earlier packets, SinceReset items earlier packets
  counted : ∀ items earlier packets, SinceReset items earlier packets →
    Counted feed packets (feed.tally begin earlier).1 (feed.tally begin items)
  balanced : ∀ items, (feed.tally begin items).2.Balanced
  /-- What the link does not keep never changes. -/
  jointsForeign : feed.ownership.joints = false →
    ∀ items, (feed.tally begin items).1.joints = begin.joints
  stateForeign : feed.ownership.state = false →
    ∀ items, (feed.tally begin items).1.robotState = begin.robotState ∧
      (feed.tally begin items).1.told = begin.told

/-- However a link reads its packets and whatever it keeps, it counts each of them once, and changes
the context only as the packets that it reads demand. -/
theorem accounting_of_tally (feed : Feed) (begin : Context ι) : Accounting feed begin where
  handled := by
    intro items bytes
    rw [tally_append]
    exact handling_of_process feed bytes _ _
  reset := by
    intro items
    rw [tally_append]
    rfl
  since := exists_sinceReset
  counted _ _ _ since := counted_of_sinceReset since begin
  balanced := by
    intro items
    refine tally_induct (motive := fun now => now.2.Balanced) ⟨rfl, Nat.le_refl 0⟩ ?_ items
    intro now item balanced
    exact balanced_handle balanced item
  jointsForeign := by
    intro foreign items
    refine tally_induct (motive := fun now => now.1.joints = begin.joints) rfl ?_ items
    intro now item same
    exact (joints_handle foreign now item).trans same
  stateForeign := by
    intro foreign items
    refine tally_induct (motive := fun now => now.1.robotState = begin.robotState ∧
      now.1.told = begin.told) ⟨rfl, rfl⟩ ?_ items
    intro now item same
    obtain ⟨state, told⟩ := state_handle foreign now item
    exact ⟨state.trans same.1, told.trans same.2⟩

end ArmLink.Link
