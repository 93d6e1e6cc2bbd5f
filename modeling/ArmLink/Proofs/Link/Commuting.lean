import ArmLink.Proofs.Link.Interleaving
import Mathlib.Algebra.GroupWithZero.Nat

/-!
Two links that bring packets commute.

Neither link writes, clears or counts what the other does, so that a run in which both process all
their packets leaves what each of them would have left without the other: the joints and the
counters of the realtime link, and the state, what the listeners were told of it, and the counters
of the primary link.  The order in which the accesses of the two came does not matter, nor what the
other link had to process.

That such a run exists is a fact of its own.  No link waits for the other, and each step of a link
that has something to do leaves it less to do (`Worker.work`), so that every run can be brought to
its end.

Main statement: `commuting_of_run`.
-/

namespace ArmLink.Link

open Firmware Telemetry

variable {ι : Type} {feed : Feed} {worker : Worker} {shared : Shared ι} {begin : Context ι}
  {whole read : List Reception}

/-- A robot with both links after some run in which they could receive these packets. -/
def Robot.processing (context : Context ι) (layouts : Layouts)
    (realtime primary : List (List UInt8)) (schedule : List FeedName) : Robot ι :=
  (Robot.start context layouts (realtime.map .ok) (some (primary.map .ok))).run schedule

/-- Nothing is left to receive or to do. -/
structure Worker.IsThrough (worker : Worker) : Prop where
  script : worker.script = []
  pending : worker.pending = []

structure Robot.IsThrough (robot : Robot ι) : Prop where
  realtime : robot.realtime.IsThrough
  primary : ∀ worker, robot.primary = some worker → worker.IsThrough

theorem harmless_packets (packets : List (List UInt8)) : ¬ Lost (packets.map .ok) := by
  rintro ⟨reception, member, fatal⟩
  obtain ⟨bytes, -, rfl⟩ := List.mem_map.mp member
  exact not_isFatal_ok bytes fatal

/-- A link that is through left what it would have left alone. -/
theorem Worker.Follows.through {packets : List (List UInt8)}
    (follows : worker.Follows feed begin (packets.map .ok) read shared)
    (through : worker.IsThrough) :
    feed.ownership.Agree (shared.context, worker.metrics) (feed.alone begin (packets.map .ok)) := by
  have all : packets.map .ok = read := by rw [follows.script, through.script, List.append_nil]
  rw [← account_harmless feed begin (harmless_packets packets), all]
  exact follows.kept through.pending

/-! ### What is left to do -/

def Access.work : Access → Nat
  | .exchangeState _ => 2
  | _ => 1

/-- What a link has still to do, so counted that a reception counts for more than all the steps it
gives rise to. -/
def Worker.work (worker : Worker) : Nat :=
  8 * worker.script.length + (worker.pending.map Access.work).sum +
    if worker.phase = .looking then 1 else 0

def Robot.work (robot : Robot ι) : Nat :=
  robot.realtime.work + (robot.primary.map Worker.work).getD 0

theorem work_accesses (ownership : Ownership) (packet : Packet) :
    ((ownership.accesses packet).map Access.work).sum ≤ 5 := by
  simp only [Ownership.accesses]
  cases ownership.joints <;> cases JointFeedback.ofPacket? packet <;> cases ownership.state <;>
    cases packet.robotState <;> simp [Access.work]

theorem work_farewell (ownership : Ownership) :
    (ownership.farewell.map Access.work).sum ≤ 3 := by
  obtain ⟨joints, state⟩ := ownership
  cases joints <;> cases state <;> decide

theorem work_accept (worker : Worker) (idle : worker.pending = []) (reception : Reception) :
    (worker.accept reception).work ≤ 8 * worker.script.length + 6 := by
  have script := (accept_kept worker reception).2
  have pending : ((worker.accept reception).pending.map Access.work).sum ≤ 5 := by
    cases reception with
    | ok bytes =>
      simp only [Worker.accept]
      cases worker.feed.strategy.parseBytes bytes with
      | ok packet => exact work_accesses worker.feed.ownership packet
      | error fault => simp
    | error fault =>
      have farewell := work_farewell worker.feed.ownership
      cases fatal : fault.isFatal <;> simp [Worker.accept, fatal, idle]
      omega
  simp only [Worker.work, script]
  split <;> omega

/-- A step of a link leaves it less to do, unless it rests. -/
theorem work_step (busy : worker.isResting = false) (shared : Shared ι) :
    (worker.step shared).1.work < worker.work := by
  generalize after : worker.step shared = next
  cases after ▸ worker.moves_step shared with
  | performs access pending next =>
    obtain ⟨metrics, same, ahead⟩ := perform_worker { worker with pending } access shared
    rw [same]
    rcases ahead with ahead | ⟨state, rfl, ahead⟩
    · have positive : 0 < access.work := by cases access <;> simp [Access.work]
      simp only [Worker.work, ahead, next, List.map_cons, List.sum_cons]
      omega
    · simp only [Worker.work, ahead, next, List.map_cons, List.sum_cons, Access.work]
      omega
  | looks idle phase =>
    simp only [Worker.work, phase, if_true]
    cases shared.running <;> simp
  | receives reception script idle phase next =>
    have accepted := work_accept { worker with script } idle reception
    simp only [Worker.work, next, List.length_cons] at accepted ⊢
    omega
  | rests resting => simp [busy] at resting

namespace Robot

/-- Both links have ended or wait for a reception. -/
def IsResting (robot : Robot ι) : Prop :=
  robot.realtime.isResting = true ∧ ∀ worker, robot.primary = some worker → worker.isResting = true

theorem run_append (robot : Robot ι) (first second : List FeedName) :
    robot.run (first ++ second) = (robot.run first).run second :=
  List.foldl_append

/-- The links come to rest, whatever they did before, if they are let go on for long enough. -/
theorem exists_resting (robot : Robot ι) : ∃ more, (robot.run more).IsResting := by
  induction left : robot.work using Nat.strongRecOn generalizing robot with
  | ind left ih =>
    subst left
    have onward : ∀ name, (robot.step name).work < robot.work →
        ∃ more, (robot.run more).IsResting := by
      intro name less
      obtain ⟨more, resting⟩ := ih _ less _ rfl
      exact ⟨name :: more, resting⟩
    cases realtime : robot.realtime.isResting with
    | false =>
      apply onward .realtime
      exact Nat.add_lt_add_right (work_step realtime robot.shared) _
    | true =>
      cases second : robot.primary with
      | none => exact ⟨[], realtime, by simp [Robot.run, second]⟩
      | some worker =>
        cases primary : worker.isResting with
        | false =>
          apply onward .primary
          have less := work_step primary robot.shared
          simp only [Robot.step, Robot.work, second, Option.map_some, Option.getD_some]
          omega
        | true => exact ⟨[], realtime, by simpa [Robot.run, second] using primary⟩

end Robot

/-- A link that was not lost, and that nothing has stopped, rests only when it is through. -/
theorem Worker.Follows.through_of_resting (follows : worker.Follows feed begin whole read shared)
    (harmless : ¬ Lost whole) (running : shared.running = true)
    (resting : worker.isResting = true) : worker.IsThrough := by
  have notEnded : worker.phase ≠ .ended := by
    intro phase
    rcases follows.ended phase with lost | halted
    · exact harmless (follows.lost_whole lost)
    · simp [running] at halted
  rw [resting_iff, or_iff_right notEnded] at resting
  exact ⟨resting.2.2, resting.1⟩

namespace Robot

variable {context : Context ι} {layouts : Layouts} {realtime primary : List (List UInt8)}
  {schedule : List FeedName}

theorem exists_reached (context : Context ι) (layouts : Layouts)
    (realtime primary : List (List UInt8)) (schedule : List FeedName) :
    ∃ worker realtimeRead primaryRead,
      (processing context layouts realtime primary schedule).Reached (context.setLayouts layouts)
        layouts (realtime.map .ok) (primary.map .ok) (schedule.map .link) worker realtimeRead
        primaryRead := by
  rw [processing, run_eq_play]
  exact reached_play context layouts (realtime.map .ok) (primary.map .ok) (schedule.map .link)

/-- What the run of both links leaves of the one is what this link leaves alone. -/
theorem realtime_of_through
    (through : (processing context layouts realtime primary schedule).IsThrough) :
    (Feed.realtime layouts false).ownership.Agree
      ((processing context layouts realtime primary schedule).shared.context,
        (processing context layouts realtime primary schedule).realtime.metrics)
      ((Feed.realtime layouts false).alone (context.setLayouts layouts)
        (realtime.map .ok)) := by
  obtain ⟨worker, realtimeRead, primaryRead, reached⟩ :=
    exists_reached context layouts realtime primary schedule
  exact reached.realtime.through through.realtime

theorem primary_of_through
    (through : (processing context layouts realtime primary schedule).IsThrough) :
    ∃ worker, (processing context layouts realtime primary schedule).primary = some worker ∧
      (Feed.primary layouts).ownership.Agree
        ((processing context layouts realtime primary schedule).shared.context, worker.metrics)
        ((Feed.primary layouts).alone (context.setLayouts layouts)
          (primary.map .ok)) := by
  obtain ⟨worker, realtimeRead, primaryRead, reached⟩ :=
    exists_reached context layouts realtime primary schedule
  refine ⟨worker, reached.primary_eq, ?_⟩
  exact reached.primary.through (through.primary worker reached.primary_eq)

theorem running_processing (context : Context ι) (layouts : Layouts)
    (realtime primary : List (List UInt8)) (schedule : List FeedName) :
    (processing context layouts realtime primary schedule).shared.running = true := by
  obtain ⟨worker, realtimeRead, primaryRead, reached⟩ :=
    exists_reached context layouts realtime primary schedule
  cases running : (processing context layouts realtime primary schedule).shared.running with
  | true => rfl
  | false =>
    rcases reached.halted running with halted | lost | lost
    · simp at halted
    · exact absurd (reached.realtime.lost_whole lost) (harmless_packets realtime)
    · exact absurd (reached.primary.lost_whole lost) (harmless_packets primary)

theorem exists_through (context : Context ι) (layouts : Layouts)
    (realtime primary : List (List UInt8)) (schedule : List FeedName) :
    ∃ more, (processing context layouts realtime primary (schedule ++ more)).IsThrough := by
  obtain ⟨more, resting⟩ := exists_resting (processing context layouts realtime primary schedule)
  rw [processing, ← run_append] at resting
  refine ⟨more, ?_⟩
  obtain ⟨worker, realtimeRead, primaryRead, reached⟩ :=
    exists_reached context layouts realtime primary (schedule ++ more)
  have running := running_processing context layouts realtime primary (schedule ++ more)
  constructor
  · exact reached.realtime.through_of_resting (harmless_packets realtime) running resting.1
  · intro second same
    rw [reached.primary_eq] at same
    cases same
    apply reached.primary.through_of_resting (harmless_packets primary) running
    exact resting.2 worker reached.primary_eq

end Robot

/-! ### Any two orders of the same work -/

/-- Robots with the same joints, from realtime links that counted the same. -/
structure SameJoints (one other : Robot ι) : Prop where
  joints : one.shared.context.joints = other.shared.context.joints
  metrics : one.realtime.metrics = other.realtime.metrics

/-- Robots with the same state, of which their listeners were told the same, from primary links that
counted the same. -/
structure SameState (one other : Robot ι) : Prop where
  state : one.shared.context.robotState = other.shared.context.robotState
  told : one.shared.context.told = other.shared.context.told
  metrics : one.primary.map (·.metrics) = other.primary.map (·.metrics)

/-- Both links of a robot do their work in any order of steps. -/
structure Commuting (context : Context ι) (layouts : Layouts) : Prop where
  completes : ∀ realtime primary schedule,
    ∃ more, (Robot.processing context layouts realtime primary (schedule ++ more)).IsThrough
  joints : ∀ realtime primary otherPrimary schedule otherSchedule,
    (Robot.processing context layouts realtime primary schedule).IsThrough →
    (Robot.processing context layouts realtime otherPrimary otherSchedule).IsThrough →
    SameJoints (Robot.processing context layouts realtime primary schedule)
      (Robot.processing context layouts realtime otherPrimary otherSchedule)
  state : ∀ realtime otherRealtime primary schedule otherSchedule,
    (Robot.processing context layouts realtime primary schedule).IsThrough →
    (Robot.processing context layouts otherRealtime primary otherSchedule).IsThrough →
    SameState (Robot.processing context layouts realtime primary schedule)
      (Robot.processing context layouts otherRealtime primary otherSchedule)
  commutes : ∀ realtime primary schedule otherSchedule,
    (Robot.processing context layouts realtime primary schedule).IsThrough →
    (Robot.processing context layouts realtime primary otherSchedule).IsThrough →
    SameJoints (Robot.processing context layouts realtime primary schedule)
        (Robot.processing context layouts realtime primary otherSchedule) ∧
      SameState (Robot.processing context layouts realtime primary schedule)
        (Robot.processing context layouts realtime primary otherSchedule)
  /-- The joints are those of the realtime link alone. -/
  jointsAlone : ∀ realtime primary schedule,
    (Robot.processing context layouts realtime primary schedule).IsThrough →
    (Robot.processing context layouts realtime primary schedule).shared.context.joints =
      ((Feed.realtime layouts false).alone (context.setLayouts layouts)
        (realtime.map .ok)).1.joints
  /-- The state, and what was told of it, is that of the primary link alone. -/
  stateAlone : ∀ realtime primary schedule,
    (Robot.processing context layouts realtime primary schedule).IsThrough →
    (Robot.processing context layouts realtime primary schedule).shared.context.robotState =
        ((Feed.primary layouts).alone (context.setLayouts layouts)
          (primary.map .ok)).1.robotState ∧
      (Robot.processing context layouts realtime primary schedule).shared.context.told =
        ((Feed.primary layouts).alone (context.setLayouts layouts) (primary.map .ok)).1.told

theorem sameJoints_of_through (context : Context ι) (layouts : Layouts)
    {realtime primary otherPrimary : List (List UInt8)} {schedule otherSchedule : List FeedName}
    (one : (Robot.processing context layouts realtime primary schedule).IsThrough)
    (other : (Robot.processing context layouts realtime otherPrimary otherSchedule).IsThrough) :
    SameJoints (Robot.processing context layouts realtime primary schedule)
      (Robot.processing context layouts realtime otherPrimary otherSchedule) := by
  have left := Robot.realtime_of_through one
  have right := Robot.realtime_of_through other
  constructor
  · rw [left.joints rfl, right.joints rfl]
  · exact left.metrics.trans right.metrics.symm

theorem sameState_of_through (context : Context ι) (layouts : Layouts)
    {realtime otherRealtime primary : List (List UInt8)} {schedule otherSchedule : List FeedName}
    (one : (Robot.processing context layouts realtime primary schedule).IsThrough)
    (other : (Robot.processing context layouts otherRealtime primary otherSchedule).IsThrough) :
    SameState (Robot.processing context layouts realtime primary schedule)
      (Robot.processing context layouts otherRealtime primary otherSchedule) := by
  obtain ⟨worker, worker_eq, left⟩ := Robot.primary_of_through one
  obtain ⟨second, second_eq, right⟩ := Robot.primary_of_through other
  constructor
  · rw [Context.robotState, Context.robotState, left.cell rfl, right.cell rfl]
  · rw [left.told rfl, right.told rfl]
  · rw [worker_eq, second_eq]
    exact congrArg some (left.metrics.trans right.metrics.symm)

/-- Two links that bring packets commute, and neither has any part in what the other leaves. -/
theorem commuting_of_run (context : Context ι) (layouts : Layouts) : Commuting context layouts where
  completes := Robot.exists_through context layouts
  joints _ _ _ _ _ one other := sameJoints_of_through context layouts one other
  state _ _ _ _ _ one other := sameState_of_through context layouts one other
  commutes _ _ _ _ one other := by
    constructor
    · exact sameJoints_of_through context layouts one other
    · exact sameState_of_through context layouts one other
  jointsAlone _ _ _ through := (Robot.realtime_of_through through).joints rfl
  stateAlone := by
    intro realtime primary schedule through
    obtain ⟨worker, -, ofPrimary⟩ := Robot.primary_of_through through
    exact ⟨congrArg StateCell.state (ofPrimary.cell rfl), ofPrimary.told rfl⟩

end ArmLink.Link
