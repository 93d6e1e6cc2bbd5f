import ArmLink.Proofs.Link.Sharing

/-!
Two links whose steps come in any order.

At every moment of such a run what a link keeps can be told from what it took in so far, whatever
the other link did in between: once the accesses that it has still to make are made, the parts it
keeps and its counters are what it would have made of these receptions on its own
(`Worker.Follows`).  A link ends for one of two reasons, which the same invariant keeps apart: it
took in a fatal fault, and then it takes back what it keeps and clears the running flag, or it found
the flag cleared.  Who cleared it is known too: a link that was lost, or someone who shut the robot
down between two steps (`Robot.Turn`).

Main statement: `reached_play`.
-/

namespace ArmLink.Link

open Firmware Telemetry

variable {ι : Type} {feed : Feed} {worker stranger : Worker} {shared : Shared ι}
  {begin : Context ι} {whole read : List Reception}

/-! ### Ways to go -/

/-- How a link can make its next step. -/
inductive Worker.Moves (worker : Worker) (shared : Shared ι) : Worker × Shared ι → Prop where
  | performs (access : Access) (pending : List Access)
      (next : worker.pending = access :: pending) :
      Moves worker shared ({ worker with pending }.perform access shared)
  | looks (idle : worker.pending = []) (phase : worker.phase = .looking) :
      Moves worker shared
        ({ worker with phase := if shared.running then .receiving else .ended }, shared)
  | receives (reception : Reception) (script : List Reception) (idle : worker.pending = [])
      (phase : worker.phase = .receiving) (next : worker.script = reception :: script) :
      Moves worker shared ({ worker with script }.accept reception, shared)
  | rests (resting : worker.isResting = true) : Moves worker shared (worker, shared)

theorem Worker.moves_step (worker : Worker) (shared : Shared ι) :
    worker.Moves shared (worker.step shared) := by
  cases ahead : worker.pending with
  | cons access pending =>
    have step : worker.step shared = { worker with pending }.perform access shared := by
      simp only [Worker.step, ahead]
    exact step ▸ .performs access pending ahead
  | nil =>
    cases phase : worker.phase with
    | looking =>
      have step : worker.step shared =
          ({ worker with phase := if shared.running then .receiving else .ended }, shared) := by
        simp only [Worker.step, ahead, phase]
      exact step ▸ .looks ahead phase
    | receiving =>
      cases script : worker.script with
      | nil =>
        have step : worker.step shared = (worker, shared) := by
          simp only [Worker.step, ahead, phase, script]
        exact step ▸ .rests (by simp [Worker.isResting, ahead, phase, script])
      | cons reception later =>
        have step : worker.step shared =
            ({ worker with script := later }.accept reception, shared) := by
          simp only [Worker.step, ahead, phase, script]
        exact step ▸ .receives reception later ahead phase script
    | ended =>
      have step : worker.step shared = (worker, shared) := by
        simp only [Worker.step, ahead, phase]
      exact step ▸ .rests (by simp [Worker.isResting, ahead, phase])

theorem resting_iff (worker : Worker) : worker.isResting = true ↔
    worker.pending = [] ∧
      (worker.phase = .ended ∨ worker.phase = .receiving ∧ worker.script = []) := by
  simp [Worker.isResting]

theorem step_of_resting (resting : worker.isResting = true) (shared : Shared ι) :
    worker.step shared = (worker, shared) := by
  rcases (resting_iff worker).mp resting with ⟨idle, phase | ⟨phase, done⟩⟩
  · simp only [Worker.step, idle, phase]
  · simp only [Worker.step, idle, phase, done]

/-! ### What is known of a link at any moment -/

/-- Whether a fatal fault is among some receptions. -/
def Lost (receptions : List Reception) : Prop := ∃ reception ∈ receptions, IsFatal reception

theorem lost_append (read more : List Reception) : Lost (read ++ more) ↔ Lost read ∨ Lost more := by
  simp only [Lost, List.mem_append, or_and_right, exists_or]

theorem lost_cons (reception : Reception) (later : List Reception) :
    Lost (reception :: later) ↔ IsFatal reception ∨ Lost later := by
  simp [Lost]

theorem lost_singleton (reception : Reception) : Lost [reception] ↔ IsFatal reception := by
  simp only [Lost, List.mem_singleton, exists_eq_left]

/-- A link that began with this feed in this context and has read so much of the whole. -/
structure Worker.Follows (worker : Worker) (feed : Feed) (begin : Context ι)
    (whole read : List Reception) (shared : Shared ι) : Prop where
  feed_eq : worker.feed = feed
  script : whole = read ++ worker.script
  permitted : ∀ access ∈ worker.pending, feed.ownership.Permits access
  agree : feed.ownership.Agree (finish worker.pending (shared.context, worker.metrics))
    (feed.account begin read)
  /-- A lost link takes back what it keeps. -/
  cleared : Lost read → feed.ownership.Cleared (feed.account begin read).1
  /-- It takes in nothing more. -/
  lost : Lost read → worker.phase = .ended
  /-- It clears the running flag before it is done. -/
  leaving : Lost read → .stop ∈ worker.pending ∨ shared.running = false
  /-- No other link clears the flag. -/
  stopping : .stop ∈ worker.pending → Lost read
  ended : worker.phase = .ended → Lost read ∨ shared.running = false

theorem Feed.account_append (feed : Feed) (begin : Context ι) (read : List Reception)
    (reception : Reception) :
    feed.account begin (read ++ [reception]) = feed.takeIn (feed.account begin read) reception := by
  simp only [Feed.account, List.foldl_append, List.foldl_cons, List.foldl_nil]

/-- The context and the counters that a link leaves if there is no other link. -/
def Feed.alone (feed : Feed) (context : Context ι) (receptions : List Reception) :
    Context ι × Metrics :=
  let left := ingest feed { context } {} receptions
  (left.shared.context, left.metrics)

/-- One reception of a link on its own.  A fatal one is the last. -/
theorem ingest_cons (feed : Feed) (running : shared.running = true) (metrics : Metrics)
    (reception : Reception) (later : List Reception) :
    (IsFatal reception → ingest feed shared metrics (reception :: later) =
      { shared :=
          { context := (feed.takeIn (shared.context, metrics) reception).1, running := false }
        metrics := (feed.takeIn (shared.context, metrics) reception).2
        unread := later }) ∧
    (¬ IsFatal reception → ingest feed shared metrics (reception :: later) =
      ingest feed { shared with context := (feed.takeIn (shared.context, metrics) reception).1 }
        (feed.takeIn (shared.context, metrics) reception).2 later) := by
  cases reception with
  | ok bytes =>
    rw [ingest, if_pos running]
    exact ⟨fun fatal => absurd fatal (not_isFatal_ok bytes), fun _ => rfl⟩
  | error fault =>
    rw [ingest, if_pos running, isFatal_error]
    cases fatal : fault.isFatal <;> simp [Feed.takeIn, fatal]

/-- A link on its own takes in what comes before a fatal reception, and goes on with the rest. -/
theorem ingest_append (feed : Feed) (running : shared.running = true) (metrics : Metrics)
    {receptions : List Reception} (harmless : ¬ Lost receptions) (rest : List Reception) :
    ingest feed shared metrics (receptions ++ rest) =
      ingest feed
        { shared with context := (receptions.foldl feed.takeIn (shared.context, metrics)).1 }
        (receptions.foldl feed.takeIn (shared.context, metrics)).2 rest := by
  induction receptions generalizing shared metrics with
  | nil => rfl
  | cons reception later ih =>
    rw [lost_cons, not_or] at harmless
    let next : Shared ι :=
      { shared with context := (feed.takeIn (shared.context, metrics) reception).1 }
    have stillRunning : next.running = true := running
    rw [List.cons_append, (ingest_cons feed running metrics reception _).2 harmless.1,
      List.foldl_cons]
    exact ih stillRunning _ harmless.2

theorem account_harmless (feed : Feed) (context : Context ι) {receptions : List Reception}
    (harmless : ¬ Lost receptions) :
    feed.account context receptions = feed.alone context receptions := by
  let shared : Shared ι := { context }
  have running : shared.running = true := rfl
  have all := ingest_append feed running {} harmless []
  rw [List.append_nil] at all
  rw [Feed.alone, all]
  rfl

/-! ### Steps of the link itself -/

theorem Worker.Follows.perform {access : Access} {pending : List Access}
    (follows : worker.Follows feed begin whole read shared)
    (next : worker.pending = access :: pending) :
    ({ worker with pending }.perform access shared).1.Follows feed begin whole read
      ({ worker with pending }.perform access shared).2 := by
  have finished := finish_perform { worker with pending } access shared
  have running := perform_running { worker with pending } access shared
  obtain ⟨metrics, same, ahead⟩ := perform_worker { worker with pending } access shared
  generalize { worker with pending }.perform access shared = after at *
  obtain ⟨after, shared'⟩ := after
  simp only at finished running same ahead ⊢
  -- The telling of a new state is permitted where its writing was, and it is not a stop.
  have allowed := List.forall_mem_cons.mp (next ▸ follows.permitted)
  have permitted : ∀ access ∈ after.pending, feed.ownership.Permits access := by
    rcases ahead with ahead | ⟨state, rfl, ahead⟩
    · exact ahead ▸ allowed.2
    · exact ahead ▸ List.forall_mem_cons.mpr ⟨allowed.1, allowed.2⟩
  have stops : .stop ∈ after.pending ↔ .stop ∈ pending := by
    rcases ahead with ahead | ⟨state, rfl, ahead⟩ <;> simp [ahead]
  have stopped : shared.running = false → shared'.running = false := by
    intro halted
    rw [running, halted, Bool.false_and]
  exact
    { feed_eq := by rw [same]; exact follows.feed_eq
      script := by rw [same]; exact follows.script
      permitted
      agree := by rw [finished, ← next]; exact follows.agree
      cleared := follows.cleared
      lost := by rw [same]; exact follows.lost
      leaving := by
        intro lost
        rcases follows.leaving lost with ahead | halted
        · rcases List.mem_cons.mp (next ▸ ahead) with rfl | later
          · exact .inr (by rw [running]; simp)
          · exact .inl (stops.mpr later)
        · exact .inr (stopped halted)
      stopping := by
        intro ahead
        exact follows.stopping (next ▸ List.mem_cons_of_mem _ (stops.mp ahead))
      ended := by
        rw [same]
        exact fun phase => (follows.ended phase).imp_right stopped }

theorem Worker.Follows.look (follows : worker.Follows feed begin whole read shared)
    (phase : worker.phase = .looking) :
    { worker with phase := if shared.running then .receiving else .ended }.Follows feed begin whole
      read shared := by
  have notLost : ¬ Lost read := fun lost => by simp [follows.lost lost] at phase
  exact
    { follows with
      lost := fun lost => absurd lost notLost
      ended := by
        intro ended
        cases running : shared.running with
        | true => simp [running] at ended
        | false => exact .inr rfl }

theorem Worker.Follows.accept {reception : Reception} {script : List Reception}
    (follows : worker.Follows feed begin whole read shared) (idle : worker.pending = [])
    (phase : worker.phase = .receiving) (next : worker.script = reception :: script) :
    ({ worker with script }.accept reception).Follows feed begin whole (read ++ [reception])
      shared := by
  have notLost : ¬ Lost read := fun lost => by simp [follows.lost lost] at phase
  have onlyThis : Lost (read ++ [reception]) ↔ IsFatal reception := by
    rw [lost_append, lost_singleton, or_iff_right notLost]
  have finished := finish_accept { worker with script } idle shared.context reception
  have permitted := permits_accept { worker with script } idle reception
  have stops := stop_mem_accept { worker with script } idle reception
  have ends := ended_accept { worker with script } reception
  obtain ⟨feedKept, scriptKept⟩ := accept_kept { worker with script } reception
  have before := follows.agree
  rw [idle] at before
  generalize { worker with script }.accept reception = after at *
  exact
    { feed_eq := feedKept.trans follows.feed_eq
      script := by rw [follows.script, next, scriptKept, List.append_assoc, List.singleton_append]
      permitted := follows.feed_eq ▸ permitted
      agree := by
        rw [finished, feed.account_append]
        exact follows.feed_eq ▸ takeIn_agree before reception
      cleared := by
        intro lost
        rw [feed.account_append]
        exact cleared_takeIn (onlyThis.mp lost) _
      lost := fun lost => ends.mpr (onlyThis.mp lost)
      leaving := fun lost => .inl (stops.mpr (onlyThis.mp lost))
      stopping := fun ahead => onlyThis.mpr (stops.mp ahead)
      ended := fun ended => .inl (onlyThis.mpr (ends.mp ended)) }

/-- A link that makes a step still follows.  It reads one reception more at most, and none once it
was lost. -/
theorem Worker.Follows.step (follows : worker.Follows feed begin whole read shared) :
    ∃ more, (more = [] ∨ ∃ reception, more = [reception] ∧ ¬ Lost read) ∧
      (worker.step shared).1.Follows feed begin whole (read ++ more) (worker.step shared).2 := by
  have nothingRead : ∀ {next : Worker} {shared : Shared ι},
      next.Follows feed begin whole read shared →
      ∃ more, (more = [] ∨ ∃ reception, more = [reception] ∧ ¬ Lost read) ∧
        next.Follows feed begin whole (read ++ more) shared := by
    intro next shared follows
    refine ⟨[], .inl rfl, ?_⟩
    rw [List.append_nil]
    exact follows
  generalize after : worker.step shared = next
  cases after ▸ worker.moves_step shared with
  | performs access pending next => exact nothingRead (follows.perform next)
  | looks idle phase => exact nothingRead (follows.look phase)
  | receives reception script idle phase next =>
    have notLost : ¬ Lost read := fun lost => by simp [follows.lost lost] at phase
    exact ⟨[reception], .inr ⟨reception, rfl, notLost⟩, follows.accept idle phase next⟩
  | rests resting => exact nothingRead follows

/-- A link clears the running flag only when it was lost. -/
theorem Worker.Follows.cause (follows : worker.Follows feed begin whole read shared)
    (halted : (worker.step shared).2.running = false) : shared.running = false ∨ Lost read := by
  revert halted
  generalize after : worker.step shared = next
  cases after ▸ worker.moves_step shared with
  | performs access pending next =>
    intro halted
    rw [perform_running] at halted
    cases running : shared.running with
    | false => exact .inl rfl
    | true =>
      right
      apply follows.stopping
      rw [next]
      cases access <;> simp [running] at halted ⊢
  | _ => exact .inl

/-! ### Steps of other links -/

theorem step_agree {ownership : Ownership} (apart : ownership.Apart stranger.feed.ownership)
    (permitted : ∀ access ∈ stranger.pending, stranger.feed.ownership.Permits access)
    (metrics : Metrics) :
    ownership.Agree ((stranger.step shared).2.context, metrics) (shared.context, metrics) := by
  generalize after : stranger.step shared = next
  cases after ▸ stranger.moves_step shared with
  | performs access pending next =>
    apply perform_apart apart _ metrics
    apply permitted
    rw [next]
    exact List.mem_cons_self
  | _ => exact .refl ownership _

theorem halted_step (halted : shared.running = false) :
    (stranger.step shared).2.running = false := by
  generalize after : stranger.step shared = next
  cases after ▸ stranger.moves_step shared with
  | performs access pending next => rw [perform_running, halted, Bool.false_and]
  | _ => exact halted

/-- What others do changes nothing for a link if they leave the parts that it keeps as they are and
do not raise the running flag. -/
theorem Worker.Follows.spared {shared' : Shared ι}
    (follows : worker.Follows feed begin whole read shared)
    (agree : feed.ownership.Agree (shared'.context, worker.metrics)
      (shared.context, worker.metrics))
    (halted : shared.running = false → shared'.running = false) :
    worker.Follows feed begin whole read shared' :=
  { follows with
    agree := (finish_agree agree follows.permitted).trans follows.agree
    leaving := fun lost => (follows.leaving lost).imp_right halted
    ended := fun phase => (follows.ended phase).imp_right halted }

/-- What another link does changes nothing for a link that keeps other parts. -/
theorem Worker.Follows.apart (follows : worker.Follows feed begin whole read shared)
    (apart : feed.ownership.Apart stranger.feed.ownership)
    (permitted : ∀ access ∈ stranger.pending, stranger.feed.ownership.Permits access) :
    worker.Follows feed begin whole read (stranger.step shared).2 :=
  follows.spared (step_agree apart permitted worker.metrics) halted_step

/-! ### Runs of both links -/

/-- What comes next in a run. -/
inductive Robot.Turn where
  /-- One step of one link. -/
  | link (name : FeedName)
  /-- The robot is shut down.  The rest of a shutdown only waits for the links. -/
  | halt
deriving DecidableEq, Repr

def Robot.take (robot : Robot ι) : Turn → Robot ι
  | .link name => robot.step name
  | .halt => robot.halt

def Robot.play (robot : Robot ι) (turns : List Turn) : Robot ι := turns.foldl take robot

theorem Robot.run_eq_play (robot : Robot ι) (schedule : List FeedName) :
    robot.run schedule = robot.play (schedule.map .link) := by
  rw [play, List.foldl_map]
  rfl

/-- What is known of a robot with both links at any moment of a run: who its second link is, how
much each link has read, and why they were told to stop. -/
structure Robot.Reached (robot : Robot ι) (begin : Context ι) (layouts : Layouts)
    (realtime primary : List Reception) (turns : List Turn) (worker : Worker)
    (realtimeRead primaryRead : List Reception) : Prop where
  primary_eq : robot.primary = some worker
  realtime : robot.realtime.Follows (.realtime layouts false) begin realtime realtimeRead
    robot.shared
  primary : worker.Follows (.primary layouts) begin primary primaryRead robot.shared
  halted : robot.shared.running = false → .halt ∈ turns ∨ Lost realtimeRead ∨ Lost primaryRead

theorem Worker.Follows.lost_whole (follows : worker.Follows feed begin whole read shared)
    (lost : Lost read) : Lost whole := by
  rw [follows.script, lost_append]
  exact .inl lost

/-- When nothing is left to do, what a link keeps is what it made of the receptions. -/
theorem Worker.Follows.kept (follows : worker.Follows feed begin whole read shared)
    (idle : worker.pending = []) :
    feed.ownership.Agree (shared.context, worker.metrics) (feed.account begin read) := by
  have agree := follows.agree
  rw [idle] at agree
  exact agree

theorem Worker.Follows.start (feed : Feed) (begin : Context ι) (script : List Reception) :
    ({ feed, script } : Worker).Follows feed begin script [] { context := begin } where
  feed_eq := rfl
  script := rfl
  permitted := by simp
  agree := .refl _ _
  cleared := by simp [Lost]
  lost := by simp [Lost]
  leaving := by simp [Lost]
  stopping := by simp
  ended := by simp

theorem apart_primary (layouts : Layouts) :
    (Feed.realtime layouts false).ownership.Apart (Feed.primary layouts).ownership := by
  constructor <;> simp [Feed.realtime, Feed.primary, Ownership.realtime, Ownership.primary]

theorem apart_realtime (layouts : Layouts) :
    (Feed.primary layouts).ownership.Apart (Feed.realtime layouts false).ownership := by
  constructor <;> simp [Feed.realtime, Feed.primary, Ownership.realtime, Ownership.primary]

namespace Robot

variable {robot : Robot ι} {layouts : Layouts}
  {realtime primary realtimeRead primaryRead : List Reception}

theorem Reached.step {turns : List Turn}
    (reached : robot.Reached begin layouts realtime primary turns worker realtimeRead primaryRead)
    (name : FeedName) :
    ∃ worker realtimeRead primaryRead,
      (robot.step name).Reached begin layouts realtime primary (turns ++ [.link name]) worker
        realtimeRead primaryRead := by
  have realtimeFeed := reached.realtime.feed_eq
  have primaryFeed := reached.primary.feed_eq
  cases name with
  | realtime =>
    obtain ⟨more, -, follows⟩ := reached.realtime.step
    refine ⟨worker, realtimeRead ++ more, primaryRead, reached.primary_eq, follows, ?_, ?_⟩
    · apply reached.primary.apart
      · rw [realtimeFeed]
        exact apart_realtime layouts
      · rw [realtimeFeed]
        exact reached.realtime.permitted
    · intro halted
      rw [lost_append]
      rcases reached.realtime.cause halted with before | lost
      · exact (reached.halted before).imp (List.mem_append_left _) (.imp_left .inl)
      · exact .inr (.inl (.inl lost))
  | primary =>
    obtain ⟨more, -, follows⟩ := reached.primary.step
    have step : robot.step .primary =
        { robot with
          primary := some (worker.step robot.shared).1
          shared := (worker.step robot.shared).2 } := by
      simp only [Robot.step, reached.primary_eq]
    rw [step]
    refine ⟨_, realtimeRead, primaryRead ++ more, rfl, ?_, follows, ?_⟩
    · apply reached.realtime.apart
      · rw [primaryFeed]
        exact apart_primary layouts
      · rw [primaryFeed]
        exact reached.primary.permitted
    · intro halted
      rw [lost_append]
      rcases reached.primary.cause halted with before | lost
      · exact (reached.halted before).imp (List.mem_append_left _) (.imp_right .inl)
      · exact .inr (.inr (.inl lost))

/-- Shutting the robot down touches nothing that a link keeps. -/
theorem Reached.halt {turns : List Turn}
    (reached : robot.Reached begin layouts realtime primary turns worker realtimeRead
      primaryRead) :
    robot.halt.Reached begin layouts realtime primary (turns ++ [.halt]) worker realtimeRead
      primaryRead where
  primary_eq := reached.primary_eq
  realtime := reached.realtime.spared (.refl _ _) fun _ => rfl
  primary := reached.primary.spared (.refl _ _) fun _ => rfl
  halted := fun _ => .inl (List.mem_append_right _ (List.mem_singleton_self _))

theorem Reached.take {turns : List Turn}
    (reached : robot.Reached begin layouts realtime primary turns worker realtimeRead primaryRead)
    (turn : Turn) :
    ∃ worker realtimeRead primaryRead,
      (robot.take turn).Reached begin layouts realtime primary (turns ++ [turn]) worker
        realtimeRead primaryRead := by
  cases turn with
  | link name => exact reached.step name
  | halt => exact ⟨worker, realtimeRead, primaryRead, reached.halt⟩

theorem Reached.play {turns : List Turn}
    (reached : robot.Reached begin layouts realtime primary turns worker realtimeRead primaryRead)
    (later : List Turn) :
    ∃ worker realtimeRead primaryRead,
      (robot.play later).Reached begin layouts realtime primary (turns ++ later) worker
        realtimeRead primaryRead := by
  induction later generalizing robot turns worker realtimeRead primaryRead with
  | nil =>
    rw [List.append_nil]
    exact ⟨worker, realtimeRead, primaryRead, reached⟩
  | cons turn later ih =>
    obtain ⟨worker, realtimeRead, primaryRead, reached⟩ := reached.take turn
    rw [List.append_cons]
    exact ih reached

/-- In every run, whatever the order of its steps and whenever the robot is shut down, each link
follows what it has read. -/
theorem reached_play (context : Context ι) (layouts : Layouts)
    (realtime primary : List Reception) (turns : List Turn) :
    ∃ worker realtimeRead primaryRead,
      ((Robot.start context layouts realtime (some primary)).play turns).Reached
        (context.setLayouts layouts) layouts realtime primary turns worker realtimeRead
        primaryRead := by
  have start : (Robot.start context layouts realtime (some primary)).Reached
      (context.setLayouts layouts) layouts realtime primary []
      { feed := .primary layouts, script := primary } [] [] :=
    ⟨rfl, .start _ _ realtime, .start _ _ primary, by simp [Robot.start]⟩
  exact start.play turns

end Robot

end ArmLink.Link
