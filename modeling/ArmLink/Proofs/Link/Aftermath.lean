import ArmLink.Proofs.Link.Interleaving

/-!
What two links leave behind when both have ended.

Unless the robot was shut down, both links end only after a fatal fault on one of them.  A link that
was lost has taken back what it kept: without the realtime link there are no joints, and without the
primary link there is no state, so that joints and state are never both left once a link was lost.
A link that ended because it found the running flag cleared takes nothing back, and what it kept
stays as its last packet left it; when the robot was only shut down, this is so of both.

Main statement: `aftermath_of_ended`.  That something can be left at all is `state_left_behind`.
-/

namespace ArmLink.Link

open Firmware Telemetry

variable {ι : Type} {feed : Feed} {worker : Worker} {shared : Shared ι} {begin : Context ι}
  {whole read : List Reception} {robot : Robot ι} {layouts : Layouts}

/-- Whether both links have ended, with nothing left to do. -/
def Robot.hasEnded (robot : Robot ι) : Bool :=
  robot.realtime.isFinished && (robot.primary.map (·.isFinished)).getD true

/-- What is left of two links that read so much of their receptions. -/
structure Robot.Aftermath (robot : Robot ι) (begin : Context ι) (layouts : Layouts)
    (turns : List Turn) (realtimeRead primaryRead : List Reception) : Prop where
  /-- If nobody shut the robot down, one of its links was lost. -/
  cause : .halt ∉ turns → Lost realtimeRead ∨ Lost primaryRead
  halted : robot.shared.running = false
  joints : Lost realtimeRead → robot.shared.context.joints = none
  state : Lost primaryRead → robot.shared.context.robotState = none
  notBoth : Lost realtimeRead ∨ Lost primaryRead →
    robot.shared.context.joints = none ∨ robot.shared.context.robotState = none
  /-- The joints of a link that was not lost are those that it left. -/
  jointsLeft : ¬ Lost realtimeRead → robot.shared.context.joints =
    ((Feed.realtime layouts false).alone begin realtimeRead).1.joints
  stateLeft : ¬ Lost primaryRead → robot.shared.context.robotState =
    ((Feed.primary layouts).alone begin primaryRead).1.robotState
  /-- Nothing changes any more. -/
  lasting : ∀ more, robot.play more = robot

theorem finished_iff (worker : Worker) :
    worker.isFinished = true ↔ worker.phase = .ended ∧ worker.pending = [] := by
  simp [Worker.isFinished]

theorem step_of_finished (finished : worker.isFinished = true) (shared : Shared ι) :
    worker.step shared = (worker, shared) := by
  obtain ⟨phase, idle⟩ := (finished_iff worker).mp finished
  exact step_of_resting ((resting_iff worker).mpr ⟨idle, .inl phase⟩) shared

theorem Robot.play_of_finished (realtime : robot.realtime.isFinished = true)
    (second : robot.primary = some worker) (primary : worker.isFinished = true)
    (halted : robot.shared.running = false) (turns : List Turn) : robot.play turns = robot := by
  induction turns with
  | nil => rfl
  | cons turn later ih =>
    have still : robot.take turn = robot := by
      cases turn with
      | halt => rw [take, halt, ← halted]
      | link name =>
        cases name with
        | realtime => rw [take, Robot.step, step_of_finished realtime]
        | primary => simp only [take, Robot.step, second, step_of_finished primary]; rw [← second]
    rw [play, List.foldl_cons, still]
    exact ih

/-- A link that was lost is done only when it has cleared the running flag. -/
theorem Worker.Follows.halted_of_lost (follows : worker.Follows feed begin whole read shared)
    (idle : worker.pending = []) (lost : Lost read) : shared.running = false := by
  rcases follows.leaving lost with ahead | halted
  · simp [idle] at ahead
  · exact halted

theorem Robot.Reached.aftermath {realtime primary realtimeRead primaryRead : List Reception}
    {turns : List Turn}
    (reached : robot.Reached begin layouts realtime primary turns worker realtimeRead primaryRead)
    (ended : robot.hasEnded = true) :
    robot.Aftermath begin layouts turns realtimeRead primaryRead := by
  rw [hasEnded, reached.primary_eq, Option.map_some, Option.getD_some, Bool.and_eq_true] at ended
  obtain ⟨realtimePhase, realtimeIdle⟩ := (finished_iff _).mp ended.1
  obtain ⟨primaryPhase, primaryIdle⟩ := (finished_iff _).mp ended.2
  have realtimeKept := reached.realtime.kept realtimeIdle
  have primaryKept := reached.primary.kept primaryIdle
  have halted : robot.shared.running = false := by
    rcases reached.realtime.ended realtimePhase with lost | halted
    · exact reached.realtime.halted_of_lost realtimeIdle lost
    · exact halted
  have joints : Lost realtimeRead → robot.shared.context.joints = none := by
    intro lost
    rw [realtimeKept.joints rfl]
    exact (reached.realtime.cleared lost).joints rfl
  have state : Lost primaryRead → robot.shared.context.robotState = none := by
    intro lost
    rw [Context.robotState, primaryKept.cell rfl]
    exact (reached.primary.cleared lost).state rfl
  exact
    { halted
      joints
      state
      cause := (reached.halted halted).resolve_left
      notBoth := .imp joints state
      jointsLeft := by
        intro harmless
        rw [realtimeKept.joints rfl, account_harmless _ _ harmless]
      stateLeft := by
        intro harmless
        rw [Context.robotState, primaryKept.cell rfl, account_harmless _ _ harmless]
        rfl
      lasting := play_of_finished ended.1 reached.primary_eq ended.2 halted }

/-- In whatever order the links made their steps, and whenever the robot was shut down: when both
links have ended, a lost link has left nothing of what it kept, and the other what it had made of
its receptions. -/
theorem aftermath_of_ended (context : Context ι) (layouts : Layouts)
    (realtime primary : List Reception) (turns : List Robot.Turn)
    (ended : ((Robot.start context layouts realtime (some primary)).play turns).hasEnded = true) :
    ∃ worker realtimeRead primaryRead,
      ((Robot.start context layouts realtime (some primary)).play turns).primary = some worker ∧
      realtime = realtimeRead ++
        ((Robot.start context layouts realtime (some primary)).play turns).realtime.script ∧
      primary = primaryRead ++ worker.script ∧
      ((Robot.start context layouts realtime (some primary)).play turns).Aftermath
        (context.setLayouts layouts) layouts turns realtimeRead primaryRead := by
  obtain ⟨worker, realtimeRead, primaryRead, reached⟩ :=
    Robot.reached_play context layouts realtime primary turns
  exact ⟨worker, realtimeRead, primaryRead, reached.primary_eq, reached.realtime.script,
    reached.primary.script, reached.aftermath ended⟩

/-! ### A run that leaves a state -/

/-- A state snapshot of a controller that runs: a mode report and nothing else. -/
def runningReport : List UInt8 :=
  [0, 0, 0, 51, 16] ++ [0, 0, 0, 46, 0] ++ List.replicate 8 0 ++ [1, 1, 1, 0, 0, 1, 0, 7] ++
    List.replicate 25 0

/-- The layouts of firmware 3.2. -/
def recentLayouts : Layouts :=
  { firmware := { major := 3, minor := 2, patch := 0 }, realtime := .v3_2, state := .v3_2 }

/-- Six steps of the primary link, four of the realtime link, and two of the primary link. -/
def closingTurns : List Robot.Turn :=
  List.replicate 6 (.link .primary) ++ List.replicate 4 (.link .realtime) ++
    List.replicate 2 (.link .primary)

/-- The primary link brings a state and waits again; then the realtime link is closed. -/
def closedRealtime : Robot Listener :=
  (Robot.start { telemetryTimeout := .ofParts 1 0 } recentLayouts [.error .closed]
    (some [.ok runningReport, .error .timeout])).play closingTurns

theorem aftermath_of_closedRealtime :
    closedRealtime.hasEnded = true ∧
      ∃ worker realtimeRead primaryRead,
        closedRealtime.primary = some worker ∧
        [.error .closed] = realtimeRead ++ closedRealtime.realtime.script ∧
        [.ok runningReport, .error .timeout] = primaryRead ++ worker.script ∧
        closedRealtime.Aftermath
          (Context.setLayouts { telemetryTimeout := .ofParts 1 0 } recentLayouts) recentLayouts
          closingTurns realtimeRead primaryRead :=
  ⟨by decide +kernel, aftermath_of_ended _ _ _ _ _ (by decide +kernel)⟩

/-- It is not so that nothing is left once a fatal fault has made both links end, with nobody
shutting the robot down: the state of a link that was not lost stays. -/
theorem state_left_behind :
    ¬ ∀ (context : Context Listener) (layouts : Layouts) (realtime primary : List Reception)
        (turns : List Robot.Turn) (worker : Worker) (realtimeRead primaryRead : List Reception),
      .halt ∉ turns →
      ((Robot.start context layouts realtime (some primary)).play turns).hasEnded = true →
      ((Robot.start context layouts realtime (some primary)).play turns).primary = some worker →
      realtime = realtimeRead ++
        ((Robot.start context layouts realtime (some primary)).play turns).realtime.script →
      primary = primaryRead ++ worker.script →
      Lost realtimeRead ∨ Lost primaryRead →
      ((Robot.start context layouts realtime (some primary)).play turns).shared.context.joints =
          none ∧
        ((Robot.start context layouts realtime
          (some primary)).play turns).shared.context.robotState = none := by
  intro nothingLeft
  have ended : closedRealtime.hasEnded = true := by decide +kernel
  have left : closedRealtime.shared.context.robotState = some .running := by decide +kernel
  have unread : closedRealtime.realtime.script = [] := by decide +kernel
  obtain ⟨worker, realtimeRead, primaryRead, (reached : closedRealtime.Reached _ _ _ _ _ _ _ _)⟩ :=
    Robot.reached_play (ι := Listener) { telemetryTimeout := .ofParts 1 0 } recentLayouts
      [.error .closed] [.ok runningReport, .error .timeout] closingTurns
  have read : realtimeRead = [.error .closed] := by
    have script := reached.realtime.script
    rw [unread, List.append_nil] at script
    exact script.symm
  have lost : Lost realtimeRead := by
    rw [read]
    exact (lost_singleton _).mpr ((isFatal_error _).mpr rfl)
  have forgotten := (nothingLeft _ _ _ _ _ _ _ _ (by decide) ended reached.primary_eq
    reached.realtime.script reached.primary.script (.inl lost)).2
  rw [← closedRealtime, left] at forgotten
  cases forgotten

end ArmLink.Link
