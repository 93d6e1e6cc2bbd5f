import ArmLink.Link.Robot

/-!
Links that share one context and keep different parts of it.

A link makes accesses of three sorts: to the parts it keeps, to the time of the last feedback, and
to the running flag.  So what another link does leaves the parts of a link as they are
(`perform_apart`), and what a link is going to do to its own parts depends on nothing else
(`finish_agree`).

What a link has still to do is a list of accesses, which it makes one by one while others come in
between.  `finish` makes them all at once.  It is what a run of the link is compared with: to make
an access and then to finish is to finish (`finish_perform`), and to take in a reception and then to
finish is to process it (`finish_accept`).
-/

namespace ArmLink.Link

open Firmware Telemetry

variable {ι : Type}

/-! ### Parts of a context -/

namespace Ownership

/-- The accesses that a link makes which keeps these parts. -/
def Permits (ownership : Ownership) : Access → Prop
  | .noteFeedback | .stop => True
  | .storeJoints _ | .clearJoints => ownership.joints = true
  | .exchangeState _ | .notify _ | .clearState => ownership.state = true

/-- Contexts that have these parts in common, with equal counters.  To the state belongs what was
told of it. -/
structure Agree (ownership : Ownership) (one other : Context ι × Metrics) : Prop where
  joints : ownership.joints = true → one.1.joints = other.1.joints
  cell : ownership.state = true → one.1.cell = other.1.cell
  told : ownership.state = true → one.1.told = other.1.told
  notifier : ownership.state = true → one.1.notifier = other.1.notifier
  metrics : one.2 = other.2

/-- Nothing is kept by both. -/
structure Apart (one other : Ownership) : Prop where
  joints : one.joints = true → other.joints = false
  state : one.state = true → other.state = false

/-- Nothing is known of these parts. -/
structure Cleared (ownership : Ownership) (context : Context ι) : Prop where
  joints : ownership.joints = true → context.joints = none
  state : ownership.state = true → context.robotState = none

theorem Agree.refl (ownership : Ownership) (now : Context ι × Metrics) :
    ownership.Agree now now :=
  ⟨fun _ => rfl, fun _ => rfl, fun _ => rfl, fun _ => rfl, rfl⟩

theorem Agree.trans {ownership : Ownership} {one other third : Context ι × Metrics}
    (first : ownership.Agree one other) (second : ownership.Agree other third) :
    ownership.Agree one third where
  joints keeps := (first.joints keeps).trans (second.joints keeps)
  cell keeps := (first.cell keeps).trans (second.cell keeps)
  told keeps := (first.told keeps).trans (second.told keeps)
  notifier keeps := (first.notifier keeps).trans (second.notifier keeps)
  metrics := first.metrics.trans second.metrics

theorem permits_accesses (ownership : Ownership) (packet : Packet) :
    ∀ access ∈ ownership.accesses packet, ownership.Permits access := by
  intro access member
  rcases List.mem_cons.mp member with rfl | member
  · trivial
  rcases List.mem_append.mp member with inJoints | inState
  · split at inJoints
    · rename_i keeps
      split at inJoints
      · simp only [List.mem_cons, List.not_mem_nil, or_false] at inJoints
        rcases inJoints with rfl | rfl
        · exact keeps
        · trivial
      · cases inJoints
    · cases inJoints
  · split at inState
    · rename_i keeps
      split at inState
      · rw [List.mem_singleton.mp inState]
        exact keeps
      · cases inState
    · cases inState

theorem stop_not_mem_accesses (ownership : Ownership) (packet : Packet) :
    .stop ∉ ownership.accesses packet := by
  simp only [accesses, List.mem_cons, List.mem_append, reduceCtorEq, false_or, not_or]
  constructor
  · split
    · split <;> simp
    · simp
  · split
    · split <;> simp
    · simp

theorem permits_farewell (ownership : Ownership) :
    ∀ access ∈ ownership.farewell, ownership.Permits access := by
  intro access member
  simp only [farewell, List.mem_append, List.mem_ite_nil_right, List.mem_singleton] at member
  rcases member with (⟨keeps, rfl⟩ | ⟨keeps, rfl⟩) | rfl
  · exact keeps
  · exact keeps
  · trivial

theorem cleared_release (ownership : Ownership) (context : Context ι) :
    ownership.Cleared (ownership.release context) := by
  constructor
  · intro keeps
    unfold release
    rw [if_pos keeps]
    split <;> rfl
  · intro keeps
    unfold release
    rw [if_pos keeps]
    rfl

end Ownership

/-! ### Accesses without other links in between -/

/-- One access, and with a new state the telling of it. -/
def Access.effect (now : Context ι × Metrics) (access : Access) : Context ι × Metrics :=
  match access with
  | .noteFeedback => (now.1.noteFeedback, now.2)
  | .storeJoints feedback => (now.1.storeJoints feedback, now.2)
  | .exchangeState state =>
    ((now.1.updateState state).2,
      if (now.1.updateState state).1 then
        { now.2 with stateChanges := now.2.stateChanges + 1 }
      else now.2)
  | .notify state => (now.1.notify state, now.2)
  | .clearJoints => (now.1.clearJoints, now.2)
  | .clearState => (now.1.clearState, now.2)
  | .stop => now

def finish (accesses : List Access) (now : Context ι × Metrics) : Context ι × Metrics :=
  accesses.foldl Access.effect now

namespace Feed

/-- What a link makes of one reception. -/
def takeIn (feed : Feed) (now : Context ι × Metrics) (reception : Reception) :
    Context ι × Metrics :=
  match reception with
  | .ok bytes => (process feed bytes now.1 now.2).2
  | .error fault =>
    (if fault.isFatal then feed.ownership.release now.1 else now.1, now.2.countFault fault)

/-- What a link makes of some receptions if it is the only one. -/
def account (feed : Feed) (context : Context ι) (receptions : List Reception) :
    Context ι × Metrics :=
  receptions.foldl feed.takeIn (context, {})

end Feed

/-- A reception that ends its link. -/
def IsFatal (reception : Reception) : Prop :=
  ∃ fault, reception = .error fault ∧ fault.isFatal = true

@[simp] theorem not_isFatal_ok (bytes : List UInt8) : ¬ IsFatal (.ok bytes) := by simp [IsFatal]

@[simp] theorem isFatal_error (fault : Fault) : IsFatal (.error fault) ↔ fault.isFatal = true := by
  simp [IsFatal]

variable {feed : Feed} {ownership : Ownership} {worker : Worker} {shared : Shared ι}
  {one other now : Context ι × Metrics} {accesses : List Access} {access : Access}

/-! ### What an access depends on, and what it leaves alone -/

theorem exchangeState_eq (context : Context ι) (state : RobotState) :
    context.exchangeState state =
      (context.cell.state != some state, { context with cell := ⟨some state⟩ }) := rfl

theorem updateState_eq (context : Context ι) (state : RobotState) :
    context.updateState state =
      (context.cell.state != some state,
        { context with
          cell := ⟨some state⟩
          told := context.told ++
            if context.cell.state != some state then context.notifier.tell state else [] }) := by
  rw [Context.updateState, exchangeState_eq]
  generalize (context.cell.state != some state) = changed
  cases changed <;> simp [Context.notify]

theorem effect_agree (agree : ownership.Agree one other) (permitted : ownership.Permits access) :
    ownership.Agree (Access.effect one access) (Access.effect other access) := by
  cases access with
  | noteFeedback => exact ⟨agree.joints, agree.cell, agree.told, agree.notifier, agree.metrics⟩
  | storeJoints feedback =>
    exact ⟨fun _ => rfl, agree.cell, agree.told, agree.notifier, agree.metrics⟩
  | exchangeState state =>
    have cell := agree.cell permitted
    simp only [Access.effect, updateState_eq, cell, agree.metrics]
    refine ⟨agree.joints, fun _ => rfl, fun keeps => ?_, agree.notifier, rfl⟩
    simp only [agree.told keeps, agree.notifier keeps]
  | notify state =>
    refine ⟨agree.joints, agree.cell, fun keeps => ?_, agree.notifier, agree.metrics⟩
    simp only [Access.effect, Context.notify, agree.told keeps, agree.notifier keeps]
  | clearJoints => exact ⟨fun _ => rfl, agree.cell, agree.told, agree.notifier, agree.metrics⟩
  | clearState => exact ⟨agree.joints, fun _ => rfl, agree.told, agree.notifier, agree.metrics⟩
  | stop => exact agree

/-- What is made of the parts kept depends on these parts alone. -/
theorem finish_agree (agree : ownership.Agree one other)
    (permitted : ∀ access ∈ accesses, ownership.Permits access) :
    ownership.Agree (finish accesses one) (finish accesses other) := by
  induction accesses generalizing one other with
  | nil => exact agree
  | cons access later ih =>
    obtain ⟨allowed, laterAllowed⟩ := List.forall_mem_cons.mp permitted
    exact ih (effect_agree agree allowed) laterAllowed

theorem perform_exchange (worker : Worker) (state : RobotState) (shared : Shared ι) :
    worker.perform (.exchangeState state) shared =
      (if shared.context.cell.state != some state then
          { worker with
            pending := .notify state :: worker.pending
            metrics := { worker.metrics with stateChanges := worker.metrics.stateChanges + 1 } }
        else worker,
        { shared with context := { shared.context with cell := ⟨some state⟩ } }) := by
  rw [Worker.perform, exchangeState_eq]
  generalize (shared.context.cell.state != some state) = changed
  cases changed <;> rfl

theorem perform_joints (worker : Worker) (shared : Shared ι) (permitted : ownership.Permits access)
    (foreign : ownership.joints = false) :
    (worker.perform access shared).2.context.joints = shared.context.joints := by
  cases access with
  | storeJoints feedback => exact absurd permitted (by simp [Ownership.Permits, foreign])
  | clearJoints => exact absurd permitted (by simp [Ownership.Permits, foreign])
  | exchangeState state => rw [perform_exchange]
  | _ => rfl

theorem perform_state (worker : Worker) (shared : Shared ι) (permitted : ownership.Permits access)
    (foreign : ownership.state = false) :
    (worker.perform access shared).2.context.cell = shared.context.cell ∧
      (worker.perform access shared).2.context.told = shared.context.told := by
  cases access with
  | exchangeState state => exact absurd permitted (by simp [Ownership.Permits, foreign])
  | notify state => exact absurd permitted (by simp [Ownership.Permits, foreign])
  | clearState => exact absurd permitted (by simp [Ownership.Permits, foreign])
  | _ => exact ⟨rfl, rfl⟩

theorem perform_notifier (worker : Worker) (access : Access) (shared : Shared ι) :
    (worker.perform access shared).2.context.notifier = shared.context.notifier := by
  cases access with
  | exchangeState state => rw [perform_exchange]
  | _ => rfl

/-- An access of another link leaves the parts kept as they are. -/
theorem perform_apart {stranger : Ownership} (apart : ownership.Apart stranger)
    (permitted : stranger.Permits access) (metrics : Metrics) :
    ownership.Agree ((worker.perform access shared).2.context, metrics)
      (shared.context, metrics) where
  joints keeps := perform_joints worker shared permitted (apart.joints keeps)
  cell keeps := (perform_state worker shared permitted (apart.state keeps)).1
  told keeps := (perform_state worker shared permitted (apart.state keeps)).2
  notifier _ := perform_notifier worker access shared
  metrics := rfl

/-! ### One step of a link -/

theorem perform_running (worker : Worker) (access : Access) (shared : Shared ι) :
    (worker.perform access shared).2.running = (shared.running && !(access matches .stop)) := by
  cases access with
  | exchangeState state => rw [perform_exchange]; simp
  | _ => simp [Worker.perform]

/-- An access changes only what the link has still to do and its counters. -/
theorem perform_worker (worker : Worker) (access : Access) (shared : Shared ι) :
    ∃ metrics, (worker.perform access shared).1 =
        { worker with pending := (worker.perform access shared).1.pending, metrics } ∧
      ((worker.perform access shared).1.pending = worker.pending ∨
        ∃ state, access = .exchangeState state ∧
          (worker.perform access shared).1.pending = .notify state :: worker.pending) := by
  cases access with
  | exchangeState state =>
    rw [perform_exchange]
    cases shared.context.cell.state != some state with
    | false => exact ⟨_, rfl, .inl rfl⟩
    | true => exact ⟨_, rfl, .inr ⟨state, rfl, rfl⟩⟩
  | _ => exact ⟨_, rfl, .inl rfl⟩

/-- Making an access and finishing comes to the same as finishing. -/
theorem finish_perform (worker : Worker) (access : Access) (shared : Shared ι) :
    finish (worker.perform access shared).1.pending
        ((worker.perform access shared).2.context, (worker.perform access shared).1.metrics) =
      finish (access :: worker.pending) (shared.context, worker.metrics) := by
  cases access with
  | exchangeState state =>
    simp only [perform_exchange, finish, List.foldl_cons, Access.effect, updateState_eq]
    cases shared.context.cell.state != some state with
    | false => simp
    | true => rfl
  | _ => rfl

theorem finish_reported {α : Type} (outcome : α) (context : Context ι) (metrics : Metrics)
    (state : Bool) (reported : Option RobotState) :
    finish (if state then
        match reported with
        | some state => [.exchangeState state]
        | none => []
      else []) (context, metrics) =
      (if state then
        match reported with
        | some state =>
          match context.updateState state with
          | (true, context) =>
            (outcome, context, { metrics with stateChanges := metrics.stateChanges + 1 })
          | (false, context) => (outcome, context, metrics)
        | none => (outcome, context, metrics)
      else (outcome, context, metrics)).2 := by
  cases state with
  | false => rfl
  | true =>
    cases reported with
    | none => rfl
    | some reported =>
      simp only [if_true, finish, List.foldl_cons, List.foldl_nil, Access.effect]
      generalize context.updateState reported = answer
      obtain ⟨changed, context⟩ := answer
      cases changed <;> rfl

/-- The accesses of a packet are those of its processing. -/
theorem finish_accesses {bytes : List UInt8} {packet : Packet}
    (read : feed.strategy.parseBytes bytes = .ok packet) (context : Context ι)
    (metrics : Metrics) :
    finish (feed.ownership.accesses packet) (context, metrics.count (.ok packet)) =
      (process feed bytes context metrics).2 := by
  simp only [finish, Ownership.accesses, process, read, List.foldl_cons, List.foldl_append]
  cases feed.ownership.joints with
  | false => exact finish_reported ..
  | true => cases JointFeedback.ofPacket? packet <;> exact finish_reported ..

theorem finish_farewell (ownership : Ownership) (context : Context ι) (metrics : Metrics) :
    finish ownership.farewell (context, metrics) = (ownership.release context, metrics) := by
  obtain ⟨joints, state⟩ := ownership
  cases joints <;> cases state <;> rfl

/-- What a link schedules for a reception, together with what it counts, is what it makes of the
reception on its own. -/
theorem finish_accept (worker : Worker) (idle : worker.pending = []) (context : Context ι)
    (reception : Reception) :
    finish (worker.accept reception).pending (context, (worker.accept reception).metrics) =
      worker.feed.takeIn (context, worker.metrics) reception := by
  cases reception with
  | ok bytes =>
    simp only [Worker.accept, Feed.takeIn]
    cases read : worker.feed.strategy.parseBytes bytes with
    | ok packet => exact finish_accesses read context worker.metrics
    | error fault => simp only [process, read]; rfl
  | error fault =>
    simp only [Worker.accept, Feed.takeIn]
    cases fault.isFatal with
    | false => simp only [Bool.false_eq_true, if_false, idle]; rfl
    | true => exact finish_farewell worker.feed.ownership context _

theorem permits_accept (worker : Worker) (idle : worker.pending = []) (reception : Reception) :
    ∀ access ∈ (worker.accept reception).pending, worker.feed.ownership.Permits access := by
  cases reception with
  | ok bytes =>
    simp only [Worker.accept]
    cases worker.feed.strategy.parseBytes bytes with
    | ok packet => exact worker.feed.ownership.permits_accesses packet
    | error fault => simp
  | error fault =>
    simp only [Worker.accept]
    split
    · exact worker.feed.ownership.permits_farewell
    · simp [idle]

theorem stop_mem_accept (worker : Worker) (idle : worker.pending = []) (reception : Reception) :
    .stop ∈ (worker.accept reception).pending ↔ IsFatal reception := by
  cases reception with
  | ok bytes =>
    simp only [Worker.accept, not_isFatal_ok, iff_false]
    cases worker.feed.strategy.parseBytes bytes with
    | ok packet => exact worker.feed.ownership.stop_not_mem_accesses packet
    | error fault => simp
  | error fault =>
    cases fatal : fault.isFatal <;> simp [Worker.accept, Ownership.farewell, fatal, idle]

theorem ended_accept (worker : Worker) (reception : Reception) :
    (worker.accept reception).phase = .ended ↔ IsFatal reception := by
  cases reception with
  | ok bytes => simp [Worker.accept]
  | error fault => cases fatal : fault.isFatal <;> simp [Worker.accept, fatal]

theorem accept_kept (worker : Worker) (reception : Reception) :
    (worker.accept reception).feed = worker.feed ∧
      (worker.accept reception).script = worker.script := by
  cases reception with
  | ok bytes => exact ⟨rfl, rfl⟩
  | error fault => cases fatal : fault.isFatal <;> simp [Worker.accept, fatal]

theorem cleared_takeIn {reception : Reception} (fatal : IsFatal reception)
    (now : Context ι × Metrics) : feed.ownership.Cleared (feed.takeIn now reception).1 := by
  obtain ⟨fault, rfl, fatal⟩ := fatal
  simp only [Feed.takeIn, fatal, if_true]
  exact feed.ownership.cleared_release now.1

/-- What a link makes of a reception depends on the parts it keeps alone. -/
theorem takeIn_agree (agree : feed.ownership.Agree one other) (reception : Reception) :
    feed.ownership.Agree (feed.takeIn one reception) (feed.takeIn other reception) := by
  let link : Worker := { feed, script := [], metrics := one.2 }
  have idle : link.pending = [] := rfl
  have left := finish_accept link idle one.1 reception
  have right := finish_accept link idle other.1 reception
  have same : other = (other.1, link.metrics) := Prod.ext rfl agree.metrics.symm
  rw [same, ← right, ← left]
  apply finish_agree _ (permits_accept link idle reception)
  exact ⟨agree.joints, agree.cell, agree.told, agree.notifier, rfl⟩

end ArmLink.Link
