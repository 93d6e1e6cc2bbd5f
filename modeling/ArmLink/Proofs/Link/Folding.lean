import ArmLink.Proofs.Link.Accounting
import ArmLink.Proofs.Link.Aftermath
import ArmLink.Proofs.Link.Commuting

/-!
A link is the fold of its receptions.

A link on its own takes in what comes before the first fatal fault: it processes the packets in
order and counts the faults.  At the fatal fault it takes back what it keeps, clears the running
flag and leaves the rest unread (`folded_of_firstFatal`).

Made step by step, with nobody else at work, this comes to the same (`prospect_of_alone`).  The
argument is that what a link is still going to leave stays the same from step to step
(`prospect_step`).

Among others (`Worker.Amid`) the order of the steps is open, and between two of them others may do
whatever they like to the parts that the link does not keep, and clear the running flag.  What is
known then is `Worker.Follows`.  That invariant speaks of what the listeners were told, so that it
is kept only while nobody else tells them anything and nobody joins them.  For a run in which
listeners come and go it is used with all listeners left out (`Shared.unheard`): a link does the
same whether anybody listens or not (`Worker.Amid.unheard`).

Main statement: `folding_of_receptions`.
-/

namespace ArmLink.Link

open Firmware Telemetry

variable {ι : Type} {feed : Feed} {ownership : Ownership} {worker : Worker} {shared : Shared ι}
  {begin : Context ι} {script read before after : List Reception} {fault : Fault}

/-! ### The fold -/

/-- The packets among some receptions. -/
def packetsIn (receptions : List Reception) : List (List UInt8) :=
  receptions.filterMap (·.toOption)

/-- Whether nothing came in time. -/
def hasTimedOut : Reception → Bool
  | .ok _ => false
  | .error fault => fault.isTimeout

/-- Whether receiving failed in any other way. -/
def hasFailed : Reception → Bool
  | .ok _ => false
  | .error fault => !fault.isTimeout

def Metrics.addFaults (metrics : Metrics) (timeouts readErrors : Nat) : Metrics :=
  { metrics with
    timeouts := metrics.timeouts + timeouts
    readErrors := metrics.readErrors + readErrors }

/-- What processing some packets one after the other makes of a context and of its counters. -/
def Feed.processAll (feed : Feed) (now : Context ι × Metrics) (packets : List (List UInt8)) :
    Context ι × Metrics :=
  packets.foldl (fun now bytes => (process feed bytes now.1 now.2).2) now

/-- The fault is the first fatal one in a script. -/
structure FirstFatal (script before : List Reception) (fault : Fault) (after : List Reception) :
    Prop where
  split : script = before ++ .error fault :: after
  harmless : ¬ Lost before
  fatal : fault.isFatal = true

/-- What a link on its own leaves when it is lost behind these receptions. -/
structure Folded (feed : Feed) (begin : Context ι) (metrics : Metrics)
    (before after : List Reception) (left : Ingested ι) : Prop where
  unread : left.unread = after
  halted : left.shared.running = false
  counted : left.metrics =
    (feed.processAll (begin, metrics) (packetsIn before)).2.addFaults
      (before.countP hasTimedOut) (before.countP hasFailed + 1)
  /-- What the link keeps is taken back and what it does not keep was never touched.  All else is
  as the packets left it, so that nobody is told of the loss. -/
  context : left.shared.context =
    { (feed.processAll (begin, metrics) (packetsIn before)).1 with
      joints := if feed.ownership.joints then none else begin.joints
      cell := if feed.ownership.state then {} else begin.cell }

theorem process_addFaults (feed : Feed) (bytes : List UInt8) (context : Context ι)
    (metrics : Metrics) (timeouts readErrors : Nat) :
    (process feed bytes context (metrics.addFaults timeouts readErrors)).2 =
      ((process feed bytes context metrics).2.1,
        (process feed bytes context metrics).2.2.addFaults timeouts readErrors) := by
  rw [process_eq, process_eq, count_eq, count_eq]
  rfl

/-- Packets are processed without regard to the faults counted so far. -/
theorem processAll_addFaults (feed : Feed) (now : Context ι × Metrics) (timeouts readErrors : Nat)
    (packets : List (List UInt8)) :
    feed.processAll (now.1, now.2.addFaults timeouts readErrors) packets =
      ((feed.processAll now packets).1,
        (feed.processAll now packets).2.addFaults timeouts readErrors) := by
  induction packets generalizing now with
  | nil => rfl
  | cons bytes later ih =>
    simp only [Feed.processAll, List.foldl_cons] at ih ⊢
    rw [process_addFaults]
    exact ih _

theorem countFault_eq (metrics : Metrics) (fault : Fault) :
    metrics.countFault fault =
      metrics.addFaults (if hasTimedOut (.error fault) then 1 else 0)
        (if hasFailed (.error fault) then 1 else 0) := by
  cases timeout : fault.isTimeout <;>
    simp [Metrics.countFault, Metrics.addFaults, hasTimedOut, hasFailed, timeout]

theorem addFaults_addFaults (metrics : Metrics) (timeouts readErrors more others : Nat) :
    (metrics.addFaults timeouts readErrors).addFaults more others =
      metrics.addFaults (more + timeouts) (others + readErrors) := by
  simp only [Metrics.addFaults, Nat.add_assoc, Nat.add_comm more, Nat.add_comm others]

/-- Receptions without a fatal fault come to their packets, processed in order, and a count of
their faults. -/
theorem foldl_takeIn (feed : Feed) (now : Context ι × Metrics) {receptions : List Reception}
    (harmless : ¬ Lost receptions) :
    receptions.foldl feed.takeIn now =
      ((feed.processAll now (packetsIn receptions)).1,
        (feed.processAll now (packetsIn receptions)).2.addFaults (receptions.countP hasTimedOut)
          (receptions.countP hasFailed)) := by
  induction receptions generalizing now with
  | nil => rfl
  | cons reception later ih =>
    rw [lost_cons, not_or] at harmless
    rw [List.foldl_cons, ih _ harmless.2, List.countP_cons, List.countP_cons]
    cases reception with
    | ok bytes => rfl
    | error fault =>
      have taken : feed.takeIn now (.error fault) = (now.1, now.2.countFault fault) := by
        simp only [Feed.takeIn, if_neg ((isFatal_error fault).not.mp harmless.1)]
      have same : packetsIn (.error fault :: later) = packetsIn later := rfl
      rw [taken, same, countFault_eq, processAll_addFaults, addFaults_addFaults]

theorem ite_of_unchanged {α : Type} {keeps : Bool} {now was : α}
    (unchanged : keeps = false → now = was) (cleared : α) :
    (if keeps then cleared else was) = if keeps then cleared else now := by
  cases keeps with
  | true => rfl
  | false => exact (unchanged rfl).symm

/-- To take back what a link keeps leaves the rest as it was before the link began. -/
theorem release_eq (ownership : Ownership) {context : Context ι}
    (joints : ownership.joints = false → context.joints = begin.joints)
    (cell : ownership.state = false → context.cell = begin.cell) :
    ownership.release context =
      { context with
        joints := if ownership.joints then none else begin.joints
        cell := if ownership.state then {} else begin.cell } := by
  rw [ite_of_unchanged joints, ite_of_unchanged cell, Ownership.release]
  cases ownership.joints <;> cases ownership.state <;> rfl

theorem joints_processAll (foreign : feed.ownership.joints = false) (now : Context ι × Metrics)
    (packets : List (List UInt8)) : (feed.processAll now packets).1.joints = now.1.joints := by
  induction packets generalizing now with
  | nil => rfl
  | cons bytes later ih => exact (ih _).trans (joints_handle foreign now (.packet bytes))

theorem robotState_processAll (foreign : feed.ownership.state = false)
    (now : Context ι × Metrics) (packets : List (List UInt8)) :
    (feed.processAll now packets).1.robotState = now.1.robotState := by
  induction packets generalizing now with
  | nil => rfl
  | cons bytes later ih => exact (ih _).trans (state_handle foreign now (.packet bytes)).1

/-- A fatal fault behind harmless receptions. -/
theorem takeIn_fatal (feed : Feed) (now : Context ι × Metrics) (harmless : ¬ Lost before)
    (fatal : fault.isFatal = true) :
    feed.takeIn (before.foldl feed.takeIn now) (.error fault) =
      (feed.ownership.release (feed.processAll now (packetsIn before)).1,
        (feed.processAll now (packetsIn before)).2.addFaults (before.countP hasTimedOut)
          (before.countP hasFailed + 1)) := by
  have noTimeout : fault.isTimeout = false := by
    cases fault with
    | timeout => cases fatal
    | _ => rfl
  have counts : ∀ metrics : Metrics, metrics.countFault fault = metrics.addFaults 0 1 := by
    intro metrics
    rw [countFault_eq]
    simp [hasTimedOut, hasFailed, noTimeout]
  rw [foldl_takeIn feed now harmless]
  simp only [Feed.takeIn, if_pos fatal, counts, addFaults_addFaults, Nat.zero_add, Nat.add_comm 1]

theorem folded_of_firstFatal (feed : Feed) (begin : Context ι) (metrics : Metrics)
    (first : FirstFatal script before fault after) :
    Folded feed begin metrics before after (ingest feed { context := begin } metrics script) := by
  have fatal : IsFatal (.error fault) := (isFatal_error fault).mpr first.fatal
  rw [first.split, ingest_append feed rfl metrics first.harmless,
    (ingest_cons feed rfl _ (.error fault) after).1 fatal,
    takeIn_fatal feed _ first.harmless first.fatal]
  refine ⟨rfl, rfl, rfl, ?_⟩
  exact release_eq _ (fun foreign => joints_processAll foreign _ _)
    fun foreign => congrArg StateCell.mk (robotState_processAll foreign _ _)

/-! ### Among others -/

/-- A link after so many of its steps, with what is shared, if others did in between what their rule
allows. -/
inductive Worker.Amid (others : Shared ι → Shared ι → Prop) (worker : Worker) (shared : Shared ι) :
    Nat → Worker → Shared ι → Prop
  | start : Amid others worker shared 0 worker shared
  | own {steps : Nat} {now : Worker} {sharedNow : Shared ι}
      (earlier : Amid others worker shared steps now sharedNow) :
      Amid others worker shared (steps + 1) (now.step sharedNow).1 (now.step sharedNow).2
  | foreign {steps : Nat} {now : Worker} {sharedNow next : Shared ι}
      (earlier : Amid others worker shared steps now sharedNow) (allowed : others sharedNow next) :
      Amid others worker shared steps now next

/-- A link among others that begins with nothing read. -/
abbrev Feed.Amid (feed : Feed) (others : Shared ι → Shared ι → Prop) (begin : Context ι)
    (script : List Reception) : Nat → Worker → Shared ι → Prop :=
  Worker.Amid others { feed, script } { context := begin }

/-- What others may do next to a link: anything but write what it keeps and raise the running
flag. -/
structure Ownership.Spared (ownership : Ownership) (now next : Shared ι) : Prop where
  joints : ownership.joints = true → next.context.joints = now.context.joints
  state : ownership.state = true → next.context.robotState = now.context.robotState
  halted : now.running = false → next.running = false

/-- Nor do they clear the running flag. -/
structure Ownership.SparedRunning (ownership : Ownership) (now next : Shared ι) : Prop
    extends ownership.Spared now next where
  running : next.running = now.running

/-- Nor do they tell the listeners anything, or join them. -/
structure Ownership.SparedTelling (ownership : Ownership) (now next : Shared ι) : Prop
    extends ownership.Spared now next where
  told : ownership.state = true → next.context.told = now.context.told
  notifier : ownership.state = true → next.context.notifier = now.context.notifier

/-- Nobody else is at work. -/
def nobody (_ _ : Shared ι) : Prop := False

variable {others : Shared ι → Shared ι → Prop} {steps : Nat}

/-- What is known of a link among others that has read so much. -/
structure Worker.Reads (worker : Worker) (feed : Feed) (begin : Context ι)
    (script read : List Reception) (others : Shared ι → Shared ι → Prop) (shared : Shared ι) :
    Prop where
  follows : worker.Follows feed begin script read shared
  /-- Nothing is read behind a fatal fault. -/
  last : ¬ Lost read.dropLast
  cause : (∀ now next, others now next → next.running = now.running) →
    shared.running = false → Lost read

theorem Worker.Reads.step (reads : worker.Reads feed begin script read others shared) :
    ∃ more, (worker.step shared).1.Reads feed begin script (read ++ more) others
      (worker.step shared).2 := by
  obtain ⟨more, atMost, follows⟩ := reads.follows.step
  refine ⟨more, follows, ?_, ?_⟩
  · rcases atMost with rfl | ⟨reception, rfl, notLost⟩
    · rw [List.append_nil]
      exact reads.last
    · rw [List.dropLast_concat]
      exact notLost
  · intro steady halted
    rw [lost_append]
    left
    rcases reads.follows.cause halted with before | lost
    · exact reads.cause steady before
    · exact lost

theorem Worker.Reads.foreign {next : Shared ι}
    (reads : worker.Reads feed begin script read others shared)
    (spared : feed.ownership.SparedTelling shared next) (allowed : others shared next) :
    worker.Reads feed begin script read others next where
  follows := by
    apply reads.follows.spared _ spared.halted
    exact ⟨spared.joints, fun keeps => congrArg StateCell.mk (spared.state keeps), spared.told,
      spared.notifier, rfl⟩
  last := reads.last
  cause := by
    intro steady halted
    exact reads.cause steady ((steady shared next allowed).symm.trans halted)

/-- A link among others who keep to the rule follows what it has read. -/
theorem reads_of_amid
    (spared : ∀ now next, others now next → feed.ownership.SparedTelling now next)
    (amid : feed.Amid others begin script steps worker shared) :
    ∃ read, worker.Reads feed begin script read others shared := by
  induction amid with
  | start =>
    refine ⟨[], .start feed begin script, by simp [Lost], ?_⟩
    intro steady halted
    cases halted
  | own earlier ih =>
    obtain ⟨read, reads⟩ := ih
    obtain ⟨more, reads⟩ := reads.step
    exact ⟨read ++ more, reads⟩
  | foreign earlier allowed ih =>
    obtain ⟨read, reads⟩ := ih
    exact ⟨read, reads.foreign (spared _ _ allowed) allowed⟩

/-! ### Without listeners -/

/-- The context with nobody listening, and nothing told so far. -/
def Context.unheard (context : Context ι) : Context ι := { context with notifier := {}, told := [] }

def Shared.unheard (shared : Shared ι) : Shared ι :=
  { shared with context := shared.context.unheard }

/-- What others do, with nobody listening. -/
def Unheard (others : Shared ι → Shared ι → Prop) (now next : Shared ι) : Prop :=
  ∃ nowHeard nextHeard, others nowHeard nextHeard ∧ nowHeard.unheard = now ∧
    nextHeard.unheard = next

theorem effect_unheard (now : Context ι × Metrics) (access : Access) :
    Access.effect (now.1.unheard, now.2) access =
      ((Access.effect now access).1.unheard, (Access.effect now access).2) := by
  cases access with
  | exchangeState state =>
    simp only [Access.effect, updateState_eq, Context.unheard, Notifier.tell, List.map_nil,
      ite_self, List.append_nil]
  | notify state =>
    simp only [Access.effect, Context.notify, Context.unheard, Notifier.tell, List.map_nil,
      List.append_nil]
  | _ => rfl

theorem finish_unheard (accesses : List Access) (now : Context ι × Metrics) :
    finish accesses (now.1.unheard, now.2) =
      ((finish accesses now).1.unheard, (finish accesses now).2) := by
  induction accesses generalizing now with
  | nil => rfl
  | cons access later ih =>
    simp only [finish, List.foldl_cons] at ih ⊢
    rw [effect_unheard]
    exact ih _

theorem takeIn_unheard (feed : Feed) (now : Context ι × Metrics) (reception : Reception) :
    feed.takeIn (now.1.unheard, now.2) reception =
      ((feed.takeIn now reception).1.unheard, (feed.takeIn now reception).2) := by
  let link : Worker := { feed, script := [], metrics := now.2 }
  have unheard := finish_accept link rfl now.1.unheard reception
  have heard := finish_accept link rfl now.1 reception
  rw [← unheard, ← heard]
  exact finish_unheard _ (now.1, (link.accept reception).metrics)

theorem account_unheard (feed : Feed) (begin : Context ι) (receptions : List Reception) :
    feed.account begin.unheard receptions =
      ((feed.account begin receptions).1.unheard, (feed.account begin receptions).2) := by
  induction receptions using List.reverseRecOn with
  | nil => rfl
  | append_singleton earlier reception ih =>
    rw [feed.account_append, feed.account_append, ih, takeIn_unheard]

theorem perform_unheard (worker : Worker) (access : Access) (shared : Shared ι) :
    worker.perform access shared.unheard =
      ((worker.perform access shared).1, (worker.perform access shared).2.unheard) := by
  cases access with
  | exchangeState state =>
    rw [perform_exchange, perform_exchange]
    rfl
  | notify state =>
    simp only [Worker.perform, Shared.unheard, Context.notify, Context.unheard, Notifier.tell,
      List.map_nil, List.append_nil]
  | _ => rfl

/-- A link does the same whether anybody listens or not. -/
theorem step_unheard (worker : Worker) (shared : Shared ι) :
    worker.step shared.unheard = ((worker.step shared).1, (worker.step shared).2.unheard) := by
  unfold Worker.step
  split
  · exact perform_unheard ..
  · split
    · rfl
    · split <;> rfl
    · rfl

theorem Worker.Amid.unheard {now : Worker} {sharedNow : Shared ι}
    (amid : worker.Amid others shared steps now sharedNow) :
    worker.Amid (Unheard others) shared.unheard steps now sharedNow.unheard := by
  induction amid with
  | start => exact .start
  | own earlier ih =>
    have next := ih.own
    rw [step_unheard] at next
    exact next
  | foreign earlier allowed ih => exact ih.foreign ⟨_, _, allowed, rfl, rfl⟩

theorem sparedTelling_unheard
    (spared : ∀ now next, others now next → ownership.Spared now next) (now next : Shared ι)
    (allowed : Unheard others now next) : ownership.SparedTelling now next := by
  obtain ⟨now, next, allowed, rfl, rfl⟩ := allowed
  obtain ⟨joints, state, halted⟩ := spared now next allowed
  exact ⟨⟨joints, state, halted⟩, fun _ => rfl, fun _ => rfl⟩

/-- With nobody listening, a link follows what it has read, whatever others tell the listeners. -/
theorem reads_unheard (spared : ∀ now next, others now next → feed.ownership.Spared now next)
    (amid : feed.Amid others begin script steps worker shared) :
    ∃ read, worker.Reads feed begin.unheard script read (Unheard others) shared.unheard :=
  reads_of_amid (sparedTelling_unheard spared) amid.unheard

/-! ### What a link among others leaves -/

/-- What a link among others has left when it took in these receptions: of what it keeps, and in its
counters. -/
structure Tallied (feed : Feed) (begin : Context ι) (taken : List Reception) (worker : Worker)
    (shared : Shared ι) : Prop where
  joints : feed.ownership.joints = true → shared.context.joints =
    (feed.processAll (begin, {}) (packetsIn taken)).1.joints
  state : feed.ownership.state = true → shared.context.robotState =
    (feed.processAll (begin, {}) (packetsIn taken)).1.robotState
  counted : worker.metrics =
    (feed.processAll (begin, {}) (packetsIn taken)).2.addFaults (taken.countP hasTimedOut)
      (taken.countP hasFailed)

/-- What a link among others has left when it was lost behind these receptions. -/
structure Closed (feed : Feed) (begin : Context ι) (before after : List Reception)
    (worker : Worker) (shared : Shared ι) : Prop where
  unread : worker.script = after
  halted : shared.running = false
  joints : feed.ownership.joints = true → shared.context.joints = none
  state : feed.ownership.state = true → shared.context.robotState = none
  counted : worker.metrics =
    (feed.processAll (begin, {}) (packetsIn before)).2.addFaults (before.countP hasTimedOut)
      (before.countP hasFailed + 1)

/-- With nothing left to do, a link has left what it would have left alone. -/
theorem Worker.Reads.agree (idle : worker.pending = [])
    (reads : worker.Reads feed begin.unheard script read (Unheard others) shared.unheard) :
    feed.ownership.Agree (shared.context.unheard, worker.metrics)
      ((feed.account begin read).1.unheard, (feed.account begin read).2) := by
  rw [← account_unheard]
  exact reads.follows.kept idle

theorem Worker.Reads.tallied (idle : worker.pending = []) (harmless : ¬ Lost read)
    (reads : worker.Reads feed begin.unheard script read (Unheard others) shared.unheard) :
    Tallied feed begin read worker shared := by
  have agree := reads.agree idle
  rw [Feed.account, foldl_takeIn feed _ harmless] at agree
  exact ⟨agree.joints, fun keeps => congrArg StateCell.state (agree.cell keeps), agree.metrics⟩

/-- There is one way only to split a script at its first fatal reception. -/
theorem split_unique {one other : Reception} {earlier rest : List Reception}
    (same : before ++ one :: after = earlier ++ other :: rest) (harmless : ¬ Lost before)
    (otherHarmless : ¬ Lost earlier) (fatal : IsFatal one) (otherFatal : IsFatal other) :
    before = earlier ∧ one = other ∧ after = rest := by
  induction before generalizing earlier with
  | nil =>
    cases earlier with
    | nil => exact ⟨rfl, List.cons.inj same⟩
    | cons reception earlier =>
      obtain ⟨rfl, -⟩ := List.cons.inj same
      exact absurd ((lost_cons _ _).mpr (.inl fatal)) otherHarmless
  | cons reception before ih =>
    rw [lost_cons, not_or] at harmless
    cases earlier with
    | nil =>
      obtain ⟨rfl, -⟩ := List.cons.inj same
      exact absurd otherFatal harmless.1
    | cons second earlier =>
      rw [lost_cons, not_or] at otherHarmless
      obtain ⟨rfl, later⟩ := List.cons.inj same
      obtain ⟨rfl, rest⟩ := ih later harmless.2 otherHarmless.2
      exact ⟨rfl, rest⟩

theorem exists_last (lost : Lost read) (last : ¬ Lost read.dropLast) :
    ∃ earlier fault, read = earlier ++ [.error fault] ∧ ¬ Lost earlier ∧
      fault.isFatal = true := by
  rcases read.eq_nil_or_concat with rfl | ⟨earlier, reception, rfl⟩
  · simp [Lost] at lost
  rw [List.concat_eq_append] at lost last ⊢
  rw [List.dropLast_concat] at last
  rw [lost_append, lost_singleton] at lost
  obtain ⟨fault, rfl, fatal⟩ := lost.resolve_left last
  exact ⟨earlier, fault, rfl, last, fatal⟩

/-- A link that was lost has read up to the first fatal fault and not beyond. -/
theorem FirstFatal.eq_read {rest : List Reception} (first : FirstFatal script before fault after)
    (split : script = read ++ rest) (lost : Lost read) (last : ¬ Lost read.dropLast) :
    read = before ++ [.error fault] ∧ rest = after := by
  obtain ⟨earlier, other, rfl, harmless, fatal⟩ := exists_last lost last
  have same : before ++ .error fault :: after = earlier ++ .error other :: rest := by
    rw [← first.split, split, List.append_assoc, List.singleton_append]
  obtain ⟨rfl, faults, rfl⟩ := split_unique same first.harmless harmless
    ((isFatal_error fault).mpr first.fatal) ((isFatal_error other).mpr fatal)
  exact ⟨by rw [faults], rfl⟩

theorem closed_of_finished
    (spared : ∀ now next, others now next → feed.ownership.SparedRunning now next)
    (first : FirstFatal script before fault after)
    (amid : feed.Amid others begin script steps worker shared)
    (finished : worker.isFinished = true) : Closed feed begin before after worker shared := by
  obtain ⟨read, reads⟩ := reads_unheard (fun now next allowed =>
    (spared now next allowed).toSpared) amid
  obtain ⟨phase, idle⟩ := (finished_iff worker).mp finished
  have lost : Lost read := by
    rcases reads.follows.ended phase with lost | halted
    · exact lost
    · apply reads.cause _ halted
      rintro _ _ ⟨now, next, allowed, rfl, rfl⟩
      exact (spared now next allowed).running
  obtain ⟨rfl, unread⟩ := first.eq_read reads.follows.script lost reads.last
  have agree := reads.agree idle
  rw [feed.account_append, Feed.account, takeIn_fatal feed _ first.harmless first.fatal] at agree
  have cleared := feed.ownership.cleared_release
    (feed.processAll (begin, {}) (packetsIn before)).1
  refine ⟨unread, reads.follows.halted_of_lost idle lost, ?_, ?_, agree.metrics⟩
  · intro keeps
    exact (agree.joints keeps).trans (cleared.joints keeps)
  · intro keeps
    exact (congrArg StateCell.state (agree.cell keeps)).trans (cleared.state keeps)

theorem perform_farewell {access : Access} (member : access ∈ ownership.farewell)
    (worker : Worker) (shared : Shared ι) :
    (worker.perform access shared).1 = worker ∧
      (worker.perform access shared).2.context.told = shared.context.told := by
  simp only [Ownership.farewell, List.mem_append, List.mem_ite_nil_right,
    List.mem_singleton] at member
  rcases member with (⟨-, rfl⟩ | ⟨-, rfl⟩) | rfl <;> exact ⟨rfl, rfl⟩

/-- A link that has ended has nothing left to do but to take back what it keeps. -/
def Worker.Parting (worker : Worker) : Prop :=
  worker.phase = .ended → ∀ access ∈ worker.pending, access ∈ worker.feed.ownership.farewell

theorem Worker.Parting.step (parting : worker.Parting) (shared : Shared ι) :
    (worker.step shared).1.Parting := by
  generalize after : worker.step shared = next
  cases after ▸ worker.moves_step shared with
  | performs access pending next =>
    intro ended
    obtain ⟨metrics, same, -⟩ := perform_worker { worker with pending } access shared
    have before : worker.phase = .ended := by
      rw [same] at ended
      exact ended
    have members := List.forall_mem_cons.mp (next ▸ parting before)
    rw [(perform_farewell members.1 { worker with pending } shared).1]
    exact members.2
  | looks idle phase =>
    intro ended access member
    rw [idle] at member
    cases member
  | receives reception rest idle phase next =>
    intro ended
    obtain ⟨fault, rfl, fatal⟩ := (ended_accept { worker with script := rest } reception).mp ended
    simp only [Worker.accept, if_pos fatal]
    exact fun _ => id
  | rests resting => exact parting

/-- Whatever others do, a link that has ended tells nobody. -/
theorem told_of_ended (amid : feed.Amid others begin script steps worker shared)
    (ended : worker.phase = .ended) :
    (worker.step shared).2.context.told = shared.context.told := by
  have parting : worker.Parting := by
    clear ended
    induction amid with
    | start =>
      intro ended
      cases ended
    | own earlier ih => exact ih.step _
    | foreign earlier allowed ih => exact ih
  generalize after : worker.step shared = next
  cases after ▸ worker.moves_step shared with
  | performs access pending next =>
    have member := parting ended access (next ▸ List.mem_cons_self)
    exact (perform_farewell member { worker with pending } shared).2
  | _ => rfl

theorem told_release (ownership : Ownership) (context : Context ι) :
    (ownership.release context).told = context.told := by
  unfold Ownership.release
  cases ownership.joints <;> cases ownership.state <;> rfl

/-- Nobody is told of a loss: all that was told came with the packets. -/
theorem told_account (feed : Feed) (begin : Context ι) (last : ¬ Lost read.dropLast) :
    (feed.account begin read).1.told =
      (feed.processAll (begin, {}) (packetsIn read)).1.told := by
  by_cases lost : Lost read
  · obtain ⟨earlier, fault, rfl, harmless, fatal⟩ := exists_last lost last
    have same : packetsIn (earlier ++ [.error fault]) = packetsIn earlier := by
      simp [packetsIn, Except.toOption]
    rw [feed.account_append, Feed.account, takeIn_fatal feed _ harmless fatal, told_release, same]
  · rw [Feed.account, foldl_takeIn feed _ lost]

theorem told_of_amid
    (spared : ∀ now next, others now next → feed.ownership.SparedTelling now next)
    (amid : feed.Amid others begin script steps worker shared) (idle : worker.pending = [])
    (keeps : feed.ownership.state = true) :
    ∃ read, script = read ++ worker.script ∧
      shared.context.told = (feed.processAll (begin, {}) (packetsIn read)).1.told := by
  obtain ⟨read, reads⟩ := reads_of_amid spared amid
  refine ⟨read, reads.follows.script, ?_⟩
  rw [← told_account feed begin reads.last]
  exact (reads.follows.kept idle).told keeps

theorem tallied_of_amid (spared : ∀ now next, others now next → feed.ownership.Spared now next)
    (amid : feed.Amid others begin script steps worker shared) (idle : worker.pending = [])
    (goesOn : worker.phase ≠ .ended) :
    ∃ taken, script = taken ++ worker.script ∧ ¬ Lost taken ∧
      Tallied feed begin taken worker shared := by
  obtain ⟨read, reads⟩ := reads_unheard spared amid
  have harmless : ¬ Lost read := fun lost => goesOn (reads.follows.lost lost)
  exact ⟨read, reads.follows.script, harmless, reads.tallied idle harmless⟩

/-- What the link does not keep stays as others left it. -/
theorem foreign_of_amid (spared : ∀ now next, others now next → feed.ownership.Spared now next)
    (amid : feed.Amid others begin script steps worker shared) :
    (feed.ownership.joints = false →
      (worker.step shared).2.context.joints = shared.context.joints) ∧
    (feed.ownership.state = false →
      (worker.step shared).2.context.robotState = shared.context.robotState ∧
        (worker.step shared).2.context.told = shared.context.told) := by
  obtain ⟨read, reads⟩ := reads_unheard spared amid
  have permitted := reads.follows.permitted
  rw [← reads.follows.feed_eq] at permitted ⊢
  -- Somebody who keeps what this link does not keep sees the link as a stranger.
  constructor
  · intro foreign
    have apart : Ownership.Apart { joints := true, state := false } worker.feed.ownership := by
      constructor <;> simp [foreign]
    exact (step_agree apart permitted {}).joints rfl
  · intro foreign
    have apart : Ownership.Apart { joints := false, state := true } worker.feed.ownership := by
      constructor <;> simp [foreign]
    have agree : Ownership.Agree { joints := false, state := true }
        ((worker.step shared).2.context, {}) (shared.context, {}) :=
      step_agree apart permitted {}
    exact ⟨congrArg StateCell.state (agree.cell rfl), agree.told rfl⟩

/-! ### The end of a link among others -/

/-- Every step leaves a link less to do, until it rests. -/
theorem Worker.Amid.work {now : Worker} {sharedNow : Shared ι}
    (amid : worker.Amid others shared steps now sharedNow) :
    now.work + steps ≤ worker.work ∨ now.isResting = true := by
  induction amid with
  | start => exact .inl (Nat.le_refl _)
  | @own steps now sharedNow earlier ih =>
    cases resting : now.isResting with
    | true =>
      rw [step_of_resting resting]
      exact .inr resting
    | false =>
      have less := work_step resting sharedNow
      rw [resting] at ih
      left
      rcases ih with bound | contradiction
      · omega
      · cases contradiction
  | foreign earlier allowed ih => exact ih

theorem resting_of_amid (amid : feed.Amid others begin script steps worker shared)
    (enough : 8 * script.length + 1 < steps) : worker.isResting = true := by
  rcases amid.work with bound | resting
  · simp only [Worker.work, List.map_nil, List.sum_nil, if_true] at bound
    omega
  · exact resting

theorem finished_of_amid (spared : ∀ now next, others now next → feed.ownership.Spared now next)
    (first : FirstFatal script before fault after)
    (amid : feed.Amid others begin script steps worker shared)
    (enough : 8 * script.length + 1 < steps) : worker.isFinished = true := by
  obtain ⟨read, reads⟩ := reads_unheard spared amid
  rw [finished_iff]
  rcases (resting_iff worker).mp (resting_of_amid amid enough) with ⟨idle, phase | ⟨phase, done⟩⟩
  · exact ⟨phase, idle⟩
  · -- Everything was read, the fatal fault too, and then the link does not wait.
    have lost : Lost read := by
      rw [← List.append_nil read, ← done, ← reads.follows.script, first.split]
      exact ⟨_, by simp, (isFatal_error fault).mpr first.fatal⟩
    exact ⟨reads.follows.lost lost, idle⟩

/-- A link that finds the running flag cleared ends, and does nothing to what is shared. -/
theorem Worker.Amid.halted {now : Worker} {sharedNow : Shared ι}
    (stays : ∀ now next, others now next → now.running = false → next.running = false)
    (idle : worker.pending = []) (looking : worker.phase = .looking)
    (halted : shared.running = false) (amid : worker.Amid others shared steps now sharedNow) :
    now.step sharedNow = ({ worker with phase := .ended }, sharedNow) := by
  have down : sharedNow.running = false ∧ (now = worker ∨ now = { worker with phase := .ended }) ∧
      now.step sharedNow = ({ worker with phase := .ended }, sharedNow) := by
    -- The link stands before its look or has ended, and nobody raises the flag again.
    induction amid with
    | start => exact ⟨halted, .inl rfl, by simp [Worker.step, idle, looking, halted]⟩
    | own earlier ih =>
      obtain ⟨down, -, step⟩ := ih
      rw [step]
      exact ⟨down, .inr rfl, by simp [Worker.step, idle]⟩
    | foreign earlier allowed ih =>
      obtain ⟨down, stands, -⟩ := ih
      have next := stays _ _ allowed down
      refine ⟨next, stands, ?_⟩
      rcases stands with rfl | rfl <;> simp [Worker.step, idle, looking, next]
  exact down.2.2

/-! ### With nobody else at work -/

/-- What a link is going to leave if nobody else is at work. -/
def Worker.prospect (worker : Worker) (shared : Shared ι) : Ingested ι :=
  let now := finish worker.pending (shared.context, worker.metrics)
  if worker.phase = .ended then
    { shared :=
        { context := now.1
          running := shared.running && !worker.pending.any (· matches .stop) }
      metrics := now.2
      unread := worker.script }
  else
    ingest worker.feed { shared with context := now.1 } now.2 worker.script

theorem prospect_perform {access : Access} {pending : List Access}
    (reads : worker.Reads feed begin script read others shared)
    (next : worker.pending = access :: pending) :
    ({ worker with pending }.perform access shared).1.prospect
      ({ worker with pending }.perform access shared).2 = worker.prospect shared := by
  have finished := finish_perform { worker with pending } access shared
  have running := perform_running { worker with pending } access shared
  obtain ⟨metrics, same, ahead⟩ := perform_worker { worker with pending } access shared
  generalize { worker with pending }.perform access shared = after at *
  obtain ⟨after, shared'⟩ := after
  simp only at finished running same ahead ⊢
  have stops : after.pending.any (· matches .stop) = pending.any (· matches .stop) := by
    rcases ahead with ahead | ⟨state, rfl, ahead⟩ <;> simp [ahead]
  have phase : after.phase = worker.phase := by rw [same]
  have kept : after.feed = worker.feed ∧ after.script = worker.script := by
    rw [same]
    exact ⟨rfl, rfl⟩
  unfold Worker.prospect
  rw [finished, phase, kept.1, kept.2, stops, next]
  -- Only a link that has ended has a stop among its accesses.
  by_cases ended : worker.phase = .ended
  · have halts : (shared'.running && !pending.any (· matches .stop)) =
        (shared.running && !(access :: pending).any (· matches .stop)) := by
      rw [running, List.any_cons, Bool.not_or]
      exact Bool.and_assoc ..
    rw [if_pos ended, if_pos ended, halts]
  · have steady : shared'.running = shared.running := by
      rw [running]
      cases access with
      | stop =>
        have lost := reads.follows.stopping (next ▸ List.mem_cons_self)
        exact absurd (reads.follows.lost lost) ended
      | _ => exact Bool.and_true _
    rw [if_neg ended, if_neg ended, steady]

/-- What a link is going to leave stays the same from step to step. -/
theorem prospect_step (reads : worker.Reads feed begin script read nobody shared) :
    (worker.step shared).1.prospect (worker.step shared).2 = worker.prospect shared := by
  -- Nobody but a lost link clears the flag, so the look and the end of `ingest` agree.
  have up : worker.phase ≠ .ended → shared.running = true := by
    intro goesOn
    cases running : shared.running with
    | true => rfl
    | false =>
      have lost := reads.cause (fun _ _ allowed => absurd allowed id) running
      exact absurd (reads.follows.lost lost) goesOn
  generalize after : worker.step shared = next
  cases after ▸ worker.moves_step shared with
  | performs access pending next => exact prospect_perform reads next
  | looks idle phase =>
    have running := up (by simp [phase])
    simp only [Worker.prospect, running, if_true, phase]
    rfl
  | receives reception rest idle phase next =>
    have running := up (by simp [phase])
    have taken := finish_accept { worker with script := rest } idle shared.context reception
    have ends := ended_accept { worker with script := rest } reception
    have stops := stop_mem_accept { worker with script := rest } idle reception
    obtain ⟨feedKept, scriptKept⟩ := accept_kept { worker with script := rest } reception
    have one := ingest_cons worker.feed running worker.metrics reception rest
    have before : worker.prospect shared =
        ingest worker.feed shared worker.metrics (reception :: rest) := by
      simp only [Worker.prospect, phase, reduceCtorEq, if_false, idle, next]
      rfl
    rw [before]
    unfold Worker.prospect
    rw [taken, feedKept, scriptKept]
    by_cases fatal : IsFatal reception
    · rw [if_pos (ends.mpr fatal), one.1 fatal]
      have stop : (({ worker with script := rest }.accept reception).pending.any
          (· matches .stop)) = true :=
        List.any_eq_true.mpr ⟨.stop, stops.mpr fatal, rfl⟩
      rw [stop, running]
      rfl
    · rw [if_neg (ends.not.mpr fatal), one.2 fatal]
  | rests resting => rfl

theorem prospect_of_resting (resting : worker.isResting = true) (shared : Shared ι) :
    worker.prospect shared = { shared, metrics := worker.metrics, unread := worker.script } := by
  rcases (resting_iff worker).mp resting with ⟨idle, phase | ⟨phase, done⟩⟩
  · simp [Worker.prospect, idle, phase, finish]
  · simp [Worker.prospect, idle, phase, done, finish, ingest]

theorem prospect_of_alone (amid : feed.Amid nobody begin script steps worker shared) :
    worker.prospect shared = ingest feed { context := begin } {} script := by
  have reads : ∀ {steps worker shared}, feed.Amid nobody begin script steps worker shared →
      ∃ read, worker.Reads feed begin script read nobody shared :=
    reads_of_amid fun _ _ allowed => absurd allowed id
  induction amid with
  | start => rfl
  | own earlier ih =>
    obtain ⟨read, reads⟩ := reads earlier
    exact (prospect_step reads).trans ih
  | foreign earlier allowed => exact absurd allowed id

/-! ### All of it -/

/-- What a link makes of its receptions, alone and among others. -/
structure Folding (feed : Feed) (begin : Context ι) (script : List Reception) : Prop where
  folded : ∀ metrics before fault after, FirstFatal script before fault after →
    Folded feed begin metrics before after (ingest feed { context := begin } metrics script)
  /-- Step by step a link alone comes to the same. -/
  alone : ∀ steps worker shared, feed.Amid nobody begin script steps worker shared →
    8 * script.length + 1 < steps →
    ingest feed { context := begin } {} script =
      { shared, metrics := worker.metrics, unread := worker.script }
  /-- Between two receptions, those before have taken effect and no others. -/
  tallied : ∀ steps worker shared,
    feed.Amid feed.ownership.Spared begin script steps worker shared →
    worker.pending = [] → worker.phase ≠ .ended →
    ∃ taken, script = taken ++ worker.script ∧ ¬ Lost taken ∧
      Tallied feed begin taken worker shared
  /-- If nobody else clears the running flag, the link ends, and it does so at the first fatal
  fault. -/
  closed : ∀ before fault after steps worker shared, FirstFatal script before fault after →
    feed.Amid feed.ownership.SparedRunning begin script steps worker shared →
    (8 * script.length + 1 < steps → worker.isFinished = true) ∧
      (worker.isFinished = true → Closed feed begin before after worker shared)
  /-- Nobody is told of the end, whatever others do. -/
  silent : ∀ others steps worker shared, feed.Amid others begin script steps worker shared →
    worker.phase = .ended → (worker.step shared).2.context.told = shared.context.told
  /-- All that was told came with the packets. -/
  told : ∀ steps worker shared,
    feed.Amid feed.ownership.SparedTelling begin script steps worker shared →
    worker.pending = [] → feed.ownership.state = true →
    ∃ read, script = read ++ worker.script ∧
      shared.context.told = (feed.processAll (begin, {}) (packetsIn read)).1.told
  foreign : ∀ steps worker shared,
    feed.Amid feed.ownership.Spared begin script steps worker shared →
    (feed.ownership.joints = false →
      (worker.step shared).2.context.joints = shared.context.joints) ∧
    (feed.ownership.state = false →
      (worker.step shared).2.context.robotState = shared.context.robotState ∧
        (worker.step shared).2.context.told = shared.context.told)
  /-- A link that finds the running flag cleared takes nothing back and reads nothing more. -/
  halted : ∀ steps worker shared,
    feed.Amid feed.ownership.Spared begin script steps worker shared →
    worker.pending = [] → worker.phase = .looking → shared.running = false →
    ∀ more now sharedNow, worker.Amid feed.ownership.Spared shared more now sharedNow →
      now.step sharedNow = ({ worker with phase := .ended }, sharedNow)

/-- However a link reads its packets and whatever it keeps, it takes in its receptions up to the
first fatal fault, in whatever order its steps and those of others come. -/
theorem folding_of_receptions (feed : Feed) (begin : Context ι) (script : List Reception) :
    Folding feed begin script where
  folded metrics _ _ _ first := folded_of_firstFatal feed begin metrics first
  alone := by
    intro steps worker shared amid enough
    rw [← prospect_of_alone amid]
    exact prospect_of_resting (resting_of_amid amid enough) shared
  tallied _ _ _ amid idle goesOn := tallied_of_amid (fun _ _ => id) amid idle goesOn
  closed := by
    intro before fault after steps worker shared first amid
    constructor
    · exact finished_of_amid (fun _ _ spared => spared.toSpared) first amid
    · exact closed_of_finished (fun _ _ => id) first amid
  silent _ _ _ _ amid ended := told_of_ended amid ended
  told _ _ _ amid idle keeps := told_of_amid (fun _ _ => id) amid idle keeps
  foreign _ _ _ amid := foreign_of_amid (fun _ _ => id) amid
  halted := by
    intro steps worker shared _ idle looking halted more now sharedNow amid
    exact amid.halted (fun _ _ spared => spared.halted) idle looking halted

/-- The loss of the realtime link leaves the state of the primary link as it is. -/
example :
    let left : Ingested Listener :=
      ingest (.realtime recentLayouts false)
        { context := { telemetryTimeout := .ofParts 1 0, cell := ⟨some .running⟩ } } {}
        [.error .timeout, .error .closed, .error .timeout]
    left.unread = [.error .timeout] ∧ left.shared.context.robotState = some .running ∧
      left.metrics = { timeouts := 1, readErrors := 1 } :=
  ⟨rfl, rfl, rfl⟩

end ArmLink.Link
