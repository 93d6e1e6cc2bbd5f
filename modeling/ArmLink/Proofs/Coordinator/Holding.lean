import ArmLink.Proofs.Coordinator.Slot

/-!
Who holds a goal.

A goal is held by the slot, by `pending`, and by threads (`holdsOf`).  Holders only spread from
holders: a thread comes to hold a goal that it finds in one of the two cells, and a cell one that a
thread puts there (`ClientRule.held`, `WorkerRule.held`).  Only a holder can change what became of a
goal (`ClientRule.progress_eq`, `WorkerRule.progress_eq`).

Two things follow for every run.  A goal without an outcome is held by somebody, as letting go of it
would have given it one (`kept_of_reachable`).  And until a submitter installs its goal, nobody else
holds it (`Hidden`, `fresh_of_reachable`).
-/

namespace ArmLink.Coordinator

open Goal Link Motion Telemetry

/-! ### Holders -/

/-- The goals that a client keeps hold of where it stands. -/
def ClientPlace.keeps (place : ClientPlace) : List Goal.Id :=
  match place with
  | .submitting place => place.held
  | .canceling place => place.held
  | .stopping (.unlockCurrent goal) _ => goal.toList
  | .closing (.unlockPending goal) | .closing (.unlockCurrent goal) => goal.toList
  | _ => []

/-- The goals that a thread keeps hold of. -/
def holdsOf (coordinator : ArmLink.Coordinator) : Actor → List Goal.Id
  | .worker => coordinator.worker.held
  | .client index => (coordinator.clientAt index).held

section Steps

variable {workerEnded : Bool} {actor : Actor} {client client' : Client}
  {worker worker' : Worker} {memory memory' : Memory} {goal : Goal.Id} {outcome : Outcome}

theorem Client.held_eq (client : Client) :
    client.held = (client.finishing.map (·.goal)).toList ++ client.place.keeps := rfl

theorem Client.held_of_free (free : client.finishing = none) :
    client.held = client.place.keeps := by
  rw [Client.held_eq, free]
  rfl

theorem held_goto (free : client.finishing = none) (place : ClientPlace) :
    Client.held (client.goto place) = place.keeps := by
  have stillFree : (client.goto place).finishing = none := free
  exact Client.held_of_free stillFree

theorem held_finish (place : ClientPlace) :
    Client.held (client.finish goal outcome place) = goal :: place.keeps := rfl

theorem held_finishIf (free : client.finishing = none) (goal : Option Goal.Id)
    (place : ClientPlace) :
    Client.held (client.finishIf goal outcome place) = goal.toList ++ place.keeps := by
  cases goal with
  | none => exact held_goto free place
  | some goal => rfl

theorem Client.mem_held_of_finishing {finishing : Finishing}
    (busy : client.finishing = some finishing) : finishing.goal ∈ client.held := by
  rw [Client.held_eq, busy]
  exact List.mem_append_left _ (List.mem_singleton.mpr rfl)

theorem Worker.mem_held_of_finishing {finishing : Finishing}
    (busy : worker.finishing = some finishing) : finishing.goal ∈ worker.held := by
  rw [Worker.held, busy]
  exact List.mem_append_left _ (List.mem_singleton.mpr rfl)

theorem FinishRule.finishing {π : Type} {thread thread' : Thread π}
    (rule : FinishRule thread memory thread' memory') {finishing : Finishing}
    (busy : thread'.finishing = some finishing) :
    ∃ before, thread.finishing = some before ∧ before.goal = finishing.goal := by
  cases rule with
  | mark marks => cases busy; exact ⟨_, marks, rfl⟩
  | late => cases busy
  | send => cases busy

theorem FinishRule.held (rule : FinishRule client memory client' memory')
    (holds : goal ∈ client'.held) : goal ∈ client.held := by
  rw [Client.held_eq, List.mem_append] at holds
  rcases holds with finishes | keeps
  · cases busy : client'.finishing with
    | none => rw [busy] at finishes; cases finishes
    | some finishing =>
      rw [busy] at finishes
      obtain ⟨before, busyBefore, same⟩ := rule.finishing busy
      have isGoal : goal = before.goal := (List.mem_singleton.mp finishes).trans same.symm
      rw [isGoal]
      exact Client.mem_held_of_finishing busyBefore
  · rw [rule.place_eq] at keeps
    exact List.mem_append_right _ keeps

theorem SubmitRule.held {place : Submitting} (free : client.finishing = none)
    (rule : SubmitRule actor client memory place client' memory') (holds : goal ∈ client'.held) :
    goal ∈ place.held ∨ memory.current = some goal := by
  cases rule with
  | notAlive | invalid => rw [held_finish] at holds; exact .inl holds
  | @foundOld job old found =>
    rw [held_goto free] at holds
    rcases List.mem_cons.mp holds with isJob | isOld
    · exact .inl (List.mem_singleton.mpr isJob)
    · exact .inr (found.trans (congrArg some (List.mem_singleton.mp isOld).symm))
  | @unlockOld job old =>
    rw [held_finishIf free, List.mem_append] at holds
    rcases holds with isOld | isJob
    · exact .inl (List.mem_cons_of_mem _ isOld)
    · exact .inl (List.mem_cons.mpr (.inl (List.mem_singleton.mp isJob)))
  | install =>
    rw [held_finishIf free, List.mem_append] at holds
    rcases holds with isOld | isJob
    · exact .inr (Option.mem_toList.mp isOld)
    · exact .inl isJob
  | @lockExec job superseded =>
    rw [held_goto free] at holds
    cases superseded <;> exact .inl holds
  | enqueue | unlockPending | unlockExec => rw [held_goto free] at holds; cases holds
  | interruptOld | noOld => rw [held_goto free] at holds; exact .inl holds
  | _ => rw [held_goto free] at holds; exact .inl holds

theorem CancelRule.held {place : Canceling} (free : client.finishing = none)
    (rule : CancelRule actor client memory place client' memory') (holds : goal ∈ client'.held) :
    goal ∈ place.held ∨ memory.current = some goal := by
  cases rule with
  | found isCurrent =>
    rw [held_goto free] at holds
    exact .inr (isCurrent.trans (congrArg some (List.mem_singleton.mp holds).symm))
  | lockExec =>
    rw [held_finish] at holds
    rcases List.mem_cons.mp holds with isGoal | isGoal
    · exact .inl (List.mem_singleton.mpr isGoal)
    · exact .inl isGoal
  | lockCurrent | notFound | giveUp | unlockExec => rw [held_goto free] at holds; cases holds
  | _ => rw [held_goto free] at holds; exact .inl holds

/-- Whoever holds a goal after a step of a client held it before, or found it in a cell. -/
theorem ClientRule.held (rule : ClientRule workerEnded actor client memory client' memory')
    (holds : goal ∈ client'.held) :
    goal ∈ client.held ∨ memory.current = some goal ∨ memory.pending.map (·.id) = some goal := by
  cases rule with
  | finish rule => exact .inl (rule.held holds)
  | submit free stands rule =>
    rw [Client.held_of_free free, stands]
    rcases rule.held free holds with before | current
    · exact .inl before
    · exact .inr (.inl current)
  | cancel free stands rule =>
    rw [Client.held_of_free free, stands]
    rcases rule.held free holds with before | current
    · exact .inl before
    · exact .inr (.inl current)
  | @exchange state free =>
    obtain ⟨answer, told | told⟩ := told_cases (memory.context.exchangeState state).1 state
    · rw [told, held_goto free] at holds; cases holds
    · rw [told, held_goto free] at holds; cases holds
  | stop free _ rule =>
    cases rule with
    | read =>
      rw [held_finishIf free, List.mem_append] at holds
      rcases holds with found | found
      · exact .inr (.inl (Option.mem_toList.mp found))
      · exact .inr (.inl (Option.mem_toList.mp found))
    | _ => rw [held_goto free] at holds; cases holds
  | close free _ rule =>
    cases rule with
    | takePending =>
      rw [held_finishIf free, List.mem_append] at holds
      rcases holds with found | found
      · exact .inr (.inr (Option.mem_toList.mp found))
      · exact .inr (.inr (Option.mem_toList.mp found))
    | takeCurrent =>
      rw [held_finishIf free, List.mem_append] at holds
      rcases holds with found | found
      · exact .inr (.inl (Option.mem_toList.mp found))
      · exact .inr (.inl (Option.mem_toList.mp found))
    | _ => rw [held_goto free] at holds; cases holds

/-- A client puts no goal into a cell that it does not hold. -/
theorem ClientRule.cells (rule : ClientRule workerEnded actor client memory client' memory') :
    (memory'.current = some goal → memory.current = some goal ∨ goal ∈ client.held) ∧
      (memory'.pending.map (·.id) = some goal →
        memory.pending.map (·.id) = some goal ∨ goal ∈ client.held) := by
  cases rule with
  | finish rule => obtain ⟨progress, rfl⟩ := rule.memory_eq; exact ⟨.inl, .inl⟩
  | submit free stands rule =>
    rw [Client.held_of_free free, stands]
    cases rule with
    | install =>
      exact ⟨fun isGoal => .inr (List.mem_singleton.mpr (Option.some.inj isGoal).symm), .inl⟩
    | enqueue =>
      exact ⟨.inl, fun isGoal => .inr (List.mem_singleton.mpr (Option.some.inj isGoal).symm)⟩
    | _ => exact ⟨.inl, .inl⟩
  | cancel _ _ rule =>
    cases rule with
    | vacate => exact ⟨(fun nothing => nomatch nothing), .inl⟩
    | _ => exact ⟨.inl, .inl⟩
  | exchange => exact ⟨.inl, .inl⟩
  | stop _ _ rule => cases rule <;> exact ⟨.inl, .inl⟩
  | close _ _ rule =>
    cases rule with
    | takePending => exact ⟨.inl, fun nothing => nomatch nothing⟩
    | takeCurrent => exact ⟨(fun nothing => nomatch nothing), .inl⟩
    | _ => exact ⟨.inl, .inl⟩

theorem Worker.held_eq (worker : Worker) :
    worker.held = (worker.finishing.map (·.goal)).toList ++ worker.place.goal?.toList := rfl

theorem finishing_afterStream {config : Config} {job : Job} {since : Duration}
    {result : Except Follower.Fault Streamed} (free : worker.finishing = none)
    {finishing : Finishing}
    (busy : (worker.afterStream config job since result).finishing = some finishing) :
    finishing.goal = job.id := by
  unfold Worker.afterStream at busy
  split at busy
  · exact absurd (free.symm.trans busy) (by simp)
  · exact absurd (free.symm.trans busy) (by simp)
  · split at busy
    · cases busy; rfl
    · cases busy; rfl

theorem WorkerRule.finishing (rule : WorkerRule worker memory worker' memory')
    {finishing : Finishing} (busy : worker'.finishing = some finishing) :
    (∃ before, worker.finishing = some before ∧ before.goal = finishing.goal) ∨
      worker.place.goal? = some finishing.goal := by
  cases rule with
  | finish rule => exact .inl (rule.finishing busy)
  | work free rule =>
    right
    generalize worker.place = place at rule
    cases rule with
    | noStartPoint | notStarted | closing => cases busy; rfl
    | judge watching => cases busy; exact goal?_of_watched watching
    | returned | notSent | held | notHeld =>
      rw [finishing_afterStream free busy]
      rfl
    | _ => exact absurd (free.symm.trans busy) (by simp)

/-- The worker comes to hold no goal but one that it finds in `pending`, and puts none in a cell. -/
theorem WorkerRule.held (rule : WorkerRule worker memory worker' memory')
    (holds : goal ∈ worker'.held) :
    goal ∈ worker.held ∨ memory.pending.map (·.id) = some goal := by
  rw [Worker.held_eq, List.mem_append] at holds
  rcases holds with finishes | has
  · cases busy : worker'.finishing with
    | none => rw [busy] at finishes; cases finishes
    | some finishing =>
      rw [busy] at finishes
      have isGoal : goal = finishing.goal := List.mem_singleton.mp finishes
      rw [isGoal]
      rcases rule.finishing busy with ⟨before, busyBefore, same⟩ | hand
      · exact .inl (same ▸ Worker.mem_held_of_finishing busyBefore)
      · left
        rw [Worker.held_eq, hand]
        exact List.mem_append_right _ (List.mem_singleton.mpr rfl)
  · rcases rule.goal? with ⟨kept | dropped, -⟩ | ⟨-, -, taken⟩
    · rw [kept] at has
      exact .inl (List.mem_append_right _ has)
    · rw [dropped] at has; cases has
    · rw [taken] at has
      exact .inr (Option.mem_toList.mp has)

theorem WorkerRule.cells (rule : WorkerRule worker memory worker' memory') :
    (memory'.current = some goal → memory.current = some goal) ∧
      (memory'.pending.map (·.id) = some goal → memory.pending.map (·.id) = some goal) := by
  constructor
  · intro current
    rcases rule.current_cases with same | ⟨emptied, -⟩
    · rw [← same]; exact current
    · rw [emptied] at current; cases current
  · intro pending
    rcases rule.goal? with ⟨-, kept⟩ | ⟨-, nothing, -⟩
    · rw [← kept]; exact pending
    · rw [nothing] at pending; cases pending

theorem FinishRule.progress_eq {π : Type} {thread thread' : Thread π}
    (rule : FinishRule thread memory thread' memory')
    (notMine : ∀ finishing, thread.finishing = some finishing → finishing.goal ≠ goal) :
    memory'.progress goal = memory.progress goal := by
  cases rule with
  | late => rfl
  | mark busy | send busy =>
    have apart := notMine _ busy
    rw [Memory.modify_progress, if_neg]
    exact fun same => apart same.symm

/-- Only a holder changes what became of a goal. -/
theorem ClientRule.progress_eq (rule : ClientRule workerEnded actor client memory client' memory')
    (notHeld : goal ∉ client.held) : memory'.progress goal = memory.progress goal := by
  cases rule with
  | finish rule =>
    refine rule.progress_eq ?_
    intro finishing busy isGoal
    exact notHeld (isGoal ▸ Client.mem_held_of_finishing busy)
  | submit _ _ rule => cases rule <;> rfl
  | cancel _ _ rule => cases rule <;> rfl
  | exchange => rfl
  | stop _ _ rule => cases rule <;> rfl
  | close _ _ rule => cases rule <;> rfl

theorem WorkerRule.progress_eq (rule : WorkerRule worker memory worker' memory')
    (notHeld : goal ∉ worker.held) : memory'.progress goal = memory.progress goal := by
  cases rule with
  | finish rule =>
    refine rule.progress_eq ?_
    intro finishing busy isGoal
    exact notHeld (isGoal ▸ Worker.mem_held_of_finishing busy)
  | work _ rule =>
    rw [Worker.held_eq, List.mem_append, not_or] at notHeld
    have notInHand := notHeld.2
    generalize worker.place = place at rule notInHand
    cases rule with
    | @sendAccepted job =>
      rw [Memory.modify_progress, if_neg]
      exact fun same => notInHand (same ▸ List.mem_singleton.mpr rfl)
    | _ => rfl

end Steps

/-! ### Nobody loses a goal without an outcome -/

variable {coordinator next first : ArmLink.Coordinator} {goal : Goal.Id} {index : Nat}

theorem isHeld_iff : coordinator.isHeld goal = true ↔
    coordinator.memory.current = some goal ∨ coordinator.jobAt .pending = some goal ∨
      ∃ actor, goal ∈ coordinator.holdsOf actor := by
  have somebody : (coordinator.clients.any fun client => client.held.contains goal) = true ↔
      ∃ index, goal ∈ (coordinator.clientAt index).held := by
    constructor
    · intro any
      obtain ⟨client, inside, holds⟩ := List.any_eq_true.mp any
      obtain ⟨index, there⟩ := List.mem_iff_getElem?.mp inside
      exact ⟨index, by rw [clientAt_eq_of_getElem? there]; simpa using holds⟩
    · rintro ⟨index, holds⟩
      cases there : coordinator.clients[index]? with
      | none =>
        rw [clientAt, there] at holds
        cases holds
      | some client =>
        rw [clientAt_eq_of_getElem? there] at holds
        exact List.any_eq_true.mpr ⟨client, List.mem_of_getElem? there, by simpa using holds⟩
  have actors : (∃ actor, goal ∈ coordinator.holdsOf actor) ↔
      goal ∈ coordinator.worker.held ∨ ∃ index, goal ∈ (coordinator.clientAt index).held := by
    constructor
    · rintro ⟨actor, holds⟩
      cases actor with
      | worker => exact .inl holds
      | client index => exact .inr ⟨index, holds⟩
    · rintro (holds | ⟨index, holds⟩)
      · exact ⟨.worker, holds⟩
      · exact ⟨.client index, holds⟩
  rw [actors, ← somebody]
  simp [isHeld, jobAt, or_assoc]

@[simp] theorem letGo_isHeld (other : Goal.Id) :
    (coordinator.letGo other).isHeld goal = coordinator.isHeld goal := by
  obtain ⟨progress, changed⟩ := letGo_eq coordinator other
  rw [changed]
  rfl

/-- Letting go of a goal changes nothing for another goal, for one that is held, or for one that has
its outcome. -/
theorem letGo_progress_eq (other : Goal.Id)
    (kept : other ≠ goal ∨ coordinator.isHeld goal = true ∨
      (coordinator.memory.progress goal).finished = true) :
    (coordinator.letGo other).memory.progress goal = coordinator.memory.progress goal := by
  unfold letGo
  split
  · rfl
  · rename_i letsGo
    rw [Memory.modify_progress, if_neg]
    rintro rfl
    rcases kept with apart | held | decided
    · exact apart rfl
    · exact letsGo (by rw [held, Bool.or_true])
    · exact letsGo (by rw [decided, Bool.true_or])

/-- Whether a goal is held or has its outcome. -/
def Kept (coordinator : ArmLink.Coordinator) (goal : Goal.Id) : Prop :=
  (coordinator.memory.progress goal).finished = true ∨ coordinator.isHeld goal = true

theorem Kept.letGo (kept : Kept coordinator goal) (other : Goal.Id) :
    Kept (coordinator.letGo other) goal := by
  rcases kept with decided | held
  · exact .inl (letGo_finished decided)
  · exact .inr (by rw [letGo_isHeld]; exact held)

theorem kept_letGo (coordinator : ArmLink.Coordinator) (goal : Goal.Id) :
    Kept (coordinator.letGo goal) goal := by
  by_cases kept : (coordinator.memory.progress goal).finished || coordinator.isHeld goal
  · rw [letGo, if_pos kept]
    exact (Bool.or_eq_true _ _).mp kept
  · rw [letGo, if_neg kept]
    left
    rw [Memory.modify_progress, if_pos rfl, Progress.send_finished]

theorem kept_collect (inside : 1 ≤ goal ∧ goal < coordinator.memory.nextId) :
    Kept coordinator.collect goal := by
  have all : ∀ (goals : List Goal.Id) (coordinator : ArmLink.Coordinator),
      goal ∈ goals ∨ Kept coordinator goal →
        Kept (goals.foldl ArmLink.Coordinator.letGo coordinator) goal := by
    intro goals
    induction goals with
    | nil =>
      intro coordinator kept
      rcases kept with impossible | kept
      · cases impossible
      · exact kept
    | cons other goals ih =>
      intro coordinator kept
      refine ih _ ?_
      rcases kept with isIn | kept
      · rcases List.mem_cons.mp isIn with rfl | isIn
        · exact .inr (kept_letGo coordinator goal)
        · exact .inl isIn
      · exact .inr (kept.letGo other)
  refine all _ coordinator (.inl (List.mem_range'_1.mpr ⟨inside.1, ?_⟩))
  have positive : 1 ≤ coordinator.memory.nextId :=
    Nat.le_of_lt (Nat.lt_of_le_of_lt inside.1 inside.2)
  rw [Nat.add_sub_cancel' positive]
  exact inside.2

theorem collect_nextId : coordinator.collect.memory.nextId = coordinator.memory.nextId := by
  obtain ⟨progress, changed⟩ := collect_eq coordinator
  rw [changed]

/-- In every run, a goal without an outcome is held by somebody. -/
theorem kept_of_reachable {config : Config} {context : Context Unit}
    (started : start config context = .ok first) (run : Reachable first coordinator)
    (inside : 1 ≤ goal ∧ goal < coordinator.memory.nextId) : Kept coordinator goal := by
  cases run with
  | refl =>
    rw [eq_of_start started] at inside
    exact absurd inside.2 (Nat.not_lt.mpr inside.1)
  | step move before moved =>
    obtain ⟨between, -, rfl⟩ := turn_of_step moved
    rw [collect_nextId] at inside
    exact kept_collect inside

/-! ### A goal is its submitter's until it is installed -/

/-- Whether nobody holds a goal but one client. -/
structure Hidden (coordinator : ArmLink.Coordinator) (index : Nat) (goal : Goal.Id) : Prop where
  current : coordinator.memory.current ≠ some goal
  pending : coordinator.jobAt .pending ≠ some goal
  others : ∀ actor, actor ≠ .client index → goal ∉ coordinator.holdsOf actor

/-- Whether the same became of a goal in two states. -/
def Alike (coordinator next : ArmLink.Coordinator) (goal : Goal.Id) : Prop :=
  (next.memory.progress goal).finished = (coordinator.memory.progress goal).finished ∧
    (next.memory.progress goal).sent = (coordinator.memory.progress goal).sent

theorem alike_of_eq (same : next.memory.progress goal = coordinator.memory.progress goal) :
    Alike coordinator next goal :=
  ⟨congrArg Progress.finished same, congrArg Progress.sent same⟩

/-- Taking an event from a goal leaves what was sent, and the outcome. -/
theorem alike_take (other : Goal.Id) :
    Alike coordinator { coordinator with
      memory := coordinator.memory.modify other fun progress => progress.take.2 } goal := by
  unfold Alike
  rw [Memory.modify_progress]
  split
  · exact ⟨Progress.take_finished _, Progress.take_sent _⟩
  · exact ⟨rfl, rfl⟩

theorem holdsOf_withClient {mover : Nat} {client : Client} {memory : Memory}
    (inside : mover < coordinator.clients.length) (actor : Actor) :
    (coordinator.withClient mover client memory).holdsOf actor =
      if actor = .client mover then client.held else coordinator.holdsOf actor := by
  cases actor with
  | worker => rfl
  | client other =>
    simp only [holdsOf, clientAt_withClient inside, Actor.client.injEq]
    split <;> rfl

theorem Opening.held {place : ClientPlace} {memory : Memory} {isOpen : Bool}
    (opening : Opening coordinator place memory isOpen)
    (holds : goal ∈ Client.held { place }) :
    goal = coordinator.memory.nextId ∧ goal < memory.nextId := by
  cases opening with
  | submit =>
    have isNew : goal = coordinator.memory.nextId := List.mem_singleton.mp holds
    exact ⟨isNew, by rw [isNew]; exact Nat.lt_succ_self _⟩
  | tellState state =>
    unfold ClientPlace.told at holds
    split at holds <;> cases holds
  | _ => cases holds

theorem holdsOf_opened {place : ClientPlace} {memory : Memory} {isOpen : Bool}
    (opening : Opening coordinator place memory isOpen) {actor : Actor}
    (holds : goal ∈ (coordinator.opened place memory isOpen).holdsOf actor) :
    goal ∈ coordinator.holdsOf actor ∨
      (actor = .client coordinator.clients.length ∧ goal = coordinator.memory.nextId ∧
        goal < memory.nextId) := by
  cases actor with
  | worker => exact .inl holds
  | client index =>
    simp only [holdsOf, clientAt_opened] at holds
    split at holds
    · rename_i isNew
      exact .inr ⟨by rw [isNew], opening.held holds⟩
    · exact .inl holds

/-- A goal that only one client holds stays so, and nothing becomes of it, until that client makes a
step itself. -/
theorem Hidden.turn (hidden : Hidden coordinator index goal)
    (inside : index < coordinator.clients.length) (numbered : goal < coordinator.memory.nextId)
    (turn : Turn coordinator next) :
    (Hidden next index goal ∧ next.clientAt index = coordinator.clientAt index ∧
      Alike coordinator next goal) ∨
    ∃ client memory, next = coordinator.withClient index client memory ∧
      ClientRule coordinator.worker.isGone (.client index) (coordinator.clientAt index)
        coordinator.memory client memory := by
  cases turn with
  | @call place memory isOpen opening =>
    obtain ⟨nextId, -, changed⟩ := opening.memory_eq
    refine .inl ⟨⟨?_, ?_, ?_⟩, ?_, ?_⟩
    · rw [opened, changed]; exact hidden.current
    · rw [jobAt, opened, changed]; exact hidden.pending
    · intro actor apart holds
      rcases holdsOf_opened opening holds with holds | ⟨-, isNew, -⟩
      · exact hidden.others actor apart holds
      · rw [isNew] at numbered
        exact absurd numbered (Nat.lt_irrefl _)
    · rw [clientAt_opened_of_lt inside]
    · rw [Alike, opened, changed]
      exact ⟨rfl, rfl⟩
  | @client mover client memory isThere step =>
    have rule := clientRule_of_step step
    by_cases isSelf : mover = index
    · subst isSelf
      exact .inr ⟨client, memory, rfl, rule⟩
    · have notHeld : goal ∉ (coordinator.clientAt mover).held :=
        hidden.others (.client mover) (by simpa using isSelf)
      refine .inl ⟨⟨?_, ?_, ?_⟩, ?_, ?_⟩
      · intro current
        rcases rule.cells.1 current with before | held
        · exact hidden.current before
        · exact notHeld held
      · intro pending
        rcases rule.cells.2 pending with before | held
        · exact hidden.pending before
        · exact notHeld held
      · intro actor apart holds
        rw [holdsOf_withClient isThere] at holds
        split at holds
        · rcases rule.held holds with before | current | pending
          · exact notHeld before
          · exact hidden.current current
          · exact hidden.pending pending
        · exact hidden.others actor apart holds
      · exact clientAt_withClient_other isThere fun same => isSelf same.symm
      · exact alike_of_eq (rule.progress_eq notHeld)
  | @worker choice worker memory step =>
    have rule := workerRule_of_step step
    have notHeld : goal ∉ coordinator.worker.held := hidden.others .worker (by simp)
    refine .inl ⟨⟨?_, ?_, ?_⟩, rfl, alike_of_eq (rule.progress_eq notHeld)⟩
    · exact fun current => hidden.current (rule.cells.1 current)
    · exact fun pending => hidden.pending (rule.cells.2 pending)
    · intro actor apart holds
      cases actor with
      | worker =>
        rcases rule.held holds with before | pending
        · exact notHeld before
        · exact hidden.pending pending
      | client other => exact hidden.others (.client other) apart holds
  | observe | pass =>
    exact .inl ⟨⟨hidden.current, hidden.pending, hidden.others⟩, rfl, rfl, rfl⟩
  | take other =>
    exact .inl ⟨⟨hidden.current, hidden.pending, hidden.others⟩, rfl, alike_take other⟩

theorem Hidden.letGo (hidden : Hidden coordinator index goal) (other : Goal.Id) :
    Hidden (coordinator.letGo other) index goal := by
  obtain ⟨progress, changed⟩ := letGo_eq coordinator other
  rw [changed]
  exact ⟨hidden.current, hidden.pending, hidden.others⟩

/-- Goals that are held have a number that was given out, and nothing became of the others. -/
structure Counted (coordinator : ArmLink.Coordinator) : Prop where
  current : ∀ goal, coordinator.memory.current = some goal → goal < coordinator.memory.nextId
  pending : ∀ goal, coordinator.jobAt .pending = some goal → goal < coordinator.memory.nextId
  threads : ∀ actor goal, goal ∈ coordinator.holdsOf actor → goal < coordinator.memory.nextId
  blank : ∀ goal, coordinator.memory.nextId ≤ goal →
    (coordinator.memory.progress goal).finished = false ∧
      (coordinator.memory.progress goal).sent = []

/-- No turn makes somebody hold a goal that nobody held, unless its number is new. -/
theorem Turn.isHeld (turn : Turn coordinator next) (held : next.isHeld goal = true) :
    coordinator.isHeld goal = true ∨
      (goal = coordinator.memory.nextId ∧ goal < next.memory.nextId) := by
  have byActor : ∀ actor, goal ∈ coordinator.holdsOf actor → coordinator.isHeld goal = true :=
    fun actor holds => isHeld_iff.mpr (.inr (.inr ⟨actor, holds⟩))
  have byCurrent : coordinator.memory.current = some goal → coordinator.isHeld goal = true :=
    fun current => isHeld_iff.mpr (.inl current)
  have byPending : coordinator.jobAt .pending = some goal → coordinator.isHeld goal = true :=
    fun pending => isHeld_iff.mpr (.inr (.inl pending))
  cases turn with
  | @call place memory isOpen opening =>
    obtain ⟨nextId, -, rfl⟩ := opening.memory_eq
    rcases isHeld_iff.mp held with current | pending | ⟨actor, holds⟩
    · exact .inl (byCurrent current)
    · exact .inl (byPending pending)
    · rcases holdsOf_opened opening holds with before | ⟨-, isNew, numbered⟩
      · exact .inl (byActor actor before)
      · exact .inr ⟨isNew, numbered⟩
  | @client index client memory inside step =>
    have rule := clientRule_of_step step
    left
    rcases isHeld_iff.mp held with current | pending | ⟨actor, holds⟩
    · exact (rule.cells.1 current).elim byCurrent (byActor (.client index))
    · exact (rule.cells.2 pending).elim byPending (byActor (.client index))
    · rw [holdsOf_withClient inside] at holds
      split at holds
      · rcases rule.held holds with before | current | pending
        · exact byActor (.client index) before
        · exact byCurrent current
        · exact byPending pending
      · exact byActor actor holds
  | @worker choice worker memory step =>
    have rule := workerRule_of_step step
    left
    rcases isHeld_iff.mp held with current | pending | ⟨actor, holds⟩
    · exact byCurrent (rule.cells.1 current)
    · exact byPending (rule.cells.2 pending)
    · cases actor with
      | worker =>
        rcases rule.held holds with before | pending
        · exact byActor .worker before
        · exact byPending pending
      | client index => exact byActor (.client index) holds
  | observe | pass | take => exact .inl held

/-- Nothing becomes of a goal that nobody holds. -/
theorem Turn.alike (turn : Turn coordinator next) (notHeld : coordinator.isHeld goal = false) :
    Alike coordinator next goal := by
  have nobody : ∀ actor, goal ∉ coordinator.holdsOf actor := by
    intro actor holds
    rw [isHeld_iff.mpr (.inr (.inr ⟨actor, holds⟩))] at notHeld
    cases notHeld
  cases turn with
  | @call place memory isOpen opening =>
    obtain ⟨nextId, -, rfl⟩ := opening.memory_eq
    exact ⟨rfl, rfl⟩
  | client index inside step =>
    exact alike_of_eq ((clientRule_of_step step).progress_eq (nobody (.client index)))
  | worker choice step => exact alike_of_eq ((workerRule_of_step step).progress_eq (nobody .worker))
  | observe | pass => exact ⟨rfl, rfl⟩
  | take other => exact alike_take other

theorem Counted.numbered (counted : Counted coordinator) (held : coordinator.isHeld goal = true) :
    goal < coordinator.memory.nextId := by
  rcases isHeld_iff.mp held with current | pending | ⟨actor, holds⟩
  · exact counted.current goal current
  · exact counted.pending goal pending
  · exact counted.threads actor goal holds

theorem Counted.turn (counted : Counted coordinator) (turn : Turn coordinator next) :
    Counted next := by
  have numbered : ∀ {goal}, next.isHeld goal = true → goal < next.memory.nextId := by
    intro goal held
    rcases turn.isHeld held with before | ⟨-, numbered⟩
    · exact Nat.lt_of_lt_of_le (counted.numbered before) turn.nextId_le
    · exact numbered
  refine ⟨?_, ?_, ?_, ?_⟩
  · exact fun goal current => numbered (isHeld_iff.mpr (.inl current))
  · exact fun goal pending => numbered (isHeld_iff.mpr (.inr (.inl pending)))
  · exact fun actor goal holds => numbered (isHeld_iff.mpr (.inr (.inr ⟨actor, holds⟩)))
  · intro goal above
    have above : coordinator.memory.nextId ≤ goal := Nat.le_trans turn.nextId_le above
    have notHeld : coordinator.isHeld goal = false :=
      Bool.eq_false_iff.mpr fun held => Nat.not_lt.mpr above (counted.numbered held)
    obtain ⟨finished, sent⟩ := turn.alike notHeld
    rw [finished, sent]
    exact counted.blank goal above

theorem Counted.letGo (counted : Counted coordinator) {goal : Goal.Id}
    (numbered : goal < coordinator.memory.nextId) : Counted (coordinator.letGo goal) := by
  have blank : ∀ other, coordinator.memory.nextId ≤ other →
      ((coordinator.letGo goal).memory.progress other).finished = false ∧
        ((coordinator.letGo goal).memory.progress other).sent = [] := by
    intro other above
    have apart : goal ≠ other := Nat.ne_of_lt (Nat.lt_of_lt_of_le numbered above)
    rw [letGo_progress_eq goal (.inl apart)]
    exact counted.blank other above
  obtain ⟨progress, changed⟩ := letGo_eq coordinator goal
  rw [changed] at blank ⊢
  exact ⟨counted.current, counted.pending, counted.threads, blank⟩

theorem counted_of_reachable {config : Config} {context : Context Unit}
    (started : start config context = .ok first) (run : Reachable first coordinator) :
    Counted coordinator := by
  refine run.induct ?_ (fun _ _ _ counted => counted.turn)
    (fun _ _ numbered counted => counted.letGo numbered)
  rw [eq_of_start started]
  refine ⟨(fun _ current => nomatch current), (fun _ pending => nomatch pending), ?_,
    fun _ _ => ⟨rfl, rfl⟩⟩
  intro actor goal holds
  cases actor with
  | worker => cases holds
  | client index =>
    rw [holdsOf, clientAt] at holds
    cases holds

/-- The goal of a submitter that has not been checked yet. -/
def ClientPlace.asking : ClientPlace → Option Goal.Id
  | .submitting (.askAlive id _) | .submitting (.askState id _) => some id
  | _ => none

/-- Whether every goal that is being checked is only its submitter's, and nothing became of it. -/
def Fresh (coordinator : ArmLink.Coordinator) : Prop :=
  ∀ index goal, (coordinator.clientAt index).place.asking = some goal →
    (coordinator.clientAt index).finishing = none ∧ Hidden coordinator index goal ∧
      (coordinator.memory.progress goal).finished = false ∧
      (coordinator.memory.progress goal).sent = []

/-- A client checks a goal only if it did so before, and leaves everything else alone meanwhile. -/
theorem ClientRule.asking {workerEnded : Bool} {actor : Actor} {client client' : Client}
    {memory memory' : Memory}
    (rule : ClientRule workerEnded actor client memory client' memory')
    (asking : client'.place.asking = some goal) :
    client.place.asking = some goal ∧
      (client.finishing = none → client'.finishing = none ∧ memory' = memory) := by
  cases rule with
  | finish rule =>
    rw [rule.place_eq] at asking
    refine ⟨asking, fun free => ?_⟩
    cases rule with
    | mark busy | late busy | send busy => rw [free] at busy; cases busy
  | submit free stands rule =>
    rw [stands]
    cases rule with
    | alive => exact ⟨asking, fun _ => ⟨free, rfl⟩⟩
    | unlockOld | install => rw [finishIf_place] at asking; cases asking
    | @lockExec job superseded => cases superseded <;> cases asking
    | _ => cases asking
  | cancel _ _ rule => cases rule <;> cases asking
  | @exchange state =>
    obtain ⟨answer, told | told⟩ := told_cases (memory.context.exchangeState state).1 state
    · rw [goto_place, told] at asking; cases asking
    · rw [goto_place, told] at asking; cases asking
  | stop _ _ rule =>
    cases rule with
    | read => rw [finishIf_place] at asking; cases asking
    | _ => cases asking
  | close _ _ rule =>
    cases rule with
    | takePending | takeCurrent => rw [finishIf_place] at asking; cases asking
    | _ => cases asking

theorem inside_of_asking (asking : (coordinator.clientAt index).place.asking = some goal) :
    index < coordinator.clients.length := by
  refine lt_length_of_ne_idle ?_
  intro idles
  rw [idles] at asking
  cases asking

theorem held_of_asking {client : Client} (asking : client.place.asking = some goal) :
    goal ∈ client.held := by
  rw [Client.held_eq]
  refine List.mem_append_right _ ?_
  unfold ClientPlace.asking at asking
  split at asking <;> first
    | (rename_i stands; rw [stands]; exact List.mem_singleton.mpr (Option.some.inj asking).symm)
    | cases asking

theorem Fresh.turn (fresh : Fresh coordinator) (counted : Counted coordinator)
    (turn : Turn coordinator next) : Fresh next := by
  intro index goal asking
  by_cases asked : (coordinator.clientAt index).place.asking = some goal
  · obtain ⟨free, hidden, undecided, silent⟩ := fresh index goal asked
    have inside := inside_of_asking asked
    have numbered : goal < coordinator.memory.nextId :=
      counted.threads (.client index) goal (held_of_asking asked)
    rcases hidden.turn inside numbered turn with ⟨hidden', same, finished, sent⟩ |
      ⟨client, memory, rfl, rule⟩
    · exact ⟨by rw [same]; exact free, hidden', finished.trans undecided, sent.trans silent⟩
    · rw [clientAt_withClient_self inside] at asking ⊢
      obtain ⟨free', rfl⟩ := (rule.asking asking).2 free
      refine ⟨free', ⟨hidden.current, hidden.pending, ?_⟩, undecided, silent⟩
      intro actor apart holds
      rw [holdsOf_withClient inside, if_neg apart] at holds
      exact hidden.others actor apart holds
  · -- the call has just begun, its goal's number being new
    cases turn with
    | @call place memory isOpen opening =>
      rw [clientAt_opened] at asking ⊢
      split at asking
      · rename_i isNew
        rw [if_pos isNew]
        have isGoal : goal = coordinator.memory.nextId := (opening.held (held_of_asking asking)).1
        obtain ⟨nextId, -, changed⟩ := opening.memory_eq
        subst changed
        refine ⟨rfl, ⟨?_, ?_, ?_⟩, ?_⟩
        · intro current
          exact absurd (counted.current goal current) (by rw [isGoal]; exact Nat.lt_irrefl _)
        · intro pending
          exact absurd (counted.pending goal pending) (by rw [isGoal]; exact Nat.lt_irrefl _)
        · intro actor apart holds
          rcases holdsOf_opened opening holds with before | ⟨isClient, -, -⟩
          · exact absurd (counted.threads actor goal before)
              (by rw [isGoal]; exact Nat.lt_irrefl _)
          · exact apart (by rw [isClient, isNew])
        · exact counted.blank goal (Nat.le_of_eq isGoal.symm)
      · exact absurd asking asked
    | @client mover client memory inside step =>
      by_cases isMover : index = mover
      · subst isMover
        rw [clientAt_withClient_self inside] at asking
        exact absurd ((clientRule_of_step step).asking asking).1 asked
      · rw [clientAt_withClient_other inside isMover] at asking
        exact absurd asking asked
    | worker | observe | pass | take => exact absurd asking asked

theorem Fresh.letGo (fresh : Fresh coordinator) (other : Goal.Id) :
    Fresh (coordinator.letGo other) := by
  intro index goal asking
  rw [letGo_clientAt] at asking ⊢
  obtain ⟨free, hidden, undecided, silent⟩ := fresh index goal asking
  have held : coordinator.isHeld goal = true :=
    isHeld_iff.mpr (.inr (.inr ⟨.client index, held_of_asking asking⟩))
  rw [letGo_progress_eq other (.inr (.inl held))]
  exact ⟨free, hidden.letGo other, undecided, silent⟩

/-- In every run, a goal that is being checked is only its submitter's, and nothing became of it. -/
theorem fresh_of_reachable {config : Config} {context : Context Unit}
    (started : start config context = .ok first) (run : Reachable first coordinator) :
    Fresh coordinator := by
  refine run.induct ?_ ?_ (fun _ goal _ fresh => fresh.letGo goal)
  · rw [eq_of_start started]
    intro index goal asking
    rw [clientAt] at asking
    cases asking
  · exact fun _ _ before fresh turn => fresh.turn (counted_of_reachable started before) turn

end ArmLink.Coordinator
