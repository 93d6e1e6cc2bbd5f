import ArmLink.Proofs.Coordinator.Outcomes

/-!
Requests that are refused.

A goal that fails the checks, a call to cancel a goal that does not hold the slot, and a change of
state that stops nothing are over before anything was written that others share.  What each of their
steps comes to is told for the coordinator as a whole: one client is replaced and the memory is as
said (`withClient`), so the worker, the other clients and every cell that is not named are as before.

Letting go of goals comes after each step, so it has to be shown to find nothing: a goal without an
outcome is held by somebody (`AllKept`), and the steps in question let no goal go (`Spares`).
`refusing_of_reachable` is the main statement.
-/

namespace ArmLink.Coordinator

open Goal Link Motion Telemetry

variable {coordinator next first : ArmLink.Coordinator} {index : Nat} {client : Client}
  {memory : Memory} {goal id : Goal.Id} {rejection : Rejection}

theorem inside_of_place (there : (coordinator.clientAt index).place ≠ .done .nothing) :
    index < coordinator.clients.length :=
  lt_length_of_ne_idle fun idles => there (by rw [idles]; rfl)

/-! ### Steps that let no goal go -/

/-- Whether letting go would find nothing. -/
def AllKept (coordinator : ArmLink.Coordinator) : Prop :=
  ∀ goal, 1 ≤ goal → goal < coordinator.memory.nextId → Kept coordinator goal

theorem collect_of_kept (kept : AllKept coordinator) : coordinator.collect = coordinator := by
  have all : ∀ goals : List Goal.Id, (∀ goal ∈ goals, Kept coordinator goal) →
      goals.foldl ArmLink.Coordinator.letGo coordinator = coordinator := by
    intro goals
    induction goals with
    | nil => exact fun _ => rfl
    | cons goal goals ih =>
      intro kept
      have nothing : coordinator.letGo goal = coordinator := by
        rw [letGo, if_pos]
        rw [Bool.or_eq_true]
        exact kept goal List.mem_cons_self
      rw [List.foldl_cons, nothing]
      exact ih fun other inside => kept other (List.mem_cons_of_mem _ inside)
  refine all _ fun goal inside => ?_
  obtain ⟨positive, below⟩ := List.mem_range'_1.mp inside
  exact kept goal positive (Nat.lt_of_lt_of_le below (by omega))

theorem allKept_of_reachable {config : Config} {context : Context Unit}
    (started : start config context = .ok first) (run : Reachable first coordinator) :
    AllKept coordinator :=
  fun _ positive below => kept_of_reachable started run ⟨positive, below⟩

/-- A step of a client after which every goal is held as before, or has its outcome. -/
structure Spares (coordinator : ArmLink.Coordinator) (index : Nat) (client : Client)
    (memory : Memory) : Prop where
  nextId : memory.nextId = coordinator.memory.nextId
  current : memory.current = coordinator.memory.current
  pending : memory.pending = coordinator.memory.pending
  finished : ∀ goal, (coordinator.memory.progress goal).finished = true →
    (memory.progress goal).finished = true
  held : ∀ goal ∈ (coordinator.clientAt index).held,
    goal ∈ client.held ∨ (memory.progress goal).finished = true

theorem Spares.allKept (spares : Spares coordinator index client memory)
    (inside : index < coordinator.clients.length) (kept : AllKept coordinator) :
    AllKept (coordinator.withClient index client memory) := by
  intro goal positive below
  rcases kept goal positive (spares.nextId ▸ below) with decided | held
  · exact .inl (spares.finished goal decided)
  · rcases isHeld_iff.mp held with current | pending | ⟨actor, holds⟩
    · exact .inr (isHeld_iff.mpr (.inl (spares.current.trans current)))
    · refine .inr (isHeld_iff.mpr (.inr (.inl ?_)))
      rw [← pending]
      exact congrArg (Option.map (·.id)) spares.pending
    · by_cases isSelf : actor = .client index
      · subst isSelf
        rcases spares.held goal holds with holds | decided
        · refine .inr (isHeld_iff.mpr (.inr (.inr ⟨.client index, ?_⟩)))
          rw [holdsOf_withClient inside, if_pos rfl]
          exact holds
        · exact .inl decided
      · refine .inr (isHeld_iff.mpr (.inr (.inr ⟨actor, ?_⟩)))
        rw [holdsOf_withClient inside, if_neg isSelf]
        exact holds

/-- After a step that lets no goal go, nothing is let go. -/
theorem step_of_spares (kept : AllKept coordinator) (inside : index < coordinator.clients.length)
    (step : (coordinator.clientAt index).step coordinator.worker.isGone (.client index)
      coordinator.memory = some (client, memory))
    (spares : Spares coordinator index client memory) :
    coordinator.step (.client index) = some (coordinator.withClient index client memory) := by
  rw [step_client inside step, collect_of_kept (spares.allKept inside kept)]

/-- A step that leaves what became of goals, by a client that holds none. -/
theorem Spares.of_nothing_held (free : (coordinator.clientAt index).finishing = none)
    (nothing : (coordinator.clientAt index).place.keeps = [])
    (nextId : memory.nextId = coordinator.memory.nextId)
    (current : memory.current = coordinator.memory.current)
    (pending : memory.pending = coordinator.memory.pending)
    (progress : memory.progress = coordinator.memory.progress) :
    Spares coordinator index client memory where
  nextId := nextId
  current := current
  pending := pending
  finished := fun _ decided => progress ▸ decided
  held := fun goal holds => by
    rw [Client.held_of_free free, nothing] at holds
    cases holds

/-- A step that changes what became of one goal, by a client that holds that goal at most. -/
theorem Spares.of_modify {change : Progress → Progress}
    (only : ∀ goal ∈ (coordinator.clientAt index).held, goal = id)
    (finished : (coordinator.memory.progress id).finished = true →
      (change (coordinator.memory.progress id)).finished = true)
    (held : id ∈ client.held ∨ (change (coordinator.memory.progress id)).finished = true) :
    Spares coordinator index client (coordinator.memory.modify id change) where
  nextId := rfl
  current := rfl
  pending := rfl
  finished := fun goal decided => by
    rw [Memory.modify_progress]
    split
    · rename_i same
      subst same
      exact finished decided
    · exact decided
  held := fun goal holds => by
    rw [only goal holds, Memory.modify_progress, if_pos rfl]
    exact held

/-- A client that is done makes no step. -/
theorem step_of_done {answer : Answer} (free : (coordinator.clientAt index).finishing = none)
    (stands : (coordinator.clientAt index).place = .done answer) :
    coordinator.step (.client index) = none := by
  cases there : coordinator.clients[index]? with
  | none => simp [ArmLink.Coordinator.step, there]
  | some client =>
    rw [clientAt_eq_of_getElem? there] at free stands
    simp [ArmLink.Coordinator.step, there, Client.step, free, stands]

/-! ### Checking a goal -/

theorem keeps_of_asking {place : ClientPlace} (asking : place.asking = some id) :
    place.keeps = [id] := by
  unfold ClientPlace.asking at asking
  split at asking <;> cases asking <;> rfl

/-- A submitter that checks its goal leaves the memory alone, whatever it finds. -/
theorem step_of_asking (fresh : Fresh coordinator) (kept : AllKept coordinator)
    (asking : (coordinator.clientAt index).place.asking = some id) :
    ∃ client, coordinator.step (.client index) =
      some (coordinator.withClient index client coordinator.memory) := by
  obtain ⟨free, -, -, -⟩ := fresh index id asking
  have inside := inside_of_asking asking
  obtain ⟨client, step, holds⟩ : ∃ client : Client,
      (coordinator.clientAt index).step coordinator.worker.isGone (.client index)
        coordinator.memory = some (client, coordinator.memory) ∧ id ∈ client.held := by
    cases stands : (coordinator.clientAt index).place with
    | submitting place =>
      rw [stands] at asking
      cases place with
      | askAlive _ goal =>
        cases asking
        simp only [Client.step, free, stands, Submitting.step]
        split
        · exact ⟨_, rfl, by rw [held_goto free]; exact List.mem_singleton_self _⟩
        · exact ⟨_, rfl, List.mem_cons_self⟩
      | askState _ goal =>
        cases asking
        simp only [Client.step, free, stands, Submitting.step]
        split
        · exact ⟨_, rfl, by rw [held_goto free]; exact List.mem_singleton_self _⟩
        · exact ⟨_, rfl, List.mem_cons_self⟩
      | _ => cases asking
    | _ =>
      rw [stands] at asking
      cases asking
  refine ⟨client, step_of_spares kept inside step ⟨rfl, rfl, rfl, fun _ decided => decided, ?_⟩⟩
  intro goal held
  rw [Client.held_of_free free, keeps_of_asking asking] at held
  exact .inl (List.mem_singleton.mp held ▸ holds)

/-! ### A goal that fails the checks -/

/-- What a submitter does whose goal has failed the checks: until it has answered, it changes nothing
but what becomes of that goal, which is told its rejection and nothing else. -/
structure Rejecting (coordinator : ArmLink.Coordinator) (index : Nat) (id : Goal.Id)
    (rejection : Rejection) : Prop where
  told : (coordinator.memory.progress id).sent = [] ∨
    (coordinator.memory.progress id).sent = [.finished (.rejected rejection)]
  goesOn : coordinator.answer? index = none → ∃ client change,
    coordinator.step (.client index) =
      some (coordinator.withClient index client (coordinator.memory.modify id change))
  answered : ∀ answer, coordinator.answer? index = some answer →
    answer = .submitted id ∧
      (coordinator.memory.progress id).sent = [.finished (.rejected rejection)] ∧
      coordinator.step (.client index) = none

theorem Refused.rejecting (refused : Refused coordinator index id rejection)
    (kept : AllKept coordinator) : Rejecting coordinator index id rejection := by
  have inside : index < coordinator.clients.length :=
    inside_of_place (by rw [refused.stands]; simp)
  have only (finishing : Finishing) (busy : (coordinator.clientAt index).finishing = some finishing) :
      ∀ goal ∈ (coordinator.clientAt index).held, goal = finishing.goal := by
    intro goal holds
    rw [Client.held_eq, busy, refused.stands] at holds
    simpa [ClientPlace.keeps] using holds
  refine ⟨refused.sent.1, fun unanswered => ?_, fun answer answered => ?_⟩
  · rcases refused.state with ⟨busy, undecided, -⟩ | ⟨busy, decided, -⟩ | ⟨free, -, -⟩
    · let client : Client := { coordinator.clientAt index with
        finishing := some (.send id (.rejected rejection)), first := true }
      have sends : client.finishing = some (.send id (.rejected rejection)) := rfl
      have step : (coordinator.clientAt index).step coordinator.worker.isGone (.client index)
          coordinator.memory = some (client,
            coordinator.memory.modify id fun progress => { progress with finished := true }) := by
        rw [Client.step, busy]
        simp [Thread.finishStep, undecided, client]
      exact ⟨_, _, step_of_spares kept inside step
        (.of_modify (only _ busy) (fun _ => rfl) (.inl (Client.mem_held_of_finishing sends)))⟩
    · have step : (coordinator.clientAt index).step coordinator.worker.isGone (.client index)
          coordinator.memory = some ({ coordinator.clientAt index with finishing := none },
          coordinator.memory.modify id (·.send (.finished (.rejected rejection)))) := by
        rw [Client.step, busy]
        rfl
      have stays : ((coordinator.memory.progress id).send
          (.finished (.rejected rejection))).finished = true := by
        rw [Progress.send_finished]
        exact decided
      exact ⟨_, _, step_of_spares kept inside step
        (.of_modify (only _ busy) (fun _ => stays) (.inr stays))⟩
    · cases unanswered.symm.trans (answer?_of_done inside free refused.stands)
  · obtain ⟨free, stands⟩ := done_of_answer? answered
    have isAnswer : ClientPlace.done answer = .done (.submitted id) :=
      stands.symm.trans refused.stands
    cases isAnswer
    exact ⟨rfl, refused.sent.2 (by rw [answered]; exact Option.some_ne_none _),
      step_of_done free stands⟩

/-! ### A goal that does not hold the slot -/

/-- A canceller that has not found its goal in the slot, or that has answered so. -/
def GivesUp (coordinator : ArmLink.Coordinator) (index : Nat) (id : Goal.Id) : Prop :=
  (coordinator.clientAt index).finishing = none ∧
    ((coordinator.clientAt index).place = .canceling (.unlockCurrent id false) ∨
      (coordinator.clientAt index).place = .done (.canceled false))

theorem GivesUp.inside (givesUp : GivesUp coordinator index id) :
    index < coordinator.clients.length := by
  rcases givesUp.2 with stands | stands <;> exact inside_of_place (by rw [stands]; simp)

theorem GivesUp.turn (givesUp : GivesUp coordinator index id) (turn : Turn coordinator next) :
    GivesUp next index id := by
  have inside := givesUp.inside
  cases turn with
  | call =>
    rw [GivesUp, clientAt_opened_of_lt inside]
    exact givesUp
  | @client mover client memory isThere step =>
    by_cases isMover : index = mover
    · subst isMover
      rw [GivesUp, clientAt_withClient_self isThere]
      rcases givesUp with ⟨free, waits | done⟩
      · simp only [Client.step, free, waits, Canceling.step, Option.some.injEq, Prod.mk.injEq] at step
        obtain ⟨rfl, -⟩ := step
        exact ⟨free, .inr rfl⟩
      · simp [Client.step, free, done] at step
    · rw [GivesUp, clientAt_withClient_other isThere isMover]
      exact givesUp
  | worker | observe | pass | take => exact givesUp

theorem GivesUp.of_reachable (givesUp : GivesUp coordinator index id)
    (run : Reachable coordinator next) : GivesUp next index id := by
  refine run.induct (motive := fun later => GivesUp later index id) givesUp
    (fun _ _ _ givesUp turn => givesUp.turn turn) fun _ _ _ givesUp => ?_
  rw [GivesUp, letGo_clientAt]
  exact givesUp

/-- What a canceller does that has not found its goal in the slot: it gives the lock back, and
answers that it has not canceled anything. -/
structure Missing (coordinator : ArmLink.Coordinator) (index : Nat) : Prop where
  goesOn : coordinator.answer? index = none → ∃ client,
    coordinator.step (.client index) =
      some (coordinator.withClient index client (coordinator.memory.release .current))
  answered : ∀ answer, coordinator.answer? index = some answer →
    answer = .canceled false ∧ coordinator.step (.client index) = none

theorem GivesUp.missing (givesUp : GivesUp coordinator index id) (kept : AllKept coordinator) :
    Missing coordinator index := by
  have inside := givesUp.inside
  obtain ⟨free, stands⟩ := givesUp
  refine ⟨fun unanswered => ?_, fun answer answered => ?_⟩
  · rcases stands with waits | done
    · have step : (coordinator.clientAt index).step coordinator.worker.isGone (.client index)
          coordinator.memory = some ((coordinator.clientAt index).goto (.done (.canceled false)),
            coordinator.memory.release .current) := by
        simp [Client.step, free, waits, Canceling.step]
      exact ⟨_, step_of_spares kept inside step
        (.of_nothing_held free (by rw [waits]; rfl) rfl rfl rfl rfl)⟩
    · cases unanswered.symm.trans (answer?_of_done inside free done)
  · obtain ⟨-, stood⟩ := done_of_answer? answered
    rcases stands with waits | done
    · cases stood.symm.trans waits
    · cases stood.symm.trans done
      exact ⟨rfl, step_of_done free done⟩

/-! ### Beginnings -/

/-- Whether a client stands where it has no goal to give an outcome first. -/
def ClientPlace.isPlain : ClientPlace → Bool
  | .canceling (.lockCurrent _) | .canceling (.read _) | .exchanging _ | .stopping .loadGoal _ => true
  | _ => false

/-- A client that stands at one of the first places of its call gives no outcome. -/
def Plain (coordinator : ArmLink.Coordinator) : Prop :=
  ∀ index, (coordinator.clientAt index).place.isPlain = true →
    (coordinator.clientAt index).finishing = none

theorem ClientRule.plain {workerEnded : Bool} {actor : Actor} {client client' : Client}
    {memory memory' : Memory}
    (rule : ClientRule workerEnded actor client memory client' memory')
    (plain : client.place.isPlain = true → client.finishing = none)
    (isPlain : client'.place.isPlain = true) : client'.finishing = none := by
  cases rule with
  | finish rule =>
    rw [rule.place_eq] at isPlain
    have free := plain isPlain
    cases rule with
    | mark busy | late busy | send busy => cases free.symm.trans busy
  | exchange free => exact free
  | submit free _ rule =>
    cases rule with
    | unlockOld | install => rw [finishIf_place] at isPlain; cases isPlain
    | notAlive | invalid => cases isPlain
    | _ => exact free
  | cancel free _ rule =>
    cases rule with
    | lockExec => cases isPlain
    | _ => exact free
  | stop free _ rule =>
    cases rule with
    | read => rw [finishIf_place] at isPlain; cases isPlain
    | _ => exact free
  | close free _ rule =>
    cases rule with
    | takePending | takeCurrent => rw [finishIf_place] at isPlain; cases isPlain
    | _ => exact free

theorem plain_of_reachable {config : Config} {context : Context Unit}
    (started : start config context = .ok first) (run : Reachable first coordinator) :
    Plain coordinator := by
  refine run.induct ?_ ?_ fun _ _ _ plain => ?_
  · rw [eq_of_start started]
    exact fun _ _ => rfl
  · intro coordinator next _ plain turn index isPlain
    cases turn with
    | call =>
      rw [clientAt_opened] at isPlain ⊢
      split at isPlain
      · rw [if_pos ‹_›]
      · rw [if_neg ‹_›]
        exact plain index isPlain
    | client mover inside step =>
      rw [clientAt_withClient inside] at isPlain ⊢
      split at isPlain
      · rename_i same
        subst same
        rw [if_pos rfl]
        exact (clientRule_of_step step).plain (plain index) isPlain
      · rw [if_neg ‹_›]
        exact plain index isPlain
    | worker | observe | pass | take => exact plain index isPlain
  · intro index isPlain
    rw [letGo_clientAt] at isPlain ⊢
    exact plain index isPlain

/-- A step from one of the first places that leaves the cells of goals as they are. -/
theorem step_of_plain (plain : Plain coordinator) (kept : AllKept coordinator)
    (isPlain : (coordinator.clientAt index).place.isPlain = true)
    (step : (coordinator.clientAt index).step coordinator.worker.isGone (.client index)
      coordinator.memory = some (client, memory))
    (same : memory.nextId = coordinator.memory.nextId ∧
      memory.current = coordinator.memory.current ∧
      memory.pending = coordinator.memory.pending ∧
      memory.progress = coordinator.memory.progress) :
    coordinator.step (.client index) = some (coordinator.withClient index client memory) := by
  have inside : index < coordinator.clients.length :=
    inside_of_place fun stands => by rw [stands] at isPlain; cases isPlain
  have nothing : (coordinator.clientAt index).place.keeps = [] := by
    unfold ClientPlace.isPlain at isPlain
    split at isPlain <;> first
      | rename_i stands; rw [stands]; rfl
      | cases isPlain
  obtain ⟨nextId, current, pending, progress⟩ := same
  exact step_of_spares kept inside step
    (.of_nothing_held (plain index isPlain) nothing nextId current pending progress)

theorem isHeld_opened {place : ClientPlace} {isOpen : Bool} (nextId : Nat) :
    (coordinator.opened place { coordinator.memory with nextId } isOpen).isHeld goal =
      (coordinator.isHeld goal || (Client.held { place }).contains goal) := by
  simp [isHeld, opened, List.any_append, Bool.or_assoc]

/-- Beginning a call lets no goal go; a goal that is submitted is its submitter's. -/
theorem Opening.allKept {place : ClientPlace} {isOpen : Bool} (kept : AllKept coordinator)
    (opening : Opening coordinator place memory isOpen) :
    AllKept (coordinator.opened place memory isOpen) := by
  intro goal positive below
  have old (nextId : Nat) (numbered : goal < coordinator.memory.nextId) :
      Kept (coordinator.opened place { coordinator.memory with nextId } isOpen) goal := by
    rcases kept goal positive numbered with decided | held
    · exact .inl decided
    · exact .inr (by rw [isHeld_opened, held, Bool.true_or])
  cases opening with
  | submit request =>
    rcases Nat.lt_or_eq_of_le (Nat.le_of_lt_succ below) with numbered | isNew
    · exact old _ numbered
    · refine .inr ?_
      rw [isHeld_opened, isNew, Bool.or_eq_true]
      exact .inr (by simp [Client.held, Submitting.held])
  | cancel | updateState | tellState | shutDown | shutAgain => exact old _ below

theorem step_of_call {request : Request} {place : ClientPlace} {isOpen : Bool}
    (kept : AllKept coordinator) (opening : Opening coordinator place memory isOpen)
    (called : coordinator.call request = some (coordinator.opened place memory isOpen)) :
    coordinator.step (.call request) = some (coordinator.opened place memory isOpen) := by
  simp [ArmLink.Coordinator.step, called, collect_of_kept (opening.allKept kept)]

/-! ### Refusing -/

/-- Requests that are refused leave alone what is not theirs. -/
structure Refusing (coordinator : ArmLink.Coordinator) : Prop where
  /-- Beginning to submit a goal gives it a number. -/
  submits : ∀ goal, coordinator.isClosing = false → coordinator.step (.call (.submit goal)) =
    some (coordinator.opened (.submitting (.askAlive coordinator.memory.nextId goal))
      { coordinator.memory with nextId := coordinator.memory.nextId + 1 } coordinator.isOpen)
  /-- Checking it changes nothing. -/
  checks : ∀ index id, (coordinator.clientAt index).place.asking = some id → ∃ client,
    coordinator.step (.client index) =
      some (coordinator.withClient index client coordinator.memory)
  /-- If it fails, whatever the submitter does from then on changes what becomes of that goal, and
  nothing else; the goal is told its rejection and nothing else. -/
  rejects : ∀ index id rejection, Fails coordinator index id rejection → ∃ client,
    coordinator.step (.client index) =
      some (coordinator.withClient index client coordinator.memory) ∧
    ∀ later, Reachable (coordinator.withClient index client coordinator.memory) later →
      Rejecting later index id rejection
  /-- Beginning to cancel a goal changes nothing. -/
  cancels : ∀ id, coordinator.isClosing = false → coordinator.step (.call (.cancel id)) =
    some (coordinator.opened (.canceling (.lockCurrent id)) coordinator.memory coordinator.isOpen)
  /-- Taking the lock changes its owner. -/
  locks : ∀ index id, (coordinator.clientAt index).place = .canceling (.lockCurrent id) →
    coordinator.memory.owner .current = none → ∃ client,
      client.place = .canceling (.read id) ∧ coordinator.step (.client index) =
        some (coordinator.withClient index client
          (coordinator.memory.taken .current (.client index)))
  /-- If another goal holds the slot, or none, the canceller gives the lock back and answers that it
  did not cancel. -/
  misses : ∀ index id, (coordinator.clientAt index).place = .canceling (.read id) →
    coordinator.memory.current ≠ some id → ∃ client,
      coordinator.step (.client index) =
        some (coordinator.withClient index client coordinator.memory) ∧
      ∀ later, Reachable (coordinator.withClient index client coordinator.memory) later →
        Missing later index
  /-- Beginning to tell of a state changes nothing, and if the arm may run, that is all. -/
  tells : ∀ state, coordinator.isClosing = false → coordinator.step (.call (.tellState state)) =
    some (coordinator.opened
      (if state = .running then .done .nothing else .stopping .loadGoal .nothing)
      coordinator.memory coordinator.isOpen)
  /-- Writing a state changes the state; if the arm may run, that is all. -/
  writes : ∀ index state, (coordinator.clientAt index).place = .exchanging state → ∃ client,
    coordinator.step (.client index) = some (coordinator.withClient index client
      { coordinator.memory with context := (coordinator.memory.context.exchangeState state).2 }) ∧
    (state = .running → ∃ changed, client.place = .done (.updated changed))
  /-- Being told of any state while no goal is installed changes nothing. -/
  ignores : ∀ index answer, (coordinator.clientAt index).place = .stopping .loadGoal answer →
    coordinator.memory.hasGoal = false → ∃ client, client.place = .done answer ∧
      coordinator.step (.client index) =
        some (coordinator.withClient index client coordinator.memory)
  /-- No goal counts as installed when none holds the slot, but while a thread that has emptied the
  slot is about to say so. -/
  vacant : coordinator.memory.current = none →
    (∀ index, (coordinator.clientAt index).place.isBetween = false) →
    coordinator.worker.place.isBetween = false → coordinator.memory.hasGoal = false

theorem refusing_of_reachable {config : Config} {context : Context Unit}
    (started : start config context = .ok first) (run : Reachable first coordinator) :
    Refusing coordinator := by
  have kept := allKept_of_reachable started run
  have fresh := fresh_of_reachable started run
  have plain := plain_of_reachable started run
  have slot := slot_of_reachable started run
  constructor
  case submits =>
    intro goal notClosing
    exact step_of_call kept (.submit goal notClosing) (by simp [call, notClosing, opened])
  case checks => exact fun index id asking => step_of_asking fresh kept asking
  case rejects =>
    intro index id rejection fails
    obtain ⟨next, step, refused⟩ := step_of_fails fresh (counted_of_reachable started run) fails
    obtain ⟨client, quiet⟩ := step_of_asking fresh kept fails.asking
    cases step.symm.trans quiet
    refine ⟨client, quiet, fun later after => (refused.of_reachable after).rejecting ?_⟩
    exact allKept_of_reachable started ((run.step _ quiet).trans after)
  case cancels =>
    intro id notClosing
    exact step_of_call kept (.cancel id notClosing) (by simp [call, notClosing, opened])
  case locks =>
    intro index id stands unowned
    have isPlain : (coordinator.clientAt index).place.isPlain = true := by rw [stands]; rfl
    have free := plain index isPlain
    refine ⟨(coordinator.clientAt index).goto (.canceling (.read id)), rfl,
      step_of_plain plain kept isPlain ?_ ⟨rfl, rfl, rfl, rfl⟩⟩
    simp [Client.step, free, stands, Canceling.step, Memory.acquire, Memory.taken, unowned]
  case misses =>
    intro index id stands elsewhere
    have isPlain : (coordinator.clientAt index).place.isPlain = true := by rw [stands]; rfl
    have free := plain index isPlain
    let client := (coordinator.clientAt index).goto (.canceling (.unlockCurrent id false))
    have step : coordinator.step (.client index) =
        some (coordinator.withClient index client coordinator.memory) := by
      refine step_of_plain plain kept isPlain ?_ ⟨rfl, rfl, rfl, rfl⟩
      simp [Client.step, free, stands, Canceling.step, elsewhere, client]
    have givesUp : GivesUp (coordinator.withClient index client coordinator.memory) index id := by
      rw [GivesUp, clientAt_withClient_self (inside_of_place (by rw [stands]; simp))]
      exact ⟨free, .inl rfl⟩
    refine ⟨client, step, fun later after => (givesUp.of_reachable after).missing ?_⟩
    exact allKept_of_reachable started ((run.step _ step).trans after)
  case tells =>
    intro state notClosing
    exact step_of_call kept (.tellState state notClosing)
      (by simp [call, notClosing, opened, ClientPlace.told])
  case writes =>
    intro index state stands
    have isPlain : (coordinator.clientAt index).place.isPlain = true := by rw [stands]; rfl
    have free := plain index isPlain
    refine ⟨(coordinator.clientAt index).goto
      (if (coordinator.memory.context.exchangeState state).1 then .told state (.updated true)
        else .done (.updated false)),
      step_of_plain plain kept isPlain ?_ ⟨rfl, rfl, rfl, rfl⟩, ?_⟩
    · simp [Client.step, free, stands]
    · rintro rfl
      rw [goto_place]
      split
      · exact ⟨true, if_pos rfl⟩
      · exact ⟨false, rfl⟩
  case ignores =>
    intro index answer stands noGoal
    have isPlain : (coordinator.clientAt index).place.isPlain = true := by rw [stands]; rfl
    have free := plain index isPlain
    refine ⟨(coordinator.clientAt index).goto (.done answer), rfl,
      step_of_plain plain kept isPlain ?_ ⟨rfl, rfl, rfl, rfl⟩⟩
    simp [Client.step, free, stands, Stopping.step, noGoal]
  case vacant =>
    intro vacant clients worker
    rw [slot.settled clients worker, vacant]
    rfl

/-- The statement while a goal is executed and another one, which has no joints, is checked. -/
theorem refusing_streaming : ∃ first coordinator,
    start (plainConfig 1.0) readyContext = .ok first ∧ Reachable first coordinator ∧
    coordinator.worker.place.underWay = some 1 ∧ coordinator.memory.current = some 1 ∧
    (coordinator.clientAt 1).place.asking = some 2 ∧ Refusing coordinator := by
  obtain ⟨coordinator, run, streaming, current, asking⟩ := exists_reachable (plain 1.0)
    (fun last => last.worker.place.underWay = some 1 ∧ last.memory.current = some 1 ∧
      (last.clientAt 1).place.asking = some 2)
    (untilStream zeroGoal ++ [.call (.submit { zeroGoal with jointNames := [] })] ++
      clientSteps 1 1) (by decide +kernel)
  exact ⟨_, coordinator, start_plain 1.0, run, streaming, current, asking,
    refusing_of_reachable (start_plain 1.0) run⟩

end ArmLink.Coordinator
