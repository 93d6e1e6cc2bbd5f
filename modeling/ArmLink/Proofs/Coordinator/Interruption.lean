import ArmLink.Proofs.Coordinator.ShuttingDown

/-!
No request to break off is lost.

Whoever asks for a goal to be broken off raises the flag `interrupt` and asks the executor then.
Two others take requests back: a submitter lowers the flag for the goal that it has put into the
slot, and the worker makes the executor forget when it starts it for a goal.  Neither takes back a
request for a goal whose submitter has lowered the flag already:

* the flag stays raised as long as the goal is current (`Flagged`), so the worker sees it when it
  looks after starting the executor;
* if the executor follows the points of the goal already, it is not started again before it looks
  (`Broken`).

The main statement is `interrupted_of_request`.  A request that comes between putting a goal into
the slot and lowering the flag is lost (`requests_that_do_less`).
-/

namespace ArmLink.Coordinator

open Goal Link Motion Telemetry

/-! ### Raising and lowering the flag -/

/-- The goal for which a submitter will still lower the flag. -/
def Submitting.lowering : Submitting → Option Goal.Id
  | .askAlive id _ | .askState id _ => some id
  | .lockOld job | .readOld job | .flagOld job _ | .interruptOld job _ | .unlockOld job _
  | .lockExec job _ | .settle job | .lockCurrent job | .install job | .unlockCurrent job
  | .lowerFlag job => some job.id
  | .raiseGoal _ | .lockPending _ | .enqueue _ | .unlockPending _ | .unlockExec _ => none

/-- The goal for which a client will still lower the flag. -/
def ClientPlace.lowering : ClientPlace → Option Goal.Id
  | .submitting place => place.lowering
  | _ => none

/-- Whether a client is about to raise the flag. -/
def ClientPlace.raises : ClientPlace → Bool
  | .submitting (.flagOld ..) | .canceling (.flag _) | .stopping .swapFlag _
  | .closing .raiseFlag => true
  | _ => false

/-- Whether a client has raised the flag and is about to ask the executor to break off. -/
def ClientPlace.interrupts : ClientPlace → Bool
  | .submitting (.interruptOld ..) | .canceling (.interrupt _) | .stopping .interrupt _
  | .closing .interrupt => true
  | _ => false

section Steps

variable {workerEnded : Bool} {actor : Actor} {client client' : Client}
  {worker worker' : Worker} {memory memory' : Memory} {goal : Goal.Id}

theorem not_settles_of_raises {place : ClientPlace} (raises : place.raises = true)
    (goal : Goal.Id) : ¬ place.Settles goal := by
  unfold ClientPlace.raises at raises
  split at raises <;> first
    | exact fun settles => settles
    | cases raises

theorem not_settles_of_interrupts {place : ClientPlace} (interrupts : place.interrupts = true)
    (goal : Goal.Id) : ¬ place.Settles goal := by
  unfold ClientPlace.interrupts at interrupts
  split at interrupts <;> first
    | exact fun settles => settles
    | cases interrupts

/-- Nobody comes to lower the flag for a goal but on the way from submitting it. -/
theorem ClientRule.lowering (rule : ClientRule workerEnded actor client memory client' memory')
    (lowering : client'.place.lowering = some goal) : client.place.lowering = some goal := by
  cases rule with
  | finish rule => rw [← rule.place_eq]; exact lowering
  | submit _ stands rule =>
    rw [stands]
    cases rule with
    | unlockOld | install => rw [finishIf_place] at lowering; exact lowering
    | @lockExec job superseded => cases superseded <;> exact lowering
    | notAlive | invalid | lowerFlag | raiseGoal | lockPending | enqueue | unlockPending
    | unlockExec => cases lowering
    | _ => exact lowering
  | cancel _ _ rule => cases rule <;> cases lowering
  | @exchange state =>
    obtain ⟨answer, told | told⟩ := told_cases (memory.context.exchangeState state).1 state
    · rw [goto_place, told] at lowering; cases lowering
    · rw [goto_place, told] at lowering; cases lowering
  | stop _ _ rule =>
    cases rule with
    | read => rw [finishIf_place] at lowering; cases lowering
    | _ => cases lowering
  | close _ _ rule =>
    cases rule with
    | takePending | takeCurrent => rw [finishIf_place] at lowering; cases lowering
    | _ => cases lowering

/-- A goal comes into the slot only from its submitter. -/
theorem ClientRule.installs (rule : ClientRule workerEnded actor client memory client' memory')
    (current : memory'.current = some goal) :
    memory.current = some goal ∨
      ∃ job, client.place = .submitting (.install job) ∧ job.id = goal := by
  cases rule with
  | finish rule =>
    obtain ⟨progress, rfl⟩ := rule.memory_eq
    exact .inl current
  | submit _ stands rule =>
    cases rule with
    | install => exact .inr ⟨_, stands, Option.some.inj current⟩
    | _ => exact .inl current
  | cancel _ _ rule =>
    cases rule with
    | vacate => cases current
    | _ => exact .inl current
  | exchange => exact .inl current
  | stop _ _ rule => cases rule <;> exact .inl current
  | close _ _ rule =>
    cases rule with
    | takeCurrent => cases current
    | _ => exact .inl current

/-- Only a submitter lowers the flag, and only when it has put its goal into the slot. -/
theorem ClientRule.interrupt (rule : ClientRule workerEnded actor client memory client' memory')
    (isUp : memory.interrupt = true) :
    memory'.interrupt = true ∨ ∃ job, client.place = .submitting (.lowerFlag job) := by
  cases rule with
  | finish rule => obtain ⟨progress, rfl⟩ := rule.memory_eq; exact .inl isUp
  | submit _ stands rule =>
    cases rule with
    | lowerFlag => exact .inr ⟨_, stands⟩
    | flagOld => exact .inl rfl
    | _ => exact .inl isUp
  | cancel _ _ rule =>
    cases rule with
    | flag => exact .inl rfl
    | _ => exact .inl isUp
  | exchange => exact .inl isUp
  | stop _ _ rule =>
    cases rule with
    | swapLate | swapFlag => exact .inl rfl
    | _ => exact .inl isUp
  | close _ _ rule =>
    cases rule with
    | raiseFlag => exact .inl rfl
    | _ => exact .inl isUp

theorem ClientRule.raises (rule : ClientRule workerEnded actor client memory client' memory')
    (free : client.finishing = none) (raises : client.place.raises = true) :
    memory'.interrupt = true := by
  cases rule with
  | finish rule => cases rule <;> simp_all
  | submit _ stands rule =>
    rw [stands] at raises
    cases rule with
    | flagOld => rfl
    | _ => cases raises
  | cancel _ stands rule =>
    rw [stands] at raises
    cases rule with
    | flag => rfl
    | _ => cases raises
  | exchange _ stands => rw [stands] at raises; cases raises
  | stop _ stands rule =>
    rw [stands] at raises
    cases rule with
    | swapLate | swapFlag => rfl
    | _ => cases raises
  | close _ stands rule =>
    rw [stands] at raises
    cases rule with
    | raiseFlag => rfl
    | _ => cases raises

theorem ClientRule.interrupts (rule : ClientRule workerEnded actor client memory client' memory')
    (free : client.finishing = none) (interrupts : client.place.interrupts = true) :
    memory'.executorInterrupt = true := by
  cases rule with
  | finish rule => cases rule <;> simp_all
  | submit _ stands rule =>
    rw [stands] at interrupts
    cases rule with
    | interruptOld => rfl
    | _ => cases interrupts
  | cancel _ stands rule =>
    rw [stands] at interrupts
    cases rule with
    | interrupt => rfl
    | _ => cases interrupts
  | exchange _ stands => rw [stands] at interrupts; cases interrupts
  | stop _ stands rule =>
    rw [stands] at interrupts
    cases rule with
    | interrupt => rfl
    | _ => cases interrupts
  | close _ stands rule =>
    rw [stands] at interrupts
    cases rule with
    | interrupt => rfl
    | _ => cases interrupts

/-- No client makes the executor forget that it was asked to break off. -/
theorem ClientRule.executorInterrupt
    (rule : ClientRule workerEnded actor client memory client' memory')
    (isUp : memory.executorInterrupt = true) : memory'.executorInterrupt = true := by
  cases rule with
  | finish rule => obtain ⟨progress, rfl⟩ := rule.memory_eq; exact isUp
  | submit _ _ rule => cases rule <;> first | exact isUp | rfl
  | cancel _ _ rule => cases rule <;> first | exact isUp | rfl
  | exchange => exact isUp
  | stop _ _ rule => cases rule <;> first | exact isUp | rfl
  | close _ _ rule => cases rule <;> first | exact isUp | rfl

theorem WorkerRule.interrupt_eq (rule : WorkerRule worker memory worker' memory') :
    memory'.interrupt = memory.interrupt := by
  cases rule with
  | finish rule => obtain ⟨progress, rfl⟩ := rule.memory_eq; rfl
  | work _ rule =>
    generalize worker.place = place at rule
    cases rule <;> rfl

end Steps

/-! ### What is sent for a goal -/

/-- What is asked of the executor to follow the points of a goal. -/
inductive Record where
  | stream
  | servo
  | hold
deriving DecidableEq, Repr

/-- What a call asks for a goal, if it is one of these. -/
def Call.record? (goal : Goal.Id) : Call → Option Record
  | .stream other _ _ => if other = goal then some .stream else none
  | .servo other => if other = goal then some .servo else none
  | .hold other => if other = goal then some .hold else none
  | _ => none

/-- What some calls ask for a goal, oldest first. -/
def recordsIn (calls : List Call) (goal : Goal.Id) : List Record :=
  calls.filterMap (Call.record? goal)

/-- What was asked for a goal, oldest first. -/
def records (coordinator : ArmLink.Coordinator) (goal : Goal.Id) : List Record :=
  recordsIn coordinator.memory.calls goal

/-- What can still be asked at a place, once the executor has been asked to break off. -/
def WorkerPlace.rest : WorkerPlace → List Record
  | .beginStream _ => [.stream, .hold]
  | .streaming .. | .holding _ => [.hold]
  | .sending .. => [.servo, .hold]
  | _ => []

/-- What can still be asked for a goal, once the executor has been asked to break off. -/
def WorkerPlace.left (place : WorkerPlace) (goal : Goal.Id) : List Record :=
  if place.goal? = some goal then place.rest else []

section Steps

variable {worker worker' : Worker} {memory memory' : Memory} {goal : Goal.Id}

theorem left_of_rest {place : WorkerPlace} (nothing : place.rest = []) : place.left goal = [] := by
  rw [WorkerPlace.left, nothing, ite_self]

theorem left_mine {place : WorkerPlace} {job : Job} (has : place.job? = some job) :
    place.left job.id = place.rest := by
  rw [WorkerPlace.left, WorkerPlace.goal?, has]
  exact if_pos rfl

theorem left_other {place : WorkerPlace} {job : Job} (has : place.job? = some job)
    (other : job.id ≠ goal) : place.left goal = [] := by
  rw [WorkerPlace.left, WorkerPlace.goal?, has]
  exact if_neg fun same => other (Option.some.inj same)

theorem rest_of_watched {place : WorkerPlace} {job : Job} (watching : place.watched = some job) :
    place.rest = [] := by
  cases place <;> first
    | rfl
    | cases watching

theorem rest_afterStream {config : Config} {job : Job} {since : Duration}
    {outcome : Except Follower.Fault Streamed} :
    (worker.afterStream config job since outcome).place.rest = [] := by
  unfold Worker.afterStream
  split
  · split <;> rfl
  · rfl
  · split <;> rfl

theorem recordsIn_note_none {call : Call} (none : call.record? goal = none) :
    recordsIn (memory.note call).calls goal = recordsIn memory.calls goal := by
  show (memory.calls ++ [call]).filterMap _ = _
  rw [List.filterMap_append, List.filterMap_cons_none none]
  exact List.append_nil _

theorem recordsIn_note {call : Call} {record : Record} (some : call.record? goal = some record) :
    recordsIn (memory.note call).calls goal = recordsIn memory.calls goal ++ [record] := by
  show (memory.calls ++ [call]).filterMap _ = _
  rw [List.filterMap_append, List.filterMap_cons_some some]
  rfl

/-- Once the flag is up and the executor has been asked to break off, a step of the worker asks for
the next of what is left at most. -/
theorem WorkerRule.records (rule : WorkerRule worker memory worker' memory')
    (isUp : ∀ job, worker.place = .checkFlag job → job.id = goal → memory.interrupt = true)
    (asked : worker.place.left goal ≠ [] → memory.executorInterrupt = true) :
    (∃ sent, recordsIn memory'.calls goal = recordsIn memory.calls goal ++ sent ∧
      (sent ++ worker'.place.left goal).Sublist (worker.place.left goal)) ∧
    (worker'.place.left goal ≠ [] → memory'.executorInterrupt = true) := by
  -- a step that asks for nothing, and after which nothing is left
  have quiet : ∀ {before after : List Record}, after = before → worker'.place.left goal = [] →
      (∃ sent, after = before ++ sent ∧
        (sent ++ worker'.place.left goal).Sublist (worker.place.left goal)) ∧
      (worker'.place.left goal ≠ [] → memory'.executorInterrupt = true) := by
    intro before after same nothing
    refine ⟨⟨[], by rw [same, List.append_nil], ?_⟩, fun left => absurd nothing left⟩
    rw [nothing]
    exact List.nil_sublist _
  cases rule with
  | finish rule =>
    obtain ⟨progress, rfl⟩ := rule.memory_eq
    rw [rule.place_eq]
    exact ⟨⟨[], (List.append_nil _).symm, List.Sublist.refl _⟩, asked⟩
  | work _ rule =>
    generalize worker.place = place at rule isUp asked quiet ⊢
    cases rule with
    | @notFlagged job isDown =>
      by_cases isGoal : job.id = goal
      · rw [isUp job rfl isGoal] at isDown; cases isDown
      · exact quiet rfl (left_other rfl isGoal)
    | @tick job since isDown =>
      by_cases isGoal : job.id = goal
      · subst isGoal
        rw [asked (by rw [left_mine rfl]; exact List.cons_ne_nil _ _)] at isDown
        cases isDown
      · exact quiet rfl (left_other rfl isGoal)
    | @beginStream job =>
      by_cases isGoal : job.id = goal
      · subst isGoal
        rw [left_mine rfl] at asked ⊢
        rw [goto_place, left_mine rfl]
        exact ⟨⟨[.stream], recordsIn_note (if_pos rfl), List.Sublist.refl _⟩,
          fun _ => asked (List.cons_ne_nil _ _)⟩
      · exact quiet (recordsIn_note_none (if_neg isGoal)) (left_other rfl isGoal)
    | @breakOff job =>
      by_cases isGoal : job.id = goal
      · subst isGoal
        rw [left_mine rfl] at asked ⊢
        rw [goto_place, left_mine rfl]
        exact ⟨⟨[], (List.append_nil _).symm, List.Sublist.refl _⟩,
          fun _ => asked (List.cons_ne_nil _ _)⟩
      · exact quiet rfl (left_other rfl isGoal)
    | @sent job =>
      by_cases isGoal : job.id = goal
      · subst isGoal
        rw [left_mine rfl] at asked ⊢
        rw [goto_place, left_mine rfl]
        exact ⟨⟨[.servo], recordsIn_note (if_pos rfl), List.Sublist.refl _⟩,
          fun _ => asked (List.cons_ne_nil _ _)⟩
      · exact quiet (recordsIn_note_none (if_neg isGoal)) (left_other rfl isGoal)
    | @held job =>
      by_cases isGoal : job.id = goal
      · subst isGoal
        rw [left_of_rest rest_afterStream, left_mine rfl]
        exact ⟨⟨[.hold], recordsIn_note (if_pos rfl), List.Sublist.refl _⟩,
          fun nothing => absurd rfl nothing⟩
      · exact quiet (recordsIn_note_none (if_neg isGoal)) (left_of_rest rest_afterStream)
    | returned | notSent | notHeld => exact quiet rfl (left_of_rest rest_afterStream)
    | watch _ goesOn =>
      refine quiet rfl (left_of_rest ?_)
      rcases goesOn with goesOn | rfl
      · exact rest_of_watched goesOn
      · rfl
    | start | hang => exact quiet (recordsIn_note_none rfl) (left_of_rest rfl)
    | @stop job hang =>
      refine quiet (recordsIn_note_none rfl) (left_of_rest ?_)
      cases hang <;> rfl
    | _ => exact quiet rfl (left_of_rest rfl)

end Steps

/-! ### The flag stays raised -/

variable {coordinator next first : ArmLink.Coordinator} {goal : Goal.Id}

/-- The flag stays raised for the current goal if nobody is about to put the goal into the slot or
to lower the flag for it. -/
theorem interrupt_of_turn (slot : Slot coordinator) (turn : Turn coordinator next)
    (nobody : ∀ index job, (coordinator.clientAt index).place = .submitting (.install job) ∨
      (coordinator.clientAt index).place = .submitting (.lowerFlag job) → job.id ≠ goal)
    (raised : coordinator.memory.current = some goal → coordinator.memory.interrupt = true)
    (current : next.memory.current = some goal) : next.memory.interrupt = true := by
  cases turn with
  | @call place memory isOpen opening =>
    obtain ⟨nextId, -, rfl⟩ := opening.memory_eq
    exact raised current
  | @client mover client memory inside step =>
    have rule := clientRule_of_step step
    have wasCurrent : coordinator.memory.current = some goal := by
      rcases rule.installs current with before | ⟨job, stands, isGoal⟩
      · exact before
      · exact absurd isGoal (nobody mover job (.inl stands))
    rcases rule.interrupt (raised wasCurrent) with isUp | ⟨job, stands⟩
    · exact isUp
    · -- the one who lowers the flag knows that its own goal is current
      have isCurrent := slot.clients mover
      rw [stands] at isCurrent
      have isGoal : job.id = goal := Option.some.inj (isCurrent.symm.trans wasCurrent)
      exact absurd isGoal (nobody mover job (.inr stands))
  | worker choice step =>
    have rule := workerRule_of_step step
    exact rule.interrupt_eq.trans (raised (rule.cells.1 current))
  | observe | pass | take => exact raised current

/-- Whether nobody will lower the flag for a goal any more, and the flag is raised if the goal is
current. -/
structure Flagged (coordinator : ArmLink.Coordinator) (goal : Goal.Id) : Prop where
  numbered : goal < coordinator.memory.nextId
  lowered : ∀ index, (coordinator.clientAt index).place.lowering ≠ some goal
  raised : coordinator.memory.current = some goal → coordinator.memory.interrupt = true

theorem Opening.lowering {place : ClientPlace} {memory : Memory} {isOpen : Bool}
    (opening : Opening coordinator place memory isOpen) (lowering : place.lowering = some goal) :
    goal = coordinator.memory.nextId := by
  cases opening with
  | submit => exact (Option.some.inj lowering).symm
  | tellState state =>
    unfold ClientPlace.told at lowering
    split at lowering <;> cases lowering
  | _ => cases lowering

theorem lowering_of_client {mover : Nat} {client : Client} {memory : Memory}
    (lowered : ∀ index, (coordinator.clientAt index).place.lowering ≠ some goal)
    (inside : mover < coordinator.clients.length)
    (rule : ClientRule coordinator.worker.isGone (.client mover) (coordinator.clientAt mover)
      coordinator.memory client memory) (index : Nat) :
    ((coordinator.withClient mover client memory).clientAt index).place.lowering ≠ some goal := by
  intro lowering
  rw [clientAt_withClient inside] at lowering
  split at lowering
  · exact lowered mover (rule.lowering lowering)
  · exact lowered index lowering

theorem Flagged.turn (flagged : Flagged coordinator goal) (slot : Slot coordinator)
    (turn : Turn coordinator next) : Flagged next goal := by
  refine ⟨Nat.lt_of_lt_of_le flagged.numbered turn.nextId_le, ?_, ?_⟩
  · cases turn with
    | call opening =>
      intro index lowering
      rw [clientAt_opened] at lowering
      split at lowering
      · have isNew := opening.lowering lowering
        have numbered := flagged.numbered
        rw [isNew] at numbered
        exact Nat.lt_irrefl _ numbered
      · exact flagged.lowered index lowering
    | client mover inside step =>
      exact lowering_of_client flagged.lowered inside (clientRule_of_step step)
    | worker | observe | pass | take => exact flagged.lowered
  · refine interrupt_of_turn slot turn ?_ flagged.raised
    rintro index job (stands | stands) isGoal
    · exact flagged.lowered index (by rw [stands, ← isGoal]; rfl)
    · exact flagged.lowered index (by rw [stands, ← isGoal]; rfl)

theorem Flagged.letGo (flagged : Flagged coordinator goal) (other : Goal.Id) :
    Flagged (coordinator.letGo other) goal := by
  obtain ⟨progress, changed⟩ := letGo_eq coordinator other
  rw [changed]
  exact ⟨flagged.numbered, flagged.lowered, flagged.raised⟩

theorem Flagged.of_reachable {config : Config} {context : Context Unit}
    (started : start config context = .ok first) (before : Reachable first coordinator)
    (flagged : Flagged coordinator goal) (after : Reachable coordinator next) :
    Flagged next goal := by
  refine after.induct (motive := fun later => Flagged later goal) flagged ?_
    (fun _ other _ flagged => flagged.letGo other)
  intro later next middle flagged turn
  exact flagged.turn (slot_of_reachable started (before.trans middle)) turn

/-- The flag is raised for the current goal, once its submitter has lowered it. -/
theorem flagged_of_raises {config : Config} {context : Context Unit}
    (started : start config context = .ok first) (run : Reachable first coordinator) {index : Nat}
    (raises : (coordinator.clientAt index).place.raises = true)
    (stored : coordinator.step (.client index) = some next)
    (current : coordinator.memory.current = some goal)
    (lowered : ∀ other, (coordinator.clientAt other).place.lowering ≠ some goal) :
    Flagged next goal := by
  obtain ⟨client, memory, inside, step, rfl⟩ := client_of_step stored
  have rule := clientRule_of_step step
  have free := (settled_of_reachable started run).client_free (not_settles_of_raises raises)
  have numbered : goal < coordinator.memory.nextId :=
    (counted_of_reachable started run).current goal current
  refine collect_induct (motive := fun later => Flagged later goal)
    (fun _ other _ flagged => flagged.letGo other) ⟨?_, ?_, ?_⟩
  · exact Nat.lt_of_lt_of_eq numbered rule.nextId_eq.symm
  · exact lowering_of_client lowered inside rule
  · exact fun _ => rule.raises free raises

/-! ### The executor breaks off -/

/-- Whether a goal is to be broken off: the flag is raised for it, and the executor has been asked
if it may follow the points of the goal. -/
structure Broken (coordinator : ArmLink.Coordinator) (goal : Goal.Id) : Prop
    extends Flagged coordinator goal where
  asked : coordinator.worker.place.left goal ≠ [] → coordinator.memory.executorInterrupt = true

/-- Whether what was asked for a goal between two states is what was left of it in the first, up to
what is left in the second. -/
def Ending (coordinator next : ArmLink.Coordinator) (goal : Goal.Id) : Prop :=
  ∃ sent, next.records goal = coordinator.records goal ++ sent ∧
    (sent ++ next.worker.place.left goal).Sublist (coordinator.worker.place.left goal)

theorem Ending.of_same (records : next.records goal = coordinator.records goal)
    (worker : next.worker = coordinator.worker) : Ending coordinator next goal := by
  refine ⟨[], by rw [records, List.append_nil], ?_⟩
  rw [worker]
  exact List.Sublist.refl _

theorem Ending.trans {last : ArmLink.Coordinator} (ending : Ending coordinator next goal)
    (more : Ending next last goal) : Ending coordinator last goal := by
  obtain ⟨sent, records, left⟩ := ending
  obtain ⟨sentThen, recordsThen, leftThen⟩ := more
  refine ⟨sent ++ sentThen, by rw [recordsThen, records, List.append_assoc], ?_⟩
  rw [List.append_assoc]
  exact (leftThen.append_left sent).trans left

theorem ClientRule.records_eq {workerEnded : Bool} {actor : Actor} {client client' : Client}
    {memory memory' : Memory}
    (rule : ClientRule workerEnded actor client memory client' memory') :
    recordsIn memory'.calls goal = recordsIn memory.calls goal := by
  rcases rule.calls with same | noted
  · rw [same]
  · rw [noted]
    exact recordsIn_note_none rfl

theorem Broken.turn (broken : Broken coordinator goal) (slot : Slot coordinator)
    (turn : Turn coordinator next) : Broken next goal ∧ Ending coordinator next goal := by
  have flagged := broken.toFlagged.turn slot turn
  cases turn with
  | @call place memory isOpen opening =>
    obtain ⟨nextId, -, rfl⟩ := opening.memory_eq
    exact ⟨⟨flagged, broken.asked⟩, .of_same rfl rfl⟩
  | client index inside step =>
    have rule := clientRule_of_step step
    refine ⟨⟨flagged, fun left => rule.executorInterrupt (broken.asked left)⟩, .of_same ?_ rfl⟩
    exact rule.records_eq
  | worker choice step =>
    have rule := workerRule_of_step step
    have isUp : ∀ job, coordinator.worker.place = .checkFlag job → job.id = goal →
        coordinator.memory.interrupt = true := by
      intro job stands isGoal
      have current : coordinator.memory.current = some job.id :=
        slot.worker.of_executing (by rw [stands]; rfl)
      exact broken.raised (by rw [current, isGoal])
    obtain ⟨ending, asked⟩ := rule.records isUp broken.asked
    exact ⟨⟨flagged, asked⟩, ending⟩
  | observe | pass | take => exact ⟨⟨flagged, broken.asked⟩, .of_same rfl rfl⟩

theorem Broken.letGo (broken : Broken coordinator goal) (other : Goal.Id) :
    Broken (coordinator.letGo other) goal := by
  have flagged := broken.toFlagged.letGo other
  obtain ⟨progress, changed⟩ := letGo_eq coordinator other
  rw [changed] at flagged ⊢
  exact ⟨flagged, broken.asked⟩

theorem Ending.letGo (ending : Ending coordinator next goal) (other : Goal.Id) :
    Ending coordinator (next.letGo other) goal := by
  obtain ⟨progress, changed⟩ := letGo_eq next other
  rw [changed]
  exact ending

theorem Broken.of_reachable {config : Config} {context : Context Unit}
    (started : start config context = .ok first) (before : Reachable first coordinator)
    (broken : Broken coordinator goal) (after : Reachable coordinator next) :
    Broken next goal ∧ Ending coordinator next goal := by
  refine after.induct (motive := fun later => Broken later goal ∧ Ending coordinator later goal)
    ⟨broken, .of_same rfl rfl⟩ ?_ ?_
  · intro later next middle ⟨broken, ending⟩ turn
    obtain ⟨brokenThen, more⟩ := broken.turn (slot_of_reachable started (before.trans middle)) turn
    exact ⟨brokenThen, ending.trans more⟩
  · exact fun later other _ ⟨broken, ending⟩ => ⟨broken.letGo other, ending.letGo other⟩

theorem broken_of_interrupts {config : Config} {context : Context Unit}
    (started : start config context = .ok first) (run : Reachable first coordinator) {index : Nat}
    (interrupts : (coordinator.clientAt index).place.interrupts = true)
    (asked : coordinator.step (.client index) = some next) (flagged : Flagged coordinator goal) :
    Broken next goal := by
  obtain ⟨client, memory, inside, step, rfl⟩ := client_of_step asked
  have rule := clientRule_of_step step
  have free := (settled_of_reachable started run).client_free (not_settles_of_interrupts interrupts)
  refine collect_induct (motive := fun later => Broken later goal)
    (fun _ other _ broken => broken.letGo other) ⟨?_, fun _ => rule.interrupts free interrupts⟩
  exact flagged.turn (slot_of_reachable started run) (.client index inside step)

/-! ### Looking -/

/-- The job of a place at which the worker looks at the flag. -/
def WorkerPlace.looks : WorkerPlace → Option Job
  | .checkFlag job | .timedCheck job | .graceFlag job _ | .pollFlag job _ => some job
  | _ => none

@[simp] theorem collect_worker : coordinator.collect.worker = coordinator.worker := by
  obtain ⟨progress, changed⟩ := collect_eq coordinator
  rw [changed]

@[simp] theorem collect_records : coordinator.collect.records goal = coordinator.records goal := by
  obtain ⟨progress, changed⟩ := collect_eq coordinator
  rw [changed]
  rfl

/-- If the flag is raised when the worker looks, it stops without anything else. -/
theorem step_of_looks (settled : Settled coordinator) {job : Job}
    (looks : coordinator.worker.place.looks = some job)
    (isUp : coordinator.memory.interrupt = true) (choice : Choice) :
    ∃ next, coordinator.step (.worker choice) = some next ∧ next.worker.place = .stop job none := by
  have free : coordinator.worker.finishing = none := by
    refine settled.worker_free ?_
    unfold WorkerPlace.looks at looks
    split at looks <;> first
      | (rename_i stands; rw [stands]; rfl)
      | cases looks
  have step : coordinator.worker.step choice coordinator.memory =
      some (coordinator.worker.goto (.stop job none), coordinator.memory) := by
    unfold Worker.step
    rw [free]
    unfold WorkerPlace.looks at looks
    split at looks <;> first
      | (rename_i stands; cases looks
         simp [stands, Worker.beginStep, Worker.watchStep, isUp])
      | cases looks
  refine ⟨_, step_worker step, ?_⟩
  rw [collect_worker]
  rfl

/-- If the executor has been asked to break off when it looks, it goes on to the last record. -/
theorem step_of_streaming (settled : Settled coordinator) {job : Job} {since : Duration}
    (stands : coordinator.worker.place = .streaming job since)
    (asked : coordinator.memory.executorInterrupt = true) :
    ∃ next, coordinator.step (.worker .goOn) = some next ∧
      next.worker.place = .holding job := by
  have free := settled.worker_free (by rw [stands]; rfl)
  have step : coordinator.worker.step .goOn coordinator.memory =
      some (coordinator.worker.goto (.holding job), coordinator.memory) := by
    simp [Worker.step, free, stands, Worker.streamStep, asked]
  refine ⟨_, step_worker step, ?_⟩
  rw [collect_worker]
  rfl

theorem step_of_holding (settled : Settled coordinator) {job : Job}
    (stands : coordinator.worker.place = .holding job) :
    ∃ next, coordinator.step (.worker (.result (.ok ()))) = some next ∧
      next.records job.id = coordinator.records job.id ++ [.hold] ∧
      next.worker.place = .stop job none := by
  have free := settled.worker_free (by rw [stands]; rfl)
  have step : coordinator.worker.step (.result (.ok ())) coordinator.memory =
      some (coordinator.worker.goto (.stop job none),
        coordinator.memory.note (.hold job.id)) := by
    simp [Worker.step, free, stands, Worker.streamStep, Worker.afterStream]
  refine ⟨_, step_worker step, ?_, ?_⟩
  · rw [collect_records]
    exact recordsIn_note (if_pos rfl)
  · rw [collect_worker]
    rfl

/-- If the last record fails, the goal is given the fault as its outcome, unless it has one. -/
theorem step_of_holding_fault (settled : Settled coordinator) {job : Job}
    (stands : coordinator.worker.place = .holding job) (fault : Follower.Fault) :
    ∃ next, coordinator.step (.worker (.result (.error fault))) = some next ∧
      next.records goal = coordinator.records goal ∧
      next.worker.finishing = some (.mark job.id
        (.aborted (if fault.isHang then .hung fault else .notExecutable fault))) ∧
      next.worker.place = .stop job (if fault.isHang then some fault else none) := by
  have free := settled.worker_free (by rw [stands]; rfl)
  have step : coordinator.worker.step (.result (.error fault)) coordinator.memory =
      some (coordinator.worker.afterStream coordinator.memory.config job .zero (.error fault),
        coordinator.memory) := by
    simp [Worker.step, free, stands, Worker.streamStep]
  refine ⟨_, step_worker step, ?_, ?_⟩
  · rw [collect_records]
    rfl
  · rw [collect_worker]
    cases isHang : fault.isHang <;> simp [Worker.afterStream, Thread.finish, isHang]

/-- What a request to break a goal off comes to, in every state from then on. -/
structure Interrupted (coordinator : ArmLink.Coordinator) (goal : Goal.Id) : Prop where
  /-- The worker stops whenever it looks, having started the executor or watching for arrival. -/
  look : ∀ later job choice, Reachable coordinator later → later.worker.place.looks = some job →
    job.id = goal → ∃ next, later.step (.worker choice) = some next ∧
      next.worker.place = .stop job none
  /-- The executor goes on to the last record when it looks. -/
  tick : ∀ later job since, Reachable coordinator later →
    later.worker.place = .streaming job since → job.id = goal →
      ∃ next, later.step (.worker .goOn) = some next ∧ next.worker.place = .holding job
  /-- If the last record can be sent, the executor returns that it was interrupted. -/
  hold : ∀ later job, Reachable coordinator later → later.worker.place = .holding job →
    job.id = goal → ∃ next, later.step (.worker (.result (.ok ()))) = some next ∧
      next.records goal = later.records goal ++ [.hold] ∧ next.worker.place = .stop job none
  /-- If it cannot, or is not acknowledged, the executor returns the fault, and the goal is aborted
  with it. -/
  holdFault : ∀ later job fault, Reachable coordinator later →
    later.worker.place = .holding job → job.id = goal →
      ∃ next, later.step (.worker (.result (.error fault))) = some next ∧
        next.records goal = later.records goal ∧
        next.worker.finishing = some (.mark goal
          (.aborted (if fault.isHang then .hung fault else .notExecutable fault))) ∧
        next.worker.place = .stop job (if fault.isHang then some fault else none)
  /-- Nothing is sent for the goal but what was left when the request was made: the last record, and
  before it at most the one record that the executor was about to send, or the beginning. -/
  records : ∀ later, Reachable coordinator later → ∃ sent,
    later.records goal = coordinator.records goal ++ sent ∧
      sent.Sublist (coordinator.worker.place.left goal)

/-- A request to break a goal off is not lost: once the goal's submitter has lowered the flag,
whoever raises it for the goal and asks the executor then, the goal is broken off. -/
theorem interrupted_of_request {config : Config} {context : Context Unit}
    {raising raised asking asked : ArmLink.Coordinator} {index : Nat} {goal : Goal.Id}
    (started : start config context = .ok first) (run : Reachable first raising)
    (raises : (raising.clientAt index).place.raises = true)
    (stored : raising.step (.client index) = some raised)
    (current : raising.memory.current = some goal)
    (lowered : ∀ other, (raising.clientAt other).place.lowering ≠ some goal)
    (between : Reachable raised asking)
    (interrupts : (asking.clientAt index).place.interrupts = true)
    (asks : asking.step (.client index) = some asked) : Interrupted asked goal := by
  have runRaised : Reachable first raised := .step _ run stored
  have runAsking := runRaised.trans between
  have runAsked : Reachable first asked := .step _ runAsking asks
  have flagged : Flagged asking goal :=
    (flagged_of_raises started run raises stored current lowered).of_reachable started runRaised
      between
  have broken : Broken asked goal := broken_of_interrupts started runAsking interrupts asks flagged
  have laterBroken := fun {later} (after : Reachable asked later) =>
    broken.of_reachable started runAsked after
  constructor
  · intro later job choice after looks isGoal
    have slot := slot_of_reachable started (runAsked.trans after)
    have executing : later.worker.place.executing = some job := by
      unfold WorkerPlace.looks at looks
      split at looks <;> first
        | (rename_i stands; rw [stands]; exact looks)
        | cases looks
    have isCurrent : later.memory.current = some job.id := slot.worker.of_executing executing
    have isUp : later.memory.interrupt = true :=
      (laterBroken after).1.raised (by rw [isCurrent, isGoal])
    exact step_of_looks (settled_of_reachable started (runAsked.trans after)) looks isUp choice
  · intro later job since after stands isGoal
    have left : later.worker.place.left goal ≠ [] := by
      rw [stands, ← isGoal, left_mine rfl]
      exact List.cons_ne_nil _ _
    have isAsked := (laterBroken after).1.asked left
    exact step_of_streaming (settled_of_reachable started (runAsked.trans after)) stands isAsked
  · intro later job after stands isGoal
    subst isGoal
    exact step_of_holding (settled_of_reachable started (runAsked.trans after)) stands
  · intro later job fault after stands isGoal
    subst isGoal
    exact step_of_holding_fault (settled_of_reachable started (runAsked.trans after)) stands fault
  · intro later after
    obtain ⟨sent, records, left⟩ := (laterBroken after).2
    exact ⟨sent, records, (List.sublist_append_left _ _).trans left⟩

/-- The statement for a goal that is cancelled while the executor follows its points. -/
theorem interrupted_by_cancel : ∃ first raising raised asked,
    start (plainConfig 1.0) readyContext = .ok first ∧ Reachable first raising ∧
    (raising.clientAt 1).place.raises = true ∧ raising.step (.client 1) = some raised ∧
    raising.memory.current = some 1 ∧
    (∀ other, (raising.clientAt other).place.lowering ≠ some 1) ∧
    (raised.clientAt 1).place.interrupts = true ∧ raised.step (.client 1) = some asked ∧
    Interrupted asked 1 := by
  obtain ⟨raising, run, raises, current, lowered, steps⟩ := exists_reachable (plain 1.0)
    (fun last => (last.clientAt 1).place.raises = true ∧ last.memory.current = some 1 ∧
      (last.clients.all fun client => decide (client.place.lowering ≠ some 1)) = true ∧
      (last.step (.client 1)).any fun raised => (raised.clientAt 1).place.interrupts &&
        (raised.step (.client 1)).isSome)
    ([.call (.submit zeroGoal)] ++ clientSteps 0 15 ++ workerSteps 10 ++
      [.worker (.result (.ok ()))] ++ workerSteps 3 ++ [.call (.cancel 1)] ++ clientSteps 1 2)
    (by decide +kernel)
  obtain ⟨raised, stored, rest⟩ := (Option.any_eq_true _ _).mp steps
  obtain ⟨interrupts, asks⟩ := (Bool.and_eq_true _ _).mp rest
  obtain ⟨asked, asks⟩ := Option.isSome_iff_exists.mp asks
  have lowered : ∀ other, (raising.clientAt other).place.lowering ≠ some 1 := by
    refine clientAt_induct (motive := fun client => client.place.lowering ≠ some 1)
      (fun lowering => nomatch lowering) ?_
    exact fun client inside => of_decide_eq_true (List.all_eq_true.mp lowered client inside)
  exact ⟨_, raising, raised, asked, start_plain 1.0, run, raises, stored, current, lowered,
    interrupts, asks, interrupted_of_request (start_plain 1.0) run raises stored current lowered .refl
      interrupts asks⟩

/-- Whether something can come of a request of client 1 to break goal 1 off, which is current: the
flag is raised, and the executor is being asked. -/
def RequestLeadsTo (result : ArmLink.Coordinator → ArmLink.Coordinator → Prop) : Prop :=
  ∃ first asking asked later, start (plainConfig 1.0) readyContext = .ok first ∧
    Reachable first asking ∧ asking.memory.current = some 1 ∧ asking.memory.interrupt = true ∧
    (asking.clientAt 1).place.interrupts = true ∧ asking.step (.client 1) = some asked ∧
    Reachable asked later ∧ result asked later

theorem requestLeadsTo_of_play (result : ArmLink.Coordinator → ArmLink.Coordinator → Prop)
    [∀ asked later, Decidable (result asked later)] (before after : List Move)
    (passed : ((plain 1.0).play before).any (fun asking =>
      decide (asking.memory.current = some 1) && asking.memory.interrupt &&
        (asking.clientAt 1).place.interrupts && (asking.step (.client 1)).any fun asked =>
          (asked.play after).any fun later => decide (result asked later)) = true) :
    RequestLeadsTo result := by
  obtain ⟨asking, played, steps⟩ := (Option.any_eq_true _ _).mp passed
  simp only [Bool.and_eq_true, decide_eq_true_eq, Option.any_eq_true] at steps
  obtain ⟨⟨⟨current, isUp⟩, interrupts⟩, asked, asks, later, playedThen, holds⟩ := steps
  exact ⟨_, asking, asked, later, start_plain 1.0, .of_play played, current, isUp, interrupts, asks,
    .of_play playedThen, holds⟩

/-- Requests that do less.  One before the goal's submitter lowers the flag is lost: the goal is
followed all the same.  One while the executor is about to send a record comes too late for this
record.  And if the last record cannot be sent, the executor fails, and the worker gives the goal an
outcome of its own. -/
theorem requests_that_do_less :
    RequestLeadsTo (fun asked later => asked.records 1 = [] ∧
      later.records 1 = [.stream, .servo, .servo]) ∧
    RequestLeadsTo (fun asked later => asked.records 1 = [.stream] ∧
      later.records 1 = [.stream, .servo]) ∧
    RequestLeadsTo (fun asked later => asked.records 1 = [.stream] ∧
      later.records 1 = [.stream] ∧ later.worker.place.rest = [] ∧
      later.worker.finishing.isSome = true) := by
  refine ⟨?_, ?_, ?_⟩
  · exact requestLeadsTo_of_play _
      ([.call (.submit zeroGoal)] ++ clientSteps 0 9 ++ [.call (.cancel 1)] ++ clientSteps 1 3)
      (clientSteps 0 6 ++ workerSteps 10 ++ [.worker (.result (.ok ()))] ++ workerSteps 3 ++
        [.worker (.result (.ok ()))] ++ workerSteps 1 ++ [.worker (.result (.ok ()))])
      (by decide +kernel)
  · exact requestLeadsTo_of_play _
      ([.call (.submit zeroGoal)] ++ clientSteps 0 15 ++ workerSteps 10 ++
        [.worker (.result (.ok ()))] ++ workerSteps 3 ++ [.call (.cancel 1)] ++ clientSteps 1 3)
      [.worker (.result (.ok ()))] (by decide +kernel)
  · exact requestLeadsTo_of_play _
      ([.call (.submit zeroGoal)] ++ clientSteps 0 15 ++ workerSteps 10 ++
        [.worker (.result (.ok ()))] ++ workerSteps 2 ++ [.call (.cancel 1)] ++ clientSteps 1 3)
      [.worker .goOn, .worker (.result (.error .connectionLost))] (by decide +kernel)

end ArmLink.Coordinator
