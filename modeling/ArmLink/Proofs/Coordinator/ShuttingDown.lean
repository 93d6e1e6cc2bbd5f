import ArmLink.Proofs.Coordinator.Telling

/-!
Shutting down leaves no goal without an outcome.

The last one who could hold a goal while the coordinator is cleaned up is one who stops the arm for
its state; what that one holds is what it read from `current` under the lock, and `current` is empty
by then (`Settled`).  So when `hasGoal` is lowered for the last time nobody holds a goal
(`Settled.nobody`), and a goal that nobody holds has been told its outcome (`told_of_nobody`).

The main statement is `told_of_shutDown`: when the call that shuts an open coordinator down has
answered, every goal submitted before has been told exactly one outcome.
-/

namespace ArmLink.Coordinator

open Goal Link Motion Telemetry

/-! ### Where outcomes are given -/

/-- Whether a client may give a goal an outcome where it stands, before it goes on from there. -/
def ClientPlace.Settles (goal : Goal.Id) : ClientPlace → Prop
  | .submitting (.lockExec ..) | .submitting (.unlockCurrent _) | .canceling (.relock _)
  | .closing (.unlockPending _) | .closing (.unlockCurrent _) | .done (.submitted _) => True
  | .stopping (.unlockCurrent found) _ => found = some goal
  | _ => False

/-- Whether the worker may give its goal an outcome where it stands. -/
def WorkerPlace.settles : WorkerPlace → Bool
  | .stop .. | .checkClosing _ | .lockCurrent _ => true
  | _ => false

/-- What holds in every run of threads that give outcomes, and of what those who stop the arm have
found. -/
structure Settled (coordinator : ArmLink.Coordinator) : Prop where
  clients : ∀ {index finishing}, (coordinator.clientAt index).finishing = some finishing →
    (coordinator.clientAt index).place.Settles finishing.goal
  worker : coordinator.worker.finishing ≠ none → coordinator.worker.place.settles = true
  found : ∀ {index goal answer},
    (coordinator.clientAt index).place = .stopping (.unlockCurrent goal) answer →
      coordinator.memory.current = goal

section Steps

variable {workerEnded : Bool} {actor : Actor} {client client' : Client}
  {worker worker' : Worker} {memory memory' : Memory} {goal : Goal.Id}

theorem finishing_of_finishIf {π : Type} {thread : Thread π} {found : Option Goal.Id}
    {outcome : Outcome} {place : π} {finishing : Finishing} (free : thread.finishing = none)
    (busy : (thread.finishIf found outcome place).finishing = some finishing) :
    found = some finishing.goal := by
  cases found with
  | none => exact absurd (free.symm.trans busy) (by simp)
  | some goal => cases busy; rfl

/-- A client stands where it may give an outcome if it gives one after its step. -/
theorem ClientRule.settles_of_finishing
    (rule : ClientRule workerEnded actor client memory client' memory')
    (settles : ∀ finishing, client.finishing = some finishing →
      client.place.Settles finishing.goal)
    {finishing : Finishing} (busy : client'.finishing = some finishing) :
    client'.place.Settles finishing.goal := by
  cases rule with
  | finish rule =>
    obtain ⟨before, busyBefore, same⟩ := rule.finishing busy
    rw [rule.place_eq, ← same]
    exact settles before busyBefore
  | submit free _ rule =>
    cases rule with
    | notAlive | invalid => trivial
    | unlockOld | install => rw [finishIf_place]; trivial
    | _ => exact absurd (free.symm.trans busy) (by simp)
  | cancel free _ rule =>
    cases rule with
    | lockExec => trivial
    | _ => exact absurd (free.symm.trans busy) (by simp)
  | exchange free => exact absurd (free.symm.trans busy) (by simp)
  | stop free _ rule =>
    cases rule with
    | read =>
      rw [finishIf_place]
      exact finishing_of_finishIf free busy
    | _ => exact absurd (free.symm.trans busy) (by simp)
  | close free _ rule =>
    cases rule with
    | takePending | takeCurrent => rw [finishIf_place]; trivial
    | _ => exact absurd (free.symm.trans busy) (by simp)

/-- What one who stops the arm has found is what `current` held at that step. -/
theorem ClientRule.found (rule : ClientRule workerEnded actor client memory client' memory')
    {found : Option Goal.Id} {answer : Answer}
    (stands : client'.place = .stopping (.unlockCurrent found) answer) :
    client.place = .stopping (.unlockCurrent found) answer ∧ memory'.current = memory.current ∨
      memory'.current = found := by
  cases rule with
  | finish rule =>
    obtain ⟨progress, rfl⟩ := rule.memory_eq
    exact .inl ⟨rule.place_eq.symm.trans stands, rfl⟩
  | submit _ _ rule => cases rule <;> simp at stands
  | cancel _ _ rule => cases rule <;> simp at stands
  | @exchange state =>
    obtain ⟨answer, told | told⟩ := told_cases (memory.context.exchangeState state).1 state
    · rw [goto_place, told] at stands; cases stands
    · rw [goto_place, told] at stands; cases stands
  | stop _ _ rule =>
    cases rule with
    | read =>
      rw [finishIf_place] at stands
      cases stands
      exact .inr rfl
    | _ => cases stands
  | close _ _ rule => cases rule <;> simp at stands

/-- A client changes `current` only under its lock. -/
theorem ClientRule.current_eq (rule : ClientRule workerEnded actor client memory client' memory') :
    memory'.current = memory.current ∨ .current ∈ client.place.locks := by
  cases rule with
  | finish rule =>
    obtain ⟨progress, rfl⟩ := rule.memory_eq
    exact .inl rfl
  | submit _ stands rule =>
    rw [stands]
    cases rule with
    | install => exact .inr (by simp [ClientPlace.locks, Submitting.locks])
    | _ => exact .inl rfl
  | cancel _ stands rule =>
    rw [stands]
    cases rule with
    | vacate => exact .inr (by simp [ClientPlace.locks, Canceling.locks])
    | _ => exact .inl rfl
  | exchange => exact .inl rfl
  | stop _ _ rule => cases rule <;> exact .inl rfl
  | close _ stands rule =>
    rw [stands]
    cases rule with
    | takeCurrent => exact .inr (by simp [ClientPlace.locks, Closing.locks])
    | _ => exact .inl rfl

theorem WorkerRule.current_eq (rule : WorkerRule worker memory worker' memory') :
    memory'.current = memory.current ∨ .current ∈ worker.place.locks := by
  cases rule with
  | finish rule =>
    obtain ⟨progress, rfl⟩ := rule.memory_eq
    exact .inl rfl
  | work _ rule =>
    generalize worker.place = place at rule ⊢
    cases rule with
    | vacate => exact .inr (by simp [WorkerPlace.locks])
    | _ => exact .inl rfl

theorem settles_afterStream {config : Config} {job : Job} {since : Duration}
    {outcome : Except Follower.Fault Streamed} :
    (worker.afterStream config job since outcome).place.settles = true ∨
      (worker.afterStream config job since outcome).finishing = worker.finishing := by
  unfold Worker.afterStream
  split
  · exact .inr rfl
  · exact .inr rfl
  · split
    · exact .inl rfl
    · exact .inl rfl

theorem WorkerRule.settles_of_finishing (rule : WorkerRule worker memory worker' memory')
    (settles : worker.finishing ≠ none → worker.place.settles = true)
    (busy : worker'.finishing ≠ none) : worker'.place.settles = true := by
  cases rule with
  | finish rule =>
    rw [rule.place_eq]
    refine settles ?_
    cases rule with
    | mark marks => rw [marks]; exact Option.some_ne_none _
    | late | send => exact absurd rfl busy
  | work free rule =>
    generalize worker.place = place at rule
    cases rule with
    | noStartPoint | notStarted | judge | closing => rfl
    | returned | notSent | held | notHeld =>
      rcases settles_afterStream with settles | same
      · exact settles
      · exact absurd (same.trans free) busy
    | _ => exact absurd free busy

end Steps

/-! ### Giving outcomes in runs -/

variable {coordinator next first : ArmLink.Coordinator} {goal : Goal.Id}

/-- Whoever has found a goal in `current` holds the lock. -/
theorem Guarded.eq_of_found (guarded : Guarded coordinator) {index : Nat}
    {found : Option Goal.Id} {answer : Answer}
    (stands : (coordinator.clientAt index).place = .stopping (.unlockCurrent found) answer)
    {actor : Actor} (locked : .current ∈ coordinator.locksOf actor) : actor = .client index := by
  refine guarded.exclusive locked ?_
  rw [locksOf, stands]
  simp [ClientPlace.locks, Stopping.locks]

theorem Settled.turn (settled : Settled coordinator) (guarded : Guarded coordinator)
    (turn : Turn coordinator next) : Settled next := by
  cases turn with
  | @call place memory isOpen opening =>
    obtain ⟨nextId, -, rfl⟩ := opening.memory_eq
    refine ⟨?_, settled.worker, ?_⟩
    · intro index finishing busy
      rw [clientAt_opened] at busy ⊢
      split at busy
      · cases busy
      · rename_i old
        rw [if_neg old]
        exact settled.clients busy
    · intro index found answer stands
      rw [clientAt_opened] at stands
      split at stands
      · have noLocks : place.locks = [] := opening.locks_eq_nil
        rw [show place = _ from stands] at noLocks
        cases noLocks
      · exact settled.found stands
  | @client mover client memory inside step =>
    have rule := clientRule_of_step step
    refine ⟨?_, settled.worker, ?_⟩
    · intro index finishing busy
      rw [clientAt_withClient inside] at busy ⊢
      split at busy
      · rename_i isMover
        rw [if_pos isMover]
        exact rule.settles_of_finishing (fun _ => settled.clients) busy
      · rename_i isOther
        rw [if_neg isOther]
        exact settled.clients busy
    · intro index found answer stands
      rw [clientAt_withClient inside] at stands
      split at stands
      · rcases rule.found stands with ⟨stood, same⟩ | same
        · exact same.trans (settled.found stood)
        · exact same
      · rename_i isOther
        rcases rule.current_eq with same | locked
        · exact same.trans (settled.found stands)
        · -- both would hold the lock
          have same : Actor.client mover = .client index := guarded.eq_of_found stands locked
          exact absurd (Actor.client.inj same).symm isOther
  | @worker choice worker memory step =>
    have rule := workerRule_of_step step
    refine ⟨settled.clients, ?_, ?_⟩
    · exact rule.settles_of_finishing settled.worker
    · intro index found answer stands
      rcases rule.current_eq with same | locked
      · exact same.trans (settled.found stands)
      · have same : Actor.worker = .client index := guarded.eq_of_found stands locked
        cases same
  | observe | pass | take => exact ⟨settled.clients, settled.worker, settled.found⟩

theorem Settled.letGo (settled : Settled coordinator) (goal : Goal.Id) :
    Settled (coordinator.letGo goal) := by
  obtain ⟨progress, changed⟩ := letGo_eq coordinator goal
  rw [changed]
  exact ⟨settled.clients, settled.worker, settled.found⟩

theorem settled_of_reachable {config : Config} {context : Context Unit}
    (started : start config context = .ok first) (run : Reachable first coordinator) :
    Settled coordinator := by
  refine run.induct ?_ ?_ (fun _ goal _ settled => settled.letGo goal)
  · rw [eq_of_start started]
    refine ⟨?_, fun busy => absurd rfl busy, ?_⟩
    · intro index finishing busy
      rw [clientAt] at busy
      cases busy
    · intro index found answer stands
      rw [clientAt] at stands
      cases stands
  · exact fun _ _ before settled turn => settled.turn (guarded_of_reachable started before) turn

/-- The worker gives no outcome where it stands to do something else. -/
theorem Settled.worker_free (settled : Settled coordinator)
    (elsewhere : coordinator.worker.place.settles = false) :
    coordinator.worker.finishing = none := by
  cases free : coordinator.worker.finishing with
  | none => rfl
  | some finishing =>
    have settles := settled.worker (by rw [free]; exact Option.some_ne_none _)
    rw [elsewhere] at settles
    cases settles

theorem Settled.client_free (settled : Settled coordinator) {index : Nat}
    (elsewhere : ∀ goal, ¬ (coordinator.clientAt index).place.Settles goal) :
    (coordinator.clientAt index).finishing = none := by
  cases free : (coordinator.clientAt index).finishing with
  | none => rfl
  | some finishing => exact absurd (settled.clients free) (elsewhere finishing.goal)

theorem settles_of_isGone {worker : Worker} (gone : worker.isGone = true) :
    worker.place.settles = false := by
  unfold Worker.isGone at gone
  split at gone
  · rename_i stands
    rw [stands]; rfl
  · rename_i stands
    rw [stands]; rfl
  · cases gone

/-! ### The end of cleaning up -/

/-- A client that is quiet holds at most what it has found in `current`. -/
theorem Settled.held_of_isQuiet (settled : Settled coordinator) {index : Nat}
    (quiet : (coordinator.clientAt index).IsQuiet)
    (holds : goal ∈ (coordinator.clientAt index).held) :
    coordinator.memory.current = some goal := by
  rw [Client.held_eq, List.mem_append] at holds
  have finishes : ∀ {finishing}, (coordinator.clientAt index).finishing = some finishing →
      coordinator.memory.current = some finishing.goal := by
    intro finishing busy
    have settles := settled.clients busy
    cases quiet with
    | exchanging stands => rw [stands] at settles; cases settles
    | done free => cases free.symm.trans busy
    | @stopping place answer stands =>
      rw [stands] at settles
      cases place with
      | unlockCurrent found => exact (settled.found stands).trans settles
      | _ => cases settles
  rcases holds with gives | keeps
  · cases busy : (coordinator.clientAt index).finishing with
    | none => rw [busy] at gives; cases gives
    | some finishing =>
      rw [busy] at gives
      rw [List.mem_singleton.mp gives]
      exact finishes busy
  · cases quiet with
    | exchanging stands => rw [stands] at keeps; cases keeps
    | done _ stands => rw [stands] at keeps; cases keeps
    | @stopping place answer stands =>
      rw [stands] at keeps
      cases place with
      | unlockCurrent found => exact (settled.found stands).trans (Option.mem_toList.mp keeps)
      | _ => cases keeps

/-- Nobody holds a goal when `hasGoal` is lowered for the last time. -/
theorem Settled.nobody (settled : Settled coordinator) (orderly : Orderly coordinator)
    (slot : Slot coordinator) {index : Nat}
    (stands : (coordinator.clientAt index).place = .closing .lowerGoal) (goal : Goal.Id) :
    coordinator.memory.current ≠ some goal ∧ coordinator.jobAt .pending ≠ some goal ∧
      ∀ actor, goal ∉ coordinator.holdsOf actor := by
  have knows := slot.clients index
  rw [stands] at knows
  obtain ⟨noPending, noCurrent⟩ := knows
  have gone := orderly.gone stands rfl
  refine ⟨?_, ?_, ?_⟩
  · rw [noCurrent]
    intro current
    cases current
  · rw [jobAt, noPending]
    intro pending
    cases pending
  intro actor holds
  cases actor with
  | worker =>
    have free := settled.worker_free (settles_of_isGone gone)
    rw [holdsOf, Worker.held_eq, free, (goal?_of_isGone gone).1] at holds
    cases holds
  | client other =>
    by_cases isSelf : other = index
    · subst isSelf
      have free := settled.client_free (by rw [stands]; exact fun _ settles => settles)
      rw [holdsOf, Client.held_of_free free, stands] at holds
      cases holds
    · have current := settled.held_of_isQuiet (orderly.alone stands other isSelf) holds
      rw [noCurrent] at current
      cases current

theorem holds_of_sendingOf {actor : Actor} {outcome : Outcome}
    (sends : coordinator.sendingOf actor = some (goal, outcome)) :
    goal ∈ coordinator.holdsOf actor := by
  cases actor with
  | worker => exact Worker.mem_held_of_finishing (sending_eq_some_iff.mp sends)
  | client index => exact Client.mem_held_of_finishing (sending_eq_some_iff.mp sends)

/-- A goal that nobody holds has been told its outcome. -/
theorem told_of_nobody (kept : Kept coordinator goal) (course : Course coordinator goal)
    (noCurrent : coordinator.memory.current ≠ some goal)
    (noPending : coordinator.jobAt .pending ≠ some goal)
    (nobody : ∀ actor, goal ∉ coordinator.holdsOf actor) :
    ∃ outcome, (coordinator.memory.progress goal).outcomes = [outcome] := by
  cases course with
  | undecided undecided =>
    rcases kept with decided | held
    · rw [undecided] at decided; cases decided
    · rcases isHeld_iff.mp held with current | pending | ⟨actor, holds⟩
      · exact absurd current noCurrent
      · exact absurd pending noPending
      · exact absurd holds (nobody actor)
  | decided actor outcome _ _ sends => exact absurd (holds_of_sendingOf sends) (nobody actor)
  | told outcome _ told => exact ⟨outcome, told⟩

/-! ### From the beginning to the end -/

/-- Whether somebody is still shutting the coordinator down, or all goals with a number below some
bound have been told their outcome. -/
def Cleared (coordinator : ArmLink.Coordinator) (index : Nat) (bound : Goal.Id) : Prop :=
  (∃ place, (coordinator.clientAt index).place = .closing place) ∨
    ∀ goal, 1 ≤ goal → goal < bound →
      ∃ outcome, (coordinator.memory.progress goal).outcomes = [outcome]

/-- Whoever shuts the coordinator down goes on with it until `hasGoal` is lowered. -/
theorem ClientRule.closing_of_closing {workerEnded : Bool} {actor : Actor} {client client' : Client}
    {memory memory' : Memory} (rule : ClientRule workerEnded actor client memory client' memory')
    {place : Closing} (stands : client.place = .closing place) :
    (∃ place, client'.place = .closing place) ∨
      (place = .lowerGoal ∧ memory' = { memory with hasGoal := false }) := by
  cases rule with
  | finish rule => exact .inl ⟨place, rule.place_eq.trans stands⟩
  | close _ stood rule =>
    cases stood.symm.trans stands
    cases rule with
    | takePending | takeCurrent => exact .inl ⟨_, finishIf_place⟩
    | lowerGoal => exact .inr ⟨rfl, rfl⟩
    | _ => exact .inl ⟨_, rfl⟩
  | submit _ stood => cases stood.symm.trans stands
  | cancel _ stood => cases stood.symm.trans stands
  | exchange _ stood => cases stood.symm.trans stands
  | stop _ stood => cases stood.symm.trans stands

theorem Cleared.turn {index : Nat} {bound : Goal.Id} (cleared : Cleared coordinator index bound)
    (settled : Settled coordinator) (orderly : Orderly coordinator) (slot : Slot coordinator)
    (told : ∀ goal, Told coordinator goal)
    (kept : ∀ goal, 1 ≤ goal → goal < bound → Kept coordinator goal)
    (turn : Turn coordinator next) : Cleared next index bound := by
  rcases cleared with ⟨place, stands⟩ | allTold
  · have inside : index < coordinator.clients.length := by
      refine lt_length_of_ne_idle ?_
      intro idles
      rw [idles] at stands
      cases stands
    cases turn with
    | call =>
      left
      rw [clientAt_opened_of_lt inside]
      exact ⟨place, stands⟩
    | client mover isThere step =>
      by_cases isMover : index = mover
      · subst isMover
        have rule := clientRule_of_step step
        rcases rule.closing_of_closing stands with goesOn | ⟨rfl, changed⟩
        · left
          rw [clientAt_withClient_self isThere]
          exact goesOn
        · right
          intro goal positive below
          obtain ⟨noCurrent, noPending, nobody⟩ := settled.nobody orderly slot stands goal
          obtain ⟨outcome, isTold⟩ := told_of_nobody (kept goal positive below) (told goal).course
            noCurrent noPending nobody
          exact ⟨outcome, by rw [withClient, changed]; exact isTold⟩
      · left
        rw [clientAt_withClient_other isThere isMover]
        exact ⟨place, stands⟩
    | worker | observe | pass | take => exact .inl ⟨place, stands⟩
  · right
    intro goal positive below
    obtain ⟨outcome, isTold⟩ := allTold goal positive below
    exact ⟨outcome, (told goal).outcomes_turn isTold turn⟩

theorem Cleared.letGo {index : Nat} {bound : Goal.Id} (cleared : Cleared coordinator index bound)
    (told : ∀ goal, Told coordinator goal) (other : Goal.Id) :
    Cleared (coordinator.letGo other) index bound := by
  rcases cleared with closing | allTold
  · exact .inl (by rw [letGo_clientAt]; exact closing)
  · right
    intro goal positive below
    obtain ⟨outcome, isTold⟩ := allTold goal positive below
    exact ⟨outcome, (told goal).outcomes_letGo isTold other⟩

/-- The call that shuts an open coordinator down begins with lowering `running`. -/
theorem closing_of_shutDown (isOpen : coordinator.isOpen = true)
    (called : coordinator.step (.call .shutDown) = some next) :
    (next.clientAt coordinator.clients.length).place = .closing .lowerRunning := by
  obtain ⟨between, begins, rfl⟩ := Option.map_eq_some_iff.mp called
  have begun : (between.clientAt coordinator.clients.length).place = .closing .lowerRunning := by
    have begins : coordinator.call .shutDown = some between := begins
    simp only [call] at begins
    split at begins
    · cases begins
    · cases begins
      exact congrArg Thread.place ((clientAt_opened _).trans (if_pos rfl))
  refine collect_induct (motive := fun later =>
    (later.clientAt coordinator.clients.length).place = .closing .lowerRunning) ?_ begun
  intro later goal _ stands
  rw [letGo_clientAt]
  exact stands

/-- When the call that shuts an open coordinator down has answered, every goal submitted before has
been told one outcome. -/
theorem told_of_shutDown {config : Config} {context : Context Unit} {later : ArmLink.Coordinator}
    {answer : Answer} (started : start config context = .ok first)
    (run : Reachable first coordinator) (isOpen : coordinator.isOpen = true)
    (called : coordinator.step (.call .shutDown) = some next) (after : Reachable next later)
    (answered : later.answer? coordinator.clients.length = some answer)
    (positive : 1 ≤ goal) (below : goal < coordinator.memory.nextId) :
    ∃ outcome, (later.memory.progress goal).outcomes = [outcome] := by
  have begun : Reachable first next := .step _ run called
  have ended : (∀ goal, Told later goal) ∧
      Cleared later coordinator.clients.length coordinator.memory.nextId := by
    refine after.induct (motive := fun later => (∀ goal, Told later goal) ∧
      Cleared later coordinator.clients.length coordinator.memory.nextId) ?_ ?_ ?_
    · exact ⟨told_of_reachable started begun, .inl ⟨_, closing_of_shutDown isOpen called⟩⟩
    · intro later last middle ⟨told, cleared⟩ turn
      have whole : Reachable first later := begun.trans middle
      have grown : coordinator.memory.nextId ≤ later.memory.nextId :=
        Reachable.nextId_le ((Reachable.step _ .refl called).trans middle)
      have settled := settled_of_reachable started whole
      have orderly := orderly_of_reachable started whole
      have slot := slot_of_reachable started whole
      refine ⟨fun goal => (told goal).turn (sorted_of_reachable started whole) turn, ?_⟩
      refine cleared.turn settled orderly slot told ?_ turn
      exact fun goal positive below => kept_of_reachable started whole
        ⟨positive, Nat.lt_of_lt_of_le below grown⟩
    · intro later other _ ⟨told, cleared⟩
      exact ⟨fun goal => (told goal).letGo other, cleared.letGo told other⟩
  rcases ended.2 with ⟨place, stands⟩ | allTold
  · -- a call that has answered is done
    cases (done_of_answer? answered).2.symm.trans stands
  · exact allTold goal positive below

end ArmLink.Coordinator
