import ArmLink.Proofs.Coordinator.Slot

/-!
One goal is executed at a time, and only once.

What is asked of the executor is written down call by call.  The calls made for a goal are one block
of this log: it begins with the goal's `start`, and until the goal is no longer executed nothing is
asked for another goal (`Block`).  A job that the worker has begun to execute never comes to the
beginning again (`Begun`), so there is one block at most for each goal.

The main statement is `oneAtATime_of_reachable`.  Next to the log it says what keeps the executions
apart: with `exec` free, `hasGoal` tells whether `current` holds a goal, whose job is in `pending`
or with the worker; and a waiting job whose goal lost the slot is skipped.  A worker that breaks
down is an exception, as nobody is left then to release the slot, and a goal that loses the slot has
no outcome for the moment until it is marked (`slot_kept_and_outcome_late`).
-/

namespace ArmLink.Coordinator

open Goal Link Motion Telemetry

/-! ### The log of calls -/

/-- The goal that a call is made for.  Asking to break off is for nobody in particular. -/
def Call.goal? : Call → Option Goal.Id
  | .start goal | .stream goal _ _ | .servo goal | .hold goal | .stop goal | .hang goal _ =>
    some goal
  | .interrupt => none

/-- Whether a call may stand in the block of a goal behind its beginning. -/
def Call.BelongsTo (call : Call) (goal : Goal.Id) : Prop :=
  call.goal? ≠ none → call.goal? = some goal ∧ call ≠ .start goal

/-- The calls for a goal are one block: it begins with the goal's start, nothing in it is for
another goal, and nothing outside of it is for the goal. -/
structure Block (calls : List Call) (goal : Goal.Id) (before body after : List Call) : Prop where
  split : calls = before ++ .start goal :: (body ++ after)
  before : ∀ call ∈ before, call.goal? ≠ some goal
  body : ∀ call ∈ body, call.BelongsTo goal
  after : ∀ call ∈ after, call.goal? ≠ some goal

/-- The goal for which the worker may ask something of the executor next, having started it. -/
def WorkerPlace.underWay : WorkerPlace → Option Goal.Id
  | .starting job | .checkFlag job | .beginStream job | .streaming job _ | .sending job _
  | .holding job | .timedCheck job | .monitor job _ | .graceClock job _ | .graceFlag job _
  | .pollFlag job _ | .pollJoints job _ | .pollClock job _ | .stop job _ | .hang job _ =>
    some job.id
  | _ => none

/-- The goal in the worker's hand that will not be started any more. -/
def WorkerPlace.late : WorkerPlace → Option Goal.Id
  | .checkClosing job | .lockCurrent job | .vacate job | .lowerGoal job | .unlockCurrent job
  | .unlockExec job => some job.id
  | place => place.underWay

section Steps

variable {workerEnded : Bool} {actor : Actor} {client client' : Client}
  {worker worker' : Worker} {memory memory' : Memory} {goal : Goal.Id}

/-- A client asks the executor for nothing but to break off. -/
theorem ClientRule.calls (rule : ClientRule workerEnded actor client memory client' memory') :
    memory'.calls = memory.calls ∨ memory'.calls = memory.calls ++ [.interrupt] := by
  cases rule with
  | finish rule => obtain ⟨progress, rfl⟩ := rule.memory_eq; exact .inl rfl
  | submit _ _ rule =>
    cases rule with
    | interruptOld => exact .inr rfl
    | _ => exact .inl rfl
  | cancel _ _ rule =>
    cases rule with
    | interrupt => exact .inr rfl
    | _ => exact .inl rfl
  | exchange => exact .inl rfl
  | stop _ _ rule =>
    cases rule with
    | interrupt => exact .inr rfl
    | _ => exact .inl rfl
  | close _ _ rule =>
    cases rule with
    | interrupt => exact .inr rfl
    | _ => exact .inl rfl

theorem underWay_of_watched {place : WorkerPlace} {job : Job}
    (watching : place.watched = some job) : place.underWay = some job.id := by
  cases place <;> simp_all [WorkerPlace.watched, WorkerPlace.underWay]

@[simp] theorem afterStream_underWay {config : Config} {job : Job} {since : Duration}
    {outcome : Except Follower.Fault Streamed} :
    (worker.afterStream config job since outcome).place.underWay = some job.id := by
  unfold Worker.afterStream
  split
  · split <;> rfl
  · rfl
  · split <;> rfl

theorem late_of_underWay {place : WorkerPlace} (underWay : place.underWay = some goal) :
    place.late = some goal := by
  cases place <;> first
    | exact underWay
    | cases underWay

theorem goal?_of_late {place : WorkerPlace} (late : place.late = some goal) :
    place.goal? = some goal := by
  cases place <;> first
    | exact late
    | cases late

/-- What a step of the worker writes down. -/
inductive Logging (worker worker' : Worker) (memory memory' : Memory) : Prop where
  /-- Nothing, and no goal comes under way. -/
  | nothing (same : memory'.calls = memory.calls)
      (underWay : worker'.place.underWay = worker.place.underWay ∨ worker'.place.underWay = none)
  | start (job : Job) (stands : worker.place = .start job) (goes : worker'.place = .starting job)
      (noted : memory'.calls = memory.calls ++ [.start job.id])
  /-- A call for the goal under way. -/
  | more (goal : Goal.Id) (call : Call) (underWay : worker.place.underWay = some goal)
      (mine : call.goal? = some goal) (notStart : call ≠ .start goal)
      (noted : memory'.calls = memory.calls ++ [call])
      (stays : worker'.place.underWay = some goal ∨ worker'.place.underWay = none)

theorem WorkerRule.logging (rule : WorkerRule worker memory worker' memory') :
    Logging worker worker' memory memory' := by
  cases rule with
  | finish rule =>
    obtain ⟨progress, rfl⟩ := rule.memory_eq
    exact .nothing rfl (.inl (by rw [rule.place_eq]))
  | work _ rule =>
    generalize stands : worker.place = place at rule
    have underWay : worker.place.underWay = place.underWay := congrArg _ stands
    cases rule with
    | @start job => exact .start job stands rfl rfl
    | @beginStream job => exact .more job.id _ underWay rfl (by simp) rfl (.inl rfl)
    | @sent job => exact .more job.id _ underWay rfl (by simp) rfl (.inl rfl)
    | @held job => exact .more job.id _ underWay rfl (by simp) rfl (.inl afterStream_underWay)
    | @stop job hang =>
      refine .more job.id _ underWay rfl (by simp) rfl ?_
      cases hang with
      | none => exact .inr rfl
      | some fault => exact .inl rfl
    | @hang job fault => exact .more job.id _ underWay rfl (by simp) rfl (.inr rfl)
    | returned | notSent | notHeld =>
      exact .nothing rfl (.inl (by rw [underWay, afterStream_underWay]; rfl))
    | watch watching goesOn =>
      refine .nothing rfl (.inl ?_)
      rw [underWay, underWay_of_watched watching, goto_place]
      rcases goesOn with goesOn | rfl
      · exact underWay_of_watched goesOn
      · rfl
    | judge watching =>
      exact .nothing rfl (.inl (by rw [underWay, underWay_of_watched watching]; rfl))
    | notFlagged | started | tick | breakOff | flagged => exact .nothing rfl (.inl underWay.symm)
    | _ => exact .nothing rfl (.inr rfl)

/-- A job that will not be started any more stays so until it is dropped. -/
theorem WorkerRule.late (rule : WorkerRule worker memory worker' memory')
    (late : worker.place.late = some goal) :
    worker'.place.late = some goal ∨ worker'.place.goal? ≠ some goal := by
  cases rule with
  | finish rule => rw [rule.place_eq]; exact .inl late
  | work _ rule =>
    generalize worker.place = place at rule late
    cases rule with
    | unlockExec | breakDown => exact .inr (by simp [WorkerPlace.goal?, WorkerPlace.job?])
    | returned | notSent | held | notHeld =>
      exact .inl (late_of_underWay (afterStream_underWay.trans late))
    | watch watching goesOn =>
      have isJob := (late_of_underWay (underWay_of_watched watching)).symm.trans late
      rcases goesOn with goesOn | rfl
      · exact .inl ((late_of_underWay (underWay_of_watched goesOn)).trans isJob)
      · exact .inl isJob
    | judge watching =>
      exact .inl ((late_of_underWay (underWay_of_watched watching)).symm.trans late)
    | @stop job hang => cases hang <;> exact .inl late
    | started | notStarted | flagged | notFlagged | beginStream | tick | breakOff | sent | hang
    | notClosing | closing | lockCurrent | vacate | keep | lowerGoal | unlockCurrent =>
      exact .inl late
    | _ => cases late

theorem WorkerRule.not_waiting (rule : WorkerRule worker memory worker' memory')
    (has : worker.place.goal? = some goal) (notWaiting : worker.place.waiting = none) :
    worker'.place.waiting = none := by
  cases rule with
  | finish rule => rw [rule.place_eq]; exact notWaiting
  | work _ rule =>
    generalize worker.place = place at rule has notWaiting
    cases rule with
    | look | lookAgain => cases has
    | unlockPending | lockExec => cases notWaiting
    | returned | notSent | held | notHeld => exact waiting_of_executing afterStream_executing
    | watch _ goesOn =>
      rcases goesOn with goesOn | rfl
      · exact waiting_of_executing (executing_of_watched goesOn)
      · rfl
    | @stop job hang => cases hang <;> rfl
    | _ => rfl

end Steps

/-! ### Executing once -/

variable {coordinator next first : ArmLink.Coordinator} {goal : Goal.Id}

/-- A job that the worker drops is nowhere any more. -/
theorem Sorted.gone_of_dropped (sorted : Sorted coordinator) {worker : Worker} {memory : Memory}
    (rule : WorkerRule coordinator.worker coordinator.memory worker memory)
    (has : coordinator.worker.place.goal? = some goal)
    (dropped : worker.place.goal? ≠ some goal) : Gone { coordinator with memory, worker } goal := by
  have numbered : goal < coordinator.memory.nextId :=
    (sorted.numbered (show coordinator.jobAt .hand = some goal from has)).2
  refine ⟨Nat.lt_of_lt_of_le numbered (Nat.le_of_eq rule.nextId_eq.symm), ?_⟩
  intro spot there
  have elsewhere : ∀ {spot}, spot ≠ .hand → coordinator.jobAt spot ≠ some goal :=
    fun apart there => apart (sorted.unique there has)
  cases spot with
  | client index =>
    exact elsewhere (by simp) (show coordinator.jobAt (.client index) = _ from there)
  | pending =>
    rcases rule.goal? with ⟨-, kept⟩ | ⟨empty, -, -⟩
    · rw [jobAt, kept] at there
      exact elsewhere (by simp) (show coordinator.jobAt .pending = _ from there)
    · rw [empty] at has; cases has
  | hand => exact dropped there

/-- Whether a job is past the point where the worker looks at it first: it is in the worker's hand,
or nowhere any more. -/
def Begun (coordinator : ArmLink.Coordinator) (goal : Goal.Id) : Prop :=
  (coordinator.jobAt .hand = some goal ∧ coordinator.worker.place.waiting = none) ∨
    Gone coordinator goal

theorem Begun.turn (begun : Begun coordinator goal) (sorted : Sorted coordinator)
    (turn : Turn coordinator next) : Begun next goal := by
  rcases begun with ⟨has, notWaiting⟩ | gone
  · cases turn with
    | worker choice step =>
      have rule := workerRule_of_step step
      rename_i worker memory
      by_cases stays : worker.place.goal? = some goal
      · exact .inl ⟨stays, rule.not_waiting has notWaiting⟩
      · exact .inr (sorted.gone_of_dropped rule has stays)
    | call | client | observe | pass | take => exact .inl ⟨has, notWaiting⟩
  · exact .inr (gone.turn turn)

theorem Begun.letGo (begun : Begun coordinator goal) (other : Goal.Id) :
    Begun (coordinator.letGo other) goal := by
  obtain ⟨progress, changed⟩ := letGo_eq coordinator other
  rw [changed]
  exact begun

theorem Begun.of_reachable {config : Config} {context : Context Unit}
    (started : start config context = .ok first) (before : Reachable first coordinator)
    (begun : Begun coordinator goal) (after : Reachable coordinator next) : Begun next goal := by
  refine after.induct (motive := fun later => Begun later goal) begun ?_
    (fun _ other _ begun => begun.letGo other)
  intro later next middle begun turn
  exact begun.turn (sorted_of_reachable started (before.trans middle)) turn

/-- The worker never looks at a job first that was begun. -/
theorem Begun.not_waiting (begun : Begun coordinator goal) :
    coordinator.worker.place.waiting ≠ some goal := by
  intro waiting
  rcases begun with ⟨-, notWaiting⟩ | gone
  · rw [notWaiting] at waiting; cases waiting
  · exact gone.2 .hand (goal?_of_waiting waiting)

/-! ### The log in runs -/

/-- What holds of the calls for a goal in every run: there are none as yet, or they are a block
whose job will not be started again; while the goal is under way the block reaches to the end. -/
inductive Logged (coordinator : ArmLink.Coordinator) (goal : Goal.Id) : Prop where
  | none (noCall : ∀ call ∈ coordinator.memory.calls, call.goal? ≠ some goal)
      (notUnderWay : coordinator.worker.place.underWay ≠ some goal)
  | block {before body after : List Call}
      (block : Block coordinator.memory.calls goal before body after)
      (last : coordinator.worker.place.underWay = some goal → after = [])
      (late : coordinator.worker.place.late = some goal ∨ Gone coordinator goal)

section Log

variable {calls before body after : List Call} {call : Call}

theorem Block.other (block : Block calls goal before body after) (other : call.goal? ≠ some goal) :
    Block (calls ++ [call]) goal before body (after ++ [call]) := by
  refine ⟨?_, block.before, block.body, ?_⟩
  · rw [block.split]
    simp
  · intro later inside
    rcases List.mem_append.mp inside with inside | isCall
    · exact block.after later inside
    · rw [List.mem_singleton.mp isCall]
      exact other

theorem Block.more (block : Block calls goal before body []) (mine : call.BelongsTo goal) :
    Block (calls ++ [call]) goal before (body ++ [call]) [] := by
  refine ⟨?_, block.before, ?_, ?_⟩
  · rw [block.split]
    simp
  · intro other inside
    rcases List.mem_append.mp inside with inside | isCall
    · exact block.body other inside
    · rw [List.mem_singleton.mp isCall]
      exact mine
  · intro other inside
    cases inside

end Log

section Logging

variable {call : Call} (logged : Logged coordinator goal)
  (late : coordinator.worker.place.late = some goal ∨ Gone coordinator goal →
    next.worker.place.late = some goal ∨ Gone next goal)

include logged late

/-- Without a call, the calls for a goal stay as they are. -/
theorem Logged.same (same : next.memory.calls = coordinator.memory.calls)
    (underWay : next.worker.place.underWay = some goal →
      coordinator.worker.place.underWay = some goal) : Logged next goal := by
  cases logged with
  | none noCall notUnderWay =>
    refine .none ?_ fun isUnderWay => notUnderWay (underWay isUnderWay)
    rw [same]
    exact noCall
  | block block last isLate =>
    exact .block (same ▸ block) (fun isUnderWay => last (underWay isUnderWay)) (late isLate)

/-- A call for another goal comes behind the block of a goal. -/
theorem Logged.other (noted : next.memory.calls = coordinator.memory.calls ++ [call])
    (other : call.goal? ≠ some goal) (notUnderWay : next.worker.place.underWay ≠ some goal) :
    Logged next goal := by
  cases logged with
  | none noCall =>
    refine .none ?_ notUnderWay
    intro someCall inside
    rw [noted] at inside
    rcases List.mem_append.mp inside with inside | isCall
    · exact noCall someCall inside
    · rw [List.mem_singleton.mp isCall]
      exact other
  | block block _ isLate =>
    exact .block (noted ▸ block.other other) (fun underWay => absurd underWay notUnderWay)
      (late isLate)

/-- A call for the goal that is under way, or for nobody, goes on with its block. -/
theorem Logged.more (noted : next.memory.calls = coordinator.memory.calls ++ [call])
    (mine : call.BelongsTo goal) (underWay : coordinator.worker.place.underWay = some goal) :
    Logged next goal := by
  cases logged with
  | none noCall notUnderWay => exact absurd underWay notUnderWay
  | block block last isLate =>
    have ends := last underWay
    subst ends
    exact .block (noted ▸ block.more mine) (fun _ => rfl) (late isLate)

end Logging

/-- Asking to break off belongs to every block. -/
theorem Logged.interrupt (logged : Logged coordinator goal)
    (worker : next.worker = coordinator.worker) (jobs : Gone coordinator goal → Gone next goal)
    (calls : next.memory.calls = coordinator.memory.calls ∨
      next.memory.calls = coordinator.memory.calls ++ [.interrupt]) : Logged next goal := by
  have late : coordinator.worker.place.late = some goal ∨ Gone coordinator goal →
      next.worker.place.late = some goal ∨ Gone next goal := by
    rw [worker]
    exact Or.imp_right jobs
  rcases calls with same | noted
  · exact logged.same late same (by rw [worker]; exact id)
  · by_cases underWay : coordinator.worker.place.underWay = some goal
    · exact logged.more late noted (fun forSomebody => absurd rfl forSomebody) underWay
    · exact logged.other late noted (by simp [Call.goal?]) (by rw [worker]; exact underWay)

theorem Logged.worker (logged : Logged coordinator goal) (sorted : Sorted coordinator)
    {worker : Worker} {memory : Memory}
    (rule : WorkerRule coordinator.worker coordinator.memory worker memory) :
    Logged { coordinator with memory, worker } goal := by
  have late : coordinator.worker.place.late = some goal ∨ Gone coordinator goal →
      worker.place.late = some goal ∨ Gone { coordinator with memory, worker } goal := by
    intro late
    rcases late with late | gone
    · rcases rule.late late with stays | dropped
      · exact .inl stays
      · exact .inr (sorted.gone_of_dropped rule (goal?_of_late late) dropped)
    · exact .inr (gone.of_carried (carried_of_worker rule) rule.nextId_eq)
  cases rule.logging with
  | nothing same underWay =>
    refine logged.same late same fun isUnderWay => ?_
    rcases underWay with kept | ended
    · rw [← kept]; exact isUnderWay
    · cases ended.symm.trans isUnderWay
  | start job stands goes noted =>
    by_cases isGoal : job.id = goal
    · cases logged with
      | none noCall notUnderWay =>
        -- the block of the goal begins
        have begins : Block memory.calls goal coordinator.memory.calls [] [] := by
          refine ⟨?_, noCall, ?_, ?_⟩
          · rw [noted, isGoal]; simp
          · intro _ inside
            cases inside
          · intro _ inside
            cases inside
        refine .block begins (fun _ => rfl) (.inl ?_)
        rw [goes, ← isGoal]
        rfl
      | block block last late =>
        rcases late with late | gone
        · rw [stands] at late; cases late
        · refine absurd ?_ (gone.2 .hand)
          rw [jobAt, stands, ← isGoal]
          rfl
    · have other : (Call.start job.id).goal? ≠ some goal := by simpa [Call.goal?] using isGoal
      refine logged.other late noted other ?_
      rw [goes]
      simpa [WorkerPlace.underWay] using isGoal
  | more underWayGoal call underWay mine notStart noted stays =>
    by_cases isGoal : underWayGoal = goal
    · subst isGoal
      exact logged.more late noted (fun _ => ⟨mine, notStart⟩) underWay
    · have other : call.goal? ≠ some goal := by rw [mine]; simpa using isGoal
      refine logged.other late noted other ?_
      rcases stays with stays | ended
      · rw [stays]; simpa using isGoal
      · rw [ended]
        intro underWay
        cases underWay

theorem Logged.turn (logged : Logged coordinator goal) (sorted : Sorted coordinator)
    (turn : Turn coordinator next) : Logged next goal := by
  have jobs : Gone coordinator goal → Gone next goal := fun gone => gone.turn turn
  cases turn with
  | call opening =>
    refine logged.interrupt rfl jobs (.inl ?_)
    obtain ⟨nextId, -, rfl⟩ := opening.memory_eq
    rfl
  | client index inside step => exact logged.interrupt rfl jobs (clientRule_of_step step).calls
  | worker choice step => exact logged.worker sorted (workerRule_of_step step)
  | observe | pass | take => exact logged.interrupt rfl jobs (.inl rfl)

theorem logged_of_reachable {config : Config} {context : Context Unit}
    (started : start config context = .ok first) (run : Reachable first coordinator)
    (goal : Goal.Id) : Logged coordinator goal := by
  refine run.induct (motive := fun coordinator => Logged coordinator goal) ?_ ?_ ?_
  · rw [eq_of_start started]
    exact .none (fun _ inside => nomatch inside) (fun underWay => nomatch underWay)
  · exact fun _ _ before logged turn => logged.turn (sorted_of_reachable started before) turn
  · intro coordinator other _ logged
    obtain ⟨progress, changed⟩ := letGo_eq coordinator other
    exact logged.interrupt letGo_worker (fun gone => gone.letGo other) (.inl (by rw [changed]))

/-! ### One at a time -/

/-- What keeps the executions of goals apart. -/
structure OneAtATime (coordinator : ArmLink.Coordinator) : Prop where
  /-- The calls for a goal are one block, which reaches to the end while the goal is under way. -/
  block : ∀ goal, (∃ call ∈ coordinator.memory.calls, call.goal? = some goal) →
    ∃ before body after, Block coordinator.memory.calls goal before body after ∧
      (coordinator.worker.place.underWay = some goal → after = [])
  /-- The worker begins to execute a goal once: its job never waits again. -/
  once : ∀ job, coordinator.worker.place = .checkAccept job → ∀ later,
    Reachable coordinator later → later.jobAt .pending ≠ some job.id ∧
      later.worker.place.waiting ≠ some job.id
  /-- With `exec` free, `hasGoal` agrees with `current`. -/
  agree : coordinator.memory.owner .exec = none → ¬ IsCleaning coordinator →
    coordinator.memory.hasGoal = coordinator.memory.current.isSome
  /-- With `exec` free, the current goal has its job in `pending` or with the worker. -/
  served : coordinator.memory.owner .exec = none → ¬ IsCleaning coordinator →
    coordinator.worker.place ≠ .dead → ∀ goal, coordinator.memory.current = some goal →
      coordinator.jobAt .pending = some goal ∨ coordinator.jobAt .hand = some goal
  /-- A waiting job that is not the current goal's belongs to a goal that has its outcome, or that
  the submitter who has just taken the slot, and holds `exec` and `current`, is about to mark. -/
  decided : ∀ goal, Waits coordinator goal → coordinator.memory.current ≠ some goal →
    (coordinator.memory.progress goal).finished = true ∨
      ∃ index job outcome, (coordinator.clientAt index).place = .submitting (.unlockCurrent job) ∧
        (coordinator.clientAt index).finishing = some (.mark goal outcome)
  /-- Such a job is skipped. -/
  skipped : ∀ job, coordinator.worker.place = .checkFinished job →
    coordinator.memory.current ≠ some job.id → ∀ choice worker memory,
      coordinator.worker.step choice coordinator.memory = some (worker, memory) →
        worker.place = .checkFinished job ∨ worker.place = .checkClosing job

/-- With `exec` free, nobody is between writing `current` and writing `hasGoal`. -/
theorem Guarded.between_of_free (guarded : Guarded coordinator)
    (free : coordinator.memory.owner .exec = none) (notCleaning : ¬ IsCleaning coordinator) :
    (∀ index, (coordinator.clientAt index).place.isBetween = false) ∧
      coordinator.worker.place.isBetween = false := by
  have nobody : ∀ actor, Lock.exec ∉ coordinator.locksOf actor := by
    intro actor holds
    rw [(guarded .exec actor).mpr holds] at free
    cases free
  constructor
  · intro index
    cases stands : (coordinator.clientAt index).place with
    | submitting place =>
      have here := nobody (.client index)
      rw [locksOf, stands] at here
      cases place <;> first
        | rfl
        | exact absurd (by simp [ClientPlace.locks, Submitting.locks]) here
    | canceling place =>
      have here := nobody (.client index)
      rw [locksOf, stands] at here
      cases place <;> first
        | rfl
        | exact absurd (by simp [ClientPlace.locks, Canceling.locks]) here
    | closing place =>
      cases place <;> first
        | rfl
        | exact absurd ⟨index, by rw [stands]; rfl⟩ notCleaning
    | exchanging | stopping | done => rfl
  · cases stands : coordinator.worker.place with
    | lowerGoal job =>
      have here := nobody .worker
      rw [locksOf, stands] at here
      exact absurd (by simp [WorkerPlace.locks]) here
    | _ => rfl

theorem exec_of_installing {place : ClientPlace} (installing : place.installing = some goal) :
    Lock.exec ∈ place.locks := by
  unfold ClientPlace.installing at installing
  split at installing <;> first
    | (cases installing; done)
    | simp [ClientPlace.locks, Submitting.locks]

/-- In every run, goals are executed one at a time and once, the slot is never left to a goal
without a job but by a worker that broke down, and jobs of goals that lost the slot are skipped. -/
theorem oneAtATime_of_reachable {config : Config} {context : Context Unit}
    (started : start config context = .ok first) (run : Reachable first coordinator) :
    OneAtATime coordinator := by
  have guarded := guarded_of_reachable started run
  have slot := slot_of_reachable started run
  constructor
  · intro goal ⟨call, inside, mine⟩
    cases logged_of_reachable started run goal with
    | none noCall => exact absurd mine (noCall call inside)
    | block block last => exact ⟨_, _, _, block, last⟩
  · intro job stands later after
    have begun : Begun coordinator job.id :=
      .inl ⟨by rw [jobAt, stands]; rfl, by rw [stands]; rfl⟩
    have begunLater := Begun.of_reachable started run begun after
    refine ⟨?_, begunLater.not_waiting⟩
    intro pending
    rcases begunLater with ⟨has, -⟩ | gone
    · have apart : Spot.pending = Spot.hand :=
        (sorted_of_reachable started (run.trans after)).unique pending has
      cases apart
    · exact gone.2 .pending pending
  · intro free notCleaning
    obtain ⟨clients, worker⟩ := guarded.between_of_free free notCleaning
    exact slot.settled clients worker
  · intro free notCleaning alive goal current
    rcases slot.served current with pending | hand | ⟨index, installing⟩ | dead | cleaning
    · exact .inl pending
    · exact .inr hand
    · have holds : Lock.exec ∈ coordinator.locksOf (.client index) := exec_of_installing installing
      rw [(guarded .exec (.client index)).mpr holds] at free
      cases free
    · exact absurd dead alive
    · exact absurd cleaning notCleaning
  · exact fun goal => slot.waiting
  · intro job stands notCurrent choice worker memory step
    cases decided : (coordinator.memory.progress job.id).finished with
    | false => exact absurd (slot.honest guarded stands decided) notCurrent
    | true =>
      cases workerRule_of_step step with
      | finish rule => exact .inl (rule.place_eq.trans stands)
      | work _ rule =>
        rw [stands] at rule
        cases rule with
        | skip => exact .inr rfl
        | begin undecided => rw [decided] at undecided; cases undecided
        | watch watching => cases watching
        | judge watching => cases watching

/-- The statement at a goal that is being executed. -/
theorem oneAtATime_streaming : ∃ first coordinator,
    start (plainConfig 1.0) readyContext = .ok first ∧
    Reachable first coordinator ∧ coordinator.worker.place.underWay = some 1 ∧
    OneAtATime coordinator := by
  obtain ⟨coordinator, run, underWay⟩ := exists_reachable (plain 1.0)
    (fun last => last.worker.place.underWay = some 1)
    ([.call (.submit zeroGoal)] ++ clientSteps 0 15 ++ workerSteps 10 ++
      [.worker (.result (.ok ()))] ++ workerSteps 3) (by decide +kernel)
  exact ⟨_, coordinator, start_plain 1.0, run, underWay,
    oneAtATime_of_reachable (start_plain 1.0) run⟩

/-- The two exceptions.  A worker that breaks down leaves the slot to its goal: `exec` is free,
nobody cleans up, and the job is neither in `pending` nor with the worker.  And a goal that has just
lost the slot, its job still in `pending`, has no outcome until the submitter who took the slot
marks it. -/
theorem slot_kept_and_outcome_late :
    (∃ first coordinator, start (plainConfig (1.0 / 0.0)) readyContext = .ok first ∧
      Reachable first coordinator ∧ coordinator.memory.owner .exec = none ∧
      coordinator.isClosing = false ∧ coordinator.memory.current = some 1 ∧
      coordinator.jobAt .pending ≠ some 1 ∧ coordinator.jobAt .hand ≠ some 1) ∧
    ∃ first coordinator, start (plainConfig 1.0) readyContext = .ok first ∧
      Reachable first coordinator ∧ coordinator.jobAt .pending = some 1 ∧
      coordinator.memory.current = some 2 ∧ (coordinator.memory.progress 1).finished = false := by
  constructor
  · obtain ⟨coordinator, run, facts⟩ := exists_reachable (plain (1.0 / 0.0))
      (fun last => last.memory.owner .exec = none ∧ last.isClosing = false ∧
        last.memory.current = some 1 ∧ last.jobAt .pending ≠ some 1 ∧ last.jobAt .hand ≠ some 1)
      ([.call (.submit zeroGoal)] ++ clientSteps 0 15 ++ workerSteps 10 ++
        [.worker (.result (.ok ()))] ++ workerSteps 2 ++
        [.worker (.returned (.ok .completed))] ++ workerSteps 1) (by decide +kernel)
    exact ⟨_, coordinator, start_plain _, run, facts⟩
  · obtain ⟨coordinator, run, facts⟩ := exists_reachable (plain 1.0)
      (fun last => last.jobAt .pending = some 1 ∧ last.memory.current = some 2 ∧
        (last.memory.progress 1).finished = false)
      ([.call (.submit zeroGoal), .call (.submit zeroGoal)] ++ clientSteps 1 5 ++
        clientSteps 0 15 ++ clientSteps 1 3) (by decide +kernel)
    exact ⟨_, coordinator, start_plain _, run, facts⟩

end ArmLink.Coordinator
