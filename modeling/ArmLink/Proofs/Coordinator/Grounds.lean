import ArmLink.Proofs.Coordinator.Protocol

/-!
Every rejection has its grounds.

Only a submitter ever rejects a goal, and it has asked the check first.  So in every run, a client
that is told a rejection has submitted a goal under that number, and for some state of the arm the
check refuses this goal for this reason (`grounds_of_told`).  What is kept along a run is that all
rejections which are on their way or have been sent have such grounds (`Grounded`).

A number stands for one goal: submitting a goal uses its number up (`Submitted.unique`).
-/

namespace ArmLink.Coordinator

open Goal Link Motion Telemetry

/-- A goal that was submitted under this number is refused by the check, for some state of the arm,
for this reason. -/
def Sources.Refuses (sources : Sources) (id : Goal.Id) (rejection : Rejection) : Prop :=
  ∃ goal isAlive state, sources.submitted id goal ∧
    validate sources.config isAlive state goal = .error rejection

/-- Rejections on their way, and those that clients were told, have grounds. -/
structure Grounded (sources : Sources) (coordinator : ArmLink.Coordinator) : Prop where
  clients : ∀ index finishing rejection, (coordinator.clientAt index).finishing = some finishing →
    finishing.outcome = .rejected rejection → sources.Refuses finishing.goal rejection
  worker : ∀ finishing rejection, coordinator.worker.finishing = some finishing →
    finishing.outcome ≠ .rejected rejection
  sent : ∀ goal rejection, .finished (.rejected rejection) ∈ (coordinator.memory.progress goal).sent →
    sources.Refuses goal rejection

/-! ### Steps -/

section Steps

variable {sources : Sources} {workerEnded : Bool} {actor : Actor} {client client' : Client}
  {worker worker' : Worker} {choice : Choice} {memory memory' : Memory} {finishing : Finishing}
  {rejection : Rejection} {job : Job}

/-- A submitter rejects the goal that it carries, when the check refuses it. -/
theorem ClientRule.refuses (rule : ClientRule workerEnded actor client memory client' memory')
    (config : memory.config = sources.config) (carries : client.place.Carries sources)
    (before : ∀ finishing rejection, client.finishing = some finishing →
      finishing.outcome = .rejected rejection → sources.Refuses finishing.goal rejection) :
    ∀ finishing rejection, client'.finishing = some finishing →
      finishing.outcome = .rejected rejection → sources.Refuses finishing.goal rejection := by
  intro finishing rejection busy rejects
  cases rule.takes busy with
  | before marks same goal =>
    rw [← goal]
    exact before _ rejection marks (same.trans rejects)
  | @rejection goal isAlive state _ asks refused outcome =>
    cases outcome.symm.trans rejects
    have submitted : sources.submitted finishing.goal goal := by
      rcases asks with stands | stands
      · rw [stands] at carries
        exact carries
      · rw [stands] at carries
        exact carries
    exact ⟨goal, isAlive, state, submitted, config ▸ refused⟩
  | canceled outcome | aborted outcome => cases outcome.symm.trans rejects

/-- Watching for arrival ends with success or with a goal that is out of time. -/
theorem watchStep_not_rejected {place : WorkerPlace} (free : worker.finishing = none)
    (step : worker.watchStep memory place = some (worker', memory'))
    (busy : worker'.finishing = some finishing) : finishing.outcome ≠ .rejected rejection := by
  cases place with
  | timedCheck | pollJoints | pollClock =>
    cases step
    split at busy
    all_goals first
      | cases busy; simp [Finishing.outcome]
      | cases free.symm.trans busy
  | monitor =>
    simp only [Worker.watchStep] at step
    split at step
    · cases step; cases free.symm.trans busy
    · cases step; cases free.symm.trans busy
  | graceClock | graceFlag | pollFlag => cases step; cases free.symm.trans busy
  | _ => cases step

/-- The worker rejects nothing. -/
theorem not_rejected_of_step (step : worker.step choice memory = some (worker', memory'))
    (before : ∀ finishing rejection, worker.finishing = some finishing →
      finishing.outcome ≠ .rejected rejection) :
    ∀ finishing rejection, worker'.finishing = some finishing →
      finishing.outcome ≠ .rejected rejection := by
  intro finishing rejection busy
  cases workerRule_of_step step with
  | finish rule =>
    obtain ⟨earlier, marks, outcome, -⟩ := rule.outcome_eq busy
    rw [← outcome]
    exact before earlier rejection marks
  | work free rule =>
    generalize placed : worker.place = place at rule
    -- The rule of watching leaves the outcome open, so the step itself is looked at there.
    have watches : ∀ job, place.watched = some job →
        worker.watchStep memory place = some (worker', memory') := by
      intro job watched
      rw [← step, Worker.step, free, placed]
      cases place <;> first | rfl | cases watched
    cases rule with
    | judge watched => exact watchStep_not_rejected free (watches _ watched) busy
    | noStartPoint | notStarted | closing => cases busy; simp [Finishing.outcome]
    | returned | notSent | held | notHeld =>
      obtain ⟨reason, aborted⟩ := afterStream_aborted free busy
      simp [aborted]
    | _ => cases free.symm.trans busy

end Steps

/-! ### Along a run -/

variable {sources : Sources} {coordinator next first : ArmLink.Coordinator}

theorem Grounded.turn (grounded : Grounded sources coordinator)
    (traced : Traced sources coordinator) (turn : Turn coordinator next) :
    Grounded sources next := by
  refine ⟨?_, ?_, ?_⟩
  · intro index finishing rejection busy
    rcases turn.finishing_cases busy with old | ⟨client, memory, rule, busy⟩
    · exact grounded.clients index finishing rejection old
    · exact rule.refuses traced.config (traced.client index) (grounded.clients index) finishing
        rejection busy
  · rcases turn.worker_cases with same | ⟨choice, memory, step⟩
    · rw [same]
      exact grounded.worker
    · exact not_rejected_of_step step grounded.worker
  · intro goal rejection told
    rcases turn.mem_sent told with old | ⟨index, sends⟩ | sends
    · exact grounded.sent goal rejection old
    · exact grounded.clients index _ rejection sends rfl
    · exact absurd rfl (grounded.worker _ rejection sends)

theorem Grounded.letGo (grounded : Grounded sources coordinator) (other : Goal.Id) :
    Grounded sources (coordinator.letGo other) := by
  refine ⟨?_, ?_, ?_⟩
  · intro index
    rw [letGo_clientAt]
    exact grounded.clients index
  · rw [letGo_worker]
    exact grounded.worker
  · intro goal rejection told
    rcases mem_sent_of_letGo told with old | abandoned
    · exact grounded.sent goal rejection old
    · cases abandoned

theorem grounded_of_play {config : Config} {context : Context Unit} {earlier : List Move}
    (started : start config context = .ok first) (played : first.play earlier = some coordinator)
    (later : List Move) : Grounded (Sources.ofRun first (earlier ++ later)) coordinator := by
  induction earlier using List.reverseRecOn generalizing coordinator later with
  | nil =>
    cases played
    rw [eq_of_start started]
    exact ⟨nofun, nofun, nofun⟩
  | append_singleton earlier move ih =>
    obtain ⟨now, before, moved⟩ := play_concat played
    rw [List.append_assoc]
    obtain ⟨between, turn, rfl⟩ := turn_of_step moved
    refine collect_induct (fun _ other _ grounded => grounded.letGo other) ?_
    exact (ih before _).turn (traced_of_play started before _) turn

/-- Whoever is told a rejection has submitted a goal that the check refuses for this reason. -/
theorem grounds_of_told {config : Config} {context : Context Unit} {moves : List Move}
    {id : Goal.Id} {rejection : Rejection} (started : start config context = .ok first)
    (played : first.play moves = some coordinator)
    (told : .finished (.rejected rejection) ∈ (coordinator.memory.progress id).sent) :
    (Sources.ofRun first moves).Refuses id rejection := by
  have grounded := grounded_of_play started played []
  rw [List.append_nil] at grounded
  exact grounded.sent id rejection told

/-! ### Numbers -/

theorem nextId_of_submit {goal : Goal}
    (moved : coordinator.step (.call (.submit goal)) = some next) :
    next.memory.nextId = coordinator.memory.nextId + 1 := by
  obtain ⟨between, called, rfl⟩ := Option.map_eq_some_iff.mp moved
  rw [collect_nextId]
  simp only [call] at called
  split at called
  · cases called
  · cases called
    rfl

theorem nextId_lt_of_play {before between : List Move} {goal : Goal}
    (played : first.play before = some coordinator)
    (playedOn : first.play (before ++ .call (.submit goal) :: between) = some next) :
    coordinator.memory.nextId < next.memory.nextId := by
  rw [play, List.foldlM_append] at playedOn
  obtain ⟨now, toNow, playedOn⟩ := Option.bind_eq_some_iff.mp playedOn
  cases played.symm.trans toNow
  obtain ⟨submitted, moved, rest⟩ := Option.bind_eq_some_iff.mp playedOn
  have grown := (Reachable.of_play rest).nextId_le
  rw [nextId_of_submit moved] at grown
  exact grown

/-- A number is given to one goal. -/
theorem Submitted.unique {moves : List Move} {id : Goal.Id} {goal other : Goal}
    (submitted : Submitted first moves id goal) (submittedToo : Submitted first moves id other) :
    goal = other := by
  obtain ⟨before, after, now, split, played, rfl⟩ := submitted
  obtain ⟨beforeToo, afterToo, nowToo, splitToo, playedToo, same⟩ := submittedToo
  rcases List.append_eq_append_iff.mp (split.symm.trans splitToo) with
    ⟨between, longer, rest⟩ | ⟨between, longer, rest⟩
  · cases between with
    | nil => cases rest; rfl
    | cons move between =>
      cases rest
      exact absurd same.symm (Nat.ne_of_lt (nextId_lt_of_play played (longer ▸ playedToo)))
  · cases between with
    | nil => cases rest; rfl
    | cons move between =>
      cases rest
      exact absurd same (Nat.ne_of_lt (nextId_lt_of_play playedToo (longer ▸ played)))

end ArmLink.Coordinator
