import ArmLink.Proofs.Coordinator.Outcomes
import Mathlib.Logic.Relation
import Mathlib.Order.WellFounded

/-!
Who waits for whom.

A thread waits for a lock that another one holds, or for the worker to end (`Awaits`).  One who
holds `current` or `pending` waits for nothing, and one who holds `exec` at most for one of these
two.  So whoever is waited for is nearer to the end of the waiting than the one who waits
(`Awaits.depth_lt`): nobody waits in a circle, and at the end of every chain of waiting there is a
thread that can make a step (`exists_unblocked`, `canStep_of_unblocked`).

The state notifier has a lock of its own, for the list of its listeners.  The coordinator is entered
there before it is in use, and from then on its threads take that lock for reading only.  Readers do
not keep each other out, so none of them waits for it, and it is left out.
-/

namespace ArmLink.Coordinator

open Goal Link Motion Telemetry

/-! ### Waiting for a lock -/

/-- The lock that a submitter is about to take. -/
def Submitting.wants : Submitting → Option Lock
  | .lockOld _ | .lockCurrent _ => some .current
  | .lockExec .. => some .exec
  | .lockPending _ => some .pending
  | _ => none

def Canceling.wants : Canceling → Option Lock
  | .lockCurrent _ | .relock _ => some .current
  | .lockExec _ => some .exec
  | _ => none

def Stopping.wants : Stopping → Option Lock
  | .lockCurrent => some .current
  | _ => none

def Closing.wants : Closing → Option Lock
  | .lockPending => some .pending
  | .lockCurrent => some .current
  | _ => none

def ClientPlace.wants : ClientPlace → Option Lock
  | .submitting place => place.wants
  | .canceling place => place.wants
  | .stopping place _ => place.wants
  | .closing place => place.wants
  | .exchanging _ | .done _ => none

/-- Whether a client waits for the worker to end. -/
def ClientPlace.joins : ClientPlace → Bool
  | .closing .join => true
  | _ => false

def WorkerPlace.wants : WorkerPlace → Option Lock
  | .lockPending | .sleeping => some .pending
  | .lockExec _ => some .exec
  | .lockCurrent _ => some .current
  | _ => none

/-- The lock that a thread is about to take.  An outcome is given first. -/
def wantsOf (coordinator : ArmLink.Coordinator) : Actor → Option Lock
  | .worker =>
    if coordinator.worker.finishing.isSome then none else coordinator.worker.place.wants
  | .client index =>
    if (coordinator.clientAt index).finishing.isSome then none
    else (coordinator.clientAt index).place.wants

/-- Whether a thread waits for the worker to end. -/
def joinsOf (coordinator : ArmLink.Coordinator) : Actor → Bool
  | .worker => false
  | .client index =>
    (coordinator.clientAt index).finishing.isNone && (coordinator.clientAt index).place.joins

/-- One thread waits for another. -/
inductive Awaits (coordinator : ArmLink.Coordinator) : Actor → Actor → Prop where
  | lock {actor other : Actor} {lock : Lock} (wants : coordinator.wantsOf actor = some lock)
      (held : coordinator.memory.owner lock = some other) : Awaits coordinator actor other
  | join {actor : Actor} (joins : coordinator.joinsOf actor = true)
      (working : coordinator.worker.isGone = false) : Awaits coordinator actor .worker

/-- Whether a thread has still something to do. -/
def IsUnfinished (coordinator : ArmLink.Coordinator) : Actor → Prop
  | .worker => coordinator.worker.isGone = false
  | .client index =>
    index < coordinator.clients.length ∧ coordinator.answer? index = none

/-- What the executor can do where the worker stands.  It is its turn only where it was asked for
something. -/
def WorkerPlace.Answers (place : WorkerPlace) (choice : Choice) : Prop :=
  match place with
  | .starting _ | .sending .. | .holding _ => ∃ result, choice = .result result
  | .streaming .. => choice = .goOn ∨ ∃ outcome, choice = .returned outcome
  | _ => True

/-- Whether a thread can make a step, whatever the executor answers if it was asked. -/
def CanStep (coordinator : ArmLink.Coordinator) (actor : Actor) : Prop :=
  ∀ choice, (actor = .worker → coordinator.worker.place.Answers choice) →
    ∃ next, coordinator.step (actor.move choice) = some next

section Places

variable {lock held : Lock}

theorem ClientPlace.order {place : ClientPlace} (wants : place.wants = some lock)
    (holds : held ∈ place.locks) : held = .exec ∧ lock ≠ .exec := by
  cases place with
  | submitting place => cases place <;> cases wants <;>
      simp_all [ClientPlace.locks, Submitting.locks]
  | canceling place => cases place <;> cases wants <;>
      simp_all [ClientPlace.locks, Canceling.locks]
  | stopping place answer =>
    cases place <;> cases wants
    simp_all [ClientPlace.locks, Stopping.locks]
  | closing place => cases place <;> cases wants <;>
      simp_all [ClientPlace.locks, Closing.locks]
  | _ => cases wants

theorem WorkerPlace.order {place : WorkerPlace} (wants : place.wants = some lock)
    (holds : held ∈ place.locks) : held = .exec ∧ lock ≠ .exec := by
  cases place <;> cases wants <;> simp_all [WorkerPlace.locks]

theorem ClientPlace.locks_of_joins {place : ClientPlace} (joins : place.joins = true) :
    place.locks = [] ∧ place.wants = none := by
  unfold ClientPlace.joins at joins
  split at joins
  · exact ⟨rfl, rfl⟩
  · cases joins

end Places

variable {coordinator first : ArmLink.Coordinator} {actor other : Actor} {lock held : Lock}

/-- Who waits for a lock holds `exec` at most, and does not wait for it. -/
theorem order_of_wants (wants : coordinator.wantsOf actor = some lock)
    (holds : held ∈ coordinator.locksOf actor) : held = .exec ∧ lock ≠ .exec := by
  cases actor with
  | worker =>
    rw [wantsOf] at wants
    split at wants
    · cases wants
    · exact WorkerPlace.order wants holds
  | client index =>
    rw [wantsOf] at wants
    split at wants
    · cases wants
    · exact ClientPlace.order wants holds

/-- Who waits for the worker to end holds no lock, and waits for none. -/
theorem locks_of_joins (joins : coordinator.joinsOf actor = true) :
    coordinator.locksOf actor = [] ∧ coordinator.wantsOf actor = none := by
  cases actor with
  | worker => cases joins
  | client index =>
    rw [joinsOf, Bool.and_eq_true] at joins
    obtain ⟨locks, wants⟩ := ClientPlace.locks_of_joins joins.2
    refine ⟨locks, ?_⟩
    simp only [wantsOf]
    split
    · rfl
    · exact wants

/-! ### Nobody waits in a circle -/

/-- How far one who waits for a lock is at most from the end of the waiting. -/
def Lock.depth : Lock → Nat
  | .exec => 2
  | .pending | .current => 1

/-- How far a thread is at most from the end of the waiting. -/
def depth (coordinator : ArmLink.Coordinator) (actor : Actor) : Nat :=
  if coordinator.joinsOf actor then 3
  else match coordinator.wantsOf actor with
    | some lock => lock.depth
    | none => 0

theorem depth_le_of_holds (holds : held ∈ coordinator.locksOf actor) :
    coordinator.depth actor ≤ 1 ∧ (held ≠ .exec → coordinator.depth actor = 0) := by
  have notJoins : ¬ coordinator.joinsOf actor = true := by
    intro joins
    rw [(locks_of_joins joins).1] at holds
    cases holds
  rw [depth, if_neg notJoins]
  cases wants : coordinator.wantsOf actor with
  | none => exact ⟨Nat.zero_le 1, fun _ => rfl⟩
  | some lock =>
    obtain ⟨isExec, notExec⟩ := order_of_wants wants holds
    refine ⟨?_, fun other => absurd isExec other⟩
    cases lock with
    | exec => exact absurd rfl notExec
    | pending | current => exact Nat.le_refl 1

/-- Whoever is waited for is nearer to the end of the waiting. -/
theorem Awaits.depth_lt (guarded : Guarded coordinator) (awaits : Awaits coordinator actor other) :
    coordinator.depth other < coordinator.depth actor := by
  cases awaits with
  | @lock _ taken wants held =>
    have holds := (guarded taken other).mp held
    obtain ⟨few, none⟩ := depth_le_of_holds holds
    have notJoins : ¬ coordinator.joinsOf actor = true := by
      intro joins
      cases (locks_of_joins joins).2.symm.trans wants
    have far : coordinator.depth actor = taken.depth := by rw [depth, if_neg notJoins, wants]
    rw [far]
    cases taken with
    | exec => exact Nat.lt_succ_of_le few
    | pending | current => rw [none (by simp)]; exact Nat.one_pos
  | join joins working =>
    have far : coordinator.depth actor = 3 := by rw [depth, if_pos joins]
    rw [far, depth, if_neg (by simp [joinsOf])]
    split
    · rename_i lock _
      cases lock <;> decide
    · exact Nat.zero_lt_succ 2

theorem not_circle (guarded : Guarded coordinator) {actors : Set Actor}
    (some : actors.Nonempty) :
    ¬ ∀ actor ∈ actors, ∃ other ∈ actors, Awaits coordinator actor other := by
  intro circle
  obtain ⟨actor, inside, least⟩ :=
    (measure coordinator.depth).wf.has_min actors some
  obtain ⟨other, insideToo, awaits⟩ := circle actor inside
  exact least other insideToo (awaits.depth_lt guarded)

/-! ### At the end of the waiting -/

section Steps

variable {workerEnded : Bool} {client : Client} {worker : Worker} {memory : Memory}

/-- A lock can be taken, or somebody has it. -/
theorem map_acquire_or_held {α : Type} (memory : Memory) (lock : Lock) (actor : Actor)
    (result : Memory → α) : (∃ after, (memory.acquire lock actor).map result = some after) ∨
      ∃ other, memory.owner lock = some other := by
  unfold Memory.acquire
  cases memory.owner lock with
  | none => exact .inl ⟨_, rfl⟩
  | some other => exact .inr ⟨other, rfl⟩

theorem Submitting.step_or_waits (place : Submitting) :
    (∃ after, place.step actor client memory = some after) ∨
      ∃ lock other, place.wants = some lock ∧ memory.owner lock = some other := by
  cases place with
  | lockOld | lockExec | lockCurrent | lockPending =>
    refine (map_acquire_or_held memory _ actor _).imp_right ?_
    rintro ⟨other, held⟩
    exact ⟨_, other, rfl, held⟩
  | askAlive | askState | readOld =>
    left
    simp only [Submitting.step]
    split <;> exact ⟨_, rfl⟩
  | _ => exact .inl ⟨_, rfl⟩

theorem Canceling.step_or_waits (place : Canceling) :
    (∃ after, place.step actor client memory = some after) ∨
      ∃ lock other, place.wants = some lock ∧ memory.owner lock = some other := by
  cases place with
  | lockCurrent | lockExec | relock =>
    refine (map_acquire_or_held memory _ actor _).imp_right ?_
    rintro ⟨other, held⟩
    exact ⟨_, other, rfl, held⟩
  | read | vacate =>
    left
    simp only [Canceling.step]
    split <;> exact ⟨_, rfl⟩
  | _ => exact .inl ⟨_, rfl⟩

theorem Stopping.step_or_waits (place : Stopping) (answer : Answer) :
    (∃ after, place.step answer actor client memory = some after) ∨
      ∃ lock other, place.wants = some lock ∧ memory.owner lock = some other := by
  cases place with
  | lockCurrent =>
    refine (map_acquire_or_held memory _ actor _).imp_right ?_
    rintro ⟨other, held⟩
    exact ⟨_, other, rfl, held⟩
  | _ => exact .inl ⟨_, rfl⟩

theorem Closing.step_or_waits (place : Closing) :
    (∃ after, place.step workerEnded actor client memory = some after) ∨
      (∃ lock other, place.wants = some lock ∧ memory.owner lock = some other) ∨
        place = .join ∧ workerEnded = false := by
  cases place with
  | lockPending | lockCurrent =>
    refine (map_acquire_or_held memory _ actor _).imp_right fun held => .inl ?_
    obtain ⟨other, held⟩ := held
    exact ⟨_, other, rfl, held⟩
  | join =>
    cases workerEnded with
    | true => exact .inl ⟨_, rfl⟩
    | false => exact .inr (.inr ⟨rfl, rfl⟩)
  | _ => exact .inl ⟨_, rfl⟩

/-- A client that is not done makes a step, or waits. -/
theorem Client.step_or_waits (notDone : ∀ answer, client.finishing = none →
      client.place ≠ .done answer) :
    (∃ after, client.step workerEnded actor memory = some after) ∨
      (client.finishing = none ∧
        ((∃ lock other, client.place.wants = some lock ∧ memory.owner lock = some other) ∨
          (client.place.joins = true ∧ workerEnded = false))) := by
  unfold Client.step
  cases busy : client.finishing with
  | some finishing => exact .inl ⟨_, rfl⟩
  | none =>
    cases stands : client.place with
    | submitting place =>
      exact (place.step_or_waits).imp_right fun waits => ⟨rfl, .inl waits⟩
    | canceling place =>
      exact (place.step_or_waits).imp_right fun waits => ⟨rfl, .inl waits⟩
    | exchanging state => exact .inl ⟨_, rfl⟩
    | stopping place answer =>
      exact (place.step_or_waits answer).imp_right fun waits => ⟨rfl, .inl waits⟩
    | closing place =>
      refine (place.step_or_waits).imp_right fun waits => ⟨rfl, waits.imp_right ?_⟩
      rintro ⟨rfl, working⟩
      exact ⟨rfl, working⟩
    | done answer => exact absurd stands (notDone answer busy)

/-- A worker that is not gone makes a step, or waits. -/
theorem Worker.step_or_waits (working : worker.isGone = false) {choice : Choice}
    (answers : worker.place.Answers choice) :
    (∃ after, worker.step choice memory = some after) ∨
      (worker.finishing = none ∧
        ∃ lock other, worker.place.wants = some lock ∧ memory.owner lock = some other) := by
  unfold Worker.step
  cases busy : worker.finishing with
  | some finishing => exact .inl ⟨_, rfl⟩
  | none =>
    cases stands : worker.place with
    | lockPending | sleeping | lockExec | lockCurrent =>
      refine (map_acquire_or_held memory _ .worker _).imp_right ?_
      rintro ⟨other, held⟩
      exact ⟨rfl, _, other, rfl, held⟩
    | ended | dead => rw [Worker.isGone, stands] at working; cases working
    | starting | sending | holding =>
      rw [stands] at answers
      obtain ⟨result | result, rfl⟩ := answers
      · exact .inl ⟨_, rfl⟩
      · exact .inl ⟨_, rfl⟩
    | streaming =>
      rw [stands] at answers
      rcases answers with rfl | ⟨outcome, rfl⟩
      · exact .inl ⟨_, rfl⟩
      · exact .inl ⟨_, rfl⟩
    | look =>
      left
      simp only [Worker.takeStep]
      split <;> exact ⟨_, rfl⟩
    | startPoint =>
      left
      simp only [Worker.beginStep]
      split <;> exact ⟨_, rfl⟩
    | monitor =>
      left
      simp only [Worker.watchStep]
      split <;> exact ⟨_, rfl⟩
    | vacate =>
      left
      simp only [Worker.endStep]
      split <;> exact ⟨_, rfl⟩
    | _ => exact .inl ⟨_, rfl⟩

end Steps

theorem canStep_of_unblocked (unfinished : IsUnfinished coordinator actor)
    (unblocked : ∀ other, ¬ Awaits coordinator actor other) : CanStep coordinator actor := by
  intro choice answers
  cases actor with
  | worker =>
    rcases coordinator.worker.step_or_waits unfinished (answers rfl) with ⟨after, step⟩ |
      ⟨free, lock, other, wants, held⟩
    · exact ⟨_, step_worker step⟩
    · have wants : coordinator.wantsOf .worker = some lock := by
        simpa [wantsOf, free] using wants
      exact absurd (.lock wants held) (unblocked other)
  | client index =>
    obtain ⟨inside, unanswered⟩ := unfinished
    have notDone : ∀ answer, (coordinator.clientAt index).finishing = none →
        (coordinator.clientAt index).place ≠ .done answer := by
      intro answer free stands
      cases unanswered.symm.trans (answer?_of_done inside free stands)
    rcases Client.step_or_waits notDone with ⟨after, step⟩ |
      ⟨free, ⟨lock, other, wants, held⟩ | ⟨joins, working⟩⟩
    · exact ⟨_, step_client inside step⟩
    · have wants : coordinator.wantsOf (.client index) = some lock := by
        simpa [wantsOf, free] using wants
      exact absurd (.lock wants held) (unblocked other)
    · have joins : coordinator.joinsOf (.client index) = true := by
        simp [joinsOf, free, joins]
      exact absurd (.join joins working) (unblocked .worker)

/-- Whoever is waited for has still something to do. -/
theorem Awaits.unfinished (guarded : Guarded coordinator)
    (awaits : Awaits coordinator actor other) : IsUnfinished coordinator other := by
  cases awaits with
  | join _ working => exact working
  | @lock _ taken _ held =>
    have holds := (guarded taken other).mp held
    cases other with
    | worker =>
      cases gone : coordinator.worker.isGone with
      | false => exact gone
      | true =>
        rw [locksOf, locks_of_isGone gone] at holds
        cases holds
    | client index =>
      constructor
      · refine lt_length_of_ne_idle fun idles => ?_
        rw [locksOf, idles] at holds
        cases holds
      · refine Option.eq_none_iff_forall_ne_some.mpr fun answer answered => ?_
        rw [locksOf, (done_of_answer? answered).2] at holds
        cases holds

/-- At the end of every chain of waiting there is a thread that waits for nobody. -/
theorem exists_unblocked (guarded : Guarded coordinator)
    (unfinished : IsUnfinished coordinator actor) :
    ∃ other, Relation.ReflTransGen (Awaits coordinator) actor other ∧
      IsUnfinished coordinator other ∧ ∀ third, ¬ Awaits coordinator other third := by
  induction far : coordinator.depth actor using Nat.strong_induction_on generalizing actor with
  | _ bound ih =>
    by_cases blocked : ∃ other, Awaits coordinator actor other
    · obtain ⟨other, awaits⟩ := blocked
      have nearer : coordinator.depth other < bound := far ▸ awaits.depth_lt guarded
      obtain ⟨last, chain, rest⟩ := ih _ nearer (awaits.unfinished guarded) rfl
      exact ⟨last, .head awaits chain, rest⟩
    · exact ⟨actor, .refl, unfinished, fun third awaits => blocked ⟨third, awaits⟩⟩

end ArmLink.Coordinator
