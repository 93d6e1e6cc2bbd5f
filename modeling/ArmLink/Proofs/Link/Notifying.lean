import ArmLink.Proofs.Link.Sharing
import Mathlib.Data.List.Induction

/-!
Who is told of which changes of the state.

A context goes through operations (`Operation`), among them listeners joining.  Which of its updates
are news can be read off the operations alone: `changes` follows the state from update to update and
keeps those that bring another state than the one just before, where a cleared state is like none.

The telling of a run is this list, each change told to all who have joined before it
(`told_through`).  So a listener that has joined once hears exactly the changes behind its joining,
in their order (`heardBy_through`).  Two changes to the same state in a row mean that the state was
cleared between them (`cleared_between`), and the last change since the state was cleared is the
state (`getLast?_changes`).

Main statement: `notifying_of_through`.
-/

namespace ArmLink.Link

open Firmware Telemetry

variable {ι : Type}

inductive Operation (ι : Type) where
  | publishJoints (feedback : JointFeedback)
  | updateState (state : RobotState)
  | clearState
  | clearJoints
  | invalidate
  | noteFeedback
  | setLayouts (layouts : Layouts)
  | addListener (listener : ι)
  | advance (microseconds : Nat)

namespace Operation

def apply (context : Context ι) : Operation ι → Context ι
  | .publishJoints feedback => context.publishJoints feedback
  | .updateState state => (context.updateState state).2
  | .clearState => context.clearState
  | .clearJoints => context.clearJoints
  | .invalidate => context.invalidate
  | .noteFeedback => context.noteFeedback
  | .setLayouts layouts => context.setLayouts layouts
  | .addListener listener => context.addListener listener
  | .advance microseconds => context.advance microseconds

def clears : Operation ι → Bool
  | .clearState | .invalidate => true
  | _ => false

def concernsState : Operation ι → Bool
  | .updateState _ | .clearState | .invalidate => true
  | _ => false

def concernsJoints : Operation ι → Bool
  | .publishJoints _ | .clearJoints | .invalidate => true
  | _ => false

/-- The state behind an operation, from the state in front of it. -/
def leaves (state : Option RobotState) : Operation ι → Option RobotState
  | .updateState new => some new
  | .clearState | .invalidate => none
  | _ => state

/-- What an operation makes known: a state that differs from the one in front of it. -/
def news (state : Option RobotState) : Operation ι → List RobotState
  | .updateState new => if state = some new then [] else [new]
  | _ => []

def joining : Operation ι → List ι
  | .addListener listener => [listener]
  | _ => []

end Operation

def stateAfter (state : Option RobotState) (operations : List (Operation ι)) : Option RobotState :=
  operations.foldl Operation.leaves state

/-- The states, oldest first, that some operations bring and that differ from the state just before.
-/
def changes (state : Option RobotState) : List (Operation ι) → List RobotState
  | [] => []
  | operation :: later => operation.news state ++ changes (operation.leaves state) later

/-- Every change, told to all who have joined before it. -/
def tellings (state : Option RobotState) (listeners : List ι) :
    List (Operation ι) → List (ι × RobotState)
  | [] => []
  | operation :: later =>
    (operation.news state).flatMap (fun new => listeners.map (·, new)) ++
      tellings (operation.leaves state) (listeners ++ operation.joining) later

namespace Context

def through (context : Context ι) (operations : List (Operation ι)) : Context ι :=
  operations.foldl Operation.apply context

/-- The state of an update that answers that the state has changed. -/
def announces (context : Context ι) : Operation ι → List RobotState
  | .updateState state => if (context.updateState state).1 then [state] else []
  | _ => []

/-- The states of those updates, oldest first, that answer that the state has changed. -/
def announced (context : Context ι) : List (Operation ι) → List RobotState
  | [] => []
  | operation :: later => context.announces operation ++ (operation.apply context).announced later

/-- What a listener was told, oldest first. -/
def heardBy [DecidableEq ι] (context : Context ι) (listener : ι) : List RobotState :=
  (context.told.filter (·.1 = listener)).map (·.2)

end Context

variable {context : Context ι} {operation : Operation ι}
  {before after operations : List (Operation ι)} {state : Option RobotState} {new : RobotState}
  {listener : ι}

/-! ### One operation -/

@[simp] theorem updateState_fst (context : Context ι) (new : RobotState) :
    (context.updateState new).1 = true ↔ context.robotState ≠ some new := by
  rw [updateState_eq]
  exact bne_iff_ne

theorem robotState_apply (operation : Operation ι) (context : Context ι) :
    (operation.apply context).robotState = operation.leaves context.robotState := by
  cases operation with
  | updateState new => rw [Operation.apply, updateState_eq]; rfl
  | _ => rfl

theorem listeners_apply (operation : Operation ι) (context : Context ι) :
    (operation.apply context).notifier.listeners =
      context.notifier.listeners ++ operation.joining := by
  cases operation with
  | updateState new => rw [Operation.apply, updateState_eq]; exact (List.append_nil _).symm
  | addListener listener => rfl
  | _ => exact (List.append_nil _).symm

theorem told_apply (operation : Operation ι) (context : Context ι) :
    (operation.apply context).told = context.told ++
      (operation.news context.robotState).flatMap fun new =>
        context.notifier.listeners.map (·, new) := by
  cases operation with
  | updateState new =>
    simp only [Operation.apply, updateState_eq, Operation.news, Context.robotState]
    by_cases same : context.cell.state = some new
    · simp [same]
    · simp [same, Notifier.tell]
  | _ => exact (List.append_nil _).symm

theorem announces_eq_news (context : Context ι) (operation : Operation ι) :
    context.announces operation = operation.news context.robotState := by
  cases operation with
  | updateState new =>
    by_cases same : context.robotState = some new
    · rw [Operation.news, if_pos same]
      exact if_neg fun changed => (updateState_fst context new).mp changed same
    · rw [Operation.news, if_neg same]
      exact if_pos ((updateState_fst context new).mpr same)
  | _ => rfl

theorem Operation.state_apart (apart : operation.concernsState = false) (context : Context ι) :
    (operation.apply context).cell = context.cell ∧
      (operation.apply context).told = context.told := by
  cases operation <;> first
    | exact ⟨rfl, rfl⟩
    | cases apart

theorem Operation.joints_apart (apart : operation.concernsJoints = false) (context : Context ι) :
    (operation.apply context).joints = context.joints := by
  cases operation with
  | updateState new => rw [Operation.apply, updateState_eq]
  | publishJoints | clearJoints | invalidate => cases apart
  | _ => rfl

/-! ### Runs -/

theorem through_append (context : Context ι) (before after : List (Operation ι)) :
    context.through (before ++ after) = (context.through before).through after :=
  List.foldl_append

theorem robotState_through (context : Context ι) (operations : List (Operation ι)) :
    (context.through operations).robotState = stateAfter context.robotState operations := by
  induction operations generalizing context with
  | nil => rfl
  | cons operation later ih =>
    rw [stateAfter, List.foldl_cons, ← robotState_apply]
    exact ih (operation.apply context)

theorem listeners_through (context : Context ι) (operations : List (Operation ι)) :
    (context.through operations).notifier.listeners =
      context.notifier.listeners ++ operations.flatMap Operation.joining := by
  induction operations generalizing context with
  | nil => exact (List.append_nil _).symm
  | cons operation later ih =>
    rw [List.flatMap_cons, ← List.append_assoc, ← listeners_apply]
    exact ih (operation.apply context)

/-- What the listeners are told in a run can be read off its operations. -/
theorem told_through (context : Context ι) (operations : List (Operation ι)) :
    (context.through operations).told = context.told ++
      tellings context.robotState context.notifier.listeners operations := by
  induction operations generalizing context with
  | nil => exact (List.append_nil _).symm
  | cons operation later ih =>
    calc ((operation.apply context).through later).told
        = (operation.apply context).told ++ tellings (operation.apply context).robotState
            (operation.apply context).notifier.listeners later := ih _
      _ = _ := by
        rw [told_apply, robotState_apply, listeners_apply, List.append_assoc]
        rfl

theorem announced_eq_changes (context : Context ι) (operations : List (Operation ι)) :
    context.announced operations = changes context.robotState operations := by
  induction operations generalizing context with
  | nil => rfl
  | cons operation later ih =>
    rw [Context.announced, changes, ih, robotState_apply, announces_eq_news]

/-! ### Changes -/

theorem changes_append (state : Option RobotState) (before after : List (Operation ι)) :
    changes state (before ++ after) =
      changes state before ++ changes (stateAfter state before) after := by
  induction before generalizing state with
  | nil => rfl
  | cons operation later ih => simp only [List.cons_append, changes, ih, List.append_assoc]; rfl

theorem stateAfter_append (state : Option RobotState) (before after : List (Operation ι)) :
    stateAfter state (before ++ after) = stateAfter (stateAfter state before) after :=
  List.foldl_append

/-- A change has an update that makes it, to another state than the one just before. -/
theorem exists_update_of_changes {earlier later : List RobotState}
    (split : changes state operations = earlier ++ new :: later) :
    ∃ before after, operations = before ++ .updateState new :: after ∧
      changes state before = earlier ∧ stateAfter state before ≠ some new ∧
      changes (some new) after = later := by
  induction operations generalizing state earlier with
  | nil => simp [changes] at split
  | cons operation rest ih =>
    -- Unless the first operation makes the change itself, one of the rest does, behind what the
    -- first one makes known.
    have onward : ∀ earlier', earlier = operation.news state ++ earlier' →
        changes (operation.leaves state) rest = earlier' ++ new :: later →
        ∃ before after, operation :: rest = before ++ .updateState new :: after ∧
          changes state before = earlier ∧ stateAfter state before ≠ some new ∧
          changes (some new) after = later := by
      rintro earlier' rfl split
      obtain ⟨before, after, rfl, same, differs, ends⟩ := ih split
      exact ⟨operation :: before, after, rfl, by rw [changes, same], differs, ends⟩
    cases operation with
    | updateState other =>
      by_cases same : state = some other
      · refine onward earlier ?_ ?_
        · rw [Operation.news, if_pos same, List.nil_append]
        · rwa [changes, Operation.news, if_pos same, List.nil_append] at split
      · rw [changes, Operation.news, if_neg same] at split
        cases earlier with
        | nil =>
          obtain ⟨rfl, ends⟩ := List.cons.inj split
          exact ⟨[], rest, rfl, rfl, same, ends⟩
        | cons first earlier =>
          obtain ⟨rfl, behind⟩ := List.cons.inj split
          exact onward _ (by rw [Operation.news, if_neg same]; rfl) behind
    | _ => exact onward _ (List.nil_append earlier).symm split

theorem stateAfter_of_unchanged (unchanged : changes (some new) operations = [])
    (kept : ∀ operation ∈ operations, operation.clears = false) :
    stateAfter (some new) operations = some new := by
  induction operations with
  | nil => rfl
  | cons operation later ih =>
    obtain ⟨keeps, keptLater⟩ := List.forall_mem_cons.mp kept
    obtain ⟨nothing, unchangedLater⟩ := List.append_eq_nil_iff.mp unchanged
    have same : operation.leaves (some new) = some new := by
      cases operation with
      | updateState other =>
        simp only [Operation.news] at nothing
        split at nothing
        · exact ‹some new = some other›.symm
        · cases nothing
      | clearState | invalidate => cases keeps
      | _ => rfl
    rw [same] at unchangedLater
    rw [stateAfter, List.foldl_cons, same]
    exact ih unchangedLater keptLater

/-- Two changes in a row to the same state mean that the state was cleared between them. -/
theorem cleared_between {earlier later : List RobotState}
    (twice : changes state operations = earlier ++ new :: new :: later) :
    ∃ before between after,
      operations = before ++ .updateState new :: (between ++ .updateState new :: after) ∧
      changes state before = earlier ∧ changes (some new) between = [] ∧
      changes (some new) after = later ∧ ∃ operation ∈ between, operation.clears = true := by
  obtain ⟨before, rest, rfl, same, -, ends⟩ := exists_update_of_changes twice
  rw [← List.nil_append (new :: later)] at ends
  obtain ⟨between, after, rfl, unchanged, differs, ends⟩ := exists_update_of_changes ends
  refine ⟨before, between, after, rfl, same, unchanged, ends, ?_⟩
  cases cleared : between.any Operation.clears with
  | true => exact List.any_eq_true.mp cleared
  | false =>
    refine absurd (stateAfter_of_unchanged unchanged fun operation inside => ?_) differs
    exact Bool.eq_false_iff.mpr (List.any_eq_false.mp cleared operation inside)

/-- The last change is the state, if the state was undefined at first or was cleared since. -/
theorem getLast?_changes (known : state = none ∨ ∃ operation ∈ operations, operation.clears = true)
    (isState : stateAfter state operations = some new) :
    (changes state operations).getLast? = some new := by
  induction operations using List.reverseRecOn generalizing new with
  | nil =>
    rcases known with rfl | ⟨_, inside, -⟩
    · cases isState
    · cases inside
  | append_singleton operations last ih =>
    rw [stateAfter_append] at isState
    rw [changes_append, changes, changes, List.append_nil]
    -- The last operation leaves a state, so it does not clear; what is not an update either leaves
    -- the question to the operations before it.
    have knownBefore : last.clears = false →
        state = none ∨ ∃ operation ∈ operations, operation.clears = true := by
      intro keeps
      refine known.imp_right ?_
      rintro ⟨operation, inside, clears⟩
      rcases List.mem_append.mp inside with inside | isLast
      · exact ⟨operation, inside, clears⟩
      · rw [List.mem_singleton.mp isLast, keeps] at clears
        cases clears
    cases last with
    | updateState other =>
      obtain rfl : other = new := Option.some.inj isState
      by_cases same : stateAfter state operations = some other
      · simpa [Operation.news, same] using ih (knownBefore rfl) same
      · simp [Operation.news, same]
    | clearState | invalidate => cases isState
    | _ => simpa [Operation.news] using ih (knownBefore rfl) isState

/-! ### What one listener hears -/

section Heard

variable [DecidableEq ι]

theorem heardBy_of_tellings (listeners : List ι) (listener : ι) (state : Option RobotState)
    (alone : listener ∉ operations.flatMap Operation.joining) :
    ((tellings state listeners operations).filter (·.1 = listener)).map (·.2) =
      (changes state operations).flatMap (List.replicate (listeners.count listener)) := by
  induction operations generalizing state listeners with
  | nil => rfl
  | cons operation later ih =>
    -- The listeners become more along the run, but this one stays among them as often as it was.
    obtain ⟨notNow, notLater⟩ : listener ∉ operation.joining ∧
        listener ∉ later.flatMap Operation.joining := by
      rw [List.flatMap_cons, List.mem_append, not_or] at alone
      exact alone
    have sameCount :
        (listeners ++ operation.joining).count listener = listeners.count listener := by
      rw [List.count_append, List.count_eq_zero.mpr notNow, Nat.add_zero]
    have one : ∀ new : RobotState, ((listeners.map (·, new)).filter (·.1 = listener)).map (·.2) =
        List.replicate (listeners.count listener) new := by
      intro new
      rw [List.filter_map, List.map_map, List.count_eq_length_filter]
      exact List.map_const
    have told : (((operation.news state).flatMap fun new => listeners.map (·, new)).filter
        (·.1 = listener)).map (·.2) =
        (operation.news state).flatMap (List.replicate (listeners.count listener)) := by
      rw [List.filter_flatMap, List.map_flatMap]
      exact congrArg (List.flatMap · _) (funext one)
    rw [tellings, changes, List.filter_append, List.map_append, List.flatMap_append, told,
      ih (listeners ++ operation.joining) _ notLater, sameCount]

/-- Behind its last joining a listener hears each change as many times as it has joined. -/
theorem heardBy_through (context : Context ι)
    (alone : listener ∉ operations.flatMap Operation.joining) :
    (context.through operations).heardBy listener = context.heardBy listener ++
      (changes context.robotState operations).flatMap
        (List.replicate (context.notifier.listeners.count listener)) := by
  rw [Context.heardBy, told_through, List.filter_append, List.map_append,
    heardBy_of_tellings _ _ _ alone]
  rfl

end Heard

/-! ### The law of notification -/

/-- What has become of a new context through some operations.  Nothing is known of a new context,
and nobody listens to it. -/
def past (telemetryTimeout : Duration) (operations : List (Operation ι)) : Context ι :=
  Context.through { telemetryTimeout } operations

/-- A listener joins between some operations, and neither before nor after. -/
structure JoinsOnce (listener : ι) (before after : List (Operation ι)) : Prop where
  before : listener ∉ before.flatMap Operation.joining
  after : listener ∉ after.flatMap Operation.joining

/-- Who is told of what while a context goes through operations. -/
structure Notifying (ι : Type) [DecidableEq ι] (telemetryTimeout : Duration) : Prop where
  /-- The last word on the state counts. -/
  state : ∀ operations : List (Operation ι),
    (past telemetryTimeout operations).robotState = stateAfter none operations
  /-- An update answers whether the state just before was undefined or another. -/
  answers : ∀ (before : List (Operation ι)) new,
    ((past telemetryTimeout before).updateState new).1 = true ↔
      stateAfter none before = none ∨ ∃ other, stateAfter none before = some other ∧ other ≠ new
  announced : ∀ operations : List (Operation ι),
    Context.announced { telemetryTimeout } operations = changes none operations
  /-- A listener hears the changes behind its joining, each once and in order. -/
  heard : ∀ (before : List (Operation ι)) listener after, JoinsOnce listener before after →
    (past telemetryTimeout (before ++ .addListener listener :: after)).heardBy listener =
      changes (stateAfter none before) after
  /-- One that joins again hears each change as many times as it has joined. -/
  heardAgain : ∀ (before : List (Operation ι)) listener after,
    listener ∉ after.flatMap Operation.joining →
    (past telemetryTimeout (before ++ .addListener listener :: after)).heardBy listener =
      (past telemetryTimeout before).heardBy listener ++
        (changes (stateAfter none before) after).flatMap
          (List.replicate ((before.flatMap Operation.joining).count listener + 1))
  /-- Nothing but an update tells anybody. -/
  silent : ∀ (before : List (Operation ι)) (operation : Operation ι),
    (∀ new, operation ≠ .updateState new) →
    (operation.apply (past telemetryTimeout before)).told = (past telemetryTimeout before).told
  /-- A listener that hears the same state twice in a row hears it of two updates between which the
  state was cleared. -/
  repeated : ∀ (before : List (Operation ι)) listener after, JoinsOnce listener before after →
    ∀ earlier new later,
    (past telemetryTimeout (before ++ .addListener listener :: after)).heardBy listener =
      earlier ++ new :: new :: later →
    ∃ first between last,
      after = first ++ .updateState new :: (between ++ .updateState new :: last) ∧
      (past telemetryTimeout (before ++ .addListener listener :: first)).heardBy listener =
        earlier ∧
      changes (some new) between = [] ∧ ∃ operation ∈ between, operation.clears = true
  /-- As long as the state is known, a listener has heard it last if the state was undefined when
  the listener joined, or at some time since. -/
  latest : ∀ (before : List (Operation ι)) listener after, JoinsOnce listener before after →
    (stateAfter none before = none ∨ ∃ operation ∈ after, operation.clears = true) →
    ∀ new, (past telemetryTimeout (before ++ .addListener listener :: after)).robotState =
        some new →
      ((past telemetryTimeout (before ++ .addListener listener :: after)).heardBy
        listener).getLast? = some new
  updated : ∀ (before : List (Operation ι)) new,
    (past telemetryTimeout (before ++ [.updateState new])).robotState = some new
  /-- Operations on the joints leave the state and tell nobody. -/
  stateApart : ∀ (before : List (Operation ι)) (operation : Operation ι),
    operation.concernsState = false →
    (operation.apply (past telemetryTimeout before)).robotState =
        (past telemetryTimeout before).robotState ∧
      (operation.apply (past telemetryTimeout before)).told = (past telemetryTimeout before).told
  /-- Operations on the state leave the joints. -/
  jointsApart : ∀ (before : List (Operation ι)) (operation : Operation ι),
    operation.concernsJoints = false →
    (operation.apply (past telemetryTimeout before)).joints = (past telemetryTimeout before).joints

section Law

variable (telemetryTimeout : Duration)

theorem past_append (before after : List (Operation ι)) :
    past telemetryTimeout (before ++ after) = (past telemetryTimeout before).through after :=
  through_append _ before after

theorem robotState_past (operations : List (Operation ι)) :
    (past telemetryTimeout operations).robotState = stateAfter none operations :=
  robotState_through _ operations

theorem listeners_past (operations : List (Operation ι)) :
    (past telemetryTimeout operations).notifier.listeners =
      operations.flatMap Operation.joining :=
  listeners_through _ operations

variable [DecidableEq ι]

theorem heardBy_of_joining (before : List (Operation ι)) (listener : ι)
    (alone : listener ∉ after.flatMap Operation.joining) :
    (past telemetryTimeout (before ++ .addListener listener :: after)).heardBy listener =
      (past telemetryTimeout before).heardBy listener ++
        (changes (stateAfter none before) after).flatMap
          (List.replicate ((before.flatMap Operation.joining).count listener + 1)) := by
  have joined : ((past telemetryTimeout before).addListener
      listener).notifier.listeners.count listener =
        (before.flatMap Operation.joining).count listener + 1 := by
    change ((past telemetryTimeout before).notifier.listeners ++ [listener]).count listener = _
    rw [listeners_past, List.count_append, List.count_singleton_self]
  rw [past_append, ← robotState_past telemetryTimeout, ← joined]
  exact heardBy_through ((past telemetryTimeout before).addListener listener) alone

theorem heardBy_of_not_joining (absent : listener ∉ before.flatMap Operation.joining) :
    (past telemetryTimeout before).heardBy listener = [] := by
  rw [past, heardBy_through _ absent, List.count_nil]
  exact List.flatMap_eq_nil_iff.mpr fun _ _ => rfl

theorem heardBy_of_joinsOnce (once : JoinsOnce listener before after) :
    (past telemetryTimeout (before ++ .addListener listener :: after)).heardBy listener =
      changes (stateAfter none before) after := by
  rw [heardBy_of_joining _ _ _ once.after, heardBy_of_not_joining _ once.before,
    List.count_eq_zero.mpr once.before, List.nil_append]
  exact List.flatMap_singleton' _

/-- Whatever a context goes through, its listeners are told of the changes of the state, and of
nothing else. -/
theorem notifying_of_through : Notifying ι telemetryTimeout where
  state := robotState_past telemetryTimeout
  answers := by
    intro before new
    rw [updateState_fst, robotState_past]
    cases stateAfter none before <;> simp
  announced := announced_eq_changes _
  heard _ _ _ once := heardBy_of_joinsOnce telemetryTimeout once
  heardAgain before listener _ alone := heardBy_of_joining telemetryTimeout before listener alone
  silent := by
    intro before operation noUpdate
    rw [told_apply]
    cases operation with
    | updateState new => exact absurd rfl (noUpdate new)
    | _ => exact List.append_nil _
  repeated := by
    intro before listener after once earlier new later twice
    rw [heardBy_of_joinsOnce telemetryTimeout once] at twice
    obtain ⟨first, between, last, rfl, same, unchanged, -, cleared⟩ := cleared_between twice
    have onceBefore : JoinsOnce listener before first := by
      refine ⟨once.before, fun joins => once.after ?_⟩
      rw [List.flatMap_append]
      exact List.mem_append_left _ joins
    refine ⟨first, between, last, rfl, ?_, unchanged, cleared⟩
    rw [heardBy_of_joinsOnce telemetryTimeout onceBefore, same]
  latest := by
    intro before listener after once known new isState
    rw [heardBy_of_joinsOnce telemetryTimeout once]
    rw [robotState_past, stateAfter_append] at isState
    exact getLast?_changes known isState
  updated := by
    intro before new
    rw [robotState_past, stateAfter_append]
    rfl
  stateApart := by
    intro before operation apart
    obtain ⟨cell, told⟩ := operation.state_apart apart (past telemetryTimeout before)
    exact ⟨congrArg StateCell.state cell, told⟩
  jointsApart before operation apart := operation.joints_apart apart (past telemetryTimeout before)

end Law

end ArmLink.Link
