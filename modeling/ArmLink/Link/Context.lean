import ArmLink.Duration
import ArmLink.Firmware.Layout
import ArmLink.Joints
import ArmLink.Telemetry.RobotState

/-!
What is known about the arm at a moment: the last joint feedback, the state, when anything was last
heard, and which layouts the controller sends.  The threads of the library share one `Context`.

Whoever wants to know about changes of state is a listener.  A new state is told to every listener,
in the order in which they joined, and only if it differs from the state before; forgetting the
state tells nobody, so the same state may then be told again.  What was told is kept in `told`,
oldest first.
-/

namespace ArmLink.Link

open Firmware Telemetry

/-- Positions and velocities of the joints as last measured. -/
structure JointFeedback where
  positions : Joints Float
  velocities : Joints Float
  /-- The controller's clock, which only the realtime feed carries. -/
  controllerTime : Option Float

/-- Whether every joint is slower than a threshold.  A speed that is no number is not slow. -/
def JointFeedback.isStill (feedback : JointFeedback) (threshold : Float) : Bool :=
  feedback.velocities.all fun velocity => velocity.abs < threshold

/-- Those who are told about changes of state, first come first. -/
structure Notifier (ι : Type) where
  listeners : List ι := []

namespace Notifier

variable {ι : Type}

/-- Adds a listener behind the others. -/
def join (notifier : Notifier ι) (listener : ι) : Notifier ι :=
  { listeners := notifier.listeners ++ [listener] }

def size (notifier : Notifier ι) : Nat := notifier.listeners.length

def isEmpty (notifier : Notifier ι) : Bool := notifier.size == 0

def tell (notifier : Notifier ι) (state : RobotState) : List (ι × RobotState) :=
  notifier.listeners.map (·, state)

def description (notifier : Notifier ι) : String :=
  s!"StateNotifier \x7b listeners: {notifier.size} \x7d"

end Notifier

/-- A queue that takes no more than its capacity; what does not fit is dropped. -/
structure Mailbox (α : Type) where
  capacity : Nat
  waiting : List α := []

namespace Mailbox

variable {α : Type}

/-- Adds an item behind the others if there is room. -/
def offer (mailbox : Mailbox α) (item : α) : Mailbox α :=
  if mailbox.waiting.length < mailbox.capacity then
    { mailbox with waiting := mailbox.waiting ++ [item] }
  else
    mailbox

/-- The oldest item, and the queue without it. -/
def take (mailbox : Mailbox α) : Option α × Mailbox α :=
  match mailbox.waiting with
  | [] => (none, mailbox)
  | item :: rest => (some item, { mailbox with waiting := rest })

end Mailbox

/-- Those who can listen to a change of state. -/
inductive Listener where
  /-- One that writes down what it is told, under a name. -/
  | recorder (name : String)
  /-- A numbered mailbox, into which the state is put. -/
  | mailbox (number : Nat)
deriving DecidableEq, Repr

/-- What recorders wrote down: their names and the states. -/
def Listener.records (told : List (Listener × RobotState)) : List String :=
  told.filterMap fun (listener, state) =>
    match listener with
    | .recorder name => some s!"{name}:{state.name}"
    | .mailbox _ => none

def Listener.post (told : List (Listener × RobotState)) (mailboxes : Array (Mailbox RobotState)) :
    Array (Mailbox RobotState) :=
  told.foldl (fun mailboxes (listener, state) =>
    match listener with
    | .mailbox number => mailboxes.modify number (·.offer state)
    | .recorder _ => mailboxes) mailboxes

/-- A cell for the state that several threads may read and write. -/
structure StateCell where
  state : Option RobotState := none

namespace StateCell

/-- Writes a state and answers the one before. -/
def exchange (cell : StateCell) (state : RobotState) : Option RobotState × StateCell :=
  (cell.state, ⟨some state⟩)

def clear (_ : StateCell) : StateCell := ⟨none⟩

end StateCell

/-- What the threads share about the arm.  Listeners are named by `ι`. -/
structure Context (ι : Type) where
  /-- Without feedback for this long the telemetry counts as lost. -/
  telemetryTimeout : Duration
  /-- The clock, in microseconds since some moment before the first feedback. -/
  clock : Nat := 0
  lastFeedback : Option Nat := none
  joints : Option JointFeedback := none
  cell : StateCell := {}
  layouts : Option Layouts := none
  notifier : Notifier ι := {}
  /-- What the listeners were told so far, oldest first. -/
  told : List (ι × RobotState) := []

namespace Context

variable {ι : Type}

def robotState (context : Context ι) : Option RobotState := context.cell.state

/-- Remembers that something was heard. -/
def noteFeedback (context : Context ι) : Context ι :=
  { context with lastFeedback := some context.clock }

def storeJoints (context : Context ι) (feedback : JointFeedback) : Context ι :=
  { context with joints := some feedback }

/-- Stores joint feedback and remembers that something was heard. -/
def publishJoints (context : Context ι) (feedback : JointFeedback) : Context ι :=
  (context.storeJoints feedback).noteFeedback

/-- Writes the state without telling anybody; answers whether it differs from the one before. -/
def exchangeState (context : Context ι) (state : RobotState) : Bool × Context ι :=
  let (previous, cell) := context.cell.exchange state
  (previous != some state, { context with cell })

def notify (context : Context ι) (state : RobotState) : Context ι :=
  { context with told := context.told ++ context.notifier.tell state }

/-- Writes the state and, if it differs from the one before, tells every listener. -/
def updateState (context : Context ι) (state : RobotState) : Bool × Context ι :=
  match context.exchangeState state with
  | (true, context) => (true, context.notify state)
  | (false, context) => (false, context)

def clearJoints (context : Context ι) : Context ι := { context with joints := none }

/-- Forgets the state, without telling anybody. -/
def clearState (context : Context ι) : Context ι := { context with cell := context.cell.clear }

def invalidate (context : Context ι) : Context ι := context.clearState.clearJoints

def addListener (context : Context ι) (listener : ι) : Context ι :=
  { context with notifier := context.notifier.join listener }

/-- Remembers the layouts of the controller. -/
def setLayouts (context : Context ι) (layouts : Layouts) : Context ι :=
  { context with layouts := some layouts }

/-- Lets time pass. -/
def advance (context : Context ι) (microseconds : Nat) : Context ι :=
  { context with clock := context.clock + microseconds }

/-- Whether anything was ever heard. -/
def hasFeedback (context : Context ι) : Bool := context.lastFeedback.isSome

/-- How long ago something was last heard, in whole microseconds. -/
def sinceFeedback (context : Context ι) : Option Duration :=
  context.lastFeedback.map fun last => Duration.ofMicros (context.clock - last)

/-- Whether something was heard within the telemetry timeout.  Nothing is alive before the first
feedback, and never with a timeout of zero. -/
def isAlive (context : Context ι) : Bool :=
  match context.sinceFeedback with
  | some elapsed => decide (elapsed < context.telemetryTimeout)
  | none => false

end Context

end ArmLink.Link
