import ArmLink.Duration

/-!
Settings of the follower: where it waits for the control program, how often it sends a record, and
the limits of timed motion.
-/

namespace ArmLink.Follower

/-- Settings of a follower. -/
structure Config (α : Type) where
  /-- The address that the control program connects to. -/
  address : String
  port : UInt16
  /-- How long to wait for the control program to connect. -/
  acceptTimeout : Duration
  period : Duration
  /-- How long sending one record may take. -/
  writeTimeout : Duration
  /-- How long to wait for an acknowledgement; without it none is expected. -/
  acknowledgementTimeout : Option Duration
  /-- Velocity limit of timed motion. -/
  maxVelocity : α
  /-- Acceleration limit of timed motion. -/
  maxAcceleration : α

/-- Whether a timeout is set to nothing at all, which a connection cannot be set up with. -/
def Config.hasZeroTimeout {α : Type} (config : Config α) : Bool :=
  config.writeTimeout == .zero || config.acknowledgementTimeout == some .zero

/-- The settings used where none are given. -/
def Config.default : Config Float where
  address := "0.0.0.0"
  port := 50001
  acceptTimeout := Duration.ofParts 30 0
  period := Duration.ofMillis 8
  writeTimeout := Duration.ofMillis 8
  acknowledgementTimeout := none
  maxVelocity := 10.0
  maxAcceleration := 15.0

end ArmLink.Follower
