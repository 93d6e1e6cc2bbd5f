/-!
What the controller says about the arm: its own modes and safety modes as sent on the wire, and
the four-valued state that the rest of the library works with.  Only `running` permits motion.

Every coded enumeration has `ofCode` and `code`; a code without a name is kept in `other`, so that
`code (ofCode n) = n` for every byte.
-/

namespace ArmLink.Telemetry

/-- The state of the arm as far as motion is concerned. -/
inductive RobotState where
  | running
  | protectiveStopped
  | emergencyStopped
  | error
deriving DecidableEq, Repr

namespace RobotState

def name : RobotState → String
  | .running => "Running"
  | .protectiveStopped => "ProtectiveStopped"
  | .emergencyStopped => "EmergencyStopped"
  | .error => "Error"

def ofName? (name : String) : Option RobotState :=
  [running, protectiveStopped, emergencyStopped, error].find? (·.name == name)

/-- The number of a state where states are stored as bytes. -/
def code : RobotState → UInt8
  | .running => 0
  | .protectiveStopped => 1
  | .emergencyStopped => 2
  | .error => 3

def ofCode? (code : UInt8) : Option RobotState :=
  if code = 0 then some .running
  else if code = 1 then some .protectiveStopped
  else if code = 2 then some .emergencyStopped
  else if code = 3 then some .error
  else none

/-- The state that the stop flags and the mode amount to: an emergency stop outranks a protective
stop, and both outrank the mode. -/
def derive (emergencyStopped protectiveStopped runningMode : Bool) : RobotState :=
  if emergencyStopped then .emergencyStopped
  else if protectiveStopped then .protectiveStopped
  else if runningMode then .running
  else .error

end RobotState

/-- Robot modes of firmware 1.x. -/
inductive LegacyMode where
  | running | freedrive | ready | initializing | securityStopped | emergencyStopped
  | fatalError | noPower | notConnected | shutdown | safeguardStop
  | other (code : UInt8)
deriving DecidableEq, Repr

namespace LegacyMode

def ofCode (code : UInt8) : LegacyMode :=
  match code.toNat with
  | 0 => .running
  | 1 => .freedrive
  | 2 => .ready
  | 3 => .initializing
  | 4 => .securityStopped
  | 5 => .emergencyStopped
  | 6 => .fatalError
  | 7 => .noPower
  | 8 => .notConnected
  | 9 => .shutdown
  | 10 => .safeguardStop
  | _ => .other code

def code : LegacyMode → UInt8
  | .running => 0
  | .freedrive => 1
  | .ready => 2
  | .initializing => 3
  | .securityStopped => 4
  | .emergencyStopped => 5
  | .fatalError => 6
  | .noPower => 7
  | .notConnected => 8
  | .shutdown => 9
  | .safeguardStop => 10
  | .other code => code

end LegacyMode

/-- Robot modes of firmware 3.x and 5.x. -/
inductive RobotMode where
  | disconnected | confirmSafety | booting | powerOff | powerOn | idle | backdrive | running
  | updatingFirmware
  | other (code : UInt8)
deriving DecidableEq, Repr

namespace RobotMode

def ofCode (code : UInt8) : RobotMode :=
  match code.toNat with
  | 0 => .disconnected
  | 1 => .confirmSafety
  | 2 => .booting
  | 3 => .powerOff
  | 4 => .powerOn
  | 5 => .idle
  | 6 => .backdrive
  | 7 => .running
  | 8 => .updatingFirmware
  | _ => .other code

def code : RobotMode → UInt8
  | .disconnected => 0
  | .confirmSafety => 1
  | .booting => 2
  | .powerOff => 3
  | .powerOn => 4
  | .idle => 5
  | .backdrive => 6
  | .running => 7
  | .updatingFirmware => 8
  | .other code => code

end RobotMode

/-- Safety modes of firmware 3.x and 5.x. -/
inductive SafetyMode where
  | normal | reduced | protectiveStop | recovery | safeguardStop | systemEmergencyStop
  | robotEmergencyStop | violation | fault
  | other (code : UInt8)
deriving DecidableEq, Repr

namespace SafetyMode

def ofCode (code : UInt8) : SafetyMode :=
  match code.toNat with
  | 1 => .normal
  | 2 => .reduced
  | 3 => .protectiveStop
  | 4 => .recovery
  | 5 => .safeguardStop
  | 6 => .systemEmergencyStop
  | 7 => .robotEmergencyStop
  | 8 => .violation
  | 9 => .fault
  | _ => .other code

def code : SafetyMode → UInt8
  | .normal => 1
  | .reduced => 2
  | .protectiveStop => 3
  | .recovery => 4
  | .safeguardStop => 5
  | .systemEmergencyStop => 6
  | .robotEmergencyStop => 7
  | .violation => 8
  | .fault => 9
  | .other code => code

end SafetyMode

/-- The state shown by the safety mode and the robot mode of firmware 3.x and 5.x: stops and faults
of the safety system come before the mode. -/
def RobotState.ofModes (safety : SafetyMode) (mode : RobotMode) : RobotState :=
  match safety with
  | .systemEmergencyStop | .robotEmergencyStop => .emergencyStopped
  | .protectiveStop | .safeguardStop => .protectiveStopped
  | .recovery | .violation | .fault => .error
  | _ => if mode = .running then .running else .error

/-- The state shown by a mode code of firmware 1.x. -/
def RobotState.ofLegacyCode (code : UInt8) : RobotState :=
  match LegacyMode.ofCode code with
  | .running => .running
  | .securityStopped | .safeguardStop => .protectiveStopped
  | .emergencyStopped => .emergencyStopped
  | _ => .error

end ArmLink.Telemetry
