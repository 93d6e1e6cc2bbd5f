import ArmLink.Firmware.Version
import ArmLink.Wire.Fault

/-!
Packet layouts by firmware.  The layout of the two telemetry feeds changed with the controller's
firmware; it is chosen once, when the firmware is known, and every later packet is read with it.
-/

namespace ArmLink.Firmware

/-- Layouts of the realtime feed, oldest first. -/
inductive RealtimeLayout where
  /-- Firmware 1.6 and 1.7. -/
  | v1_6
  /-- Firmware 1.8. -/
  | v1_8
  /-- Firmware 3.0 and 3.1. -/
  | v3_0
  /-- Firmware 3.2 to 3.4. -/
  | v3_2
  /-- Firmware 3.5 and later, and 5.x. -/
  | v3_5
deriving DecidableEq, Repr

def RealtimeLayout.name : RealtimeLayout → String
  | .v1_6 => "V1_6_7"
  | .v1_8 => "V1_8"
  | .v3_0 => "V3_0_1"
  | .v3_2 => "V3_2_3"
  | .v3_5 => "V3_5_5_1"

def RealtimeLayout.ofName? (name : String) : Option RealtimeLayout :=
  [v1_6, v1_8, v3_0, v3_2, v3_5].find? (·.name == name)

/-- Bytes of a whole packet, the length field in front included. -/
def RealtimeLayout.packetSize : RealtimeLayout → Nat
  | .v1_6 => 756
  | .v1_8 => 812
  | .v3_0 => 1044
  | .v3_2 => 1060
  | .v3_5 => 1108

/-- Layouts of the state snapshots on the primary feed, oldest first. -/
inductive StateLayout where
  /-- Firmware 1.x. -/
  | v1
  /-- Firmware 3.0 and 3.1. -/
  | v3_0
  /-- Firmware 3.2 and later, and 5.x. -/
  | v3_2
deriving DecidableEq, Repr

def StateLayout.name : StateLayout → String
  | .v1 => "V1_X"
  | .v3_0 => "V3_0_1"
  | .v3_2 => "V3_2"

def StateLayout.ofName? (name : String) : Option StateLayout :=
  [v1, v3_0, v3_2].find? (·.name == name)

namespace Version

def realtimeLayout (firmware : Version) : Except Wire.Fault RealtimeLayout :=
  match firmware.major with
  | 1 => .ok (if firmware.minor < 8 then .v1_6 else .v1_8)
  | 3 => .ok (if firmware.minor < 2 then .v3_0 else if firmware.minor < 5 then .v3_2 else .v3_5)
  | 5 => .ok .v3_5
  | _ => .error (.unsupportedFirmware firmware.text)

def stateLayout (firmware : Version) : Except Wire.Fault StateLayout :=
  match firmware.major with
  | 1 => .ok .v1
  | 3 => .ok (if firmware.minor < 2 then .v3_0 else .v3_2)
  | 5 => .ok .v3_2
  | _ => .error (.unsupportedFirmware firmware.text)

end Version

/-- A firmware together with the layouts it sends. -/
structure Layouts where
  firmware : Version
  realtime : RealtimeLayout
  state : StateLayout
deriving DecidableEq, Repr

/-- The layouts of a firmware; both feeds must be known. -/
def Layouts.ofFirmware (firmware : Version) : Except Wire.Fault Layouts := do
  let realtime ← firmware.realtimeLayout
  let state ← firmware.stateLayout
  return { firmware, realtime, state }

end ArmLink.Firmware
