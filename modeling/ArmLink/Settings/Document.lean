import ArmLink.Settings.Basic
import ArmLink.Toml.Document
import ArmLink.Toml.Writer

/-!
Settings as TOML documents.  A document may leave out any setting and may hold others, which are
ignored; a setting of the wrong type is refused.  Whole numbers stand for doubles as well.
-/

namespace ArmLink.Settings

open Toml

/-- Why a document gives no settings. -/
inductive DocumentFault where
  /-- The text is no TOML, or a setting has the wrong type. -/
  | unreadable
  | invalid (fault : Fault)

def Fault.documentMessage (fault : Fault) : String := "Invalid config: " ++ fault.message

def text? : Value → Option String
  | .text text => some text
  | _ => none

def float? : Value → Option Float
  | .float x => some x
  | .integer n => if -Int.pow 2 63 ≤ n ∧ n < Int.pow 2 64 then some (Scalar.ofInt n) else none
  | _ => none

def boolean? : Value → Option Bool
  | .boolean b => some b
  | _ => none

def port? : Value → Option UInt16
  | .integer n => if 0 ≤ n ∧ n < 65536 then some (UInt16.ofNat n.toNat) else none
  | _ => none

def texts? : Value → Option (List String)
  | .array items => items.mapM text?
  | _ => none

/-- The entry under a key, or the default if there is none; nothing if it has the wrong type. -/
def entry {α : Type} (entries : List (String × Value)) (key : String) (read : Value → Option α)
    (default : α) : Option α :=
  match entries.find? (·.1 == key) with
  | some (_, value) => read value
  | none => some default

def ofEntries? (entries : List (String × Value)) : Option Settings := do
  let default : Settings := {}
  return {
    robotHost := ← entry entries "robot_host" text? default.robotHost
    primaryPort := ← entry entries "primary_port" port? default.primaryPort
    secondaryPort := ← entry entries "secondary_port" port? default.secondaryPort
    realtimePort := ← entry entries "realtime_port" port? default.realtimePort
    reverseAddress := ← entry entries "reverse_ip" text? default.reverseAddress
    reversePort := ← entry entries "reverse_port" port? default.reversePort
    acceptTimeout := ← entry entries "accept_timeout" float? default.acceptTimeout
    servoPeriod := ← entry entries "servoj_time" float? default.servoPeriod
    servoLookahead := ← entry entries "servoj_lookahead_time" float? default.servoLookahead
    servoGain := ← entry entries "servoj_gain" float? default.servoGain
    acknowledgementTimeout :=
      ← entry entries "ack_timeout" (fun value => some <$> float? value)
        default.acknowledgementTimeout
    maxVelocity := ← entry entries "max_velocity" float? default.maxVelocity
    maxAcceleration := ← entry entries "max_acceleration" float? default.maxAcceleration
    smooth := ← entry entries "use_smooth_trajectory" boolean? default.smooth
    killOnHang := ← entry entries "kill_on_hang" boolean? default.killOnHang
    hangExitDelay := ← entry entries "hang_exit_delay" float? default.hangExitDelay
    jointPrefix := ← entry entries "prefix" text? default.jointPrefix
    jointNames := ← entry entries "joint_names" texts? default.jointNames
    goalTolerance := ← entry entries "goal_tolerance" float? default.goalTolerance
    motionThreshold := ← entry entries "motion_threshold" float? default.motionThreshold
    timeoutFactor := ← entry entries "timeout_factor" float? default.timeoutFactor
    graceFactor := ← entry entries "grace_factor" float? default.graceFactor
    monitorInterval := ← entry entries "monitor_interval" float? default.monitorInterval
    settleDelay := ← entry entries "settle_delay" float? default.settleDelay
    telemetryTimeout := ← entry entries "telemetry_timeout" float? default.telemetryTimeout }

def read? (document : String) : Option Settings := do
  ofEntries? (← Document.parse? document)

def ofDocument (document : String) : Except DocumentFault Settings :=
  match read? document with
  | none => .error .unreadable
  | some settings =>
    match settings.validate with
    | .error fault => .error (.invalid fault)
    | .ok () => .ok settings

def toPairs (settings : Settings) : List (String × String) :=
  [("robot_host", writeText settings.robotHost),
    ("primary_port", toString settings.primaryPort.toNat),
    ("secondary_port", toString settings.secondaryPort.toNat),
    ("realtime_port", toString settings.realtimePort.toNat),
    ("reverse_ip", writeText settings.reverseAddress),
    ("reverse_port", toString settings.reversePort.toNat),
    ("accept_timeout", writeFloat settings.acceptTimeout),
    ("servoj_time", writeFloat settings.servoPeriod),
    ("servoj_lookahead_time", writeFloat settings.servoLookahead),
    ("servoj_gain", writeFloat settings.servoGain)]
  ++ (settings.acknowledgementTimeout.map fun timeout => ("ack_timeout", writeFloat timeout)).toList
  ++ [("max_velocity", writeFloat settings.maxVelocity),
    ("max_acceleration", writeFloat settings.maxAcceleration),
    ("use_smooth_trajectory", writeBoolean settings.smooth),
    ("kill_on_hang", writeBoolean settings.killOnHang),
    ("hang_exit_delay", writeFloat settings.hangExitDelay),
    ("prefix", writeText settings.jointPrefix),
    ("joint_names", writeTexts settings.jointNames),
    ("goal_tolerance", writeFloat settings.goalTolerance),
    ("motion_threshold", writeFloat settings.motionThreshold),
    ("timeout_factor", writeFloat settings.timeoutFactor),
    ("grace_factor", writeFloat settings.graceFactor),
    ("monitor_interval", writeFloat settings.monitorInterval),
    ("settle_delay", writeFloat settings.settleDelay),
    ("telemetry_timeout", writeFloat settings.telemetryTimeout)]

def toDocument (settings : Settings) : String :=
  String.join (settings.toPairs.map fun (key, value) => writePair key value)

end ArmLink.Settings
