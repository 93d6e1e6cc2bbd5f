import ArmLink.Telemetry.Packet
import ArmLink.View.Basic

/-!
How telemetry is laid out: modes by name, samples and snapshots field by field, faults by kind.
-/

namespace ArmLink

open Firmware Telemetry

/-! ### Faults -/

instance viewWireFault : Viewable Wire.Fault :=
  ⟨fun fault => match fault with
    | .insufficientData needed remaining =>
      (View.fault "InsufficientData" fault.message).extend
        [("needed", view needed), ("remaining", view remaining)]
    | .invalidLength expected actual =>
      (View.fault "InvalidLength" fault.message).extend
        [("expected", view expected), ("actual", view actual)]
    | .invalidDeclaredLength _ => .fault "InvalidDeclaredLength" fault.message
    | .invalidValue _ _ => .fault "InvalidValue" fault.message
    | .unsupportedFirmware _ => .fault "UnsupportedVersion" fault.message
    | .reversedRange _ _ => .fault "panic" fault.message⟩

def Telemetry.PacketFault.kind : PacketFault → String
  | .unexpectedTag .. => "UnexpectedKind"
  | .incomplete .. => "Incomplete"
  | .malformed .. => "Decode"

instance : Viewable PacketFault :=
  ⟨fun fault => (View.fault fault.kind fault.message).extend
    ([("wrong_kind", view fault.isUnexpectedTag), ("incomplete", view fault.isIncomplete),
      ("malformed", view fault.isMalformed), ("recoverable", view fault.isRecoverable)] ++
      match fault with
      | .malformed body cause => [("what", view body.name), ("source", view cause)]
      | _ => [])⟩

instance : Viewable RealtimeLayout := ⟨fun layout => .text layout.name⟩

instance : Viewable StateLayout := ⟨fun layout => .text layout.name⟩

instance : Viewable Layouts :=
  ⟨fun layouts => .record [("firmware", view layouts.firmware.text),
    ("realtime", view layouts.realtime), ("state", view layouts.state)]⟩

/-! ### Coded enumerations -/

/-- A value of an enumeration: its name, or the code that has none. -/
def View.named (name : String) (code : UInt8) : View :=
  if name.isEmpty then .record [("Other", view code)] else .text name

instance : Viewable RobotState := ⟨fun state => .text state.name⟩

instance : Viewable MessageTag := ⟨fun tag => .text tag.name⟩

instance : Viewable LegacyMode :=
  ⟨fun mode => .named (match mode with
    | .running => "Running"
    | .freedrive => "Freedrive"
    | .ready => "Ready"
    | .initializing => "Initializing"
    | .securityStopped => "SecurityStopped"
    | .emergencyStopped => "EmergencyStopped"
    | .fatalError => "FatalError"
    | .noPower => "NoPower"
    | .notConnected => "NotConnected"
    | .shutdown => "Shutdown"
    | .safeguardStop => "SafeguardStop"
    | .other _ => "") mode.code⟩

instance : Viewable RobotMode :=
  ⟨fun mode => .named (match mode with
    | .disconnected => "Disconnected"
    | .confirmSafety => "ConfirmSafety"
    | .booting => "Booting"
    | .powerOff => "PowerOff"
    | .powerOn => "PowerOn"
    | .idle => "Idle"
    | .backdrive => "Backdrive"
    | .running => "Running"
    | .updatingFirmware => "UpdatingFirmware"
    | .other _ => "") mode.code⟩

instance : Viewable SafetyMode :=
  ⟨fun mode => .named (match mode with
    | .normal => "Normal"
    | .reduced => "Reduced"
    | .protectiveStop => "ProtectiveStop"
    | .recovery => "Recovery"
    | .safeguardStop => "SafeguardStop"
    | .systemEmergencyStop => "SystemEmergencyStop"
    | .robotEmergencyStop => "RobotEmergencyStop"
    | .violation => "Violation"
    | .fault => "Fault"
    | .other _ => "") mode.code⟩

instance : Viewable PackageKind :=
  ⟨fun kind => .named (match kind with
    | .robotMode => "RobotModeData"
    | .joints => "JointData"
    | .tool => "ToolData"
    | .masterboard => "MasterboardData"
    | .cartesian => "CartesianInfo"
    | .kinematics => "KinematicsInfo"
    | .configuration => "ConfigurationData"
    | .forceMode => "ForceModeData"
    | .additional => "AdditionalInfo"
    | .calibration => "CalibrationData"
    | .other _ => "") kind.code⟩

instance : Viewable MessageSubject :=
  ⟨fun subject => .named (match subject with
    | .text => "Text"
    | .programLabel => "ProgramLabel"
    | .popup => "PopupMessage"
    | .version => "Version"
    | .safetyMode => "SafetyMode"
    | .errorCode => "ErrorCode"
    | .key => "Key"
    | .requestValue => "RequestValue"
    | .runtimeException => "RuntimeException"
    | .other _ => "") subject.code⟩

/-! ### Realtime samples -/

instance : Viewable Realtime.Common :=
  ⟨fun sample => .record [("time", view sample.time), ("q_target", view sample.targetPositions),
    ("qd_target", view sample.targetVelocities), ("qdd_target", view sample.targetAccelerations),
    ("i_target", view sample.targetCurrents), ("m_target", view sample.targetMoments),
    ("q_actual", view sample.positions), ("qd_actual", view sample.velocities),
    ("i_actual", view sample.currents)]⟩

instance : Viewable Realtime.V1_6 :=
  ⟨fun sample => .record [("shared", view sample.toCommon),
    ("tool_accelerometer_values", view sample.toolAcceleration),
    ("tcp_force", view sample.toolForce), ("tool_vector", view sample.toolPose),
    ("tcp_speed", view sample.toolSpeed), ("digital_input_bits", view sample.digitalInputs),
    ("motor_temperatures", view sample.motorTemperatures),
    ("controller_timer", view sample.controllerTimer), ("test_value", view sample.testValue)]⟩

instance : Viewable Realtime.V1_8 :=
  ⟨fun sample => .record [("base", view sample.toV1_6), ("robot_mode", view sample.robotMode),
    ("joint_modes", view sample.jointModes)]⟩

instance : Viewable Realtime.V3_0 :=
  ⟨fun sample => .record [("shared", view sample.toCommon),
    ("i_control", view sample.controlCurrents),
    ("tool_vector_actual", view sample.toolPose), ("tcp_speed_actual", view sample.toolSpeed),
    ("tcp_force", view sample.toolForce), ("tool_vector_target", view sample.targetToolPose),
    ("tcp_speed_target", view sample.targetToolSpeed),
    ("digital_input_bits", view sample.digitalInputs),
    ("motor_temperatures", view sample.motorTemperatures),
    ("controller_timer", view sample.controllerTimer), ("test_value", view sample.testValue),
    ("robot_mode", view sample.robotMode), ("joint_modes", view sample.jointModes),
    ("safety_mode", view sample.safetyMode),
    ("tool_accelerometer_values", view sample.toolAcceleration),
    ("speed_scaling", view sample.speedScaling),
    ("linear_momentum_norm", view sample.momentum), ("v_main", view sample.mainVoltage),
    ("v_robot", view sample.robotVoltage), ("i_robot", view sample.robotCurrent),
    ("v_actual", view sample.jointVoltages)]⟩

instance : Viewable Realtime.V3_2 :=
  ⟨fun sample => .record [("base", view sample.toV3_0),
    ("digital_outputs", view sample.digitalOutputs),
    ("program_state", view sample.programState)]⟩

instance : Viewable Realtime.V3_5 :=
  ⟨fun sample => .record [("base", view sample.toV3_2), ("elbow_position", view sample.elbowPosition),
    ("elbow_velocity", view sample.elbowVelocity)]⟩

instance : Viewable RealtimeSample :=
  ⟨fun sample => .record [(sample.layout.name, match sample with
    | .v1_6 sample => view sample
    | .v1_8 sample => view sample
    | .v3_0 sample => view sample
    | .v3_2 sample => view sample
    | .v3_5 sample => view sample)]⟩

/-! ### State snapshots -/

instance : Viewable ModeFlags :=
  ⟨fun flags => .record [("timestamp", view flags.timestamp),
    ("physical_robot_connected", view flags.robotConnected),
    ("real_robot_enabled", view flags.robotEnabled), ("robot_power_on", view flags.powerOn),
    ("emergency_stopped", view flags.emergencyStopped),
    ("protective_stopped", view flags.protectiveStopped),
    ("program_running", view flags.programRunning), ("program_paused", view flags.programPaused)]⟩

instance : Viewable ModeReportV3_0 :=
  ⟨fun report => .record [("flags", view report.flags), ("robot_mode", view report.mode),
    ("control_mode", view report.controlMode),
    ("target_speed_fraction", view report.targetSpeedFraction),
    ("speed_scaling", view report.speedScaling)]⟩

instance : Viewable ModeReport :=
  ⟨fun report => match report with
    | .v1 report => .record [("V1_X", .record [("flags", view report.flags),
        ("robot_mode", view report.mode), ("speed_fraction", view report.speedFraction)])]
    | .v3_0 report => .record [("V3_0_1", view report)]
    | .v3_2 report => .record [("V3_2", .record [("base", view report.toModeReportV3_0),
        ("target_speed_fraction_limit", view report.speedFractionLimit)])]⟩

instance : Viewable JointReport :=
  ⟨fun report => .record [("q_actual", view report.position), ("q_target", view report.targetPosition),
    ("qd_actual", view report.velocity), ("i_actual", view report.current),
    ("v_actual", view report.voltage), ("t_motor", view report.motorTemperature),
    ("t_micro", view report.boardTemperature), ("joint_mode", view report.mode)]⟩

def View.joints (reports : JointReports) : View := .record [("joints", view reports)]

instance : Viewable StateSnapshot :=
  ⟨fun snapshot => .record [("version", view snapshot.layout), ("robot_mode", view snapshot.mode),
    ("joint_data", view (snapshot.joints.map View.joints)),
    ("skipped_packages", view snapshot.skipped)]⟩

/-! ### Messages and packets -/

instance : Viewable VersionReport :=
  ⟨fun report => .record [("project_name", view report.project),
    ("major_version", view report.major), ("minor_version", view report.minor),
    ("bugfix_version", view report.bugfix), ("build_number", view report.buildNumber),
    ("build_date", view report.buildDate)]⟩

instance : Viewable RobotMessage :=
  ⟨fun message => .record [("timestamp", view message.timestamp), ("source", view message.source),
    ("message_type", view message.subject), ("version", view message.version)]⟩

def Telemetry.Packet.heading (packet : Packet) : View :=
  .record ([("kind", view packet.kindName), ("length", view packet.length),
      ("state", view packet.robotState)] ++
    match packet.payload with
    | .state snapshot => [("layout", view snapshot.layout),
        ("running_mode", view (snapshot.mode.map (·.inRunningMode))),
        ("flags", view (snapshot.mode.map (·.flags)))]
    | .realtime sample => [("layout", view sample.layout), ("time", view sample.common.time)]
    | .message message => match message.version with
      | some report => [("firmware", view report.firmware.text)]
      | none => [])

instance : Viewable Payload :=
  ⟨fun payload => match payload with
    | .state snapshot => view snapshot
    | .realtime sample => view sample
    | .message message => view message⟩

instance : Viewable Packet :=
  ⟨fun packet => packet.heading.extend
    [("payload", .record [(packet.kindName, view packet.payload)]), ("q", view packet.positions),
      ("qd", view packet.velocities)]⟩

end ArmLink
