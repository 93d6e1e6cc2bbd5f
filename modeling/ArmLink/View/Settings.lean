import ArmLink.Settings.Document
import ArmLink.View.Basic

/-!
How settings are laid out.
-/

namespace ArmLink

instance : Viewable Settings :=
  ⟨fun settings => .record ([("robot_host", view settings.robotHost),
      ("primary_port", view settings.primaryPort), ("secondary_port", view settings.secondaryPort),
      ("realtime_port", view settings.realtimePort), ("reverse_ip", view settings.reverseAddress),
      ("reverse_port", view settings.reversePort),
      ("accept_timeout", view settings.acceptTimeout), ("servoj_time", view settings.servoPeriod),
      ("servoj_lookahead_time", view settings.servoLookahead),
      ("servoj_gain", view settings.servoGain), ("max_velocity", view settings.maxVelocity),
      ("max_acceleration", view settings.maxAcceleration),
      ("use_smooth_trajectory", view settings.smooth), ("kill_on_hang", view settings.killOnHang),
      ("hang_exit_delay", view settings.hangExitDelay), ("prefix", view settings.jointPrefix),
      ("joint_names", view settings.jointNames), ("goal_tolerance", view settings.goalTolerance),
      ("motion_threshold", view settings.motionThreshold),
      ("timeout_factor", view settings.timeoutFactor), ("grace_factor", view settings.graceFactor),
      ("monitor_interval", view settings.monitorInterval),
      ("settle_delay", view settings.settleDelay),
      ("telemetry_timeout", view settings.telemetryTimeout)] ++
    (settings.acknowledgementTimeout.map fun timeout => ("ack_timeout", view timeout)).toList)⟩

instance viewFollowerConfig : Viewable (Follower.Config Float) :=
  ⟨fun config => .record [("reverse_ip", view config.address), ("reverse_port", view config.port),
    ("accept_timeout", view config.acceptTimeout), ("servoj_time", view config.period),
    ("write_timeout", view config.writeTimeout), ("ack_timeout", view config.acknowledgementTimeout),
    ("max_velocity", view config.maxVelocity), ("max_acceleration", view config.maxAcceleration)]⟩

instance viewCoordinatorConfig : Viewable Coordinator.Config :=
  ⟨fun config => .record [("joint_names", view config.jointNames),
    ("max_velocity", view config.maxVelocity), ("use_smooth_trajectory", view config.smooth),
    ("goal_tolerance", view config.goalTolerance), ("motion_threshold", view config.motionThreshold),
    ("timeout_factor", view config.timeoutFactor), ("grace_factor", view config.graceFactor),
    ("monitor_interval", view config.monitorInterval), ("settle_delay", view config.settleDelay)]⟩

instance viewSettingsFault : Viewable Settings.Fault :=
  ⟨fun fault => .fault "Invalid" fault.documentMessage⟩

instance : Viewable Settings.DocumentFault :=
  ⟨fun fault => match fault with
    | .unreadable => .record [("error", .text "Toml")]
    | .invalid fault => view fault⟩

/-- Settings, what the parts of the driver take from them, and whether they are the defaults. -/
def View.settings (settings : Settings) : View :=
  .record [("config", view settings), ("names", view settings.resolvedJointNames),
    ("follower", view settings.follower), ("coordinator", view settings.coordinator),
    ("telemetry_timeout", view settings.telemetrySpan),
    ("hang_exit_delay", view settings.hangExitSpan), ("default", view (settings == {}))]

def View.document (settings : Settings) : List (String × View) :=
  [("toml", view settings.toDocument),
    ("round_trip", view (match Settings.read? settings.toDocument with
      | some again => again == settings
      | none => false))]

end ArmLink
