import ArmLink.Main
import ArmLink.View.Coordinator
import ArmLink.View.Follower
import ArmLink.View.Link
import ArmLink.Proofs.Coordinator.Execution
import ArmLink.Proofs.Coordinator.Interruption
import ArmLink.Proofs.Coordinator.Outcomes
import ArmLink.Proofs.Coordinator.SafetyStop
import ArmLink.Proofs.Follower.Conduct
import ArmLink.Proofs.Link.Reassembly
import ArmLink.Proofs.Link.Aftermath
import ArmLink.Proofs.Link.Commuting
import ArmLink.Proofs.Telemetry.Surroundings
import ArmLink.Proofs.Telemetry.Packages
import ArmLink.Proofs.Link.Accounting
import ArmLink.Proofs.Coordinator.Points
import ArmLink.Proofs.Coordinator.Succession
import ArmLink.Proofs.Settings.Using
import ArmLink.Proofs.Telemetry.Messages
import ArmLink.Proofs.Telemetry.Modes
import ArmLink.Proofs.Goal.Validity
import ArmLink.Proofs.Coordinator.Protocol
import ArmLink.Proofs.Coordinator.Accepting
import ArmLink.Proofs.Coordinator.Returning
import ArmLink.Proofs.Coordinator.Watching
import ArmLink.Proofs.Coordinator.Refusing
import ArmLink.Proofs.Link.Folding
import ArmLink.Proofs.Motion.Feasibility
import ArmLink.Proofs.Motion.Resting
import ArmLink.Proofs.Motion.Stopping
import ArmLink.Proofs.Firmware.Selection
import ArmLink.Proofs.Link.Detecting
import ArmLink.Proofs.Servo.Records
import ArmLink.Proofs.Wire.Readers
import ArmLink.Proofs.Settings.Serving
