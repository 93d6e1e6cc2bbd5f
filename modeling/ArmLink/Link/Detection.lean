import ArmLink.Duration
import ArmLink.Link.Fault

/-!
Finding out the firmware.  A controller sends a version message soon after the primary port is
opened.  Everything that may come before it is skipped; the first reception that is neither
skippable nor the version decides.
-/

namespace ArmLink.Link

open Firmware Telemetry

def resolveLayouts (firmware : Version) : Except Fault Layouts :=
  match Layouts.ofFirmware firmware with
  | .ok layouts => .ok layouts
  | .error (.unsupportedFirmware firmware) => .error (.unsupportedFirmware firmware)
  | .error fault => .error (.wire fault)

/-- What a reception decides, if it decides anything.  Timeouts, packets for someone else and
messages other than the version are passed over. -/
def Reception.verdict (reception : Reception) : Option (Except Fault Layouts) :=
  match reception with
  | .error .timeout => none
  | .error fault => some (.error fault)
  | .ok bytes =>
    match Strategy.message.parseBytes bytes with
    | .error (.unexpectedTag ..) => none
    | .error fault => some (.error (.packet fault))
    | .ok packet => packet.versionReport.map fun report => resolveLayouts report.firmware

/-- A reception together with how long it took. -/
structure TimedReception where
  took : Duration
  reception : Reception

def Reception.atOnce (reception : Reception) : TimedReception := { took := .zero, reception }

/-- Reads until something decides or the time is up; no read is begun at or after the deadline.
When there is nothing more to read, the time passes.  Answers the verdict and what was not read. -/
def detectLayouts (timeout elapsed : Duration) :
    List TimedReception → Except Fault Layouts × List TimedReception
  | [] => (.error .timeout, [])
  | arrival :: later =>
    if elapsed < timeout then
      match Reception.verdict arrival.reception with
      | some verdict => (verdict, later)
      | none => detectLayouts timeout (elapsed.plus arrival.took) later
    else
      (.error .timeout, arrival :: later)

/-- Reads from a moment on until something decides or the time is up.  A clock must be able to show
the deadline. -/
def detectFrom (start timeout : Duration) (arrivals : List TimedReception) :
    Except Duration.Fault (Except Fault Layouts × List TimedReception) := do
  let _ ← start.later timeout
  return detectLayouts timeout .zero arrivals

end ArmLink.Link
