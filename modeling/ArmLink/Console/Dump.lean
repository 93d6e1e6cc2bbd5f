import ArmLink.Console.Settings

/-!
Showing packets of one feed as they arrive, and counting them in the end.
-/

namespace ArmLink.Console

open Link Program Telemetry

/-- The layouts of the firmware that an option names, or that the controller tells of. -/
def dumpLayouts (settings : Settings) (host : String) :
    Option String → Program Firmware.Layouts
  | some text => do expect Fault.message (resolveLayouts (← firmware text))
  | none => .dial host settings.primaryPort fun endpoint => do
    let reads ← expect (fun _ => "连接主端口失败") endpoint
    let arrivals := PacketStream.receptions {} reads (receptionsIn reads)
    expect (fun _ => "固件版本探测失败")
      (detectLayouts (.ofParts 5 0) .zero (arrivals.map Reception.atOnce)).1

/-- Six values with four decimals each. -/
def rounded (values : Joints Float) : String :=
  "[" ++ ", ".intercalate (values.toList.map (Decimal.fixed 4)) ++ "]"

def packetLines (number : Nat) (packet : Packet) : List String :=
  [s!"#{number} {packet.kindName}（{packet.length} 字节）"] ++
    (packet.positions.map fun positions => "  q_actual:  " ++ rounded positions).toList ++
    (packet.velocities.map fun velocities => "  qd_actual: " ++ rounded velocities).toList ++
    (packet.robotState.map fun state => "  state: " ++ state.name).toList ++
    (packet.versionReport.map fun report =>
      s!"  version: {report.project} {report.firmware.text}").toList

def bytesLine (number : Nat) (bytes : List UInt8) : String :=
  s!"#{number} 无法解码（{bytes.length} 字节）: {Text.Hex.encode bytes}"

def metricsLines (metrics : Metrics) : List String :=
  ["", "📊 统计:", s!"  总包数: {metrics.total}", s!"  已解码: {metrics.decoded}",
    s!"  类型不符: {metrics.unexpected}", s!"  不完整: {metrics.incomplete}",
    s!"  损坏: {metrics.malformed} ({Decimal.fixed 1 metrics.malformedRate}%)"]

def printLines (lines : List String) : Program Unit :=
  .print (String.join (lines.map (· ++ "\n"))) (.done ())

def showPackets (feed : Feed) (count : Nat) (context : Context Unit) (metrics : Metrics) :
    List Reception → Program Metrics
  | [] => if metrics.total < count then .idle else .done metrics
  | .error fault :: later =>
    if count ≤ metrics.total then .done metrics
    else if fault.isTimeout then showPackets feed count context metrics later
    else complain fault.message
  | .ok bytes :: later =>
    if count ≤ metrics.total then .done metrics
    else
      let (outcome, context, metrics) := process feed bytes context metrics
      let lines := match outcome with
        | .ok packet => packetLines metrics.total packet
        | .error _ => [bytesLine metrics.total bytes]
      (printLines lines).bind fun () => showPackets feed count context metrics later

/-- Shows packets of a feed. -/
def DumpOptions.program (options : DumpOptions) (path : String) : Program Ending := do
  let settings ← loadSettings path
  let host := options.host.getD settings.robotHost
  let layouts ← dumpLayouts settings host options.firmware
  printLine (s!"固件 {layouts.firmware.text}，实时布局 {layouts.realtime.name}，" ++
    s!"状态布局 {layouts.state.name}")
  let (port, feed) := match options.feed with
    | .primary => (settings.primaryPort, Feed.primary layouts)
    | .realtime => (settings.realtimePort, Feed.realtime layouts true)
  .dial host port fun endpoint => do
    let reads ← expect (fun _ => s!"连接 {host}:{port.toNat} 失败") endpoint
    let arrivals := PacketStream.receptions {} reads (receptionsIn reads)
    let metrics ← showPackets feed options.count { telemetryTimeout := .ofParts 1 0 } {} arrivals
    printLines (metricsLines metrics)
    return {}

end ArmLink.Console
