import ArmLink.Console.Settings
import ArmLink.Coordinator.Rehearsal
import ArmLink.Goal.File

/-!
Executing a trajectory: the robot is connected, a control program awaited, and the goal that a file
gives submitted; the exit code tells how it ended.
-/

namespace ArmLink.Console

open Coordinator (Rehearsal)
open Follower (ControlProgram)
open Goal Link Program

def RunOptions.override (options : RunOptions) (settings : Settings) : Settings :=
  { settings with
    robotHost := options.host.getD settings.robotHost
    reversePort := options.reversePort.getD settings.reversePort
    smooth := settings.smooth && !options.timed
    killOnHang := settings.killOnHang && !options.surviveHang }

def loadGoal (path : String) (jointNames : List String) : Program Goal :=
  .look path fun
    | .text content =>
      match TrajectoryFile.parse? content with
      | none => complain s!"解析轨迹文件失败: {path}"
      | some file => expect TrajectoryFile.TimeFault.summary (file.toGoal jointNames)
    | _ => complain s!"读取轨迹文件失败: {path}"

/-- Connects to the robot and waits for the first feedback. -/
def connectRobot (options : RunOptions) (settings : Settings) : Program (Robot Unit) := do
  let telemetryTimeout ← span settings.telemetrySpan
  let firmware ← match options.firmware with
    | some text => some <$> firmware text
    | none => pure none
  printLine s!"🔌 连接到机器人 {settings.robotHost}..."
  .dial settings.robotHost settings.primaryPort fun primary =>
    .dial settings.robotHost settings.realtimePort fun realtime => do
      let robot ← expect (fun _ => "连接机器人失败")
        (connect { firmware, telemetryTimeout } primary realtime)
      let robot := robot.settle
      let timeout ← span (Duration.ofSecondsOrZero options.feedbackTimeout)
      expect (fun _ => "等待机器人反馈失败")
        (waitForFeedback timeout [(.zero, robot.shared), (timeout, robot.shared)])
      printLine s!"✅ 已连接（固件 {robot.layouts.firmware.text}）"
      return robot

def eventLine (goal : Goal.Id) : Event → String
  | .accepted => s!"▶️  目标 {goal} 已接受，等待控制程序连入..."
  | .finished .succeeded => "✅ 轨迹执行成功"
  | .finished (.rejected rejection) => s!"❌ 目标被拒绝 ({rejection.code.number}): {rejection.message}"
  | .finished (.aborted reason) =>
    s!"❌ 目标中止 ({(Outcome.aborted reason).code.number}): {reason.message}"
  | .finished .canceled => s!"⏹️  目标已取消: {Outcome.canceled.message}"

def exitCode : Outcome → Nat
  | .succeeded => 0
  | .rejected _ => 2
  | .aborted _ | .canceled => 1

def outcomeIn (events : List Event) : Option Outcome :=
  events.findSome? fun event => match event with
    | .finished outcome => some outcome
    | .accepted => none

/-- Submits a goal and waits for its outcome.  If the arm hangs and the program is to end then, it
ends with success, having told of the outcome. -/
def executeGoal (settings : Settings) (goal : Goal)
    (rehearsal : Rehearsal (Follower Float ControlProgram)) : Program Ending := do
  let id := rehearsal.coordinator.memory.nextId
  let (_, rehearsal) := rehearsal.call (.submit goal)
  let (events, rehearsal) := rehearsal.wait id
  .print (String.join (events.map fun event => eventLine id event ++ "\n"))
    (match outcomeIn events with
    | none => .idle
    | some outcome =>
      let hung := rehearsal.coordinator.memory.calls.any fun call => match call with
        | .hang .. => true
        | _ => false
      let code := if settings.killOnHang && hung then 0 else exitCode outcome
      let follower := rehearsal.close.executor.disconnect
      .done { code, programs := follower.peers })

def RunOptions.program (options : RunOptions) (path : String) : Program Ending := do
  let settings := options.override (← loadSettings path)
  expect Settings.Fault.documentMessage settings.validate
  let goal ← loadGoal options.trajectory settings.resolvedJointNames
  printLine s!"📜 轨迹: {options.trajectory}（{goal.points.length} 个点）"
  let robot ← connectRobot options settings
  let config ← span settings.follower
  .listen config.address config.port fun peers => do
    let waiting ← expect (fun _ => "绑定反向连接端口失败") peers
    let coordinatorConfig ← span settings.coordinator
    let _ ← span settings.hangExitSpan
    let coordinator ← expect Coordinator.Config.Fault.errorMessage
      (ArmLink.Coordinator.start coordinatorConfig robot.shared.context)
    executeGoal settings goal { coordinator, executor := { config, waiting } }

end ArmLink.Console
