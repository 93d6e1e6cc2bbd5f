import ArmLink.Console.Invocation
import ArmLink.Console.Program
import ArmLink.Settings.Document

/-!
The settings of a command, and the commands that show, check and write them.
-/

namespace ArmLink.Console

open Program

/-- Where the settings are: at the given path, or at a fixed place in the directory for settings. -/
def settingsPath (directory given : Option String) : Program String :=
  match given, directory with
  | some path, _ => .done path
  | none, some directory => .done (directory ++ "/ur-driver/config.toml")
  | none, none => complain "无法确定配置目录"

def loadSettings (path : String) : Program Settings :=
  .look path fun
    | .absent => .done {}
    | .unreadable => complain s!"加载配置文件失败: {path}"
    | .text document => expect (fun _ => s!"加载配置文件失败: {path}") (Settings.ofDocument document)

def revealSettings (path : String) : Program Ending := do
  let settings ← loadSettings path
  printLine s!"# {path}"
  .print settings.toDocument (.done {})

/-- Tells whether the settings can be used, and what the most important of them are. -/
def checkSettings (path : String) : Program Ending :=
  .look path fun
    | .absent => complain s!"配置文件不存在: {path}"
    | _ => do
      let settings ← loadSettings path
      printLine s!"✅ 配置有效: {path}"
      printLine s!"  机器人: {settings.robotHost}"
      printLine s!"  反向连接: {settings.reverseAddress}:{settings.reversePort.toNat}"
      printLine ("  关节: " ++ ", ".intercalate settings.resolvedJointNames)
      printLine ("  模式: " ++ if settings.smooth then "smooth" else "timed")
      return {}

/-- Writes the defaults; a file that is there is replaced only by force. -/
def initSettings (path : String) (force : Bool) : Program Ending :=
  .look path fun entry =>
    if entry ≠ .absent ∧ ¬ force then complain s!"配置文件已存在: {path}（使用 --force 覆盖）"
    else .write path ({} : Settings).toDocument fun
      | false => complain s!"写入配置文件失败: {path}"
      | true => do
        printLine s!"✅ 已写入默认配置: {path}"
        return {}

def ConfigAction.program (path : String) : ConfigAction → Program Ending
  | .reveal => revealSettings path
  | .check => checkSettings path
  | .init force => initSettings path force

def firmware (text : String) : Program Firmware.Version :=
  match Firmware.Version.parse? text with
  | some firmware => .done firmware
  | none => complain s!"无效的固件版本: {text}"

end ArmLink.Console
