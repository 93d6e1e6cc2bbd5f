import ArmLink.Console.Dump
import ArmLink.Console.Run

/-!
The program as a whole: a command line comes to what its command does.
-/

namespace ArmLink.Console

def versionLine : String := "ur-cli 0.0.3"

def helpText : String :=
  "Usage: ur-cli [--config PATH] COMMAND\n\n" ++
  "Commands:\n" ++
  "  config show | check | init [--force]\n" ++
  "  run --trajectory PATH [--host NAME] [--reverse-port PORT] [--timed]\n" ++
  "      [--no-kill-on-hang] [--firmware VERSION] [--feedback-timeout SECONDS]\n" ++
  "  dump [--host NAME] [--port primary|realtime] [--count N] [--firmware VERSION]\n"

/-- The exit code of a command line that does not fit. -/
def misuseCode : Nat := 2

def Command.program (path : String) : Command → Program Ending
  | .config action => action.program path
  | .run options => options.program path
  | .dump options => options.program path

/-- What the words of a command line come to, given the directory for settings. -/
def program (directory : Option String) (words : List String) : Program Ending :=
  match Invocation.read words with
  | .error .help => .print helpText (.done {})
  | .error .version => .print (versionLine ++ "\n") (.done {})
  | .error (.misuse cause) => .fail misuseCode cause.message
  | .ok invocation => do
    let path ← settingsPath directory invocation.configPath
    invocation.command.program path

end ArmLink.Console
