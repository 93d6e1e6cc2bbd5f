import ArmLink.Decimal.Text
import ArmLink.Link.Robot

/-!
Command lines.  The words of a command line name a command, and in front of it and behind it
options.  An option is written with its long name, `--host name` or `--host=name`, or with its
letter, `-c path`, `-cpath` or `-c=path`; it may be given once for each command on the way.  A word
that begins with a hyphen is never the value of the option before it.  Behind `--` there are no
options.

Words are read one after the other, and the first one that decides ends the reading: a word that
does not fit, or a question for help or for the version.
-/

namespace ArmLink.Console

open Link (FeedName)

/-- What an option gives. -/
inductive Given where
  | config (path : String)
  | force
  | trajectory (path : String)
  | host (name : String)
  | reversePort (port : UInt16)
  | timed
  | surviveHang
  | firmware (text : String)
  | feedbackTimeout (seconds : Float)
  | feed (feed : FeedName)
  | count (n : Nat)

/-! ### Values -/

/-- A number in decimal digits. -/
def natural? (digits : List Char) : Option Nat :=
  if digits.isEmpty || !digits.all Char.isDigit then none else some (Decimal.ofDigits digits)

/-- A count of sixty-four bits. -/
def count? (text : String) : Option Nat := do
  let digits := match text.toList with
    | '+' :: rest => rest
    | rest => rest
  let n ← natural? digits
  if n < UInt64.size then return n else none

def port? (text : String) : Option UInt16 := do
  let (negative, digits) := match text.toList with
    | '+' :: rest => (false, rest)
    | '-' :: rest => (true, rest)
    | rest => (false, rest)
  let n ← natural? digits
  if n < UInt16.size ∧ (negative → n = 0) then return UInt16.ofNat n else none

/-- The power of ten in an exponent; nothing stands for the power zero. -/
def exponent? : List Char → Option Int
  | [] => some 0
  | mark :: rest =>
    if mark != 'e' && mark != 'E' then none
    else match rest with
      | '-' :: digits => (natural? digits).map fun n => -(n : Int)
      | '+' :: digits => (natural? digits).map fun n => (n : Int)
      | digits => (natural? digits).map fun n => (n : Int)

/-- A number with or without decimals and exponent, with digits on one side of the point at least.
-/
def magnitude? (negative : Bool) (text : List Char) : Option Float := do
  let whole := text.takeWhile Char.isDigit
  let (decimals, rest) := match text.dropWhile Char.isDigit with
    | '.' :: rest => (rest.takeWhile Char.isDigit, rest.dropWhile Char.isDigit)
    | rest => ([], rest)
  let power ← exponent? rest
  let power := power - decimals.length
  if whole.isEmpty && decimals.isEmpty then none
  else return Decimal.toFloat negative (Decimal.ofDigits (whole ++ decimals)) power

/-- A number of seconds, or an infinity, or no number. -/
def seconds? (text : String) : Option Float :=
  let (negative, rest) := match text.toList with
    | '+' :: rest => (false, rest)
    | '-' :: rest => (true, rest)
    | rest => (false, rest)
  let word := String.ofList (rest.map Char.toLower)
  if word = "nan" then some (Float.ofBits 0x7FF8000000000000)
  else if word = "inf" ∨ word = "infinity" then
    let infinity := Float.ofBits 0x7FF0000000000000
    some (if negative then -infinity else infinity)
  else magnitude? negative rest

/-- A path, which has at least one character. -/
def path? (text : String) : Option String := if text.isEmpty then none else some text

def feed? (text : String) : Option FeedName :=
  if text = "primary" then some .primary else if text = "realtime" then some .realtime else none

/-! ### Options and commands -/

/-- What an option is for. -/
inductive Meaning where
  | flag (given : Given)
  /-- It needs a value, which is read like this. -/
  | value (read : String → Option Given)
  | help
  | version

/-- An option. -/
structure Switch where
  /-- Its name behind two hyphens. -/
  name : String
  letter : Option Char := none
  meaning : Meaning

/-- The commands on the way of a command line. -/
inductive Level where
  | top
  | config
  | configShow
  | configCheck
  | configInit
  | run
  | dump
deriving DecidableEq, Repr

namespace Level

def commands : Level → List (String × Level)
  | .top => [("config", .config), ("run", .run), ("dump", .dump)]
  | .config => [("show", .configShow), ("check", .configCheck), ("init", .configInit)]
  | _ => []

def common : List Switch :=
  [⟨"config", some 'c', .value fun text => .config <$> path? text⟩, ⟨"help", some 'h', .help⟩]

def switches : Level → List Switch
  | .top => ⟨"version", some 'V', .version⟩ :: common
  | .config | .configShow | .configCheck => common
  | .configInit => ⟨"force", none, .flag .force⟩ :: common
  | .run =>
    [⟨"trajectory", some 't', .value fun text => .trajectory <$> path? text⟩,
      ⟨"host", none, .value fun text => some (.host text)⟩,
      ⟨"reverse-port", none, .value fun text => .reversePort <$> port? text⟩,
      ⟨"timed", none, .flag .timed⟩,
      ⟨"no-kill-on-hang", none, .flag .surviveHang⟩,
      ⟨"firmware", none, .value fun text => some (.firmware text)⟩,
      ⟨"feedback-timeout", none, .value fun text => .feedbackTimeout <$> seconds? text⟩] ++ common
  | .dump =>
    [⟨"host", none, .value fun text => some (.host text)⟩,
      ⟨"port", some 'p', .value fun text => .feed <$> feed? text⟩,
      ⟨"count", some 'n', .value fun text => .count <$> count? text⟩,
      ⟨"firmware", none, .value fun text => some (.firmware text)⟩] ++ common

end Level

/-- Why a command line does not fit. -/
inductive Misuse where
  | unknownWord (word : String)
  | valueMissing (option : String)
  | valueRefused (option value : String)
  | valueUnwanted (option : String)
  | repeated (option : String)
  | trajectoryMissing
  | commandMissing
deriving DecidableEq, Repr

def Misuse.message : Misuse → String
  | .unknownWord word => s!"error: unexpected argument {word}"
  | .valueMissing option => s!"error: --{option} needs a value"
  | .valueRefused option value => s!"error: --{option} cannot be {value}"
  | .valueUnwanted option => s!"error: --{option} takes no value"
  | .repeated option => s!"error: --{option} is given twice"
  | .trajectoryMissing => "error: --trajectory is missing"
  | .commandMissing => "error: a command is missing"

/-- What ends the reading of a command line early. -/
inductive Stop where
  | help
  | version
  | misuse (cause : Misuse)
deriving DecidableEq, Repr

/-! ### Reading -/

/-- A command line as far as it has been read. -/
structure Scan where
  /-- The innermost command so far. -/
  level : Level := .top
  /-- The option whose value comes next. -/
  awaiting : Option Switch := none
  /-- Whether `--` has been read. -/
  closed : Bool := false
  /-- Whether `help` has been read in place of a command. -/
  asksHelp : Bool := false
  /-- The options of the innermost command, latest first, with their names. -/
  here : List (String × Given) := []
  /-- The options of the commands around it. -/
  around : List Given := []

namespace Scan

def add (scan : Scan) (switch : Switch) (given : Given) : Except Stop Scan :=
  if scan.here.any (·.1 == switch.name) then .error (.misuse (.repeated switch.name))
  else .ok { scan with here := (switch.name, given) :: scan.here }

def addValue (scan : Scan) (switch : Switch) (read : String → Option Given) (value : String) :
    Except Stop Scan :=
  match read value with
  | some given => scan.add switch given
  | none => .error (.misuse (.valueRefused switch.name value))

/-- Reads an option by its name, with or without a value attached. -/
def named (scan : Scan) (word name : String) (attached : Option String) : Except Stop Scan :=
  match scan.level.switches.find? (·.name == name) with
  | none => .error (.misuse (.unknownWord word))
  | some switch =>
    match switch.meaning, attached with
    | .value read, some value => scan.addValue switch read value
    | .value _, none => .ok { scan with awaiting := some switch }
    | _, some _ => .error (.misuse (.valueUnwanted name))
    | .flag given, none => scan.add switch given
    | .help, none => .error .help
    | .version, none => .error .version

/-- Reads an option by its letter, with what is attached to it. -/
def lettered (scan : Scan) (word : String) (letter : Char) (attached : List Char) :
    Except Stop Scan :=
  match scan.level.switches.find? (·.letter == some letter) with
  | none => .error (.misuse (.unknownWord word))
  | some switch =>
    match switch.meaning, attached with
    | .help, _ => .error .help
    | .version, _ => .error .version
    | .flag given, [] => scan.add switch given
    | .flag _, _ => .error (.misuse (.unknownWord word))
    | .value _, [] => .ok { scan with awaiting := some switch }
    | .value read, '=' :: value => scan.addValue switch read (String.ofList value)
    | .value read, value => scan.addValue switch read (String.ofList value)

def command (scan : Scan) (word : String) : Except Stop Scan :=
  match scan.level.commands.lookup word with
  | some level =>
    .ok { scan with level, here := [], around := scan.here.map (·.2) ++ scan.around }
  | none =>
    if word = "help" ∧ ¬ scan.level.commands.isEmpty then .ok { scan with asksHelp := true }
    else .error (.misuse (.unknownWord word))

/-- Reads a word. -/
def step (scan : Scan) (word : String) : Except Stop Scan :=
  if scan.asksHelp then
    scan.command word
  else match scan.awaiting, word.toList with
  | some switch, '-' :: _ :: _ => .error (.misuse (.valueMissing switch.name))
  | some switch, _ =>
    match switch.meaning with
    | .value read => { scan with awaiting := none }.addValue switch read word
    | _ => .error (.misuse (.unknownWord word))
  | none, letters =>
    if scan.closed then .error (.misuse (.unknownWord word))
    else match letters with
    | ['-', '-'] => .ok { scan with closed := true }
    | '-' :: '-' :: text =>
      let name := String.ofList (text.takeWhile (· != '='))
      match text.dropWhile (· != '=') with
      | [] => scan.named word name none
      | _ :: value => scan.named word name (some (String.ofList value))
    | '-' :: letter :: attached => scan.lettered word letter attached
    | _ => scan.command word

end Scan

/-- What to do with the settings. -/
inductive ConfigAction where
  | reveal
  | check
  | init (force : Bool)
deriving DecidableEq, Repr

/-- How to execute a trajectory. -/
structure RunOptions where
  trajectory : String
  host : Option String
  reversePort : Option UInt16
  /-- Whether to stop at every point. -/
  timed : Bool
  surviveHang : Bool
  firmware : Option String
  /-- Seconds to wait for the first feedback. -/
  feedbackTimeout : Float

/-- How to show packets. -/
structure DumpOptions where
  host : Option String
  feed : FeedName
  count : Nat
  firmware : Option String

/-- A command. -/
inductive Command where
  | config (action : ConfigAction)
  | run (options : RunOptions)
  | dump (options : DumpOptions)

/-- A command, and where the settings are if that was said. -/
structure Invocation where
  configPath : Option String
  command : Command

namespace Invocation

/-- Seconds to wait for the first feedback unless said otherwise. -/
def defaultFeedbackTimeout : Float := 5.0

/-- Packets to show unless said otherwise. -/
def defaultCount : Nat := 10

/-- The invocation that a command line comes to. -/
def ofScan (scan : Scan) : Except Stop Invocation :=
  if scan.asksHelp then .error .help
  else match scan.awaiting with
  | some switch => .error (.misuse (.valueMissing switch.name))
  | none =>
    let givens := scan.here.map (·.2) ++ scan.around
    let configPath := givens.findSome? fun
      | .config path => some path
      | _ => none
    let host := givens.findSome? fun
      | .host name => some name
      | _ => none
    let firmware := givens.findSome? fun
      | .firmware text => some text
      | _ => none
    let has (holds : Given → Bool) : Bool := givens.any holds
    match scan.level with
    | .top | .config => .error (.misuse .commandMissing)
    | .configShow => .ok { configPath, command := .config .reveal }
    | .configCheck => .ok { configPath, command := .config .check }
    | .configInit => .ok { configPath, command := .config (.init (has fun
        | .force => true
        | _ => false)) }
    | .run =>
      match givens.findSome? fun
        | .trajectory path => some path
        | _ => none with
      | none => .error (.misuse .trajectoryMissing)
      | some trajectory => .ok { configPath, command := .run {
          trajectory, host, firmware
          reversePort := givens.findSome? fun
            | .reversePort port => some port
            | _ => none
          timed := has fun
            | .timed => true
            | _ => false
          surviveHang := has fun
            | .surviveHang => true
            | _ => false
          feedbackTimeout := (givens.findSome? fun
            | .feedbackTimeout seconds => some seconds
            | _ => none).getD defaultFeedbackTimeout } }
    | .dump => .ok { configPath, command := .dump {
        host, firmware
        feed := (givens.findSome? fun
          | .feed feed => some feed
          | _ => none).getD .realtime
        count := (givens.findSome? fun
          | .count n => some n
          | _ => none).getD defaultCount } }

def read (words : List String) : Except Stop Invocation := do
  let scan ← words.foldlM Scan.step {}
  ofScan scan

end Invocation

end ArmLink.Console
