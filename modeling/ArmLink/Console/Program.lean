import ArmLink.Console.Site

/-!
What commands do.  A `Program` says what a command asks of its surroundings, one request after
another, and how it goes on with each answer; it does nothing by itself.  So the same program can be
carried out on a machine and be followed on a `Site`.

Of the network a program learns what an address has to send and which control programs connect.
-/

namespace ArmLink.Console

open Follower (ControlProgram)

/-- What a command asks of its surroundings, and what it comes to. -/
inductive Program (α : Type) where
  | done (value : α)
  | fail (code : Nat) (complaint : String)
  /-- It waits for something that never comes. -/
  | idle
  | print (text : String) (next : Program α)
  | look (path : String) (next : Entry → Program α)
  /-- Writes a file, and the directories that it is in; tells whether that went well. -/
  | write (path content : String) (next : Bool → Program α)
  | dial (host : String) (port : UInt16) (next : Link.Endpoint → Program α)
  | listen (host : String) (port : UInt16)
      (next : Except Link.TransportFault (List ControlProgram) → Program α)

namespace Program

def bind {α β : Type} : Program α → (α → Program β) → Program β
  | .done value, next => next value
  | .fail code complaint, _ => .fail code complaint
  | .idle, _ => .idle
  | .print text program, next => .print text (program.bind next)
  | .look path program, next => .look path fun entry => (program entry).bind next
  | .write path content program, next => .write path content fun ok => (program ok).bind next
  | .dial host port program, next => .dial host port fun endpoint => (program endpoint).bind next
  | .listen host port program, next => .listen host port fun peers => (program peers).bind next

instance : Monad Program where
  pure := done
  bind := bind

def printLine (line : String) : Program Unit := .print (line ++ "\n") (.done ())

def complain {α : Type} (complaint : String) : Program α := .fail 1 ("Error: " ++ complaint)

/-- The value, or an end with a complaint about the fault. -/
def expect {ε α : Type} (complaint : ε → String) : Except ε α → Program α
  | .ok value => .done value
  | .error fault => complain (complaint fault)

/-- The span that a setting gives; one that is too long breaks the program off. -/
def span {α : Type} : Except Duration.Fault α → Program α
  | .ok value => .done value
  | .error fault => .fail 101 fault.message

end Program

/-- What a command comes to. -/
structure Ending where
  code : Nat := 0
  /-- The control programs that were connected, as the command leaves them. -/
  programs : List ControlProgram := []

/-- What is seen of a program from outside. -/
structure Report where
  code : Option Nat
  output : String
  complaint : String := ""
  programs : List ControlProgram := []
  site : Site

/-- Follows a program on a site, after some output. -/
def Program.report : Program Ending → Site → String → Report
  | .done ending, site, output =>
    { code := some ending.code, output, programs := ending.programs, site }
  | .fail code complaint, site, output => { code := some code, output, complaint, site }
  | .idle, site, output => { code := none, output, site }
  | .print text next, site, output => next.report site (output ++ text)
  | .look path next, site, output => (next (site.entry path)).report site output
  | .write path content next, site, output =>
    (next (site.write path content).1).report (site.write path content).2 output
  | .dial host port next, site, output => (next (site.dial host port)).report site output
  | .listen _ _ next, site, output => (next site.programs).report site output

end ArmLink.Console
