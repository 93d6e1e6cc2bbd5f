import ArmLink.Follower.Peer
import ArmLink.Link.Robot

/-!
Surroundings of a command that are given as a value: files in directories, and a network.

A path leads from place to place, step by step.  A step back leads to the directory that a place is
in, but only from a directory that is there: `gone/../file` leads nowhere unless `gone` is a
directory, and nothing leads on from a file.
-/

namespace ArmLink.Console

open Follower (ControlProgram)

/-- What is found at a path. -/
inductive Entry where
  | absent
  /-- Something that is no file with a text. -/
  | unreadable
  | text (content : String)
deriving DecidableEq, Repr

/-- The names on the way to something, from the root. -/
abbrev Place := List String

/-- Surroundings. -/
structure Site where
  directory : Place
  /-- The files.  Directories are what is on the way to them and to the working directory. -/
  files : List (Place × String)
  dial : String → UInt16 → Link.Endpoint
  programs : Except Link.TransportFault (List ControlProgram)

namespace Site

def content? (site : Site) (place : Place) : Option String :=
  (site.files.find? (·.1 == place)).map (·.2)

def hasDirectory (site : Site) (place : Place) : Bool :=
  place.isPrefixOf site.directory ||
    site.files.any fun file => place.isPrefixOf file.1 && file.1 != place

/-- Whether a step of a path leads to the same directory again. -/
def staysHere (step : String) : Bool := step == "" || step == "."

/-- The place that steps lead to.  Every step starts from a place that `isOpen` holds of: nothing
leads on from a file, not even back. -/
def walk (isOpen : Place → Bool) (place : Place) : List String → Option Place
  | [] => some place
  | step :: later =>
    if !isOpen place then none
    else if staysHere step then walk isOpen place later
    else if step == ".." then walk isOpen place.dropLast later
    else walk isOpen (place ++ [step]) later

/-- Where a path starts: at the root or in the working directory. -/
def start (site : Site) (path : String) : Place :=
  if path.toList.head? = some '/' then [] else site.directory

def entry (site : Site) (path : String) : Entry :=
  match walk site.hasDirectory (site.start path) (path.splitOn "/") with
  | none => .absent
  | some place =>
    if path.isEmpty then .absent
    else if site.hasDirectory place then .unreadable
    else match site.content? place with
      | some content => .text content
      | none => .absent

/-- The most bytes of a name. -/
def nameLimit : Nat := 255

def namesFile (step : String) : Bool :=
  !staysHere step && step != ".." && decide (step.utf8ByteSize ≤ nameLimit)

/-- Where a file can be written: every step before the last leads to a directory, which is made if
nothing is there yet, and the last one names a file. -/
def target? (site : Site) (path : String) : Option Place := do
  let steps := path.splitOn "/"
  let name ← steps.getLast?
  let place ← walk (fun place => (site.content? place).isNone) (site.start path) steps.dropLast
  if namesFile name && (site.content? place).isNone && !site.hasDirectory (place ++ [name]) then
    return place ++ [name]
  else none

/-- Writes a file, and tells whether that went well. -/
def write (site : Site) (path content : String) : Bool × Site :=
  match site.target? path with
  | none => (false, site)
  | some place =>
    (true, { site with files := site.files.filter (·.1 != place) ++ [(place, content)] })

end Site

end ArmLink.Console
