/-!
Firmware versions in the semantic versioning scheme: three numbers, then optionally a pre-release
after a hyphen and build metadata after a plus.  `Version.parse?` is strict: every part must be
there and no number is padded with zeros.
-/

namespace ArmLink.Firmware

/-- A firmware version. -/
structure Version where
  major : Nat
  minor : Nat
  patch : Nat
  /-- Dot-separated identifiers after the hyphen, empty for a release. -/
  preRelease : String := ""
  /-- Dot-separated identifiers after the plus, empty if there are none. -/
  build : String := ""
deriving DecidableEq, Repr

namespace Version

/-- The largest number a version component may hold. -/
def componentLimit : Nat := 18446744073709551615

def text (version : Version) : String :=
  let core := s!"{version.major}.{version.minor}.{version.patch}"
  let release := if version.preRelease.isEmpty then core else core ++ "-" ++ version.preRelease
  if version.build.isEmpty then release else release ++ "+" ++ version.build

/-- The parts of a text between the occurrences of a separator; a text without it is one part. -/
def splitAt (separator : Char) : List Char → List (List Char)
  | [] => [[]]
  | c :: rest =>
    if c = separator then
      [] :: splitAt separator rest
    else
      match splitAt separator rest with
      | [] => [[c]]
      | part :: parts => (c :: part) :: parts

/-- The text before the first occurrence of a separator and, if it occurs, the text after it. -/
def splitFirst (separator : Char) (text : List Char) : List Char × Option (List Char) :=
  match text.dropWhile (· != separator) with
  | [] => (text, none)
  | _ :: rest => (text.takeWhile (· != separator), some rest)

/-- Whether digits are padded: a zero stands in front of further characters. -/
def isPadded : List Char → Bool
  | '0' :: _ :: _ => true
  | _ => false

def digitsValue (digits : List Char) : Nat :=
  digits.foldl (fun value digit => value * 10 + (digit.toNat - '0'.toNat)) 0

/-- A version number: digits without padding, up to the component limit. -/
def component? (digits : List Char) : Option Nat :=
  if digits.isEmpty || !digits.all Char.isDigit || isPadded digits then none
  else if digitsValue digits ≤ componentLimit then some (digitsValue digits)
  else none

/-- Whether a text is made of non-empty identifiers of letters, digits and hyphens.  Where
`padding` is not allowed, an identifier of digits alone is a number and must not be padded. -/
def areIdentifiers (padding : Bool) (text : List Char) : Bool :=
  (splitAt '.' text).all fun part =>
    !part.isEmpty && part.all (fun c => c.isAlphanum || c == '-')
      && (padding || !(part.all Char.isDigit && isPadded part))

/-- Reads a version; every deviation from the scheme is refused. -/
def parse? (text : String) : Option Version := do
  let (release, build) := splitFirst '+' text.toList
  let (core, preRelease) := splitFirst '-' release
  if !(build.all (areIdentifiers true)) || !(preRelease.all (areIdentifiers false)) then
    none
  else
    match splitAt '.' core with
    | [major, minor, patch] =>
      return {
        major := ← component? major
        minor := ← component? minor
        patch := ← component? patch
        preRelease := String.ofList (preRelease.getD [])
        build := String.ofList (build.getD []) }
    | _ => none

end Version

end ArmLink.Firmware
