import ArmLink.Firmware.Version
import ArmLink.Text.Utf8
import ArmLink.Wire.Cursor

/-!
Messages of the controller.  A message has a time stamp, a source and a subject; the content is read
only of version reports, which tell the firmware and come first on a new connection.

`RobotMessage.encode` writes a whole packet, length and tag included, and is what a simulated
controller sends.
-/

namespace ArmLink.Telemetry

open Firmware Wire

def robotMessageTag : UInt8 := 20

/-- What a message is about. -/
inductive MessageSubject where
  | text | programLabel | popup | version | safetyMode | errorCode | key | requestValue
  | runtimeException
  | other (code : UInt8)
deriving DecidableEq, Repr

namespace MessageSubject

def ofCode (code : UInt8) : MessageSubject :=
  match code.toNat with
  | 0 => .text
  | 1 => .programLabel
  | 2 => .popup
  | 3 => .version
  | 5 => .safetyMode
  | 6 => .errorCode
  | 7 => .key
  | 9 => .requestValue
  | 10 => .runtimeException
  | _ => .other code

def code : MessageSubject → UInt8
  | .text => 0
  | .programLabel => 1
  | .popup => 2
  | .version => 3
  | .safetyMode => 5
  | .errorCode => 6
  | .key => 7
  | .requestValue => 9
  | .runtimeException => 10
  | .other code => code

end MessageSubject

/-- What the controller says about its firmware. -/
structure VersionReport where
  project : String
  major : UInt8
  minor : UInt8
  bugfix : Int32
  buildNumber : Int32
  buildDate : String
deriving DecidableEq

namespace VersionReport

/-- A text without the zero characters at its end. -/
def trimZeros (text : String) : String :=
  String.ofList (text.toList.reverse.dropWhile (· == '\x00')).reverse

/-- Reads the content of a version report: a name with its length in front, the numbers, and a date
that takes the rest and may be padded with zeros. -/
def decode : Decoder VersionReport := do
  let length ← Decoder.value UInt8
  let project ← Decoder.bytes length.toNat
  let major ← Decoder.value UInt8
  let minor ← Decoder.value UInt8
  let bugfix ← Decoder.value Int32
  let buildNumber ← Decoder.value Int32
  let date ← Decoder.rest
  return {
    project := Text.Utf8.decode project
    buildDate := trimZeros (Text.Utf8.decode date)
    major, minor, bugfix, buildNumber }

/-- The bytes of the name: as many as its length field can count. -/
def projectBytes (report : VersionReport) : List UInt8 :=
  (Text.Utf8.encode report.project).take 255

def encode (report : VersionReport) : List UInt8 :=
  bytesOfNat 1 report.projectBytes.length ++ report.projectBytes
    ++ [report.major, report.minor]
    ++ bytesOfNat 4 report.bugfix.toUInt32.toNat ++ bytesOfNat 4 report.buildNumber.toUInt32.toNat
    ++ Text.Utf8.encode report.buildDate

/-- The firmware that a report names; a negative bugfix number counts as zero. -/
def firmware (report : VersionReport) : Version where
  major := report.major.toNat
  minor := report.minor.toNat
  patch := report.bugfix.toInt.toNat

end VersionReport

/-- A message of the controller. -/
structure RobotMessage where
  timestamp : UInt64
  source : Int8
  subject : MessageSubject
  /-- The content of a version report; other subjects are read without content. -/
  version : Option VersionReport
deriving DecidableEq

namespace RobotMessage

/-- Reads the body of a message: all bytes behind the tag. -/
def decode : Decoder RobotMessage := do
  let timestamp ← Decoder.value UInt64
  let source ← Decoder.value Int8
  let subject ← MessageSubject.ofCode <$> Decoder.value UInt8
  if subject = .version then
    let report ← VersionReport.decode
    return { timestamp, source, subject, version := some report }
  else
    return { timestamp, source, subject, version := none }

/-- What follows the length field of a packet. -/
def encodeTagged (message : RobotMessage) : List UInt8 :=
  robotMessageTag :: bytesOfNat 8 message.timestamp.toNat
    ++ [message.source.toUInt8, message.subject.code]
    ++ (message.version.map VersionReport.encode).getD []

/-- Writes a message as a whole packet, whose length field counts itself. -/
def encode (message : RobotMessage) : List UInt8 :=
  bytesOfNat 4 (message.encodeTagged.length + 4) ++ message.encodeTagged

end RobotMessage

end ArmLink.Telemetry
