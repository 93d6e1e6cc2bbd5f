import ArmLink.Proofs.Telemetry.Framing
import ArmLink.Proofs.Text.Utf8
import ArmLink.Proofs.Wire.Writing

/-!
Messages, written and read.

A message is written as a whole packet.  Its fields have fixed places up to the name in a version
report, and from there on places that the byte in front of the name tells; `RobotMessage.decode_iff`
and `VersionReport.decode_iff` give the tables.  What is lost in writing is told by
`RobotMessage.Canonical`: nothing else is, so such a message is read as it was written, and what is
lost in reading are bytes that are no text and zeros behind the date.  `messaging_of_parse` states
both directions for the packets of every feed that carries messages.
-/

namespace ArmLink.Telemetry

open Firmware Wire
open Wire.Decoder (Reads)

variable {cursor : Cursor}

namespace VersionReport

/-- How many bytes the name takes, by the byte in front of it. -/
def nameLength (content : List UInt8) : Nat := (fieldAt UInt8 0 content).toNat

def nameBytes (content : List UInt8) : List UInt8 := (content.drop 1).take (nameLength content)

def dateBytes (content : List UInt8) : List UInt8 := content.drop (nameLength content + 11)

def ofBytes (content : List UInt8) : VersionReport where
  project := Text.Utf8.decode (nameBytes content)
  major := fieldAt UInt8 (nameLength content + 1) content
  minor := fieldAt UInt8 (nameLength content + 2) content
  bugfix := fieldAt Int32 (nameLength content + 3) content
  buildNumber := fieldAt Int32 (nameLength content + 7) content
  buildDate := trimZeros (Text.Utf8.decode (dateBytes content))

variable {report : VersionReport}

theorem decode_iff :
    (decode.run cursor).1 = .ok report ↔
      nameLength cursor.ahead + 11 ≤ cursor.remaining ∧ ofBytes cursor.ahead = report := by
  have byte : BigEndian.width UInt8 = 1 := rfl
  have word : BigEndian.width Int32 = 4 := rfl
  have behind (count : Nat) :
      1 + (nameLength cursor.ahead + count) = nameLength cursor.ahead + (count + 1) := by omega
  have length : (fieldAt UInt8 0 cursor.ahead).toNat = nameLength cursor.ahead := rfl
  unfold decode
  simp only [(Reads.value _).bind_eq_ok, (Reads.bytes _).bind_eq_ok, Decoder.rest_bind,
    Cursor.ahead_advance, Cursor.remaining_advance, fieldAt_drop, List.drop_drop, Nat.add_assoc,
    byte, word, length, behind, Decoder.run_pure, Except.ok.injEq]
  constructor
  · rintro ⟨_, _, _, _, _, _, same⟩
    exact ⟨by omega, same⟩
  · rintro ⟨fits, same⟩
    exact ⟨by omega, by omega, by omega, by omega, by omega, by omega, same⟩

/-! ### Reports, written -/

/-- What is written behind the name. -/
def written (report : VersionReport) : List UInt8 :=
  bytesOfNat 1 report.major.toNat ++ (bytesOfNat 1 report.minor.toNat ++
    (bytesOfNat 4 report.bugfix.toUInt32.toNat ++
      (bytesOfNat 4 report.buildNumber.toUInt32.toNat ++ Text.Utf8.encode report.buildDate)))

/-- The name is written whole if its length field can count it. -/
def Short (report : VersionReport) : Prop := (Text.Utf8.encode report.project).length ≤ 255

instance (report : VersionReport) : Decidable report.Short := Nat.decLe _ _

theorem encode_eq (short : report.Short) :
    report.encode =
      bytesOfNat 1 (Text.Utf8.encode report.project).length ++
        (Text.Utf8.encode report.project ++ report.written) := by
  have whole : report.projectBytes = Text.Utf8.encode report.project :=
    List.take_of_length_le short
  simp [encode, whole, written, bytesOfNat_one]

theorem nameLength_encode (short : report.Short) :
    nameLength report.encode = (Text.Utf8.encode report.project).length := by
  have number : (UInt8.ofNat (Text.Utf8.encode report.project).length).toNat =
      (Text.Utf8.encode report.project).length :=
    UInt8.toNat_ofNat_of_lt' (Nat.lt_succ_of_le short)
  have first := Numbering.uint8.read (UInt8.ofNat (Text.Utf8.encode report.project).length)
  rw [number] at first
  rw [nameLength, encode_eq short]
  exact (congrArg UInt8.toNat (first _)).trans number

theorem nameBytes_encode (short : report.Short) :
    nameBytes report.encode = Text.Utf8.encode report.project := by
  rw [nameBytes, nameLength_encode short, encode_eq short, List.drop_left' (length_bytesOfNat _ _),
    List.take_left]

theorem drop_encode (short : report.Short) (count : Nat) :
    report.encode.drop (nameLength report.encode + (1 + count)) = report.written.drop count := by
  have front : (bytesOfNat 1 (Text.Utf8.encode report.project).length ++
      Text.Utf8.encode report.project).length = (Text.Utf8.encode report.project).length + 1 := by
    rw [List.length_append, length_bytesOfNat]
    omega
  rw [nameLength_encode short, encode_eq short, ← List.append_assoc, ← Nat.add_assoc,
    ← List.drop_drop, List.drop_left' front]

theorem dateBytes_encode (short : report.Short) :
    dateBytes report.encode = Text.Utf8.encode report.buildDate := by
  have behind := drop_encode short 10
  rw [dateBytes]
  refine behind.trans ?_
  rw [written, ← List.append_assoc, ← List.append_assoc, ← List.append_assoc,
    List.drop_left' (by simp [length_bytesOfNat])]

theorem field_encode {α : Type} [BigEndian α] (short : report.Short) (count : Nat) :
    fieldAt α (nameLength report.encode + (1 + count)) report.encode =
      fieldAt α count report.written := by
  have behind := fieldAt_drop (α := α) 0 (nameLength report.encode + (1 + count)) report.encode
  rw [drop_encode short] at behind
  simpa using behind.symm

theorem trimZeros_eq {text : String} (ends : text.toList.getLast? ≠ some '\x00') :
    trimZeros text = text := by
  have kept : text.toList.reverse.dropWhile (· == '\x00') = text.toList.reverse := by
    rw [List.getLast?_eq_head?_reverse] at ends
    cases chars : text.toList.reverse with
    | nil => rfl
    | cons last front =>
      rw [chars] at ends
      have other : last ≠ '\x00' := by simpa using ends
      simp [other]
  rw [trimZeros, kept, List.reverse_reverse, String.ofList_toList]

theorem ofBytes_encode (short : report.Short)
    (ends : report.buildDate.toList.getLast? ≠ some '\x00') : ofBytes report.encode = report := by
  have one (value : Nat) : (bytesOfNat 1 value).length = 1 := length_bytesOfNat 1 value
  have four (value : Nat) : (bytesOfNat 4 value).length = 4 := length_bytesOfNat 4 value
  have major : fieldAt UInt8 (nameLength report.encode + 1) report.encode = report.major :=
    (field_encode short 0).trans (Numbering.uint8.read _ _)
  have minor : fieldAt UInt8 (nameLength report.encode + 2) report.encode = report.minor := by
    refine (field_encode short 1).trans ?_
    rw [written, fieldAt_append 0 (by rw [one])]
    exact Numbering.uint8.read _ _
  have bugfix : fieldAt Int32 (nameLength report.encode + 3) report.encode = report.bugfix := by
    refine (field_encode short 2).trans ?_
    rw [written, fieldAt_append 1 (by rw [one]), fieldAt_append 0 (by rw [one])]
    exact Numbering.int32.read _ _
  have build : fieldAt Int32 (nameLength report.encode + 7) report.encode =
      report.buildNumber := by
    refine (field_encode short 6).trans ?_
    rw [written, fieldAt_append 5 (by rw [one]), fieldAt_append 4 (by rw [one]),
      fieldAt_append 0 (by rw [four])]
    exact Numbering.int32.read _ _
  rw [ofBytes, major, minor, bugfix, build, nameBytes_encode short, dateBytes_encode short,
    Text.Utf8.decode_encode, Text.Utf8.decode_encode, trimZeros_eq ends]

/-! ### Reports, written again -/

variable {content : List UInt8}

theorem trimZeros_date (valid : Text.Utf8.IsValid (dateBytes content))
    (ends : (dateBytes content).getLast? ≠ some 0) :
    trimZeros (Text.Utf8.decode (dateBytes content)) = Text.Utf8.decode (dateBytes content) := by
  apply trimZeros_eq
  intro zero
  have last := Text.Utf8.getLast?_encode zero
  rw [Text.Utf8.encode_decode valid] at last
  exact ends last

theorem encode_ofBytes (fits : nameLength content + 11 ≤ content.length)
    (name : Text.Utf8.IsValid (nameBytes content)) (date : Text.Utf8.IsValid (dateBytes content))
    (ends : (dateBytes content).getLast? ≠ some 0) : (ofBytes content).encode = content := by
  have project : Text.Utf8.encode (ofBytes content).project = nameBytes content :=
    Text.Utf8.encode_decode name
  have size : (nameBytes content).length = nameLength content := by
    rw [nameBytes, List.length_take, List.length_drop]
    omega
  have short : (ofBytes content).Short := by
    have byte := (fieldAt UInt8 0 content).toNat_lt
    rw [Short, project, size]
    exact Nat.le_of_lt_succ byte
  have date : Text.Utf8.encode (ofBytes content).buildDate =
      content.drop (nameLength content + 11) := by
    rw [ofBytes, trimZeros_date date ends, Text.Utf8.encode_decode date, dateBytes]
  have count : bytesOfNat 1 (nameLength content) = (content.drop 0).take 1 :=
    Numbering.uint8.write (show 0 + 1 ≤ content.length by omega)
  have major : bytesOfNat 1 (ofBytes content).major.toNat =
      (content.drop (nameLength content + 1)).take 1 :=
    Numbering.uint8.write (show nameLength content + 1 + 1 ≤ content.length by omega)
  have minor : bytesOfNat 1 (ofBytes content).minor.toNat =
      (content.drop (nameLength content + 2)).take 1 :=
    Numbering.uint8.write (show nameLength content + 2 + 1 ≤ content.length by omega)
  have bugfix : bytesOfNat 4 (ofBytes content).bugfix.toUInt32.toNat =
      (content.drop (nameLength content + 3)).take 4 :=
    Numbering.int32.write (show nameLength content + 3 + 4 ≤ content.length by omega)
  have build : bytesOfNat 4 (ofBytes content).buildNumber.toUInt32.toNat =
      (content.drop (nameLength content + 7)).take 4 :=
    Numbering.int32.write (show nameLength content + 7 + 4 ≤ content.length by omega)
  have written : (ofBytes content).written = content.drop (nameLength content + 1) := by
    rw [written, major, minor, bugfix, build, date, take_drop_append (nameLength content + 7) 4,
      take_drop_append (nameLength content + 3) 4, take_drop_append (nameLength content + 2) 1,
      take_drop_append (nameLength content + 1) 1]
  rw [encode_eq short, project, size, written, count, nameBytes, Nat.add_comm _ 1,
    take_drop_append 1 _, take_drop_append 0 1, List.drop_zero]

end VersionReport

namespace RobotMessage

/-- The content of a message, behind its time stamp, its source and its subject. -/
def ofBytes (body : List UInt8) : RobotMessage where
  timestamp := fieldAt UInt64 0 body
  source := fieldAt Int8 8 body
  subject := MessageSubject.ofCode (fieldAt UInt8 9 body)
  version := if fieldAt UInt8 9 body = 3 then some (.ofBytes (body.drop 10)) else none

/-- Bodies with room for what they announce. -/
def Complete (body : List UInt8) : Prop :=
  10 ≤ body.length ∧
    (fieldAt UInt8 9 body = 3 → 21 + (fieldAt UInt8 10 body).toNat ≤ body.length)

variable {message : RobotMessage} {bytes : List UInt8}

theorem nameLength_drop (bytes : List UInt8) :
    VersionReport.nameLength (bytes.drop 10) = (fieldAt UInt8 10 bytes).toNat := by
  rw [VersionReport.nameLength, fieldAt_drop]

theorem ofCode_eq_version {code : UInt8} : MessageSubject.ofCode code = .version ↔ code = 3 := by
  unfold MessageSubject.ofCode
  rw [← UInt8.toNat_inj]
  split <;> simp_all

theorem decode_iff :
    (decode.run cursor).1 = .ok message ↔
      Complete cursor.ahead ∧ ofBytes cursor.ahead = message := by
  have word : BigEndian.width UInt64 = 8 := rfl
  have byte : BigEndian.width UInt8 = 1 := rfl
  have signed : BigEndian.width Int8 = 1 := rfl
  unfold decode
  simp only [(Reads.value _).bind_eq_ok, ((Reads.value _).map _).bind_eq_ok, Cursor.ahead_advance,
    Cursor.remaining_advance, fieldAt_drop, ofCode_eq_version, word, byte, signed, Nat.reduceAdd]
  by_cases content : fieldAt UInt8 9 cursor.ahead = 3
  · simp only [content, if_true, Decoder.bind_pure_eq_ok, VersionReport.decode_iff,
      Cursor.ahead_advance, Cursor.remaining_advance, List.drop_drop, Nat.reduceAdd, Complete,
      ofBytes, Cursor.length_ahead, nameLength_drop]
    constructor
    · rintro ⟨_, _, _, _, ⟨fits, rfl⟩, same⟩
      exact ⟨⟨by omega, fun _ => by omega⟩, same⟩
    · rintro ⟨⟨fits, more⟩, same⟩
      have more := more trivial
      exact ⟨by omega, by omega, by omega, _, ⟨by omega, rfl⟩, same⟩
  · simp only [content, if_false, Decoder.run_pure, Except.ok.injEq, Complete, ofBytes,
      Cursor.length_ahead, false_imp_iff, and_true]
    constructor
    · rintro ⟨_, _, _, same⟩
      exact ⟨by omega, same⟩
    · rintro ⟨fits, same⟩
      exact ⟨by omega, by omega, by omega, same⟩

/-! ### Messages, written -/

def content (message : RobotMessage) : List UInt8 :=
  (message.version.map VersionReport.encode).getD []

/-- What is written behind the tag. -/
def body (message : RobotMessage) : List UInt8 :=
  bytesOfNat 8 message.timestamp.toNat ++ (bytesOfNat 1 message.source.toUInt8.toNat ++
    (bytesOfNat 1 message.subject.code.toNat ++ message.content))

/-- Messages that can be told from their bytes. -/
structure Canonical (message : RobotMessage) : Prop where
  version : message.version.isSome = true ↔ message.subject = .version
  /-- Codes with a name are not given as codes. -/
  subject : ∀ code, message.subject = .other code → code.toNat ∉ [0, 1, 2, 3, 5, 6, 7, 9, 10]
  project : ∀ report, message.version = some report → report.Short
  buildDate : ∀ report, message.version = some report →
    report.buildDate.toList.getLast? ≠ some '\x00'
  /-- The length field is a signed number of 32 bits. -/
  size : message.encode.length < 2147483648

example : Canonical {
    timestamp := 0
    source := -1
    subject := .version
    version := some {
      project := "URControl"
      major := 3
      minor := 2
      bugfix := -7
      buildNumber := 0
      buildDate := "10-04-2016" } } where
  version := by decide
  subject := nofun
  project := by
    rintro _ ⟨⟩
    decide
  buildDate := by
    rintro _ ⟨⟩
    decide
  size := by decide

theorem encode_eq (message : RobotMessage) :
    message.encode = bytesOfNat 4 (message.body.length + 5) ++ 20 :: message.body := by
  have tagged : message.encodeTagged = 20 :: message.body := by
    simp [encodeTagged, body, content, bytesOfNat_one, robotMessageTag]
  rw [encode, tagged, List.length_cons]

theorem length_encode (message : RobotMessage) :
    message.encode.length = message.body.length + 5 := by
  rw [encode_eq, List.length_append, length_bytesOfNat, List.length_cons]
  omega

theorem drop_encode (message : RobotMessage) : message.encode.drop 5 = message.body := by
  rw [encode_eq, ← List.singleton_append, ← List.append_assoc]
  exact List.drop_left' (by simp [length_bytesOfNat])

theorem drop_body (message : RobotMessage) : message.body.drop 10 = message.content := by
  rw [body, ← List.append_assoc, ← List.append_assoc]
  exact List.drop_left' (by simp [length_bytesOfNat])

theorem code_body (message : RobotMessage) :
    fieldAt UInt8 9 message.body = message.subject.code := by
  rw [body, fieldAt_append 1 (by rw [length_bytesOfNat]),
    fieldAt_append 0 (by rw [length_bytesOfNat])]
  exact Numbering.uint8.read _ _

theorem Canonical.ofCode_code (canonical : message.Canonical) :
    MessageSubject.ofCode message.subject.code = message.subject := by
  have unnamed := canonical.subject
  cases subject : message.subject with
  | other code =>
    have unnamed := unnamed code subject
    unfold MessageSubject.code MessageSubject.ofCode
    split <;> simp_all
  | _ => rfl

theorem Canonical.code_eq_three_iff (canonical : message.Canonical) :
    message.subject.code = 3 ↔ message.version.isSome = true := by
  rw [← ofCode_eq_version, canonical.ofCode_code, canonical.version]

theorem complete_body (canonical : message.Canonical) : Complete message.body := by
  constructor
  · simp only [body, List.length_append, length_bytesOfNat]
    omega
  · rw [code_body, canonical.code_eq_three_iff, ← nameLength_drop, drop_body]
    intro given
    obtain ⟨report, carried⟩ := Option.isSome_iff_exists.mp given
    have short := canonical.project report carried
    have content : message.content = report.encode := by simp [content, carried]
    rw [content, VersionReport.nameLength_encode short, body, content,
      VersionReport.encode_eq short]
    simp only [VersionReport.written, List.length_append, length_bytesOfNat]
    omega

theorem ofBytes_body (canonical : message.Canonical) : ofBytes message.body = message := by
  have timestamp : fieldAt UInt64 0 message.body = message.timestamp := Numbering.uint64.read _ _
  have source : fieldAt Int8 8 message.body = message.source := by
    rw [body, fieldAt_append 0 (by rw [length_bytesOfNat])]
    exact Numbering.int8.read _ _
  have version : (if message.subject.code = 3 then some (VersionReport.ofBytes message.content)
      else none) = message.version := by
    simp only [canonical.code_eq_three_iff]
    cases carried : message.version with
    | none => rfl
    | some report =>
      have content : message.content = report.encode := by simp [content, carried]
      rw [content, VersionReport.ofBytes_encode (canonical.project report carried)
        (canonical.buildDate report carried)]
      rfl
  rw [ofBytes, timestamp, source, code_body, drop_body, version, canonical.ofCode_code]

/-! ### Messages, written again -/

theorem code_ofCode (code : UInt8) : (MessageSubject.ofCode code).code = code := by
  unfold MessageSubject.ofCode
  split <;> first
    | rfl
    | exact UInt8.toNat_inj.mp (Eq.symm ‹_›)

theorem body_ofBytes (complete : Complete bytes) (version : fieldAt UInt8 9 bytes = 3)
    (name : Text.Utf8.IsValid (VersionReport.nameBytes (bytes.drop 10)))
    (date : Text.Utf8.IsValid (VersionReport.dateBytes (bytes.drop 10)))
    (ends : (VersionReport.dateBytes (bytes.drop 10)).getLast? ≠ some 0) :
    (ofBytes bytes).body = bytes := by
  obtain ⟨least, announced⟩ := complete
  have content : (ofBytes bytes).content = bytes.drop 10 := by
    have given : (ofBytes bytes).version = some (.ofBytes (bytes.drop 10)) := if_pos version
    rw [content, given]
    have announced := announced version
    apply VersionReport.encode_ofBytes _ name date ends
    rw [nameLength_drop, List.length_drop]
    omega
  have timestamp : bytesOfNat 8 (ofBytes bytes).timestamp.toNat = (bytes.drop 0).take 8 :=
    Numbering.uint64.write (show 0 + 8 ≤ bytes.length by omega)
  have source : bytesOfNat 1 (ofBytes bytes).source.toUInt8.toNat = (bytes.drop 8).take 1 :=
    Numbering.int8.write (show 8 + 1 ≤ bytes.length by omega)
  have subject : bytesOfNat 1 (ofBytes bytes).subject.code.toNat = (bytes.drop 9).take 1 := by
    rw [ofBytes, code_ofCode]
    exact Numbering.uint8.write (show 9 + 1 ≤ bytes.length by omega)
  rw [body, timestamp, source, subject, content, take_drop_append 9 1, take_drop_append 8 1,
    take_drop_append 0 8, List.drop_zero]

end RobotMessage

/-! ### Packets -/

namespace Strategy

/-- The strategies that read messages: alone, or with the snapshots of the primary feed. -/
def ofMessages : Option StateLayout → Strategy
  | none => .message
  | some layout => .primary layout

variable {layout? : Option StateLayout}

theorem header_ofMessages : (ofMessages layout?).header = 5 := by
  cases layout? <;> rfl

theorem body?_ofMessages : (ofMessages layout?).body? 20 = some .message := by
  cases layout? <;> rfl

/-- What is read of a complete frame with the tag of messages. -/
theorem parse_ofMessages (tagged : 5 ≤ cursor.remaining) (tag : tagAt cursor = 20)
    (covers : 5 ≤ declaredAt cursor) (fits : (declaredAt cursor).toNat ≤ cursor.remaining) :
    (ofMessages layout?).parse cursor =
      (Body.message.read (declaredAt cursor).toNat
          ((cursor.ahead.take (declaredAt cursor).toNat).drop 5),
        cursor.advance (declaredAt cursor).toNat fits) := by
  have header : (ofMessages layout?).header = 5 := header_ofMessages
  have accepted : (ofMessages layout?).body? 20 = some .message := body?_ofMessages
  rw [← tag] at accepted
  rw [parse_of_body (by omega) accepted, header, if_neg (by omega), dif_pos fits]

/-- What is known of a packet that was read. -/
theorem parse_eq_ok {strategy : Strategy} {packet : Packet}
    (found : (strategy.parse cursor).1 = .ok packet) :
    strategy.header ≤ declaredAt cursor ∧ (declaredAt cursor).toNat ≤ cursor.remaining ∧
      ∃ body, strategy.body? (tagAt cursor) = some body ∧
        body.read (declaredAt cursor).toNat
          ((cursor.ahead.take (declaredAt cursor).toNat).drop strategy.header) = .ok packet := by
  rcases parse_cases strategy cursor with ⟨fault, stays, -⟩ | ⟨body, accepted, covers, fits, moves⟩
  · rw [stays] at found
    cases found
  · rw [moves] at found
    exact ⟨covers, fits, body, accepted, found⟩

/-- A packet that holds a message was read as one. -/
theorem body_eq_message {tag : UInt8} {body : Body} {length : Nat} {bytes : List UInt8}
    {packet : Packet} {message : RobotMessage}
    (accepted : (ofMessages layout?).body? tag = some body)
    (found : body.read length bytes = .ok packet) (carried : packet.payload = .message message) :
    tag = 20 ∧ body = .message := by
  have state (layout : StateLayout) : body ≠ .state layout := by
    rintro rfl
    rw [Body.read, Body.state, Decoder.run_map] at found
    cases read : ((StateSnapshot.decode layout).run (Cursor.ofBytes bytes)).1 with
    | error fault =>
      rw [read] at found
      cases found
    | ok snapshot =>
      rw [read] at found
      cases found
      cases carried
  cases layout? with
  | none =>
    obtain ⟨same, found⟩ := Option.ite_none_right_eq_some.mp accepted
    exact ⟨same, (Option.some.inj found).symm⟩
  | some layout =>
    rw [ofMessages, body?] at accepted
    split at accepted
    · exact absurd (Option.some.inj accepted).symm (state layout)
    · obtain ⟨same, found⟩ := Option.ite_none_right_eq_some.mp accepted
      exact ⟨same, (Option.some.inj found).symm⟩

end Strategy

/-- A frame is its length, its tag and its body. -/
theorem frame_eq (covers : 5 ≤ declaredAt cursor)
    (fits : (declaredAt cursor).toNat ≤ cursor.remaining) :
    cursor.ahead.take (declaredAt cursor).toNat =
      bytesOfNat 4 (declaredAt cursor).toNat ++
        tagAt cursor :: (cursor.ahead.take (declaredAt cursor).toNat).drop 5 := by
  have four : (cursor.ahead.take 4).length = 4 := by
    rw [List.length_take, Cursor.length_ahead]
    omega
  have small : (declaredAt cursor).toNat < 2147483648 := by
    have bound : declaredAt cursor < 2147483648 := Int32.toInt_lt _
    omega
  have declared : (BigEndian.ofBytes Int32 (cursor.ahead.take 4)).toInt =
      (declaredAt cursor).toNat := by
    change declaredAt cursor = _
    omega
  have length := (toInt_ofBytes_eq_iff four small).mp declared
  have tag := tagAt_eq (show 5 ≤ cursor.remaining by omega)
  have least : 5 ≤ (declaredAt cursor).toNat := by omega
  generalize (declaredAt cursor).toNat = size at *
  have front : (cursor.ahead.take size).take 4 = bytesOfNat 4 size := by
    rw [List.take_take, Nat.min_eq_left (by omega), length]
  have middle : ((cursor.ahead.take size).drop 4).take 1 = [tagAt cursor] := by
    rw [List.drop_take, List.take_take, Nat.min_eq_left (by omega), tag]
  rw [← List.singleton_append, ← front, ← middle, take_drop_append 4 1, List.take_append_drop]

theorem Body.read_message {length : Nat} {bytes : List UInt8} {packet : Packet} :
    Body.message.read length bytes = .ok packet ↔
      RobotMessage.Complete bytes ∧
        { length, payload := .message (.ofBytes bytes) } = packet := by
  have decoded (message : RobotMessage) :
      (RobotMessage.decode.run (Cursor.ofBytes bytes)).1 = .ok message ↔
        RobotMessage.Complete bytes ∧ RobotMessage.ofBytes bytes = message :=
    RobotMessage.decode_iff
  rw [Body.read, Body.message, Decoder.run_map]
  cases found : (RobotMessage.decode.run (Cursor.ofBytes bytes)).1 with
  | error fault =>
    have incomplete : ¬ RobotMessage.Complete bytes := by
      intro complete
      have read := (decoded _).mpr ⟨complete, rfl⟩
      rw [found] at read
      cases read
    simp [Except.map, incomplete]
  | ok message =>
    have complete := (decoded message).mp found
    simp [Except.map, complete]

/-- A message is read as it was written. -/
theorem Strategy.parse_encode {layout? : Option StateLayout} {message : RobotMessage}
    {rest : List UInt8} (canonical : message.Canonical)
    (same : cursor.ahead = message.encode ++ rest) :
    ∃ fits, (ofMessages layout?).parse cursor =
      (.ok { length := message.encode.length, payload := .message message },
        cursor.advance message.encode.length fits) := by
  have size := RobotMessage.length_encode message
  have small := canonical.size
  have whole : cursor.ahead.take message.encode.length = message.encode := by
    rw [same, List.take_left]
  have remaining : cursor.remaining = message.encode.length + rest.length := by
    rw [← Cursor.length_ahead, same, List.length_append]
  rw [RobotMessage.encode_eq, List.append_assoc] at same
  have declared : declaredAt cursor = (message.body.length + 5 : Nat) :=
    declaredAt_of_ahead_eq (by omega) same
  have tag : tagAt cursor = 20 := by
    simp [tagAt, lengthSize, same, length_bytesOfNat]
  have length : (declaredAt cursor).toNat = message.encode.length := by omega
  have packet : Body.message.read message.encode.length message.body =
      .ok { length := message.encode.length, payload := .message message } := by
    apply Body.read_message.mpr
    rw [RobotMessage.ofBytes_body canonical]
    exact ⟨RobotMessage.complete_body canonical, rfl⟩
  refine ⟨by omega, ?_⟩
  rw [parse_ofMessages (by omega) tag (by omega) (by omega)]
  simp only [length, whole, RobotMessage.drop_encode, packet]

/-- A frame whose body is written again as it was is itself written again as it was. -/
theorem RobotMessage.encode_eq_frame {message : RobotMessage} (covers : 5 ≤ declaredAt cursor)
    (fits : (declaredAt cursor).toNat ≤ cursor.remaining) (tag : tagAt cursor = 20)
    (body : message.body = (cursor.ahead.take (declaredAt cursor).toNat).drop 5) :
    message.encode = cursor.ahead.take (declaredAt cursor).toNat := by
  have length : message.body.length + 5 = (declaredAt cursor).toNat := by
    rw [body, List.length_drop, List.length_take, Cursor.length_ahead, Nat.min_eq_left fits]
    omega
  rw [encode_eq, length, body, ← tag]
  exact (frame_eq covers fits).symm

/-- How messages are written and read. -/
structure Messaging (strategy : Strategy) : Prop where
  /-- A message is read as it was written, whatever stands behind it. -/
  read : ∀ message : RobotMessage, message.Canonical →
    ∀ (cursor : Cursor) rest, cursor.ahead = message.encode ++ rest →
      ∃ fits, strategy.parse cursor =
        (.ok { length := message.encode.length, payload := .message message },
          cursor.advance message.encode.length fits)
  /-- A version report that was read is written as it came. -/
  written : ∀ (cursor : Cursor) packet message report,
    (strategy.parse cursor).1 = .ok packet → packet.payload = .message message →
      message.version = some report →
        Text.Utf8.IsValid (VersionReport.nameBytes ((cursor.ahead.take packet.length).drop 15)) →
        Text.Utf8.IsValid (VersionReport.dateBytes ((cursor.ahead.take packet.length).drop 15)) →
        (VersionReport.dateBytes ((cursor.ahead.take packet.length).drop 15)).getLast? ≠ some 0 →
          message.encode = cursor.ahead.take packet.length
  /-- Nothing is asked of a complete frame but room for what it announces. -/
  accepted : ∀ cursor : Cursor, 5 ≤ cursor.remaining → tagAt cursor = 20 →
    5 ≤ declaredAt cursor → (declaredAt cursor).toNat ≤ cursor.remaining →
      ((∃ packet, (strategy.parse cursor).1 = .ok packet) ↔
        RobotMessage.Complete ((cursor.ahead.take (declaredAt cursor).toNat).drop 5))

/-- Messages are read and written in the same way on all feeds. -/
theorem messaging_of_parse (layout? : Option StateLayout) :
    Messaging (.ofMessages layout?) := by
  constructor
  · intro message canonical cursor rest same
    exact Strategy.parse_encode canonical same
  · intro cursor packet message report found carried version name date ends
    obtain ⟨covers, fits, body, accepted, read⟩ := Strategy.parse_eq_ok found
    obtain ⟨tag, rfl⟩ := Strategy.body_eq_message accepted read carried
    rw [Strategy.header_ofMessages] at covers read
    obtain ⟨complete, rfl⟩ := Body.read_message.mp read
    cases carried
    have inner : ((cursor.ahead.take (declaredAt cursor).toNat).drop 5).drop 10 =
        (cursor.ahead.take (declaredAt cursor).toNat).drop 15 := List.drop_drop
    dsimp only at name date ends ⊢
    rw [← inner] at name date ends
    have subject := (Option.ite_none_right_eq_some.mp version).1
    apply RobotMessage.encode_eq_frame (by omega) fits tag
    exact RobotMessage.body_ofBytes complete subject name date ends
  · intro cursor tagged tag covers fits
    rw [Strategy.parse_ofMessages tagged tag covers fits]
    simp only [Body.read_message]
    constructor
    · rintro ⟨packet, complete, -⟩
      exact complete
    · intro complete
      exact ⟨_, complete, rfl⟩

end ArmLink.Telemetry
