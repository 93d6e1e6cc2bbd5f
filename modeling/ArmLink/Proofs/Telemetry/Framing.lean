import ArmLink.Proofs.Telemetry.Bodies
import ArmLink.Proofs.Wire.Fields

/-!
Framing: which packet stands at a cursor, and what keeps it from being read.

The main statement, `framing_of_parse`, holds for every strategy at every cursor.  The first of these
that applies decides: the length field is not there, the tag is not there, the tag belongs to another
strategy, the declared length does not cover the header, the packet goes on behind the end.  In all
of these cases the cursor stays.  Otherwise the packet is consumed whole, and the answer is that of
the decoder of its body, run on the bytes behind the header and on nothing else.
-/

namespace ArmLink.Telemetry

open Firmware Wire
open Wire.Decoder (Inside)

/-- The length that the bytes at a cursor declare. -/
def declaredAt (cursor : Cursor) : Int :=
  (BigEndian.ofBytes Int32 (cursor.ahead.take lengthSize)).toInt

/-- What the body of a packet is read as. -/
structure Body where
  kind : BodyKind
  decoder : Decoder Payload

namespace Body

def state (layout : StateLayout) : Body := ⟨.robotState, .state <$> StateSnapshot.decode layout⟩

def realtime (layout : RealtimeLayout) : Body :=
  ⟨.realtimeState, .realtime <$> RealtimeSample.decode layout⟩

def message : Body := ⟨.robotMessage, .message <$> RobotMessage.decode⟩

/-- What comes of a body that fills some bytes. -/
def read (body : Body) (length : Nat) (bytes : List UInt8) : Except PacketFault Packet :=
  match (body.decoder.run (Cursor.ofBytes bytes)).1 with
  | .ok payload => .ok { length, payload }
  | .error fault => .error (.malformed body.kind fault)

end Body

namespace Strategy

/-- The tag that a strategy asks for last; packets of the realtime feed have none. -/
def expected? : Strategy → Option MessageTag
  | .state _ => some .robotState
  | .realtime _ => none
  | .message | .primary _ => some .robotMessage

/-- Bytes in front of a body. -/
def header (strategy : Strategy) : Nat := if strategy.expected?.isSome then 5 else 4

/-- The body that a strategy reads behind a tag, if it accepts the tag. -/
def body? (tag : UInt8) : Strategy → Option Body
  | .state layout => if tag = 16 then some (.state layout) else none
  | .realtime layout => some (.realtime layout)
  | .message => if tag = 20 then some .message else none
  | .primary layout =>
    if tag = 16 then some (.state layout) else if tag = 20 then some .message else none

end Strategy

/-- The byte behind the length field. -/
def tagAt (cursor : Cursor) : UInt8 := cursor.ahead.getD lengthSize 0

/-- What a strategy does at a cursor. -/
structure Framing (strategy : Strategy) (cursor : Cursor) : Prop where
  noLength : cursor.remaining < 4 →
    strategy.parse cursor = (.error (.incomplete 4 cursor.remaining), cursor)
  noTag : strategy.header = 5 → cursor.remaining = 4 →
    strategy.parse cursor = (.error (.incomplete 5 4), cursor)
  /-- A tag that is not accepted is reported whatever length is declared. -/
  wrongTag : ∀ tag, strategy.expected? = some tag → 5 ≤ cursor.remaining →
    strategy.body? (tagAt cursor) = none →
      strategy.parse cursor = (.error (.unexpectedTag tag (tagAt cursor)), cursor)
  belowHeader : ∀ body, strategy.header ≤ cursor.remaining →
    strategy.body? (tagAt cursor) = some body → declaredAt cursor < strategy.header →
      strategy.parse cursor =
        (.error (.malformed body.kind (.invalidDeclaredLength (declaredAt cursor))), cursor)
  beyondEnd : ∀ body, strategy.header ≤ cursor.remaining →
    strategy.body? (tagAt cursor) = some body → strategy.header ≤ declaredAt cursor →
      cursor.remaining < declaredAt cursor →
        strategy.parse cursor =
          (.error (.incomplete (declaredAt cursor).toNat cursor.remaining), cursor)
  /-- A sound frame is consumed whole, and its body alone is read. -/
  whole : ∀ body, strategy.header ≤ cursor.remaining →
    strategy.body? (tagAt cursor) = some body → strategy.header ≤ declaredAt cursor →
      ∀ fits : (declaredAt cursor).toNat ≤ cursor.remaining,
        strategy.parse cursor =
          (body.read (declaredAt cursor).toNat
              ((cursor.ahead.take (declaredAt cursor).toNat).drop strategy.header),
            cursor.advance (declaredAt cursor).toNat fits)
  /-- On the primary feed the tag chooses between the two other strategies. -/
  primary : ∀ layout, strategy = .primary layout → 5 ≤ cursor.remaining →
    strategy.parse cursor =
        (if tagAt cursor = 16 then (Strategy.state layout).parse cursor
          else Strategy.message.parse cursor) ∧
      (tagAt cursor ≠ 16 → tagAt cursor ≠ 20 →
        strategy.parse cursor =
          (.error (.unexpectedTag .robotMessage (tagAt cursor)), cursor))
  /-- What is looked at lies ahead of the cursor, and the cursor moves forward and stays inside. -/
  inside : (4 ≤ cursor.remaining →
      cursor.peek Int32 = .ok (BigEndian.ofBytes Int32 (cursor.ahead.take 4))) ∧
    (5 ≤ cursor.remaining → cursor.peekAt UInt8 4 = .ok (tagAt cursor)) ∧
    (strategy.parse cursor).2.bytes = cursor.bytes ∧
    cursor.position ≤ (strategy.parse cursor).2.position ∧
    (strategy.parse cursor).2.position ≤ cursor.bytes.length
  /-- No read takes a range that is not there, neither of the frame nor of a body. -/
  inRange : ∀ start stop, cursor.peekAt UInt8 4 ≠ .error (.reversedRange start stop) ∧
    (∀ kind, (strategy.parse cursor).1 ≠ .error (.malformed kind (.reversedRange start stop))) ∧
    ∀ tag body, strategy.body? tag = some body → Inside body.decoder

variable {strategy : Strategy} {cursor : Cursor}

/-! ### Frames -/

theorem peek_length (fits : 4 ≤ cursor.remaining) :
    cursor.peek Int32 = .ok (BigEndian.ofBytes Int32 (cursor.ahead.take 4)) := by
  change (cursor.next 4).map _ = _
  rw [Cursor.next_of_le fits]
  rfl

theorem declaredAt_of_ahead_eq {size : Nat} {rest : List UInt8} (small : size < 2147483648)
    (same : cursor.ahead = bytesOfNat 4 size ++ rest) : declaredAt cursor = size := by
  have front : cursor.ahead.take lengthSize = bytesOfNat 4 size := by
    rw [same]
    exact List.take_left' (length_bytesOfNat _ _)
  rw [declaredAt, front]
  exact (toInt_ofBytes_eq_iff (length_bytesOfNat _ _) small).mpr rfl

theorem tagAt_eq (fits : 5 ≤ cursor.remaining) : (cursor.ahead.drop 4).take 1 = [tagAt cursor] := by
  have inside : 4 < cursor.ahead.length := by
    rw [Cursor.length_ahead]
    omega
  rw [List.drop_eq_getElem_cons inside, List.take_succ_cons, List.take_zero]
  simp [tagAt, lengthSize, inside]

theorem peekAt_tag (cursor : Cursor) :
    cursor.peekAt UInt8 (UInt64.ofNat lengthSize) =
      if 5 ≤ cursor.remaining then .ok (tagAt cursor)
      else .error (.insufficientData 5 cursor.remaining) := by
  have offset : (UInt64.ofNat lengthSize).toNat = 4 := by decide
  have width : BigEndian.width UInt8 = 1 := rfl
  rw [Cursor.peekAt_eq (by decide), offset, width]
  by_cases fits : 5 ≤ cursor.remaining
  · rw [if_pos fits, if_pos fits, tagAt_eq fits]
    simp [BigEndian.ofBytes, BigEndian.ofNat, natOfBytes]
  · rw [if_neg fits, if_neg fits]

section Frames

variable {α : Type} {expected : Option MessageTag} {kind : BodyKind} {header : Nat}
  {decoder : Decoder α} {wrap : α → Payload}

theorem frame_of_short (short : cursor.remaining < 4) :
    frame expected kind cursor = .error (.incomplete 4 cursor.remaining) := by
  have unread : cursor.peek Int32 = .error (.insufficientData 4 cursor.remaining) := by
    change (cursor.next 4).map _ = _
    rw [Cursor.next_of_lt short]
    rfl
  rw [frame, unread]
  rfl

theorem frame_of_unchecked {fault : PacketFault} (fits : 4 ≤ cursor.remaining)
    (refused : checkTag expected cursor = .error fault) :
    frame expected kind cursor = .error fault := by
  rw [frame, peek_length fits, refused]
  rfl

/-- Behind an accepted tag the declared length decides. -/
theorem frame_of_checked (fits : 4 ≤ cursor.remaining)
    (accepted : checkTag expected cursor = .ok header) :
    frame expected kind cursor =
      if declaredAt cursor < header then
        .error (.malformed kind (.invalidDeclaredLength (declaredAt cursor)))
      else if fits : (declaredAt cursor).toNat ≤ cursor.remaining then
        .ok ((declaredAt cursor).toNat,
          Cursor.ofBytes ((cursor.ahead.take (declaredAt cursor).toNat).drop header),
          cursor.advance (declaredAt cursor).toNat fits)
      else .error (.incomplete (declaredAt cursor).toNat cursor.remaining) := by
  have declared : (BigEndian.ofBytes Int32 (cursor.ahead.take 4)).toInt = declaredAt cursor := rfl
  simp only [frame, peek_length fits, accepted, bind, Except.bind, declared]
  by_cases enough : (declaredAt cursor).toNat ≤ cursor.remaining
  · rw [dif_pos enough, Cursor.next_of_le enough]
    rfl
  · rw [dif_neg enough, Cursor.next_of_lt (Nat.not_le.mp enough)]
    rfl

theorem readFramed_of_error {fault : PacketFault}
    (refused : frame expected kind cursor = .error fault) :
    readFramed expected kind decoder wrap cursor = (.error fault, cursor) := by
  rw [readFramed, refused]

theorem readFramed_of_checked (fits : 4 ≤ cursor.remaining)
    (accepted : checkTag expected cursor = .ok header) :
    readFramed expected kind decoder wrap cursor =
      if declaredAt cursor < header then
        (.error (.malformed kind (.invalidDeclaredLength (declaredAt cursor))), cursor)
      else if fits : (declaredAt cursor).toNat ≤ cursor.remaining then
        (Body.read ⟨kind, wrap <$> decoder⟩ (declaredAt cursor).toNat
            ((cursor.ahead.take (declaredAt cursor).toNat).drop header),
          cursor.advance (declaredAt cursor).toNat fits)
      else (.error (.incomplete (declaredAt cursor).toNat cursor.remaining), cursor) := by
  rw [readFramed, frame_of_checked fits accepted]
  by_cases small : declaredAt cursor < header
  · rw [if_pos small, if_pos small]
  · rw [if_neg small, if_neg small]
    by_cases enough : (declaredAt cursor).toNat ≤ cursor.remaining
    · rw [dif_pos enough, dif_pos enough, Body.read, Decoder.run_map]
      dsimp only
      generalize (decoder.run _).1 = outcome
      cases outcome <;> rfl
    · rw [dif_neg enough, dif_neg enough]

end Frames

/-! ### Tags -/

theorem checkTag_of_short {tag : MessageTag} (short : cursor.remaining < 5) :
    checkTag (some tag) cursor = .error (.incomplete 5 cursor.remaining) := by
  simp only [checkTag, peekAt_tag, if_neg (Nat.not_le.mpr short)]
  rfl

theorem checkTag_of_eq {tag : MessageTag} (fits : 5 ≤ cursor.remaining)
    (same : tagAt cursor = tag.code) : checkTag (some tag) cursor = .ok 5 := by
  simp only [checkTag, peekAt_tag, if_pos fits, if_pos same]
  rfl

theorem checkTag_of_ne {tag : MessageTag} (fits : 5 ≤ cursor.remaining)
    (other : tagAt cursor ≠ tag.code) :
    checkTag (some tag) cursor = .error (.unexpectedTag tag (tagAt cursor)) := by
  simp only [checkTag, peekAt_tag, if_pos fits, if_neg other]

/-! ### Strategies -/

namespace Strategy

variable {layout : StateLayout}

theorem header_cases (strategy : Strategy) : strategy.header = 4 ∨ strategy.header = 5 := by
  cases strategy <;> simp [header, expected?]

theorem parse_of_short (short : cursor.remaining < 4) :
    strategy.parse cursor = (.error (.incomplete 4 cursor.remaining), cursor) := by
  cases strategy with
  | state layout => exact readFramed_of_error (frame_of_short short)
  | realtime layout => exact readFramed_of_error (frame_of_short short)
  | message => exact readFramed_of_error (frame_of_short short)
  | primary layout =>
    have state : parseState layout cursor = (.error (.incomplete 4 cursor.remaining), cursor) :=
      readFramed_of_error (frame_of_short short)
    rw [parse, state]

theorem parseState_of_unchecked {fault : PacketFault} (fits : 4 ≤ cursor.remaining)
    (refused : checkTag (some .robotState) cursor = .error fault) :
    parseState layout cursor = (.error fault, cursor) :=
  readFramed_of_error (frame_of_unchecked fits refused)

theorem parseMessage_of_unchecked {fault : PacketFault} (fits : 4 ≤ cursor.remaining)
    (refused : checkTag (some .robotMessage) cursor = .error fault) :
    parseMessage cursor = (.error fault, cursor) :=
  readFramed_of_error (frame_of_unchecked fits refused)

theorem parse_of_noTag (tagged : strategy.header = 5) (four : cursor.remaining = 4) :
    strategy.parse cursor = (.error (.incomplete 5 4), cursor) := by
  have short (tag : MessageTag) : checkTag (some tag) cursor = .error (.incomplete 5 4) := by
    rw [checkTag_of_short (by omega), four]
  have state (layout : StateLayout) :
      parseState layout cursor = (.error (.incomplete 5 4), cursor) :=
    parseState_of_unchecked (by omega) (short _)
  cases strategy with
  | state layout => exact state layout
  | realtime layout => cases tagged
  | message => exact parseMessage_of_unchecked (by omega) (short _)
  | primary layout => rw [parse, state]

/-- A frame with the tag of a snapshot is never taken for one with another tag. -/
theorem parse_primary_of_state (fits : 5 ≤ cursor.remaining) (same : tagAt cursor = 16) :
    (primary layout).parse cursor = (state layout).parse cursor := by
  have read : parseState layout cursor = _ :=
    readFramed_of_checked (by omega) (checkTag_of_eq fits same)
  rw [parse, parse, read]
  by_cases small : declaredAt cursor < (5 : Nat)
  · rw [if_pos small]
  · rw [if_neg small]
    by_cases enough : (declaredAt cursor).toNat ≤ cursor.remaining
    · rw [dif_pos enough, Body.read]
      generalize (Decoder.run _ _).1 = outcome
      cases outcome <;> rfl
    · rw [dif_neg enough]

theorem parse_primary_of_other (fits : 5 ≤ cursor.remaining) (other : tagAt cursor ≠ 16) :
    (primary layout).parse cursor = Strategy.message.parse cursor := by
  have state : parseState layout cursor = _ :=
    parseState_of_unchecked (by omega) (checkTag_of_ne fits other)
  simp only [parse, state]

/-- What a strategy reads behind a tag that it accepts. -/
theorem parse_of_body {body : Body} (fits : strategy.header ≤ cursor.remaining)
    (accepted : strategy.body? (tagAt cursor) = some body) :
    strategy.parse cursor =
      if declaredAt cursor < strategy.header then
        (.error (.malformed body.kind (.invalidDeclaredLength (declaredAt cursor))), cursor)
      else if fits : (declaredAt cursor).toNat ≤ cursor.remaining then
        (body.read (declaredAt cursor).toNat
            ((cursor.ahead.take (declaredAt cursor).toNat).drop strategy.header),
          cursor.advance (declaredAt cursor).toNat fits)
      else (.error (.incomplete (declaredAt cursor).toNat cursor.remaining), cursor) := by
  have least : 4 ≤ strategy.header := by rcases strategy.header_cases with four | five <;> omega
  cases strategy with
  | state layout =>
    obtain ⟨same, found⟩ := Option.ite_none_right_eq_some.mp accepted
    cases found
    exact readFramed_of_checked (by omega) (checkTag_of_eq fits same)
  | realtime layout =>
    cases accepted
    exact readFramed_of_checked (by omega) rfl
  | message =>
    obtain ⟨same, found⟩ := Option.ite_none_right_eq_some.mp accepted
    cases found
    exact readFramed_of_checked (by omega) (checkTag_of_eq fits same)
  | primary layout =>
    by_cases same : tagAt cursor = 16
    · rw [parse_primary_of_state fits same]
      obtain rfl : Body.state layout = body := by simpa [body?, same] using accepted
      exact readFramed_of_checked (by omega) (checkTag_of_eq fits same)
    · rw [parse_primary_of_other fits same]
      obtain ⟨sameToo, rfl⟩ : tagAt cursor = 20 ∧ Body.message = body := by
        simpa [body?, same] using accepted
      exact readFramed_of_checked (by omega) (checkTag_of_eq fits sameToo)

theorem parse_of_wrongTag {tag : MessageTag} (tagged : strategy.expected? = some tag)
    (fits : 5 ≤ cursor.remaining) (refused : strategy.body? (tagAt cursor) = none) :
    strategy.parse cursor = (.error (.unexpectedTag tag (tagAt cursor)), cursor) := by
  cases strategy with
  | state layout =>
    cases tagged
    have other : tagAt cursor ≠ 16 := by simpa [body?] using refused
    exact parseState_of_unchecked (by omega) (checkTag_of_ne fits other)
  | realtime layout => cases tagged
  | message =>
    cases tagged
    have other : tagAt cursor ≠ 20 := by simpa [body?] using refused
    exact parseMessage_of_unchecked (by omega) (checkTag_of_ne fits other)
  | primary layout =>
    cases tagged
    obtain ⟨other, otherToo⟩ : tagAt cursor ≠ 16 ∧ tagAt cursor ≠ 20 := by
      constructor <;> intro same <;> simp [body?, same] at refused
    rw [parse_primary_of_other fits other]
    exact parseMessage_of_unchecked (by omega) (checkTag_of_ne fits otherToo)

theorem inside_of_body {tag : UInt8} {body : Body} (accepted : strategy.body? tag = some body) :
    Inside body.decoder := by
  have state (layout : StateLayout) : Inside (Body.state layout).decoder :=
    (StateSnapshot.inside_decode layout).map _
  have message : Inside Body.message.decoder := RobotMessage.inside.map _
  cases strategy with
  | state layout =>
    cases (Option.ite_none_right_eq_some.mp accepted).2
    exact state layout
  | realtime layout =>
    cases accepted
    exact (RealtimeSample.inside layout).map _
  | message =>
    cases (Option.ite_none_right_eq_some.mp accepted).2
    exact message
  | primary layout =>
    rw [body?] at accepted
    split at accepted
    · cases accepted
      exact state layout
    · cases (Option.ite_none_right_eq_some.mp accepted).2
      exact message

/-- Either the cursor stays, or it moves over one frame whose body is read. -/
theorem parse_cases (strategy : Strategy) (cursor : Cursor) :
    (∃ fault, strategy.parse cursor = (.error fault, cursor) ∧
        ∀ kind start stop, fault ≠ .malformed kind (.reversedRange start stop)) ∨
      ∃ body, strategy.body? (tagAt cursor) = some body ∧ strategy.header ≤ declaredAt cursor ∧
        ∃ fits, strategy.parse cursor =
          (body.read (declaredAt cursor).toNat
              ((cursor.ahead.take (declaredAt cursor).toNat).drop strategy.header),
            cursor.advance (declaredAt cursor).toNat fits) := by
  rcases Nat.lt_or_ge cursor.remaining 4 with short | fourFit
  · exact .inl ⟨_, parse_of_short short, nofun⟩
  rcases Nat.lt_or_ge cursor.remaining strategy.header with short | fits
  · have tagged : strategy.header = 5 := by
      rcases strategy.header_cases with four | five
      · omega
      · exact five
    exact .inl ⟨_, parse_of_noTag tagged (by omega), nofun⟩
  cases accepted : strategy.body? (tagAt cursor) with
  | none =>
    cases tagged : strategy.expected? with
    | none => cases strategy <;> simp [expected?, body?] at tagged accepted
    | some tag =>
      have five : 5 ≤ cursor.remaining := by simpa [header, tagged] using fits
      exact .inl ⟨_, parse_of_wrongTag tagged five accepted, nofun⟩
  | some body =>
    have read := parse_of_body fits accepted
    by_cases small : declaredAt cursor < strategy.header
    · rw [if_pos small] at read
      exact .inl ⟨_, read, by simp⟩
    rw [if_neg small] at read
    by_cases enough : (declaredAt cursor).toNat ≤ cursor.remaining
    · rw [dif_pos enough] at read
      exact .inr ⟨body, rfl, by omega, enough, read⟩
    · rw [dif_neg enough] at read
      exact .inl ⟨_, read, nofun⟩

theorem parse_inside (strategy : Strategy) (cursor : Cursor) :
    (strategy.parse cursor).2.bytes = cursor.bytes ∧
      cursor.position ≤ (strategy.parse cursor).2.position := by
  rcases parse_cases strategy cursor with ⟨fault, stays, -⟩ | ⟨body, -, -, fits, moves⟩
  · rw [stays]
    exact ⟨rfl, Nat.le_refl _⟩
  · rw [moves]
    exact ⟨rfl, Nat.le_add_right _ _⟩

theorem parse_inRange (strategy : Strategy) (cursor : Cursor) (kind : BodyKind) (start stop : Nat) :
    (strategy.parse cursor).1 ≠ .error (.malformed kind (.reversedRange start stop)) := by
  rcases parse_cases strategy cursor with ⟨fault, stays, other⟩ | ⟨body, accepted, -, _, moves⟩
  · rw [stays]
    intro equal
    exact other kind start stop (Except.error.inj equal)
  · rw [moves, Body.read]
    have inRange := (inside_of_body accepted).inRange
    generalize (cursor.ahead.take _).drop _ = bytes
    have inRange := inRange (Cursor.ofBytes bytes) start stop
    generalize (Decoder.run _ _).1 = outcome at inRange ⊢
    cases outcome with
    | ok payload => nofun
    | error fault =>
      intro equal
      cases equal
      exact inRange rfl

end Strategy

/-- Every strategy follows the rules of framing at every cursor. -/
theorem framing_of_parse (strategy : Strategy) (cursor : Cursor) : Framing strategy cursor := by
  have look := peekAt_tag cursor
  constructor
  · exact Strategy.parse_of_short
  · exact Strategy.parse_of_noTag
  · intro tag tagged fits refused
    exact Strategy.parse_of_wrongTag tagged fits refused
  · intro body fits accepted small
    rw [Strategy.parse_of_body fits accepted, if_pos small]
  · intro body fits accepted covers beyond
    rw [Strategy.parse_of_body fits accepted, if_neg (by omega), dif_neg (by omega)]
  · intro body fits accepted covers enough
    rw [Strategy.parse_of_body fits accepted, if_neg (by omega), dif_pos enough]
  · rintro layout rfl fits
    constructor
    · split
      · exact Strategy.parse_primary_of_state fits ‹_›
      · exact Strategy.parse_primary_of_other fits ‹_›
    · intro other otherToo
      exact Strategy.parse_of_wrongTag rfl fits (by simp [Strategy.body?, other, otherToo])
  · obtain ⟨same, forward⟩ := Strategy.parse_inside strategy cursor
    refine ⟨peek_length, fun fits => ?_, same, forward, ?_⟩
    · exact look.trans (if_pos fits)
    · rw [← same]
      exact (strategy.parse cursor).2.position_le
  · intro start stop
    refine ⟨?_, fun kind => Strategy.parse_inRange strategy cursor kind start stop,
      fun tag body accepted => Strategy.inside_of_body accepted⟩
    change cursor.peekAt UInt8 (UInt64.ofNat lengthSize) ≠ _
    rw [look]
    split <;> nofun

end ArmLink.Telemetry
