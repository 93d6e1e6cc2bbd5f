import ArmLink.Link.PacketStream
import ArmLink.Proofs.Telemetry.Framing

/-!
Packets at the front of bytes.  A packet declares its own length, so bytes fall into packets in one
way only (`split_of_flatten`), and a look at the pending bytes of a stream hands out the first of
them, or waits for more bytes, or refuses a length that no packet has (`takePacket_cases`).
-/

namespace ArmLink.Link

open Telemetry Wire

/-- A length that no packet has. -/
def IsRefused (length : Int) : Prop := length < 4 ∨ 65536 < length

instance (length : Int) : Decidable (IsRefused length) :=
  inferInstanceAs (Decidable (length < 4 ∨ 65536 < length))

/-- The length that bytes declare at their front. -/
def declaredBy (bytes : List UInt8) : Int := declaredAt (Cursor.ofBytes bytes)

/-- Bytes that are a packet: they declare their own number. -/
structure IsPacket (bytes : List UInt8) : Prop where
  length_ge : 4 ≤ bytes.length
  length_le : bytes.length ≤ 65536
  declared : declaredBy bytes = bytes.length

def NoneInFront (bytes : List UInt8) : Prop := ∀ packet, IsPacket packet → ¬ packet <+: bytes

/-- The pending bytes declare a length that no packet has. -/
def PacketStream.Refused (stream : PacketStream) : Prop :=
  4 ≤ stream.pending.length ∧ IsRefused (declaredBy stream.pending)

variable {stream next : PacketStream} {packet rest bytes : List UInt8}
  {packets : List (List UInt8)}

/-! ### Packets in front of bytes -/

theorem declaredBy_append (rest : List UInt8) (fits : 4 ≤ bytes.length) :
    declaredBy (bytes ++ rest) = declaredBy bytes := by
  have front : (bytes ++ rest).take lengthSize = bytes.take lengthSize :=
    List.take_append_of_le_length fits
  simp only [declaredBy, declaredAt, Cursor.ofBytes_ahead, front]

theorem IsPacket.eq_of_append {other rest' : List UInt8} (one : IsPacket packet)
    (two : IsPacket other) (same : packet ++ rest = other ++ rest') :
    packet = other ∧ rest = rest' := by
  have declared := congrArg declaredBy same
  rw [declaredBy_append rest one.length_ge, declaredBy_append rest' two.length_ge, one.declared,
    two.declared] at declared
  exact List.append_inj same (by omega)

theorem noneInFront_of_refused (refused : IsRefused (declaredBy bytes)) : NoneInFront bytes := by
  rintro packet whole ⟨rest, rfl⟩
  rw [declaredBy_append rest whole.length_ge, whole.declared, IsRefused] at refused
  have := whole.length_ge
  have := whole.length_le
  omega

/-- Bytes fall into packets in one way only. -/
theorem split_of_flatten {got : List (List UInt8)} (allGot : ∀ packet ∈ got, IsPacket packet)
    (all : ∀ packet ∈ packets, IsPacket packet) (none : NoneInFront rest)
    (same : got.flatten ++ bytes = packets.flatten ++ rest) :
    ∃ more, packets = got ++ more ∧ bytes = more.flatten ++ rest := by
  induction got generalizing packets with
  | nil => exact ⟨packets, rfl, same⟩
  | cons first later ih =>
    obtain ⟨whole, laterWhole⟩ := List.forall_mem_cons.mp allGot
    rw [List.flatten_cons, List.append_assoc] at same
    cases packets with
    | nil => exact absurd ⟨_, same⟩ (none first whole)
    | cons packet packets =>
      obtain ⟨packetWhole, packetsWhole⟩ := List.forall_mem_cons.mp all
      rw [List.flatten_cons, List.append_assoc] at same
      obtain ⟨rfl, sameBehind⟩ := whole.eq_of_append packetWhole same
      obtain ⟨more, rfl, behind⟩ := ih laterWhole packetsWhole sameBehind
      exact ⟨more, rfl, behind⟩

/-! ### Looking at the pending bytes -/

theorem takePacket_of_short (short : stream.pending.length < 4) : stream.takePacket = .ok none := by
  have unread : (Cursor.ofBytes stream.pending).peek Int32 =
      .error (.insufficientData 4 stream.pending.length) := by
    change ((Cursor.ofBytes stream.pending).next 4).map _ = _
    rw [Cursor.next_of_lt short]
    rfl
  rw [PacketStream.takePacket, unread]

theorem takePacket_of_le (fits : 4 ≤ stream.pending.length) :
    stream.takePacket =
      if IsRefused (declaredBy stream.pending) then
        .error (.invalidPacketLength (declaredBy stream.pending))
      else if stream.pending.length < (declaredBy stream.pending).toNat then .ok none
      else .ok (some (stream.pending.take (declaredBy stream.pending).toNat,
        ⟨stream.pending.drop (declaredBy stream.pending).toNat⟩)) := by
  have look : (Cursor.ofBytes stream.pending).peek Int32 = .ok _ := peek_length fits
  simp only [PacketStream.takePacket, look]
  rfl

theorem takePacket_of_refused (refused : stream.Refused) :
    stream.takePacket = .error (.invalidPacketLength (declaredBy stream.pending)) := by
  rw [takePacket_of_le refused.1, if_pos refused.2]

/-- A look hands out a packet from the front of the pending bytes, or waits for more of them, or
refuses the declared length. -/
theorem takePacket_cases (stream : PacketStream) :
    (∃ packet next, stream.takePacket = .ok (some (packet, next)) ∧ IsPacket packet ∧
        stream.pending = packet ++ next.pending) ∨
      (stream.takePacket = .ok none ∧ NoneInFront stream.pending) ∨
      (stream.takePacket = .error (.invalidPacketLength (declaredBy stream.pending)) ∧
        stream.Refused) := by
  rcases Nat.lt_or_ge stream.pending.length 4 with short | fits
  · refine .inr (.inl ⟨takePacket_of_short short, fun packet whole front => ?_⟩)
    have := whole.length_ge
    have := front.length_le
    omega
  have look := takePacket_of_le fits
  by_cases refused : IsRefused (declaredBy stream.pending)
  · rw [if_pos refused] at look
    exact .inr (.inr ⟨look, fits, refused⟩)
  rw [if_neg refused] at look
  have inRange : 4 ≤ declaredBy stream.pending ∧ declaredBy stream.pending ≤ 65536 := by
    unfold IsRefused at refused
    omega
  by_cases missing : stream.pending.length < (declaredBy stream.pending).toNat
  · rw [if_pos missing] at look
    refine .inr (.inl ⟨look, fun packet whole front => ?_⟩)
    -- A whole packet in front would have declared its own length.
    obtain ⟨rest, same⟩ := front
    have declared := whole.declared
    rw [← declaredBy_append rest whole.length_ge, same] at declared
    have : packet.length ≤ stream.pending.length := by simp [← same]
    omega
  · rw [if_neg missing] at look
    refine .inl ⟨_, _, look, ?_, (List.take_append_drop _ _).symm⟩
    have length : (stream.pending.take (declaredBy stream.pending).toNat).length =
        (declaredBy stream.pending).toNat := by
      rw [List.length_take]
      omega
    refine ⟨by omega, by omega, ?_⟩
    have enough : 4 ≤ (stream.pending.take (declaredBy stream.pending).toNat).length := by omega
    have declared := declaredBy_append (stream.pending.drop (declaredBy stream.pending).toNat) enough
    rw [List.take_append_drop] at declared
    omega

theorem isPacket_of_takePacket (found : stream.takePacket = .ok (some (packet, next))) :
    IsPacket packet ∧ stream.pending = packet ++ next.pending := by
  obtain ⟨_, _, taken, whole, front⟩ | ⟨nothing, -⟩ | ⟨refused, -⟩ := takePacket_cases stream
  · obtain ⟨rfl, rfl⟩ : packet = _ ∧ next = _ := by simpa [found] using taken
    exact ⟨whole, front⟩
  · rw [found] at nothing
    cases nothing
  · rw [found] at refused
    cases refused

theorem noneInFront_of_takePacket (nothing : stream.takePacket = .ok none) :
    NoneInFront stream.pending := by
  obtain ⟨_, _, taken, -⟩ | ⟨-, none⟩ | ⟨refused, -⟩ := takePacket_cases stream
  · rw [nothing] at taken
    cases taken
  · exact none
  · rw [nothing] at refused
    cases refused

theorem refused_of_takePacket {fault : Fault} (failed : stream.takePacket = .error fault) :
    stream.Refused ∧ fault = .invalidPacketLength (declaredBy stream.pending) := by
  obtain ⟨_, _, taken, -⟩ | ⟨nothing, -⟩ | ⟨declared, refused⟩ := takePacket_cases stream
  · rw [failed] at taken
    cases taken
  · rw [failed] at nothing
    cases nothing
  · rw [failed] at declared
    exact ⟨refused, Except.error.inj declared⟩

end ArmLink.Link
