import ArmLink.Link.Fault

/-!
Cutting a stream of bytes into packets.  A packet begins with its own length, a signed 32-bit number
that counts itself; reads bring the bytes in pieces of any size.  What was read and not yet handed
out is kept in `pending`, so a read that runs out of time loses nothing.
-/

namespace ArmLink.Link

open Telemetry Wire

/-- The longest packet accepted, in bytes; a longer one means that the stream is out of step. -/
def maxPacketSize : Nat := 65536

/-- The most bytes that one read can bring. -/
def readSize : Nat := 4096

/-- What one read from the transport can bring. -/
inductive ReadOutcome where
  /-- Some bytes; none at all means that the peer has closed the connection. -/
  | received (bytes : List UInt8)
  | timedOut
  /-- The read was disturbed and is simply made again. -/
  | disturbed
  | failed (fault : TransportFault)
deriving DecidableEq, Repr

/-- A stream of packets under way. -/
structure PacketStream where
  /-- Bytes read and not yet handed out, oldest first. -/
  pending : List UInt8 := []
deriving DecidableEq, Repr

namespace PacketStream

/-- The first packet of the pending bytes, if it is there as a whole.  A length that no packet has
is refused, and the bytes stay. -/
def takePacket (stream : PacketStream) : Except Fault (Option (List UInt8 × PacketStream)) :=
  match (Cursor.ofBytes stream.pending).peek Int32 with
  | .error _ => .ok none
  | .ok declared =>
    let length := declared.toInt
    if length < lengthSize ∨ (maxPacketSize : Int) < length then
      .error (.invalidPacketLength length)
    else if stream.pending.length < length.toNat then
      .ok none
    else
      .ok (some (stream.pending.take length.toNat, ⟨stream.pending.drop length.toNat⟩))

/-- Receives one packet: hands out a pending one, or reads until there is one.  When the reads are
used up, nothing more comes in time.  Answers the reception, the stream, and the reads not made. -/
def receive (stream : PacketStream) (reads : List ReadOutcome) :
    Reception × PacketStream × List ReadOutcome :=
  match stream.takePacket with
  | .error fault => (.error fault, stream, reads)
  | .ok (some (packet, stream)) => (.ok packet, stream, reads)
  | .ok none =>
    match reads with
    | [] => (.error .timeout, stream, [])
    | .received [] :: reads => (.error .closed, stream, reads)
    | .received bytes :: reads => receive ⟨stream.pending ++ bytes⟩ reads
    | .timedOut :: reads => (.error .timeout, stream, reads)
    | .disturbed :: reads => receive stream reads
    | .failed fault :: reads => (.error (.transport fault), stream, reads)
termination_by reads.length

/-- The outcomes of so many receptions, one after the other. -/
def receptions (stream : PacketStream) (reads : List ReadOutcome) : Nat → List Reception
  | 0 => []
  | count + 1 =>
    let (reception, stream, reads) := stream.receive reads
    reception :: stream.receptions reads count

end PacketStream

/-- A number of receptions after which the reads are used up: every packet takes four bytes, and
every other reception a read of its own. -/
def receptionsIn (reads : List ReadOutcome) : Nat :=
  let bytes := reads.foldl (fun sum read =>
    match read with
    | .received bytes => sum + bytes.length
    | _ => sum) 0
  bytes / lengthSize + reads.length + 1

/-- The reads by which bytes arrive that are all there already. -/
def readsOf (bytes : List UInt8) : List ReadOutcome :=
  if bytes.isEmpty then []
  else .received (bytes.take readSize) :: readsOf (bytes.drop readSize)
termination_by bytes.length
decreasing_by
  simp only [List.isEmpty_iff] at *
  have : 0 < bytes.length := List.length_pos_iff.mpr ‹_›
  simp [readSize]
  omega

end ArmLink.Link
