import ArmLink.Link.Robot
import ArmLink.Proofs.Link.Packets

/-!
Reassembly: what a session receives, given the reads it makes.

The bytes of a session are those of its reads in order, and at every moment the packets handed out
and the pending bytes are the bytes read so far (`Moment.conserved`).  So it does not matter how the
reads cut the packets, nor where a read is disturbed or runs out of time: what is handed out is the
beginning of the packets, and `potential` bounds the receptions until it is all of them.
-/

namespace ArmLink.Link

open Firmware Telemetry Wire

/-! ### Sessions -/

/-- The bytes that a read brings. -/
def ReadOutcome.bytes : ReadOutcome → List UInt8
  | .received bytes => bytes
  | .timedOut | .disturbed | .failed _ => []

def bytesOf (reads : List ReadOutcome) : List UInt8 := reads.flatMap ReadOutcome.bytes

/-- The packets among receptions, in order. -/
def packetsOf (receptions : List Reception) : List (List UInt8) :=
  receptions.filterMap Except.toOption

namespace PacketStream

/-- A stream and the reads not made after so many receptions. -/
def after (stream : PacketStream) (reads : List ReadOutcome) : Nat → PacketStream × List ReadOutcome
  | 0 => (stream, reads)
  | count + 1 => (stream.receive reads).2.1.after (stream.receive reads).2.2 count

/-- The reception that follows so many others. -/
def receptionAt (stream : PacketStream) (reads : List ReadOutcome) (index : Nat) : Reception :=
  ((stream.after reads index).1.receive (stream.after reads index).2).1

/-- Nothing is left to be had: every read is made and no packet is whole, or a length is refused. -/
def Settled (stream : PacketStream) (left : List ReadOutcome) : Prop :=
  (left = [] ∧ stream.takePacket = .ok none) ∨ stream.Refused

/-- A bound on the receptions until a stream is settled. -/
def potential (stream : PacketStream) (left : List ReadOutcome) : Nat :=
  (stream.pending.length + (bytesOf left).length) / 4 + left.length

end PacketStream

/-- The moments of a session that begins with some reads: the packets handed out so far, the stream,
and the reads not made.  Between two moments there is one look at the pending bytes. -/
inductive Moment (reads : List ReadOutcome) :
    List (List UInt8) → PacketStream → List ReadOutcome → Prop where
  | begin : Moment reads [] {} reads
  | handOut {packets : List (List UInt8)} {stream next : PacketStream} {left : List ReadOutcome}
      {packet : List UInt8} (before : Moment reads packets stream left)
      (found : stream.takePacket = .ok (some (packet, next))) :
      Moment reads (packets ++ [packet]) next left
  | read {packets : List (List UInt8)} {stream : PacketStream} {left : List ReadOutcome}
      {read : ReadOutcome} (before : Moment reads packets stream (read :: left))
      (nothing : stream.takePacket = .ok none) :
      Moment reads packets ⟨stream.pending ++ read.bytes⟩ left

variable {count : Nat} {stream next : PacketStream} {packet rest bytes : List UInt8}
  {packets : List (List UInt8)} {reads left : List ReadOutcome}

/-! ### One reception -/

@[simp]
theorem packetsOf_error (fault : Fault) (later : List Reception) :
    packetsOf (.error fault :: later) = packetsOf later := rfl

@[simp]
theorem packetsOf_nil : packetsOf [] = [] := rfl

@[simp]
theorem packetsOf_append (earlier later : List Reception) :
    packetsOf (earlier ++ later) = packetsOf earlier ++ packetsOf later := List.filterMap_append

theorem Moment.readNothing {read : ReadOutcome} (before : Moment reads packets stream (read :: left))
    (nothing : stream.takePacket = .ok none) (empty : read.bytes = []) :
    Moment reads packets stream left := by
  have after := before.read nothing
  rw [empty, List.append_nil] at after
  exact after

/-- A reception leads from moment to moment, and what it hands out is added to the packets. -/
theorem Moment.receive (now : Moment reads packets stream left) :
    Moment reads (packets ++ packetsOf [(stream.receive left).1]) (stream.receive left).2.1
      (stream.receive left).2.2 := by
  fun_induction PacketStream.receive stream left with
  | case1 stream left fault refused => simpa using now
  | case2 stream left packet next found => exact now.handOut found
  | case3 stream nothing => simpa using now
  | case4 stream nothing left => simpa using now.readNothing nothing rfl
  | case5 stream nothing bytes left _ ih => exact ih (now.read nothing)
  | case6 stream nothing left => simpa using now.readNothing nothing rfl
  | case7 stream nothing left ih => exact ih (now.readNothing nothing rfl)
  | case8 stream nothing fault left => simpa using now.readNothing nothing rfl

/-- Bytes are neither lost nor made up nor put out of order. -/
theorem Moment.conserved (now : Moment reads packets stream left) :
    (∀ packet ∈ packets, IsPacket packet) ∧
      ∃ made, reads = made ++ left ∧ packets.flatten ++ stream.pending = bytesOf made := by
  induction now with
  | begin => exact ⟨nofun, [], rfl, rfl⟩
  | @handOut packets stream next left packet before found ih =>
    obtain ⟨all, made, split, same⟩ := ih
    obtain ⟨whole, front⟩ := isPacket_of_takePacket found
    refine ⟨by simpa [or_imp, forall_and] using ⟨all, whole⟩, made, split, ?_⟩
    rw [← same, front]
    simp
  | @read packets stream left read before nothing ih =>
    obtain ⟨all, made, split, same⟩ := ih
    refine ⟨all, made ++ [read], by simp [split], ?_⟩
    rw [← List.append_assoc, same]
    simp [bytesOf]

/-- A reception that fails leaves no whole packet in front; either more bytes are needed, or the
length in front is refused. -/
theorem takePacket_of_receive {fault : Fault} (failed : (stream.receive left).1 = .error fault) :
    ((stream.receive left).2.1.takePacket = .ok none ∧
        ∀ length, fault ≠ .invalidPacketLength length) ∨
      ((stream.receive left).2.1.Refused ∧
        fault = .invalidPacketLength (declaredBy (stream.receive left).2.1.pending)) := by
  fun_induction PacketStream.receive stream left with
  | case1 stream left other refused =>
    cases failed
    exact .inr (refused_of_takePacket refused)
  | case2 stream left packet next found => cases failed
  | case3 stream nothing =>
    cases failed
    exact .inl ⟨nothing, nofun⟩
  | case4 stream nothing left =>
    cases failed
    exact .inl ⟨nothing, nofun⟩
  | case5 stream nothing bytes left _ ih => exact ih failed
  | case6 stream nothing left =>
    cases failed
    exact .inl ⟨nothing, nofun⟩
  | case7 stream nothing left ih => exact ih failed
  | case8 stream nothing fault left =>
    cases failed
    exact .inl ⟨nothing, nofun⟩

/-! ### A refused length -/

theorem receive_of_refused (refused : stream.Refused) :
    stream.receive left =
      (.error (.invalidPacketLength (declaredBy stream.pending)), stream, left) := by
  rw [PacketStream.receive.eq_def, takePacket_of_refused refused]

theorem receptions_of_refused (refused : stream.Refused) (count : Nat) :
    stream.receptions left count =
      List.replicate count (.error (.invalidPacketLength (declaredBy stream.pending))) := by
  induction count with
  | zero => rfl
  | succ count ih =>
    rw [PacketStream.receptions, receive_of_refused refused, List.replicate_succ]
    exact congrArg _ ih

theorem after_of_refused (refused : stream.Refused) (count : Nat) :
    stream.after left count = (stream, left) := by
  induction count with
  | zero => rfl
  | succ count ih => rw [PacketStream.after, receive_of_refused refused, ih]

/-! ### Until nothing is left -/

theorem receive_of_settled (settled : stream.Settled left) :
    (stream.receive left).2 = (stream, left) := by
  rcases settled with ⟨rfl, nothing⟩ | refused
  · rw [PacketStream.receive.eq_def, nothing]
  · rw [receive_of_refused refused]

theorem after_of_settled (settled : stream.Settled left) (count : Nat) :
    stream.after left count = (stream, left) := by
  induction count with
  | zero => rfl
  | succ count ih => rw [PacketStream.after, receive_of_settled settled, ih]

theorem potential_cons (stream : PacketStream) (read : ReadOutcome) (left : List ReadOutcome) :
    stream.potential (read :: left) =
      PacketStream.potential ⟨stream.pending ++ read.bytes⟩ left + 1 := by
  simp only [PacketStream.potential, bytesOf, List.flatMap_cons, List.length_append,
    List.length_cons]
  omega

theorem potential_of_empty (stream : PacketStream) (left : List ReadOutcome) {read : ReadOutcome}
    (empty : read.bytes = []) : stream.potential left < stream.potential (read :: left) := by
  rw [potential_cons, empty, List.append_nil]
  exact Nat.lt_succ_self _

/-- Every reception brings a stream that is not settled nearer to that. -/
theorem potential_of_receive (stream : PacketStream) (left : List ReadOutcome) :
    (stream.receive left).2.1.potential (stream.receive left).2.2 ≤ stream.potential left ∧
      (stream.Settled left ∨
        (stream.receive left).2.1.potential (stream.receive left).2.2 < stream.potential left) := by
  fun_induction PacketStream.receive stream left with
  | case1 stream left fault failed =>
    exact ⟨Nat.le_refl _, .inl (.inr (refused_of_takePacket failed).1)⟩
  | case2 stream left packet next found =>
    obtain ⟨whole, front⟩ := isPacket_of_takePacket found
    have enough := whole.length_ge
    have lengths := congrArg List.length front
    rw [List.length_append] at lengths
    simp only [PacketStream.potential]
    omega
  | case3 stream nothing => exact ⟨Nat.le_refl _, .inl (.inl ⟨rfl, nothing⟩)⟩
  | case4 stream nothing left =>
    have less : _ < stream.potential (.received [] :: left) := potential_of_empty stream left rfl
    exact ⟨Nat.le_of_lt less, .inr less⟩
  | case5 stream nothing bytes left _ ih =>
    have less : stream.potential (.received bytes :: left) =
        PacketStream.potential ⟨stream.pending ++ bytes⟩ left + 1 := potential_cons ..
    omega
  | case6 stream nothing left =>
    have less : _ < stream.potential (.timedOut :: left) := potential_of_empty stream left rfl
    exact ⟨Nat.le_of_lt less, .inr less⟩
  | case7 stream nothing left ih =>
    have less : _ < stream.potential (.disturbed :: left) := potential_of_empty stream left rfl
    omega
  | case8 stream nothing fault left =>
    have less : _ < stream.potential (.failed fault :: left) := potential_of_empty stream left rfl
    exact ⟨Nat.le_of_lt less, .inr less⟩

theorem settled_after (enough : stream.potential left ≤ count) :
    (stream.after left count).1.Settled (stream.after left count).2 := by
  induction count generalizing stream left with
  | zero =>
    obtain ⟨-, settled | less⟩ := potential_of_receive stream left
    · exact settled
    · omega
  | succ count ih =>
    obtain ⟨-, settled | less⟩ := potential_of_receive stream left
    · rw [after_of_settled settled]
      exact settled
    · exact ih (by omega)

/-! ### Many receptions -/

theorem receptions_add (stream : PacketStream) (left : List ReadOutcome) (first more : Nat) :
    stream.receptions left (first + more) =
      stream.receptions left first ++
        (stream.after left first).1.receptions (stream.after left first).2 more := by
  induction first generalizing stream left with
  | zero => rw [Nat.zero_add]; rfl
  | succ first ih =>
    rw [Nat.succ_add]
    exact congrArg _ (ih ..)

theorem after_add (stream : PacketStream) (left : List ReadOutcome) (first more : Nat) :
    stream.after left (first + more) =
      (stream.after left first).1.after (stream.after left first).2 more := by
  induction first generalizing stream left with
  | zero => rw [Nat.zero_add]; rfl
  | succ first ih => rw [Nat.succ_add, PacketStream.after, ih]; rfl

theorem receptions_succ (stream : PacketStream) (left : List ReadOutcome) (count : Nat) :
    stream.receptions left (count + 1) =
      stream.receptions left count ++ [stream.receptionAt left count] :=
  receptions_add stream left count 1

theorem after_succ (stream : PacketStream) (left : List ReadOutcome) (count : Nat) :
    stream.after left (count + 1) =
      ((stream.after left count).1.receive (stream.after left count).2).2 :=
  after_add stream left count 1

theorem moment_after (reads : List ReadOutcome) (count : Nat) :
    Moment reads (packetsOf (PacketStream.receptions {} reads count))
      (PacketStream.after {} reads count).1 (PacketStream.after {} reads count).2 := by
  induction count with
  | zero => exact .begin
  | succ count ih =>
    rw [receptions_succ, packetsOf_append, after_add]
    exact ih.receive

theorem foldl_length {step : Nat → ReadOutcome → Nat}
    (adds : ∀ sum read, step sum read = sum + read.bytes.length) (sum : Nat) :
    reads.foldl step sum = sum + (bytesOf reads).length := by
  induction reads generalizing sum with
  | nil => rfl
  | cons read reads ih => rw [List.foldl_cons, ih, adds, bytesOf, bytesOf, List.flatMap_cons,
      List.length_append, Nat.add_assoc]

theorem receptionsIn_eq (reads : List ReadOutcome) :
    receptionsIn reads = PacketStream.potential {} reads + 1 := by
  unfold receptionsIn
  rw [foldl_length (by rintro sum (_ | _ | _ | _) <;> rfl), PacketStream.potential]
  simp [lengthSize]

/-! ### A stream of whole packets -/

theorem Moment.flatten_append (now : Moment reads packets stream left) :
    packets.flatten ++ (stream.pending ++ bytesOf left) = bytesOf reads := by
  obtain ⟨-, made, rfl, same⟩ := now.conserved
  rw [← List.append_assoc, same]
  exact List.flatMap_append.symm

theorem Moment.split {got : List (List UInt8)} (now : Moment reads got stream left)
    (all : ∀ packet ∈ packets, IsPacket packet) (none : NoneInFront rest)
    (cut : bytesOf reads = packets.flatten ++ rest) :
    ∃ more, packets = got ++ more ∧ stream.pending ++ bytesOf left = more.flatten ++ rest :=
  split_of_flatten now.conserved.1 all none (now.flatten_append.trans cut)

/-- A moment at which nothing is left to be had has seen all packets. -/
theorem Moment.all_of_settled {got : List (List UInt8)} (now : Moment reads got stream left)
    (all : ∀ packet ∈ packets, IsPacket packet) (none : NoneInFront rest)
    (cut : bytesOf reads = packets.flatten ++ rest) (settled : stream.Settled left) :
    got = packets ∧ stream.pending ++ bytesOf left = rest := by
  obtain ⟨more, rfl, behind⟩ := now.split all none cut
  cases more with
  | nil => exact ⟨(List.append_nil _).symm, behind⟩
  | cons packet more =>
    exfalso
    have whole : IsPacket packet := all packet (by simp)
    rw [List.flatten_cons, List.append_assoc] at behind
    rcases settled with ⟨rfl, nothing⟩ | ⟨fits, refused⟩
    · exact noneInFront_of_takePacket nothing packet whole ⟨_, by simpa [bytesOf] using behind.symm⟩
    · rw [← declaredBy_append (bytesOf left) fits] at refused
      exact noneInFront_of_refused refused packet whole ⟨_, behind.symm⟩

/-- What is handed out is the packets of the stream, in order, and at last all of them. -/
theorem packetsOf_receptions (all : ∀ packet ∈ packets, IsPacket packet) (none : NoneInFront rest)
    (cut : bytesOf reads = packets.flatten ++ rest) (count : Nat) :
    packetsOf (PacketStream.receptions {} reads count) <+: packets ∧
      (receptionsIn reads ≤ count → packetsOf (PacketStream.receptions {} reads count) = packets) := by
  have now := moment_after reads count
  obtain ⟨more, split, -⟩ := now.split all none cut
  refine ⟨⟨more, split.symm⟩, fun enough => ?_⟩
  rw [receptionsIn_eq] at enough
  exact (now.all_of_settled all none cut (settled_after (by omega))).1

/-- When nothing came in time, or the peer has closed, every packet that has arrived as a whole was
handed out before. -/
theorem quiet_of_receive {fault : Fault} (now : Moment reads packets stream left)
    (quiet : (stream.receive left).1 = .error fault)
    (other : ∀ length, fault ≠ .invalidPacketLength length) :
    ∃ made, reads = made ++ (stream.receive left).2.2 ∧
      (stream.receive left).2.1.takePacket = .ok none ∧
        ∀ whole : List (List UInt8), (∀ packet ∈ whole, IsPacket packet) →
          whole.flatten <+: bytesOf made → whole <+: packets := by
  have next := now.receive
  rw [quiet, packetsOf_error, packetsOf_nil, List.append_nil] at next
  obtain ⟨all, made, split, same⟩ := next.conserved
  rcases takePacket_of_receive quiet with ⟨nothing, -⟩ | ⟨-, invalid⟩
  · refine ⟨made, split, nothing, fun whole allWhole ⟨rest, front⟩ => ?_⟩
    obtain ⟨more, rfl, -⟩ := split_of_flatten allWhole all (noneInFront_of_takePacket nothing)
      (front.trans same.symm)
    exact List.prefix_append _ _
  · exact absurd invalid (other _)

theorem refused_after {index : Nat} {length : Int}
    (invalid : stream.receptionAt left index = .error (.invalidPacketLength length)) :
    (stream.after left (index + 1)).1.Refused ∧
      length = declaredBy (stream.after left (index + 1)).1.pending := by
  rw [after_succ]
  rcases takePacket_of_receive invalid with ⟨-, other⟩ | ⟨refused, declared⟩
  · exact absurd rfl (other length)
  · exact ⟨refused, Fault.invalidPacketLength.inj declared⟩

/-- A refusal is repeated for ever, and nothing more is read. -/
theorem refused_for_ever {index later : Nat} {length : Int}
    (invalid : stream.receptionAt left index = .error (.invalidPacketLength length))
    (behind : index < later) :
    stream.receptionAt left later = .error (.invalidPacketLength length) ∧
      stream.after left later = stream.after left (index + 1) := by
  obtain ⟨refused, rfl⟩ := refused_after invalid
  obtain ⟨more, rfl⟩ := Nat.exists_eq_add_of_le behind
  have same : stream.after left (index + 1 + more) = stream.after left (index + 1) := by
    rw [after_add, after_of_refused refused]
  refine ⟨?_, same⟩
  rw [PacketStream.receptionAt, same, receive_of_refused refused]

/-- Behind the packets of a stream there may be a length that no packet has.  It is reported as
declared, and not before every packet is handed out. -/
theorem refused_of_receptionAt (all : ∀ packet ∈ packets, IsPacket packet) (none : NoneInFront rest)
    (cut : bytesOf reads = packets.flatten ++ rest) {index : Nat} {length : Int}
    (invalid : PacketStream.receptionAt {} reads index = .error (.invalidPacketLength length)) :
    length = declaredBy rest ∧ packetsOf (PacketStream.receptions {} reads index) = packets := by
  obtain ⟨refused, rfl⟩ := refused_after invalid
  have now := moment_after reads (index + 1)
  obtain ⟨got, behind⟩ := now.all_of_settled all none cut (.inr refused)
  rw [receptions_succ, invalid, packetsOf_append, packetsOf_error, packetsOf_nil,
    List.append_nil] at got
  refine ⟨?_, got⟩
  rw [← behind, declaredBy_append _ refused.1]

theorem receptionAt_of_refused (all : ∀ packet ∈ packets, IsPacket packet) (fits : 4 ≤ rest.length)
    (refused : IsRefused (declaredBy rest)) (cut : bytesOf reads = packets.flatten ++ rest)
    {index : Nat} (enough : receptionsIn reads ≤ index + 1) :
    PacketStream.receptionAt {} reads index = .error (.invalidPacketLength (declaredBy rest)) := by
  have settled : (PacketStream.after {} reads index).1.Settled (PacketStream.after {} reads index).2 := by
    rw [receptionsIn_eq] at enough
    exact settled_after (by omega)
  obtain ⟨-, behind⟩ := (moment_after reads index).all_of_settled all
    (noneInFront_of_refused refused) cut settled
  rw [PacketStream.receptionAt]
  rcases settled with ⟨empty, nothing⟩ | stuck
  · rw [empty, bytesOf, List.flatMap_nil, List.append_nil] at behind
    rw [takePacket_of_refused (by rw [PacketStream.Refused, behind]; exact ⟨fits, refused⟩)] at nothing
    cases nothing
  · rw [receive_of_refused stuck, ← behind, declaredBy_append _ stuck.1]

/-! ### Parsing what was handed out -/

/-- No strategy asks for more bytes than a packet has. -/
theorem IsPacket.complete (whole : IsPacket packet) (tagged : 5 ≤ packet.length)
    (strategy : Strategy) (needed available : Nat) :
    strategy.parseBytes packet ≠ .error (.incomplete needed available) := by
  have remaining : (Cursor.ofBytes packet).remaining = packet.length := Cursor.ofBytes_remaining ..
  have declared : declaredAt (Cursor.ofBytes packet) = packet.length := whole.declared
  have header : strategy.header ≤ 5 := by rcases strategy.header_cases with four | five <;> omega
  have framing := framing_of_parse strategy (Cursor.ofBytes packet)
  change (strategy.parse (Cursor.ofBytes packet)).1 ≠ _
  cases accepted : strategy.body? (tagAt (Cursor.ofBytes packet)) with
  | none =>
    cases asked : strategy.expected? with
    | none => cases strategy <;> simp [Strategy.expected?, Strategy.body?] at asked accepted
    | some tag =>
      rw [framing.wrongTag tag asked (by omega) accepted]
      intro equal
      cases equal
  | some body =>
    rw [framing.whole body (by omega) accepted (by omega) (by omega), Body.read]
    generalize (Decoder.run _ _).1 = outcome
    cases outcome <;> (intro equal; cases equal)

/-! ### Handing the stream over -/

theorem detectLayouts_suffix (timeout elapsed : Duration) (arrivals : List TimedReception) :
    (detectLayouts timeout elapsed arrivals).2 <:+ arrivals := by
  induction arrivals generalizing elapsed with
  | nil => exact List.suffix_rfl
  | cons arrival later ih =>
    rw [detectLayouts]
    split
    · split
      · exact List.suffix_cons ..
      · exact (ih _).trans (List.suffix_cons ..)
    · exact List.suffix_rfl

/-- What finding out the firmware leaves of the arrivals. -/
def ConnectOptions.leftBy (options : ConnectOptions) (arrivals : List TimedReception) :
    List TimedReception :=
  match options.firmware with
  | some _ => arrivals
  | none => (detectLayouts options.versionTimeout .zero arrivals).2

theorem leftBy_suffix (options : ConnectOptions) (arrivals : List TimedReception) :
    options.leftBy arrivals <:+ arrivals := by
  rw [ConnectOptions.leftBy]
  split
  · exact List.suffix_rfl
  · exact detectLayouts_suffix ..

theorem script_of_start {ι : Type} {context : Context ι} {layouts : Layouts}
    {realtime script : List Reception} {keep : Bool} {worker : Worker}
    (kept : (Robot.start context layouts realtime (if keep then some script else none)).primary =
      some worker) :
    worker.script = script := by
  obtain ⟨found, isFound, rfl⟩ := Option.map_eq_some_iff.mp kept
  obtain ⟨-, same⟩ := Option.ite_none_right_eq_some.mp isFound
  exact (Option.some.inj same).symm

theorem script_of_connect {ι : Type} {options : ConnectOptions} {realtime : Endpoint}
    {robot : Robot ι} {worker : Worker}
    (connected : connect options (.ok reads) realtime = .ok robot)
    (kept : robot.primary = some worker) :
    worker.script = (options.leftBy ((PacketStream.receptions {} reads (receptionsIn reads)).map
      Reception.atOnce)).map (·.reception) := by
  have opened : Except.mapError Fault.transport (.ok reads : Endpoint) = .ok reads := rfl
  unfold connect at connected
  unfold ConnectOptions.leftBy
  simp only [opened, bind, Except.bind, pure, Except.pure] at connected
  cases given : options.firmware with
  | some firmware =>
    rw [given] at connected
    dsimp only at connected
    cases settled : resolveLayouts firmware with
    | error fault =>
      rw [settled] at connected
      cases connected
    | ok layouts =>
      rw [settled] at connected
      cases realtime with
      | error fault => cases connected
      | ok realtimeReads =>
        cases connected
        rw [script_of_start kept, List.map_map]
        exact (List.map_id' _).symm
  | none =>
    rw [given] at connected
    dsimp only at connected
    generalize detectLayouts _ _ _ = detected at connected ⊢
    obtain ⟨fault | layouts, unread⟩ := detected
    · cases connected
    · cases realtime with
      | error fault => cases connected
      | ok realtimeReads =>
        cases connected
        exact script_of_start kept

theorem length_receptions (stream : PacketStream) (left : List ReadOutcome) (count : Nat) :
    (stream.receptions left count).length = count := by
  induction count generalizing stream left with
  | zero => rfl
  | succ count ih => exact congrArg (· + 1) (ih ..)

/-- Handing the stream over loses nothing: finding out the firmware makes the first receptions, and
the link makes the following ones, from the stream as it stands then. -/
theorem handedOver_of_connect {ι : Type} {options : ConnectOptions} {realtime : Endpoint}
    {robot : Robot ι} {worker : Worker}
    (connected : connect options (.ok reads) realtime = .ok robot)
    (kept : robot.primary = some worker) :
    ∃ taken more, taken + more = receptionsIn reads ∧
      PacketStream.receptions {} reads taken ++ worker.script =
        PacketStream.receptions {} reads (receptionsIn reads) ∧
      worker.script = (PacketStream.after {} reads taken).1.receptions
        (PacketStream.after {} reads taken).2 more := by
  obtain ⟨taken, cut⟩ := leftBy_suffix options
    ((PacketStream.receptions {} reads (receptionsIn reads)).map Reception.atOnce)
  have whole := congrArg (List.map (·.reception)) cut
  rw [List.map_append, ← script_of_connect connected kept, List.map_map] at whole
  replace whole := whole.trans (List.map_id' _)
  have lengths := congrArg List.length whole
  rw [length_receptions, List.length_append, List.length_map] at lengths
  rw [← lengths, receptions_add] at whole
  obtain ⟨front, behind⟩ := List.append_inj whole (by rw [List.length_map, length_receptions])
  refine ⟨taken.length, worker.script.length, lengths, ?_, behind⟩
  rw [← lengths, receptions_add, ← behind]

/-! ### Reassembly -/

/-- What a session with some reads makes of them. -/
structure Reassembly (reads : List ReadOutcome) : Prop where
  /-- However the packets are cut into reads, and whatever comes between: they are handed out in
  order, and at last all of them. -/
  whole : ∀ packets, (∀ packet ∈ packets, IsPacket packet) → ∀ rest, NoneInFront rest →
    bytesOf reads = packets.flatten ++ rest → ∀ count,
      packetsOf (PacketStream.receptions {} reads count) <+: packets ∧
        (receptionsIn reads ≤ count →
          packetsOf (PacketStream.receptions {} reads count) = packets)
  /-- The packets handed out and the pending bytes are the bytes read so far. -/
  conserved : (∀ count, Moment reads (packetsOf (PacketStream.receptions {} reads count))
      (PacketStream.after {} reads count).1 (PacketStream.after {} reads count).2) ∧
    ∀ packets stream left, Moment reads packets stream left →
      ∃ made, reads = made ++ left ∧ packets.flatten ++ stream.pending = bytesOf made
  /-- Nothing in time, or a close, is answered only when each packet that is there as a whole was
  handed out before. -/
  quiet : ∀ count fault, PacketStream.receptionAt {} reads count = .error fault →
    fault = .timeout ∨ fault = .closed →
      ∃ made, reads = made ++ (PacketStream.after {} reads (count + 1)).2 ∧
        (PacketStream.after {} reads (count + 1)).1.takePacket = .ok none ∧
        ∀ whole : List (List UInt8), (∀ packet ∈ whole, IsPacket packet) →
          whole.flatten <+: bytesOf made →
            whole <+: packetsOf (PacketStream.receptions {} reads count)
  /-- A length that no packet has is reported by that reception and by all later ones, and nothing
  is consumed or handed out any more. -/
  refused : ∀ packets stream left, Moment reads packets stream left → stream.Refused → ∀ count,
    stream.receptions left count =
        List.replicate count (.error (.invalidPacketLength (declaredBy stream.pending))) ∧
      stream.after left count = (stream, left)
  /-- Such a length behind whole packets is reported when these are handed out, and it is. -/
  refusedBehind : ∀ packets, (∀ packet ∈ packets, IsPacket packet) → ∀ rest, 4 ≤ rest.length →
    IsRefused (declaredBy rest) → bytesOf reads = packets.flatten ++ rest →
      (∀ index length,
        PacketStream.receptionAt {} reads index = .error (.invalidPacketLength length) →
          length = declaredBy rest ∧
            packetsOf (PacketStream.receptions {} reads index) = packets ∧
            ∀ later, index < later →
              PacketStream.receptionAt {} reads later = .error (.invalidPacketLength length) ∧
                PacketStream.after {} reads later = PacketStream.after {} reads (index + 1)) ∧
      ∀ index, receptionsIn reads ≤ index + 1 →
        PacketStream.receptionAt {} reads index = .error (.invalidPacketLength (declaredBy rest))
  parses : ∀ count, ∀ packet ∈ packetsOf (PacketStream.receptions {} reads count),
    IsPacket packet ∧ (5 ≤ packet.length → ∀ (strategy : Strategy) needed available,
      strategy.parseBytes packet ≠ .error (.incomplete needed available))
  /-- What finding out the firmware receives and what the primary link receives afterwards are,
  together and in order, what is received. -/
  handedOver : ∀ {ι : Type} options realtime (robot : Robot ι) worker,
    connect options (.ok reads) realtime = .ok robot → robot.primary = some worker →
      ∃ taken more, taken + more = receptionsIn reads ∧
        PacketStream.receptions {} reads taken ++ worker.script =
          PacketStream.receptions {} reads (receptionsIn reads) ∧
        worker.script = (PacketStream.after {} reads taken).1.receptions
          (PacketStream.after {} reads taken).2 more

/-- Every sequence of reads is put together again. -/
theorem reassembly_of_receive (reads : List ReadOutcome) : Reassembly reads := by
  constructor
  · intro packets all rest none cut count
    exact packetsOf_receptions all none cut count
  · refine ⟨moment_after reads, fun packets stream left now => ?_⟩
    exact now.conserved.2
  · intro count fault failed quiet
    rw [after_succ]
    refine quiet_of_receive (moment_after reads count) failed ?_
    rcases quiet with rfl | rfl <;> nofun
  · intro packets stream left _ refused count
    exact ⟨receptions_of_refused refused count, after_of_refused refused count⟩
  · intro packets all rest fits refused cut
    constructor
    · intro index length invalid
      obtain ⟨declared, got⟩ :=
        refused_of_receptionAt all (noneInFront_of_refused refused) cut invalid
      exact ⟨declared, got, fun later behind => refused_for_ever invalid behind⟩
    · intro index enough
      exact receptionAt_of_refused all fits refused cut enough
  · intro count packet handedOut
    have whole := (moment_after reads count).conserved.1 packet handedOut
    exact ⟨whole, whole.complete⟩
  · intro ι options realtime robot worker connected kept
    exact handedOver_of_connect connected kept

end ArmLink.Link
