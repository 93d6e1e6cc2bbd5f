import ArmLink.Proofs.Telemetry.Framing

/-!
A packet is read in the same way whatever surrounds it.

At every cursor a strategy either waits for more bytes, and goes on waiting until there are as many
as it asked for, or it has come to an answer that the bytes ahead decide: every cursor that sees
these bytes first, whatever follows them and whatever stands in front, gives the same answer and
moves by the same number of bytes (`Strategy.parse_verdict`).  The main statement,
`independence_of_parse`, draws the consequences: for longer and for shorter runs of bytes, and, by
induction on the packets, for packets that stand one behind the other.
-/

namespace ArmLink.Telemetry

open Wire

/-- An answer that does not ask for more bytes. -/
def IsDecided (outcome : Except PacketFault Packet) : Prop :=
  ∀ needed available, outcome ≠ .error (.incomplete needed available)

/-- Where packets end that stand one behind the other. -/
def endsFrom : Nat → List (List UInt8) → List Nat
  | _, [] => []
  | start, packet :: later =>
    (start + packet.length) :: endsFrom (start + packet.length) later

namespace Strategy

/-- How far one read moves the cursor. -/
def consumed (strategy : Strategy) (cursor : Cursor) : Nat :=
  (strategy.parse cursor).2.position - cursor.position

/-- A packet that, on its own, is consumed whole, be it that it is read or that its body is
malformed. -/
structure Consumes (strategy : Strategy) (packet : List UInt8) : Prop where
  whole : strategy.consumed (Cursor.ofBytes packet) = packet.length
  outcome : (∃ read, strategy.parseBytes packet = .ok read) ∨
    ∃ kind fault, strategy.parseBytes packet = .error (.malformed kind fault)

end Strategy

/-- What a strategy reads does not depend on what surrounds it. -/
structure Independence (strategy : Strategy) : Prop where
  /-- Bytes behind what was looked at and bytes in front of it make no difference. -/
  surrounded : ∀ narrow wide rest, wide.ahead = narrow.ahead ++ rest →
    IsDecided (strategy.parse narrow).1 →
      (strategy.parse wide).1 = (strategy.parse narrow).1 ∧
        strategy.consumed wide = strategy.consumed narrow
  /-- The beginning of a packet is not taken for anything else. -/
  begun : ∀ whole packet, (strategy.parse whole).1 = .ok packet →
    ∀ part : Cursor, part.ahead <+: whole.ahead → part.remaining < strategy.consumed whole →
      ∃ needed, strategy.parse part = (.error (.incomplete needed part.remaining), part)
  waiting : ∀ narrow needed available,
    (strategy.parse narrow).1 = .error (.incomplete needed available) →
      ∀ wide : Cursor, narrow.ahead <+: wide.ahead → wide.remaining < needed →
        strategy.parse wide = (.error (.incomplete needed wide.remaining), wide)
  /-- Packets that stand one behind the other are read as each would be alone, and the cursor comes
  to stand at the end of each. -/
  inTurn : ∀ packets, (∀ packet ∈ packets, strategy.Consumes packet) →
    ∀ (cursor : Cursor) rest limit, cursor.ahead = packets.flatten ++ rest →
      (limit = packets.length ∨ (rest = [] ∧ packets ≠ [] ∧ packets.length ≤ limit)) →
        (strategy.parseAll cursor limit).map (fun (outcome, behind) => (outcome, behind.position)) =
          (packets.map strategy.parseBytes).zip (endsFrom cursor.position packets)

variable {strategy : Strategy} {cursor narrow wide : Cursor} {rest : List UInt8}

/-! ### What is seen from the cursor -/

theorem remaining_of_ahead (same : wide.ahead = narrow.ahead ++ rest) :
    wide.remaining = narrow.remaining + rest.length := by
  simpa [Cursor.length_ahead] using congrArg List.length same

theorem declaredAt_of_ahead (same : wide.ahead = narrow.ahead ++ rest)
    (fits : 4 ≤ narrow.remaining) : declaredAt wide = declaredAt narrow := by
  have front : wide.ahead.take lengthSize = narrow.ahead.take lengthSize := by
    rw [same]
    apply List.take_append_of_le_length
    rw [Cursor.length_ahead]
    exact fits
  simp only [declaredAt, front]

theorem tagAt_of_ahead (same : wide.ahead = narrow.ahead ++ rest) (fits : 5 ≤ narrow.remaining) :
    tagAt wide = tagAt narrow := by
  have inside : lengthSize < narrow.ahead.length := by
    rw [Cursor.length_ahead]
    exact fits
  simp [tagAt, same, List.getElem?_append_left inside]

namespace Strategy

/-- A strategy whose header has no tag does not look at one. -/
theorem body?_of_ahead (same : wide.ahead = narrow.ahead ++ rest)
    (fits : strategy.header ≤ narrow.remaining) :
    strategy.body? (tagAt wide) = strategy.body? (tagAt narrow) := by
  cases strategy with
  | realtime layout => rfl
  | state layout => rw [tagAt_of_ahead same fits]
  | message => rw [tagAt_of_ahead same fits]
  | primary layout => rw [tagAt_of_ahead same fits]

/-! ### One packet -/

theorem isDecided_ok (packet : Packet) : IsDecided (.ok packet) := nofun

theorem isDecided_unexpectedTag (expected : MessageTag) (found : UInt8) :
    IsDecided (.error (.unexpectedTag expected found)) := nofun

theorem isDecided_malformed (body : BodyKind) (fault : Fault) :
    IsDecided (.error (.malformed body fault)) := nofun

theorem isDecided_read (body : Body) (size : Nat) (bytes : List UInt8) :
    IsDecided (body.read size bytes) := by
  rw [Body.read]
  split
  · exact isDecided_ok _
  · exact isDecided_malformed _ _

/-- A strategy waits for a number of bytes, or its answer follows from the bytes ahead. -/
theorem parse_verdict (strategy : Strategy) (cursor : Cursor) :
    (∃ needed, cursor.remaining < needed ∧
        ∀ wide : Cursor, cursor.ahead <+: wide.ahead → wide.remaining < needed →
          strategy.parse wide = (.error (.incomplete needed wide.remaining), wide)) ∨
      ∃ outcome length, IsDecided outcome ∧ length ≤ cursor.remaining ∧
        ∀ (wide : Cursor) rest, wide.ahead = cursor.ahead ++ rest →
          ∃ fits, strategy.parse wide = (outcome, wide.advance length fits) := by
  rcases Nat.lt_or_ge cursor.remaining 4 with short | fourFit
  · exact .inl ⟨4, short, fun wide _ missing => parse_of_short missing⟩
  rcases Nat.lt_or_ge cursor.remaining strategy.header with short | fits
  · have tagged : strategy.header = 5 := by
      rcases strategy.header_cases with four | five
      · omega
      · exact five
    refine .inl ⟨5, by omega, fun wide front missing => ?_⟩
    obtain ⟨rest, same⟩ := front
    have longer := remaining_of_ahead same.symm
    have four : wide.remaining = 4 := by omega
    rw [parse_of_noTag tagged four, four]
  have least : 4 ≤ strategy.header := by rcases strategy.header_cases with four | five <;> omega
  cases accepted : strategy.body? (tagAt cursor) with
  | none =>
    cases tagged : strategy.expected? with
    | none => cases strategy <;> simp [expected?, body?] at tagged accepted
    | some tag =>
      have five : 5 ≤ cursor.remaining := by simpa [header, tagged] using fits
      refine .inr ⟨_, 0, isDecided_unexpectedTag tag (tagAt cursor), Nat.zero_le _, ?_⟩
      intro wide rest same
      have longer := remaining_of_ahead same
      have refused := body?_of_ahead same fits
      rw [accepted] at refused
      refine ⟨Nat.zero_le _, ?_⟩
      rw [parse_of_wrongTag tagged (by omega) refused, tagAt_of_ahead same five]
      rfl
  | some body =>
    -- From here on the declared length decides, and every wider view shows the same one.
    have seen (wide : Cursor) (rest) (same : wide.ahead = cursor.ahead ++ rest) :
        strategy.header ≤ wide.remaining ∧ strategy.body? (tagAt wide) = some body := by
      rw [remaining_of_ahead same, body?_of_ahead same fits, accepted]
      exact ⟨by omega, rfl⟩
    by_cases small : declaredAt cursor < strategy.header
    · refine .inr ⟨_, 0, isDecided_malformed body.kind (.invalidDeclaredLength (declaredAt cursor)),
        Nat.zero_le _, ?_⟩
      intro wide rest same
      refine ⟨Nat.zero_le _, ?_⟩
      obtain ⟨covers, known⟩ := seen wide rest same
      rw [parse_of_body covers known, declaredAt_of_ahead same fourFit, if_pos small]
      rfl
    by_cases enough : (declaredAt cursor).toNat ≤ cursor.remaining
    · refine .inr ⟨body.read (declaredAt cursor).toNat
        ((cursor.ahead.take (declaredAt cursor).toNat).drop strategy.header),
        (declaredAt cursor).toNat, isDecided_read _ _ _, enough, ?_⟩
      intro wide rest same
      have longer := remaining_of_ahead same
      have front : wide.ahead.take (declaredAt cursor).toNat =
          cursor.ahead.take (declaredAt cursor).toNat := by
        rw [same]
        apply List.take_append_of_le_length
        rw [Cursor.length_ahead]
        exact enough
      refine ⟨by omega, ?_⟩
      obtain ⟨covers, known⟩ := seen wide rest same
      rw [parse_of_body covers known]
      simp only [declaredAt_of_ahead same fourFit, if_neg small, front]
      rw [dif_pos (by omega)]
    · refine .inl ⟨(declaredAt cursor).toNat, by omega, fun wide front missing => ?_⟩
      obtain ⟨rest, same⟩ := front
      obtain ⟨covers, known⟩ := seen wide rest same.symm
      rw [parse_of_body covers known]
      simp only [declaredAt_of_ahead same.symm fourFit, if_neg small]
      rw [dif_neg (by omega)]

/-- An answer that is decided, and how far the cursor moves, carry over to a wider view. -/
theorem parse_of_decided (same : wide.ahead = narrow.ahead ++ rest)
    (decided : IsDecided (strategy.parse narrow).1) :
    (strategy.parse wide).1 = (strategy.parse narrow).1 ∧
      (strategy.parse wide).2.bytes = wide.bytes ∧
      (strategy.parse wide).2.position = wide.position + strategy.consumed narrow := by
  obtain ⟨needed, missing, waits⟩ | ⟨outcome, length, -, -, answers⟩ :=
    parse_verdict strategy narrow
  · rw [waits narrow (List.prefix_refl _) missing] at decided
    exact absurd rfl (decided _ _)
  · obtain ⟨_, here⟩ := answers narrow [] (List.append_nil _).symm
    obtain ⟨_, there⟩ := answers wide rest same
    simp [consumed, here, there, Cursor.advance]

theorem consumed_of_decided (same : wide.ahead = narrow.ahead ++ rest)
    (decided : IsDecided (strategy.parse narrow).1) :
    strategy.consumed wide = strategy.consumed narrow := by
  have behind := (parse_of_decided same decided).2.2
  rw [consumed, behind, Nat.add_sub_cancel_left]

theorem consumed_le (strategy : Strategy) (cursor : Cursor) :
    strategy.consumed cursor ≤ cursor.remaining := by
  have inside := (strategy.parse cursor).2.position_le
  rw [(parse_inside strategy cursor).1] at inside
  unfold consumed Cursor.remaining
  omega

/-! ### Packets one behind the other -/

variable {packet : List UInt8} {packets : List (List UInt8)}

theorem Consumes.isDecided (alone : strategy.Consumes packet) :
    IsDecided (strategy.parseBytes packet) := by
  intro needed available
  rcases alone.outcome with ⟨read, found⟩ | ⟨kind, fault, found⟩ <;> rw [found] <;> nofun

theorem Consumes.ne_nil (alone : strategy.Consumes packet) : packet ≠ [] := by
  rintro rfl
  have short : strategy.parse (Cursor.ofBytes []) = _ := parse_of_short (by decide)
  apply alone.isDecided 4 0
  rw [parseBytes, short]
  rfl

/-- A packet that is consumed on its own is consumed in the same way wherever it stands. -/
theorem Consumes.parse (alone : strategy.Consumes packet) (same : cursor.ahead = packet ++ rest) :
    (strategy.parse cursor).1 = strategy.parseBytes packet ∧
      (strategy.parse cursor).2.ahead = rest ∧
      (strategy.parse cursor).2.position = cursor.position + packet.length := by
  have seen : cursor.ahead = (Cursor.ofBytes packet).ahead ++ rest := same
  obtain ⟨outcome, bytes, position⟩ := parse_of_decided seen alone.isDecided
  rw [alone.whole] at position
  refine ⟨outcome, ?_, position⟩
  rw [Cursor.ahead, bytes, position, ← List.drop_drop]
  exact (congrArg (List.drop packet.length) same).trans List.drop_left

theorem parseAll_of_consumes (all : ∀ packet ∈ packets, strategy.Consumes packet)
    (same : cursor.ahead = packets.flatten ++ rest) (limit : Nat)
    (goesOn : limit = packets.length ∨ (rest = [] ∧ packets ≠ [] ∧ packets.length ≤ limit)) :
    (strategy.parseAll cursor limit).map (fun (outcome, behind) => (outcome, behind.position)) =
      (packets.map strategy.parseBytes).zip (endsFrom cursor.position packets) := by
  induction packets generalizing cursor limit with
  | nil =>
    obtain rfl | ⟨-, absurdity, -⟩ := goesOn
    · rfl
    · exact absurd rfl absurdity
  | cons packet later ih =>
    obtain ⟨alone, allLater⟩ := List.forall_mem_cons.mp all
    rw [List.flatten_cons, List.append_assoc] at same
    obtain ⟨outcome, ahead, position⟩ := alone.parse same
    obtain ⟨limit, rfl⟩ : ∃ fewer, limit = fewer + 1 := by
      apply Nat.exists_eq_succ_of_ne_zero
      rw [List.length_cons] at goesOn
      omega
    have stops : ((strategy.parse cursor).2.position = cursor.position ∨
        (strategy.parse cursor).2.atEnd = true) ↔ later.flatten ++ rest = [] := by
      have := List.length_pos_iff.mpr alone.ne_nil
      rw [← ahead, ← List.length_eq_zero_iff, Cursor.length_ahead, Cursor.atEnd, beq_iff_eq]
      omega
    simp only [parseAll, stops, List.map_cons, List.zip_cons_cons, endsFrom, outcome]
    rw [← position]
    congr 1
    by_cases nothing : later.flatten ++ rest = []
    · -- Every packet has bytes, so there is none left either.
      obtain rfl : later = [] := by
        apply List.eq_nil_iff_forall_not_mem.mpr
        intro next member
        have inside := List.flatten_eq_nil_iff.mp (List.append_eq_nil_iff.mp nothing).1 next member
        exact (allLater next member).ne_nil inside
      rw [if_pos nothing]
      rfl
    · rw [if_neg nothing]
      apply ih allLater ahead
      rcases goesOn with exact | ⟨rfl, -, enough⟩
      · left
        simpa using exact
      · right
        refine ⟨rfl, ?_, by simpa using enough⟩
        rintro rfl
        exact nothing rfl

end Strategy

/-- Every strategy reads packets independently of what surrounds them. -/
theorem independence_of_parse (strategy : Strategy) : Independence strategy := by
  constructor
  · intro narrow wide rest same decided
    exact ⟨(Strategy.parse_of_decided same decided).1, Strategy.consumed_of_decided same decided⟩
  · intro whole packet found part ⟨rest, same⟩ short
    obtain ⟨needed, missing, waits⟩ | ⟨outcome, length, decided, fits, answers⟩ :=
      Strategy.parse_verdict strategy part
    · exact ⟨needed, waits part (List.prefix_refl _) missing⟩
    · -- A beginning that is decided would have been consumed, and the whole packet with it.
      obtain ⟨_, here⟩ := answers part [] (List.append_nil _).symm
      have carried : strategy.consumed whole = strategy.consumed part := by
        apply Strategy.consumed_of_decided same.symm
        rw [here]
        exact decided
      have := Strategy.consumed_le strategy part
      omega
  · intro narrow needed available incomplete wide seen missing
    obtain ⟨asked, short, waits⟩ | ⟨outcome, length, decided, -, answers⟩ :=
      Strategy.parse_verdict strategy narrow
    · rw [waits narrow (List.prefix_refl _) short] at incomplete
      cases incomplete
      exact waits wide seen missing
    · obtain ⟨_, here⟩ := answers narrow [] (List.append_nil _).symm
      rw [here] at incomplete
      exact absurd incomplete (decided _ _)
  · intro packets all cursor rest limit same goesOn
    exact Strategy.parseAll_of_consumes all same limit goesOn

end ArmLink.Telemetry
