import ArmLink.Proofs.Wire.Writing

/-!
What a reader does, operation by operation.

An operation reaches over some bytes ahead of the reader, and that alone decides whether it
succeeds.  A reach is a number, and every operation but one is held to it.  The exception is the
look-ahead: it computes its reach in a machine word, so that a reach of `2 ^ 64` and more is taken for
a small one.  `Operation.lawful` says what operations do that are held to their reach,
`Operation.wrapped_of_wraps` what the others do: they read bytes in front of the reader, or break off.

What bytes stand for is said by their places (`placeValue`), for each type of values by itself
(`Kind.Stands`).
-/

namespace ArmLink.Wire

/-! ### Values -/

/-- The types of values that can be read. -/
inductive Kind where
  | u8 | u16 | u32 | u64 | i8 | i16 | i32 | i64 | f32 | f64 | bool
deriving DecidableEq, Repr

namespace Kind

def Value : Kind → Type
  | .u8 => UInt8
  | .u16 => UInt16
  | .u32 => UInt32
  | .u64 => UInt64
  | .i8 => Int8
  | .i16 => Int16
  | .i32 => Int32
  | .i64 => Int64
  | .f32 => Float32
  | .f64 => Float
  | .bool => Bool

instance : (kind : Kind) → BigEndian kind.Value
  | .u8 => inferInstanceAs (BigEndian UInt8)
  | .u16 => inferInstanceAs (BigEndian UInt16)
  | .u32 => inferInstanceAs (BigEndian UInt32)
  | .u64 => inferInstanceAs (BigEndian UInt64)
  | .i8 => inferInstanceAs (BigEndian Int8)
  | .i16 => inferInstanceAs (BigEndian Int16)
  | .i32 => inferInstanceAs (BigEndian Int32)
  | .i64 => inferInstanceAs (BigEndian Int64)
  | .f32 => inferInstanceAs (BigEndian Float32)
  | .f64 => inferInstanceAs (BigEndian Float)
  | .bool => inferInstanceAs (BigEndian Bool)

/-- Bytes of a value. -/
def width : Kind → Nat
  | .u8 | .i8 | .bool => 1
  | .u16 | .i16 => 2
  | .u32 | .i32 | .f32 => 4
  | .u64 | .i64 | .f64 => 8

theorem width_eq (kind : Kind) : BigEndian.width kind.Value = kind.width := by
  cases kind <;> rfl

theorem width_le (kind : Kind) : kind.width ≤ 8 := by
  cases kind <;> decide

end Kind

/-- The number that bytes stand for, each byte by the number of bytes behind it. -/
def placeValue : List UInt8 → Nat
  | [] => 0
  | byte :: rest => byte.toNat <<< (8 * rest.length) + placeValue rest

/-- The number that some bits stand for, if the first of them counts negative. -/
def signed (bits number : Nat) : Int :=
  if 2 * number < 1 <<< bits then number else number - (1 <<< bits : Nat)

/-- Whether a value is the one that a number of as many bytes stands for. -/
def Kind.Stands (number : Nat) : (kind : Kind) → kind.Value → Prop
  | .u8, value => UInt8.toNat value = number
  | .u16, value => UInt16.toNat value = number
  | .u32, value => UInt32.toNat value = number
  | .u64, value => UInt64.toNat value = number
  | .i8, value => Int8.toInt value = signed 8 number
  | .i16, value => Int16.toInt value = signed 16 number
  | .i32, value => Int32.toInt value = signed 32 number
  | .i64, value => Int64.toInt value = signed 64 number
  | .f32, value => value = Float32.ofBits (UInt32.ofNat number)
  | .f64, value => value = Float.ofBits (UInt64.ofNat number)
  | .bool, value => value = decide (number ≠ 0)

theorem placeValue_append_singleton (bytes : List UInt8) (byte : UInt8) :
    placeValue (bytes ++ [byte]) = placeValue bytes * 256 + byte.toNat := by
  induction bytes with
  | nil => simp [placeValue]
  | cons first rest ih =>
    have more : 8 * (rest ++ [byte]).length = 8 * rest.length + 8 := by
      rw [List.length_append, List.length_singleton]
      omega
    rw [List.cons_append, placeValue, placeValue, ih, more, Nat.shiftLeft_add,
      Nat.shiftLeft_eq _ 8]
    omega

theorem natOfBytes_eq (bytes : List UInt8) : natOfBytes bytes = placeValue bytes := by
  induction bytes using List.reverseRecOn with
  | nil => rfl
  | append_singleton bytes byte ih =>
    rw [natOfBytes_append_singleton, placeValue_append_singleton, ih]

theorem toInt_ofNat_eq (bits number : Nat) (small : number < 1 <<< bits) :
    (BitVec.ofNat bits number).toInt = signed bits number := by
  rw [Nat.one_shiftLeft] at small
  rw [BitVec.toInt_eq_toNat_cond, BitVec.toNat_ofNat, Nat.mod_eq_of_lt small, signed,
    Nat.one_shiftLeft]

theorem Kind.stands_ofBytes {kind : Kind} {bytes : List UInt8} (size : bytes.length = kind.width) :
    kind.Stands (placeValue bytes) (BigEndian.ofBytes kind.Value bytes) := by
  have small := natOfBytes_lt bytes
  rw [size, natOfBytes_eq] at small
  rw [BigEndian.ofBytes, natOfBytes_eq]
  generalize placeValue bytes = number at small ⊢
  cases kind with
  | u8 => exact UInt8.toNat_ofNat_of_lt' small
  | u16 => exact UInt16.toNat_ofNat_of_lt' small
  | u32 => exact UInt32.toNat_ofNat_of_lt' small
  | u64 => exact UInt64.toNat_ofNat_of_lt' small
  | i8 => exact toInt_ofNat_eq 8 number small
  | i16 => exact toInt_ofNat_eq 16 number small
  | i32 => exact toInt_ofNat_eq 32 number small
  | i64 => exact toInt_ofNat_eq 64 number small
  | f32 => rfl
  | f64 => rfl
  | bool => cases number <;> rfl

/-- A look-ahead whose end no machine word can name takes it for what is left of it, the excess over
the machine words. -/
theorem Cursor.peekAt_of_wraps {α : Type} [BigEndian α] {cursor : Cursor} {offset : UInt64}
    {excess : Nat} (narrow : BigEndian.width α < UInt64.size)
    (total : offset.toNat + BigEndian.width α = UInt64.size + excess)
    (addressed : cursor.bytes.length < UInt64.size) :
    cursor.peekAt α offset =
      if cursor.remaining < excess then .error (.insufficientData excess cursor.remaining)
      else if cursor.position + excess < BigEndian.width α then
        .error (.reversedRange (UInt64.size + cursor.position + excess - BigEndian.width α)
          (cursor.position + excess))
      else
        .ok (BigEndian.ofBytes α
          ((cursor.bytes.drop (cursor.position + excess - BigEndian.width α)).take
            (BigEndian.width α))) := by
  have offset_lt : offset.toNat < UInt64.size := offset.toNat_lt
  have size : UInt64.size = 18446744073709551616 := rfl
  have inside := cursor.position_le
  have ahead : cursor.remaining = cursor.bytes.length - cursor.position := rfl
  have width : (UInt64.ofNat (BigEndian.width α)).toNat = BigEndian.width α :=
    UInt64.toNat_ofNat_of_lt' narrow
  have position : (UInt64.ofNat cursor.position).toNat = cursor.position :=
    UInt64.toNat_ofNat_of_lt' (show _ < UInt64.size by omega)
  -- Offset and width alone wrap to the excess; behind the position the same sum does not wrap.
  have needed : (offset + UInt64.ofNat (BigEndian.width α)).toNat = excess := by
    rw [UInt64.toNat_add, width]
    omega
  have start : (UInt64.ofNat cursor.position + offset).toNat =
      (cursor.position + offset.toNat) % 18446744073709551616 := by
    rw [UInt64.toNat_add, position]
  have stop : (UInt64.ofNat cursor.position + offset + UInt64.ofNat (BigEndian.width α)).toNat =
      (cursor.position + excess) % 18446744073709551616 := by
    rw [UInt64.add_assoc, UInt64.toNat_add, position, needed]
  have wrapping : ¬ UInt64.ofNat (BigEndian.width α) ≤
      offset + UInt64.ofNat (BigEndian.width α) := by
    rw [UInt64.le_iff_toNat_le, width, needed]
    omega
  simp only [peekAt, needed, wrapping, if_false, UInt64.lt_iff_toNat_lt, start, stop]
  split
  · rfl
  · rename_i fits
    rw [Nat.mod_eq_of_lt (show cursor.position + excess < 18446744073709551616 by omega)]
    by_cases front : cursor.position + excess < BigEndian.width α
    · have start : (cursor.position + offset.toNat) % 18446744073709551616 =
          UInt64.size + cursor.position + excess - BigEndian.width α := by omega
      rw [start, if_pos (by omega), if_pos front]
    · have start : (cursor.position + offset.toNat) % 18446744073709551616 =
          cursor.position + excess - BigEndian.width α := by omega
      rw [start, if_neg (by omega), if_neg front]

/-! ### Operations -/

/-- What can be done with a reader.  Counts are numbers of bytes, but for `values`, whose count is
one of values. -/
inductive Operation where
  /-- Looks at the value at the reader. -/
  | peek (kind : Kind)
  /-- Looks at the value some bytes ahead. -/
  | peekAt (kind : Kind) (offset : UInt64)
  | value (kind : Kind)
  | values (kind : Kind) (count : Nat)
  /-- Asks whether so many bytes are left. -/
  | has (count : Nat)
  | skip (count : Nat)
  | bytes (count : Nat)
  | rest
  /-- Cuts out a reader for the next bytes. -/
  | slice (count : Nat)
deriving DecidableEq, Repr

/-- What an operation that succeeds tells. -/
inductive Answer where
  | value (kind : Kind) (value : kind.Value)
  | values (kind : Kind) (values : List kind.Value)
  | flag (holds : Bool)
  | bytes (bytes : List UInt8)
  | done

/-- What comes of an operation: its answer, the reader it leaves and the one it may cut out. -/
structure Reply where
  answer : Except Fault Answer
  behind : Cursor
  slice : Option Cursor := none

namespace Operation

/-- The reply of a decoder. -/
def replyOf {α : Type} (decoder : Decoder α) (answer : α → Answer) (cursor : Cursor) : Reply where
  answer := (decoder.run cursor).1.map answer
  behind := (decoder.run cursor).2

/-- Carries out an operation. -/
def run (operation : Operation) (cursor : Cursor) : Reply :=
  match operation with
  | .peek kind => { answer := (cursor.peek kind.Value).map (.value kind), behind := cursor }
  | .peekAt kind offset =>
    { answer := (cursor.peekAt kind.Value offset).map (.value kind), behind := cursor }
  | .value kind => replyOf (Decoder.value kind.Value) (.value kind) cursor
  | .values kind count =>
    replyOf (Decoder.values kind.Value count) (fun found => .values kind found.toList) cursor
  | .has count => { answer := .ok (.flag (cursor.has count)), behind := cursor }
  | .skip count => replyOf (Decoder.skip count) (fun _ => .done) cursor
  | .bytes count => replyOf (Decoder.bytes count) .bytes cursor
  | .rest => replyOf Decoder.rest .bytes cursor
  | .slice count =>
    { replyOf (Decoder.slice count) (fun _ => .done) cursor with
      slice := ((Decoder.slice count).run cursor).1.toOption }

/-- How far ahead an operation reaches. -/
def reach : Operation → Nat
  | .peek kind | .value kind => kind.width
  | .peekAt kind offset => offset.toNat + kind.width
  | .values kind count => kind.width * count
  | .skip count | .bytes count | .slice count => count
  | .has _ | .rest => 0

/-- How far an operation that succeeds moves a reader in front of some bytes. -/
def moves (ahead : List UInt8) : Operation → Nat
  | .peek _ | .peekAt .. | .has _ => 0
  | .value kind => kind.width
  | .values kind count => kind.width * count
  | .skip count | .bytes count | .slice count => count
  | .rest => ahead.length

/-- The reader that an operation cuts out of some bytes. -/
def cuts (ahead : List UInt8) : Operation → Option Cursor
  | .slice count => some (.ofBytes (ahead.take count))
  | _ => none

/-- Whether an answer is the right one in front of some bytes. -/
def Answers (ahead : List UInt8) (answer : Answer) : Operation → Prop
  | .peek kind | .value kind =>
    ∃ value, answer = .value kind value ∧ kind.Stands (placeValue (ahead.take kind.width)) value
  | .peekAt kind offset => ∃ value, answer = .value kind value ∧
    kind.Stands (placeValue ((ahead.drop offset.toNat).take kind.width)) value
  | .values kind count => ∃ values, answer = .values kind values ∧ values.length = count ∧
    ∀ index value, values[index]? = some value →
      kind.Stands (placeValue ((ahead.drop (kind.width * index)).take kind.width)) value
  | .has count => answer = .flag (decide (count ≤ ahead.length))
  | .skip _ | .slice _ => answer = .done
  | .bytes count => answer = .bytes (ahead.take count)
  | .rest => answer = .bytes ahead

/-- An operation on a reader that is held to its reach. -/
structure Lawful (operation : Operation) (cursor : Cursor) : Prop where
  fails_iff : (∃ fault, (operation.run cursor).answer = .error fault) ↔
    cursor.remaining < operation.reach
  /-- A failing operation reports its reach and leaves everything as it was. -/
  fails : ∀ fault, (operation.run cursor).answer = .error fault →
    fault = .insufficientData operation.reach cursor.remaining ∧
      (operation.run cursor).behind = cursor ∧ (operation.run cursor).slice = none
  succeeds : ∀ answer, (operation.run cursor).answer = .ok answer →
    operation.Answers cursor.ahead answer ∧
      (operation.run cursor).behind.bytes = cursor.bytes ∧
        (operation.run cursor).behind.position =
            cursor.position + operation.moves cursor.ahead ∧
          (operation.run cursor).slice = operation.cuts cursor.ahead

variable {α : Type} {cursor : Cursor} {operation : Operation} {kind : Kind} {offset : UInt64}
  {count : Nat}

/-! ### Replies -/

section Replies

variable {make : List UInt8 → α} {answer : α → Answer}

/-- A decoder that makes something of the next bytes leaves the reader alone if they are missing. -/
theorem replyOf_of_lt (missing : cursor.remaining < count) :
    replyOf (do return make (← Decoder.bytes count)) answer cursor =
      { answer := .error (.insufficientData count cursor.remaining), behind := cursor } := by
  rw [bind_pure_comp, replyOf, Decoder.run_map, Decoder.run_bytes, Cursor.next_of_lt missing]
  rfl

theorem replyOf_of_le (fits : count ≤ cursor.remaining) :
    replyOf (do return make (← Decoder.bytes count)) answer cursor =
      { answer := .ok (answer (make (cursor.ahead.take count))),
        behind := cursor.advance count fits } := by
  rw [bind_pure_comp, replyOf, Decoder.run_map, Decoder.run_bytes, Cursor.next_of_le fits]
  rfl

end Replies

/-- An operation is held to its reach if it says so when bytes are missing, and else does as it
should. -/
theorem Lawful.of_cases
    (missing : cursor.remaining < operation.reach → operation.run cursor =
      { answer := .error (.insufficientData operation.reach cursor.remaining), behind := cursor })
    (enough : operation.reach ≤ cursor.remaining → ∃ answer,
      (operation.run cursor).answer = .ok answer ∧ operation.Answers cursor.ahead answer ∧
        (operation.run cursor).behind.bytes = cursor.bytes ∧
          (operation.run cursor).behind.position =
              cursor.position + operation.moves cursor.ahead ∧
            (operation.run cursor).slice = operation.cuts cursor.ahead) :
    Lawful operation cursor := by
  rcases Nat.lt_or_ge cursor.remaining operation.reach with short | fits
  · have reply := missing short
    refine ⟨⟨fun _ => short, fun _ => ⟨_, by rw [reply]⟩⟩, ?_, ?_⟩
    · intro fault failed
      rw [reply] at failed ⊢
      cases failed
      exact ⟨rfl, rfl, rfl⟩
    · intro answer found
      rw [reply] at found
      cases found
  · obtain ⟨answer, found, right⟩ := enough fits
    refine ⟨⟨?_, fun short => absurd fits (Nat.not_le.mpr short)⟩, ?_, ?_⟩
    · rintro ⟨fault, failed⟩
      cases found.symm.trans failed
    · intro fault failed
      cases found.symm.trans failed
    · intro other foundToo
      obtain rfl := Except.ok.inj (found.symm.trans foundToo)
      exact right

/-- So is one that takes the bytes of its reach and makes its answer of them. -/
theorem Lawful.of_taking {make : List UInt8 → α} {answer : α → Answer}
    (run : operation.run cursor =
      replyOf (do return make (← Decoder.bytes operation.reach)) answer cursor)
    (moves : operation.moves cursor.ahead = operation.reach)
    (cuts : operation.cuts cursor.ahead = none)
    (right : operation.reach ≤ cursor.ahead.length →
      operation.Answers cursor.ahead (answer (make (cursor.ahead.take operation.reach)))) :
    Lawful operation cursor := by
  apply Lawful.of_cases
  · intro missing
    rw [run, replyOf_of_lt missing]
  · intro fits
    rw [run, replyOf_of_le fits, moves, cuts]
    rw [← Cursor.length_ahead] at fits
    exact ⟨_, rfl, right fits, rfl, rfl, rfl⟩

/-! ### Each operation -/

theorem stands_take {bytes : List UInt8} (enough : kind.width ≤ bytes.length) :
    kind.Stands (placeValue (bytes.take kind.width))
      (BigEndian.ofBytes kind.Value (bytes.take kind.width)) := by
  apply Kind.stands_ofBytes
  rw [List.length_take, Nat.min_eq_left enough]

theorem lawful_peek : Lawful (.peek kind) cursor := by
  have run : (Operation.peek kind).run cursor =
      { answer := ((cursor.next kind.width).map
          fun taken => BigEndian.ofBytes kind.Value taken.1).map (.value kind)
        behind := cursor } := by
    rw [← kind.width_eq]
    rfl
  apply Lawful.of_cases
  · intro (missing : cursor.remaining < kind.width)
    rw [run, Cursor.next_of_lt missing]
    rfl
  · intro (fits : kind.width ≤ cursor.remaining)
    have enough : kind.width ≤ cursor.ahead.length := by
      rw [Cursor.length_ahead]
      exact fits
    rw [run, Cursor.next_of_le fits]
    exact ⟨_, rfl, ⟨_, rfl, stands_take enough⟩, rfl, rfl, rfl⟩

/-- A look-ahead is held to its reach if a machine word can hold that. -/
theorem lawful_peekAt (small : (Operation.peekAt kind offset).reach < UInt64.size) :
    Lawful (.peekAt kind offset) cursor := by
  have peeked : cursor.peekAt kind.Value offset =
      if offset.toNat + kind.width ≤ cursor.remaining then
        .ok (BigEndian.ofBytes kind.Value ((cursor.ahead.drop offset.toNat).take kind.width))
      else .error (.insufficientData (offset.toNat + kind.width) cursor.remaining) := by
    rw [reach, ← kind.width_eq] at small
    rw [Cursor.peekAt_eq small, kind.width_eq]
  apply Lawful.of_cases
  · intro (missing : cursor.remaining < offset.toNat + kind.width)
    rw [run, peeked, if_neg (Nat.not_le.mpr missing)]
    rfl
  · intro (fits : offset.toNat + kind.width ≤ cursor.remaining)
    have enough : kind.width ≤ (cursor.ahead.drop offset.toNat).length := by
      rw [List.length_drop, Cursor.length_ahead]
      omega
    rw [run, peeked, if_pos fits]
    exact ⟨_, rfl, ⟨_, rfl, stands_take enough⟩, rfl, rfl, rfl⟩

theorem lawful_value : Lawful (.value kind) cursor := by
  have run : (Operation.value kind).run cursor =
      replyOf (do return BigEndian.ofBytes kind.Value (← Decoder.bytes kind.width)) (.value kind)
        cursor := by
    rw [← kind.width_eq]
    rfl
  exact .of_taking run rfl rfl fun enough => ⟨_, rfl, stands_take enough⟩

theorem lawful_values : Lawful (.values kind count) cursor := by
  apply Lawful.of_cases
  · intro (missing : cursor.remaining < kind.width * count)
    rw [← kind.width_eq] at missing
    rw [run, Decoder.values, replyOf_of_lt missing, kind.width_eq]
    rfl
  · intro (fits : kind.width * count ≤ cursor.remaining)
    rw [← kind.width_eq] at fits
    rw [run, replyOf, (Decoder.Reads.values kind.Value count).whole cursor fits]
    refine ⟨_, rfl, ⟨_, rfl, by simp, ?_⟩, rfl, ?_, rfl⟩
    · intro index value found
      obtain ⟨inside, rfl⟩ : ∃ inside : index < count,
          fieldAt kind.Value (BigEndian.width kind.Value * index) cursor.ahead = value := by
        simpa using found
      have enough : kind.width ≤ (cursor.ahead.drop (kind.width * index)).length := by
        have upTo := Nat.mul_le_mul_left kind.width (Nat.succ_le_of_lt inside)
        rw [kind.width_eq] at fits
        rw [List.length_drop, Cursor.length_ahead]
        rw [Nat.mul_succ] at upTo
        omega
      rw [fieldAt, kind.width_eq]
      exact stands_take enough
    · rw [moves, ← kind.width_eq]
      rfl

theorem lawful_has : Lawful (.has count) cursor := by
  apply Lawful.of_cases
  · intro missing
    exact absurd missing (Nat.not_lt_zero _)
  · intro _
    refine ⟨_, rfl, ?_, rfl, rfl, rfl⟩
    rw [Answers, Cursor.length_ahead, Cursor.has]

theorem lawful_skip : Lawful (.skip count) cursor :=
  have run : (Operation.skip count).run cursor =
      replyOf (do return (fun _ => ()) (← Decoder.bytes count)) (fun _ => .done) cursor := rfl
  .of_taking run rfl rfl fun _ => rfl

theorem run_bytes (count : Nat) (cursor : Cursor) : (Operation.bytes count).run cursor =
    replyOf (do return id (← Decoder.bytes count)) .bytes cursor := by
  rw [bind_pure_comp, id_map]
  rfl

theorem lawful_bytes : Lawful (.bytes count) cursor :=
  .of_taking (run_bytes count cursor) rfl rfl fun _ => rfl

theorem lawful_rest : Lawful .rest cursor := by
  have all : cursor.ahead.take cursor.remaining = cursor.ahead :=
    List.take_of_length_le (Nat.le_of_eq cursor.length_ahead)
  have run : Operation.rest.run cursor = (Operation.bytes cursor.remaining).run cursor := rfl
  apply Lawful.of_cases
  · intro missing
    exact absurd missing (Nat.not_lt_zero _)
  · intro _
    rw [run, run_bytes, replyOf_of_le (Nat.le_refl _), id_eq, all]
    refine ⟨_, rfl, rfl, rfl, ?_, rfl⟩
    rw [moves, Cursor.length_ahead]
    rfl

theorem lawful_slice : Lawful (.slice count) cursor := by
  have run : (Operation.slice count).run cursor =
      { replyOf (do return Cursor.ofBytes (← Decoder.bytes count)) (fun _ => .done) cursor with
        slice := ((Decoder.slice count).run cursor).1.toOption } := rfl
  have sliced : (Decoder.slice count).run cursor =
      (((Decoder.bytes count).run cursor).1.map .ofBytes, ((Decoder.bytes count).run cursor).2) := by
    rw [Decoder.slice, bind_pure_comp, Decoder.run_map]
  rw [sliced, Decoder.run_bytes] at run
  apply Lawful.of_cases
  · intro (missing : cursor.remaining < count)
    rw [run, replyOf_of_lt missing, Cursor.next_of_lt missing]
    rfl
  · intro (fits : count ≤ cursor.remaining)
    rw [run, replyOf_of_le fits, Cursor.next_of_le fits]
    exact ⟨_, rfl, rfl, rfl, rfl, rfl⟩

/-- Whether the reach of an operation is computed in a machine word that cannot hold it. -/
def Wraps : Operation → Prop
  | .peekAt kind offset => UInt64.size ≤ offset.toNat + kind.width
  | _ => False

theorem lawful (operation : Operation) (cursor : Cursor) (held : ¬ operation.Wraps) :
    Lawful operation cursor := by
  cases operation with
  | peek => exact lawful_peek
  | peekAt => exact lawful_peekAt (Nat.not_le.mp held)
  | value => exact lawful_value
  | values => exact lawful_values
  | has => exact lawful_has
  | skip => exact lawful_skip
  | bytes => exact lawful_bytes
  | rest => exact lawful_rest
  | slice => exact lawful_slice

/-! ### Reaches that wrap -/

/-- What a look-ahead does of whose reach only an excess over the machine words is left: it asks for
that many bytes, and then takes the bytes that end so far ahead. -/
structure Wrapped (kind : Kind) (offset : UInt64) (excess : Nat) (cursor : Cursor) : Prop where
  missing : cursor.remaining < excess → ((peekAt kind offset).run cursor).answer =
    .error (.insufficientData excess cursor.remaining)
  /-- The bytes begin in front of the reader, since the excess is less than their number. -/
  inFront : excess ≤ cursor.remaining → kind.width ≤ cursor.position + excess →
    ∃ value, ((peekAt kind offset).run cursor).answer = .ok (.value kind value) ∧
      kind.Stands (placeValue
        ((cursor.bytes.drop (cursor.position + excess - kind.width)).take kind.width)) value
  /-- They would begin in front of all bytes. -/
  reversed : excess ≤ cursor.remaining → cursor.position + excess < kind.width →
    ((peekAt kind offset).run cursor).answer =
      .error (.reversedRange (UInt64.size + cursor.position + excess - kind.width)
        (cursor.position + excess))
  less : excess < kind.width
  behind : ((peekAt kind offset).run cursor).behind = cursor

theorem wrapped_of_wraps (wraps : (peekAt kind offset).Wraps)
    (addressed : cursor.bytes.length < UInt64.size) :
    Wrapped kind offset (offset.toNat + kind.width - UInt64.size) cursor := by
  obtain ⟨excess, total⟩ := Nat.exists_eq_add_of_le wraps
  have offset_lt : offset.toNat < UInt64.size := offset.toNat_lt
  have less : excess < kind.width := by omega
  have narrow : BigEndian.width kind.Value < UInt64.size := by
    have eight := kind.width_le
    have size : UInt64.size = 18446744073709551616 := rfl
    rw [kind.width_eq]
    omega
  have peeked := Cursor.peekAt_of_wraps narrow (kind.width_eq ▸ total) addressed
  rw [kind.width_eq] at peeked
  rw [total, Nat.add_sub_cancel_left]
  refine ⟨?_, ?_, ?_, less, rfl⟩
  · intro short
    rw [run, peeked, if_pos short]
    rfl
  · intro fits front
    have enough : kind.width ≤
        (cursor.bytes.drop (cursor.position + excess - kind.width)).length := by
      have inside := cursor.position_le
      rw [Cursor.remaining] at fits
      rw [List.length_drop]
      omega
    rw [run, peeked, if_neg (Nat.not_lt.mpr fits), if_neg (Nat.not_lt.mpr front)]
    exact ⟨_, rfl, stands_take enough⟩
  · intro fits front
    rw [run, peeked, if_neg (Nat.not_lt.mpr fits), if_pos front]
    rfl

end Operation

end ArmLink.Wire
