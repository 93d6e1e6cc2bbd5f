import ArmLink.Wire.BigEndian
import ArmLink.Wire.Fault

/-!
A cursor over a fixed run of bytes.  Reading moves it forward, looking ahead does not, and no
operation leaves the run: what is missing is reported with the number of bytes needed and the
number left, and a read that fails leaves the cursor where it was.

A `Decoder` is a read of some shape: it answers a value or a fault and hands back the cursor,
also after a fault, so that a caller can tell how far it came.
-/

namespace ArmLink.Wire

/-- A run of bytes and how many of them have been read. -/
structure Cursor where
  /-- All bytes of the run, the ones already read included. -/
  bytes : List UInt8
  /-- How many bytes have been read. -/
  position : Nat
  /-- The position never leaves the run. -/
  position_le : position ≤ bytes.length

namespace Cursor

def ofBytes (bytes : List UInt8) : Cursor where
  bytes := bytes
  position := 0
  position_le := Nat.zero_le _

def ahead (cursor : Cursor) : List UInt8 := cursor.bytes.drop cursor.position

def remaining (cursor : Cursor) : Nat := cursor.bytes.length - cursor.position

def atEnd (cursor : Cursor) : Bool := cursor.remaining == 0

/-- Whether at least `count` bytes are left. -/
def has (cursor : Cursor) (count : Nat) : Bool := decide (count ≤ cursor.remaining)

theorem length_ahead (cursor : Cursor) : cursor.ahead.length = cursor.remaining := by
  simp [ahead, remaining]

/-- The cursor `count` bytes further on. -/
def advance (cursor : Cursor) (count : Nat) (fits : count ≤ cursor.remaining) : Cursor where
  bytes := cursor.bytes
  position := cursor.position + count
  position_le := by
    have := cursor.position_le
    unfold remaining at fits
    omega

theorem remaining_advance (cursor : Cursor) (count : Nat) (fits : count ≤ cursor.remaining) :
    (cursor.advance count fits).remaining = cursor.remaining - count := by
  simp only [remaining, advance]
  omega

/-- The next `count` bytes and the cursor behind them. -/
def next (cursor : Cursor) (count : Nat) : Except Fault (List UInt8 × Cursor) :=
  if fits : count ≤ cursor.remaining then
    .ok (cursor.ahead.take count, cursor.advance count fits)
  else
    .error (.insufficientData count cursor.remaining)

/-- The value at the cursor, which stays where it is. -/
def peek (α : Type) [BigEndian α] (cursor : Cursor) : Except Fault α :=
  (cursor.next (BigEndian.width α)).map fun taken => BigEndian.ofBytes α taken.1

/-- The value `offset` bytes behind the cursor, which stays where it is.

Offsets are machine words and so are the sums made with them: an offset near the top of the range
wraps, and then names bytes in front of the cursor or a range that ends before it starts. -/
def peekAt (α : Type) [BigEndian α] (cursor : Cursor) (offset : UInt64) : Except Fault α :=
  let width := UInt64.ofNat (BigEndian.width α)
  let needed := offset + width
  if cursor.remaining < needed.toNat then
    .error (.insufficientData needed.toNat cursor.remaining)
  else if width ≤ needed then
    .ok (BigEndian.ofBytes α ((cursor.ahead.drop offset.toNat).take (BigEndian.width α)))
  else
    let start := UInt64.ofNat cursor.position + offset
    let stop := start + width
    if stop < start then
      .error (.reversedRange start.toNat stop.toNat)
    else
      .ok (BigEndian.ofBytes α ((cursor.bytes.drop start.toNat).take (BigEndian.width α)))

end Cursor

/-- A read of some shape: a value or a fault, and in both cases the cursor left behind. -/
abbrev Decoder := ExceptT Fault (StateM Cursor)

namespace Decoder

def run {α : Type} (decoder : Decoder α) (cursor : Cursor) : Except Fault α × Cursor :=
  StateT.run (ExceptT.run decoder) cursor

def bytes (count : Nat) : Decoder (List UInt8) := do
  let cursor ← get
  match cursor.next count with
  | .ok (taken, behind) => set behind; return taken
  | .error fault => throw fault

/-- One value. -/
def value (α : Type) [BigEndian α] : Decoder α := do
  return BigEndian.ofBytes α (← bytes (BigEndian.width α))

/-- `count` values of one type; nothing is read unless all of them are there. -/
def values (α : Type) [BigEndian α] (count : Nat) : Decoder (Vector α count) := do
  let taken ← bytes (BigEndian.width α * count)
  return Vector.ofFn fun index =>
    BigEndian.ofBytes α ((taken.drop (BigEndian.width α * index)).take (BigEndian.width α))

/-- Passes over `count` bytes. -/
def skip (count : Nat) : Decoder Unit := do
  let _ ← bytes count

def rest : Decoder (List UInt8) := do
  bytes (← get).remaining

/-- A separate cursor over the next `count` bytes, which this one passes over. -/
def slice (count : Nat) : Decoder Cursor := do
  return Cursor.ofBytes (← bytes count)

end Decoder

end ArmLink.Wire
