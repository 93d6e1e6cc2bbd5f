import ArmLink.Proofs.Telemetry.Framing
import ArmLink.Proofs.Wire.Fields

/-!
Samples of the realtime feed, as tables of indices.

A body is a row of doubles, and every quantity is the double with a fixed index or a run of doubles
from a fixed index on.  The decoders follow the tables (`RealtimeSample.reads`): a body is read
exactly when it has all doubles of its layout, and nothing but the doubles that the table names
counts.  All layouts agree on the first 49 doubles, and each layout of a controller generation
begins with the whole table of the one before it.  The main statement is `sampling_of_decode`.
-/

namespace ArmLink.Telemetry

open Firmware Wire
open Wire.Decoder (Reads)

namespace Realtime

variable {bytes others : List UInt8}

/-- The double with an index. -/
def doubleAt (index : Nat) (bytes : List UInt8) : Float := fieldAt Float (8 * index) bytes

/-- A run of doubles from an index on. -/
def doublesAt (count first : Nat) (bytes : List UInt8) : Vector Float count :=
  Vector.ofFn fun index => doubleAt (first + index) bytes

/-! ### Tables -/

def Common.ofBytes (bytes : List UInt8) : Common where
  time := doubleAt 0 bytes
  targetPositions := doublesAt 6 1 bytes
  targetVelocities := doublesAt 6 7 bytes
  targetAccelerations := doublesAt 6 13 bytes
  targetCurrents := doublesAt 6 19 bytes
  targetMoments := doublesAt 6 25 bytes
  positions := doublesAt 6 31 bytes
  velocities := doublesAt 6 37 bytes
  currents := doublesAt 6 43 bytes

def V1_6.ofBytes (bytes : List UInt8) : V1_6 where
  toCommon := Common.ofBytes bytes
  toolAcceleration := doublesAt 3 49 bytes
  toolForce := doublesAt 6 67 bytes
  toolPose := doublesAt 6 73 bytes
  toolSpeed := doublesAt 6 79 bytes
  digitalInputs := doubleAt 85 bytes
  motorTemperatures := doublesAt 6 86 bytes
  controllerTimer := doubleAt 92 bytes
  testValue := doubleAt 93 bytes

def V1_8.ofBytes (bytes : List UInt8) : V1_8 where
  toV1_6 := V1_6.ofBytes bytes
  robotMode := doubleAt 94 bytes
  jointModes := doublesAt 6 95 bytes

def V3_0.ofBytes (bytes : List UInt8) : V3_0 where
  toCommon := Common.ofBytes bytes
  controlCurrents := doublesAt 6 49 bytes
  toolPose := doublesAt 6 55 bytes
  toolSpeed := doublesAt 6 61 bytes
  toolForce := doublesAt 6 67 bytes
  targetToolPose := doublesAt 6 73 bytes
  targetToolSpeed := doublesAt 6 79 bytes
  digitalInputs := doubleAt 85 bytes
  motorTemperatures := doublesAt 6 86 bytes
  controllerTimer := doubleAt 92 bytes
  testValue := doubleAt 93 bytes
  robotMode := doubleAt 94 bytes
  jointModes := doublesAt 6 95 bytes
  safetyMode := doubleAt 101 bytes
  toolAcceleration := doublesAt 3 108 bytes
  speedScaling := doubleAt 117 bytes
  momentum := doubleAt 118 bytes
  mainVoltage := doubleAt 121 bytes
  robotVoltage := doubleAt 122 bytes
  robotCurrent := doubleAt 123 bytes
  jointVoltages := doublesAt 6 124 bytes

def V3_2.ofBytes (bytes : List UInt8) : V3_2 where
  toV3_0 := V3_0.ofBytes bytes
  digitalOutputs := doubleAt 130 bytes
  programState := doubleAt 131 bytes

def V3_5.ofBytes (bytes : List UInt8) : V3_5 where
  toV3_2 := V3_2.ofBytes bytes
  elbowPosition := doublesAt 3 132 bytes
  elbowVelocity := doublesAt 3 135 bytes

/-- The number of doubles in a body. -/
def doubles : RealtimeLayout → Nat
  | .v1_6 => 94
  | .v1_8 => 101
  | .v3_0 => 130
  | .v3_2 => 132
  | .v3_5 => 138

/-- The places of the doubles that carry nothing, each run with its first index and the one behind
its last. -/
def gaps : RealtimeLayout → List (Nat × Nat)
  | .v1_6 | .v1_8 => [(52, 67)]
  | .v3_0 | .v3_2 | .v3_5 => [(102, 108), (111, 117), (119, 121)]

/-- Whether the double with an index is part of a sample. -/
def carries (layout : RealtimeLayout) (index : Nat) : Bool :=
  decide (index < doubles layout) &&
    (gaps layout).all fun (first, behind) => decide (index < first) || decide (behind ≤ index)

/-- Bodies that differ in nothing that a layout names. -/
def Agree (layout : RealtimeLayout) (bytes others : List UInt8) : Prop :=
  ∀ index, carries layout index = true → doubleAt index bytes = doubleAt index others

theorem packetSize_eq (layout : RealtimeLayout) : layout.packetSize = 4 + 8 * doubles layout := by
  cases layout <;> rfl

end Realtime

open Realtime

namespace RealtimeSample

def ofBytes (layout : RealtimeLayout) (bytes : List UInt8) : RealtimeSample :=
  match layout with
  | .v1_6 => .v1_6 (.ofBytes bytes)
  | .v1_8 => .v1_8 (.ofBytes bytes)
  | .v3_0 => .v3_0 (.ofBytes bytes)
  | .v3_2 => .v3_2 (.ofBytes bytes)
  | .v3_5 => .v3_5 (.ofBytes bytes)

/-- The sample that a newer one contains. -/
def older? : RealtimeSample → Option RealtimeSample
  | .v1_8 sample => some (.v1_6 sample.toV1_6)
  | .v3_2 sample => some (.v3_0 sample.toV3_0)
  | .v3_5 sample => some (.v3_2 sample.toV3_2)
  | .v1_6 _ | .v3_0 _ => none

end RealtimeSample

/-- How samples of a layout are read. -/
structure Sampling (layout : RealtimeLayout) : Prop where
  accepted : ∀ cursor,
    (∃ sample, ((RealtimeSample.decode layout).run cursor).1 = .ok sample) ↔
      layout.packetSize - 4 ≤ cursor.remaining
  /-- Every field is what stands at its place, whatever the bytes are. -/
  table : ∀ cursor (fits : layout.packetSize - 4 ≤ cursor.remaining),
    (RealtimeSample.decode layout).run cursor =
      (.ok (.ofBytes layout cursor.ahead), cursor.advance (layout.packetSize - 4) fits)
  /-- Nothing else counts. -/
  gaps : ∀ bytes others, Agree layout bytes others →
    RealtimeSample.ofBytes layout bytes = .ofBytes layout others
  /-- The measured joints have the same places in all layouts. -/
  joints : ∀ bytes, (RealtimeSample.ofBytes layout bytes).common = .ofBytes bytes
  newer : ∀ cursor sample older,
    ((RealtimeSample.decode layout).run cursor).1 = .ok sample → sample.older? = some older →
      ((RealtimeSample.decode older.layout).run cursor).1 = .ok older
  /-- What a framed packet reports. -/
  framed : ∀ cursor : Cursor, 4 ≤ cursor.remaining → layout.packetSize ≤ declaredAt cursor →
    ∀ fits : (declaredAt cursor).toNat ≤ cursor.remaining,
      ∃ packet, (Strategy.realtime layout).parse cursor =
          (.ok packet, cursor.advance (declaredAt cursor).toNat fits) ∧
        packet.length = (declaredAt cursor).toNat ∧
        packet.controllerTime = some (doubleAt 0 (cursor.ahead.drop 4)) ∧
        packet.positions = some (doublesAt 6 31 (cursor.ahead.drop 4)) ∧
        packet.velocities = some (doublesAt 6 37 (cursor.ahead.drop 4))

/-! ### Doubles -/

namespace Realtime

variable {bytes others : List UInt8} {count first : Nat}

@[simp] theorem doubleAt_drop (index start : Nat) (bytes : List UInt8) :
    doubleAt index (bytes.drop (8 * start)) = doubleAt (start + index) bytes := by
  rw [doubleAt, fieldAt_drop, ← Nat.mul_add]
  rfl

@[simp] theorem doublesAt_drop (count first start : Nat) (bytes : List UInt8) :
    doublesAt count first (bytes.drop (8 * start)) = doublesAt count (start + first) bytes := by
  simp [doublesAt, Nat.add_assoc]

theorem Agree.doublesAt {layout : RealtimeLayout} (agree : Agree layout bytes others)
    (carried : ∀ index, index < count → carries layout (first + index) = true) :
    doublesAt count first bytes = doublesAt count first others := by
  apply Vector.ext
  intro index inside
  simpa [Realtime.doublesAt] using agree _ (carried index inside)

theorem reads_double : Reads double (8 * 1) (doubleAt 0) := .value Float

theorem reads_values (count : Nat) :
    Reads (Decoder.values Float count) (8 * count) (doublesAt count 0) := by
  apply Reads.congr (Reads.values Float count) rfl
  intro bytes
  simp [doublesAt, doubleAt, BigEndian.width]

theorem reads_joints : Reads joints (8 * 6) (doublesAt 6 0) := reads_values 6

theorem reads_triple : Reads triple (8 * 3) (doublesAt 3 0) := reads_values 3

theorem reads_sextuple : Reads sextuple (8 * 6) (doublesAt 6 0) := reads_values 6

theorem reads_reserved (count : Nat) : Reads (reserved count) (8 * count) fun _ => () := by
  rw [Nat.mul_comm]
  exact .skip _

/-! ### Layouts -/

theorem Common.reads : Reads Common.decode (8 * 49) Common.ofBytes := by
  apply Reads.congr
  · apply Reads.bind reads_double
    intro time
    repeat (apply Reads.bind reads_joints; intro _)
    apply Reads.pure
  · rfl
  · intro bytes
    simp only [doublesAt_drop]
    rfl

theorem V1_6.reads : Reads V1_6.decode (8 * 94) V1_6.ofBytes := by
  apply Reads.congr
  · apply Reads.bind Common.reads
    intro common
    apply Reads.bind reads_triple
    intro toolAcceleration
    apply Reads.bind (reads_reserved 15)
    intro _
    repeat (apply Reads.bind reads_sextuple; intro _)
    apply Reads.bind reads_double
    intro digitalInputs
    apply Reads.bind reads_joints
    intro motorTemperatures
    repeat (apply Reads.bind reads_double; intro _)
    apply Reads.pure
  · rfl
  · intro bytes
    simp only [doubleAt_drop, doublesAt_drop]
    rfl

theorem V1_8.reads : Reads V1_8.decode (8 * 101) V1_8.ofBytes := by
  apply Reads.congr
  · apply Reads.bind V1_6.reads
    intro older
    apply Reads.bind reads_double
    intro robotMode
    apply Reads.bind reads_joints
    intro jointModes
    apply Reads.pure
  · rfl
  · intro bytes
    simp only [doubleAt_drop, doublesAt_drop]
    rfl

theorem V3_0.reads : Reads V3_0.decode (8 * 130) V3_0.ofBytes := by
  apply Reads.congr
  · apply Reads.bind Common.reads
    intro common
    apply Reads.bind reads_joints
    intro controlCurrents
    repeat (apply Reads.bind reads_sextuple; intro _)
    apply Reads.bind reads_double
    intro digitalInputs
    apply Reads.bind reads_joints
    intro motorTemperatures
    repeat (apply Reads.bind reads_double; intro _)
    apply Reads.bind reads_joints
    intro jointModes
    apply Reads.bind reads_double
    intro safetyMode
    apply Reads.bind (reads_reserved 6)
    intro _
    apply Reads.bind reads_triple
    intro toolAcceleration
    apply Reads.bind (reads_reserved 6)
    intro _
    repeat (apply Reads.bind reads_double; intro _)
    apply Reads.bind (reads_reserved 2)
    intro _
    repeat (apply Reads.bind reads_double; intro _)
    apply Reads.bind reads_joints
    intro jointVoltages
    apply Reads.pure
  · rfl
  · intro bytes
    simp only [doubleAt_drop, doublesAt_drop]
    rfl

theorem V3_2.reads : Reads V3_2.decode (8 * 132) V3_2.ofBytes := by
  apply Reads.congr
  · apply Reads.bind V3_0.reads
    intro older
    repeat (apply Reads.bind reads_double; intro _)
    apply Reads.pure
  · rfl
  · intro bytes
    simp only [doubleAt_drop]
    rfl

theorem V3_5.reads : Reads V3_5.decode (8 * 138) V3_5.ofBytes := by
  apply Reads.congr
  · apply Reads.bind V3_2.reads
    intro older
    repeat (apply Reads.bind reads_triple; intro _)
    apply Reads.pure
  · rfl
  · intro bytes
    simp only [doublesAt_drop]
    rfl

end Realtime

namespace RealtimeSample

variable {layout : RealtimeLayout} {sample older : RealtimeSample} {cursor : Cursor}

theorem reads (layout : RealtimeLayout) :
    Reads (decode layout) (layout.packetSize - 4) (ofBytes layout) := by
  rw [packetSize_eq, Nat.add_sub_cancel_left]
  cases layout with
  | v1_6 => exact V1_6.reads.map _
  | v1_8 => exact V1_8.reads.map _
  | v3_0 => exact V3_0.reads.map _
  | v3_2 => exact V3_2.reads.map _
  | v3_5 => exact V3_5.reads.map _

theorem decode_iff :
    ((decode layout).run cursor).1 = .ok sample ↔
      layout.packetSize - 4 ≤ cursor.remaining ∧ sample = ofBytes layout cursor.ahead := by
  rcases Nat.lt_or_ge cursor.remaining (layout.packetSize - 4) with missing | fits
  · obtain ⟨fault, behind, failed⟩ := (reads layout).short cursor missing
    rw [failed]
    simp
    omega
  · rw [(reads layout).whole cursor fits]
    simp [fits, eq_comm]

theorem common_ofBytes (layout : RealtimeLayout) (bytes : List UInt8) :
    (ofBytes layout bytes).common = Common.ofBytes bytes := by
  cases layout <;> rfl

/-- The table of an older layout is the beginning of the newer one's. -/
theorem ofBytes_of_older? {bytes : List UInt8}
    (inside : (ofBytes layout bytes).older? = some older) :
    older.layout.packetSize ≤ layout.packetSize ∧ older = ofBytes older.layout bytes := by
  cases layout with
  | v1_6 => cases inside
  | v3_0 => cases inside
  | v1_8 => cases inside; exact ⟨Nat.le_of_ble_eq_true rfl, rfl⟩
  | v3_2 => cases inside; exact ⟨Nat.le_of_ble_eq_true rfl, rfl⟩
  | v3_5 => cases inside; exact ⟨Nat.le_of_ble_eq_true rfl, rfl⟩

theorem ofBytes_of_agree {bytes others : List UInt8} (agree : Agree layout bytes others) :
    ofBytes layout bytes = ofBytes layout others := by
  have double := agree
  have run {count first : Nat}
      (carried : ∀ index, index < count → carries layout (first + index) = true) :
      doublesAt count first bytes = doublesAt count first others := agree.doublesAt carried
  cases layout <;>
    simp (disch := decide) only [ofBytes, V1_6.ofBytes, V1_8.ofBytes, V3_0.ofBytes, V3_2.ofBytes,
      V3_5.ofBytes, Common.ofBytes, double _, run]

/-- The body of a frame that has room for a sample shows what stands behind the length field. -/
theorem read_of_frame {length : Nat} (covers : layout.packetSize ≤ length)
    (fits : length ≤ cursor.remaining) :
    (Body.realtime layout).read length ((cursor.ahead.take length).drop 4) =
      .ok { length, payload := .realtime (ofBytes layout (cursor.ahead.drop 4)) } := by
  have header := packetSize_eq layout
  have size : (cursor.ahead.take length).length = length := by
    rw [List.length_take, Cursor.length_ahead, Nat.min_eq_left fits]
  have front : cursor.ahead.drop 4 =
      (cursor.ahead.take length).drop 4 ++ cursor.ahead.drop length := by
    rw [← List.drop_append_of_le_length (by omega), List.take_append_drop]
  have enough : layout.packetSize - 4 ≤ ((cursor.ahead.take length).drop 4).length := by
    rw [List.length_drop]
    omega
  have payload := (reads layout).map Payload.realtime
  rw [front, (reads layout).value_append _ _ enough]
  unfold Body.read
  rw [Body.realtime, payload.whole (Cursor.ofBytes _) enough]
  rfl

theorem parse_of_frame (header : 4 ≤ cursor.remaining)
    (covers : layout.packetSize ≤ declaredAt cursor)
    (fits : (declaredAt cursor).toNat ≤ cursor.remaining) :
    (Strategy.realtime layout).parse cursor =
      (.ok {
          length := (declaredAt cursor).toNat
          payload := .realtime (ofBytes layout (cursor.ahead.drop 4)) },
        cursor.advance (declaredAt cursor).toNat fits) := by
  have four : ((Strategy.realtime layout).header : Int) ≤ layout.packetSize := by
    rw [packetSize_eq]
    change ((4 : Nat) : Int) ≤ _
    omega
  have behind : (Strategy.realtime layout).parse cursor = _ := Strategy.parse_of_body header rfl
  rw [if_neg (by omega), dif_pos fits] at behind
  rw [behind, ← read_of_frame (by omega) fits]
  rfl

end RealtimeSample

/-- Every layout is read by its table, and newer layouts contain older ones. -/
theorem sampling_of_decode (layout : RealtimeLayout) : Sampling layout := by
  constructor
  · intro cursor
    simp [RealtimeSample.decode_iff]
  · exact (RealtimeSample.reads layout).whole
  · intro bytes others
    exact RealtimeSample.ofBytes_of_agree
  · exact RealtimeSample.common_ofBytes layout
  · intro cursor sample older found inside
    obtain ⟨fits, rfl⟩ := RealtimeSample.decode_iff.mp found
    obtain ⟨smaller, same⟩ := RealtimeSample.ofBytes_of_older? inside
    exact RealtimeSample.decode_iff.mpr ⟨by omega, same⟩
  · intro cursor header covers fits
    have same := RealtimeSample.common_ofBytes layout (cursor.ahead.drop 4)
    refine ⟨_, RealtimeSample.parse_of_frame header covers fits, rfl, ?_, ?_, ?_⟩
    · simp [Packet.controllerTime, same, Common.ofBytes]
    · simp [Packet.positions, same, Common.ofBytes]
    · simp [Packet.velocities, same, Common.ofBytes]

end ArmLink.Telemetry
