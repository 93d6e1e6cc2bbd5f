import ArmLink.Proofs.Servo.Steps
import ArmLink.Proofs.Wire.Writing

/-!
Servo records, written and read.

A record has fifteen fields at fixed places, and what is read of it is given by `Command.ofBytes`.
Whatever numbers the values are made of, a record is read as it was written but for what the values
lose on the way (`decode_encode`); if values that came from the wire lose nothing, a record that was
read is written again as it came (`encode_of_decode`).  Over the real numbers they lose nothing.

Main statement: `codec_of_records`.
-/

namespace ArmLink.Servo

open Wire

section Records

variable {α : Type} [Scalar α] {bytes : List UInt8} {command : Command α} {flag : Flag}

namespace Command

/-- What is left of a record on the wire. -/
def quantized (command : Command α) : Command α :=
  { command with
    positions := command.positions.map Servo.quantized
    velocities := command.velocities.map Servo.quantized }

/-- Six values whose steps begin at an offset. -/
def valuesAt (offset : Nat) (bytes : List UInt8) : Joints α :=
  Vector.ofFn fun joint : Fin jointCount => fromFixed (fieldAt Int32 (offset + 4 * joint) bytes)

/-- The record that fills some bytes, with a flag. -/
def ofBytes (flag : Flag) (bytes : List UInt8) : Command α where
  sequence := fieldAt UInt32 0 bytes
  positions := valuesAt 4 bytes
  velocities := valuesAt 28 bytes
  flag := flag

end Command

/-! ### Reading -/

theorem Flag.ofCode?_eq_some {code : Int32} : Flag.ofCode? code = some flag ↔ flag.code = code := by
  unfold Flag.ofCode?
  cases flag <;> split_ifs <;> simp_all [Flag.code, eq_comm]

theorem Flag.ofCode?_eq_none {code : Int32} : Flag.ofCode? code = none ↔ code ≠ 0 ∧ code ≠ 1 := by
  unfold Flag.ofCode?
  split_ifs <;> simp_all

namespace Command

/-- The fields of a record, before anything is made of them. -/
def fields : Decoder (UInt32 × Joints Int32 × Joints Int32 × Int32) := do
  let sequence ← Decoder.value UInt32
  let positions ← Decoder.values Int32 jointCount
  let velocities ← Decoder.values Int32 jointCount
  let code ← Decoder.value Int32
  return (sequence, positions, velocities, code)

theorem reads_fields : Decoder.Reads fields 56 fun ahead =>
    (fieldAt UInt32 0 ahead, Vector.ofFn fun joint => fieldAt Int32 (4 + 4 * joint) ahead,
      Vector.ofFn fun joint => fieldAt Int32 (28 + 4 * joint) ahead, fieldAt Int32 52 ahead) := by
  apply Decoder.Reads.congr ((Decoder.Reads.value _).bind fun _ =>
    (Decoder.Reads.values _ _).bind fun _ => (Decoder.Reads.values _ _).bind fun _ =>
      (Decoder.Reads.value _).bind fun _ => .pure _) rfl
  intro ahead
  simp only [fieldAt_drop, List.drop_drop]
  rfl

theorem decodeFields_eq : (decodeFields : Decoder (Command α)) = fields >>= fun found =>
    match Flag.ofCode? found.2.2.2 with
    | some flag => return { sequence := found.1, positions := found.2.1.map fromFixed,
                            velocities := found.2.2.1.map fromFixed, flag }
    | none => throw (.invalidValue "flag" found.2.2.2.toInt) := by
  simp only [fields, bind_assoc, pure_bind]
  rfl

/-- What comes of bytes as many as a record has. -/
theorem decode_of_length (whole : bytes.length = recordSize) :
    decode bytes =
      match Flag.ofCode? (fieldAt Int32 52 bytes) with
      | some flag => .ok (ofBytes flag bytes : Command α)
      | none => .error (.invalidValue "flag" (fieldAt Int32 52 bytes).toInt) := by
  have fits : 56 ≤ (Cursor.ofBytes bytes).remaining := whole.ge
  rw [decode, if_pos whole, decodeFields_eq, Decoder.run_bind, reads_fields.whole _ fits]
  dsimp only
  rw [Cursor.ofBytes_ahead]
  cases Flag.ofCode? (fieldAt Int32 52 bytes) with
  | none => rfl
  | some flag =>
    simp only [Decoder.run_pure, ofBytes, valuesAt, Vector.map_ofFn]
    rfl

theorem decode_eq_ok : decode bytes = .ok command ↔
    bytes.length = recordSize ∧
      command.flag.code = fieldAt Int32 52 bytes ∧ ofBytes command.flag bytes = command := by
  by_cases whole : bytes.length = recordSize
  · rw [decode_of_length whole]
    cases found : Flag.ofCode? (fieldAt Int32 52 bytes) with
    | none =>
      obtain ⟨notStop, notKeepAlive⟩ := Flag.ofCode?_eq_none.mp found
      have other : command.flag.code ≠ fieldAt Int32 52 bytes := by
        cases command.flag
        · exact notStop.symm
        · exact notKeepAlive.symm
      simp [other]
    | some flag =>
      have code := Flag.ofCode?_eq_some.mp found
      simp only [whole, true_and, Except.ok.injEq]
      constructor
      · rintro rfl
        exact ⟨code, rfl⟩
      · rintro ⟨same, read⟩
        obtain rfl : flag = command.flag :=
          Option.some.inj (found.symm.trans (Flag.ofCode?_eq_some.mpr same))
        exact read
  · simp [decode, whole]

/-! ### Writing -/

/-- Words are found one behind the other. -/
theorem fieldAt_words (words : List Int32) (rest : List UInt8) (index : Nat)
    (inside : index < words.length) :
    fieldAt Int32 (4 * index)
      (words.flatMap (fun word => bytesOfNat 4 word.toUInt32.toNat) ++ rest) = words[index] := by
  induction words generalizing index with
  | nil => cases inside
  | cons word words ih =>
    rw [List.flatMap_cons, List.append_assoc]
    cases index with
    | zero => exact Numbering.int32.read word _
    | succ index =>
      rw [fieldAt_append (4 * index) (by rw [length_bytesOfNat]; omega)]
      exact ih index (Nat.lt_of_succ_lt_succ inside)

theorem length_encodeSteps (values : Joints α) : (encodeSteps values).length = 24 := by
  simp [encodeSteps, List.length_flatMap, length_bytesOfNat, jointCount]

theorem fieldAt_encodeSteps (values : Joints α) (rest : List UInt8) (joint : Fin jointCount) :
    fieldAt Int32 (4 * joint) (encodeSteps values ++ rest) = toFixed (values.get joint) := by
  have inside : joint.val < (values.toList.map toFixed).length := by simp
  have found := fieldAt_words (values.toList.map toFixed) rest joint inside
  rw [List.flatMap_map] at found
  rw [encodeSteps, found]
  simp [Vector.get]

theorem encode_eq (command : Command α) : command.encode =
    bytesOfNat 4 command.sequence.toNat ++ (encodeSteps command.positions ++
      (encodeSteps command.velocities ++ bytesOfNat 4 command.flag.code.toUInt32.toNat)) := by
  simp only [encode, List.append_assoc]

theorem length_encode (command : Command α) : command.encode.length = recordSize := by
  simp [encode, length_bytesOfNat, length_encodeSteps, recordSize]

end Command

/-- Where the fields of a record stand. -/
structure Layout (command : Command α) : Prop where
  sequence : fieldAt UInt32 0 command.encode = command.sequence
  positions : ∀ joint : Fin jointCount,
    fieldAt Int32 (4 + 4 * joint) command.encode = toFixed (command.positions.get joint)
  velocities : ∀ joint : Fin jointCount,
    fieldAt Int32 (28 + 4 * joint) command.encode = toFixed (command.velocities.get joint)
  flag : fieldAt Int32 52 command.encode = command.flag.code

theorem layout_of_encode (command : Command α) : Layout command := by
  constructor
  · rw [Command.encode_eq]
    exact Numbering.uint32.read _ _
  · intro joint
    rw [Command.encode_eq, fieldAt_append (4 * joint) (by rw [length_bytesOfNat])]
    exact Command.fieldAt_encodeSteps _ _ joint
  · intro joint
    rw [Command.encode_eq, fieldAt_append (24 + 4 * joint) (by rw [length_bytesOfNat]; omega),
      fieldAt_append (4 * joint) (by rw [Command.length_encodeSteps])]
    exact Command.fieldAt_encodeSteps _ _ joint
  · rw [Command.encode_eq, fieldAt_append 48 (by rw [length_bytesOfNat]),
      fieldAt_append 24 (by rw [Command.length_encodeSteps]),
      fieldAt_append 0 (by rw [Command.length_encodeSteps]), ← List.append_nil (bytesOfNat 4 _)]
    exact Numbering.int32.read _ _

namespace Command

theorem valuesAt_eq {offset : Nat} {values : Joints α}
    (found : ∀ joint : Fin jointCount,
      fieldAt Int32 (offset + 4 * joint) bytes = toFixed (values.get joint)) :
    valuesAt offset bytes = values.map Servo.quantized := by
  apply Vector.ext
  intro joint inside
  rw [valuesAt, Vector.getElem_ofFn, Vector.getElem_map, found ⟨joint, inside⟩]
  rfl

/-- A record is read as it was written, but for what its values lose on the wire. -/
theorem decode_encode (command : Command α) : decode command.encode = .ok command.quantized := by
  have layout := layout_of_encode command
  apply decode_eq_ok.mpr
  refine ⟨length_encode command, layout.flag.symm, ?_⟩
  rw [ofBytes, layout.sequence, valuesAt_eq layout.positions, valuesAt_eq layout.velocities]
  rfl

/-- Pieces of four bytes, put together again. -/
theorem flatten_words (count first : Nat) (bytes : List UInt8) :
    (List.ofFn fun index : Fin count => (bytes.drop (first + 4 * index)).take 4).flatten =
      (bytes.drop first).take (4 * count) := by
  induction count generalizing first with
  | zero => rfl
  | succ count ih =>
    have later (index : Fin count) : first + 4 * (index.succ : Nat) = first + 4 + 4 * index := by
      rw [Fin.val_succ]
      omega
    have more : 4 * (count + 1) = 4 + 4 * count := by omega
    rw [List.ofFn_succ, List.flatten_cons]
    simp only [later]
    rw [ih, more, List.take_add, List.drop_drop]
    rfl

/-- Values that came from the wire are written as they came, if they lose nothing. -/
theorem encodeSteps_valuesAt (faithful : ∀ steps, toFixed (fromFixed steps : α) = steps)
    {offset : Nat} (inside : offset + 24 ≤ bytes.length) :
    encodeSteps (valuesAt offset bytes : Joints α) = (bytes.drop offset).take 24 := by
  have word (joint : Fin jointCount) :
      bytesOfNat 4
          (toFixed (fromFixed (fieldAt Int32 (offset + 4 * joint) bytes) : α)).toUInt32.toNat =
        (bytes.drop (offset + 4 * joint)).take 4 := by
    have last : joint.val < 6 := joint.isLt
    rw [faithful]
    exact Numbering.int32.write (show offset + 4 * joint + 4 ≤ bytes.length by omega)
  rw [encodeSteps, valuesAt, Vector.toList_ofFn, List.flatMap_def, List.map_ofFn,
    ← flatten_words 6]
  congr 2
  funext joint
  exact word joint

theorem encode_of_decode (faithful : ∀ steps, toFixed (fromFixed steps : α) = steps)
    (read : decode bytes = .ok command) : command.encode = bytes := by
  obtain ⟨whole, code, same⟩ := decode_eq_ok.mp read
  have length : bytes.length = 56 := whole
  have sequence : bytesOfNat 4 (fieldAt UInt32 0 bytes).toNat = (bytes.drop 0).take 4 :=
    Numbering.uint32.write (show 0 + 4 ≤ bytes.length by omega)
  have flag : bytesOfNat 4 (fieldAt Int32 52 bytes).toUInt32.toNat = (bytes.drop 52).take 4 :=
    Numbering.int32.write (show 52 + 4 ≤ bytes.length by omega)
  have last : (bytes.drop 52).take 4 = bytes.drop 52 := by
    rw [List.take_of_length_le]
    rw [List.length_drop]
    omega
  rw [encode_eq, code, flag, last, ← same]
  dsimp only [ofBytes]
  rw [sequence, encodeSteps_valuesAt faithful (by omega), encodeSteps_valuesAt faithful (by omega),
    take_drop_append 28 24, take_drop_append 4 24, take_drop_append 0 4, List.drop_zero]

/-- Bytes are a record if they are as many as one has and end in the code of a flag. -/
theorem exists_decode_iff :
    (∃ command : Command α, decode bytes = .ok command) ↔
      bytes.length = recordSize ∧ (fieldAt Int32 52 bytes = 0 ∨ fieldAt Int32 52 bytes = 1) := by
  simp only [decode_eq_ok]
  constructor
  · rintro ⟨command, whole, code, -⟩
    refine ⟨whole, ?_⟩
    rw [← code]
    cases command.flag
    · exact .inl rfl
    · exact .inr rfl
  · rintro ⟨whole, stop | keepAlive⟩
    · exact ⟨ofBytes .stop bytes, whole, stop.symm, rfl⟩
    · exact ⟨ofBytes .keepAlive bytes, whole, keepAlive.symm, rfl⟩

theorem decode_of_unknown_flag (whole : bytes.length = recordSize)
    (notStop : fieldAt Int32 52 bytes ≠ 0) (notKeepAlive : fieldAt Int32 52 bytes ≠ 1) :
    (decode bytes : Except Fault (Command α)) =
      .error (.invalidValue "flag" (fieldAt Int32 52 bytes).toInt) := by
  rw [decode_of_length whole, Flag.ofCode?_eq_none.mpr ⟨notStop, notKeepAlive⟩]

theorem quantized_quantized (faithful : ∀ steps, toFixed (fromFixed steps : α) = steps)
    (command : Command α) : command.quantized.quantized = command.quantized := by
  have again : Servo.quantized ∘ (Servo.quantized : α → α) = Servo.quantized := by
    funext value
    exact congrArg fromFixed (faithful (toFixed value))
  simp only [quantized, Vector.map_map, again]

end Command

end Records

/-- How records are written and read.  The layout does not depend on the numbers that values are made
of; what values lose on the wire is said for real numbers, and for doubles as far as they are
rounded to whole steps. -/
structure Codec : Prop where
  size : ∀ (α : Type) [Scalar α] (command : Command α), command.encode.length = 56
  layout : ∀ (α : Type) [Scalar α] (command : Command α), Layout command
  accepted : ∀ (α : Type) [Scalar α] (bytes : List UInt8),
    (∃ command : Command α, Command.decode bytes = .ok command) ↔
      bytes.length = 56 ∧ (fieldAt Int32 52 bytes = 0 ∨ fieldAt Int32 52 bytes = 1)
  otherSize : ∀ (α : Type) [Scalar α] (bytes : List UInt8), bytes.length ≠ 56 →
    (Command.decode bytes : Except Fault (Command α)) = .error (.invalidLength 56 bytes.length)
  otherFlag : ∀ (α : Type) [Scalar α] (bytes : List UInt8), bytes.length = 56 →
    fieldAt Int32 52 bytes ≠ 0 → fieldAt Int32 52 bytes ≠ 1 →
      (Command.decode bytes : Except Fault (Command α)) =
        .error (.invalidValue "flag" (fieldAt Int32 52 bytes).toInt)
  /-- A record that was read is written again as it came. -/
  written : ∀ bytes (command : Command ℝ),
    Command.decode bytes = .ok command → command.encode = bytes
  /-- A record is read with its sequence number and its flag, and with what is left of its values. -/
  read : ∀ command : Command ℝ, ∃ left : Command ℝ, Command.decode command.encode = .ok left ∧
    left.sequence = command.sequence ∧ left.flag = command.flag ∧
      ∀ joint, left.positions.get joint = quantized (command.positions.get joint) ∧
        left.velocities.get joint = quantized (command.velocities.get joint)
  /-- Written and read once more, it stays as it is. -/
  again : ∀ command left : Command ℝ, Command.decode command.encode = .ok left →
    Command.decode left.encode = .ok left
  /-- What is left of a value is the nearest whole number of steps that fits into a word. -/
  nearest : ∀ value : ℝ, ∃ number, IsNearest (value * 1000000) number ∧
    quantized value = saturated number / 1000000
  near : ∀ value : ℝ, |value| ≤ 2147.483647 → |quantized value - value| ≤ 0.5 / 1000000
  monotone : Monotone (quantized : ℝ → ℝ)
  /-- The steps of a double are the nearest to its product with the resolution, whose exact value is
  rounded like any other. -/
  double : ∀ value : Float, (value * Scalar.ofNat resolution).isFinite = true →
    ∃ number, IsNearest (Decimal.Reading.exact (value * Scalar.ofNat resolution)) number ∧
      (toFixed value).toInt = saturated number

theorem codec_of_records : Codec where
  size _ _ := Command.length_encode
  layout _ _ := layout_of_encode
  accepted _ _ _ := Command.exists_decode_iff
  otherSize _ _ _ other := if_neg other
  otherFlag _ _ _ := Command.decode_of_unknown_flag
  written _ _ := Command.encode_of_decode toFixed_fromFixed
  read command := by
    refine ⟨command.quantized, Command.decode_encode command, rfl, rfl, fun joint => ⟨?_, ?_⟩⟩
    · exact Vector.getElem_map _ joint.isLt
    · exact Vector.getElem_map _ joint.isLt
  again command left read := by
    obtain rfl : command.quantized = left :=
      Except.ok.inj ((Command.decode_encode command).symm.trans read)
    rw [Command.decode_encode, Command.quantized_quantized toFixed_fromFixed]
  nearest value := ⟨_, exists_isNearest _, real_quantized (exists_isNearest _)⟩
  near _ := abs_quantized_sub_le
  monotone := quantized_mono
  double _ := toInt_toFixed_double

end ArmLink.Servo
