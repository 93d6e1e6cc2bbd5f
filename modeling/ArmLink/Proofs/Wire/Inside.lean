import ArmLink.Wire.Cursor

/-!
Reads stay inside the bytes they are given.

A decoder is `Inside` if it leaves the run of bytes alone, moves the cursor forward only, and never
takes a range that ends before it starts.  Since a cursor carries the proof that it stands inside its
run, an inside decoder reads nothing behind the end of the run and nothing in front of the place
where it began.  Taking bytes is inside, and so is every decoder that is put together from inside
ones (`Inside.bind`, `Inside.map`).
-/

namespace ArmLink.Wire

variable {α β : Type}

namespace Cursor

variable {cursor : Cursor} {count : Nat}

theorem next_of_le (fits : count ≤ cursor.remaining) :
    cursor.next count = .ok (cursor.ahead.take count, cursor.advance count fits) := by
  simp [next, fits]

theorem next_of_lt (short : cursor.remaining < count) :
    cursor.next count = .error (.insufficientData count cursor.remaining) := by
  have short : ¬ count ≤ cursor.remaining := by omega
  simp [next, short]

@[simp] theorem ofBytes_ahead (bytes : List UInt8) : (ofBytes bytes).ahead = bytes := rfl

@[simp] theorem ofBytes_remaining (bytes : List UInt8) : (ofBytes bytes).remaining = bytes.length :=
  rfl

/-- A look-ahead whose end can be named by a machine word takes the bytes that it names. -/
theorem peekAt_eq [BigEndian α] {offset : UInt64}
    (small : offset.toNat + BigEndian.width α < UInt64.size) :
    cursor.peekAt α offset =
      if offset.toNat + BigEndian.width α ≤ cursor.remaining then
        .ok (BigEndian.ofBytes α ((cursor.ahead.drop offset.toNat).take (BigEndian.width α)))
      else .error (.insufficientData (offset.toNat + BigEndian.width α) cursor.remaining) := by
  have width : (UInt64.ofNat (BigEndian.width α)).toNat = BigEndian.width α :=
    UInt64.toNat_ofNat_of_lt' (show _ < UInt64.size by omega)
  have needed : (offset + UInt64.ofNat (BigEndian.width α)).toNat =
      offset.toNat + BigEndian.width α := by
    rw [UInt64.toNat_add, width, Nat.mod_eq_of_lt small]
  have noWrap : UInt64.ofNat (BigEndian.width α) ≤ offset + UInt64.ofNat (BigEndian.width α) := by
    rw [UInt64.le_iff_toNat_le, needed, width]
    omega
  simp only [peekAt, needed, noWrap, if_true]
  by_cases fits : offset.toNat + BigEndian.width α ≤ cursor.remaining
  · rw [if_neg (by omega), if_pos fits]
  · rw [if_pos (by omega), if_neg fits]

end Cursor

namespace Decoder

/-- A decoder that stays inside the bytes it is given. -/
structure Inside (decoder : Decoder α) : Prop where
  bytes_eq : ∀ cursor, (decoder.run cursor).2.bytes = cursor.bytes
  position_le : ∀ cursor, cursor.position ≤ (decoder.run cursor).2.position
  inRange : ∀ cursor start stop, (decoder.run cursor).1 ≠ .error (.reversedRange start stop)

theorem run_bind (decoder : Decoder α) (next : α → Decoder β) (cursor : Cursor) :
    (decoder >>= next).run cursor =
      match decoder.run cursor with
      | (.ok value, behind) => (next value).run behind
      | (.error fault, behind) => (.error fault, behind) := by
  simp only [run, ExceptT.run_bind, StateT.run_bind]
  rcases StateT.run (ExceptT.run decoder) cursor with ⟨outcome, behind⟩
  cases outcome <;> rfl

theorem run_map (decoder : Decoder α) (f : α → β) (cursor : Cursor) :
    (f <$> decoder).run cursor = ((decoder.run cursor).1.map f, (decoder.run cursor).2) := by
  rw [← bind_pure_comp, run_bind]
  rcases decoder.run cursor with ⟨_ | value, behind⟩ <;> rfl

theorem run_bytes (count : Nat) (cursor : Cursor) :
    (bytes count).run cursor =
      match cursor.next count with
      | .ok (taken, behind) => (.ok taken, behind)
      | .error fault => (.error fault, cursor) := by
  unfold bytes
  rw [run_bind]
  change (match cursor.next count with
    | .ok (taken, behind) => (do set behind; return taken : Decoder (List UInt8))
    | .error fault => throw fault).run cursor = _
  cases cursor.next count <;> rfl

@[simp] theorem Inside.pure (value : α) : Inside (pure value : Decoder α) where
  bytes_eq _ := rfl
  position_le _ := Nat.le_refl _
  inRange _ _ _ equal := by cases equal

@[simp] theorem Inside.bind {decoder : Decoder α} {next : α → Decoder β} (first : Inside decoder)
    (later : ∀ value, Inside (next value)) : Inside (decoder >>= next) := by
  constructor
  · intro cursor
    have bytes := first.bytes_eq cursor
    rw [run_bind]
    rcases ran : decoder.run cursor with ⟨_ | value, behind⟩ <;> rw [ran] at bytes
    · exact bytes
    · exact ((later value).bytes_eq behind).trans bytes
  · intro cursor
    have forward := first.position_le cursor
    rw [run_bind]
    rcases ran : decoder.run cursor with ⟨_ | value, behind⟩ <;> rw [ran] at forward
    · exact forward
    · exact Nat.le_trans forward ((later value).position_le behind)
  · intro cursor start stop
    have inRange := first.inRange cursor start stop
    rw [run_bind]
    rcases ran : decoder.run cursor with ⟨fault | value, behind⟩ <;> rw [ran] at inRange
    · simpa using inRange
    · exact (later value).inRange behind start stop

@[simp] theorem Inside.map {decoder : Decoder α} (inside : Inside decoder) (f : α → β) :
    Inside (f <$> decoder) := by
  rw [← bind_pure_comp]
  exact inside.bind fun value => .pure (f value)

@[simp] theorem Inside.bytes (count : Nat) : Inside (bytes count) := by
  constructor
  · intro cursor
    rw [run_bytes]
    unfold Cursor.next
    split <;> rename_i taken
    · split at taken <;> cases taken
      rfl
    · rfl
  · intro cursor
    rw [run_bytes]
    unfold Cursor.next
    split <;> rename_i taken
    · split at taken <;> cases taken
      exact Nat.le_add_right _ _
    · exact Nat.le_refl _
  · intro cursor start stop
    rw [run_bytes]
    unfold Cursor.next
    split <;> rename_i taken
    · simp
    · split at taken <;> cases taken
      simp

@[simp] theorem Inside.value (α : Type) [BigEndian α] : Inside (value α) :=
  (Inside.bytes _).bind fun _ => .pure _

@[simp] theorem Inside.values (α : Type) [BigEndian α] (count : Nat) : Inside (values α count) :=
  (Inside.bytes _).bind fun _ => .pure _

@[simp] theorem Inside.skip (count : Nat) : Inside (skip count) :=
  (Inside.bytes _).bind fun _ => .pure _

@[simp] theorem Inside.rest : Inside rest := by
  constructor
  · intro cursor
    exact (Inside.bytes cursor.remaining).bytes_eq cursor
  · intro cursor
    exact (Inside.bytes cursor.remaining).position_le cursor
  · intro cursor
    exact (Inside.bytes cursor.remaining).inRange cursor

end Decoder

end ArmLink.Wire
