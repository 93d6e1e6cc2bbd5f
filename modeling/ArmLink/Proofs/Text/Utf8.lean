import ArmLink.Text.Utf8

/-!
Text survives being written and read.

The bytes of a character lead back to it, whatever stands behind them (`decodeChars_append`), so a
text is read from its bytes (`decode_encode`), and bytes that are the encoding of something are
written again as they were (`encode_decode`).
-/

namespace ArmLink.Text.Utf8

variable {byte : UInt8} {bytes rest : List UInt8} {count low high point : Nat}

/-! ### One character -/

theorem toNat_ofNat {n : Nat} (small : n < 256) : (UInt8.ofNat n).toNat = n :=
  UInt8.toNat_ofNat_of_lt' small

theorem complete_cons (inside : low ≤ byte.toNat ∧ byte.toNat ≤ high) :
    complete (count + 1) low high point (byte :: bytes) =
      complete count 0x80 0xBF (point * 64 + (byte.toNat - 0x80)) bytes := by
  rw [complete, if_pos inside]

theorem decodeChars_of_lead (lead : Lead) (above : ¬ byte.toNat < 0x80)
    (leads : Lead.ofByte? byte = some lead)
    (completed : complete lead.count lead.low lead.high lead.bits bytes = (some point, rest)) :
    decodeChars (byte :: bytes) = Char.ofNat point :: decodeChars rest := by
  rw [decodeChars, if_neg above]
  simp only [leads, completed]
  rfl

variable {first second third fourth : Nat}

/-- A byte that continues a character. -/
def Continues (n : Nat) : Prop := 0x80 ≤ n ∧ n ≤ 0xBF

theorem decodeChars_two (least : 0xC2 ≤ first) (most : first ≤ 0xDF) (next : Continues second)
    (number : (first - 0xC0) * 64 + (second - 0x80) = point) :
    decodeChars (UInt8.ofNat first :: UInt8.ofNat second :: rest) =
      Char.ofNat point :: decodeChars rest := by
  subst number
  unfold Continues at next
  apply decodeChars_of_lead ⟨1, 0x80, 0xBF, first - 0xC0⟩
  · rw [toNat_ofNat (by omega)]
    omega
  · simp only [Lead.ofByte?, toNat_ofNat (show first < 256 by omega)]
    rw [if_pos ⟨least, most⟩]
  · rw [complete_cons, complete, toNat_ofNat (by omega)]
    rw [toNat_ofNat (by omega)]
    exact next

/-- The second byte tells a character from overlong forms and surrogates. -/
theorem decodeChars_three (least : 0xE0 ≤ first) (most : first ≤ 0xEF) (next : Continues second)
    (last : Continues third) (long : first = 0xE0 → 0xA0 ≤ second)
    (noSurrogate : first = 0xED → second ≤ 0x9F)
    (number : ((first - 0xE0) * 64 + (second - 0x80)) * 64 + (third - 0x80) = point) :
    decodeChars (UInt8.ofNat first :: UInt8.ofNat second :: UInt8.ofNat third :: rest) =
      Char.ofNat point :: decodeChars rest := by
  subst number
  unfold Continues at next last
  have leads : ∃ low high, Lead.ofByte? (UInt8.ofNat first) = some ⟨2, low, high, first - 0xE0⟩ ∧
      low ≤ second ∧ second ≤ high := by
    simp only [Lead.ofByte?, toNat_ofNat (show first < 256 by omega)]
    rw [if_neg (by omega)]
    by_cases lowest : first = 0xE0
    · exact ⟨0xA0, 0xBF, if_pos lowest, long lowest, next.2⟩
    by_cases surrogate : first = 0xED
    · exact ⟨0x80, 0x9F, by rw [if_neg lowest, if_pos surrogate], next.1, noSurrogate surrogate⟩
    · refine ⟨0x80, 0xBF, ?_, next⟩
      rw [if_neg lowest, if_neg surrogate, if_pos (by omega)]
  obtain ⟨low, high, leads, inside⟩ := leads
  apply decodeChars_of_lead _ _ leads
  · rw [complete_cons, complete_cons, complete, toNat_ofNat (by omega), toNat_ofNat (by omega)]
    · rw [toNat_ofNat (by omega)]
      exact last
    · rw [toNat_ofNat (by omega)]
      exact inside
  · rw [toNat_ofNat (by omega)]
    omega

/-- The second byte tells a character from overlong forms and from what is too large. -/
theorem decodeChars_four (least : 0xF0 ≤ first) (most : first ≤ 0xF4) (next : Continues second)
    (later : Continues third) (last : Continues fourth) (long : first = 0xF0 → 0x90 ≤ second)
    (inRange : first = 0xF4 → second ≤ 0x8F)
    (number : (((first - 0xF0) * 64 + (second - 0x80)) * 64 + (third - 0x80)) * 64 +
      (fourth - 0x80) = point) :
    decodeChars (UInt8.ofNat first :: UInt8.ofNat second :: UInt8.ofNat third ::
        UInt8.ofNat fourth :: rest) =
      Char.ofNat point :: decodeChars rest := by
  subst number
  unfold Continues at next later last
  have leads : ∃ low high, Lead.ofByte? (UInt8.ofNat first) = some ⟨3, low, high, first - 0xF0⟩ ∧
      low ≤ second ∧ second ≤ high := by
    simp only [Lead.ofByte?, toNat_ofNat (show first < 256 by omega)]
    rw [if_neg (by omega), if_neg (by omega), if_neg (by omega), if_neg (by omega)]
    by_cases lowest : first = 0xF0
    · exact ⟨0x90, 0xBF, if_pos lowest, long lowest, next.2⟩
    by_cases highest : first = 0xF4
    · refine ⟨0x80, 0x8F, ?_, next.1, inRange highest⟩
      rw [if_neg lowest, if_neg (by omega), if_pos highest]
    · refine ⟨0x80, 0xBF, ?_, next⟩
      rw [if_neg lowest, if_pos (by omega)]
  obtain ⟨low, high, leads, inside⟩ := leads
  apply decodeChars_of_lead _ _ leads
  · rw [complete_cons, complete_cons, complete_cons, complete, toNat_ofNat (by omega),
      toNat_ofNat (by omega), toNat_ofNat (by omega)]
    · rw [toNat_ofNat (by omega)]
      exact last
    · rw [toNat_ofNat (by omega)]
      exact later
    · rw [toNat_ofNat (by omega)]
      exact inside
  · rw [toNat_ofNat (by omega)]
    omega

/-- The bytes of a character lead back to it. -/
theorem decodeChars_append (char : Char) (rest : List UInt8) :
    decodeChars (String.utf8EncodeChar char ++ rest) = char :: decodeChars rest := by
  have valid : char.val.toNat < 0xD800 ∨ 0xDFFF < char.val.toNat ∧ char.val.toNat < 0x110000 :=
    char.valid
  have whole : Char.ofNat char.val.toNat = char := Char.ofNat_toNat char
  unfold String.utf8EncodeChar
  generalize char.val.toNat = point at valid whole
  subst whole
  dsimp only
  split
  case isTrue one =>
    have byte := toNat_ofNat (show point < 256 by omega)
    rw [List.singleton_append, decodeChars, byte, if_pos (by omega)]
  case isFalse =>
  split
  case isTrue two =>
    have next : Continues (point % 64 + 128) := by unfold Continues; omega
    exact decodeChars_two (by omega) (by omega) next (by omega)
  case isFalse =>
  split
  case isTrue three =>
    have next : Continues (point / 64 % 64 + 128) := by unfold Continues; omega
    have last : Continues (point % 64 + 128) := by unfold Continues; omega
    exact decodeChars_three (by omega) (by omega) next last (by omega) (by omega) (by omega)
  case isFalse four =>
    have next : Continues (point / 4096 % 64 + 128) := by unfold Continues; omega
    have later : Continues (point / 64 % 64 + 128) := by unfold Continues; omega
    have last : Continues (point % 64 + 128) := by unfold Continues; omega
    exact decodeChars_four (by omega) (by omega) next later last (by omega) (by omega) (by omega)

/-! ### Texts -/

theorem encode_eq (text : String) : encode text = text.toList.flatMap String.utf8EncodeChar := by
  rw [encode, String.toUTF8, ← String.utf8Encode_toList, List.utf8Encode]
  simp

theorem decode_encode (text : String) : decode (encode text) = text := by
  have read (chars : List Char) : decodeChars (chars.flatMap String.utf8EncodeChar) = chars := by
    induction chars with
    | nil => simp [decodeChars]
    | cons char later ih => rw [List.flatMap_cons, decodeChars_append, ih]
  rw [decode, encode_eq, read, String.ofList_toList]

/-- Bytes that are the encoding of some text. -/
def IsValid (bytes : List UInt8) : Prop := bytes.toByteArray.IsValidUTF8

theorem isValid_iff : IsValid bytes ↔ ∃ text, bytes = encode text := by
  constructor
  · rintro ⟨chars, same⟩
    refine ⟨String.ofList chars, ?_⟩
    rw [encode_eq, String.toList_ofList]
    simpa [List.utf8Encode] using congrArg (·.data.toList) same
  · rintro ⟨text, rfl⟩
    refine ⟨text.toList, ?_⟩
    rw [encode_eq, List.utf8Encode]

theorem encode_decode (valid : IsValid bytes) : encode (decode bytes) = bytes := by
  obtain ⟨text, rfl⟩ := isValid_iff.mp valid
  rw [decode_encode]

/-- A text that ends with the zero character is written with a zero at its end. -/
theorem getLast?_encode {text : String} (ends : text.toList.getLast? = some '\x00') :
    (encode text).getLast? = some 0 := by
  obtain ⟨front, chars⟩ := List.getLast?_eq_some_iff.mp ends
  have zero : String.utf8EncodeChar '\x00' = [0] := rfl
  rw [encode_eq, chars, List.flatMap_append, List.flatMap_singleton, zero, List.getLast?_concat]

end ArmLink.Text.Utf8
