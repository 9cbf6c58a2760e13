import PageMarkup.Text.Utf8

/-! # Bytes and texts

Decoding gives a text exactly if the bytes are those of the text, so that bytes of no text are what
decoding finds fault with. -/

namespace PageMarkup.Text

/-! ## What the first byte tells -/

theorem lead?_one {byte : UInt8} (h : byte.toNat < 0x80) :
    lead? byte = some (0, 0x80, 0xBF, byte.toNat) := by
  simp only [lead?]
  rw [if_pos h]

theorem lead?_two {byte : UInt8} (h : 0xC2 ≤ byte.toNat) (h' : byte.toNat < 0xE0) :
    lead? byte = some (1, 0x80, 0xBF, byte.toNat - 0xC0) := by
  simp only [lead?]
  rw [if_neg (by omega), if_neg (by omega), if_pos h']

theorem lead?_three {byte : UInt8} (h : 0xE0 ≤ byte.toNat) (h' : byte.toNat < 0xF0) :
    lead? byte = some (2, if byte.toNat = 0xE0 then 0xA0 else 0x80,
      if byte.toNat = 0xED then 0x9F else 0xBF, byte.toNat - 0xE0) := by
  simp only [lead?]
  rw [if_neg (by omega), if_neg (by omega), if_neg (by omega), if_pos h']

theorem lead?_four {byte : UInt8} (h : 0xF0 ≤ byte.toNat) (h' : byte.toNat < 0xF5) :
    lead? byte = some (3, if byte.toNat = 0xF0 then 0x90 else 0x80,
      if byte.toNat = 0xF4 then 0x8F else 0xBF, byte.toNat - 0xF0) := by
  simp only [lead?]
  rw [if_neg (by omega), if_neg (by omega), if_neg (by omega), if_neg (by omega), if_pos h']

/-- The bytes of a character are read as its number. -/
theorem readsNumber_encode (c : Char) (rest : List UInt8) :
    ReadsNumber (String.utf8EncodeChar c ++ rest) c.toNat rest := by
  have valid : c.toNat.isValidChar := c.valid
  unfold Nat.isValidChar at valid
  have number : c.val.toNat = c.toNat := rfl
  simp only [String.utf8EncodeChar, number]
  generalize c.toNat = n at valid
  split
  · next one =>
      have first : (UInt8.ofNat n).toNat = n := toNat_ofNat (by omega)
      refine ⟨_, _, _, _, _, _, List.singleton_append, lead?_one (by omega), ?_⟩
      rw [first, readTails]
  split
  · next two =>
      have first := toNat_ofNat (n := n / 64 % 32 + 192) (by omega)
      have second := toNat_ofNat (n := n % 64 + 128) (by omega)
      refine ⟨_, _, _, _, _, _, List.cons_append, lead?_two (by omega) (by omega), ?_⟩
      refine readTails_succ_eq_ok_iff.mpr ⟨_, _, rfl, by omega, ?_⟩
      have value : (n / 64 % 32 + 192 - 192) * 64 + (n % 64 + 128 - 128) = n := by omega
      rw [readTails, first, second, value]
      rfl
  split
  · next three =>
      have first := toNat_ofNat (n := n / 4096 % 16 + 224) (by omega)
      have second := toNat_ofNat (n := n / 64 % 64 + 128) (by omega)
      have third := toNat_ofNat (n := n % 64 + 128) (by omega)
      refine ⟨_, _, _, _, _, _, List.cons_append, lead?_three (by omega) (by omega), ?_⟩
      refine readTails_succ_eq_ok_iff.mpr ⟨_, _, rfl, ?_, ?_⟩
      · rw [first, second]
        split <;> split <;> omega
      refine readTails_succ_eq_ok_iff.mpr ⟨_, _, rfl, by omega, ?_⟩
      have value : ((n / 4096 % 16 + 224 - 224) * 64 + (n / 64 % 64 + 128 - 128)) * 64 +
          (n % 64 + 128 - 128) = n := by omega
      rw [readTails, first, second, third, value]
      rfl
  · next four =>
      have first := toNat_ofNat (n := n / 262144 % 8 + 240) (by omega)
      have second := toNat_ofNat (n := n / 4096 % 64 + 128) (by omega)
      have third := toNat_ofNat (n := n / 64 % 64 + 128) (by omega)
      have fourth := toNat_ofNat (n := n % 64 + 128) (by omega)
      refine ⟨_, _, _, _, _, _, List.cons_append, lead?_four (by omega) (by omega), ?_⟩
      refine readTails_succ_eq_ok_iff.mpr ⟨_, _, rfl, ?_, ?_⟩
      · rw [first, second]
        split <;> split <;> omega
      refine readTails_succ_eq_ok_iff.mpr ⟨_, _, rfl, by omega, ?_⟩
      refine readTails_succ_eq_ok_iff.mpr ⟨_, _, rfl, by omega, ?_⟩
      have value : (((n / 262144 % 8 + 240 - 240) * 64 + (n / 4096 % 64 + 128 - 128)) * 64 +
          (n / 64 % 64 + 128 - 128)) * 64 + (n % 64 + 128 - 128) = n := by omega
      rw [readTails, first, second, third, fourth, value]
      rfl

/-! ## Whole texts -/

theorem decodeFrom_of_reads {bytes rest : List UInt8} {value : Nat} (position : Nat)
    (reads : ReadsNumber bytes value rest) :
    ∃ later, decodeFrom position bytes = (decodeFrom later rest).map (Char.ofNat value :: ·) := by
  obtain ⟨byte, tail, count, low, high, bits, rfl, lead, tails⟩ := reads
  refine ⟨position + count + 1, ?_⟩
  rw [decodeFrom]
  split
  · next none => rw [lead] at none; cases none
  next found =>
  rw [lead] at found
  cases found
  split
  · next failed => rw [tails] at failed; cases failed
  next read =>
  rw [tails] at read
  cases read
  rfl

theorem decodeFrom_encode (position : Nat) (text : Text) :
    decodeFrom position (encode text) = .ok text := by
  induction text generalizing position with
  | nil => rw [encode, List.flatMap_nil, decodeFrom]
  | cons c text ih =>
      have front : encode (c :: text) = String.utf8EncodeChar c ++ encode text :=
        List.flatMap_cons
      obtain ⟨later, decoded⟩ :=
        decodeFrom_of_reads position (readsNumber_encode c (encode text))
      rw [front, decoded, ih, Char.ofNat_toNat]
      rfl

theorem eq_encode_of_decodeFrom {position : Nat} {bytes : List UInt8} {text : Text}
    (h : decodeFrom position bytes = .ok text) : bytes = encode text := by
  fun_induction decodeFrom position bytes generalizing text with
  | case1 =>
      cases h
      rfl
  | case2 => cases h
  | case3 => cases h
  | case4 position byte bytes count low high bits lead value rest tails ih =>
      cases decoded : decodeFrom (position + count + 1) rest with
      | error fault => rw [decoded] at h; cases h
      | ok more =>
          rw [decoded] at h
          cases h
          obtain ⟨-, front⟩ := ReadsNumber.eq_encode
            ⟨byte, bytes, count, low, high, bits, rfl, lead, tails⟩
          rw [front, ih decoded]
          rfl

/-- A text is decoded from its own bytes and from no others. -/
theorem decode_eq_ok_iff {bytes : List UInt8} {text : Text} :
    decode bytes = .ok text ↔ bytes = encode text :=
  ⟨eq_encode_of_decodeFrom, fun same => same ▸ decodeFrom_encode 0 text⟩

/-- Different texts have different bytes. -/
theorem eq_of_encode {first second : Text} (same : encode first = encode second) :
    first = second :=
  Except.ok.inj ((decode_eq_ok_iff.mpr same).symm.trans (decode_eq_ok_iff.mpr rfl)) |>.symm

/-- Decoding finds fault exactly with the bytes of no text. -/
theorem exists_decode_error_iff {bytes : List UInt8} :
    (∃ fault, decode bytes = .error fault) ↔ ∀ text, encode text ≠ bytes := by
  constructor
  · rintro ⟨fault, failed⟩ text same
    rw [decode_eq_ok_iff.mpr same.symm] at failed
    cases failed
  · intro none
    cases decoded : decode bytes with
    | error fault => exact ⟨fault, rfl⟩
    | ok text => exact absurd (decode_eq_ok_iff.mp decoded).symm (none text)

end PageMarkup.Text
