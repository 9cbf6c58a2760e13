import PageMarkup.Text.Basic

/-! UTF-8. Decoding stops at the first bytes that no text is encoded as, and says which bytes
those are: the longest stretch that could still have become a character, or a single byte. -/

namespace PageMarkup.Text

/-- The bytes of a text. -/
def encode (text : Text) : List UInt8 := text.flatMap String.utf8EncodeChar

/-- Why bytes are not the encoding of a text. -/
inductive DecodeReason
  /-- No character begins with this byte. -/
  | invalidStart
  /-- The byte after these cannot follow them. -/
  | invalidContinuation
  /-- The bytes end inside a character. -/
  | unexpectedEnd
deriving DecidableEq

/-- Bytes that encode nothing: where they begin, how many they are and the first of them. -/
structure DecodeFault where
  reason : DecodeReason
  position : Nat
  size : Nat
  first : UInt8
deriving DecidableEq

/-- The wording of a reason. -/
def DecodeReason.message : DecodeReason → Text
  | .invalidStart => "invalid start byte".toList
  | .invalidContinuation => "invalid continuation byte".toList
  | .unexpectedEnd => "unexpected end of data".toList

/-- The wording of a fault: one byte is named, several are given by their positions. -/
def DecodeFault.message (fault : DecodeFault) : Text :=
  "'utf-8' codec can't decode byte".toList ++
    (if fault.size = 1 then
      " 0x".toList ++
        [Nat.digitChar (fault.first.toNat / 16), Nat.digitChar (fault.first.toNat % 16)] ++
        " in position ".toList ++ ofNat fault.position
    else
      "s in position ".toList ++ ofNat fault.position ++ '-' ::
        ofNat (fault.position + fault.size - 1)) ++
    ": ".toList ++ fault.reason.message

/-- What the first byte of a character tells: how many bytes follow, between which bounds the
first of those lies, and the bits that it holds itself. -/
def lead? (byte : UInt8) : Option (Nat × Nat × Nat × Nat) :=
  let b := byte.toNat
  if b < 0x80 then some (0, 0x80, 0xBF, b)
  else if b < 0xC2 then none
  else if b < 0xE0 then some (1, 0x80, 0xBF, b - 0xC0)
  else if b < 0xF0 then
    some (2, if b = 0xE0 then 0xA0 else 0x80, if b = 0xED then 0x9F else 0xBF, b - 0xE0)
  else if b < 0xF5 then
    some (3, if b = 0xF0 then 0x90 else 0x80, if b = 0xF4 then 0x8F else 0xBF, b - 0xF0)
  else none

/-- Reads the bytes after the first one, each giving six bits. On failure it tells how many
could be read. -/
def readTails : (count low high bits : Nat) → List UInt8 →
    Except (DecodeReason × Nat) (Nat × List UInt8)
  | 0, _, _, bits, bytes => .ok (bits, bytes)
  | _ + 1, _, _, _, [] => .error (.unexpectedEnd, 0)
  | count + 1, low, high, bits, byte :: bytes =>
    if low ≤ byte.toNat && byte.toNat ≤ high then
      match readTails count 0x80 0xBF (bits * 64 + (byte.toNat - 0x80)) bytes with
      | .ok result => .ok result
      | .error (reason, read) => .error (reason, read + 1)
    else .error (.invalidContinuation, 0)

theorem length_readTails {count low high bits value : Nat} {bytes rest : List UInt8}
    (h : readTails count low high bits bytes = .ok (value, rest)) :
    bytes.length = count + rest.length := by
  induction count generalizing low high bits bytes with
  | zero =>
      cases h
      simp
  | succ count ih =>
      cases bytes with
      | nil => cases h
      | cons byte bytes =>
          simp only [readTails] at h
          split at h
          · split at h
            · next found =>
                cases h
                rw [List.length_cons, ih found]
                omega
            · cases h
          · cases h

/-- The text that bytes encode, the bytes standing at a position. -/
def decodeFrom (position : Nat) : List UInt8 → Except DecodeFault Text
  | [] => .ok []
  | byte :: bytes =>
    match lead? byte with
    | none => .error ⟨.invalidStart, position, 1, byte⟩
    | some (count, low, high, bits) =>
      match _tails : readTails count low high bits bytes with
      | .error (reason, read) => .error ⟨reason, position, read + 1, byte⟩
      | .ok (value, rest) => (decodeFrom (position + count + 1) rest).map (Char.ofNat value :: ·)
termination_by bytes => bytes.length
decreasing_by
  have := length_readTails _tails
  simp only [List.length_cons]
  omega

/-- The text that bytes encode. -/
def decode (bytes : List UInt8) : Except DecodeFault Text := decodeFrom 0 bytes

/-! ### The bytes of a number -/

/-- The bytes of the character with a number, by how many bits the number has. -/
theorem utf8EncodeChar_ofNat {n : Nat} (valid : n.isValidChar) :
    String.utf8EncodeChar (Char.ofNat n) =
      if n ≤ 0x7F then [UInt8.ofNat n]
      else if n ≤ 0x7FF then [UInt8.ofNat (n / 64 % 32 + 0xC0), UInt8.ofNat (n % 64 + 0x80)]
      else if n ≤ 0xFFFF then
        [UInt8.ofNat (n / 4096 % 16 + 0xE0), UInt8.ofNat (n / 64 % 64 + 0x80),
          UInt8.ofNat (n % 64 + 0x80)]
      else
        [UInt8.ofNat (n / 262144 % 8 + 0xF0), UInt8.ofNat (n / 4096 % 64 + 0x80),
          UInt8.ofNat (n / 64 % 64 + 0x80), UInt8.ofNat (n % 64 + 0x80)] := by
  have number : (Char.ofNat n).val.toNat = n := by
    rw [Char.ofNat, dif_pos valid]
    rfl
  rw [String.utf8EncodeChar]
  simp only [number]

theorem ofNat_eq {n : Nat} (byte : UInt8) (h : n = byte.toNat) : UInt8.ofNat n = byte := by
  rw [h, UInt8.ofNat_toNat]

theorem toNat_ofNat {n : Nat} (h : n < 256) : (UInt8.ofNat n).toNat = n :=
  UInt8.toNat_ofNat_of_lt' h

/-- A byte that may follow the first one of a character. -/
def Continues (byte : UInt8) : Prop := 0x80 ≤ byte.toNat ∧ byte.toNat ≤ 0xBF

theorem encode_one {byte : UInt8} (first : byte.toNat < 0x80) :
    byte.toNat.isValidChar ∧ [byte] = String.utf8EncodeChar (Char.ofNat byte.toNat) := by
  have valid : byte.toNat.isValidChar := .inl (by omega)
  refine ⟨valid, ?_⟩
  rw [utf8EncodeChar_ofNat valid, if_pos (by omega), UInt8.ofNat_toNat]

theorem encode_two {byte second : UInt8} (first : 0xC2 ≤ byte.toNat ∧ byte.toNat < 0xE0)
    (next : Continues second) {value : Nat}
    (same : value = (byte.toNat - 0xC0) * 64 + (second.toNat - 0x80)) :
    value.isValidChar ∧ [byte, second] = String.utf8EncodeChar (Char.ofNat value) := by
  unfold Continues at next
  have valid : value.isValidChar := .inl (by omega)
  refine ⟨valid, ?_⟩
  rw [utf8EncodeChar_ofNat valid, if_neg (by omega), if_pos (by omega),
    ofNat_eq byte (by omega), ofNat_eq second (by omega)]

/-- The bounds of the second byte leave out numbers that need fewer bytes, and the numbers of no
character. -/
theorem encode_three {byte second third : UInt8} (first : 0xE0 ≤ byte.toNat ∧ byte.toNat < 0xF0)
    (between : (if byte.toNat = 0xE0 then 0xA0 else 0x80) ≤ second.toNat ∧
      second.toNat ≤ if byte.toNat = 0xED then 0x9F else 0xBF)
    (last : Continues third) {value : Nat}
    (same : value = ((byte.toNat - 0xE0) * 64 + (second.toNat - 0x80)) * 64 +
      (third.toNat - 0x80)) :
    value.isValidChar ∧ [byte, second, third] = String.utf8EncodeChar (Char.ofNat value) := by
  unfold Continues at last
  have next : 0x80 ≤ second.toNat ∧ second.toNat ≤ 0xBF := by
    split at between <;> split at between <;> omega
  have large : 0x800 ≤ value := by
    split at between <;> omega
  have valid : value.isValidChar := by
    unfold Nat.isValidChar
    split at between <;> split at between <;> omega
  refine ⟨valid, ?_⟩
  rw [utf8EncodeChar_ofNat valid, if_neg (by omega), if_neg (by omega), if_pos (by omega),
    ofNat_eq byte (by omega), ofNat_eq second (by omega), ofNat_eq third (by omega)]

theorem encode_four {byte second third fourth : UInt8}
    (first : 0xF0 ≤ byte.toNat ∧ byte.toNat < 0xF5)
    (between : (if byte.toNat = 0xF0 then 0x90 else 0x80) ≤ second.toNat ∧
      second.toNat ≤ if byte.toNat = 0xF4 then 0x8F else 0xBF)
    (later : Continues third) (last : Continues fourth) {value : Nat}
    (same : value = (((byte.toNat - 0xF0) * 64 + (second.toNat - 0x80)) * 64 +
      (third.toNat - 0x80)) * 64 + (fourth.toNat - 0x80)) :
    value.isValidChar ∧
      [byte, second, third, fourth] = String.utf8EncodeChar (Char.ofNat value) := by
  unfold Continues at later last
  have next : 0x80 ≤ second.toNat ∧ second.toNat ≤ 0xBF := by
    split at between <;> split at between <;> omega
  have bounds : 0x10000 ≤ value ∧ value < 0x110000 := by
    split at between <;> split at between <;> omega
  have valid : value.isValidChar := .inr (by omega)
  refine ⟨valid, ?_⟩
  rw [utf8EncodeChar_ofNat valid, if_neg (by omega), if_neg (by omega), if_neg (by omega),
    ofNat_eq byte (by omega), ofNat_eq second (by omega), ofNat_eq third (by omega),
    ofNat_eq fourth (by omega)]

/-! ### Reading a number -/

theorem readTails_succ_eq_ok_iff {count low high bits : Nat} {bytes : List UInt8}
    {result : Nat × List UInt8} :
    readTails (count + 1) low high bits bytes = .ok result ↔
      ∃ byte tail, bytes = byte :: tail ∧ (low ≤ byte.toNat ∧ byte.toNat ≤ high) ∧
        readTails count 0x80 0xBF (bits * 64 + (byte.toNat - 0x80)) tail = .ok result := by
  cases bytes with
  | nil => simp [readTails]
  | cons byte tail =>
      simp only [readTails, List.cons.injEq, Bool.and_eq_true, decide_eq_true_eq]
      constructor
      · intro h
        split at h
        · next between =>
            refine ⟨byte, tail, ⟨rfl, rfl⟩, between, ?_⟩
            split at h
            · next read => rw [read, h]
            · cases h
        · cases h
      · rintro ⟨_, _, ⟨rfl, rfl⟩, between, read⟩
        rw [if_pos between, read]

/-- The first of some bytes and those that belong to it give a number, and leave the rest. -/
def ReadsNumber (bytes : List UInt8) (value : Nat) (rest : List UInt8) : Prop :=
  ∃ byte tail count low high bits, bytes = byte :: tail ∧
    lead? byte = some (count, low, high, bits) ∧
    readTails count low high bits tail = .ok (value, rest)

/-- What is read are the bytes of a character, in their only form. -/
theorem ReadsNumber.eq_encode {bytes rest : List UInt8} {value : Nat}
    (reads : ReadsNumber bytes value rest) :
    value.isValidChar ∧ bytes = String.utf8EncodeChar (Char.ofNat value) ++ rest := by
  obtain ⟨byte, tail, count, low, high, bits, rfl, lead, tails⟩ := reads
  simp only [lead?] at lead
  split at lead
  · next one =>
      cases lead
      cases tails
      obtain ⟨valid, same⟩ := encode_one one
      exact ⟨valid, by rw [← same, List.singleton_append]⟩
  split at lead
  · cases lead
  split at lead
  · next two =>
      simp only [Option.some.injEq, Prod.mk.injEq] at lead
      obtain ⟨rfl, rfl, rfl, rfl⟩ := lead
      obtain ⟨second, _, rfl, between, tails⟩ := readTails_succ_eq_ok_iff.mp tails
      simp only [readTails, Except.ok.injEq, Prod.mk.injEq] at tails
      obtain ⟨number, rfl⟩ := tails
      obtain ⟨valid, same⟩ := encode_two ⟨by omega, two⟩ between number.symm
      exact ⟨valid, by rw [← same]; rfl⟩
  split at lead
  · next three =>
      simp only [Option.some.injEq, Prod.mk.injEq] at lead
      obtain ⟨rfl, rfl, rfl, rfl⟩ := lead
      obtain ⟨second, _, rfl, between, tails⟩ := readTails_succ_eq_ok_iff.mp tails
      obtain ⟨third, _, rfl, last, tails⟩ := readTails_succ_eq_ok_iff.mp tails
      simp only [readTails, Except.ok.injEq, Prod.mk.injEq] at tails
      obtain ⟨number, rfl⟩ := tails
      obtain ⟨valid, same⟩ := encode_three ⟨by omega, three⟩ between last number.symm
      exact ⟨valid, by rw [← same]; rfl⟩
  split at lead
  · next four =>
      simp only [Option.some.injEq, Prod.mk.injEq] at lead
      obtain ⟨rfl, rfl, rfl, rfl⟩ := lead
      obtain ⟨second, _, rfl, between, tails⟩ := readTails_succ_eq_ok_iff.mp tails
      obtain ⟨third, _, rfl, later, tails⟩ := readTails_succ_eq_ok_iff.mp tails
      obtain ⟨fourth, _, rfl, last, tails⟩ := readTails_succ_eq_ok_iff.mp tails
      simp only [readTails, Except.ok.injEq, Prod.mk.injEq] at tails
      obtain ⟨number, rfl⟩ := tails
      obtain ⟨valid, same⟩ := encode_four ⟨by omega, four⟩ between later last number.symm
      exact ⟨valid, by rw [← same]; rfl⟩
  · cases lead

/-- The number that bytes begin with, and what follows it. -/
def readNumber? : List UInt8 → Option (Nat × List UInt8)
  | [] => none
  | byte :: bytes =>
    match lead? byte with
    | none => none
    | some (count, low, high, bits) => (readTails count low high bits bytes).toOption

theorem readsNumber_of_readNumber? {bytes rest : List UInt8} {value : Nat}
    (read : readNumber? bytes = some (value, rest)) : ReadsNumber bytes value rest := by
  cases bytes with
  | nil => cases read
  | cons byte bytes =>
      rw [readNumber?] at read
      cases lead : lead? byte with
      | none =>
          rw [lead] at read
          cases read
      | some bounds =>
          obtain ⟨count, low, high, bits⟩ := bounds
          simp only [lead] at read
          cases tails : readTails count low high bits bytes with
          | error =>
              rw [tails] at read
              cases read
          | ok result =>
              rw [tails] at read
              cases read
              exact ⟨byte, bytes, count, low, high, bits, rfl, lead, tails⟩

theorem length_of_readsNumber {bytes rest : List UInt8} {value : Nat}
    (reads : ReadsNumber bytes value rest) : rest.length < bytes.length := by
  obtain ⟨byte, tail, count, low, high, bits, rfl, -, tails⟩ := reads
  rw [List.length_cons, length_readTails tails]
  omega

/-- A byte with which no number begins is none of ASCII. -/
theorem high_of_readNumber? {byte : UInt8} {bytes : List UInt8}
    (failed : readNumber? (byte :: bytes) = none) : 0x80 ≤ byte.toNat := by
  refine Nat.le_of_not_lt fun low => ?_
  have lead : lead? byte = some (0, 0x80, 0xBF, byte.toNat) := by
    simp only [lead?]
    rw [if_pos (by omega)]
  rw [readNumber?, lead] at failed
  cases failed

end PageMarkup.Text
