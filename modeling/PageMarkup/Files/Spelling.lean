import PageMarkup.Text.Quoted
import PageMarkup.Text.Utf8

/-! Spellings: names as programs spell them. The system knows a name by bytes, which need not be
those of a text. What is no character among them is spelt with halves of surrogate pairs, one for
each byte; the other halves stand for no byte. -/

namespace PageMarkup

/-- What names are spelt with. -/
inductive Sign
  | char (c : Char)
  /-- The half of a surrogate pair with the number `0xD800 + code`. -/
  | half (code : Fin 0x800)
deriving DecidableEq

/-- A name, or names with slashes between them. -/
abbrev Spelling := List Sign

namespace Sign

/-- The half that stands for a byte. -/
def ofByte (byte : UInt8) : Sign :=
  .half ⟨byte.toNat + 0x400, by have := byte.toNat_lt; omega⟩

/-- The bytes that a sign stands for, if it stands for any. -/
def bytes? : Sign → Option (List UInt8)
  | .char c => some (String.utf8EncodeChar c)
  | .half code =>
    if 0x480 ≤ code.val && code.val < 0x500 then some [UInt8.ofNat (code.val - 0x400)] else none

/-- How a sign is shown. -/
def shown : Sign → Text
  | .char c => [c]
  | .half code => "\\u".toList ++ Text.hexDigits 4 (0xD800 + code.val)

theorem bytes?_ofByte {byte : UInt8} (high : 0x80 ≤ byte.toNat) :
    (ofByte byte).bytes? = some [byte] := by
  have := byte.toNat_lt
  rw [ofByte, bytes?, if_pos (by simp; omega), Nat.add_sub_cancel, UInt8.ofNat_toNat]

end Sign

namespace Spelling

/-- The spelling of a text. -/
def ofText (text : Text) : Spelling := text.map .char

/-- How a spelling is shown. -/
def shown (spelling : Spelling) : Text := spelling.flatMap Sign.shown

/-- A spelling between quotes. -/
def quoted (spelling : Spelling) : Text :=
  let quote := Text.quoteFor spelling.shown
  let written : Sign → Text
    | .char c => Text.quoteChar quote c
    | half => half.shown
  quote :: spelling.flatMap written ++ [quote]

/-- The bytes of a spelling. Signs that stand for none are left out. -/
def encode (spelling : Spelling) : List UInt8 := spelling.flatMap fun sign => sign.bytes?.getD []

/-- All signs stand for bytes. -/
def isEncodable (spelling : Spelling) : Bool := spelling.all fun sign => sign.bytes?.isSome

/-- Halves that stand for no bytes: where they begin and end, and the first of them. -/
structure EncodeFault where
  start : Nat
  stop : Nat
  first : Fin 0x800
deriving DecidableEq

/-- The wording of a fault: one half is shown, several are given by their positions. -/
def EncodeFault.message (fault : EncodeFault) : Text :=
  "'utf-8' codec can't encode character".toList ++
    (if fault.stop = fault.start + 1 then
      " '".toList ++ (Sign.half fault.first).shown ++ "' in position ".toList ++
        Text.ofNat fault.start
    else
      "s in position ".toList ++ Text.ofNat fault.start ++ '-' :: Text.ofNat (fault.stop - 1)) ++
    ": surrogates not allowed".toList

/-- The sign is a half. -/
def isHalf : Sign → Bool
  | .char _ => false
  | .half _ => true

/-- The first half that stands for no byte, with all halves after it. -/
def fault? (position : Nat) : Spelling → Option EncodeFault
  | [] => none
  | .char _ :: spelling => fault? (position + 1) spelling
  | .half code :: spelling =>
    if (Sign.half code).bytes?.isSome then fault? (position + 1) spelling
    else some ⟨position, position + 1 + (spelling.takeWhile isHalf).length, code⟩

/-- The spelling of bytes. -/
def decode : List UInt8 → Spelling
  | [] => []
  | byte :: bytes =>
    match _read : Text.readNumber? (byte :: bytes) with
    | some (value, rest) => .char (Char.ofNat value) :: decode rest
    | none => .ofByte byte :: decode bytes
termination_by bytes => bytes.length
decreasing_by
  · exact Text.length_of_readsNumber (Text.readsNumber_of_readNumber? _read)
  · exact Nat.lt_succ_self _

theorem encode_cons (sign : Sign) (spelling : Spelling) :
    encode (sign :: spelling) = sign.bytes?.getD [] ++ encode spelling := List.flatMap_cons

/-- All bytes can be spelt, and the spelling stands for no others. -/
theorem encode_decode (bytes : List UInt8) : encode (decode bytes) = bytes := by
  fun_induction decode bytes with
  | case1 => rfl
  | case2 byte bytes value rest read ih =>
      rw [encode_cons, ih, Sign.bytes?, Option.getD_some]
      exact (Text.readsNumber_of_readNumber? read).eq_encode.2.symm
  | case3 byte bytes failed ih =>
      rw [encode_cons, ih, Sign.bytes?_ofByte (Text.high_of_readNumber? failed)]
      rfl

theorem isEncodable_decode (bytes : List UInt8) : isEncodable (decode bytes) = true := by
  fun_induction decode bytes with
  | case1 => rfl
  | case2 byte bytes value rest read ih =>
      rw [isEncodable, List.all_cons, Bool.and_eq_true]
      exact ⟨rfl, ih⟩
  | case3 byte bytes failed ih =>
      rw [isEncodable, List.all_cons, Bool.and_eq_true,
        Sign.bytes?_ofByte (Text.high_of_readNumber? failed)]
      exact ⟨rfl, ih⟩

theorem mem_encode {sign : Sign} {spelling : Spelling} {bytes : List UInt8} {byte : UInt8}
    (mem : sign ∈ spelling) (stands : sign.bytes? = some bytes) (held : byte ∈ bytes) :
    byte ∈ encode spelling :=
  List.mem_flatMap.mpr ⟨sign, mem, by rwa [stands]⟩

end Spelling

end PageMarkup
