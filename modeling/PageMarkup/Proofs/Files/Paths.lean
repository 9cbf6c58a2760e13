import Mathlib.Tactic.ByContra
import Mathlib.Tactic.Push
import PageMarkup.Files.Path

/-! # Paths

Which paths are none for the system: those with the character that ends all names, and those with
halves of surrogate pairs that stand for no bytes. -/

namespace PageMarkup

/-! ## Bytes of spellings -/

/-- The bytes of ASCII stand for their own characters alone. -/
theorem Sign.eq_char_of_mem {sign : Sign} {bytes : List UInt8} {byte : UInt8}
    (stands : sign.bytes? = some bytes) (mem : byte ∈ bytes) (low : byte.toNat < 0x80) :
    sign = .char (Char.ofNat byte.toNat) ∧ bytes = [byte] := by
  cases sign with
  | half code =>
      rw [bytes?] at stands
      split at stands
      · next between =>
          cases stands
          simp only [Bool.and_eq_true, decide_eq_true_eq] at between
          rw [List.mem_singleton.mp mem, UInt8.toNat_ofNat_of_lt' (by change _ < 256; omega)] at low
          omega
      · cases stands
  | char c =>
      cases stands
      have valid : c.val.toNat.isValidChar := c.valid
      unfold Nat.isValidChar at valid
      simp only [String.utf8EncodeChar] at mem ⊢
      split at mem
      · next one =>
          obtain rfl := List.mem_singleton.mp mem
          rw [if_pos one, Text.toNat_ofNat (by omega)]
          exact ⟨congrArg Sign.char (Char.ofNat_toNat c).symm, rfl⟩
      · exfalso
        split at mem
        · simp only [List.mem_cons, List.not_mem_nil, or_false] at mem
          rcases mem with rfl | rfl <;> rw [Text.toNat_ofNat (by omega)] at low <;> omega
        split at mem
        · simp only [List.mem_cons, List.not_mem_nil, or_false] at mem
          rcases mem with rfl | rfl | rfl <;> rw [Text.toNat_ofNat (by omega)] at low <;> omega
        · simp only [List.mem_cons, List.not_mem_nil, or_false] at mem
          rcases mem with rfl | rfl | rfl | rfl <;> rw [Text.toNat_ofNat (by omega)] at low <;>
            omega

theorem Sign.bytes?_ne_nil {sign : Sign} : sign.bytes? ≠ some [] := by
  cases sign with
  | char c => simp [bytes?, String.utf8EncodeChar_ne_nil]
  | half code =>
      rw [bytes?]
      split <;> simp

namespace Spelling

variable {spelling : Spelling} {bytes : List UInt8} {byte : UInt8}

theorem encode_ofText (text : Text) : encode (ofText text) = Text.encode text := by
  rw [encode, ofText, List.flatMap_map, Text.encode]
  rfl

theorem exists_bytes?_of_mem (whole : isEncodable spelling = true) {sign : Sign}
    (mem : sign ∈ spelling) : ∃ bytes, sign.bytes? = some bytes :=
  Option.isSome_iff_exists.mp (List.all_eq_true.mp whole sign mem)

theorem mem_of_mem_encode (whole : isEncodable spelling = true) (mem : byte ∈ encode spelling)
    (low : byte.toNat < 0x80) : .char (Char.ofNat byte.toNat) ∈ spelling := by
  obtain ⟨sign, there, held⟩ := List.mem_flatMap.mp mem
  obtain ⟨bytes, stands⟩ := exists_bytes?_of_mem whole there
  rw [stands, Option.getD_some] at held
  rwa [(Sign.eq_char_of_mem stands held low).1] at there

/-- Bytes of ASCII are spelt in one way. -/
theorem eq_of_encode (whole : isEncodable spelling = true) (same : encode spelling = bytes)
    (low : ∀ byte ∈ bytes, byte.toNat < 0x80) :
    spelling = bytes.map fun byte => .char (Char.ofNat byte.toNat) := by
  induction spelling generalizing bytes with
  | nil =>
      rw [← same]
      rfl
  | cons sign spelling ih =>
      obtain ⟨front, stands⟩ := exists_bytes?_of_mem whole List.mem_cons_self
      have later : isEncodable spelling = true := (Bool.and_eq_true _ _ ▸ whole).2
      obtain ⟨byte, more, rfl⟩ := List.exists_cons_of_ne_nil fun none : front = [] =>
        Sign.bytes?_ne_nil (none ▸ stands)
      rw [encode_cons, stands, Option.getD_some] at same
      have own : byte ∈ bytes := same ▸ List.mem_append_left _ List.mem_cons_self
      obtain ⟨spelt, alone⟩ := Sign.eq_char_of_mem stands List.mem_cons_self (low byte own)
      obtain rfl : more = [] := (List.cons.inj alone).2
      subst same
      rw [List.singleton_append, List.map_cons, ← spelt,
        ← ih later rfl fun byte mem => low byte (List.mem_append_right _ mem)]

/-- A word whose signs all stand for bytes spells a name, if it does not hold the character that
ends all names. -/
theorem proper_encode (word : Word.Proper spelling) (whole : isEncodable spelling = true)
    (zero : .char '\x00' ∉ spelling) : Name.Proper (encode spelling) := by
  obtain ⟨nonempty, ne_dot, ne_dots, slash⟩ := word
  refine ⟨fun same => ?_, fun same => ?_, fun same => ?_, fun mem => ?_, fun mem => ?_⟩
  · exact nonempty (eq_of_encode whole same (by simp))
  · exact ne_dot (eq_of_encode whole same (by simp))
  · exact ne_dots (eq_of_encode whole same (by simp))
  · exact zero (mem_of_mem_encode whole mem (by decide))
  · exact slash (mem_of_mem_encode whole mem (by decide))

end Spelling

/-! ## Words and parts -/

theorem Word.bytes_of_name? {word : Word} {name : Name} (spelt : word.name? = some name) :
    name.bytes = word.spelling.encode := by
  rw [Word.name?] at spelt
  split at spelt
  · split at spelt <;> cases spelt
    rfl
  · cases spelt

/-- A word spells no name exactly if it holds the character that ends all names, or a half that
stands for no byte. -/
theorem Word.name?_eq_none_iff {word : Word} : word.name? = none ↔
    .char '\x00' ∈ word.spelling ∨ ∃ sign ∈ word.spelling, sign.bytes? = none := by
  constructor
  · intro none
    by_contra spelt
    push Not at spelt
    have whole : word.spelling.isEncodable = true :=
      List.all_eq_true.mpr fun sign mem => Option.isSome_iff_ne_none.mpr (spelt.2 sign mem)
    rw [name?, dif_pos (Spelling.proper_encode word.proper whole spelt.1), if_pos whole] at none
    cases none
  · rintro (zero | ⟨sign, mem, none⟩)
    · refine dif_neg fun proper => proper.2.2.2.1 ?_
      exact Spelling.mem_encode zero rfl (by decide)
    · have broken : word.spelling.isEncodable = false :=
        List.all_eq_false.mpr ⟨sign, mem, by simp [none]⟩
      simp [name?, broken]

namespace Path

/-- A path is none for the system: a part of it holds the character that ends all names, or a half
that stands for no byte. -/
def IsNone (path : Path) : Prop :=
  ∃ part ∈ path.parts, .char '\x00' ∈ part.spelling ∨
    ∃ sign ∈ part.spelling, sign.bytes? = none

variable {path : Path} {flaw : Flaw}

theorem Part.step?_eq_none_iff {part : Part} : part.step? = none ↔
    .char '\x00' ∈ part.spelling ∨ ∃ sign ∈ part.spelling, sign.bytes? = none := by
  cases part with
  | up => decide
  | down word => rw [step?, Option.map_eq_none_iff, Word.name?_eq_none_iff, spelling]

theorem mapM_step?_eq_none_iff {parts : List Part} :
    parts.mapM Part.step? = none ↔ ∃ part ∈ parts, part.step? = none := by
  induction parts with
  | nil => simp
  | cons part parts ih =>
      cases first : part.step? with
      | none => simp [List.mapM_cons, first]
      | some step =>
          cases later : parts.mapM Part.step? with
          | none => simpa [List.mapM_cons, first, later] using ih.mp later
          | some steps => simpa [List.mapM_cons, first, later] using ih.not.mp (by simp [later])

theorem flaw?_eq_some_iff : path.flaw? = some flaw ↔ path.steps = .error flaw := by
  rw [flaw?]
  cases path.steps <;> simp

theorem flaw?_eq_none_iff : path.flaw? = none ↔ ∃ steps, path.steps = .ok steps := by
  rw [flaw?]
  cases path.steps <;> simp

/-- The paths that are none are those with which something is wrong. -/
theorem exists_flaw?_iff : (∃ flaw, path.flaw? = some flaw) ↔ path.IsNone := by
  simp only [IsNone, ← Part.step?_eq_none_iff, ← mapM_step?_eq_none_iff, flaw?_eq_some_iff, steps]
  split
  · next empty =>
      simp only [Bool.and_eq_true, List.isEmpty_iff] at empty
      simp [empty.2]
  · split <;> simp [*]

end Path

end PageMarkup
